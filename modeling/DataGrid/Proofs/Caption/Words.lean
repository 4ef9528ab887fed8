import DataGrid.Caption
import DataGrid.Proofs.Text.CaseMapping
import DataGrid.Proofs.Text.Pieces
import Mathlib.Data.List.DropRight

/-!
# Captions word by word

A heading is put into lower case as a whole, and lower case looks at the text around a capital sigma. But
no sigma looks past a blank, so a caption is what one expects: each word of the heading by itself in
lower case and with its first character in upper case, and between the words what stands between them in
the heading, with blanks for the underscores.

* **`words`**, **`gaps`**: the longest pieces of a text without separators, and with separators only.
* **`Spells`**: a text that starts and ends with a word, taken apart into its words and the gaps between
  them. What they are is determined by the text (`Spells.words_eq`, `Spells.gaps_eq`), and each text is
  such a text with separators around it, or has separators only (`exists_spells`).
* `Spells.lower_spaced`, `Spells.capitalized`: how the two passes over a heading act on its words.
* **`display_wordByWord`**: the caption of a heading.
-/

namespace DataGrid.Caption

open Text

/-! ## Words and gaps -/

/-- Whether a character stands between words. -/
def separates (c : Char) : Bool := isBlank c || c == '_'

/-- The longest pieces of a text that have characters of a class only. -/
def runsOf (p : Char → Bool) (s : List Char) : List (List Char) :=
  (s.splitOnP fun c => !p c).filter fun run => !run.isEmpty

/-- The words of a text. -/
def words (s : List Char) : List (List Char) := runsOf (fun c => !separates c) s

/-- What stands between the words of a text, or around them. -/
def gaps (s : List Char) : List (List Char) := runsOf separates s

/-- A text without the separators around it. -/
def stripped (s : List Char) : List Char := (s.dropWhile separates).rdropWhile separates

/-- What stands between the words of a text. -/
def innerGaps (s : List Char) : List (List Char) := gaps (stripped s)

/-- The text of some words with gaps between them. -/
def weave : List (List Char) → List (List Char) → List Char
  | w :: ws, g :: gs => w ++ g ++ weave ws gs
  | ws, _ => ws.flatten

/-- A word with its first character in upper case. -/
def withCapital : List Char → List Char
  | [] => []
  | c :: s => upperChar c ++ s

/-- A word as it is shown: in lower case by itself, but for its first character. -/
def titled (w : List Char) : List Char := withCapital (lower w)

section runs

variable {p : Char → Bool} {s u : List Char}

/-- The empty text has no runs. -/
theorem runsOf_nil (p : Char → Bool) : runsOf p [] = [] := rfl

/-- A text is cut into runs at any character outside of the class. -/
theorem runsOf_append_cons {c : Char} (outside : p c = false) (s u : List Char) :
    runsOf p (s ++ c :: u) = runsOf p s ++ runsOf p u := by
  rw [runsOf, List.splitOnP_append_cons s u (by simp [outside]), List.filter_append]
  rfl

/-- A character outside of the class in front of a text adds no run. -/
theorem runsOf_cons {c : Char} (outside : p c = false) (u : List Char) :
    runsOf p (c :: u) = runsOf p u :=
  runsOf_append_cons outside [] u

/-- A text with characters of the class only is one run. -/
theorem runsOf_of_forall (nonempty : s ≠ []) (inside : ∀ c ∈ s, p c = true) : runsOf p s = [s] := by
  rw [runsOf, List.splitOnP_eq_singleton fun c hc => by simp [inside c hc]]
  simp [nonempty]

/-- What is outside of the class in front of a text belongs to no run. -/
theorem runsOf_outside_append (outside : ∀ c ∈ s, p c = false) (u : List Char) :
    runsOf p (s ++ u) = runsOf p u := by
  induction s with
  | nil => rfl
  | cons c s ih =>
    rw [List.forall_mem_cons] at outside
    rw [List.cons_append, runsOf_cons outside.1, ih outside.2]

/-- A text with no character of the class has no runs. -/
theorem runsOf_of_outside (outside : ∀ c ∈ s, p c = false) : runsOf p s = [] := by
  rw [← List.append_nil s, runsOf_outside_append outside, runsOf_nil]

/-- What is outside of the class at the end of a text belongs to no run. -/
theorem runsOf_append_outside (outside : ∀ c ∈ u, p c = false) (s : List Char) :
    runsOf p (s ++ u) = runsOf p s := by
  cases u with
  | nil => rw [List.append_nil]
  | cons c u =>
    rw [List.forall_mem_cons] at outside
    rw [runsOf_append_cons outside.1, runsOf_of_outside outside.2, List.append_nil]

/-- A run ends where a text goes on with a character outside of the class. -/
theorem runsOf_append (nonempty : s ≠ []) (inside : ∀ c ∈ s, p c = true)
    (stop : ∀ c ∈ u.head?, p c = false) : runsOf p (s ++ u) = s :: runsOf p u := by
  cases u with
  | nil => rw [List.append_nil, runsOf_of_forall nonempty inside, runsOf_nil]
  | cons c u =>
    have outside := stop c rfl
    rw [runsOf_append_cons outside, runsOf_of_forall nonempty inside, runsOf_cons outside,
      List.singleton_append]

/-- A text that starts with characters of a kind has a first character of this kind. -/
theorem forall_mem_head?_append {P : Char → Prop} (nonempty : s ≠ []) (all : ∀ c ∈ s, P c)
    (u : List Char) : ∀ c ∈ (s ++ u).head?, P c := by
  obtain ⟨c, s, rfl⟩ := List.exists_cons_of_ne_nil nonempty
  intro d hd
  obtain rfl := Option.some.inj hd
  exact all c List.mem_cons_self

end runs

/-! ## Texts of words and gaps -/

/-- Whether a text is one word. -/
structure IsWord (s : List Char) : Prop where
  nonempty : s ≠ []
  inside : ∀ c ∈ s, separates c = false

/-- Whether a text is one gap. -/
structure IsGap (s : List Char) : Prop where
  nonempty : s ≠ []
  inside : ∀ c ∈ s, separates c = true

/-- Whether a text starts with the first of some words, and goes on with gaps and the other words in
turn. -/
inductive Spells : List (List Char) → List (List Char) → List Char → Prop
  | word {w : List Char} (word : IsWord w) : Spells [w] [] w
  | cons {w g s : List Char} {ws gs : List (List Char)} (word : IsWord w) (gap : IsGap g)
      (rest : Spells ws gs s) : Spells (w :: ws) (g :: gs) (w ++ g ++ s)

namespace Spells

variable {ws gs : List (List Char)} {s : List Char} {c : Char}

/-- A text of words is not empty. -/
theorem ne_nil (h : Spells ws gs s) : s ≠ [] := by
  cases h with
  | word word => exact word.nonempty
  | cons word gap rest => simp [word.nonempty]

/-- A text of words starts with a letter, whatever is put after it. -/
theorem head? (h : Spells ws gs s) (u : List Char) : ∀ c ∈ (s ++ u).head?, separates c = false := by
  cases h with
  | word word => exact forall_mem_head?_append word.nonempty word.inside u
  | cons word gap rest =>
    rw [List.append_assoc, List.append_assoc]
    exact forall_mem_head?_append word.nonempty word.inside _

/-- A text of words ends with a letter. -/
theorem getLast? (h : Spells ws gs s) : ∀ c ∈ s.getLast?, separates c = false := by
  induction h with
  | word word => exact fun c hc => word.inside c (List.mem_of_getLast? hc)
  | cons word gap rest ih => rwa [List.getLast?_append_of_ne_nil _ rest.ne_nil]

/-- What is listed as gaps are gaps. -/
theorem isGap_of_mem (h : Spells ws gs s) : ∀ g ∈ gs, IsGap g := by
  induction h with
  | word => simp
  | cons word gap rest ih => exact List.forall_mem_cons.mpr ⟨gap, ih⟩

/-- The words that make up a text are the words found in it. -/
theorem words_eq (h : Spells ws gs s) : words s = ws := by
  induction h with
  | word word => exact runsOf_of_forall word.nonempty fun c hc => by rw [word.inside c hc]; rfl
  | @cons w g s ws gs word gap rest ih =>
    have letters : ∀ c ∈ w, (!separates c) = true := fun c hc => by rw [word.inside c hc]; rfl
    have skipped : ∀ c ∈ g, (!separates c) = false := fun c hc => by rw [gap.inside c hc]; rfl
    have stop := forall_mem_head?_append gap.nonempty skipped s
    rw [words, List.append_assoc, runsOf_append word.nonempty letters stop,
      runsOf_outside_append skipped]
    exact congrArg (w :: ·) ih

/-- The gaps that a text is made up with are the gaps found in it. -/
theorem gaps_eq (h : Spells ws gs s) : gaps s = gs := by
  induction h with
  | word word => exact runsOf_of_outside word.inside
  | @cons w g s ws gs word gap rest ih =>
    have stop : ∀ c ∈ s.head?, separates c = false := by
      have head := rest.head? []
      rwa [List.append_nil] at head
    rw [gaps, List.append_assoc, runsOf_outside_append word.inside,
      runsOf_append gap.nonempty gap.inside stop]
    exact congrArg (g :: ·) ih

/-- The words and gaps that make up a text are woven into it again. -/
theorem weave_eq (h : Spells ws gs s) : weave ws gs = s := by
  induction h with
  | word word => exact List.append_nil _
  | cons word gap rest ih => rw [weave, ih]

/-- A text of words has no blanks around it. -/
theorem trimmed (h : Spells ws gs s) : Trimmed s := by
  have notBlank {c : Char} (out : separates c = false) : isBlank c = false :=
    (Bool.or_eq_false_iff.mp out).1
  have head := h.head? []
  rw [List.append_nil] at head
  exact ⟨fun c hc => notBlank (head c hc), fun c hc => notBlank (h.getLast? c hc)⟩

/-- Another letter in front goes to the first word. -/
theorem exists_grow (h : Spells ws gs s) (letter : separates c = false) :
    ∃ vs, Spells vs gs (c :: s) := by
  have grow {w : List Char} (word : IsWord w) : IsWord (c :: w) :=
    ⟨List.cons_ne_nil c w, List.forall_mem_cons.mpr ⟨letter, word.inside⟩⟩
  cases h with
  | word word => exact ⟨_, .word (grow word)⟩
  | cons word gap rest => exact ⟨_, .cons (grow word) gap rest⟩

end Spells

/-- A text has separators only, or it is made up of words and gaps with separators around it. -/
theorem exists_spells (raw : List Char) :
    (∀ c ∈ raw, separates c = true) ∨
      ∃ lead s trail ws gs, raw = lead ++ s ++ trail ∧ (∀ c ∈ lead, separates c = true) ∧
        (∀ c ∈ trail, separates c = true) ∧ Spells ws gs s := by
  -- one more character in front: a separator goes to the others there, a letter to the first word, or it
  -- is a word by itself where separators follow
  induction raw with
  | nil => exact .inl (by simp)
  | cons c raw ih =>
    cases kind : separates c with
    | true =>
      rcases ih with separators | ⟨lead, s, trail, ws, gs, rfl, before, after, spells⟩
      · exact .inl (List.forall_mem_cons.mpr ⟨kind, separators⟩)
      · have before' : ∀ d ∈ c :: lead, separates d = true := List.forall_mem_cons.mpr ⟨kind, before⟩
        exact .inr ⟨c :: lead, s, trail, ws, gs, rfl, before', after, spells⟩
    | false =>
      have letter : IsWord [c] := ⟨List.cons_ne_nil c [], by simpa using kind⟩
      rcases ih with separators | ⟨lead, s, trail, ws, gs, rfl, before, after, spells⟩
      · exact .inr ⟨[], [c], raw, _, _, rfl, by simp, separators, .word letter⟩
      · cases lead with
        | nil =>
          obtain ⟨vs, grown⟩ := spells.exists_grow kind
          exact .inr ⟨[], c :: s, trail, vs, gs, rfl, by simp, after, grown⟩
        | cons b lead =>
          have more := Spells.cons letter ⟨List.cons_ne_nil b lead, before⟩ spells
          exact .inr ⟨[], _, trail, _, _, rfl, by simp, after, more⟩

section surrounded

variable {lead s trail : List Char} {ws gs : List (List Char)}

/-- Separators alone have no words. -/
theorem words_of_separators (separators : ∀ c ∈ s, separates c = true) : words s = [] :=
  runsOf_of_outside fun c hc => by rw [separators c hc]; rfl

/-- Of separators alone nothing is left. -/
theorem stripped_of_separators (separators : ∀ c ∈ s, separates c = true) : stripped s = [] := by
  rw [stripped, List.dropWhile_eq_nil_iff.mpr separators]
  rfl

/-- Separators around a text of words add no words. -/
theorem Spells.words_surrounded (h : Spells ws gs s) (before : ∀ c ∈ lead, separates c = true)
    (after : ∀ c ∈ trail, separates c = true) : words (lead ++ s ++ trail) = ws := by
  have outside {t : List Char} (separators : ∀ c ∈ t, separates c = true) :
      ∀ c ∈ t, (!separates c) = false := fun c hc => by rw [separators c hc]; rfl
  rw [words, runsOf_append_outside (outside after), runsOf_outside_append (outside before)]
  exact h.words_eq

/-- Separators around a text of words are taken away, and nothing else is. -/
theorem Spells.stripped_surrounded (h : Spells ws gs s) (before : ∀ c ∈ lead, separates c = true)
    (after : ∀ c ∈ trail, separates c = true) : stripped (lead ++ s ++ trail) = s := by
  have back : ∀ c ∈ s.reverse.head?, separates c = false := by
    rw [List.head?_reverse]
    exact h.getLast?
  have after' : ∀ c ∈ trail.reverse, separates c = true := fun c hc => after c (List.mem_reverse.mp hc)
  rw [stripped, List.append_assoc, dropWhile_word before (h.head? trail), List.rdropWhile,
    List.reverse_append, dropWhile_word after' back, List.reverse_reverse]

end surrounded

/-! ## Spaces for underscores -/

/-- Spaces are put for underscores piece by piece. -/
theorem spaced_append (s u : List Char) : spaced (s ++ u) = spaced s ++ spaced u := List.map_append

/-- Putting spaces for underscores makes no text empty. -/
theorem spaced_eq_nil_iff {s : List Char} : spaced s = [] ↔ s = [] := List.map_eq_nil_iff

/-- Blanks stand between words. -/
theorem separates_of_isBlank {c : Char} (blank : isBlank c = true) : separates c = true := by
  rw [separates, blank, Bool.true_or]

/-- A text without underscores stays as it is. -/
theorem spaced_eq_self {s : List Char} (plain : '_' ∉ s) : spaced s = s :=
  (List.map_congr_left fun _ hc => if_neg (ne_of_mem_of_not_mem hc plain)).trans (List.map_id s)

/-- A word has no underscore in it. -/
theorem IsWord.spaced_eq {w : List Char} (h : IsWord w) : spaced w = w :=
  spaced_eq_self fun underscore => absurd (h.inside '_' underscore) (by decide)

/-- With spaces for underscores, separators are blanks. -/
theorem isBlank_of_mem_spaced {g : List Char} (separators : ∀ c ∈ g, separates c = true) :
    ∀ b ∈ spaced g, isBlank b = true := by
  intro b hb
  obtain ⟨c, hc, rfl⟩ := List.mem_map.mp hb
  have separator := separators c hc
  split
  · decide
  · rename_i letter
    rw [separates, beq_false_of_ne letter, Bool.or_false] at separator
    exact separator

/-- Blanks are no underscores and stay as they are. -/
theorem spaced_of_isBlank {g : List Char} (blanks : ∀ b ∈ g, isBlank b = true) : spaced g = g :=
  spaced_eq_self fun underscore => absurd (blanks '_' underscore) (by decide)

/-- A gap remains a gap with spaces for its underscores. -/
theorem IsGap.spaced {g : List Char} (h : IsGap g) : IsGap (spaced g) where
  nonempty := fun none => h.nonempty (spaced_eq_nil_iff.mp none)
  inside := fun b hb => separates_of_isBlank (isBlank_of_mem_spaced h.inside b hb)

/-! ## Lower case -/

/-- The separators are a class of code points. -/
theorem separates_eq_inRanges (c : Char) : separates c = inRanges separatorRanges c.toNat := by
  have underscore : (c == '_') = (decide (0x5F ≤ c.toNat) && decide (c.toNat ≤ 0x5F)) := by
    rw [Bool.eq_iff_iff, beq_iff_eq, ← Char.toNat_inj, Bool.and_eq_true, decide_eq_true_eq,
      decide_eq_true_eq, Nat.le_antisymm_iff, and_comm]
    rfl
  rw [separates, underscore, Bool.or_comm]
  rfl

section letters

variable {c d : Char}

/-- The lower-case form of a letter has no separator in it. -/
theorem separates_of_mem_lowerChar (letter : separates c = false) (h : d ∈ lowerChar c) :
    separates d = false := by
  rw [separates_eq_inRanges] at letter ⊢
  exact not_inRanges_of_mem_mapped leavesAlone_lower letter h

/-- The upper-case form of a letter has no separator in it. -/
theorem separates_of_mem_upperChar (letter : separates c = false) (h : d ∈ upperChar c) :
    separates d = false := by
  rw [separates_eq_inRanges] at letter ⊢
  exact not_inRanges_of_mem_mapped leavesAlone_upper letter h

/-- Neither lower-case form of a capital sigma is a separator. -/
theorem separates_lowerSigma (before after : List Char) : separates (lowerSigma before after) = false := by
  rw [lowerSigma]
  split <;> decide

/-- No separator comes into a text of letters when it is put into lower case. -/
theorem separates_of_mem_lowerAfter {before s : List Char} (letters : ∀ c ∈ s, separates c = false)
    (h : d ∈ lowerAfter before s) : separates d = false := by
  induction s generalizing before with
  | nil => cases h
  | cons c s ih =>
    rw [List.forall_mem_cons] at letters
    rw [lowerAfter] at h
    rcases List.mem_append.mp h with here | later
    · split at here
      · rw [List.mem_singleton.mp here, separates_lowerSigma]
      · exact separates_of_mem_lowerChar letters.1 here
    · exact ih letters.2 later

end letters

/-- A word in lower case is a word. -/
theorem IsWord.lower {w : List Char} (h : IsWord w) : IsWord (lower w) where
  nonempty := fun none => h.nonempty (lowerAfter_eq_nil_iff.mp none)
  inside := fun _ => separates_of_mem_lowerAfter h.inside

/-- A text of words is put into lower case word by word. -/
theorem Spells.lower_spaced {ws gs : List (List Char)} {s : List Char} (h : Spells ws gs s) :
    Spells (ws.map lower) (gs.map spaced) (lower (spaced s)) := by
  induction h with
  | word word =>
    rw [word.spaced_eq]
    exact .word word.lower
  | @cons w g s ws gs word gap rest ih =>
    have blanks := isBlank_of_mem_spaced gap.inside
    rw [spaced_append, spaced_append, word.spaced_eq, lower_append_gap gap.spaced.nonempty blanks]
    exact .cons word.lower gap.spaced ih

/-! ## Capitals -/

section capitals

variable {b : Bool} {w g u : List Char}

/-- Inside a word no letter gets a capital. -/
theorem capitalized_false_append (letters : ∀ c ∈ w, isBlank c = false) (u : List Char) :
    capitalized false (w ++ u) = w ++ capitalized false u := by
  induction w with
  | nil => rfl
  | cons c w ih =>
    rw [List.forall_mem_cons] at letters
    rw [List.cons_append, capitalized, letters.1, ih letters.2]
    rfl

/-- After a gap a word starts, and the gap stays as it is. -/
theorem capitalized_gap_append (nonempty : g ≠ []) (blanks : ∀ c ∈ g, isBlank c = true)
    (startsWord : Bool) (u : List Char) : capitalized startsWord (g ++ u) = g ++ capitalized true u := by
  induction g generalizing startsWord with
  | nil => exact absurd rfl nonempty
  | cons c g ih =>
    rw [List.forall_mem_cons] at blanks
    rw [List.cons_append, capitalized, if_pos blanks.1]
    cases g with
    | nil => rfl
    | cons d g =>
      rw [ih (List.cons_ne_nil d g) blanks.2]
      rfl

/-- Letters are not blank. -/
theorem isBlank_of_not_separates {c : Char} (letter : separates c = false) : isBlank c = false :=
  (Bool.or_eq_false_iff.mp letter).1

/-- Where a word starts it gets its capital, and what follows is inside of it. -/
theorem IsWord.capitalized_append (h : IsWord w) (u : List Char) :
    capitalized true (w ++ u) = withCapital w ++ capitalized false u := by
  obtain ⟨c, w, rfl⟩ := List.exists_cons_of_ne_nil h.nonempty
  obtain ⟨first, others⟩ := List.forall_mem_cons.mp h.inside
  rw [List.cons_append, capitalized, isBlank_of_not_separates first,
    capitalized_false_append fun c hc => isBlank_of_not_separates (others c hc), withCapital,
    List.append_assoc]
  rfl

/-- A word with a capital is a word. -/
theorem IsWord.withCapital (h : IsWord w) : IsWord (withCapital w) := by
  obtain ⟨c, w, rfl⟩ := List.exists_cons_of_ne_nil h.nonempty
  obtain ⟨first, others⟩ := List.forall_mem_cons.mp h.inside
  refine ⟨fun none => upperChar_ne_nil c (List.append_eq_nil_iff.mp none).1, fun d hd => ?_⟩
  rcases List.mem_append.mp hd with capital | later
  · exact separates_of_mem_upperChar first capital
  · exact others d later

end capitals

/-- Each word gets a capital. -/
theorem Spells.capitalized {ws gs : List (List Char)} {s : List Char} (h : Spells ws gs s)
    (blanks : ∀ g ∈ gs, ∀ b ∈ g, isBlank b = true) :
    Spells (ws.map withCapital) gs (capitalized true s) := by
  induction h with
  | @word w word =>
    have only := word.capitalized_append []
    rw [List.append_nil, Caption.capitalized, List.append_nil] at only
    rw [only]
    exact .word word.withCapital
  | @cons w g s ws gs word gap rest ih =>
    rw [List.forall_mem_cons] at blanks
    rw [List.append_assoc, word.capitalized_append, capitalized_gap_append gap.nonempty blanks.1,
      ← List.append_assoc]
    exact .cons word.withCapital gap (ih blanks.2)

/-! ## Headings -/

section headings

variable {lead s trail : List Char} {ws gs : List (List Char)}

/-- Blanks around a text stay as they are when it is put into lower case, and change nothing in it. -/
theorem lower_surrounded (before : ∀ b ∈ lead, isBlank b = true) (after : ∀ b ∈ trail, isBlank b = true)
    (s : List Char) : lower (lead ++ s ++ trail) = lead ++ lower s ++ trail := by
  have behind (u : List Char) : lower (u ++ trail) = lower u ++ trail := by
    cases trail with
    | nil => rw [List.append_nil, List.append_nil]
    | cons b trail =>
      have gap := lower_append_gap (List.cons_ne_nil b trail) after u []
      rwa [List.append_nil, show lower [] = [] from rfl, List.append_nil] at gap
  rw [behind]
  cases lead with
  | nil => rfl
  | cons b lead =>
    exact congrArg (· ++ trail) (lower_append_gap (List.cons_ne_nil b lead) before [] s)

/-- **The caption of a heading has its words, each with a capital, and its gaps, with spaces for the
underscores.** -/
theorem Spells.inWords (h : Spells ws gs s) (before : ∀ c ∈ lead, separates c = true)
    (after : ∀ c ∈ trail, separates c = true) :
    Spells (ws.map titled) (gs.map spaced) (inWords (lead ++ s ++ trail)) := by
  have small := h.lower_spaced
  have blanks : ∀ g ∈ gs.map Caption.spaced, ∀ b ∈ g, isBlank b = true := by
    intro _ hg
    obtain ⟨g, mem, rfl⟩ := List.mem_map.mp hg
    exact isBlank_of_mem_spaced (h.isGap_of_mem g mem).inside
  have capitals := small.capitalized blanks
  rw [List.map_map] at capitals
  have trimmed : trim (lower (Caption.spaced (lead ++ s ++ trail))) = lower (Caption.spaced s) := by
    rw [spaced_append, spaced_append,
      lower_surrounded (isBlank_of_mem_spaced before) (isBlank_of_mem_spaced after),
      small.trimmed.trim_surrounded small.ne_nil (isBlank_of_mem_spaced before)
        (isBlank_of_mem_spaced after)]
  rw [Caption.inWords, trimmed]
  exact capitals

/-- A heading of separators alone has an empty caption. -/
theorem inWords_of_separators (separators : ∀ c ∈ s, separates c = true) : inWords s = [] := by
  have blanks := isBlank_of_mem_spaced separators
  have same : lower (spaced s) = spaced s := by
    have around : lower (spaced s ++ [] ++ []) = spaced s ++ lower [] ++ [] :=
      lower_surrounded blanks (by simp) []
    simpa [show lower [] = [] from rfl] using around
  rw [inWords, same, (trim_eq_nil_iff _).mpr blanks]
  rfl

end headings

/-- The characters of a caption are those of the heading in words. -/
theorem toList_display (raw : String) : (display raw).toList = inWords raw.toList := String.toList_ofList

/-- **A caption is formatted word by word.** It has as many words as the heading, each of them that of the
heading in lower case by itself, but for the upper-case form of its first character. Between them it has
what stands between the words of the heading, with spaces for the underscores, and nothing around
them. -/
theorem display_wordByWord (raw : String) :
    let shown := (display raw).toList
    words shown = (words raw.toList).map titled ∧
      gaps shown = (innerGaps raw.toList).map spaced ∧
        shown = weave (words shown) (gaps shown) ∧ Trimmed shown := by
  intro shown
  rw [show shown = inWords raw.toList from toList_display raw]
  rcases exists_spells raw.toList with separators | ⟨lead, s, trail, ws, gs, split, before, after, h⟩
  · rw [inWords_of_separators separators, words_of_separators separators, innerGaps,
      stripped_of_separators separators]
    exact ⟨rfl, rfl, rfl, trim_spec []⟩
  · have spells := h.inWords before after
    rw [split, spells.words_eq, spells.gaps_eq, h.words_surrounded before after, innerGaps,
      h.stripped_surrounded before after, h.gaps_eq]
    exact ⟨rfl, rfl, spells.weave_eq.symm, spells.trimmed⟩

/-- Capital sigmas at the end of a word, also before an apostrophe and an underscore, and in front of
one. -/
example : display "_ΟΔΟΣ'_ΣΑΣ  FIRST\u2003name_" = "Οδος' Σας  First\u2003Name" := by decide +kernel

end DataGrid.Caption

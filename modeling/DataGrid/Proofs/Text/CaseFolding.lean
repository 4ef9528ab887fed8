import DataGrid.Proofs.Text.CaseRuns

/-!
# Lower case and case folding

Texts are compared in lower case, and patterns are compared with texts character by character, up to case
folding. The two hardly differ: almost every character has a lower-case form of one character that folds
as the character itself does, and a capital sigma has two of them that do.

* **`unfoldedRanges`**: the exceptions, which are the 29 letters whose lower-case form does not fold as
  they do. One is the capital I with a dot, whose lower-case form has two characters. To the others
  the lower-case form was given in a later version of Unicode than the folding follows. (Capitals
  that folding leaves as they are, and to which it maps their small letters, are no exceptions.)
* `exists_lowerChar`, `eq_of_foldChar_eq`: what the tables say of the other characters, and of these.
* **`SamePlaces`**: whether two texts have the exceptional letters at the same places.
* **`prefix_map_foldChar_iff`**: of two texts that are the same in lower case, one starts with the other up
  to folding exactly if they have. They are then the same up to folding.
-/

namespace DataGrid.Text

/-! ## Exceptional letters -/

/-- The letters whose lower-case form does not fold as they do. -/
def unfoldedRanges : List (Nat × Nat) :=
  [(0x130, 0x130), (0xA7CE, 0xA7CE), (0xA7D2, 0xA7D2), (0xA7D4, 0xA7D4), (0x16EA0, 0x16EB8)]

/-- Whether a letter is one of those whose lower-case form does not fold as it does. -/
def isUnfolded (c : Char) : Bool := inRanges unfoldedRanges c.toNat

/-! ## Runs -/

/-- Folding maps the code points by the runs of its table. -/
theorem foldChar_eq (c : Char) : foldChar c = Char.ofNat (image foldRanges c.toNat) := by
  rw [foldChar, image]
  cases foldRanges.findSome? (·.map? c.toNat) with
  | none => exact (Char.ofNat_toNat c).symm
  | some m => rfl

namespace CaseRange

variable {r : CaseRange} {n m : Nat}

/-- Whether folding maps a run as the run does, and leaves its images as they are. -/
def foldsAlong (r : CaseRange) : Bool :=
  (near foldRanges r.first r.last).head?.any (·.includes r) &&
    (near foldRanges r.target r.lastTarget).all r.misses

/-- Whether the images of a run are characters and fold as the characters do that they are images of,
the exceptional letters apart. -/
def foldsAlike (r : CaseRange) : Bool :=
  -- few runs are left to be gone through code point by code point
  r.hasCharacters &&
    (r.foldsAlong || (List.range (r.last - r.first + 1)).all fun k =>
      k % r.stride != 0 || inRanges unfoldedRanges (r.first + k) ||
        image (near foldRanges r.target r.lastTarget) (r.target + k) ==
          image (near foldRanges r.first r.last) (r.first + k))

/-- The check of a run says of each character that the run maps what it is meant to say: the image is a
character, and the two fold alike unless the letter is an exception. -/
theorem foldsAlike_spec (alike : r.foldsAlike = true) (mapped : r.map? n = some m)
    (folds : inRanges unfoldedRanges n = false) :
    m.isValidChar ∧ image foldRanges m = image foldRanges n := by
  obtain ⟨characters, alike⟩ := Bool.and_eq_true_iff.mp alike
  refine ⟨isValidChar_of_hasCharacters characters mapped, ?_⟩
  rcases Bool.or_eq_true_iff.mp alike with along | alike
  · obtain ⟨follows, leaves⟩ := Bool.and_eq_true_iff.mp along
    rw [image_eq_self_of_misses leaves mapped, image_eq_of_includes follows mapped]
  · have bounds := target_bounds mapped
    obtain ⟨⟨first, last, step⟩, rfl⟩ := map?_eq_some_iff.mp mapped
    have within : n - r.first ≤ r.last - r.first := Nat.sub_le_sub_right last _
    have here := List.all_eq_true.mp alike (n - r.first)
      (List.mem_range.mpr (Nat.lt_succ_of_le within))
    rw [Nat.add_sub_cancel' first, step, folds, image_near first last,
      image_near bounds.1 bounds.2] at here
    simpa using here

end CaseRange

/-! ## Characters -/

/-- A code point that is one of a character is the code point of this character. -/
theorem toNat_ofNat_of_isValidChar {n : Nat} (valid : n.isValidChar) : (Char.ofNat n).toNat = n := by
  rw [Char.ofNat, dif_pos valid]
  rfl

/-- All runs into lower case pass the check. -/
theorem foldsAlike_lowerRanges : lowerRanges.all CaseRange.foldsAlike = true := by
  decide +kernel

/-- The runs into lower case map to characters. -/
theorem isValidChar_of_lowerRanges {r : CaseRange} (listed : r ∈ lowerRanges) {n m : Nat}
    (mapped : r.map? n = some m) : m.isValidChar :=
  have alike := List.all_eq_true.mp foldsAlike_lowerRanges r listed
  CaseRange.isValidChar_of_hasCharacters (Bool.and_eq_true_iff.mp alike).1 mapped

/-- A character has a lower-case form of one character that folds as it does, with the exceptions. -/
theorem exists_lowerChar {c : Char} (folds : isUnfolded c = false) :
    ∃ d, lowerChar c = [d] ∧ foldChar d = foldChar c := by
  have plain : lowerExpansions.lookup c.toNat = none := by
    have ne : (c.toNat == 0x130) = false := by
      rw [beq_eq_false_iff_ne]
      intro dotted
      rw [isUnfolded, dotted] at folds
      exact absurd folds (by decide)
    rw [lowerExpansions, List.lookup_cons, ne]
    rfl
  rw [lowerChar, mapped, plain]
  cases found : lowerRanges.findSome? (·.map? c.toNat) with
  | none => exact ⟨c, rfl, rfl⟩
  | some m =>
    obtain ⟨r, listed, mapped⟩ := List.exists_of_findSome?_eq_some found
    obtain ⟨valid, alike⟩ :=
      CaseRange.foldsAlike_spec (List.all_eq_true.mp foldsAlike_lowerRanges r listed) mapped folds
    refine ⟨Char.ofNat m, rfl, ?_⟩
    rw [foldChar_eq, foldChar_eq, toNat_ofNat_of_isValidChar valid, alike]

/-- Folding stays out of the exceptional letters. -/
theorem spares_foldRanges : spares foldRanges unfoldedRanges = true := by
  decide

/-- The exceptional letters are neither folded nor what other characters are folded to. -/
theorem not_unfolded_of_map? {r : CaseRange} (listed : r ∈ foldRanges) {n m : Nat}
    (mapped : r.map? n = some m) :
    inRanges unfoldedRanges n = false ∧ inRanges unfoldedRanges m = false :=
  not_inRanges_of_map? spares_foldRanges listed mapped

/-- The number of an exceptional letter is its code point. (A number that is none would stand for code
point zero.) -/
theorem toNat_ofNat_of_isUnfolded {m : Nat} (unfolded : isUnfolded (Char.ofNat m) = true) :
    (Char.ofNat m).toNat = m := by
  by_cases valid : m.isValidChar
  · exact toNat_ofNat_of_isValidChar valid
  · rw [Char.ofNat, dif_neg valid] at unfolded
    exact absurd unfolded (by decide)

/-- Nothing else folds as an exceptional letter does. -/
theorem eq_of_foldChar_eq {c d : Char} (unfolded : isUnfolded c = true)
    (same : foldChar d = foldChar c) : d = c := by
  have fixed : foldChar c = c := by
    rw [foldChar]
    cases found : foldRanges.findSome? (·.map? c.toNat) with
    | none => rfl
    | some m =>
      obtain ⟨r, listed, mapped⟩ := List.exists_of_findSome?_eq_some found
      rw [isUnfolded, (not_unfolded_of_map? listed mapped).1] at unfolded
      cases unfolded
  rw [fixed, foldChar] at same
  cases found : foldRanges.findSome? (·.map? d.toNat) with
  | none =>
    rw [found] at same
    exact same
  | some m =>
    rw [found] at same
    obtain ⟨r, listed, mapped⟩ := List.exists_of_findSome?_eq_some found
    subst same
    have listed' := unfolded
    rw [isUnfolded, Option.elim_some, toNat_ofNat_of_isUnfolded unfolded,
      (not_unfolded_of_map? listed mapped).2] at listed'
    cases listed'

/-! ## Texts -/

/-- A capital sigma has one of two lower-case forms, and both fold as it does. -/
theorem foldChar_lowerSigma (before after : List Char) :
    foldChar (lowerSigma before after) = foldChar 'Σ' := by
  have final : foldChar 'ς' = foldChar 'Σ' := by decide
  have inner : foldChar 'σ' = foldChar 'Σ' := by decide
  rw [lowerSigma]
  split
  · exact final
  · exact inner

section texts

variable {before before' s u : List Char} {c : Char}

/-- A text in lower case goes on after the form of a character that is no exception. -/
theorem exists_lowerAfter_cons (before s : List Char) (folds : isUnfolded c = false) :
    ∃ d, lowerAfter before (c :: s) = d :: lowerAfter (c :: before) s ∧ foldChar d = foldChar c := by
  rw [lowerAfter]
  split
  · rename_i sigma
    exact ⟨lowerSigma before s, rfl, sigma ▸ foldChar_lowerSigma before s⟩
  · obtain ⟨d, form, alike⟩ := exists_lowerChar folds
    rw [form]
    exact ⟨d, rfl, alike⟩

/-- The form of an exceptional letter does not depend on what is around it. -/
theorem lowerAfter_cons_of_isUnfolded (unfolded : isUnfolded c = true) :
    lowerAfter before (c :: s) = lowerChar c ++ lowerAfter (c :: before) s := by
  rw [lowerAfter, if_neg]
  rintro rfl
  exact absurd unfolded (by decide)

/-- In lower case each character takes up as much as it does by itself, a capital sigma too. -/
theorem length_lowerAfter_cons :
    (lowerAfter before (c :: s)).length = (lowerChar c).length + (lowerAfter (c :: before) s).length := by
  cases unfolded : isUnfolded c with
  | true => rw [lowerAfter_cons_of_isUnfolded unfolded, List.length_append]
  | false =>
    obtain ⟨d, hd, -⟩ := exists_lowerAfter_cons before s unfolded
    obtain ⟨d', hd', -⟩ := exists_lowerChar unfolded
    rw [hd, hd', List.length_cons, List.length_singleton, Nat.add_comm]

/-- No character disappears in lower case. -/
theorem lowerChar_ne_nil (c : Char) : lowerChar c ≠ [] := by
  rw [lowerChar, mapped, lowerExpansions, List.lookup_cons]
  cases c.toNat == 0x130 with
  | true => exact List.cons_ne_nil _ _
  | false => exact List.cons_ne_nil _ _

/-- No text disappears in lower case. -/
theorem lowerAfter_eq_nil_iff : lowerAfter before s = [] ↔ s = [] := by
  cases s with
  | nil => exact iff_of_true rfl rfl
  | cons c s =>
    rw [← List.length_eq_zero_iff, length_lowerAfter_cons, Nat.add_eq_zero_iff, List.length_eq_zero_iff]
    exact iff_of_false (fun h => lowerChar_ne_nil c h.1) (List.cons_ne_nil c s)

/-- Whether two texts have the exceptional letters at the same places. -/
def SamePlaces (s u : List Char) : Prop :=
  ∀ c, isUnfolded c = true → ∀ i : Nat, s[i]? = some c ↔ u[i]? = some c

/-- Texts that are the same up to folding have the exceptional letters at the same places. -/
theorem SamePlaces.of_map_foldChar_eq (same : s.map foldChar = u.map foldChar) : SamePlaces s u := by
  have places {s u : List Char} (same : s.map foldChar = u.map foldChar) {c : Char}
      (unfolded : isUnfolded c = true) {i : Nat} (here : s[i]? = some c) : u[i]? = some c := by
    have there : (u.map foldChar)[i]? = some (foldChar c) := by
      rw [← same, List.getElem?_map, here, Option.map_some]
    rw [List.getElem?_map, Option.map_eq_some_iff] at there
    obtain ⟨d, found, alike⟩ := there
    rw [found, eq_of_foldChar_eq unfolded alike]
  exact fun c unfolded i => ⟨places same unfolded, places same.symm unfolded⟩

/-- Texts that are the same in lower case are the same up to folding, if the exceptional letters stand at
the same places. -/
theorem map_foldChar_eq (same : lowerAfter before s = lowerAfter before' u) (places : SamePlaces s u) :
    s.map foldChar = u.map foldChar := by
  -- an exceptional letter starts both texts or none; the texts before the ends that are compared may
  -- differ, as they do where a final sigma stands for a capital one
  induction s generalizing before before' u with
  | nil => rw [lowerAfter_eq_nil_iff.mp same.symm]
  | cons a s ih =>
    cases u with
    | nil => exact absurd (lowerAfter_eq_nil_iff.mp same) (List.cons_ne_nil a s)
    | cons b u =>
      have rest : SamePlaces s u := fun c unfolded i => places c unfolded (i + 1)
      cases ha : isUnfolded a with
      | true =>
        obtain rfl : b = a := Option.some.inj ((places a ha 0).mp rfl)
        rw [lowerAfter_cons_of_isUnfolded ha, lowerAfter_cons_of_isUnfolded ha,
          List.append_cancel_left_eq] at same
        rw [List.map_cons, List.map_cons, ih same rest]
      | false =>
        cases hb : isUnfolded b with
        | true =>
          obtain rfl : a = b := Option.some.inj ((places b hb 0).mpr rfl)
          rw [ha] at hb
          cases hb
        | false =>
          obtain ⟨d, hd, foldsA⟩ := exists_lowerAfter_cons before s ha
          obtain ⟨d', hd', foldsB⟩ := exists_lowerAfter_cons before' u hb
          rw [hd, hd', List.cons.injEq] at same
          obtain ⟨rfl, same⟩ := same
          rw [List.map_cons, List.map_cons, ih same rest, ← foldsA, foldsB]

/-- Characters that fold alike take up as much in lower case. -/
theorem length_lowerChar_eq {a b : Char} (same : foldChar a = foldChar b) :
    (lowerChar a).length = (lowerChar b).length := by
  cases ha : isUnfolded a with
  | true => rw [eq_of_foldChar_eq ha same.symm]
  | false =>
    cases hb : isUnfolded b with
    | true => rw [eq_of_foldChar_eq hb same]
    | false =>
      obtain ⟨d, hd, -⟩ := exists_lowerChar ha
      obtain ⟨d', hd', -⟩ := exists_lowerChar hb
      rw [hd, hd']
      rfl

/-- A text that starts with another one up to folding, and takes up as much in lower case, is the same
as the other one up to folding. -/
theorem map_foldChar_eq_of_starts (starts : u.map foldChar <+: s.map foldChar)
    (length : (lowerAfter before s).length = (lowerAfter before' u).length) :
    s.map foldChar = u.map foldChar := by
  induction u generalizing before before' s with
  | nil => rw [lowerAfter_eq_nil_iff.mp (List.eq_nil_of_length_eq_zero length)]
  | cons b u ih =>
    cases s with
    | nil => exact absurd starts (by simp)
    | cons a s =>
      rw [List.map_cons, List.map_cons, List.cons_prefix_cons] at starts
      obtain ⟨alike, starts⟩ := starts
      rw [length_lowerAfter_cons, length_lowerAfter_cons, length_lowerChar_eq alike,
        Nat.add_left_cancel_iff] at length
      rw [List.map_cons, List.map_cons, ih starts length, alike]

/-- **Of two texts that are the same in lower case, one starts with the other up to folding exactly if
they have the exceptional letters at the same places.** -/
theorem prefix_map_foldChar_iff (same : lower s = lower u) :
    u.map foldChar <+: s.map foldChar ↔ SamePlaces s u := by
  constructor
  · intro starts
    exact .of_map_foldChar_eq (map_foldChar_eq_of_starts starts (congrArg List.length same))
  · intro places
    exact map_foldChar_eq same places ▸ List.prefix_rfl

end texts

end DataGrid.Text

import DataGrid.Proofs.Caption.Words

/-!
# A caption of a caption

A caption is no heading: formatted again it may change. Its words start with capitals, and most of them
become the same words again, whether or not the small letter in between is the one of the heading. But
some small letters become more than one capital, as the German sharp s does, and in lower case again the
later ones are small letters.

* **`doubledRanges`**: the letters that have several capitals in this sense.
* `titled_cons`: a word that starts with a capital keeps it, and the rest of it is put into lower case.
* **`titled_titled_iff`**: a word stays as it is shown unless it starts with one of these letters, and
  `titled_titled_titled`: it stays as it is shown the second time.
* **`display_display_iff`**: the same for the captions of headings.
-/

namespace DataGrid.Caption

open Text

/-! ## Letters with several capitals -/

/-- The letters that in lower case have an upper-case form that goes on, after its first letter, with one
that is not in lower case: the sharp s, small and capital, the n after an apostrophe, the Greek vowels with
a subscript iota, and the Armenian and Latin ligatures. -/
def doubledRanges : List (Nat × Nat) :=
  [(0xDF, 0xDF), (0x149, 0x149), (0x587, 0x587), (0x1E9E, 0x1E9E), (0x1F80, 0x1FAF), (0x1FB2, 0x1FB4),
   (0x1FB7, 0x1FB7), (0x1FBC, 0x1FBC), (0x1FC2, 0x1FC4), (0x1FC7, 0x1FC7), (0x1FCC, 0x1FCC),
   (0x1FF2, 0x1FF4), (0x1FF7, 0x1FF7), (0x1FFC, 0x1FFC), (0xFB00, 0xFB06), (0xFB13, 0xFB17)]

/-- Whether a letter has several capitals. -/
def isDoubled (c : Char) : Bool := inRanges doubledRanges c.toNat

/-- Whether a word starts with a letter that has several capitals. -/
def startsDoubled (w : List Char) : Bool := w.head?.any isDoubled

/-- Each run into lower case stays out of the listed letters or within them. -/
theorem spares_or_isWithin_doubledRanges :
    (lowerRanges.all fun r => spares [r] doubledRanges || r.isWithin doubledRanges) = true := by
  decide

/-- A letter and the one it becomes in lower case have several capitals both or neither. -/
theorem isDoubled_of_lowerChar {c d : Char} {s : List Char} (form : lowerChar c = d :: s) :
    isDoubled d = isDoubled c := by
  rw [lowerChar] at form
  rcases mapped_cases lowerRanges lowerExpansions c with
    ⟨e, listed, code, image⟩ | ⟨r, listed, m, mapped, image⟩ | same
  · obtain rfl := List.mem_singleton.mp listed
    obtain ⟨rfl, -⟩ := List.cons.inj (image.symm.trans form)
    rw [isDoubled, isDoubled, ← code]
    decide
  · obtain ⟨rfl, -⟩ := List.cons.inj (image.symm.trans form)
    have either := List.all_eq_true.mp spares_or_isWithin_doubledRanges r listed
    rw [isDoubled, isDoubled, toNat_ofNat_of_isValidChar (isValidChar_of_lowerRanges listed mapped)]
    rcases Bool.or_eq_true_iff.mp either with spared | inside
    · obtain ⟨source, target⟩ := not_inRanges_of_map? spared List.mem_cons_self mapped
      rw [source, target]
    · obtain ⟨source, target⟩ := inRanges_of_isWithin inside mapped
      rw [source, target]
  · obtain ⟨rfl, -⟩ := List.cons.inj (same.symm.trans form)
    rfl

/-- An expansion goes on with letters that are not in lower case exactly for the listed letters. -/
theorem doubled_upperExpansions :
    (upperExpansions.all fun e =>
      let others := (e.2.map Char.ofNat).tail
      inRanges doubledRanges e.1 == !(others.flatMap lowerChar == others)) = true := by
  decide +kernel

/-- Each of the listed letters has an expansion, but for the capital sharp s. -/
theorem expanded_doubledRanges :
    (doubledRanges.all fun u => (List.range (u.2 - u.1 + 1)).all fun k =>
      (upperExpansions.lookup (u.1 + k)).isSome || u.1 + k == 0x1E9E) = true := by
  decide

/-- A small letter without an expansion is not listed. -/
theorem isDoubled_eq_false_of_lookup {c : Char} (small : lowerChar c = [c])
    (plain : upperExpansions.lookup c.toNat = none) : isDoubled c = false := by
  rw [isDoubled, ← Bool.not_eq_true, inRanges_eq_true_iff]
  rintro ⟨u, hu, low, high⟩
  have listed := List.all_eq_true.mp (List.all_eq_true.mp expanded_doubledRanges u hu) (c.toNat - u.1)
    (List.mem_range.mpr (by omega))
  rw [Nat.add_sub_cancel' low, plain, Option.isSome_none, Bool.false_or, beq_iff_eq] at listed
  obtain rfl : c = 'ẞ' := Char.toNat_inj.mp listed
  exact absurd small (by decide)

/-- Past its first character, the upper-case form of a small letter is in lower case unless the letter is
one of the listed. -/
theorem flatMap_lowerChar_eq_self_iff {c C : Char} {s : List Char} (small : lowerChar c = [c])
    (form : upperChar c = C :: s) : s.flatMap lowerChar = s ↔ isDoubled c = false := by
  cases expanded : upperExpansions.lookup c.toNat with
  | none =>
    rw [upperChar, mapped_of_lookup_eq_none expanded] at form
    obtain ⟨-, rfl⟩ := List.cons.inj form
    exact iff_of_true rfl (isDoubled_eq_false_of_lookup small expanded)
  | some image =>
    obtain ⟨front, back, split, -⟩ := List.lookup_eq_some_iff.mp expanded
    have exact := List.all_eq_true.mp doubled_upperExpansions (c.toNat, image) (by simp [split])
    have others : (image.map Char.ofNat).tail = s := by
      rw [upperChar, mapped, expanded] at form
      exact congrArg List.tail form
    rw [others] at exact
    rw [isDoubled, eq_of_beq exact, Bool.not_eq_false', beq_iff_eq]

/-! ## Words -/

section words

variable {C : Char} {s w : List Char}

/-- A word that starts with a capital keeps it. -/
theorem titled_cons (returns : Returns C) (noSigma : 'Σ' ∉ s) :
    titled (C :: s) = C :: s.flatMap lowerChar := by
  obtain ⟨d, small, capital⟩ := returns
  rw [titled, lower_cons, small, lowerAfter_eq_flatMap noSigma, List.singleton_append, withCapital, capital,
    List.singleton_append]

/-- A word is shown with a capital at its start. What follows is in lower case unless the word starts with
a letter that has several capitals. -/
theorem exists_titled (nonempty : w ≠ []) :
    ∃ C s, titled w = C :: s ∧ Returns C ∧ 'Σ' ∉ s ∧
      (s.flatMap lowerChar = s ↔ startsDoubled w = false) := by
  obtain ⟨a, t, rfl⟩ := List.exists_cons_of_ne_nil nonempty
  obtain ⟨c, m, start⟩ := List.exists_cons_of_ne_nil (lowerChar_ne_nil a)
  have whole : lower (a :: t) = c :: (m ++ lowerAfter [a] t) := by rw [lower_cons, start, List.cons_append]
  generalize m ++ lowerAfter [a] t = rest at whole
  have small : ∀ d ∈ c :: rest, lowerChar d = [d] := by
    rw [← whole]
    exact fun _ => lowerChar_of_mem_lowerAfter
  obtain ⟨first, others⟩ := List.forall_mem_cons.mp small
  obtain ⟨C, s, capital, returns, noSigma⟩ := exists_upperChar first
  -- the rest of the word is in lower case already: only what upper case puts after the capital may not be
  refine ⟨C, s ++ rest, ?_, returns, ?_, ?_⟩
  · rw [titled, whole, withCapital, capital, List.cons_append]
  · rw [List.mem_append, not_or]
    exact ⟨noSigma, fun sigma => ne_sigma_of_lowerChar (others _ sigma) rfl⟩
  · rw [List.flatMap_append, flatMap_lowerChar_eq_self others, List.append_left_inj,
      flatMap_lowerChar_eq_self_iff first capital, isDoubled_of_lowerChar start]
    rfl

/-- **A word that is shown stays as it is unless it starts with a letter that has several capitals.** -/
theorem titled_titled_iff (nonempty : w ≠ []) :
    titled (titled w) = titled w ↔ startsDoubled w = false := by
  obtain ⟨C, s, shown, returns, noSigma, again⟩ := exists_titled nonempty
  rw [shown, titled_cons returns noSigma, List.cons_inj_right, again]

/-- A word that is shown twice stays as it is. -/
theorem titled_titled_titled (nonempty : w ≠ []) : titled (titled (titled w)) = titled (titled w) := by
  obtain ⟨C, s, shown, returns, noSigma, -⟩ := exists_titled nonempty
  have small : ∀ d ∈ s.flatMap lowerChar, lowerChar d = [d] := by
    intro d hd
    obtain ⟨c, -, image⟩ := List.mem_flatMap.mp hd
    exact lowerChar_of_mem_lowerChar image
  have noSigma' : 'Σ' ∉ s.flatMap lowerChar := fun sigma => ne_sigma_of_lowerChar (small _ sigma) rfl
  rw [shown, titled_cons returns noSigma, titled_cons returns noSigma', flatMap_lowerChar_eq_self small]

end words

/-! ## Captions -/

namespace Spells

variable {ws vs gs : List (List Char)} {s u : List Char}

/-- No word is empty. -/
theorem nonempty_of_mem (h : Spells ws gs s) : ∀ w ∈ ws, w ≠ [] := by
  induction h with
  | word word => exact List.forall_mem_singleton.mpr word.nonempty
  | cons word gap rest ih => exact List.forall_mem_cons.mpr ⟨word.nonempty, ih⟩

/-- Texts with the same gaps are the same exactly if they have the same words. -/
theorem eq_iff (h : Spells ws gs s) (h' : Spells vs gs u) : s = u ↔ ws = vs := by
  constructor
  · rintro rfl
    rw [← h.words_eq, h'.words_eq]
  · rintro rfl
    rw [← h.weave_eq, h'.weave_eq]

/-- A text that has its gaps in blanks keeps them. -/
theorem inWords_of_blanks (h : Spells ws gs s) (blanks : ∀ g ∈ gs, spaced g = g) :
    Spells (ws.map titled) gs (Caption.inWords s) := by
  have shown : Spells (ws.map titled) (gs.map spaced) (Caption.inWords ([] ++ s ++ [])) :=
    h.inWords (by simp) (by simp)
  rwa [List.nil_append, List.append_nil, List.map_congr_left blanks, List.map_id'] at shown

end Spells

/-- **A caption that is formatted again stays as it is exactly if no word of the heading starts with a
letter that has several capitals. Formatted once more, each caption stays as it is.** -/
theorem display_display_iff (raw : String) :
    (display (display raw) = display raw ↔ ∀ w ∈ words raw.toList, startsDoubled w = false) ∧
      display (display (display raw)) = display (display raw) := by
  simp only [← String.toList_inj, toList_display]
  rcases exists_spells raw.toList with separators | ⟨lead, s, trail, ws, gs, split, before, after, h⟩
  · have nothing : inWords [] = [] := inWords_of_separators (by simp)
    rw [inWords_of_separators separators, words_of_separators separators, nothing]
    exact ⟨iff_of_true rfl (by simp), nothing⟩
  · rw [split, h.words_surrounded before after]
    have blanks : ∀ g ∈ gs.map spaced, spaced g = g := by
      intro _ hg
      obtain ⟨g, mem, rfl⟩ := List.mem_map.mp hg
      exact spaced_of_isBlank (isBlank_of_mem_spaced (h.isGap_of_mem g mem).inside)
    have once := h.inWords before after
    have twice := once.inWords_of_blanks blanks
    have thrice := twice.inWords_of_blanks blanks
    rw [twice.eq_iff once, thrice.eq_iff twice, List.map_map, List.map_map, List.map_inj_left,
      List.map_inj_left]
    exact ⟨forall₂_congr fun w hw => titled_titled_iff (h.nonempty_of_mem w hw),
      fun w hw => titled_titled_titled (h.nonempty_of_mem w hw)⟩

/-- The caption of a sharp s is two capitals, and the caption of these has a small letter again. -/
theorem display_display_sharp_s :
    display "ß" = "SS" ∧ display "SS" = "Ss" ∧ display (display "ß") ≠ display "ß" := by
  decide +kernel

end DataGrid.Caption

import DataGrid.Text.Blank
import DataGrid.Text.Split

/-!
# Cutting and trimming

* `splitAt_join`: pieces that do not hold the separator are found again in the text that they make
  up.
* `mem_of_mem_splitAt`, `mem_of_mem_trim`: what is cut or trimmed was in the text.
* `takeWhile_word`, `dropWhile_word`: a word ends where the first character stands that cannot be in
  it.
* `Trimmed.trim_eq`: a text without blanks around it stays as it is, and `Trimmed.trim_surrounded` is what
  it becomes with blanks around it.
-/

namespace DataGrid.Text

/-! ## Pieces -/

/-- A text without the separator is one piece. -/
theorem splitAt_of_not_mem {sep : Char} {p : List Char} (h : sep ∉ p) : splitAt sep p = [p] := by
  induction p with
  | nil => rfl
  | cons c p ih =>
    rw [List.mem_cons, not_or] at h
    rw [splitAt, if_neg (Ne.symm h.1), ih h.2]

/-- A text without the separator is the first piece if the separator follows it. -/
theorem splitAt_append {sep : Char} {p : List Char} (h : sep ∉ p) (rest : List Char) :
    splitAt sep (p ++ sep :: rest) = p :: splitAt sep rest := by
  induction p with
  | nil => rw [List.nil_append, splitAt, if_pos rfl]
  | cons c p ih =>
    rw [List.mem_cons, not_or] at h
    rw [List.cons_append, splitAt, if_neg (Ne.symm h.1), ih h.2]

/-- Pieces without the separator are found again in the text that they make up. -/
theorem splitAt_join {sep : Char} {pieces : List (List Char)} (ne : pieces ≠ [])
    (h : ∀ p ∈ pieces, sep ∉ p) : splitAt sep (join sep pieces) = pieces := by
  induction pieces with
  | nil => exact absurd rfl ne
  | cons p ps ih =>
    have hp : sep ∉ p := h p List.mem_cons_self
    cases ps with
    | nil => rw [join_singleton, splitAt_of_not_mem hp]
    | cons q qs =>
      rw [join_cons sep p (by simp), splitAt_append hp,
        ih (by simp) fun r hr => h r (List.mem_cons_of_mem p hr)]

/-- The characters of a piece are characters of the text. -/
theorem mem_of_mem_splitAt {sep c : Char} {s p : List Char} (hp : p ∈ splitAt sep s) (hc : c ∈ p) :
    c ∈ s := by
  rw [← join_splitAt sep s]
  generalize splitAt sep s = pieces at hp
  induction pieces with
  | nil => cases hp
  | cons q qs ih =>
    by_cases hq : qs = []
    · subst hq
      rw [join_singleton, ← List.mem_singleton.mp hp]
      exact hc
    · rw [join_cons sep q hq]
      rcases List.mem_cons.mp hp with rfl | hp
      · exact List.mem_append_left _ hc
      · exact List.mem_append_right _ (List.mem_cons_of_mem _ (ih hp))

/-! ## Words -/

section Words

variable {p : Char → Bool} {s rest : List Char}

/-- A word is taken whole where what follows does not go on with it. -/
theorem takeWhile_word (word : ∀ c ∈ s, p c = true) (stop : ∀ c ∈ rest.head?, p c = false) :
    (s ++ rest).takeWhile p = s := by
  rw [List.takeWhile_append_of_pos word]
  cases rest with
  | nil => simp
  | cons c rest => rw [List.takeWhile_cons_of_neg (by simp [stop c rfl]), List.append_nil]

/-- Where what follows does not go on with a word, just the word is dropped. -/
theorem dropWhile_word (word : ∀ c ∈ s, p c = true) (stop : ∀ c ∈ rest.head?, p c = false) :
    (s ++ rest).dropWhile p = rest := by
  rw [List.dropWhile_append_of_pos word]
  cases rest with
  | nil => rfl
  | cons c rest => rw [List.dropWhile_cons_of_neg (by simp [stop c rfl])]

end Words

/-! ## Trimming -/

/-- Trimming at the end adds no characters. -/
theorem mem_of_mem_trimEnd {c : Char} {s : List Char} (h : c ∈ trimEnd s) : c ∈ s := by
  induction s with
  | nil => exact h
  | cons d s ih =>
    rw [trimEnd] at h
    split at h
    · split at h <;> simp_all
    · rename_i e r hr
      rw [hr] at ih
      rcases List.mem_cons.mp h with rfl | h
      · exact List.mem_cons_self
      · exact List.mem_cons_of_mem _ (ih h)

/-- Trimming adds no characters. -/
theorem mem_of_mem_trim {c : Char} {s : List Char} (h : c ∈ trim s) : c ∈ s :=
  (List.dropWhile_suffix isBlank).subset (mem_of_mem_trimEnd h)

/-- Nothing is trimmed at the start where no blank stands there. -/
theorem trimStart_eq_self {s : List Char} (h : ∀ c ∈ s.head?, isBlank c = false) :
    trimStart s = s := by
  cases s with
  | nil => rfl
  | cons c s => rw [trimStart, List.dropWhile_cons_of_neg (by simp [h c rfl])]

/-- Nothing is trimmed at the end where no blank stands there. -/
theorem trimEnd_eq_self {s : List Char} (h : ∀ c ∈ s.getLast?, isBlank c = false) :
    trimEnd s = s := by
  induction s with
  | nil => rfl
  | cons c s ih =>
    rw [trimEnd]
    cases s with
    | nil => simp [trimEnd, h c rfl]
    | cons d s =>
      rw [ih]
      exact fun e he => h e (by rwa [List.getLast?_cons_cons])

/-- A text that neither starts nor ends with a blank stays as it is. -/
theorem Trimmed.trim_eq {s : List Char} (h : Trimmed s) : trim s = s := by
  rw [trim, trimStart_eq_self h.1, trimEnd_eq_self h.2]

/-- Blanks that are put at the end are trimmed with those that were there. -/
theorem trimEnd_append_of_blanks {trail : List Char} (after : ∀ c ∈ trail, isBlank c = true)
    (s : List Char) : trimEnd (s ++ trail) = trimEnd s := by
  induction s with
  | nil =>
    induction trail with
    | nil => rfl
    | cons c trail ih =>
      rw [List.forall_mem_cons] at after
      have rest : trimEnd trail = [] := ih after.2
      show trimEnd (c :: trail) = []
      simp [trimEnd, rest, after.1]
  | cons c s ih => rw [List.cons_append, trimEnd, trimEnd, ih]

/-- A text without blanks around it is what remains if blanks are put around it. -/
theorem Trimmed.trim_surrounded {lead s trail : List Char} (h : Trimmed s) (nonempty : s ≠ [])
    (before : ∀ c ∈ lead, isBlank c = true) (after : ∀ c ∈ trail, isBlank c = true) :
    trim (lead ++ s ++ trail) = s := by
  have stop : ∀ c ∈ (s ++ trail).head?, isBlank c = false := by
    obtain ⟨c, s, rfl⟩ := List.exists_cons_of_ne_nil nonempty
    exact h.1
  rw [trim, trimStart, List.append_assoc, dropWhile_word before stop, trimEnd_append_of_blanks after,
    trimEnd_eq_self h.2]

/-- A text without any blanks stays as it is. -/
theorem trim_eq_self {s : List Char} (h : ∀ c ∈ s, isBlank c = false) : trim s = s :=
  Trimmed.trim_eq
    ⟨fun c hc => h c (List.mem_of_mem_head? hc), fun c hc => h c (List.mem_of_getLast? hc)⟩

end DataGrid.Text

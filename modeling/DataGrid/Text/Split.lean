/-!
# Splitting a text at a character

Search boxes hold several terms with a separator between them, and patterns hold pieces with a
wildcard between them; both are cut by **`splitAt`**. The pieces joined again by the same
character are the text (`join_splitAt`), and no piece holds that character
(`not_mem_of_mem_splitAt`).
-/

namespace DataGrid.Text

/-- The pieces of a text between the occurrences of a character: one more than there are
occurrences. -/
def splitAt (sep : Char) : List Char → List (List Char)
  | [] => [[]]
  | c :: s =>
    if c = sep then [] :: splitAt sep s
    else
      match splitAt sep s with
      | [] => [[c]]
      | p :: ps => (c :: p) :: ps

/-- Pieces written one after the other with a character between each two. -/
def join (sep : Char) (pieces : List (List Char)) : List Char := [sep].intercalate pieces

/-- A text has at least one piece. -/
theorem splitAt_ne_nil (sep : Char) (s : List Char) : splitAt sep s ≠ [] := by
  cases s with
  | nil => simp [splitAt]
  | cons c s =>
    rw [splitAt]
    split
    · simp
    · split <;> simp

/-- One piece makes up a text without the separator being put anywhere. -/
@[simp] theorem join_singleton (sep : Char) (p : List Char) : join sep [p] = p := by
  simp [join, List.intercalate]

/-- A piece that others follow stands in front of them, with the separator after it. -/
theorem join_cons (sep : Char) (p : List Char) {ps : List (List Char)} (h : ps ≠ []) :
    join sep (p :: ps) = p ++ sep :: join sep ps := by
  cases ps with
  | nil => exact absurd rfl h
  | cons q qs => simp [join, List.intercalate]

/-- The pieces of a text make it up again. -/
theorem join_splitAt (sep : Char) (s : List Char) : join sep (splitAt sep s) = s := by
  induction s with
  | nil => rfl
  | cons c s ih =>
    rw [splitAt]
    split
    · rename_i h
      rw [join_cons _ _ (splitAt_ne_nil sep s), ih, h]
      rfl
    · split
      · exact absurd ‹_› (splitAt_ne_nil sep s)
      · rename_i p ps h
        rw [h] at ih
        cases ps with
        | nil => simp_all
        | cons q qs => simp_all [join_cons]

/-- No piece of a text has the separator in it. -/
theorem not_mem_of_mem_splitAt {sep : Char} {s p : List Char} (h : p ∈ splitAt sep s) :
    sep ∉ p := by
  induction s generalizing p with
  | nil => simp_all [splitAt]
  | cons c s ih =>
    rw [splitAt] at h
    split at h
    · rcases List.mem_cons.mp h with rfl | h
      · simp
      · exact ih h
    · rename_i hc
      split at h
      · exact absurd ‹_› (splitAt_ne_nil sep s)
      · rename_i q qs hq
        rcases List.mem_cons.mp h with rfl | h
        · have := ih (p := q) (by simp [hq])
          simp_all [Ne.symm hc]
        · exact ih (by simp [hq, h])

end DataGrid.Text

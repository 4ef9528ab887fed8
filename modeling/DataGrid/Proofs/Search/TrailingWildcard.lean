import DataGrid.Proofs.Search.TextColumn
import DataGrid.Proofs.Text.CaseFolding
import DataGrid.Proofs.Text.Pieces

/-!
# A wildcard after a text

A text with a wildcard after it is searched as a pattern, and one expects it to find all that the text
itself finds, and more. But where case does not count, equality compares texts in lower case, and a
pattern compares them up to folding.

* `Like.covers_append_wildcard`: a pattern with its only wildcard at the end covers the texts that start
  with it.
* `Operator.admits_equal_iff`, `Operator.admits_append_wildcard_iff`: what the text of a cell has to be for
  equality and for the pattern.
* **`trailing_wildcard_iff`**: a cell that is found without the wildcard is found with it too exactly if
  case counts, or the letters whose lower-case form does not fold as they do (`unfoldedRanges`) stand at
  the same places in the cell and in the text that is searched.
-/

namespace DataGrid

open Text

/-- A pattern that ends in its only wildcard covers a text exactly if some start of the text is the same
as the rest of the pattern. -/
theorem Like.covers_append_wildcard {same : Char → Char → Bool} {w : Char} {p text : List Char}
    (plain : w ∉ p) :
    covers same w (p ++ [w]) text = true ↔
      ∃ front, front <+: text ∧ List.Forall₂ (same · · = true) p front := by
  rw [covers_iff, splitAt_append plain]
  constructor
  · rintro ⟨front, others, rfl, alike⟩
    exact ⟨front, List.prefix_append _ _, (List.forall₂_cons.mp alike).1⟩
  · rintro ⟨front, ⟨run, rfl⟩, alike⟩
    exact ⟨front, [(run, [])], by simp, .cons alike (.cons .nil .nil)⟩

/-- Equality in a column that is searched by text is equality in the case that counts. -/
theorem Operator.admits_equal_iff {w : Char} {caseSensitive : Bool} {operand text : String} :
    equal.admits w caseSensitive operand text = true ↔
      folded caseSensitive text.toList = folded caseSensitive operand.toList := by
  have accepts (order : Ordering) : equal.accepts order = true ↔ order = .eq := by
    cases order <;> decide
  rw [admits, if_neg (by decide), accepts, Std.compare_eq_iff_eq]

/-- A text that ends in its only wildcard asks for texts that start with what stands before the
wildcard, in the case that counts. -/
theorem Operator.admits_append_wildcard_iff {w : Char} {caseSensitive : Bool} {operand text : String}
    (plain : w ∉ operand.toList) :
    like.admits w caseSensitive (operand.push w) text = true ↔
      if caseSensitive then operand.toList <+: text.toList
      else operand.toList.map foldChar <+: text.toList.map foldChar := by
  rw [admits, if_pos rfl, String.toList_push, Like.covers_append_wildcard plain]
  cases caseSensitive with
  | true => simp [SameIn, List.forall₂_eq_eq_eq]
  | false =>
    have alike (front : List Char) :
        List.Forall₂ (fun c d => foldChar c = foldChar d) operand.toList front ↔
          operand.toList.map foldChar = front.map foldChar := by
      rw [← List.forall₂_eq_eq_eq, List.forall₂_map_left_iff, List.forall₂_map_right_iff]
    simp only [SameIn, Bool.false_eq_true, if_false, decide_eq_true_iff, List.prefix_map_iff, alike]

/-- **When a wildcard after a text keeps what the text finds.** In a column that is searched by text, let
equality with a text accept a cell. The pattern that is the text with a wildcard after it then accepts the
cell too exactly if case counts, or the letters whose lower-case form does not fold as they do
(`unfoldedRanges`) stand at the same places in the text and in that of the cell. -/
theorem trailing_wildcard_iff {t : Table} {kinds : ColumnKinds} {options : FilterOptions}
    {name text : String} {index row : Nat} {kind : Kind} {r : Row} {w : Char}
    (column : t.findKind? kinds name = some (index, kind)) (notNumeric : kind ≠ .numeric)
    (notBinary : kind ≠ .binary) (found : t.rows[row]? = some r) (plain : w ∉ text.toList)
    (accepted : (Filter.mk [⟨name, .equal, text⟩] w).answer t kinds options row = .ok true) :
    let cell := (r.cell? index).getD .null
    (Filter.mk [⟨name, .like, text.push w⟩] w).Decides t kinds options row
      (options.caseSensitive = true ∨ SamePlaces cell.text.toList text.toList) := by
  intro cell
  rw [Filter.answer_text column notNumeric notBinary found, Except.ok.injEq, Bool.and_eq_true,
    Operator.admits_equal_iff] at accepted
  obtain ⟨shown, same⟩ := accepted
  refine Filter.Decides.congr (.of_answer (Filter.answer_text column notNumeric notBinary found w)) ?_
  rw [shown, Bool.true_and, Operator.admits_append_wildcard_iff plain]
  cases caseSensitive : options.caseSensitive with
  | true =>
    rw [caseSensitive] at same
    have equal : cell.text.toList = text.toList := same
    rw [if_pos rfl, equal]
    exact iff_of_true List.prefix_rfl (.inl rfl)
  | false =>
    rw [caseSensitive] at same
    -- The texts are equal in lower case, but the pattern compares them by their simple foldings.
    have equal : lower cell.text.toList = lower text.toList := same
    rw [if_neg Bool.false_ne_true, prefix_map_foldChar_iff equal]
    exact (or_iff_right Bool.false_ne_true).symm

/-- A capital I with a dot at the start of both texts, and a capital sigma that has become a final one. -/
theorem trailing_wildcard_iff_dotted_capital :
    let text : String := "İΣ"
    let r : Row := .unchanged [.string "İς"]
    let t : Table := ⟨"Cities", [.named "NAME" .string], [r]⟩
    let cell := (r.cell? 0).getD .null
    let places := SamePlaces cell.text.toList text.toList
    (t.findKind? .empty "NAME" = some (0, .string) ∧ Kind.string ≠ .numeric ∧ Kind.string ≠ .binary ∧
      t.rows[0]? = some r ∧ '%' ∉ text.toList ∧
      (Filter.mk [⟨"NAME", .equal, text⟩] '%').answer t .empty {} 0 = .ok true) ∧ places ∧
    (Filter.mk [⟨"NAME", .like, text.push '%'⟩] '%').Decides t .empty {} 0
      (({} : FilterOptions).caseSensitive = true ∨ places) := by
  intro text r t cell places
  have column : t.findKind? .empty "NAME" = some (0, .string) := by decide +kernel
  have found : t.rows[0]? = some r := rfl
  have plain : '%' ∉ text.toList := by decide
  have accepted : (Filter.mk [⟨"NAME", .equal, text⟩] '%').answer t .empty {} 0 = .ok true := by
    decide +kernel
  have alike : places := .of_map_foldChar_eq (by decide +kernel)
  exact ⟨⟨column, by decide, by decide, found, plain, accepted⟩, alike,
    trailing_wildcard_iff column (by decide) (by decide) found plain accepted⟩

/-- **A capital I with a dot is lost when the wildcard comes**: in lower case it is the small letter with a
dot of its own, and by equality this finds it. -/
theorem trailing_wildcard_loses_dotted_capital :
    let t : Table := ⟨"Cities", [.named "NAME" .string], [.unchanged [.string "İ"]]⟩
    t.findKind? .empty "NAME" = some (0, .string) ∧ '%' ∉ "i̇".toList ∧
      (Filter.mk [⟨"NAME", .equal, "i̇"⟩] '%').answer t .empty {} 0 = .ok true ∧
      (Filter.mk [⟨"NAME", .like, "i̇%"⟩] '%').answer t .empty {} 0 = .ok false := by
  decide +kernel

end DataGrid

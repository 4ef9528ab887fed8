import DataGrid.Proofs.Search.Decision
import DataGrid.Text.Split
import Mathlib.Data.List.Forall2

/-!
# What a pattern covers

A pattern is the pieces between its wildcards, and it covers a text that has these pieces in order, the
first at its start and the last at its end, with any runs of characters between them
(**`Like.Interspersed`**).

* `Like.verdicts_cons`: the verdicts on a text, less the first, are the verdicts on the text less its
  first character. So each verdict is an answer of its own, and `Like.covers` obeys the recursion that
  one would write without any lists of verdicts (`covers_char_cons`, `covers_wildcard_cons` and the
  others).
* `Like.covers_wildcard_iff`: a wildcard takes a run of any length, also none, and leaves the rest of
  the pattern some end of the text. It is here that all ways to cut the text are looked at.
* **`Like.covers_iff`**: so a pattern covers a text exactly if its pieces are interspersed in it.
* **`like_comparison`**: a comparison by pattern decides just this about the text of a cell that is
  not null.
-/

namespace DataGrid

open Text

namespace Like

section Recursion

variable {same : Char → Char → Bool} {wildcard p c : Char} {pattern text : List Char}

/-! ## The recursion of a pattern -/

/-- There is one verdict on the empty text. -/
theorem verdicts_nil (same : Char → Char → Bool) (wildcard : Char) (pattern : List Char) :
    verdicts same wildcard [] pattern = [covers same wildcard pattern []] := by
  have single : ∃ v, verdicts same wildcard [] pattern = [v] := by
    induction pattern with
    | nil => exact ⟨true, rfl⟩
    | cons p pattern ih =>
      obtain ⟨v, hv⟩ := ih
      rw [verdicts, hv]
      split
      · exact ⟨v || false, rfl⟩
      · exact ⟨false, rfl⟩
  obtain ⟨v, hv⟩ := single
  rw [covers, hv]
  rfl

/-- The verdicts on a text go on with those on the text less its first character. -/
theorem verdicts_cons (same : Char → Char → Bool) (wildcard c : Char) (text pattern : List Char) :
    verdicts same wildcard (c :: text) pattern =
      covers same wildcard pattern (c :: text) :: verdicts same wildcard text pattern := by
  have tail : ∃ v, verdicts same wildcard (c :: text) pattern =
      v :: verdicts same wildcard text pattern := by
    induction pattern with
    | nil => exact ⟨false, rfl⟩
    | cons p pattern ih =>
      obtain ⟨v, hv⟩ := ih
      rw [verdicts, verdicts, hv]
      split
      · exact ⟨_, rfl⟩
      · exact ⟨_, rfl⟩
  obtain ⟨v, hv⟩ := tail
  rw [covers, hv]
  rfl

/-- The empty pattern covers the empty text alone. -/
theorem covers_nil : covers same wildcard [] text = text.isEmpty := by
  cases text <;> rfl

/-- A pattern that starts with a character does not cover the empty text. -/
theorem covers_char_nil (ne : p ≠ wildcard) : covers same wildcard (p :: pattern) [] = false := by
  rw [covers, verdicts, if_neg ne]
  rfl

/-- A character of the pattern takes one that counts as the same. -/
theorem covers_char_cons (ne : p ≠ wildcard) :
    covers same wildcard (p :: pattern) (c :: text) =
      (same p c && covers same wildcard pattern text) := by
  rw [covers, verdicts, if_neg ne, verdicts_cons]
  rfl

/-- A pattern that starts with a wildcard goes by the verdicts of its rest on the ends of the text. -/
theorem covers_wildcard :
    covers same wildcard (wildcard :: pattern) text =
      (throughWildcard (verdicts same wildcard text pattern)).headD false := by
  rw [covers, verdicts, if_pos rfl]

/-- At the end of the text a wildcard takes nothing. -/
theorem covers_wildcard_nil :
    covers same wildcard (wildcard :: pattern) [] = covers same wildcard pattern [] := by
  rw [covers_wildcard, verdicts_nil]
  exact Bool.or_false _

/-- A wildcard takes nothing more, or one more character and what a wildcard takes. -/
theorem covers_wildcard_cons :
    covers same wildcard (wildcard :: pattern) (c :: text) =
      (covers same wildcard pattern (c :: text) ||
        covers same wildcard (wildcard :: pattern) text) := by
  rw [covers_wildcard, covers_wildcard, verdicts_cons]
  rfl

/-- A wildcard takes some run from the start of the text, and the rest of the pattern covers what is
left. -/
theorem covers_wildcard_iff :
    covers same wildcard (wildcard :: pattern) text = true ↔
      ∃ run rest, text = run ++ rest ∧ covers same wildcard pattern rest = true := by
  -- the run is empty, or it starts with the first character and goes on in the rest of the text
  induction text with
  | nil =>
    rw [covers_wildcard_nil]
    constructor
    · intro covered
      exact ⟨[], [], rfl, covered⟩
    · rintro ⟨run, rest, cut, covered⟩
      obtain ⟨-, rfl⟩ := List.append_eq_nil_iff.mp cut.symm
      exact covered
  | cons c text ih =>
    rw [covers_wildcard_cons, Bool.or_eq_true, ih]
    constructor
    · rintro (covered | ⟨run, rest, rfl, covered⟩)
      · exact ⟨[], c :: text, rfl, covered⟩
      · exact ⟨c :: run, rest, rfl, covered⟩
    · rintro ⟨run, rest, cut, covered⟩
      cases run with
      | nil =>
        rw [cut]
        exact .inl covered
      | cons d run =>
        rw [List.cons_append, List.cons.injEq] at cut
        exact .inr ⟨run, rest, cut.2, covered⟩

end Recursion

/-! ## Pieces in a text -/

/-- Whether a text consists of some pieces in order, the first at its start and the last at its end,
with any run of characters before each piece but the first. The pieces may be written with other
characters that count as the same. -/
def Interspersed (same : Char → Char → Prop) (pieces : List (List Char)) (text : List Char) : Prop :=
  ∃ (first : List Char) (others : List (List Char × List Char)),
    text = first ++ others.flatMap (fun (run, piece) => run ++ piece) ∧
    List.Forall₂ (List.Forall₂ same) pieces (first :: others.map (·.2))

section Pieces

variable {same : Char → Char → Prop} {p : Char} {piece text : List Char} {pieces : List (List Char)}

/-- A single empty piece is interspersed in the empty text alone, as it is both at the start and at the
end. -/
theorem interspersed_singleton_nil : Interspersed same [[]] text ↔ text = [] := by
  constructor
  · rintro ⟨first, others, rfl, alike⟩
    obtain ⟨taken, alike⟩ := List.forall₂_cons.mp alike
    rw [List.forall₂_nil_left_iff] at taken alike
    rw [taken, List.map_eq_nil_iff.mp alike]
    rfl
  · rintro rfl
    exact ⟨[], [], rfl, .cons .nil .nil⟩

/-- After an empty piece the others begin anywhere in the text. -/
theorem interspersed_nil_cons (ne : pieces ≠ []) :
    Interspersed same ([] :: pieces) text ↔
      ∃ run rest, text = run ++ rest ∧ Interspersed same pieces rest := by
  constructor
  · rintro ⟨first, others, rfl, alike⟩
    obtain ⟨taken, alike⟩ := List.forall₂_cons.mp alike
    rw [List.forall₂_nil_left_iff] at taken
    cases others with
    | nil => exact absurd (List.forall₂_nil_right_iff.mp alike) ne
    | cons next others =>
      refine ⟨next.1, next.2 ++ others.flatMap (fun (run, piece) => run ++ piece), ?_,
        next.2, others, rfl, alike⟩
      rw [taken, List.nil_append, List.flatMap_cons, List.append_assoc]
  · rintro ⟨run, rest, rfl, first, others, rfl, alike⟩
    refine ⟨[], (run, first) :: others, ?_, .cons .nil alike⟩
    rw [List.nil_append, List.flatMap_cons, List.append_assoc]

/-- The first piece takes its first character from the start of the text. -/
theorem interspersed_cons_cons :
    Interspersed same ((p :: piece) :: pieces) text ↔
      ∃ c rest, text = c :: rest ∧ same p c ∧ Interspersed same (piece :: pieces) rest := by
  constructor
  · rintro ⟨first, others, rfl, alike⟩
    obtain ⟨taken, later⟩ := List.forall₂_cons.mp alike
    obtain ⟨c, rest, hc, left, rfl⟩ := List.forall₂_cons_left_iff.mp taken
    exact ⟨c, _, rfl, hc, rest, others, rfl, .cons left later⟩
  · rintro ⟨c, rest, rfl, hc, first, others, rfl, alike⟩
    obtain ⟨taken, alike⟩ := List.forall₂_cons.mp alike
    exact ⟨c :: first, others, rfl, .cons (.cons hc taken) alike⟩

end Pieces

/-- A pattern covers a text exactly if its pieces between the wildcards are interspersed in it. -/
theorem covers_iff {same : Char → Char → Bool} {wildcard : Char} {pattern text : List Char} :
    covers same wildcard pattern text = true ↔
      Interspersed (same · · = true) (splitAt wildcard pattern) text := by
  induction pattern generalizing text with
  | nil => rw [covers_nil, List.isEmpty_iff, splitAt, interspersed_singleton_nil]
  | cons p pattern ih =>
    by_cases wild : p = wildcard
    · rw [wild, covers_wildcard_iff, splitAt, if_pos rfl,
        interspersed_nil_cons (splitAt_ne_nil wildcard pattern)]
      simp only [ih]
    · obtain ⟨piece, pieces, cut⟩ := List.exists_cons_of_ne_nil (splitAt_ne_nil wildcard pattern)
      rw [cut] at ih
      rw [splitAt, if_neg wild, cut]
      show _ ↔ Interspersed _ ((p :: piece) :: pieces) text
      rw [interspersed_cons_cons]
      cases text with
      | nil => simp [covers_char_nil wild]
      | cons c text => simp [covers_char_cons wild, ih]

end Like

/-! ## Comparisons by pattern -/

/-- Whether two characters are the same, or the same but for case where case does not count. -/
def SameIn (caseSensitive : Bool) (c d : Char) : Prop :=
  if caseSensitive then c = d else foldChar c = foldChar d

instance (caseSensitive : Bool) (c d : Char) : Decidable (SameIn caseSensitive c d) :=
  inferInstanceAs (Decidable (if caseSensitive then c = d else foldChar c = foldChar d))

/-- A filter takes characters for the same in the case that counts. -/
theorem ResolvedFilter.sameChar_iff {f : ResolvedFilter} {c d : Char} :
    f.sameChar c d = true ↔ SameIn f.caseSensitive c d := by
  unfold sameChar SameIn
  split
  · exact beq_iff_eq
  · exact beq_iff_eq

/-- A cell satisfies a pattern exactly if the pattern covers its text. -/
theorem ResolvedFilter.satisfies_pattern {f : ResolvedFilter} {c : ResolvedComparison} {row : Nat}
    {v : Value} {pattern : List Char} (tested : c.test = .pattern pattern) :
    f.satisfies c row v = .ok (Like.covers f.sameChar f.wildcard pattern v.text.toList) := by
  rw [satisfies, tested]

/-- In columns of every kind but binary a pattern is tested for as it stands. -/
theorem Comparison.test_like {name pattern : String} {kind : Kind} (ne : kind ≠ .binary)
    (options : FilterOptions) :
    Comparison.test ⟨name, .like, pattern⟩ kind options = .ok (.pattern pattern.toList) := by
  cases kind with
  | binary => exact absurd rfl ne
  | string | numeric | booleanEnum | other => rfl

/-- **A comparison by pattern looks for the pieces of the pattern in the whole text of a cell.** In
a column of any kind but the binary one the cell may be of any variant, and a null cell, or one that
the row does not have, has no text. -/
theorem like_comparison {t : Table} {kinds : ColumnKinds} {row index : Nat} {name : String}
    {kind : Kind} {r : Row} (pattern : String) (wildcard : Char) (options : FilterOptions)
    (column : t.findKind? kinds name = some (index, kind)) (ne : kind ≠ .binary)
    (found : t.rows[row]? = some r) :
    let cell := (r.cell? index).getD .null
    (Filter.mk [⟨name, .like, pattern⟩] wildcard).Decides t kinds options row
      (cell.isNull = false ∧
        Like.Interspersed (SameIn options.caseSensitive) (splitAt wildcard pattern.toList)
          cell.text.toList) := by
  intro cell
  let c : ResolvedComparison := ⟨name, index, .like, .pattern pattern.toList⟩
  let f : ResolvedFilter := ⟨[c], wildcard, options.caseSensitive⟩
  have accepts : f.accepts row r c =
      .ok (!cell.isNull && Like.covers f.sameChar wildcard pattern.toList cell.text.toList) :=
    ResolvedFilter.accepts_eq_ok fun v => ResolvedFilter.satisfies_pattern rfl
  apply (Filter.decides_of_accepts column (Comparison.test_like ne options) found accepts).congr
  rw [Bool.and_eq_true, Bool.not_eq_true', Like.covers_iff]
  simp only [ResolvedFilter.sameChar_iff]
  rfl

/-- A pattern with a point and two wildcards in a row, and a cell of two lines that has its pieces in
another case. -/
theorem like_comparison_two_lines :
    let r : Row := .unchanged [.string "A.B
BA"]
    let t : Table := ⟨"Notes", [.named "TEXT" .string], [r]⟩
    let f : Filter := ⟨[⟨"TEXT", .like, "a.%%a"⟩], '%'⟩
    let covered := Like.Interspersed (SameIn false) ["a.".toList, [], "a".toList] "A.B
BA".toList
    (t.findKind? .empty "TEXT" = some (0, .string) ∧ Kind.string ≠ .binary ∧ t.rows[0]? = some r) ∧
    covered ∧ f.Decides t .empty {} 0 ((Value.string "A.B
BA").isNull = false ∧ covered) := by
  intro r t f covered
  have column : t.findKind? .empty "TEXT" = some (0, .string) := by decide +kernel
  have ne : Kind.string ≠ .binary := by decide
  have found : t.rows[0]? = some r := rfl
  have pieces : List.Forall₂ (List.Forall₂ (SameIn false)) ["a.".toList, [], "a".toList]
      ["A.".toList, [], "A".toList] := by
    have a : SameIn false 'a' 'A' := by decide +kernel
    exact .cons (.cons a (.cons rfl .nil)) (.cons .nil (.cons (.cons a .nil) .nil))
  refine ⟨⟨column, ne, found⟩, ⟨"A.".toList, [("B
B".toList, []), ([], "A".toList)], rfl, pieces⟩, ?_⟩
  exact like_comparison "a.%%a" '%' {} column ne found

end DataGrid

import DataGrid.Search.Filter

/-!
# The text of a filter is unambiguous

Column names and operands may hold anything, also the marks that the text of a filter is made of. The
text can be read all the same: **`Filter.read?`** is a reader for it, and **`text_unambiguous`** says that
it finds the comparisons of every filter in the text of that filter and accepts no other text.

The reader is put together from one for each part, and each is shown to accept exactly what the part is
written as, whatever text comes after it (`readName_eq_some_iff` and its like). A name ends at the first
backquote without a backslash before it. An operand ends at the first single quote that is not doubled,
so what comes next must not be a single quote; after a comparison it is the end or a blank.
-/

namespace DataGrid

namespace Filter

/-! ## Names -/

/-- The inside of a quoted name. -/
def escapedName (name : List Char) : List Char :=
  name.flatMap fun c => if c = '\\' ∨ c = '`' then ['\\', c] else [c]

/-- A quoted name is its inside between two backquotes. -/
theorem quotedName_append (name rest : List Char) :
    quotedName name ++ rest = '`' :: (escapedName name ++ '`' :: rest) := by
  simp [quotedName, escapedName]

/-- A backslash comes before a backslash or a backquote in a name, and before no other character. -/
theorem escapedName_cons (c : Char) (name : List Char) :
    escapedName (c :: name) =
      (if c = '\\' ∨ c = '`' then ['\\', c] else [c]) ++ escapedName name := rfl

/-- Reads a name up to the backquote that ends it. -/
def readName : List Char → Option (List Char × List Char)
  | [] => none
  | '`' :: s => some ([], s)
  | '\\' :: c :: s =>
    if c = '\\' ∨ c = '`' then (readName s).map fun p => (c :: p.1, p.2) else none
  | c :: s => if c = '\\' then none else (readName s).map fun p => (c :: p.1, p.2)

/-- A name is read back from its quoted form, up to the backquote at its end. -/
theorem readName_escapedName (name rest : List Char) :
    readName (escapedName name ++ '`' :: rest) = some (name, rest) := by
  induction name with
  | nil => rfl
  | cons c name ih =>
    rw [escapedName_cons]
    by_cases h : c = '\\' ∨ c = '`'
    · rw [if_pos h]
      show readName ('\\' :: c :: (escapedName name ++ '`' :: rest)) = _
      rw [readName, if_pos h, ih]
      rfl
    · rw [if_neg h]
      obtain ⟨backslash, backquote⟩ := not_or.mp h
      show readName (c :: (escapedName name ++ '`' :: rest)) = _
      rw [readName, if_neg backslash, ih]
      · rfl
      · exact backquote
      · exact fun d s hc => absurd hc backslash

/-- Only the quoted form of a name is read as this name. -/
theorem eq_of_readName {s name rest : List Char} (h : readName s = some (name, rest)) :
    s = escapedName name ++ '`' :: rest := by
  fun_induction readName s generalizing name with
  | case1 => cases h
  | case2 s =>
    cases h
    rfl
  | case3 c s special ih =>
    obtain ⟨⟨tail, _⟩, hp, h⟩ := Option.map_eq_some_iff.mp h
    cases h
    rw [escapedName_cons, if_pos special, ih hp]
    rfl
  | case4 => cases h
  | case5 => cases h
  | case6 c s backquote _ backslash ih =>
    obtain ⟨⟨tail, _⟩, hp, h⟩ := Option.map_eq_some_iff.mp h
    cases h
    rw [escapedName_cons, if_neg (not_or.mpr ⟨backslash, backquote⟩), ih hp]
    rfl

/-- What is read as a name is its quoted form and nothing else. -/
theorem readName_eq_some_iff {s name rest : List Char} :
    readName s = some (name, rest) ↔ s = escapedName name ++ '`' :: rest :=
  ⟨eq_of_readName, fun h => h ▸ readName_escapedName name rest⟩

/-! ## Operands -/

/-- The inside of a quoted operand. -/
def doubledQuotes (operand : List Char) : List Char :=
  operand.flatMap fun c => if c = '\'' then [c, c] else [c]

/-- A quoted operand is its inside between two single quotes. -/
theorem quotedOperand_append (operand rest : List Char) :
    quotedOperand operand ++ rest = '\'' :: (doubledQuotes operand ++ '\'' :: rest) := by
  simp [quotedOperand, doubledQuotes]

/-- A single quote is doubled in an operand, and no other character is. -/
theorem doubledQuotes_cons (c : Char) (operand : List Char) :
    doubledQuotes (c :: operand) = (if c = '\'' then [c, c] else [c]) ++ doubledQuotes operand := rfl

/-- Reads an operand up to the single quote that ends it. -/
def readOperand : List Char → Option (List Char × List Char)
  | [] => none
  | '\'' :: '\'' :: s => (readOperand s).map fun p => ('\'' :: p.1, p.2)
  | '\'' :: s => some ([], s)
  | c :: s => (readOperand s).map fun p => (c :: p.1, p.2)

/-- An operand is read back from its quoted form, unless another single quote follows, which would
belong to it. -/
theorem readOperand_doubledQuotes (operand : List Char) {rest : List Char}
    (h : rest.head? ≠ some '\'') :
    readOperand (doubledQuotes operand ++ '\'' :: rest) = some (operand, rest) := by
  induction operand with
  | nil =>
    show readOperand ('\'' :: rest) = some ([], rest)
    rw [readOperand]
    rintro s rfl
    exact h rfl
  | cons c operand ih =>
    rw [doubledQuotes_cons]
    by_cases hc : c = '\''
    · rw [if_pos hc, hc]
      show readOperand ('\'' :: '\'' :: (doubledQuotes operand ++ '\'' :: rest)) = _
      rw [readOperand, ih]
      rfl
    · rw [if_neg hc]
      show readOperand (c :: (doubledQuotes operand ++ '\'' :: rest)) = _
      rw [readOperand, ih]
      · rfl
      · exact fun s hc' => absurd hc' hc
      · exact hc

/-- Only the quoted form of an operand is read as this operand, and no single quote follows. -/
theorem eq_of_readOperand {s operand rest : List Char} (h : readOperand s = some (operand, rest)) :
    s = doubledQuotes operand ++ '\'' :: rest ∧ rest.head? ≠ some '\'' := by
  fun_induction readOperand s generalizing operand with
  | case1 => cases h
  | case2 s ih =>
    obtain ⟨⟨tail, _⟩, hp, h⟩ := Option.map_eq_some_iff.mp h
    cases h
    obtain ⟨hs, ends⟩ := ih hp
    refine ⟨?_, ends⟩
    rw [doubledQuotes_cons, if_pos rfl, hs]
    rfl
  | case3 s single =>
    cases h
    refine ⟨rfl, fun quote => ?_⟩
    obtain ⟨s', rfl⟩ := List.head?_eq_some_iff.mp quote
    exact single s' rfl
  | case4 c s _ other ih =>
    obtain ⟨⟨tail, _⟩, hp, h⟩ := Option.map_eq_some_iff.mp h
    cases h
    obtain ⟨hs, ends⟩ := ih hp
    refine ⟨?_, ends⟩
    rw [doubledQuotes_cons, if_neg other, hs]
    rfl

/-- What is read as an operand is its quoted form, with no single quote after it. -/
theorem readOperand_eq_some_iff {s operand rest : List Char} :
    readOperand s = some (operand, rest) ↔
      s = doubledQuotes operand ++ '\'' :: rest ∧ rest.head? ≠ some '\'' :=
  ⟨eq_of_readOperand, fun ⟨hs, ends⟩ => hs ▸ readOperand_doubledQuotes operand ends⟩

/-! ## Operators -/

/-- Reads an operator and the blank after it. -/
def readOperator : List Char → Option (Operator × List Char)
  | '=' :: ' ' :: s => some (.equal, s)
  | '<' :: '>' :: ' ' :: s => some (.notEqual, s)
  | '<' :: ' ' :: s => some (.lessThan, s)
  | '<' :: '=' :: ' ' :: s => some (.lessOrEqual, s)
  | '>' :: ' ' :: s => some (.greaterThan, s)
  | '>' :: '=' :: ' ' :: s => some (.greaterOrEqual, s)
  | 'L' :: 'I' :: 'K' :: 'E' :: ' ' :: s => some (.like, s)
  | _ => none

/-- What is read as an operator is its symbol and a blank. -/
theorem readOperator_eq_some_iff {s rest : List Char} {o : Operator} :
    readOperator s = some (o, rest) ↔ s = o.symbol.toList ++ ' ' :: rest := by
  constructor
  · intro h
    rw [readOperator.eq_def] at h
    split at h <;> cases h <;> rfl
  · rintro rfl
    cases o <;> rfl

/-! ## Comparisons -/

/-- Reads a given character. -/
def readMark (c : Char) : List Char → Option (List Char)
  | [] => none
  | d :: s => if d = c then some s else none

/-- A character is read exactly where it stands. -/
theorem readMark_eq_some_iff {c : Char} {s rest : List Char} :
    readMark c s = some rest ↔ s = c :: rest := by
  cases s with
  | nil => simp [readMark]
  | cons d s => simp [readMark]

/-- Reads a comparison. -/
def readComparison (s : List Char) : Option (Comparison × List Char) := do
  let (name, s) ← readName (← readMark '`' s)
  let (operator, s) ← readOperator (← readMark ' ' s)
  let (operand, s) ← readOperand (← readMark '\'' s)
  return ({ column := String.ofList name, operator, operand := String.ofList operand }, s)

/-- The text of a comparison, piece by piece as it is read. -/
theorem chars_append (c : Comparison) (rest : List Char) :
    c.chars ++ rest = '`' :: (escapedName c.column.toList ++ '`' :: ' ' ::
      (c.operator.symbol.toList ++ ' ' :: '\'' ::
        (doubledQuotes c.operand.toList ++ '\'' :: rest))) := by
  simp only [Comparison.chars, List.append_assoc, List.cons_append, quotedName_append,
    quotedOperand_append]

/-- What is read as a comparison is its text, with no single quote after it. -/
theorem readComparison_eq_some_iff {s rest : List Char} {c : Comparison} :
    readComparison s = some (c, rest) ↔ s = c.chars ++ rest ∧ rest.head? ≠ some '\'' := by
  simp only [readComparison, bind, pure, Option.bind_eq_some_iff, readMark_eq_some_iff, Prod.exists,
    readName_eq_some_iff, readOperator_eq_some_iff, readOperand_eq_some_iff, Option.some.injEq,
    Prod.mk.injEq]
  constructor
  · rintro ⟨_, rfl, name, _, rfl, _, rfl, o, _, rfl, _, rfl, operand, _, ⟨rfl, ends⟩, rfl, rfl⟩
    exact ⟨by simp [chars_append], ends⟩
  · rintro ⟨rfl, ends⟩
    rw [chars_append]
    exact ⟨_, rfl, _, _, rfl, _, rfl, _, _, rfl, _, rfl, _, _, ⟨rfl, ends⟩, by simp, rfl⟩

/-! ## Conjunctions -/

/-- Comparisons as they are written one after the other. -/
def conjunction (cs : List Comparison) : List Char :=
  " AND ".toList.intercalate (cs.map (·.chars))

/-- Between two comparisons stands `AND`, with a blank on either side. -/
theorem conjunction_cons_cons (c d : Comparison) (cs : List Comparison) :
    conjunction (c :: d :: cs) =
      c.chars ++ ' ' :: 'A' :: 'N' :: 'D' :: ' ' :: conjunction (d :: cs) := by
  simp [conjunction, List.intercalate]

/-- A single comparison is written by itself. -/
theorem conjunction_singleton (c : Comparison) : conjunction [c] = c.chars := by
  simp [conjunction, List.intercalate]

/-- Reads comparisons, one at least, up to the end. -/
def readConjunction (s : List Char) : Option (List Comparison) :=
  match _read : readComparison s with
  | some (c, []) => some [c]
  | some (c, ' ' :: 'A' :: 'N' :: 'D' :: ' ' :: rest) => (readConjunction rest).map (c :: ·)
  | _ => none
termination_by s.length
decreasing_by
  obtain ⟨rfl, -⟩ := readComparison_eq_some_iff.mp _read
  simp
  omega

/-- Comparisons are read back from their text, where there are any. -/
theorem readConjunction_conjunction {cs : List Comparison} (h : cs ≠ []) :
    readConjunction (conjunction cs) = some cs := by
  induction cs with
  | nil => exact absurd rfl h
  | cons c cs ih =>
    cases cs with
    | nil =>
      have read : readComparison (conjunction [c]) = some (c, []) :=
        readComparison_eq_some_iff.mpr ⟨by simp [conjunction_singleton], by simp⟩
      rw [readConjunction, read]
    | cons d cs =>
      have read : readComparison (conjunction (c :: d :: cs)) =
          some (c, ' ' :: 'A' :: 'N' :: 'D' :: ' ' :: conjunction (d :: cs)) :=
        readComparison_eq_some_iff.mpr ⟨conjunction_cons_cons c d cs, by simp⟩
      rw [readConjunction, read]
      show (readConjunction (conjunction (d :: cs))).map (c :: ·) = some (c :: d :: cs)
      rw [ih (by simp)]
      rfl

/-- Only the text of comparisons is read as these, and there is one at least. -/
theorem eq_of_readConjunction {s : List Char} {cs : List Comparison}
    (h : readConjunction s = some cs) : cs ≠ [] ∧ s = conjunction cs := by
  fun_induction readConjunction s generalizing cs with
  | case1 s c read =>
    cases h
    obtain ⟨rfl, -⟩ := readComparison_eq_some_iff.mp read
    exact ⟨by simp, by simp [conjunction_singleton]⟩
  | case2 s c rest read ih =>
    obtain ⟨ds, hds, rfl⟩ := Option.map_eq_some_iff.mp h
    obtain ⟨rfl, -⟩ := readComparison_eq_some_iff.mp read
    obtain ⟨ne, rfl⟩ := ih hds
    obtain ⟨d, ds, rfl⟩ := List.exists_cons_of_ne_nil ne
    exact ⟨by simp, (conjunction_cons_cons c d ds).symm⟩
  | case3 => cases h

/-! ## Filters -/

/-- The comparisons that a text in the row-filter language stands for. -/
def read? (text : String) : Option (List Comparison) :=
  match text.toList with
  | [] => some []
  | s => readConjunction s

/-- The text of comparisons is not empty. -/
theorem conjunction_ne_nil {cs : List Comparison} (h : cs ≠ []) : conjunction cs ≠ [] := by
  intro empty
  have read := readConjunction_conjunction h
  rw [empty, readConjunction] at read
  cases read

/-- What is read as comparisons is their text and nothing else; the empty text stands for none. -/
theorem read?_eq_some_iff {text : String} {cs : List Comparison} :
    read? text = some cs ↔ text.toList = conjunction cs := by
  unfold read?
  split
  · rename_i empty
    rw [empty]
    constructor
    · rintro h
      cases h
      rfl
    · intro h
      by_cases ne : cs = []
      · rw [ne]
      · exact absurd h.symm (conjunction_ne_nil ne)
  · rename_i nonempty
    constructor
    · exact fun h => (eq_of_readConjunction h).2
    · intro h
      have ne : cs ≠ [] := by
        rintro rfl
        exact nonempty h
      rw [h]
      exact readConjunction_conjunction ne

/-- **The text of a filter is unambiguous.** Reading accepts the texts of filters and no other, and
gives back the comparisons; so filters with one text have the same comparisons. -/
theorem text_unambiguous :
    (∀ (text : String) (f : Filter), read? text = some f.comparisons ↔ text = f.text) ∧
      ∀ f g : Filter, f.text = g.text → f.comparisons = g.comparisons := by
  have written (f : Filter) : f.text.toList = conjunction f.comparisons := String.toList_ofList
  constructor
  · intro text f
    rw [read?_eq_some_iff, ← written]
    exact String.toList_inj
  · intro f g same
    have hf := read?_eq_some_iff.mpr (written f)
    have hg := read?_eq_some_iff.mpr (written g)
    rw [same, hg] at hf
    exact (Option.some.inj hf).symm

-- Marks inside a name and inside an operand end neither.
example : read? "`a\\`b` = 'x'' AND `c` = ''y'" = some [⟨"a`b", .equal, "x' AND `c` = 'y"⟩] := by
  cbv

end Filter

end DataGrid

import DataGrid.Table.Edit

/-!
# Sets of changes

What has to be saved of a table is its **`Table.changes`**: the deleted rows, the new rows that are
not blank, and the modified rows that really differ from what was loaded. They form a table of the
same columns, free of constraints. **`ChangeSummary`** counts what was kept and what was left out.
**`Table.changesWithSummary`** takes both in one pass, in which each row is counted as it is judged.
-/

namespace DataGrid

namespace Value

/-- Whether a cell counts as changed: if it became null or ceased to be null, or if its bytes or its
text differ. -/
def differs : Value → Value → Bool
  | .null, .null => false
  | .null, _ => true
  | _, .null => true
  | .bytes a, .bytes b => a != b
  | v, w => v.text != w.text

end Value

namespace Row

/-- Whether a row differs from its baseline. A row without a baseline cannot be shown to be
unchanged and counts as different. -/
def isReallyModified (r : Row) : Bool :=
  match r.baseline with
  | none => true
  | some values =>
    r.current.length != values.length || (r.current.zip values).any fun (v, w) => v.differs w

/-- Whether a row is new and has nothing to show. -/
def isVacuous (r : Row) : Bool := r.state == .added && r.isBlank

/-- Whether a row has to be saved. -/
def isWorthSaving (r : Row) : Bool :=
  match r.state with
  | .unchanged => false
  | .added => !r.isBlank
  | .modified => r.isReallyModified
  | .deleted => true

end Row

/-- What a set of changes holds and what was left out of it. -/
structure ChangeSummary where
  /-- The rows that are not unchanged. -/
  candidates : Nat := 0
  added : Nat := 0
  modified : Nat := 0
  deleted : Nat := 0
  /-- New rows left out because they are blank. -/
  prunedBlank : Nat := 0
  /-- Modified rows left out because nothing differs. -/
  prunedUnchanged : Nat := 0
  deriving DecidableEq, Repr

namespace ChangeSummary

/-- The number of rows in the set of changes. -/
def kept (s : ChangeSummary) : Nat := s.added + s.modified + s.deleted

/-- Whether there is nothing to save. -/
def isEmpty (s : ChangeSummary) : Bool := s.kept == 0

/-- The summary with one more row counted. -/
def count (s : ChangeSummary) (r : Row) : ChangeSummary :=
  match r.state with
  | .unchanged => s
  | .added =>
    if r.isBlank then { s with candidates := s.candidates + 1, prunedBlank := s.prunedBlank + 1 }
    else { s with candidates := s.candidates + 1, added := s.added + 1 }
  | .modified =>
    if r.isReallyModified then
      { s with candidates := s.candidates + 1, modified := s.modified + 1 }
    else { s with candidates := s.candidates + 1, prunedUnchanged := s.prunedUnchanged + 1 }
  | .deleted => { s with candidates := s.candidates + 1, deleted := s.deleted + 1 }

/-- Whether a row is kept, and the summary in which it is counted as it is judged. -/
def judge (s : ChangeSummary) (r : Row) : Bool × ChangeSummary :=
  let s := if r.state.isChange then { s with candidates := s.candidates + 1 } else s
  match r.state with
  | .unchanged => (false, s)
  | .added =>
    if r.isVacuous then (false, { s with prunedBlank := s.prunedBlank + 1 })
    else (true, { s with added := s.added + 1 })
  | .modified =>
    if !r.isReallyModified then (false, { s with prunedUnchanged := s.prunedUnchanged + 1 })
    else (true, { s with modified := s.modified + 1 })
  | .deleted => (true, { s with deleted := s.deleted + 1 })

/-- The rows of a list that are kept, and the summary once all of them are judged. -/
def sift (s : ChangeSummary) : List Row → List Row × ChangeSummary
  | [] => ([], s)
  | r :: rs =>
    let (kept, s) := s.judge r
    let (rest, s) := s.sift rs
    (if kept then r :: rest else rest, s)

end ChangeSummary

namespace Table

/-- The rows of a table that have to be saved, with their history, as a table of another name
without constraints. -/
def changes (t : Table) (name : String) : Table :=
  (t.project name fun _ r => r.isWorthSaving).clearConstraints

/-- What the changes of a table hold and what was left out of them. -/
def changeSummary (t : Table) : ChangeSummary := t.rows.foldl ChangeSummary.count {}

/-- The changes of a table and their summary, taken in one pass over the rows. -/
def changesWithSummary (t : Table) (name : String) : Table × ChangeSummary :=
  let (rows, summary) := ChangeSummary.sift {} t.rows
  (clearConstraints { t with name, rows }, summary)

end Table

end DataGrid

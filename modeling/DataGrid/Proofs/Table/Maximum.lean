import DataGrid.Proofs.Table.Steps
import DataGrid.Proofs.Value.Numerals
import DataGrid.Table.Query

/-!
# The largest integer of a column

A column is scanned from its first row on, with the largest integer so far at hand. Nulls are passed over,
and the scan ends at the first cell that is neither null nor an integer.

* **`IsLargest`**: what the scan has at hand is the largest of the integers it has seen, or nothing if it
  has seen none. One more integer keeps this (`IsLargest.larger`), and so do all integers of a column
  (`IsLargest.largestFrom`).
* `maxIntFrom_append`: a scan gets past rows whose cells are nulls and integers, and has taken in just
  their integers.
* `maxInt_outcome`: so it gets through, or it stops at the first other cell (**`FirstObstacle`**).
* **`maxInt_largest_or_obstacle`**: the result is nothing exactly if all cells are null, an integer exactly if it is
  attained and all cells are null or integers that are not larger, and an error exactly if there is another
  cell, of which it names the first one.
-/

namespace DataGrid.Table

/-! ## The largest of some integers -/

/-- Whether a result is the largest of some integers, or nothing where there are none. -/
inductive IsLargest : Option Int64 → List Int64 → Prop
  | none : IsLargest none []
  | some {m : Int64} {ns : List Int64} (mem : m ∈ ns) (bound : ∀ n ∈ ns, n.toInt ≤ m.toInt) :
      IsLargest (some m) ns

/-- The largest of some integers and of the one that is there. -/
def largestFrom (best : Option Int64) (ns : List Int64) : Option Int64 :=
  ns.foldl (fun best n => some (larger best n)) best

section isLargest

variable {best best' : Option Int64} {m : Int64} {ns seen : List Int64}

/-- There is no largest integer exactly among none. -/
theorem isLargest_none_iff : IsLargest .none ns ↔ ns = [] := by
  constructor
  · intro h
    cases h
    rfl
  · rintro rfl
    exact .none

/-- An integer is the largest of some exactly if it is one of them and none of them is larger. -/
theorem isLargest_some_iff :
    IsLargest (.some m) ns ↔ m ∈ ns ∧ ∀ n ∈ ns, n.toInt ≤ m.toInt := by
  constructor
  · intro h
    cases h with
    | some mem bound => exact ⟨mem, bound⟩
  · rintro ⟨mem, bound⟩
    exact .some mem bound

/-- Some integers have only one largest. -/
theorem IsLargest.unique (h : IsLargest best ns) (h' : IsLargest best' ns) : best = best' := by
  cases h with
  | none =>
    cases h' with
    | none => rfl
    | some mem' _ => cases mem'
  | some mem bound =>
    cases h' with
    | none => cases mem
    | some mem' bound' =>
      exact congrArg _ (Int64.toInt_inj.mp (Int.le_antisymm (bound' _ mem) (bound _ mem')))

/-- One more integer is taken in. -/
theorem IsLargest.larger (h : IsLargest best seen) (n : Int64) :
    IsLargest (.some (larger best n)) (seen ++ [n]) := by
  cases h with
  | none => exact .some (by simp [Table.larger]) (by simp [Table.larger])
  | @some m _ mem bound =>
    show IsLargest (.some (if m.toInt < n.toInt then n else m)) (seen ++ [n])
    split_ifs with less
    · refine .some (by simp) fun k hk => ?_
      rcases List.mem_append.mp hk with old | new
      · exact Int.le_trans (bound k old) (Int.le_of_lt less)
      · rw [List.mem_singleton.mp new]
    · refine .some (List.mem_append_left _ mem) fun k hk => ?_
      rcases List.mem_append.mp hk with old | new
      · exact bound k old
      · rw [List.mem_singleton.mp new]
        exact Int.not_lt.mp less

/-- All integers of a list are taken in. -/
theorem IsLargest.largestFrom (h : IsLargest best seen) (ns : List Int64) :
    IsLargest (largestFrom best ns) (seen ++ ns) := by
  induction ns generalizing best seen with
  | nil => rwa [List.append_nil]
  | cons n ns ih =>
    have taken := ih (h.larger n)
    rwa [List.append_assoc] at taken

end isLargest

/-! ## The scan -/

/-- The integers in a column of some rows, in order. -/
def integersOf (column : Nat) (rows : List Row) : List Int64 :=
  rows.filterMap fun r => (r.cell? column).bind Value.asInteger?

/-- Whether a scan gets past a row: its cell is null or an integer. -/
def Passable (column : Nat) (r : Row) : Prop := ∃ v, r.cell? column = some v ∧ ¬ v.NotInteger

section scan

variable {name : String} {column row : Nat} {best : Option Int64} {r : Row} {rows front back : List Row}
  {v : Value} {n : Int64}

/-- A null is passed over. -/
theorem maxIntFrom_cons_of_null (cell : r.cell? column = some .null) :
    maxIntFrom name column row best (r :: rows) = maxIntFrom name column (row + 1) best rows := by
  rw [maxIntFrom, cellOf, cell]
  rfl

/-- An integer is taken in. -/
theorem maxIntFrom_cons_of_integer (cell : r.cell? column = some v) (read : v.asInteger? = some n) :
    maxIntFrom name column row best (r :: rows) =
      maxIntFrom name column (row + 1) (some (larger best n)) rows := by
  have filled : v ≠ .null := by
    rintro rfl
    cases read
  rw [maxIntFrom, cellOf, cell]
  show (if v.isNull then _ else _) = _
  rw [Value.isNull_eq_false_iff.mpr filled, read]
  rfl

/-- The scan ends at a cell that is neither null nor an integer, and names it. -/
theorem maxIntFrom_cons_of_notInteger (cell : r.cell? column = some v) (no : v.NotInteger) :
    maxIntFrom name column row best (r :: rows) = .error (.conversion name row v.text .integer) := by
  obtain ⟨filled, none⟩ := Value.notInteger_iff.mp no
  rw [maxIntFrom, cellOf, cell]
  show (if v.isNull then _ else _) = _
  rw [Value.isNull_eq_false_iff.mpr filled, none]
  rfl

/-- A cell that a scan gets past is null, or an integer is read from it. -/
theorem eq_null_or_exists_integer (passed : ¬ v.NotInteger) :
    v = .null ∨ ∃ n, v.asInteger? = some n := by
  rw [Value.notInteger_iff, not_and] at passed
  by_cases null : v = .null
  · exact .inl null
  · exact .inr (Option.ne_none_iff_exists'.mp (passed null))

/-- **A scan gets past rows whose cells are nulls and integers**, and takes in their integers. -/
theorem maxIntFrom_append (passable : ∀ r ∈ front, Passable column r) (back : List Row) :
    maxIntFrom name column row best (front ++ back) =
      maxIntFrom name column (row + front.length) (largestFrom best (integersOf column front)) back := by
  induction front generalizing row best with
  | nil => rfl
  | cons r front ih =>
    obtain ⟨⟨v, cell, passed⟩, others⟩ := List.forall_mem_cons.mp passable
    have next : row + (r :: front).length = row + 1 + front.length := by
      rw [List.length_cons]
      omega
    rw [List.cons_append, next]
    rcases eq_null_or_exists_integer passed with rfl | ⟨n, read⟩
    · have none : integersOf column (r :: front) = integersOf column front := by
        simp [integersOf, cell, Value.asInteger?]
      rw [maxIntFrom_cons_of_null cell, ih others, none]
    · have taken : integersOf column (r :: front) = n :: integersOf column front := by
        simp [integersOf, cell, read]
      rw [maxIntFrom_cons_of_integer cell read, ih others, taken]
      rfl

/-- Rows that all have a cell in the column can be passed, or there is a first one that cannot. -/
theorem passable_or_exists_first (fit : ∀ r ∈ rows, column < r.current.length) :
    (∀ r ∈ rows, Passable column r) ∨
      ∃ front r back v, rows = front ++ r :: back ∧ (∀ s ∈ front, Passable column s) ∧
        r.cell? column = some v ∧ v.NotInteger := by
  induction rows with
  | nil => exact .inl (by simp)
  | cons r rows ih =>
    rw [List.forall_mem_cons] at fit
    have cell : r.cell? column = some r.current[column] := List.getElem?_eq_getElem fit.1
    by_cases no : r.current[column].NotInteger
    · exact .inr ⟨[], r, rows, _, rfl, by simp, cell, no⟩
    · have passed : Passable column r := ⟨_, cell, no⟩
      rcases ih fit.2 with all | ⟨front, s, back, v, rfl, before, found, bad⟩
      · exact .inl (List.forall_mem_cons.mpr ⟨passed, all⟩)
      · exact .inr ⟨r :: front, s, back, v, rfl, List.forall_mem_cons.mpr ⟨passed, before⟩, found, bad⟩

end scan

/-! ## The result -/

/-- Whether a cell is the first one in a column that is neither null nor an integer. -/
structure FirstObstacle (t : Table) (column : String) (row : Nat) (v : Value) : Prop where
  cell : t.value row column = .ok v
  notInteger : v.NotInteger
  first : ∀ before < row, ∀ w, t.value before column = .ok w → ¬ w.NotInteger

variable {t : Table} {column : String} {i row row' : Nat} {v v' : Value} {m n : Int64}

/-- A cell is read exactly if the row is there and is wide enough. -/
theorem value_eq_ok_iff (index : t.columnIndex? column = some i) :
    t.value row column = .ok v ↔ ∃ r, t.rows[row]? = some r ∧ r.cell? i = some v := by
  have cellOf_iff (r : Row) : cellOf r row i column = .ok v ↔ r.cell? i = some v := by
    unfold cellOf
    split <;> simp [*]
  rw [value, requireColumn_eq_ok.mpr index]
  show t.requireRow row >>= _ = _ ↔ _
  simp only [bind_eq_ok, requireRow_eq_ok, cellOf_iff]

/-- A row that has a cell is one of the table. -/
theorem lt_rowCount_of_value (index : t.columnIndex? column = some i)
    (read : t.value row column = .ok v) : row < t.rowCount := by
  obtain ⟨r, found, -⟩ := (value_eq_ok_iff index).mp read
  exact (List.getElem?_eq_some_iff.mp found).1

/-- The integers of a column are those that are read from its cells. -/
theorem mem_integersOf_iff (index : t.columnIndex? column = some i) :
    n ∈ integersOf i t.rows ↔ ∃ row v, t.value row column = .ok v ∧ v.asInteger? = some n := by
  unfold integersOf
  rw [List.mem_filterMap]
  constructor
  · rintro ⟨r, mem, taken⟩
    obtain ⟨v, cell, read⟩ := Option.bind_eq_some_iff.mp taken
    obtain ⟨row, found⟩ := List.mem_iff_getElem?.mp mem
    exact ⟨row, v, (value_eq_ok_iff index).mpr ⟨r, found, cell⟩, read⟩
  · rintro ⟨row, v, cell, read⟩
    obtain ⟨r, found, cell⟩ := (value_eq_ok_iff index).mp cell
    exact ⟨r, List.mem_of_getElem? found, Option.bind_eq_some_iff.mpr ⟨v, cell, read⟩⟩

/-- Without obstacles there are no integers exactly if all cells are null. -/
theorem isLargest_none_integersOf_iff (index : t.columnIndex? column = some i)
    (passed : ∀ row < t.rowCount, ∃ v, t.value row column = .ok v ∧ ¬ v.NotInteger) :
    IsLargest none (integersOf i t.rows) ↔ ∀ row < t.rowCount, t.value row column = .ok .null := by
  rw [isLargest_none_iff, List.eq_nil_iff_forall_not_mem]
  simp only [mem_integersOf_iff index]
  constructor
  · intro none row inRange
    obtain ⟨v, read, no⟩ := passed row inRange
    rcases eq_null_or_exists_integer no with rfl | ⟨n, integer⟩
    · exact read
    · exact absurd ⟨row, v, read, integer⟩ (none n)
  · rintro null n ⟨row, v, read, integer⟩
    rw [null row (lt_rowCount_of_value index read)] at read
    obtain rfl := Except.ok.inj read
    cases integer

/-- Without obstacles an integer is the largest exactly if some cell has it and no cell has a larger
one. -/
theorem isLargest_some_integersOf_iff (index : t.columnIndex? column = some i)
    (passed : ∀ row < t.rowCount, ∃ v, t.value row column = .ok v ∧ ¬ v.NotInteger) :
    IsLargest (some m) (integersOf i t.rows) ↔
      (∃ row v, t.value row column = .ok v ∧ v.asInteger? = some m) ∧
      ∀ row < t.rowCount, ∃ v, t.value row column = .ok v ∧
        (v = .null ∨ ∃ n, v.asInteger? = some n ∧ n.toInt ≤ m.toInt) := by
  rw [isLargest_some_iff]
  simp only [mem_integersOf_iff index]
  refine and_congr_right fun _ => ?_
  constructor
  · intro bound row inRange
    obtain ⟨v, read, no⟩ := passed row inRange
    refine ⟨v, read, (eq_null_or_exists_integer no).imp_right ?_⟩
    rintro ⟨n, integer⟩
    exact ⟨n, integer, bound n ⟨row, v, read, integer⟩⟩
  · rintro bound n ⟨row, v, read, integer⟩
    obtain ⟨w, read', null | ⟨k, integer', le⟩⟩ := bound row (lt_rowCount_of_value index read)
    all_goals obtain rfl := Except.ok.inj (read.symm.trans read')
    · rw [null] at integer
      cases integer
    · rwa [Option.some.inj (integer.symm.trans integer')]

/-- A column has at most one first obstacle. -/
theorem FirstObstacle.unique (h : t.FirstObstacle column row v)
    (h' : t.FirstObstacle column row' v') : row = row' ∧ v = v' := by
  obtain rfl : row = row' := by
    rcases Nat.lt_trichotomy row row' with earlier | same | later
    · exact absurd h.notInteger (h'.first row earlier v h.cell)
    · exact same
    · exact absurd h'.notInteger (h.first row' later v' h'.cell)
  exact ⟨rfl, Except.ok.inj (h.cell.symm.trans h'.cell)⟩

/-- What stands at the first obstacle is not null, and no integer is read from it. -/
theorem FirstObstacle.not_null_or_integer (h : t.FirstObstacle column row v)
    (read : t.value row column = .ok v') : ¬ (v' = .null ∨ ∃ n, v'.asInteger? = some n) := by
  obtain rfl := Except.ok.inj (h.cell.symm.trans read)
  obtain ⟨filled, none⟩ := Value.notInteger_iff.mp h.notInteger
  rw [none]
  simp [filled]

/-- A scan gets through with the largest integer, or it stops at the first obstacle. -/
theorem maxInt_outcome (fit : ∀ r ∈ t.rows, r.current.length = t.width)
    (index : t.columnIndex? column = some i) :
    (∃ result, t.maxInt column = .ok result ∧ IsLargest result (integersOf i t.rows) ∧
      ∀ row < t.rowCount, ∃ v, t.value row column = .ok v ∧ ¬ v.NotInteger) ∨
    ∃ row v, t.FirstObstacle column row v ∧
      t.maxInt column = .error (.conversion column row v.text .integer) := by
  have scan : t.maxInt column = maxIntFrom column i 0 none t.rows := by
    rw [maxInt, requireColumn_eq_ok.mpr index]
    rfl
  have inside : ∀ r ∈ t.rows, i < r.current.length := by
    intro r hr
    rw [fit r hr]
    exact columnIndex?_lt index
  rcases passable_or_exists_first inside with
    passable | ⟨front, r, back, v, split, passable, cell, no⟩
  · have result : maxIntFrom column i 0 none (t.rows ++ []) = _ := maxIntFrom_append passable []
    rw [List.append_nil] at result
    refine .inl ⟨_, scan.trans result, IsLargest.none.largestFrom _, fun row inRange => ?_⟩
    obtain ⟨v, cell, passed⟩ := passable _ (List.getElem_mem inRange)
    exact ⟨v, (value_eq_ok_iff index).mpr ⟨_, List.getElem?_eq_getElem inRange, cell⟩, passed⟩
  · have place : t.rows[front.length]? = some r := by simp [split]
    have stops : t.maxInt column = .error (.conversion column front.length v.text .integer) := by
      rw [scan, split, maxIntFrom_append passable, maxIntFrom_cons_of_notInteger cell no, Nat.zero_add]
    refine .inr ⟨front.length, v, ⟨(value_eq_ok_iff index).mpr ⟨r, place, cell⟩, no, ?_⟩, stops⟩
    intro before earlier w read
    obtain ⟨s, found, cell'⟩ := (value_eq_ok_iff index).mp read
    rw [split, List.getElem?_append_left earlier] at found
    obtain ⟨w', cell'', passed⟩ := passable s (List.mem_of_getElem? found)
    rwa [Option.some.inj (cell'.symm.trans cell'')]

/-- **The largest integer of a column is its maximum, or the first cell that has none is named.** In a table
whose rows are as wide as it is, the result for a column that is there is nothing exactly if all cells of
the column are null. It is an integer exactly if some cell has it and every cell is null or has one that is
not larger; rows in all states count. Otherwise it is an error, which names the first cell that is neither
null nor an integer. Such a cell is not null, and no integer is read from it. -/
theorem maxInt_largest_or_obstacle (fit : ∀ r ∈ t.rows, r.current.length = t.width)
    (known : column ∈ t.columns.map (·.name)) :
    (t.maxInt column = .ok none ↔ ∀ row < t.rowCount, t.value row column = .ok .null) ∧
    (∀ m, t.maxInt column = .ok (some m) ↔
      (∃ row v, t.value row column = .ok v ∧ v.asInteger? = some m) ∧
      ∀ row < t.rowCount, ∃ v, t.value row column = .ok v ∧
        (v = .null ∨ ∃ n, v.asInteger? = some n ∧ n.toInt ≤ m.toInt)) ∧
    (∀ e, t.maxInt column = .error e ↔ ∃ row v, t.FirstObstacle column row v ∧
      e = .conversion column row v.text .integer) ∧
    ∀ v : Value, v.NotInteger ↔ v ≠ .null ∧ v.asInteger? = none := by
  obtain ⟨i, index⟩ := exists_columnIndex?_of_mem known
  rcases maxInt_outcome fit index with ⟨result, gives, largest, passed⟩ | ⟨row, v, obstacle, stops⟩
  · have given {expected : Option Int64} : t.maxInt column = .ok expected ↔
        IsLargest expected (integersOf i t.rows) := by
      rw [gives, Except.ok.injEq]
      exact ⟨fun h => h ▸ largest, fun h => largest.unique h⟩
    refine ⟨?_, fun m => ?_, fun e => ?_, fun v => Value.notInteger_iff⟩
    · rw [given, isLargest_none_integersOf_iff index passed]
    · rw [given, isLargest_some_integersOf_iff index passed]
    · refine iff_of_false (by simp [gives]) ?_
      rintro ⟨row, v, obstacle, -⟩
      obtain ⟨w, read, no⟩ := passed row (lt_rowCount_of_value index obstacle.cell)
      exact obstacle.not_null_or_integer read (eq_null_or_exists_integer no)
  · have inRange : row < t.rowCount := lt_rowCount_of_value index obstacle.cell
    refine ⟨?_, fun m => ?_, fun e => ?_, fun v => Value.notInteger_iff⟩
    · refine iff_of_false (by simp [stops]) fun null => ?_
      exact obstacle.not_null_or_integer (null row inRange) (.inl rfl)
    · refine iff_of_false (by simp [stops]) ?_
      rintro ⟨-, bound⟩
      obtain ⟨w, read, shown⟩ := bound row inRange
      exact obstacle.not_null_or_integer read (shown.imp_right fun ⟨n, integer, _⟩ => ⟨n, integer⟩)
    · rw [stops, Except.error.injEq]
      constructor
      · rintro rfl
        exact ⟨row, v, obstacle, rfl⟩
      · rintro ⟨row', v', obstacle', rfl⟩
        obtain ⟨rfl, rfl⟩ := obstacle.unique obstacle'
        rfl

/-- An integer, a text and a numeral at the ends of the range, with nulls between them and a deleted row;
and in the other column a text that is out of range by one, after a null and before bytes. -/
theorem maxInt_largest_or_obstacle_five_rows :
    let t : Table := ⟨"Stock", [.named "COUNT" .number, .named "NOTE" .string],
      [.unchanged [.integer (-3), .null],
        .added [.string " -9223372036854775808 ", .string "9223372036854775808"],
        .modified [.float .nan, .null] [.null, .bytes [1]],
        .deleted [.decimal "+9223372036854775807", .boolean true], .unchanged [.null, .null]]⟩
    ((∀ r ∈ t.rows, r.current.length = t.width) ∧ "COUNT" ∈ t.columns.map (·.name) ∧
      "NOTE" ∈ t.columns.map (·.name)) ∧
    t.maxInt "COUNT" = .ok (some Int64.maxValue) ∧
    ((∃ row v, t.value row "COUNT" = .ok v ∧ v.asInteger? = some Int64.maxValue) ∧
      ∀ row < t.rowCount, ∃ v, t.value row "COUNT" = .ok v ∧
        (v = .null ∨ ∃ n, v.asInteger? = some n ∧ n.toInt ≤ Int64.maxValue.toInt)) ∧
    t.maxInt "NOTE" = .error (.conversion "NOTE" 1 "9223372036854775808" .integer) ∧
    ∃ row v, t.FirstObstacle "NOTE" row v ∧
      TableError.conversion "NOTE" 1 "9223372036854775808" .integer =
        .conversion "NOTE" row v.text .integer := by
  intro t
  have fit : ∀ r ∈ t.rows, r.current.length = t.width := by decide
  have count : "COUNT" ∈ t.columns.map (·.name) := by decide
  have note : "NOTE" ∈ t.columns.map (·.name) := by decide
  have largest : t.maxInt "COUNT" = .ok (some Int64.maxValue) := by decide +kernel
  have stops : t.maxInt "NOTE" = .error (.conversion "NOTE" 1 "9223372036854775808" .integer) := by
    decide +kernel
  exact ⟨⟨fit, count, note⟩, largest, ((maxInt_largest_or_obstacle fit count).2.1 _).mp largest, stops,
    ((maxInt_largest_or_obstacle fit note).2.2.1 _).mp stops⟩

end DataGrid.Table

import DataGrid.Proofs.Search.Operators
import DataGrid.Proofs.Search.Order
import DataGrid.Proofs.Search.Pattern

/-!
# When applying a filter fails

A filter that has been resolved may still fail on a row, and then it has no view.

* `Filter.matchesRow_eq_inTurn`: a filter tests a row with one comparison after the other, each of them
  as a filter by itself would.
* `Comparison.answer_eq_error_iff`: testing a single comparison fails at a cell of a numeric column that is
  neither null nor a number, unless the comparison asks for a pattern.
* **`Filter.StopsAt`**: so a filter stops at such a cell where the comparisons in front do not take the row
  away first.
* **`Filter.failure_iff_stopsAt`**: a filter fails exactly if it stops at some cell of a row that is not
  deleted. The error names the first row where it does.
-/

namespace DataGrid

/-! ## One row -/

section row

variable {f : Filter} {g : ResolvedFilter} {t : Table} {kinds : ColumnKinds} {options : FilterOptions}
  {row : Nat} {r : Row} {c : Comparison} {d : ResolvedComparison} {w : Char} {e : FilterError}

/-- The comparisons of a row are tested in turn, each as a filter of its own would answer. -/
theorem ResolvedFilter.acceptsAll_eq_inTurn (wildcard : g.wildcard = w)
    (caseSensitive : g.caseSensitive = options.caseSensitive) (found : t.rows[row]? = some r)
    {cs : List Comparison} {ds : List ResolvedComparison}
    (resolved : cs.mapM (·.resolve t kinds options) = .ok ds) :
    g.acceptsAll row r ds = inTurn (fun c => (Filter.mk [c] w).answer t kinds options row) cs := by
  induction cs generalizing ds with
  | nil =>
    cases resolved
    rfl
  | cons c cs ih =>
    rw [List.mapM_cons] at resolved
    obtain ⟨d, hd, rest⟩ := bind_eq_ok.mp resolved
    obtain ⟨ds, hds, last⟩ := bind_eq_ok.mp rest
    obtain rfl := pure_eq_ok.mp last
    have single : (Filter.mk [c] w).answer t kinds options row = g.accepts row r d := by
      rw [Filter.answer_singleton hd found]
      subst wildcard
      rw [← caseSensitive]
      rfl
    rw [acceptsAll, inTurn, single, ih hds]

/-- So a filter tests a row by the answers of its comparisons in turn. -/
theorem Filter.matchesRow_eq_inTurn (resolved : f.resolve t kinds options = .ok g)
    (found : t.rows[row]? = some r) :
    g.matchesRow row r =
      inTurn (fun c => (Filter.mk [c] f.wildcard).answer t kinds options row) f.comparisons := by
  obtain ⟨ds, mapped, rfl⟩ := Filter.resolve_eq_ok_iff.mp resolved
  exact ResolvedFilter.acceptsAll_eq_inTurn rfl rfl found mapped

/-- Each comparison of a filter that can be resolved can be resolved. -/
theorem Filter.exists_resolve_of_mem (resolved : f.resolve t kinds options = .ok g)
    (mem : c ∈ f.comparisons) : ∃ d, c.resolve t kinds options = .ok d := by
  obtain ⟨ds, mapped, -⟩ := Filter.resolve_eq_ok_iff.mp resolved
  exact exists_mapM_iff.mp ⟨ds, mapped⟩ c mem

/-- Patterns and texts are compared with every cell, and numbers with all but those that hold none. -/
theorem Comparison.answer_eq_error_iff (resolved : c.resolve t kinds options = .ok d)
    (found : t.rows[row]? = some r) :
    (Filter.mk [c] w).answer t kinds options row = .error e ↔
      c.operator ≠ .like ∧ ∃ index v, t.findKind? kinds c.column = some (index, .numeric) ∧
        r.cell? index = some v ∧ v.IsUnreadable .numeric ∧
        e = .table (.conversion c.column row v.text .number) := by
  obtain ⟨index, kind, test, column, tested, rfl⟩ := resolve_eq_ok_iff.mp resolved
  rw [Filter.answer_singleton resolved found]
  obtain ⟨name, o, operand⟩ := c
  by_cases like : o = .like
  · obtain ⟨pattern, rfl⟩ : ∃ pattern, test = .pattern pattern := by
      subst like
      cases kind <;> cases tested
      all_goals exact ⟨_, rfl⟩
    rw [ResolvedFilter.accepts_eq_ok fun v => ResolvedFilter.satisfies_pattern rfl]
    simp [like]
  · rw [ResolvedFilter.accepts_eq_error_iff (compares_of_test like tested) rfl, column]
    constructor
    · rintro ⟨⟨rfl, shown, number⟩, rfl⟩
      cases cell : r.cell? index with
      | none =>
        rw [cell] at shown
        cases shown
      | some v =>
        rw [cell] at shown number
        exact ⟨like, index, v, rfl, cell, ⟨rfl, shown, number⟩, by rw [Option.getD_some]⟩
    · rintro ⟨-, index', v, same, cell, unreadable, rfl⟩
      obtain ⟨rfl, rfl⟩ := Prod.mk.inj (Option.some.inj same)
      rw [cell, Option.getD_some]
      exact ⟨unreadable, rfl⟩

end row

/-! ## All rows -/

/-- Whether a filter stops at a comparison because of a cell in a row of a table: the row is not deleted
and accepted by all comparisons in front, and the comparison asks how a number compares with a cell that
is neither null nor a number. -/
structure Filter.StopsAt (f : Filter) (t : Table) (kinds : ColumnKinds) (options : FilterOptions)
    (row : Nat) (c : Comparison) (v : Value) : Prop where
  reached : ∃ front back, f.comparisons = front ++ c :: back ∧
    ∀ d ∈ front, (Filter.mk [d] f.wildcard).answer t kinds options row = .ok true
  compares : c.operator ≠ .like
  cell : ∃ r index, t.rows[row]? = some r ∧ r.state ≠ .deleted ∧
    t.findKind? kinds c.column = some (index, .numeric) ∧ r.cell? index = some v
  shown : v.isNull = false
  notNumber : v.asNumber? = none

section table

variable {f : Filter} {g : ResolvedFilter} {t : Table} {kinds : ColumnKinds} {options : FilterOptions}
  {row : Nat} {r : Row} {e : FilterError}

/-- A filter fails on a row exactly if it stops at one of its cells, and the error names this cell. -/
theorem Filter.failsOn_iff (resolved : f.resolve t kinds options = .ok g)
    (found : t.rows[row]? = some r) :
    g.FailsOn row r e ↔ ∃ c v, f.StopsAt t kinds options row c v ∧
      e = .table (.conversion c.column row v.text .number) := by
  rw [ResolvedFilter.FailsOn, matchesRow_eq_inTurn resolved found, inTurn_eq_error_iff]
  constructor
  · rintro ⟨live, front, c, back, split, passed, fails⟩
    obtain ⟨d, hd⟩ := exists_resolve_of_mem resolved (c := c) (by simp [split])
    obtain ⟨ne, index, v, column, cell, ⟨-, shown, number⟩, rfl⟩ :=
      (Comparison.answer_eq_error_iff hd found).mp fails
    exact ⟨c, v, ⟨⟨front, back, split, passed⟩, ne, ⟨r, index, found, live, column, cell⟩, shown,
      number⟩, rfl⟩
  · rintro ⟨c, v, ⟨⟨front, back, split, passed⟩, ne, ⟨r', index, found', live, column, cell⟩, shown,
      number⟩, rfl⟩
    obtain rfl := Option.some.inj (found.symm.trans found')
    obtain ⟨d, hd⟩ := exists_resolve_of_mem resolved (c := c) (by simp [split])
    exact ⟨live, front, c, back, split, passed, (Comparison.answer_eq_error_iff hd found).mpr
      ⟨ne, index, v, column, cell, ⟨rfl, shown, number⟩, rfl⟩⟩

/-- **When a filter that has been resolved fails.** It does exactly if it stops at some cell. The error
then tells the column and the text of a cell at which it stops in the first row where it does, and
there is no other error. -/
theorem Filter.failure_iff_stopsAt (resolved : f.resolve t kinds options = .ok g) :
    ((∃ e, g.apply t = .error e) ↔ ∃ row c v, f.StopsAt t kinds options row c v) ∧
    ∀ e, g.apply t = .error e ↔
      ∃ row c v, f.StopsAt t kinds options row c v ∧
        (∀ row' c' v', f.StopsAt t kinds options row' c' v' → row ≤ row') ∧
        e = .table (.conversion c.column row v.text .number) := by
  have first (e : FilterError) : g.apply t = .error e ↔
      ∃ row c v, f.StopsAt t kinds options row c v ∧
        (∀ row' c' v', f.StopsAt t kinds options row' c' v' → row ≤ row') ∧
        e = .table (.conversion c.column row v.text .number) := by
    rw [ResolvedFilter.apply_eq_error_iff]
    constructor
    · rintro ⟨row, r, found, fails, earlier⟩
      obtain ⟨c, v, stops, rfl⟩ := (failsOn_iff resolved found).mp fails
      refine ⟨row, c, v, stops, fun row' c' v' stops' => ?_, rfl⟩
      by_contra before
      obtain ⟨r', -, found', -⟩ := stops'.cell
      exact earlier row' (Nat.lt_of_not_le before) r' _ found'
        ((failsOn_iff resolved found').mpr ⟨c', v', stops', rfl⟩)
    · rintro ⟨row, c, v, stops, least, rfl⟩
      obtain ⟨r, -, found, -⟩ := stops.cell
      refine ⟨row, r, found, (failsOn_iff resolved found).mpr ⟨c, v, stops, rfl⟩, ?_⟩
      intro row' before r' e' found' fails
      obtain ⟨c', v', stops', -⟩ := (failsOn_iff resolved found').mp fails
      exact absurd (least row' c' v' stops') (Nat.not_le_of_lt before)
  refine ⟨⟨fun ⟨e, fails⟩ => ?_, fun stops => ?_⟩, first⟩
  · obtain ⟨row, c, v, stops, -⟩ := (first e).mp fails
    exact ⟨row, c, v, stops⟩
  · classical
    -- the first row in which the filter stops
    obtain ⟨c, v, here⟩ := Nat.find_spec stops
    exact ⟨_, (first _).mpr ⟨_, c, v, here, fun row' c' v' h => Nat.find_min' stops ⟨c', v', h⟩, rfl⟩⟩

end table

/-- Rows at which a filter does not stop: one is deleted, in two the cell is null or not-a-number, and one
is not accepted by the comparison in front. The filter stops in the fifth row and never comes to the
sixth, where it would stop as well. -/
theorem Filter.failure_iff_stopsAt_six_rows :
    let bad : Value := .string "n/a"
    let t : Table := ⟨"Orders", [.named "NAME" .string, .named "SUM" .number],
      [.deleted [.string "Ann", bad], .unchanged [.string "Ann", .null],
        .unchanged [.string "Ann", .float .nan], .unchanged [.string "Bob", bad],
        .modified [.null, .null] [.string "Ann", bad], .added [.string "Ann", .boolean true]]⟩
    let f : Filter := ⟨[⟨"NAME", .notEqual, "bob"⟩, ⟨"SUM", .like, "%"⟩, ⟨"SUM", .greaterThan, "1"⟩], '%'⟩
    let g : ResolvedFilter := ⟨[⟨"NAME", 0, .notEqual, .text "bob".toList⟩,
      ⟨"SUM", 1, .like, .pattern "%".toList⟩, ⟨"SUM", 1, .greaterThan, .number (.ofInt 1)⟩], '%', false⟩
    let e : FilterError := .table (.conversion "SUM" 4 "n/a" .number)
    (f.resolve t .empty {} = .ok g ∧ g.apply t = .error e) ∧
    (∃ row c v, f.StopsAt t .empty {} row c v) ∧
    ∃ row c v, f.StopsAt t .empty {} row c v ∧
      (∀ row' c' v', f.StopsAt t .empty {} row' c' v' → row ≤ row') ∧
      e = .table (.conversion c.column row v.text .number) := by
  intro bad t f g e
  have resolved : f.resolve t .empty {} = .ok g := by decide +kernel
  have applied : g.apply t = .error e := by decide +kernel
  obtain ⟨fails, first⟩ := failure_iff_stopsAt resolved
  exact ⟨⟨resolved, applied⟩, fails.mp ⟨e, applied⟩, (first e).mp applied⟩

end DataGrid

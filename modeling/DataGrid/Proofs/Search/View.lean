import DataGrid.Proofs.Outcome
import DataGrid.Proofs.Search.Terms
import DataGrid.Search.Resolved
import Mathlib.Data.List.Sort

/-!
# The rows in view

The rows that a filter leaves in view are those that are not deleted and pass it. Testing a row may
fail, and so may resolving a filter, so that a filter has a view only if neither does.

* `apply_eq_ok_iff`: a filter has a view exactly if testing succeeds for each row that is not
  deleted, and the view is then the list of the indices of the rows that pass (**`Shows`**). Otherwise
  the first row on which testing fails gives the error (`apply_eq_error_iff`).
* `acceptsAll_append`: two lists of comparisons together are tested one after the other, the second
  only if the first accepts the row. So if each of them can be tested, both together can
  (`matchesRow_extend`).
* **`apply_conjunctive`**: the view of two lists of entries together has the rows that are in both
  views.
-/

namespace DataGrid

/-- The rows of a table that are not deleted, with their indices. -/
def Table.liveRows (t : Table) : List (Row × Nat) := t.rows.zipIdx.filter (·.1.state ≠ .deleted)

/-- The indices of the rows of a table that are not deleted, in order. -/
def Table.liveIndices (t : Table) : List Nat :=
  (t.rows.zipIdx.filter (·.1.state ≠ .deleted)).map (·.2)

/-- The rows that are not deleted, each at its own index. -/
theorem Table.mem_liveRows_iff {t : Table} {p : Row × Nat} :
    p ∈ t.liveRows ↔ t.rows[p.2]? = some p.1 ∧ p.1.state ≠ .deleted := by
  rw [liveRows, List.mem_filter, List.mem_zipIdx_iff_getElem?, decide_eq_true_iff]

namespace ResolvedFilter

variable {f g : ResolvedFilter} {t : Table} {row : Nat} {r : Row} {a b : List Nat}

/-! ## One row -/

/-- Whether a row, given with its index, is in view: it is not deleted and passes the filter. -/
def Shows (f : ResolvedFilter) (row : Nat) (r : Row) : Prop :=
  r.state ≠ .deleted ∧ f.matchesRow row r = .ok true

instance : Decidable (f.Shows row r) :=
  inferInstanceAs (Decidable (r.state ≠ .deleted ∧ f.matchesRow row r = .ok true))

/-- Testing a row uses only how a filter reads patterns and texts. -/
theorem acceptsAll_congr (wildcard : f.wildcard = g.wildcard)
    (caseSensitive : f.caseSensitive = g.caseSensitive) (cs : List ResolvedComparison) :
    f.acceptsAll row r cs = g.acceptsAll row r cs := by
  obtain ⟨_, w, s⟩ := f
  obtain ⟨_, w', s'⟩ := g
  subst wildcard caseSensitive
  induction cs with
  | nil => rfl
  | cons c cs ih =>
    rw [acceptsAll, acceptsAll, ih]
    rfl

/-- The second of two lists of comparisons is tested only if the first accepts the row. -/
theorem acceptsAll_append (f : ResolvedFilter) (row : Nat) (r : Row)
    (cs ds : List ResolvedComparison) :
    f.acceptsAll row r (cs ++ ds) =
      f.acceptsAll row r cs >>= fun passed => if passed then f.acceptsAll row r ds else .ok false := by
  induction cs with
  | nil => rfl
  | cons c cs ih =>
    rw [List.cons_append, acceptsAll, acceptsAll, bind_assoc]
    congr 1
    funext accepted
    cases accepted with
    | true => exact ih
    | false => rfl

/-! ## All rows -/

/-- A row that is not deleted is in view exactly if it passes the filter. -/
theorem shows_iff_of_matchesRow {passes : Bool} (live : r.state ≠ .deleted)
    (h : f.matchesRow row r = .ok passes) : f.Shows row r ↔ passes = true := by
  simp [Shows, live, h]

/-- The loop over the rows has a result exactly if every row that is not deleted can be tested, and the
result is the indices of those in view. -/
theorem applyFrom_eq_ok_iff {rows : List Row} {index : Nat} :
    f.applyFrom index rows = .ok a ↔
      (∀ p ∈ rows.zipIdx index, p.1.state ≠ .deleted → ∃ b, f.matchesRow p.2 p.1 = .ok b) ∧
        ((rows.zipIdx index).filter fun p => f.Shows p.2 p.1).map (·.2) = a := by
  induction rows generalizing index a with
  | nil => simp [applyFrom]
  | cons r rows ih =>
    rw [applyFrom, List.zipIdx_cons, List.forall_mem_cons]
    by_cases deleted : r.state = .deleted
    · have hidden : ¬ f.Shows index r := fun h => h.1 deleted
      rw [if_pos deleted, List.filter_cons_of_neg (by simpa using hidden), ih]
      simp [deleted]
    · rw [if_neg deleted]
      have head (passes : Bool) (hr : f.matchesRow index r = .ok passes) (later : List (Row × Nat)) :
          (((r, index) :: later).filter fun p => f.Shows p.2 p.1).map (·.2) =
            if passes then index :: (later.filter fun p => f.Shows p.2 p.1).map (·.2)
            else (later.filter fun p => f.Shows p.2 p.1).map (·.2) := by
        cases passes <;> simp [shows_iff_of_matchesRow deleted hr]
      simp only [bind_eq_ok, pure_eq_ok, ih]
      constructor
      · rintro ⟨passes, hr, later, ⟨tested, rfl⟩, rfl⟩
        exact ⟨⟨fun _ => ⟨passes, hr⟩, tested⟩, head passes hr _⟩
      · rintro ⟨⟨testedHead, tested⟩, rfl⟩
        obtain ⟨passes, hr⟩ := testedHead deleted
        exact ⟨passes, hr, _, ⟨tested, rfl⟩, (head passes hr _).symm⟩

/-- A filter has a view exactly if it can be tested on each row that is not deleted, and then the
rows it shows are in view. -/
theorem apply_eq_ok_iff :
    f.apply t = .ok a ↔
      (∀ row r, t.rows[row]? = some r → r.state ≠ .deleted → ∃ b, f.matchesRow row r = .ok b) ∧
        (t.rows.zipIdx.filter fun p => f.Shows p.2 p.1).map (·.2) = a := by
  rw [apply, applyFrom_eq_ok_iff]
  refine and_congr_left fun _ => ⟨fun h row r hr => ?_, fun h p hp => ?_⟩
  · exact h (r, row) (List.mem_zipIdx_iff_getElem?.mpr hr)
  · exact h p.2 p.1 (List.mem_zipIdx_iff_getElem?.mp hp)

/-- Whether testing a row, given with its index, fails with an error: the row is not deleted, and the
filter cannot be tested on it. -/
def FailsOn (f : ResolvedFilter) (row : Nat) (r : Row) (e : FilterError) : Prop :=
  r.state ≠ .deleted ∧ f.matchesRow row r = .error e

/-- The loop fails at the first row, or passes it and fails later. -/
theorem applyFrom_cons_eq_error_iff {rows : List Row} {index : Nat} {e : FilterError} :
    f.applyFrom index (r :: rows) = .error e ↔
      f.FailsOn index r e ∨ (∀ e', ¬ f.FailsOn index r e') ∧ f.applyFrom (index + 1) rows = .error e := by
  by_cases deleted : r.state = .deleted
  · simp [applyFrom, FailsOn, deleted]
  · rw [applyFrom, if_neg deleted, bind_eq_error]
    cases tested : f.matchesRow index r with
    | error e' =>
      have fails : f.FailsOn index r e' := ⟨deleted, tested⟩
      have own : f.FailsOn index r e ↔ e' = e := by simp [FailsOn, deleted, tested]
      simp only [own, Except.error.injEq, reduceCtorEq, false_and, exists_false, or_false]
      exact (or_iff_left fun h => h.1 e' fails).symm
    | ok passes =>
      have runs (e' : FilterError) : ¬ f.FailsOn index r e' := fun h => by
        rw [h.2] at tested
        cases tested
      simp only [runs, reduceCtorEq, false_or, Except.ok.injEq, exists_eq_left', not_false_eq_true,
        implies_true, true_and, bind_eq_error, pure_ne_error, and_false, exists_false, or_false]

/-- The loop fails with the error of the first row on which testing fails. -/
theorem applyFrom_eq_error_iff {rows : List Row} {index : Nat} {e : FilterError} :
    f.applyFrom index rows = .error e ↔
      ∃ n r, rows[n]? = some r ∧ f.FailsOn (index + n) r e ∧
        ∀ m < n, ∀ r' e', rows[m]? = some r' → ¬ f.FailsOn (index + m) r' e' := by
  induction rows generalizing index with
  | nil => simp [applyFrom]
  | cons r rows ih =>
    have shift (n : Nat) : index + 1 + n = index + (n + 1) := Nat.add_right_comm index 1 n
    simp only [applyFrom_cons_eq_error_iff, ih, shift]
    constructor
    · rintro (here | ⟨runs, n, s, hs, fails, earlier⟩)
      · exact ⟨0, r, rfl, here, fun m hm => absurd hm m.not_lt_zero⟩
      · refine ⟨n + 1, s, hs, fails, fun m hm r' e' hr' => ?_⟩
        cases m with
        | zero =>
          obtain rfl := Option.some.inj hr'
          exact runs e'
        | succ m => exact earlier m (Nat.lt_of_succ_lt_succ hm) r' e' hr'
    · rintro ⟨n, s, hs, fails, earlier⟩
      cases n with
      | zero =>
        obtain rfl := Option.some.inj hs
        exact .inl fails
      | succ n =>
        exact .inr ⟨fun e' => earlier 0 n.succ_pos r e' rfl, n, s, hs, fails, fun m hm r' e' hr' =>
          earlier (m + 1) (Nat.succ_lt_succ hm) r' e' hr'⟩

/-- **A filter fails with the error of the first row on which testing it fails.** -/
theorem apply_eq_error_iff {e : FilterError} :
    f.apply t = .error e ↔
      ∃ row r, t.rows[row]? = some r ∧ f.FailsOn row r e ∧
        ∀ row' < row, ∀ r' e', t.rows[row']? = some r' → ¬ f.FailsOn row' r' e' := by
  simp only [apply, applyFrom_eq_error_iff, Nat.zero_add]

/-- Indices of rows that are picked in order are strictly ascending. -/
theorem pairwise_lt_map_filter_zipIdx (rows : List Row) (pick : Row × Nat → Bool) :
    ((rows.zipIdx.filter pick).map (·.2)).Pairwise (· < ·) := by
  have ascending : (rows.zipIdx.map (·.2)).Pairwise (· < ·) := by
    rw [List.zipIdx_map_snd]
    exact List.pairwise_lt_range'
  exact ascending.sublist (List.filter_sublist.map _)

/-- The rows in view are strictly ascending. -/
theorem pairwise_lt_of_apply (h : f.apply t = .ok a) : a.Pairwise (· < ·) :=
  (apply_eq_ok_iff.mp h).2 ▸ pairwise_lt_map_filter_zipIdx _ _

/-- The rows in view are those that are shown. -/
theorem mem_of_apply_iff (h : f.apply t = .ok a) :
    row ∈ a ↔ ∃ r, t.rows[row]? = some r ∧ f.Shows row r := by
  rw [← (apply_eq_ok_iff.mp h).2, List.mem_map]
  constructor
  · rintro ⟨⟨r, row⟩, hp, rfl⟩
    obtain ⟨hr, shows⟩ := List.mem_filter.mp hp
    exact ⟨r, List.mem_zipIdx_iff_getElem?.mp hr, by simpa using shows⟩
  · rintro ⟨r, hr, shows⟩
    have hp : (r, row) ∈ t.rows.zipIdx := List.mem_zipIdx_iff_getElem?.mpr hr
    exact ⟨(r, row), List.mem_filter.mpr ⟨hp, by simpa using shows⟩, rfl⟩

/-- A single row can be tested exactly if it is there and testing it succeeds. -/
theorem isMatch_eq_ok_iff {p : Bool} :
    f.isMatch t row = .ok p ↔ ∃ r, t.rows[row]? = some r ∧ f.matchesRow row r = .ok p := by
  unfold isMatch
  cases t.rows[row]? <;> simp

/-! ## Two filters -/

/-- A filter with more comparisons. -/
def extend (f : ResolvedFilter) (cs : List ResolvedComparison) : ResolvedFilter :=
  { f with comparisons := f.comparisons ++ cs }

/-- The comparisons of a second filter are tested after those of the first, if these are satisfied. -/
theorem matchesRow_extend_eq (wildcard : f.wildcard = g.wildcard)
    (caseSensitive : f.caseSensitive = g.caseSensitive) (row : Nat) (r : Row) :
    (f.extend g.comparisons).matchesRow row r =
      f.matchesRow row r >>= fun passed => if passed then g.matchesRow row r else .ok false := by
  have same (cs : List ResolvedComparison) : g.acceptsAll row r cs = f.acceptsAll row r cs :=
    acceptsAll_congr wildcard.symm caseSensitive.symm cs
  have own : (f.extend g.comparisons).acceptsAll row r (f.comparisons ++ g.comparisons) =
      f.acceptsAll row r (f.comparisons ++ g.comparisons) :=
    acceptsAll_congr (f := f.extend g.comparisons) (g := f) rfl rfl _
  rw [matchesRow, matchesRow, matchesRow, same, ← acceptsAll_append]
  exact own

/-- A row that can be tested with two filters passes the filter with the comparisons of both exactly if
it passes each. -/
theorem matchesRow_extend {p q : Bool} (wildcard : f.wildcard = g.wildcard)
    (caseSensitive : f.caseSensitive = g.caseSensitive) (hp : f.matchesRow row r = .ok p)
    (hq : g.matchesRow row r = .ok q) :
    (f.extend g.comparisons).matchesRow row r = .ok (p && q) := by
  rw [matchesRow_extend_eq wildcard caseSensitive, hp]
  cases p with
  | true => exact hq
  | false => rfl

/-- Where two filters both have a view, the filter with the comparisons of both has one, and it
shows what both show. -/
theorem apply_extend (wildcard : f.wildcard = g.wildcard)
    (caseSensitive : f.caseSensitive = g.caseSensitive) (ha : f.apply t = .ok a)
    (hb : g.apply t = .ok b) : (f.extend g.comparisons).apply t = .ok (a.filter (· ∈ b)) := by
  have tested := (apply_eq_ok_iff.mp ha).1
  have tested' := (apply_eq_ok_iff.mp hb).1
  have shows (row : Nat) (r : Row) (hr : t.rows[row]? = some r) :
      (f.extend g.comparisons).Shows row r ↔ f.Shows row r ∧ g.Shows row r := by
    by_cases live : r.state = .deleted
    · simp [Shows, live]
    · obtain ⟨p, hp⟩ := tested row r hr live
      obtain ⟨q, hq⟩ := tested' row r hr live
      have hpq := matchesRow_extend wildcard caseSensitive hp hq
      rw [shows_iff_of_matchesRow live hpq, shows_iff_of_matchesRow live hp,
        shows_iff_of_matchesRow live hq, Bool.and_eq_true]
  have applied : (f.extend g.comparisons).apply t = .ok
      ((t.rows.zipIdx.filter fun p => (f.extend g.comparisons).Shows p.2 p.1).map (·.2)) := by
    refine apply_eq_ok_iff.mpr ⟨fun row r hr live => ?_, rfl⟩
    obtain ⟨p, hp⟩ := tested row r hr live
    obtain ⟨q, hq⟩ := tested' row r hr live
    exact ⟨_, matchesRow_extend wildcard caseSensitive hp hq⟩
  rw [applied]
  congr 1
  refine List.Pairwise.eq_of_mem_iff (pairwise_lt_of_apply applied)
    ((pairwise_lt_of_apply ha).filter _) fun row => ?_
  rw [mem_of_apply_iff applied, List.mem_filter, decide_eq_true_iff, mem_of_apply_iff ha,
    mem_of_apply_iff hb]
  constructor
  · rintro ⟨r, hr, h⟩
    exact ⟨⟨r, hr, ((shows row r hr).mp h).1⟩, r, hr, ((shows row r hr).mp h).2⟩
  · rintro ⟨⟨r, hr, h⟩, r', hr', h'⟩
    rw [hr] at hr'
    cases hr'
    exact ⟨r, hr, (shows row r hr).mpr ⟨h, h'⟩⟩

end ResolvedFilter

/-! ## Entries -/

namespace Filter

variable {t : Table} {kinds : ColumnKinds} {options : FilterOptions}

/-- A filter is resolved by resolving its comparisons. -/
theorem resolve_eq_ok_iff {f : Filter} {resolved : ResolvedFilter} :
    f.resolve t kinds options = .ok resolved ↔
      ∃ cs, f.comparisons.mapM (·.resolve t kinds options) = .ok cs ∧
        ⟨cs, f.wildcard, options.caseSensitive⟩ = resolved := by
  rw [resolve, bind_eq_ok]
  simp only [pure_eq_ok]

/-- Two lists of entries that can each be resolved can be resolved together. -/
theorem resolve_ofEntries_append {m : SearchMarks} {xs ys : List SearchEntry} {f g : ResolvedFilter}
    (hf : (ofEntries m xs).resolve t kinds options = .ok f)
    (hg : (ofEntries m ys).resolve t kinds options = .ok g) :
    (ofEntries m (xs ++ ys)).resolve t kinds options = .ok (f.extend g.comparisons) ∧
      f.wildcard = g.wildcard ∧ f.caseSensitive = g.caseSensitive := by
  obtain ⟨cs, hcs, rfl⟩ := resolve_eq_ok_iff.mp hf
  obtain ⟨ds, hds, rfl⟩ := resolve_eq_ok_iff.mp hg
  refine ⟨resolve_eq_ok_iff.mpr ⟨cs ++ ds, ?_, rfl⟩, rfl, rfl⟩
  rw [ofEntries_eq] at hcs hds ⊢
  rw [List.flatMap_append, List.mapM_append, hcs, hds]
  rfl

/-- Entries without terms resolve to a filter without comparisons. -/
theorem resolve_ofEntries_of_no_terms {m : SearchMarks} {xs : List SearchEntry}
    (h : ∀ e ∈ xs, m.terms e.text = []) :
    (ofEntries m xs).resolve t kinds options = .ok ⟨[], m.wildcard, options.caseSensitive⟩ := by
  have none : xs.flatMap (·.comparisons m) = [] :=
    List.flatMap_eq_nil_iff.mpr fun e he => SearchEntry.comparisons_eq_nil_iff.mpr (h e he)
  rw [ofEntries_eq, none]
  rfl

end Filter

/-- A filter without comparisons shows all rows that are not deleted. -/
theorem ResolvedFilter.apply_of_isEmpty {f : ResolvedFilter} (t : Table) (h : f.comparisons = []) :
    f.apply t = .ok t.liveIndices := by
  have passes (row : Nat) (r : Row) : f.matchesRow row r = .ok true := by
    rw [matchesRow, h]
    rfl
  refine apply_eq_ok_iff.mpr ⟨fun row r _ _ => ⟨true, passes row r⟩, ?_⟩
  simp [Table.liveIndices, Shows, passes]

/-- **Filters are conjunctive.** If two lists of entries each have a view of a table, both together
have one, and it is made of the rows in both. A view lists in strictly ascending order the indices
of the rows that are not deleted and match. Entries without terms leave all rows in view that are
not deleted. -/
theorem apply_conjunctive (t : Table) (kinds : ColumnKinds) (options : FilterOptions)
    (m : SearchMarks) :
    (∀ (xs ys : List SearchEntry) (f g : ResolvedFilter) (a b : List Nat),
      (Filter.ofEntries m xs).resolve t kinds options = .ok f →
      (Filter.ofEntries m ys).resolve t kinds options = .ok g →
      f.apply t = .ok a → g.apply t = .ok b →
      ∃ both, (Filter.ofEntries m (xs ++ ys)).resolve t kinds options = .ok both ∧
        both.apply t = .ok (a.filter (· ∈ b))) ∧
    (∀ (f : ResolvedFilter) (a : List Nat), f.apply t = .ok a →
      a.Pairwise (· < ·) ∧
      ∀ row, row ∈ a ↔
        (∃ r, t.rows[row]? = some r ∧ r.state ≠ .deleted) ∧ f.isMatch t row = .ok true) ∧
    (∀ xs : List SearchEntry, (∀ e ∈ xs, m.terms e.text = []) →
      ∃ f, (Filter.ofEntries m xs).resolve t kinds options = .ok f ∧
        f.apply t = .ok t.liveIndices) := by
  refine ⟨fun xs ys f g a b hf hg ha hb => ?_, fun f a ha => ?_, fun xs h => ?_⟩
  · obtain ⟨resolved, wildcard, caseSensitive⟩ := Filter.resolve_ofEntries_append hf hg
    exact ⟨_, resolved, ResolvedFilter.apply_extend wildcard caseSensitive ha hb⟩
  · refine ⟨ResolvedFilter.pairwise_lt_of_apply ha, fun row => ?_⟩
    rw [ResolvedFilter.mem_of_apply_iff ha, ResolvedFilter.isMatch_eq_ok_iff]
    constructor
    · rintro ⟨r, hr, live, passes⟩
      exact ⟨⟨r, hr, live⟩, r, hr, passes⟩
    · rintro ⟨⟨r, hr, live⟩, r', hr', passes⟩
      rw [hr] at hr'
      cases hr'
      exact ⟨r, hr, live, passes⟩
  · exact ⟨_, Filter.resolve_ofEntries_of_no_terms h, ResolvedFilter.apply_of_isEmpty t rfl⟩

/-- Bounds on a number and a pattern, with a row that is not-a-number, one that is null and one that
is deleted. -/
theorem apply_conjunctive_six_rows :
    let t : Table := ⟨"People", [.named "AGE" .number, .named "NAME" .string],
      [.unchanged [.integer 18, .string "Ann"], .added [.float .nan, .string "Ada"],
        .deleted [.integer 30, .string "Al"], .unchanged [.null, .string "Amy"],
        .modified [.null, .null] [.decimal " 64.5 ", .string "ANTON"],
        .unchanged [.string "40", .null]]⟩
    let m : SearchMarks := {}
    let xs : List SearchEntry := [⟨"AGE", .numeric, ">= 18; < 65", none, false⟩]
    let ys : List SearchEntry :=
      [⟨"SIZE", .string, " ; ", none, false⟩, ⟨"NAME", .string, "an%", none, false⟩]
    let f : ResolvedFilter := ⟨[⟨"AGE", 0, .greaterOrEqual, .number (.ofInt 18)⟩,
      ⟨"AGE", 0, .lessThan, .number (.ofInt 65)⟩], '%', false⟩
    let g : ResolvedFilter := ⟨[⟨"NAME", 1, .like, .pattern "an%".toList⟩], '%', false⟩
    ((Filter.ofEntries m xs).resolve t .empty {} = .ok f ∧
      (Filter.ofEntries m ys).resolve t .empty {} = .ok g ∧
      f.apply t = .ok [0, 4, 5] ∧ g.apply t = .ok [0, 4] ∧
      ∀ e ∈ [SearchEntry.mk "SIZE" .string " ; " none false], m.terms e.text = []) ∧
    (∃ both, (Filter.ofEntries m (xs ++ ys)).resolve t .empty {} = .ok both ∧
      both.apply t = .ok ([0, 4, 5].filter (· ∈ [0, 4]))) ∧
    ([0, 4, 5].Pairwise (· < ·) ∧ ∀ row, row ∈ [0, 4, 5] ↔
      (∃ r, t.rows[row]? = some r ∧ r.state ≠ .deleted) ∧ f.isMatch t row = .ok true) ∧
    ∃ f, (Filter.ofEntries m [⟨"SIZE", .string, " ; ", none, false⟩]).resolve t .empty {} = .ok f ∧
      f.apply t = .ok t.liveIndices := by
  intro t m xs ys f g
  have hf : (Filter.ofEntries m xs).resolve t .empty {} = .ok f := by decide +kernel
  have hg : (Filter.ofEntries m ys).resolve t .empty {} = .ok g := by decide +kernel
  have ha : f.apply t = .ok [0, 4, 5] := by decide +kernel
  have hb : g.apply t = .ok [0, 4] := by decide +kernel
  have blank : ∀ e ∈ [SearchEntry.mk "SIZE" .string " ; " none false], m.terms e.text = [] := by
    decide
  obtain ⟨conjunctive, view, all⟩ := apply_conjunctive t .empty {} m
  exact ⟨⟨hf, hg, ha, hb, blank⟩, conjunctive xs ys f g _ _ hf hg ha hb, view f _ ha, all _ blank⟩

end DataGrid

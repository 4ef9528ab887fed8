import DataGrid.Proofs.Search.View
import Mathlib.Data.List.Perm.Basic

/-!
# The order of search entries

All entries of a search have to be satisfied, so their order ought not to matter, and the rows in view
do not depend on it. But a row is tested with one entry after the other up to the first that it does not
satisfy, and testing may fail. What stands in front can keep a row away from an entry that it cannot
be tested with, so the order may decide between a view and an error.

* `inTurn_eq_error_iff`: tests in turn fail where one fails that comes after satisfied ones only.
* **`Runs`**: every row can be tested with some entries in turn. All orders of the entries run if each
  entry can be tested on each row (`forall_runs_iff`), and none does if some entries hold each other
  up (**`Deadlocked`**, `deadlocked_iff`): whichever of them comes first meets a row that it cannot be
  tested on and that nothing else takes away. All orders are alike in these two cases only
  (`runs_of_perm_iff`).
* `exists_view_iff`: search entries have a view exactly if they can be resolved and run.
* **`view_order_iff`**: hence the order does not matter exactly if an entry cannot be resolved, or each
  can be tested on each row, or some hold each other up.
-/

namespace DataGrid

/-! ## Tests in turn -/

section tests

variable {α ρ ε : Type}

/-- Tests one after the other, up to the first that is not satisfied or fails. -/
def inTurn (test : α → Except ε Bool) : List α → Except ε Bool
  | [] => .ok true
  | x :: xs => do
    if ← test x then inTurn test xs else return false

variable {test : α → Except ε Bool} {xs : List α}

/-- Tests in turn go on after a satisfied test, and end at one that is not satisfied. -/
theorem inTurn_cons_eq_ok_iff {x : α} {b : Bool} :
    inTurn test (x :: xs) = .ok b ↔
      (test x = .ok true ∧ inTurn test xs = .ok b) ∨ (test x = .ok false ∧ b = false) := by
  rw [inTurn, bind_eq_ok]
  constructor
  · rintro ⟨passed, hx, rest⟩
    cases passed with
    | true => exact .inl ⟨hx, rest⟩
    | false => exact .inr ⟨hx, (pure_eq_ok.mp rest).symm⟩
  · rintro (⟨hx, rest⟩ | ⟨hx, rfl⟩)
    · exact ⟨true, hx, rest⟩
    · exact ⟨false, hx, rfl⟩

/-- Tests in turn are satisfied exactly if every test is. -/
theorem inTurn_eq_true_iff : inTurn test xs = .ok true ↔ ∀ x ∈ xs, test x = .ok true := by
  induction xs with
  | nil => simp [inTurn]
  | cons x xs ih => simp [inTurn_cons_eq_ok_iff, ih]

/-- Where tests in turn are not satisfied, one of the tests is not. -/
theorem exists_of_inTurn_eq_false (h : inTurn test xs = .ok false) : ∃ x ∈ xs, test x = .ok false := by
  induction xs with
  | nil => cases h
  | cons x xs ih =>
    rcases inTurn_cons_eq_ok_iff.mp h with ⟨-, later⟩ | ⟨here, -⟩
    · obtain ⟨y, mem, hy⟩ := ih later
      exact ⟨y, List.mem_cons_of_mem x mem, hy⟩
    · exact ⟨x, List.mem_cons_self, here⟩

/-- Tests in turn fail where a test does that comes after satisfied ones only. -/
theorem inTurn_eq_error_iff {e : ε} :
    inTurn test xs = .error e ↔
      ∃ front x back, xs = front ++ x :: back ∧ (∀ y ∈ front, test y = .ok true) ∧
        test x = .error e := by
  induction xs with
  | nil => simp [inTurn]
  | cons x xs ih =>
    constructor
    · intro h
      rw [inTurn, bind_eq_error] at h
      rcases h with here | ⟨passed, hx, later⟩
      · exact ⟨[], x, xs, rfl, by simp, here⟩
      · cases passed with
        | false => cases later
        | true =>
          obtain ⟨front, z, back, rfl, earlier, hz⟩ := ih.mp later
          exact ⟨x :: front, z, back, rfl, List.forall_mem_cons.mpr ⟨hx, earlier⟩, hz⟩
    · rintro ⟨front, z, back, split, earlier, hz⟩
      rcases List.cons_eq_append_iff.mp split with ⟨rfl, here⟩ | ⟨front, rfl, later⟩
      · obtain ⟨rfl, -⟩ := List.cons.inj here
        rw [inTurn, hz]
        rfl
      · rw [List.forall_mem_cons] at earlier
        rw [inTurn, earlier.1]
        exact ih.mpr ⟨front, z, back, later, earlier.2, hz⟩

/-- Tests in turn succeed exactly if each of them does that comes after satisfied ones only. -/
theorem exists_inTurn_iff :
    (∃ b, inTurn test xs = .ok b) ↔
      ∀ front x back, xs = front ++ x :: back → (∀ y ∈ front, test y = .ok true) →
        ∃ b, test x = .ok b := by
  rw [exists_eq_ok_iff]
  constructor
  · intro succeeds front x back split passed
    exact exists_eq_ok_iff.mpr fun e fails =>
      succeeds e (inTurn_eq_error_iff.mpr ⟨front, x, back, split, passed, fails⟩)
  · intro h e fails
    obtain ⟨front, x, back, split, passed, hx⟩ := inTurn_eq_error_iff.mp fails
    obtain ⟨b, hb⟩ := h front x back split passed
    rw [hb] at hx
    cases hx

/-! ## Orders of tests -/

variable (test : ρ → α → Except ε Bool) (rows : List ρ)

/-- Whether tests in turn succeed on every row. -/
def Runs (xs : List α) : Prop := ∀ r ∈ rows, ∃ b, inTurn (test r) xs = .ok b

/-- Whether some of the tests hold each other up: each of them fails on a row that satisfies all tests
that are not among them. -/
def Deadlocked (xs : List α) : Prop :=
  ∃ group, group ≠ [] ∧ group ⊆ xs ∧ ∀ x ∈ group, ∃ r ∈ rows,
    (∀ b, test r x ≠ .ok b) ∧ ∀ y ∈ xs, y ∉ group → test r y = .ok true

variable {test rows} {ys : List α}

/-- An order that runs can be continued with a test that succeeds on the rows that the order leaves. -/
theorem runs_append_singleton {x : α} (runs : Runs test rows xs)
    (next : ∀ r ∈ rows, (∀ y ∈ xs, test r y = .ok true) → ∃ b, test r x = .ok b) :
    Runs test rows (xs ++ [x]) := by
  intro r hr
  refine exists_inTurn_iff.mpr fun front z back split passed => ?_
  rcases List.append_eq_append_iff.mp split with ⟨more, hfront, hback⟩ | ⟨more, hxs, hmore⟩
  · -- the test is the new one, after all the others
    cases more with
    | nil =>
      obtain ⟨rfl, -⟩ := List.cons.inj hback
      rw [List.append_nil] at hfront
      exact next r hr (hfront ▸ passed)
    | cons _ more => simp at hback
  · cases more with
    | nil =>
      obtain ⟨rfl, -⟩ := List.cons.inj hmore
      rw [List.append_nil] at hxs
      exact next r hr (hxs ▸ passed)
    | cons w more =>
      obtain ⟨rfl, -⟩ := List.cons.inj hmore
      exact exists_inTurn_iff.mp (runs r hr) front z more hxs passed

/-- All orders run exactly if each test succeeds on each row. -/
theorem forall_runs_iff :
    (∀ ys, ys.Perm xs → Runs test rows ys) ↔ ∀ r ∈ rows, ∀ x ∈ xs, ∃ b, test r x = .ok b := by
  constructor
  · intro h r hr x hx
    -- the order in which this test comes first
    obtain ⟨front, back, rfl⟩ := List.append_of_mem hx
    have first := h (x :: (front ++ back)) List.perm_middle.symm r hr
    exact exists_inTurn_iff.mp first [] x _ rfl (by simp)
  · intro h ys perm r hr
    refine exists_inTurn_iff.mpr fun front x back split _ => h r hr x (perm.subset ?_)
    rw [split]
    simp

/-- Tests that hold each other up let no order run: the first of them in the order fails on a row that
has passed all before it. -/
theorem Deadlocked.not_runs (h : Deadlocked test rows xs) (perm : ys.Perm xs) :
    ¬ Runs test rows ys := by
  classical
  intro runs
  obtain ⟨group, nonempty, within, held⟩ := h
  -- the first of the group that comes in this order
  obtain ⟨x, hx⟩ : ∃ x, ys.find? (· ∈ group) = some x := by
    obtain ⟨y, hy⟩ := List.exists_mem_of_ne_nil group nonempty
    refine Option.isSome_iff_exists.mp (List.find?_isSome.mpr ⟨y, ?_, by simpa using hy⟩)
    exact perm.symm.subset (within hy)
  obtain ⟨member, front, back, split, others⟩ := List.find?_eq_some_iff_append.mp hx
  obtain ⟨r, hr, fails, passed⟩ := held x (by simpa using member)
  obtain ⟨b, hb⟩ := exists_inTurn_iff.mp (runs r hr) front x back split fun y hy => by
    refine passed y (perm.subset ?_) (by simpa using others y hy)
    rw [split]
    exact List.mem_append_left _ hy
  exact fails b hb

/-- Where no tests hold each other up, some test of those that are left succeeds on all rows that the
others leave. -/
theorem exists_next (free : ¬ Deadlocked test rows xs) {rest : List α} (nonempty : rest ≠ [])
    (within : rest ⊆ xs) :
    ∃ x ∈ rest, ∀ r ∈ rows, (∀ y ∈ xs, y ∉ rest → test r y = .ok true) → ∃ b, test r x = .ok b := by
  by_contra none
  refine free ⟨rest, nonempty, within, fun x hx => ?_⟩
  by_contra held
  refine none ⟨x, hx, fun r hr passed => ?_⟩
  by_contra fails
  exact held ⟨r, hr, fun b hb => fails ⟨b, hb⟩, passed⟩

/-- Where no tests hold each other up, an order that runs is found by always taking such a test. -/
theorem exists_runs_append (free : ¬ Deadlocked test rows xs) (n : Nat) :
    ∀ done rest : List α, rest.length = n → (done ++ rest).Perm xs → Runs test rows done →
      ∃ order, order.Perm rest ∧ Runs test rows (done ++ order) := by
  induction n with
  | zero =>
    intro done rest length _ runs
    rw [List.length_eq_zero_iff.mp length]
    exact ⟨[], .nil, by simpa using runs⟩
  | succ n ih =>
    intro done rest length perm runs
    have nonempty : rest ≠ [] := List.ne_nil_of_length_eq_add_one length
    have within : rest ⊆ xs := fun x hx => perm.subset (List.mem_append_right _ hx)
    -- The next test comes from anywhere in the rest and is moved to the end of what is done.
    obtain ⟨x, hx, next⟩ := exists_next free nonempty within
    obtain ⟨front, back, rfl⟩ := List.append_of_mem hx
    have moved : (x :: (front ++ back)).Perm (front ++ x :: back) := List.perm_middle.symm
    have runs' : Runs test rows (done ++ [x]) := by
      refine runs_append_singleton runs fun r hr passed => next r hr fun y hy late => passed y ?_
      exact (List.mem_append.mp (perm.symm.subset hy)).resolve_right late
    have perm' : (done ++ [x] ++ (front ++ back)).Perm xs := by
      rw [List.append_assoc]
      exact (moved.append_left done).trans perm
    have length' : (front ++ back).length = n := Nat.succ.inj (moved.length_eq.trans length)
    obtain ⟨order, horder, hruns⟩ := ih (done ++ [x]) (front ++ back) length' perm' runs'
    refine ⟨x :: order, (horder.cons x).trans moved, ?_⟩
    rwa [List.append_assoc] at hruns

/-- No order runs exactly if some tests hold each other up. -/
theorem deadlocked_iff :
    Deadlocked test rows xs ↔ ∀ ys, ys.Perm xs → ¬ Runs test rows ys := by
  constructor
  · exact fun h ys perm => h.not_runs perm
  · intro h
    by_contra free
    obtain ⟨order, perm, runs⟩ := exists_runs_append free xs.length [] xs rfl (.refl xs)
      fun r _ => ⟨true, rfl⟩
    exact h order perm runs

/-- All orders are alike exactly if each test succeeds on each row, so that all of them run, or some
tests hold each other up, so that none does. -/
theorem runs_of_perm_iff :
    (∀ ys, ys.Perm xs → (Runs test rows ys ↔ Runs test rows xs)) ↔
      (∀ r ∈ rows, ∀ x ∈ xs, ∃ b, test r x = .ok b) ∨ Deadlocked test rows xs := by
  rw [← forall_runs_iff, deadlocked_iff]
  constructor
  · intro alike
    by_cases runs : Runs test rows xs
    · exact .inl fun ys perm => (alike ys perm).mpr runs
    · exact .inr fun ys perm runs' => runs ((alike ys perm).mp runs')
  · rintro (all | none) ys perm
    · exact iff_of_true (all ys perm) (all xs (.refl xs))
    · exact iff_of_false (none ys perm) (none xs (.refl xs))

end tests

/-! ## Entries on rows -/

namespace Table

section definitions

variable (t : Table) (kinds : ColumnKinds) (options : FilterOptions) (m : SearchMarks)

/-- The rows that search entries leave in view: their filter is resolved and applied. -/
def view (entries : List SearchEntry) : Except FilterError (List Nat) := do
  let f ← (Filter.ofEntries m entries).resolve t kinds options
  f.apply t

/-- Whether a row, given with its index, satisfies a search entry by itself. -/
def satisfies (p : Row × Nat) (e : SearchEntry) : Except FilterError Bool := do
  let f ← (Filter.ofEntries m [e]).resolve t kinds options
  f.matchesRow p.2 p.1

/-- Whether a search entry can be resolved. -/
def Resolves (e : SearchEntry) : Prop :=
  ∃ f, (Filter.ofEntries m [e]).resolve t kinds options = .ok f

end definitions

variable {t : Table} {kinds : ColumnKinds} {options : FilterOptions} {m : SearchMarks}
  {xs ys : List SearchEntry} {a b : List Nat}

/-- Entries can be resolved exactly if each of their comparisons can. -/
theorem exists_resolve_iff_comparisons :
    (∃ f, (Filter.ofEntries m xs).resolve t kinds options = .ok f) ↔
      ∀ e ∈ xs, ∀ c ∈ e.comparisons m, ∃ resolved, c.resolve t kinds options = .ok resolved := by
  have flat : (∀ e ∈ xs, ∀ c ∈ e.comparisons m, ∃ resolved, c.resolve t kinds options = .ok resolved) ↔
      ∀ c ∈ xs.flatMap (·.comparisons m), ∃ resolved, c.resolve t kinds options = .ok resolved := by
    simp only [List.mem_flatMap]
    exact ⟨fun h c ⟨e, he, hc⟩ => h e he c hc, fun h e he c hc => h c ⟨e, he, hc⟩⟩
  rw [flat, ← exists_mapM_iff, Filter.ofEntries_eq]
  simp only [Filter.resolve_eq_ok_iff]
  exact ⟨fun ⟨_, cs, hcs, _⟩ => ⟨cs, hcs⟩, fun ⟨cs, hcs⟩ => ⟨_, cs, hcs, rfl⟩⟩

/-- Entries can be resolved together exactly if each can be by itself. -/
theorem exists_resolve_iff :
    (∃ f, (Filter.ofEntries m xs).resolve t kinds options = .ok f) ↔
      ∀ e ∈ xs, t.Resolves kinds options m e := by
  simp only [Resolves, exists_resolve_iff_comparisons, List.forall_mem_singleton]

/-- A filter of entries tests a row with one entry after the other. -/
theorem matchesRow_eq_inTurn {f : ResolvedFilter}
    (hf : (Filter.ofEntries m xs).resolve t kinds options = .ok f) (p : Row × Nat) :
    f.matchesRow p.2 p.1 = inTurn (t.satisfies kinds options m p) xs := by
  induction xs generalizing f with
  | nil =>
    cases hf
    rfl
  | cons e xs ih =>
    have resolves := exists_resolve_iff.mp ⟨f, hf⟩
    rw [List.forall_mem_cons, ← exists_resolve_iff] at resolves
    obtain ⟨⟨g, hg⟩, h, hh⟩ := resolves
    obtain ⟨both, wildcard, caseSensitive⟩ := Filter.resolve_ofEntries_append hg hh
    have extended : f = g.extend h.comparisons := Except.ok.inj (hf.symm.trans both)
    have first : t.satisfies kinds options m p e = g.matchesRow p.2 p.1 := by
      rw [satisfies, hg]
      rfl
    rw [extended, ResolvedFilter.matchesRow_extend_eq wildcard caseSensitive, ih hh, inTurn, first]
    rfl

/-- **Search entries have a view exactly if each can be resolved and, in their order, they run on the
rows that are not deleted.** -/
theorem exists_view_iff :
    (∃ a, t.view kinds options m xs = .ok a) ↔
      (∀ e ∈ xs, t.Resolves kinds options m e) ∧
        Runs (t.satisfies kinds options m) t.liveRows xs := by
  rw [← exists_resolve_iff]
  simp only [view, bind_eq_ok, ResolvedFilter.apply_eq_ok_iff, Runs, mem_liveRows_iff]
  constructor
  · rintro ⟨_, f, hf, tested, -⟩
    refine ⟨⟨f, hf⟩, fun p ⟨hr, live⟩ => ?_⟩
    rw [← matchesRow_eq_inTurn hf]
    exact tested p.2 p.1 hr live
  · rintro ⟨⟨f, hf⟩, runs⟩
    refine ⟨_, f, hf, fun row r hr live => ?_, rfl⟩
    rw [matchesRow_eq_inTurn hf (r, row)]
    exact runs (r, row) ⟨hr, live⟩

/-- The rows in view are strictly ascending. -/
theorem pairwise_lt_of_view (h : t.view kinds options m xs = .ok a) : a.Pairwise (· < ·) := by
  obtain ⟨f, -, ha⟩ := bind_eq_ok.mp h
  exact ResolvedFilter.pairwise_lt_of_apply ha

/-- The rows in view are those that satisfy every entry. -/
theorem mem_view_iff (h : t.view kinds options m xs = .ok a) {row : Nat} :
    row ∈ a ↔ ∃ r, (r, row) ∈ t.liveRows ∧
      ∀ e ∈ xs, t.satisfies kinds options m (r, row) e = .ok true := by
  obtain ⟨f, hf, ha⟩ := bind_eq_ok.mp h
  simp only [ResolvedFilter.mem_of_apply_iff ha, ResolvedFilter.Shows, mem_liveRows_iff,
    matchesRow_eq_inTurn hf (_, row), inTurn_eq_true_iff, and_assoc]

/-- Two orders that both have a view have the same. -/
theorem view_eq_of_perm (perm : ys.Perm xs) (ha : t.view kinds options m xs = .ok a)
    (hb : t.view kinds options m ys = .ok b) : a = b := by
  refine List.Pairwise.eq_of_mem_iff (pairwise_lt_of_view ha) (pairwise_lt_of_view hb) fun row => ?_
  simp only [mem_view_iff ha, mem_view_iff hb, perm.mem_iff]

/-- Errors apart, two orders come to the same exactly if both have a view or neither has. -/
theorem toOption_view_eq_iff (perm : ys.Perm xs) :
    (t.view kinds options m ys).toOption = (t.view kinds options m xs).toOption ↔
      ((∃ b, t.view kinds options m ys = .ok b) ↔ ∃ a, t.view kinds options m xs = .ok a) :=
  toOption_eq_iff fun _ _ hb ha => (view_eq_of_perm perm ha hb).symm

/-- **The order of search entries does not matter exactly if one of them cannot be resolved, or each
can be tested on each row that is not deleted, or some of them hold each other up.** Only whether there
is a view is at stake: two orders that have one have the same. -/
theorem view_order_iff (t : Table) (kinds : ColumnKinds) (options : FilterOptions) (m : SearchMarks)
    (xs : List SearchEntry) :
    (∀ ys, ys.Perm xs → ∀ a b, t.view kinds options m xs = .ok a →
      t.view kinds options m ys = .ok b → a = b) ∧
    ((∀ ys, ys.Perm xs →
        (t.view kinds options m ys).toOption = (t.view kinds options m xs).toOption) ↔
      (∃ e ∈ xs, ¬ t.Resolves kinds options m e) ∨
      (∀ p ∈ t.liveRows, ∀ e ∈ xs, ∃ b, t.satisfies kinds options m p e = .ok b) ∨
      Deadlocked (t.satisfies kinds options m) t.liveRows xs) := by
  refine ⟨fun ys perm a b => view_eq_of_perm perm, ?_⟩
  by_cases resolve : ∀ e ∈ xs, t.Resolves kinds options m e
  · have noFault : ¬ ∃ e ∈ xs, ¬ t.Resolves kinds options m e := by
      simpa using resolve
    -- every order resolves, so it has a view if it runs
    have viewed (ys : List SearchEntry) (perm : ys.Perm xs) :
        (∃ b, t.view kinds options m ys = .ok b) ↔
          Runs (t.satisfies kinds options m) t.liveRows ys := by
      rw [exists_view_iff]
      exact and_iff_right fun e he => resolve e (perm.subset he)
    rw [or_iff_right noFault, ← runs_of_perm_iff]
    refine forall₂_congr fun ys perm => ?_
    rw [toOption_view_eq_iff perm, viewed ys perm, viewed xs (.refl xs)]
  · have fault : ∃ e ∈ xs, ¬ t.Resolves kinds options m e := by
      simpa using resolve
    refine iff_of_true (fun ys perm => (toOption_view_eq_iff perm).mpr ?_) (.inl fault)
    rw [exists_view_iff, exists_view_iff]
    refine iff_of_false (fun h => resolve fun e he => ?_) fun h => resolve h.1
    exact h.1 e (perm.symm.subset he)

/-- A row is taken away by its name before its age is asked for, which is no number. In the other
order the search fails. -/
theorem view_order_matters :
    let t : Table := ⟨"People", [.named "NAME" .string, .named "AGE" .number],
      [.unchanged [.string "Ann", .string "old"]]⟩
    let name : SearchEntry := ⟨"NAME", .string, "Bob", none, false⟩
    let age : SearchEntry := ⟨"AGE", .numeric, "> 17", none, false⟩
    [age, name].Perm [name, age] ∧ t.view .empty {} {} [name, age] = .ok [] ∧
      t.view .empty {} {} [age, name] =
        .error (.table (.conversion "AGE" 0 "old" .number)) :=
  ⟨.swap _ _ _, by decide +kernel, by decide +kernel⟩

end Table

end DataGrid

/-!
# Outcomes of operations that can fail

An operation written as a chain of steps succeeds exactly if each of its steps does, and fails with an
error exactly if one of them does. These are the ways to take such a chain apart.
-/

namespace DataGrid

variable {ε α β : Type} {x : Except ε α} {f : α → Except ε β}

/-- Two operations in a row succeed exactly if the first does and the second does with its result. -/
theorem bind_eq_ok {b : β} : x >>= f = .ok b ↔ ∃ a, x = .ok a ∧ f a = .ok b := by
  cases x <;> simp [bind, Except.bind]

/-- Two operations in a row fail exactly if the first fails, or the second does after it, with the same
error. -/
theorem bind_eq_error {e : ε} :
    x >>= f = .error e ↔ x = .error e ∨ ∃ a, x = .ok a ∧ f a = .error e := by
  cases x <;> simp [bind, Except.bind]

/-- An operation has a result exactly if it has no error. -/
theorem exists_eq_ok_iff : (∃ a, x = .ok a) ↔ ∀ e, x ≠ .error e := by
  cases x <;> simp

/-- An operation has an error exactly if it has no result. -/
theorem exists_eq_error_iff : (∃ e, x = .error e) ↔ ¬ ∃ a, x = .ok a := by
  cases x <;> simp

/-- Operations with one result where both succeed are the same, but for their errors, exactly if they
succeed together. -/
theorem toOption_eq_iff {x y : Except ε α} (same : ∀ a b, x = .ok a → y = .ok b → a = b) :
    x.toOption = y.toOption ↔ ((∃ a, x = .ok a) ↔ ∃ b, y = .ok b) := by
  cases x with
  | error => cases y <;> simp [Except.toOption]
  | ok a =>
    cases y with
    | error => simp [Except.toOption]
    | ok b => simp [Except.toOption, same a b rfl rfl]

/-- A value that is given back is the result. -/
theorem pure_eq_ok {a b : α} : (pure a : Except ε α) = .ok b ↔ a = b := by
  simp [pure, Except.pure]

/-- A value that is given back is no error. -/
theorem pure_ne_error {e : ε} {a : α} : (pure a : Except ε α) ≠ .error e := by
  simp [pure, Except.pure]

/-- An error that is raised is no result. -/
theorem throw_ne_ok {e : ε} {a : α} : (throw e : Except ε α) ≠ .ok a := by
  simp [throw, throwThe, MonadExceptOf.throw]

/-- An operation that succeeds on each member of a list maps the list. -/
theorem mapM_eq_ok_map {g : α → Except ε β} {h : α → β} {as : List α} (all : ∀ a ∈ as, g a = .ok (h a)) :
    as.mapM g = .ok (as.map h) := by
  induction as with
  | nil => rfl
  | cons a as ih =>
    rw [List.forall_mem_cons] at all
    rw [List.mapM_cons, all.1, ih all.2]
    rfl

/-- An operation on each member of a list succeeds exactly if it does so on every one. -/
theorem exists_mapM_iff {g : α → Except ε β} {as : List α} :
    (∃ bs, as.mapM g = .ok bs) ↔ ∀ a ∈ as, ∃ b, g a = .ok b := by
  induction as with
  | nil => simp [pure_eq_ok]
  | cons a as ih =>
    rw [List.forall_mem_cons, ← ih, List.mapM_cons]
    simp only [bind_eq_ok, pure_eq_ok]
    constructor
    · rintro ⟨_, b, hb, bs, hbs, -⟩
      exact ⟨⟨b, hb⟩, bs, hbs⟩
    · rintro ⟨⟨b, hb⟩, bs, hbs⟩
      exact ⟨_, b, hb, bs, hbs, rfl⟩

end DataGrid

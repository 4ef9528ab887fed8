/-!
# Entries by key, in order of arrival

A **`Keyed`** collection holds one value for each of its keys and lists them in the order in which
the keys first came. Setting a key that is there already changes its value and leaves it in its
place.
-/

namespace DataGrid

/-- Values by key, in the order in which the keys first came. -/
structure Keyed (α : Type) where
  entries : List (String × α)
  deriving Repr

namespace Keyed

variable {α : Type}

/-- No entries. -/
def empty : Keyed α := ⟨[]⟩

/-- The value of a key among entries. -/
def getEntry? (key : String) : List (String × α) → Option α
  | [] => none
  | e :: es => if e.1 = key then some e.2 else getEntry? key es

/-- Entries with the value of one key set. -/
def setEntry (key : String) (value : α) : List (String × α) → List (String × α)
  | [] => [(key, value)]
  | e :: es => if e.1 = key then (key, value) :: es else e :: setEntry key value es

/-- The value of a key. -/
def get? (m : Keyed α) (key : String) : Option α := getEntry? key m.entries

/-- The collection with the value of one key set. -/
def set (m : Keyed α) (key : String) (value : α) : Keyed α := ⟨setEntry key value m.entries⟩

/-- The collection of the entries of a list; of several with one key, the last value counts. -/
def ofList (entries : List (String × α)) : Keyed α :=
  entries.foldl (fun m e => m.set e.1 e.2) empty

/-- The values in order. -/
def values (m : Keyed α) : List α := m.entries.map (·.2)

/-- Among entries, setting a key changes its value and no other one. -/
theorem getEntry?_setEntry (key k : String) (value : α) (es : List (String × α)) :
    getEntry? k (setEntry key value es) = if key = k then some value else getEntry? k es := by
  induction es with
  | nil => rfl
  | cons e es ih =>
    rw [setEntry]
    by_cases he : e.1 = key
    · rw [if_pos he, getEntry?, getEntry?, he]
      split <;> rfl
    · rw [if_neg he, getEntry?, getEntry?, ih]
      by_cases hk : e.1 = k
      · rw [if_pos hk, if_pos hk, if_neg (fun h => he (hk.trans h.symm))]
      · rw [if_neg hk, if_neg hk]

/-- Setting a key changes the value of this key and of no other. -/
theorem get?_set (m : Keyed α) (key k : String) (value : α) :
    (m.set key value).get? k = if key = k then some value else m.get? k :=
  getEntry?_setEntry key k value m.entries

end Keyed

end DataGrid

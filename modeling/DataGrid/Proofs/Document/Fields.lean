import DataGrid.Document.Basic

/-!
# Fields of a stored structure

A structure is read from the members of a record, field by field.

* `required_cons_self` and the lemmas beside it: a field is found under its name, past all members with
  other names.
* **`list?_map`**: a sequence of things is read back exactly if each of them is.
-/

namespace DataGrid.Document

variable {α : Type} {read : Document → Option α} {members : List (String × Document)}
  {name field : String} {d : Document}

/-- A field that has to be there is read from the member with its name. -/
theorem required_cons_self : required read ((field, d) :: members) field = read d := by
  simp [required, Keyed.getEntry?]

/-- A member with another name is passed over. -/
theorem required_cons_of_ne (h : name ≠ field) :
    required read ((name, d) :: members) field = required read members field := by
  simp [required, Keyed.getEntry?, h]

/-- A field that may be left out is read from the member with its name, if there is one. -/
theorem defaulted_cons_self (default : α) :
    defaulted read ((field, d) :: members) field default = read d := by
  simp [defaulted, Keyed.getEntry?]

/-- In the search for a field that may be left out, a member with another name is passed over. -/
theorem defaulted_cons_of_ne (h : name ≠ field) (default : α) :
    defaulted read ((name, d) :: members) field default =
      defaulted read members field default := by
  simp [defaulted, Keyed.getEntry?, h]

/-- A field that may be null is read from the member with its name, unless this is null. -/
theorem optional_cons_self : optional read ((field, d) :: members) field =
    if d matches .null then some none else (read d).map some := by
  unfold optional Keyed.getEntry?
  cases d <;> simp

/-- In the search for a field that may be null, a member with another name is passed over. -/
theorem optional_cons_of_ne (h : name ≠ field) :
    optional read ((name, d) :: members) field = optional read members field := by
  simp [optional, Keyed.getEntry?, h]

/-- Things that are read back exactly if they are good are read back from a sequence exactly if all of
them are good. -/
theorem list?_map {write : α → Document} {good : α → Bool}
    (each : ∀ a, read (write a) = if good a then some a else none) (items : List α) :
    list? read (.sequence (items.map write)) = if items.all good then some items else none := by
  rw [list?]
  induction items with
  | nil => rfl
  | cons a items ih =>
    rw [List.map_cons, List.mapM_cons, each, ih, List.all_cons]
    cases good a <;> cases items.all good <;> rfl

/-- Things that are read back each are read back from a sequence. -/
theorem list?_map_of_forall {write : α → Document} (each : ∀ a, read (write a) = some a)
    (items : List α) : list? read (.sequence (items.map write)) = some items := by
  have each' (a : α) : read (write a) = if true then some a else none := each a
  simpa using list?_map each' items

/-- Texts are read back from a sequence. -/
theorem list?_text (items : List String) :
    list? text? (.sequence (items.map .text)) = some items := by
  have each (s : String) : text? (.text s) = some s := rfl
  exact list?_map_of_forall each items

/-- A character is read back from its text. -/
theorem character?_ofCharacter (c : Char) : character? (ofCharacter c) = some c := by
  simp [character?, ofCharacter]

end DataGrid.Document

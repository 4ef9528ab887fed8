import DataGrid.Document.Basic
import DataGrid.Proofs.Keyed

/-!
# Paths in a document

A path of names leads from a record through its members. **`Document.dropping`** leaves out members of a
record, at any depth, each told by the path to it, as if they had not been written.

* `at?_append`: a path leads on from where its front leads to.
* **`at?_dropping`**: what stands at a path is still there exactly if nothing on the way to it was dropped
  (`isKept_iff`), less what was dropped inside it.
-/

namespace DataGrid.Document

variable {d : Document} {members : List (String × Document)} {name : String} {path : List String}
  {dropped : List String → Bool}

/-- What stands at the end of a path of names. -/
def at? : List String → Document → Option Document
  | [], d => some d
  | name :: path, .record members => (Keyed.getEntry? name members).bind (at? path)
  | _ :: _, _ => none

/-- A path leads on from where its front leads to. -/
theorem at?_append (d : Document) (path rest : List String) :
    d.at? (path ++ rest) = (d.at? path).bind (·.at? rest) := by
  induction path generalizing d with
  | nil => rfl
  | cons name path ih =>
    cases d with
    | record members =>
      simp only [List.cons_append, at?]
      cases Keyed.getEntry? name members with
      | none => rfl
      | some e => exact ih e
    | null | boolean | integer | number | text | sequence => rfl

/-- A path of one name leads to the member of that name. -/
theorem at?_singleton (name : String) (members : List (String × Document)) :
    (record members).at? [name] = Keyed.getEntry? name members := by
  have whole : at? [] = some := rfl
  rw [at?, whole, Option.bind_fun_some]

/-! ## Members left out -/

mutual

/-- A document without some members of its records, each told by the path to it. Sequences stay as they
are. -/
def dropping (dropped : List String → Bool) : Document → Document
  | .record members => .record (droppingMembers dropped members)
  | d => d

/-- The members of a record that are left. -/
def droppingMembers (dropped : List String → Bool) :
    List (String × Document) → List (String × Document)
  | [] => []
  | (name, d) :: members =>
    if dropped [name] then droppingMembers dropped members
    else (name, d.dropping fun path => dropped (name :: path)) :: droppingMembers dropped members

end

/-- Whether nothing on a path is dropped. -/
def isKept (dropped : List String → Bool) : List String → Bool
  | [] => true
  | name :: path => !dropped [name] && isKept (fun rest => dropped (name :: rest)) path

/-- A path is kept exactly if none of its fronts is dropped, the whole path among them. -/
theorem isKept_iff :
    isKept dropped path = true ↔ ∀ front, front ≠ [] → front <+: path → dropped front = false := by
  induction path generalizing dropped with
  | nil => exact iff_of_true rfl fun _ nonempty before => absurd (List.prefix_nil.mp before) nonempty
  | cons name path ih =>
    rw [isKept, Bool.and_eq_true, Bool.not_eq_true', ih]
    constructor
    · rintro ⟨first, later⟩ front nonempty before
      -- A front is the first name alone, or it goes on from there.
      obtain rfl | ⟨rest, rfl, inside⟩ := List.prefix_cons_iff.mp before
      · exact absurd rfl nonempty
      · cases rest with
        | nil => exact first
        | cons other rest => exact later (other :: rest) (List.cons_ne_nil _ _) inside
    · intro kept
      refine ⟨kept [name] (List.cons_ne_nil _ _) ⟨path, rfl⟩, fun front _ before => ?_⟩
      exact kept (name :: front) (List.cons_ne_nil _ _) ((List.prefix_cons_inj name).mpr before)

/-- The members that are left are those whose names are not dropped, each less what is dropped inside
it. -/
theorem droppingMembers_eq (dropped : List String → Bool) (members : List (String × Document)) :
    droppingMembers dropped members = (members.filter fun m => !dropped [m.1]).map fun m =>
      (m.1, m.2.dropping fun path => dropped (m.1 :: path)) := by
  induction members with
  | nil => rfl
  | cons m members ih =>
    obtain ⟨name, d⟩ := m
    rw [droppingMembers, ih]
    cases gone : dropped [name] <;> simp [gone]

/-- A member is found among those that are left exactly if it is there and not dropped. -/
theorem getEntry?_droppingMembers (name : String) (members : List (String × Document)) :
    Keyed.getEntry? name (droppingMembers dropped members) =
      if dropped [name] then none
      else (Keyed.getEntry? name members).map (dropping fun path => dropped (name :: path)) := by
  induction members with
  | nil => simp [droppingMembers, Keyed.getEntry?]
  | cons m members ih =>
    obtain ⟨other, d⟩ := m
    rw [droppingMembers, Keyed.getEntry?]
    by_cases same : other = name
    · subst same
      cases gone : dropped [other] <;> simp [gone, ih, Keyed.getEntry?]
    · cases gone : dropped [other] <;> simp [ih, same, Keyed.getEntry?]

/-- **What stands at a path stays there exactly if nothing on the path is dropped**, less what is dropped
inside it. -/
theorem at?_dropping (d : Document) (dropped : List String → Bool) (path : List String) :
    (d.dropping dropped).at? path =
      if isKept dropped path then (d.at? path).map (dropping fun rest => dropped (path ++ rest))
      else none := by
  induction path generalizing d dropped with
  | nil => rfl
  | cons name path ih =>
    cases d with
    | record members =>
      rw [dropping, at?, at?, getEntry?_droppingMembers, isKept]
      cases dropped [name] with
      | true => rfl
      | false =>
        cases Keyed.getEntry? name members with
        | none => simp
        | some e => simpa using ih e fun rest => dropped (name :: rest)
    | null | boolean | integer | number | text | sequence => simp [dropping, at?]

end DataGrid.Document

import DataGrid.Document.Basic

/-!
# Tables of a TOML text

A TOML text builds up a tree of tables line by line, and may not say anything twice. A table comes
into being under its own header, or because a header or a dotted key names a table inside it; its
**`Origin`** decides what may still be added. A header may be given once, also for a table that
only headers of inner tables have named before. A dotted key goes only through tables that no
header has opened, and puts its value only into a table that dotted keys have made.

**`Section.alter`** changes the table at the end of a path and makes the tables on the way;
`assign`, `open?` and `append` are the three kinds of lines. Values given on one line, also whole
tables, are closed: nothing is ever added to them.
-/

namespace DataGrid.Toml

/-- How a table came into being. -/
inductive Origin
  /-- Under a header of its own, or as an item of an array of tables, or as the whole text. -/
  | header
  /-- Through a header of a table inside it. -/
  | implied
  /-- Through a dotted key. -/
  | dotted
  deriving DecidableEq, Repr

/-- What stands under a name. -/
inductive Item
  | value (d : Document)
  | table (origin : Origin) (items : List (String × Item))
  /-- Tables that each have a header with double brackets; only the last is open. -/
  | array (tables : List (List (String × Item)))

/-- A table that is being built. -/
structure Section where
  origin : Origin
  items : List (String × Item)

namespace Section

/-- A table without contents. -/
def empty (origin : Origin) : Section := ⟨origin, []⟩

/-- The item under a name. -/
def get? (t : Section) (name : String) : Option Item := Keyed.getEntry? name t.items

/-- The table with an item set. -/
def set (t : Section) (name : String) (item : Item) : Section :=
  { t with items := Keyed.setEntry name item t.items }

/-- The table with a change made to the table at the end of a path, where tables that are missing on
the way get the given origin. -/
def alter (made : Origin) (change : Section → Option Section) :
    List String → Section → Option Section
  | [], t => change t
  | name :: path, t =>
    match t.get? name with
    | none => do
      let inner ← alter made change path (empty made)
      return t.set name (.table inner.origin inner.items)
    | some (.value _) => none
    | some (.table origin items) =>
      if made = .dotted ∧ origin = .header then none
      else do
        let inner ← alter made change path ⟨origin, items⟩
        return t.set name (.table inner.origin inner.items)
    | some (.array tables) => do
      let last ← tables.getLast?
      let inner ← alter made change path ⟨.header, last⟩
      return t.set name (.array (tables.dropLast ++ [inner.items]))

/-- The table with a value under a key, which is the name of the value after the names of the tables
that it is in. -/
def assign (path : List String) (name : String) (d : Document) : Section → Option Section :=
  alter .dotted (fun t =>
    if (t.origin = .dotted ↔ path = []) then none
    else if (t.get? name).isSome then none
    else some (t.set name (.value d))) path

/-- The table with a table opened by its header. -/
def open? (path : List String) (name : String) : Section → Option Section :=
  alter .implied (fun t =>
    match t.get? name with
    | none => some (t.set name (.table .header []))
    | some (.table .implied items) => some (t.set name (.table .header items))
    | _ => none) path

/-- The table with a table appended to an array of tables. -/
def append (path : List String) (name : String) : Section → Option Section :=
  alter .implied (fun t =>
    match t.get? name with
    | none => some (t.set name (.array [[]]))
    | some (.array tables) => some (t.set name (.array (tables ++ [[]])))
    | _ => none) path

end Section

mutual

/-- What an item stands for. -/
def Item.document : Item → Document
  | .value d => d
  | .table _ items => .record (membersOf items)
  | .array tables => .sequence (recordsOf tables)

/-- What the items of a table stand for. -/
def membersOf : List (String × Item) → List (String × Document)
  | [] => []
  | (name, item) :: items => (name, item.document) :: membersOf items

/-- What an array of tables stands for. -/
def recordsOf : List (List (String × Item)) → List Document
  | [] => []
  | items :: tables => .record (membersOf items) :: recordsOf tables

end

/-- What a table stands for. -/
def Section.document (t : Section) : Document := .record (membersOf t.items)

end DataGrid.Toml

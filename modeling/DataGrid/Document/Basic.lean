import DataGrid.Keyed
import DataGrid.Number.Integer64
import DataGrid.Number.Numeral

/-!
# Documents

Tables, filters and settings are stored as texts, in JSON or in TOML. Either text stands for a
**`Document`**: a tree of records and sequences with texts, numbers and truth values at its leaves.
What a tree has to look like to stand for a thing of this library is said with the functions of
this module.

* A structure is a record with a member for each field. It may also be written as the sequence of
  its fields in order, which **`Document.members?`** brings into the form of a record. Members that
  no field asks for do not matter.
* A field is **`required`**, or **`defaulted`** where it may be left out, or **`optional`** where it
  may be null as well.
* A case without contents is a text, its name; it may also be written as a record with the name as
  its one member and nothing in it (**`Document.caseName?`**).

The two formats differ in what they write for nothing, and in whether a sequence may have more items
than there are fields; this is their **`Format`**.
-/

namespace DataGrid

/-- A tree of values, as a stored text stands for it. -/
inductive Document
  | null
  | boolean (b : Bool)
  | integer (n : Int)
  | number (x : Binary64)
  | text (s : String)
  | sequence (items : List Document)
  | record (members : List (String × Document))
  deriving Inhabited

/-- The format of a stored text, as far as a document shows it. -/
inductive Format
  | json
  | toml
  deriving DecidableEq, Repr

/-- Whether a document stands for nothing: null in JSON, and in TOML, which has no null, a table or an
array without contents. -/
def Format.isNothing : Format → Document → Bool
  | .json, .null => true
  | .toml, .record [] | .toml, .sequence [] => true
  | _, _ => false

/-- Whether a sequence of fields may go on after the last field. -/
def Format.allowsSurplus : Format → Bool
  | .json => false
  | .toml => true

namespace Document

/-! ## Structures -/

/-- The members of a structure with the given fields. -/
def members? (format : Format) (fields : List String) :
    Document → Option (List (String × Document))
  | .record members => some members
  | .sequence items =>
    if fields.length < items.length && !format.allowsSurplus then none
    else some (fields.zip items)
  | _ => none

/-- A field that has to be there. -/
def required {α : Type} (read : Document → Option α) (members : List (String × Document))
    (field : String) : Option α :=
  (Keyed.getEntry? field members).bind read

/-- A field that has a default where it is left out. -/
def defaulted {α : Type} (read : Document → Option α) (members : List (String × Document))
    (field : String) (default : α) : Option α :=
  match Keyed.getEntry? field members with
  | some d => read d
  | none => some default

/-- A field that may be left out or null. -/
def optional {α : Type} (read : Document → Option α) (members : List (String × Document))
    (field : String) : Option (Option α) :=
  match Keyed.getEntry? field members with
  | none | some .null => some none
  | some d => (read d).map some

/-- The name of a case without contents. -/
def caseName? (format : Format) : Document → Option String
  | .text name => some name
  | .record [(name, contents)] => if format.isNothing contents then some name else none
  | _ => none

/-- The case among some cases that has a name. -/
def case? {α : Type} (format : Format) (cases : List α) (nameOf : α → String) (d : Document) :
    Option α := do
  let name ← d.caseName? format
  cases.find? (nameOf · == name)

/-! ## Leaves -/

/-- A document that is a truth value. -/
def boolean? : Document → Option Bool
  | .boolean b => some b
  | _ => none

/-- A document that is a text. -/
def text? : Document → Option String
  | .text s => some s
  | _ => none

/-- A document that is a text of one character. -/
def character? : Document → Option Char
  | .text s =>
    match s.toList with
    | [c] => some c
    | _ => none
  | _ => none

/-- A text of one character. -/
def ofCharacter (c : Char) : Document := .text (String.ofList [c])

/-- A document that is a count, which has to fit into 64 bits. -/
def count? : Document → Option Nat
  | .integer (.ofNat n) => if n < UInt64.size then some n else none
  | _ => none

/-- A document that is a whole number of 64 bits. -/
def integer64? : Document → Option Int64
  | .integer n => Integer64.ofInt? n
  | _ => none

/-- A document that is a number; a whole number stands for the nearest one. -/
def number? : Document → Option Binary64
  | .integer n => some (.ofInt n)
  | .number x => some x
  | _ => none

/-- A number as a document. Numbers that are not finite have no notation and become null. -/
def ofNumber (x : Binary64) : Document := if x.isFinite then .number x else .null

/-- A document that is a sequence of things. -/
def list? {α : Type} (read : Document → Option α) : Document → Option (List α)
  | .sequence items => items.mapM read
  | _ => none

end Document

end DataGrid

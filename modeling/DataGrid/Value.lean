import DataGrid.Number.Integer64
import DataGrid.Number.Shortest
import DataGrid.Text.Blank
import DataGrid.Text.Hex

/-!
# Cell values

A cell of a grid holds one **`Value`**: nothing, a truth value, a number in one of three forms, a
text or a sequence of bytes. Cells of different forms are compared by their text
(**`Value.text`**), or as numbers where the column is numeric (**`Value.asNumber?`**).
-/

namespace DataGrid

open Text

/-- What a cell holds. -/
inductive Value
  | null
  | boolean (b : Bool)
  | integer (n : Int64)
  | float (x : Binary64)
  /-- An exact decimal number, kept as the text it was given as. -/
  | decimal (numeral : String)
  | string (text : String)
  | bytes (data : List UInt8)
  deriving DecidableEq, Repr

namespace Value

/-- Whether a cell holds nothing at all. -/
def isNull : Value → Bool
  | .null => true
  | _ => false

/-- The test for null is true of null alone. -/
theorem isNull_iff {v : Value} : v.isNull = true ↔ v = .null := by
  cases v <;> simp [isNull]

/-- The test for null is false of all cells but null. -/
theorem isNull_eq_false_iff {v : Value} : v.isNull = false ↔ v ≠ .null := by
  rw [Ne, ← isNull_iff, Bool.not_eq_true]

/-- Whether a cell has nothing to show: it is null, or its text is blank, or it has no bytes. -/
def isBlank : Value → Bool
  | .null => true
  | .bytes data => data.isEmpty
  | .string t | .decimal t => isBlankText t
  | .boolean _ | .integer _ | .float _ => false

/-- The text of a cell by which it is compared: empty for null, and hexadecimal digits for
bytes. -/
def text : Value → String
  | .null => ""
  | .boolean true => "true"
  | .boolean false => "false"
  | .integer n => String.ofList (Integer64.text n)
  | .float x => String.ofList x.text
  | .decimal t | .string t => t
  | .bytes data => String.ofList (ofBytes data)

/-- The text of a cell that holds a text. -/
def asText? : Value → Option String
  | .string t => some t
  | _ => none

/-- The bytes of a cell that holds bytes. -/
def asBytes? : Value → Option (List UInt8)
  | .bytes data => some data
  | _ => none

/-- The truth value of a cell that holds one. -/
def asBoolean? : Value → Option Bool
  | .boolean b => some b
  | _ => none

/-- The whole number that a cell holds or whose numeral it holds, with blanks around it or not. -/
def asInteger? : Value → Option Int64
  | .integer n => some n
  | .decimal t | .string t => Integer64.read? (trim t.toList)
  | _ => none

/-- The number that a cell holds or whose numeral it holds, with blanks around it or not, as a
binary floating-point number. -/
def asNumber? : Value → Option Binary64
  | .integer n => some (.ofInt n.toInt)
  | .float x => some x
  | .decimal t | .string t => Binary64.read? (trim t.toList)
  | _ => none

/-- Whether two cells are of one form and hold the same. Floating-point cells are compared as
numbers, so a cell that is not-a-number equals no cell, not even itself. -/
def equals : Value → Value → Bool
  | .float x, .float y => x.equals y
  | v, w => v == w

end Value

end DataGrid

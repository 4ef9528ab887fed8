import DataGrid.Document.Basic
import DataGrid.Number.Shortest
import DataGrid.Text.Hex

/-!
# Writing JSON

**`Json.text`** writes a document as a JSON text on one line. In a string only what has to be escaped is
escaped, by its letter where it has one. A floating-point number has the same digits as in the text of a
cell (`Binary64.shortest`) and always a point or an exponent, so that it is not taken for an integer; one
that is not finite is written as null.
-/

namespace DataGrid.Json

open Text

/-- How a character is written inside a string. -/
def escaped (c : Char) : List Char :=
  match c with
  | '"' => ['\\', '"']
  | '\\' => ['\\', '\\']
  | '\n' => ['\\', 'n']
  | '\r' => ['\\', 'r']
  | '\t' => ['\\', 't']
  | '\x08' => ['\\', 'b']
  | '\x0c' => ['\\', 'f']
  | c =>
    if c.toNat < 0x20 then '\\' :: 'u' :: '0' :: '0' :: ofByte (UInt8.ofNat c.toNat) else [c]

/-- A string in quotes. -/
def quotedString (s : String) : List Char := '"' :: (s.toList.flatMap escaped ++ ['"'])

/-- Digits, of which the last has an exponent, as a number with a point. If more than sixteen digits would
stand before the point, or more than four zeros right after it, the point stands after the first digit,
or is left out where there are no others, and an exponent follows. -/
def laidOut (digitRun : List Char) (exponent : Int) : List Char :=
  let point : Int := digitRun.length + exponent
  if 16 < point ∨ point < -4 then
    let others := digitRun.drop 1
    digitRun.take 1 ++ (if others.isEmpty then [] else '.' :: others) ++ 'e' :: ofInt (point - 1)
  else if 0 ≤ exponent then Binary64.positional digitRun exponent ++ ['.', '0']
  else Binary64.positional digitRun exponent

/-- A number with its shortest digits. -/
def numberText : Binary64 → List Char
  | .nan => "null".toList
  | .ranked negative rank =>
    if rank.val = Binary64.top then "null".toList
    else
      let (n, exponent) := if rank.val = 0 then (0, 0) else Binary64.shortest rank
      (if negative then ['-'] else []) ++ laidOut (digits n) exponent

mutual

/-- A document as JSON. -/
def chars : Document → List Char
  | .null => "null".toList
  | .boolean true => "true".toList
  | .boolean false => "false".toList
  | .integer n => ofInt n
  | .number x => numberText x
  | .text s => quotedString s
  | .sequence items => '[' :: itemsChars items
  | .record members => '{' :: membersChars members

/-- The items of a sequence with the closing bracket. -/
def itemsChars : List Document → List Char
  | [] => [']']
  | [d] => chars d ++ [']']
  | d :: ds => chars d ++ ',' :: itemsChars ds

/-- The members of a record with the closing brace. -/
def membersChars : List (String × Document) → List Char
  | [] => ['}']
  | [(name, d)] => quotedString name ++ ':' :: chars d ++ ['}']
  | (name, d) :: ms => quotedString name ++ ':' :: chars d ++ ',' :: membersChars ms

end

/-- A document as a JSON text. -/
def text (d : Document) : String := String.ofList (chars d)

end DataGrid.Json

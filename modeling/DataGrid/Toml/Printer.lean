import DataGrid.Toml.Token

/-!
# Writing TOML

A TOML text is written as a list of **`Paragraph`**s: a header each, and below it a line for each
key. The values that stand in a line are texts, truth values and lists of texts (**`Leaf`**).

A text is written in the plainest of the four forms of strings that can hold it
(**`Quotation.of`**): the form of one line before the form of several, and within each the one in
double quotes before the one in single quotes. Double quotes allow for escapes and are always good
in the end; single quotes take the text as it is.
-/

namespace DataGrid.Toml

open Text

/-! ## Strings -/

/-- The length of the longest run of a character, after a run that has come so far. -/
def longestRun (c : Char) : Nat → List Char → Nat
  | run, [] => run
  | run, d :: s => if d = c then longestRun c (run + 1) s else max run (longestRun c 0 s)

/-- Whether a character can be written only as an escape. -/
def needsEscape (c : Char) : Bool := !isPlain c && c != '\n'

/-- The forms of a string. -/
inductive Quotation
  /-- On one line in double quotes. -/
  | basic
  /-- On one line in single quotes. -/
  | literal
  /-- On several lines in double quotes. -/
  | multiBasic
  /-- On several lines in single quotes. -/
  | multiLiteral
  deriving DecidableEq, Repr

/-- The form that a text is written in. -/
def Quotation.of (s : List Char) : Quotation :=
  let raw := !s.any needsEscape
  let unescaped := raw && !s.contains '\\'
  let oneLine := !s.contains '\n'
  if unescaped && !s.contains '"' && oneLine then .basic
  else if raw && !s.contains '\'' && oneLine then .literal
  else if unescaped && longestRun '"' 0 s ≤ 2 then .multiBasic
  else if raw && longestRun '\'' 0 s ≤ 2 then .multiLiteral
  else if oneLine then .basic
  else .multiBasic

/-- The hexadecimal digit of a number below sixteen, in capital letters. -/
def capitalDigit (d : Nat) : Char := if d < 10 then digitChar d else Char.ofNat (55 + d)

/-- How a character other than a double quote is written between double quotes, where line ends may
stay or not. -/
def escaped (keepsLines : Bool) (c : Char) : List Char :=
  match c with
  | '\x08' => ['\\', 'b']
  | '\t' => ['\\', 't']
  | '\x0c' => ['\\', 'f']
  | '\r' => ['\\', 'r']
  | '\\' => ['\\', '\\']
  | '\n' => if keepsLines then ['\n'] else ['\\', 'n']
  | c =>
    if needsEscape c then
      '\\' :: 'u' :: '0' :: '0' :: [capitalDigit (c.toNat / 16), capitalDigit (c.toNat % 16)]
    else [c]

/-- A text between double quotes of which at most two may follow each other as they are, if line ends
may stay, and none otherwise. The number counts the quotes that are right before the text. -/
def escapedText (keepsLines : Bool) : Nat → List Char → List Char
  | _, [] => []
  | run, c :: s =>
    if c = '"' then
      if keepsLines ∧ run < 2 then '"' :: escapedText keepsLines (run + 1) s
      else '\\' :: '"' :: escapedText keepsLines 0 s
    else escaped keepsLines c ++ escapedText keepsLines 0 s

/-- The three quotes that open a string of several lines, with a line end that does not belong to the
text if the text has line ends itself. -/
def opening (quote : Char) (s : List Char) : List Char :=
  [quote, quote, quote] ++ if s.contains '\n' then ['\n'] else []

/-- A text in one of the forms of a string. -/
def Quotation.chars (s : List Char) : Quotation → List Char
  | .basic => '"' :: (escapedText false 0 s ++ ['"'])
  | .literal => '\'' :: (s ++ ['\''])
  | .multiBasic => opening '"' s ++ escapedText true 0 s ++ ['"', '"', '"']
  | .multiLiteral => opening '\'' s ++ s ++ ['\'', '\'', '\'']

/-- A text as a string. -/
def stringChars (s : String) : List Char := (Quotation.of s.toList).chars s.toList

/-! ## Lines and tables -/

/-- A value that a line can set. -/
inductive Leaf
  | text (s : String)
  | boolean (b : Bool)
  | texts (items : List String)
  deriving DecidableEq, Repr

namespace Leaf

/-- The document of a value. -/
def toDocument : Leaf → Document
  | .text s => .text s
  | .boolean b => .boolean b
  | .texts items => .sequence (items.map .text)

/-- A value as it is written. A list of several texts has a line for each of them. -/
def chars : Leaf → List Char
  | .text s => stringChars s
  | .boolean true => "true".toList
  | .boolean false => "false".toList
  | .texts [] => ['[', ']']
  | .texts [s] => '[' :: (stringChars s ++ [']'])
  | .texts items =>
    '[' :: (items.flatMap fun s => "\n    ".toList ++ stringChars s ++ [',']) ++ "\n]".toList

end Leaf

/-- A line with a key, which has to do without quotes, and its value. -/
def lineChars (key : String) (leaf : Leaf) : List Char :=
  key.toList ++ " = ".toList ++ leaf.chars ++ ['\n']

/-- A table with its header and its lines. The names in the header have to do without quotes. -/
structure Paragraph where
  name : List String
  lines : List (String × Leaf)
  deriving DecidableEq, Repr

namespace Paragraph

/-- A table as it is written. -/
def chars (p : Paragraph) : List Char :=
  '[' :: ((".".intercalate p.name).toList ++ "]\n".toList) ++
    p.lines.flatMap fun (key, leaf) => lineChars key leaf

end Paragraph

/-- Tables as a TOML text, with an empty line between each two. -/
def text (paragraphs : List Paragraph) : String :=
  String.ofList (['\n'].intercalate (paragraphs.map Paragraph.chars))

end DataGrid.Toml

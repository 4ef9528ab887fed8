import DataGrid.Document.Basic
import DataGrid.Number.Scaled
import DataGrid.Text.Hex

/-!
# Reading JSON

**`Json.read?`** takes a JSON text apart. A number without a fraction and an exponent is an integer
as long as it fits into 64 bits, with a sign or without one; every other number is a floating-point
number, scaled from its digits in front, and has to be finite. Of several members with one name the
last counts.

The readers here take the text from some place on and give what they have read with the text after
it. Those that call each other are given a number of steps, which `read?` sets so high that a text
ends before the steps do: each character is worth at most two.
-/

namespace DataGrid.Json

open Text

/-- Whether a character may stand between the words of a text. -/
def isSpace (c : Char) : Bool := c = ' ' || c = '\t' || c = '\n' || c = '\r'

/-- The text from the next word on. -/
def skipSpace (s : List Char) : List Char := s.dropWhile isSpace

/-! ## Strings -/

/-- The character that a backslash and a letter stand for. -/
def escape? : Char → Option Char
  | '"' => some '"'
  | '\\' => some '\\'
  | '/' => some '/'
  | 'b' => some '\x08'
  | 'f' => some '\x0c'
  | 'n' => some '\n'
  | 'r' => some '\r'
  | 't' => some '\t'
  | _ => none

/-- The character at a code point, if there is one. -/
def character? (n : Nat) : Option Char := if n.isValidChar then some (Char.ofNat n) else none

/-- Whether a number is the first half of a pair that stands for one code point. -/
def isHighHalf (n : Nat) : Bool := 0xD800 ≤ n && n < 0xDC00

/-- The code point that two halves stand for. -/
def joinHalves? (high low : Nat) : Option Nat :=
  if isHighHalf high && 0xDC00 ≤ low && low < 0xE000 then
    some (0x10000 + (high - 0xD800) * 0x400 + (low - 0xDC00))
  else none

/-- The rest of a string after its opening quote, and the text after its closing quote. -/
def readString : List Char → Option (List Char × List Char)
  | [] => none
  | '"' :: s => some ([], s)
  | '\\' :: 'u' :: a :: b :: c :: d :: s => do
    let n ← ofHex? [a, b, c, d]
    if isHighHalf n then
      match s with
      | '\\' :: 'u' :: e :: f :: g :: h :: s => do
        let code ← joinHalves? n (← ofHex? [e, f, g, h])
        let (t, s) ← readString s
        return (Char.ofNat code :: t, s)
      | _ => none
    else
      let char ← character? n
      let (t, s) ← readString s
      return (char :: t, s)
  | '\\' :: c :: s => do
    let char ← escape? c
    let (t, s) ← readString s
    return (char :: t, s)
  | c :: s =>
    if c.toNat < 0x20 || c = '\\' then none
    else (readString s).map fun (t, s) => (c :: t, s)

/-! ## Numbers -/

/-- A run of digits without a zero in front, and the text after it. -/
def readWhole (s : List Char) : Option (List Char × List Char) :=
  match s.takeWhile isDigit, s.dropWhile isDigit with
  | [], _ => none
  | '0' :: _ :: _, _ => none
  | run, s => some (run, s)

/-- The fraction of a number, which may be missing but not empty. -/
def readFraction : List Char → Option (List Char × List Char)
  | '.' :: s => if (s.takeWhile isDigit).isEmpty then none
    else some (s.takeWhile isDigit, s.dropWhile isDigit)
  | s => some ([], s)

/-- The exponent of a number, which may be missing but not empty. -/
def readExponent : List Char → Option (Option Int × List Char)
  | [] => some (none, [])
  | c :: s =>
    if c = 'e' ∨ c = 'E' then
      let (negative, s) := splitSign s
      (natural? (s.takeWhile isDigit)).map fun (n : Nat) =>
        (some (if negative then -(n : Int) else n), s.dropWhile isDigit)
    else some (none, c :: s)

/-- The finite number with some digits before its point and some after it, times a power of ten.
After a digit before the point that was not taken, digits after the point are taken if they fit. -/
def scaled? (negative : Bool) (whole fraction : List Char) (exponent : Int) :
    Option Binary64 := do
  let (n, taken) := Binary64.takeDigits 0 whole
  let (n, takenAfter) := Binary64.takeDigits n fraction
  let rank ← Binary64.scale? (Binary64.rankOfNat n)
    (exponent + (whole.length - taken : Nat) - takenAfter)
  if h : rank < Binary64.top then some (.ranked negative ⟨rank, Nat.lt_succ_of_lt h⟩) else none

/-- The document of a number: an integer if it is written as one and fits into 64 bits. -/
def ofNumber? (negative : Bool) (whole fraction : List Char) (exponent : Option Int) :
    Option Document :=
  let digits := ofDigits (whole ++ fraction)
  let isInteger := fraction.isEmpty && exponent.isNone &&
    (if negative then digits != 0 && (Integer64.ofInt? (-digits)).isSome else digits < UInt64.size)
  if isInteger then some (.integer (if negative then -(digits : Int) else digits))
  else (scaled? negative whole fraction (exponent.getD 0)).map .number

/-- A number, and the text after it. -/
def readNumber (s : List Char) : Option (Document × List Char) := do
  let (negative, s) := match s with
    | '-' :: s => (true, s)
    | s => (false, s)
  let (whole, s) ← readWhole s
  let (fraction, s) ← readFraction s
  let (exponent, s) ← readExponent s
  let d ← ofNumber? negative whole fraction exponent
  return (d, s)

/-! ## Values -/

mutual

/-- A value, and the text after it. -/
def readValue : Nat → List Char → Option (Document × List Char)
  | 0, _ => none
  | steps + 1, s =>
    match skipSpace s with
    | 'n' :: 'u' :: 'l' :: 'l' :: s => some (.null, s)
    | 't' :: 'r' :: 'u' :: 'e' :: s => some (.boolean true, s)
    | 'f' :: 'a' :: 'l' :: 's' :: 'e' :: s => some (.boolean false, s)
    | '"' :: s => (readString s).map fun (t, s) => (.text (String.ofList t), s)
    | '[' :: s =>
      match skipSpace s with
      | ']' :: s => some (.sequence [], s)
      | s => (readItems steps s).map fun (items, s) => (.sequence items, s)
    | '{' :: s =>
      match skipSpace s with
      | '}' :: s => some (.record [], s)
      | s => (readMembers steps s).map fun (ms, s) => (.record (Keyed.ofList ms).entries, s)
    | s => readNumber s

/-- The items of a sequence from one of them on, and the text after the closing bracket. -/
def readItems : Nat → List Char → Option (List Document × List Char)
  | 0, _ => none
  | steps + 1, s => do
    let (d, s) ← readValue steps s
    match skipSpace s with
    | ']' :: s => return ([d], s)
    | ',' :: s =>
      let (ds, s) ← readItems steps s
      return (d :: ds, s)
    | _ => none

/-- The members of a record from one of them on, and the text after the closing brace. -/
def readMembers : Nat → List Char → Option (List (String × Document) × List Char)
  | 0, _ => none
  | steps + 1, s =>
    match skipSpace s with
    | '"' :: s => do
      let (name, s) ← readString s
      match skipSpace s with
      | ':' :: s =>
        let (d, s) ← readValue steps s
        match skipSpace s with
        | '}' :: s => return ([(String.ofList name, d)], s)
        | ',' :: s =>
          let (ms, s) ← readMembers steps s
          return ((String.ofList name, d) :: ms, s)
        | _ => none
      | _ => none
    | _ => none

end

/-- The document that a JSON text stands for. -/
def read? (text : String) : Option Document := do
  let s := text.toList
  let (d, rest) ← readValue (2 * s.length + 2) s
  if (skipSpace rest).isEmpty then some d else none

end DataGrid.Json

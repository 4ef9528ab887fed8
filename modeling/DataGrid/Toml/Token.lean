import DataGrid.Document.Basic
import DataGrid.Text.Hex

/-!
# Words of TOML

The readers for what stands on a line of a TOML text: blanks, comments and line ends, the four
forms of strings, keys, numbers, dates and times. Each takes the text from some place on and gives
what it has read with the text after it, or nothing if the text does not start with a word of its
sort.

A date or a time becomes a record of its own (`ofMoment`), whose only member no field of a
structure asks for.
-/

namespace DataGrid.Toml

open Text

/-! ## Blanks, comments and line ends -/

/-- Whether a character is a blank within a line. -/
def isSpace (c : Char) : Bool := c = ' ' || c = '\t'

/-- The text from the next character on that is not a blank. -/
def skipSpace (s : List Char) : List Char := s.dropWhile isSpace

/-- Whether a character may stand in a comment or, as it is, in a string: all but control characters
other than the tab. -/
def isPlain (c : Char) : Bool := c = '\t' || (0x20 ≤ c.toNat && c.toNat != 0x7F)

/-- The text after a line end. -/
def newline? : List Char → Option (List Char)
  | '\n' :: s => some s
  | '\r' :: '\n' :: s => some s
  | _ => none

/-- The text after a comment, or the text itself if no comment is there. -/
def skipComment : List Char → List Char
  | '#' :: s => s.dropWhile isPlain
  | s => s

/-- The text of the next line, if nothing but a comment is left of this one. -/
def lineEnd? (s : List Char) : Option (List Char) :=
  match skipComment (skipSpace s) with
  | [] => some []
  | s => newline? s

/-- The text from the next word on, which may be on another line. A comment on the way has to end
with its line. -/
def skipLines (inComment : Bool) : List Char → Option (List Char)
  | [] => if inComment then none else some []
  | '\n' :: s => skipLines false s
  | '\r' :: '\n' :: s => skipLines false s
  | c :: s =>
    if inComment then
      if isPlain c then skipLines true s else none
    else if isSpace c then skipLines false s
    else if c = '#' then skipLines true s
    else some (c :: s)

/-! ## Strings -/

/-- A character put in front of what a reader has read. -/
def push (c : Char) (r : Option (List Char × List Char)) : Option (List Char × List Char) :=
  r.map fun (t, s) => (c :: t, s)

/-- The character that a backslash and a letter stand for. -/
def escape? : Char → Option Char
  | 'b' => some '\x08'
  | 't' => some '\t'
  | 'n' => some '\n'
  | 'f' => some '\x0c'
  | 'r' => some '\r'
  | '"' => some '"'
  | '\\' => some '\\'
  | _ => none

/-- The character whose code point is given in hexadecimal. -/
def ofCode? (digits : List Char) : Option Char := do
  let n ← ofHex? digits
  if n.isValidChar then some (Char.ofNat n) else none

/-- The rest of a string in double quotes, and the text after it. -/
def readBasic : List Char → Option (List Char × List Char)
  | [] => none
  | '"' :: s => some ([], s)
  | '\\' :: 'u' :: a :: b :: c :: d :: s => (ofCode? [a, b, c, d]).bind fun x => push x (readBasic s)
  | '\\' :: 'U' :: a :: b :: c :: d :: e :: f :: g :: h :: s =>
    (ofCode? [a, b, c, d, e, f, g, h]).bind fun x => push x (readBasic s)
  | '\\' :: c :: s => (escape? c).bind fun x => push x (readBasic s)
  | c :: s => if isPlain c && c != '\\' then push c (readBasic s) else none

/-- The rest of a string in single quotes, and the text after it. -/
def readLiteral : List Char → Option (List Char × List Char)
  | [] => none
  | '\'' :: s => some ([], s)
  | c :: s => if isPlain c then push c (readLiteral s) else none

/-- The quotes that belong to a string of several lines although they stand right before the three
that close it: at most two. -/
def closingQuotes (quote : Char) : List Char → List Char × List Char
  | c :: d :: s =>
    if c = quote ∧ d = quote then ([quote, quote], s)
    else if c = quote then ([quote], d :: s)
    else ([], c :: d :: s)
  | [c] => if c = quote then ([quote], []) else ([], [c])
  | [] => ([], [])

/-- Where a reader is with regard to a line end that a backslash takes out of a string. -/
inductive Seam
  /-- In the text. -/
  | text
  /-- After the backslash, with only blanks before the line end. -/
  | beforeBreak
  /-- After the line end, where blanks and further line ends go too. -/
  | afterBreak
  deriving DecidableEq, Repr

/-- The rest of a string of several lines in double quotes, and the text after it. Line ends are
read as line feeds. -/
def readMultiBasic : Seam → List Char → Option (List Char × List Char)
  | _, [] => none
  | .beforeBreak, '\n' :: s => readMultiBasic .afterBreak s
  | .beforeBreak, '\r' :: '\n' :: s => readMultiBasic .afterBreak s
  | .beforeBreak, c :: s => if isSpace c then readMultiBasic .beforeBreak s else none
  | .afterBreak, '\n' :: s => readMultiBasic .afterBreak s
  | .afterBreak, '\r' :: '\n' :: s => readMultiBasic .afterBreak s
  | .text, '\n' :: s => push '\n' (readMultiBasic .text s)
  | .text, '\r' :: '\n' :: s => push '\n' (readMultiBasic .text s)
  | _, '"' :: '"' :: '"' :: s => some (closingQuotes '"' s)
  | _, '\\' :: 'u' :: a :: b :: c :: d :: s =>
    (ofCode? [a, b, c, d]).bind fun x => push x (readMultiBasic .text s)
  | _, '\\' :: 'U' :: a :: b :: c :: d :: e :: f :: g :: h :: s =>
    (ofCode? [a, b, c, d, e, f, g, h]).bind fun x => push x (readMultiBasic .text s)
  | _, '\\' :: c :: s =>
    match escape? c with
    | some x => push x (readMultiBasic .text s)
    | none =>
      if c = '\n' then readMultiBasic .afterBreak s
      else if isSpace c then readMultiBasic .beforeBreak s
      else if c = '\r' ∧ s.head? = some '\n' then readMultiBasic .beforeBreak s
      else none
  | seam, c :: s =>
    if seam = .afterBreak ∧ isSpace c = true then readMultiBasic .afterBreak s
    else if isPlain c && c != '\\' then push c (readMultiBasic .text s)
    else none

/-- The rest of a string of several lines in single quotes, and the text after it. Line ends are
read as line feeds. -/
def readMultiLiteral : List Char → Option (List Char × List Char)
  | [] => none
  | '\n' :: s => push '\n' (readMultiLiteral s)
  | '\r' :: '\n' :: s => push '\n' (readMultiLiteral s)
  | '\'' :: '\'' :: '\'' :: s => some (closingQuotes '\'' s)
  | c :: s => if isPlain c then push c (readMultiLiteral s) else none

/-- The text after a line end that stands there, or the text itself. -/
def skipNewline (s : List Char) : List Char := (newline? s).getD s

/-- A string in any of the four forms, and the text after it. A line end right after the quotes that
open a string of several lines does not belong to it. -/
def readString : List Char → Option (List Char × List Char)
  | '"' :: '"' :: '"' :: s => readMultiBasic .text (skipNewline s)
  | '"' :: s => readBasic s
  | '\'' :: '\'' :: '\'' :: s => readMultiLiteral (skipNewline s)
  | '\'' :: s => readLiteral s
  | _ => none

/-! ## Keys -/

/-- Whether a character may stand in a key without quotes. -/
def isBare (c : Char) : Bool :=
  isDigit c || ('a' ≤ c && c ≤ 'z') || ('A' ≤ c && c ≤ 'Z') || c = '_' || c = '-'

/-- One part of a key, and the text after it. -/
def readKeyPart : List Char → Option (List Char × List Char)
  | '"' :: s => readBasic s
  | '\'' :: s => readLiteral s
  | s => if (s.takeWhile isBare).isEmpty then none else some (s.takeWhile isBare, s.dropWhile isBare)

/-- A key of at most so many parts with points between them, and the text after it and after the
blanks that follow. -/
def readKey : Nat → List Char → Option (List String × List Char)
  | 0, _ => none
  | parts + 1, s => do
    let (part, s) ← readKeyPart (skipSpace s)
    match skipSpace s with
    | '.' :: s =>
      let (rest, s) ← readKey parts s
      return (String.ofList part :: rest, s)
    | s => return ([String.ofList part], s)

/-! ## Numbers -/

/-- Digits with at most one underscore between each two, and the text after them. -/
def readRun (isDigit : Char → Bool) : List Char → Option (List Char × List Char)
  | [] => none
  | c :: s =>
    if isDigit c then
      match s with
      | '_' :: s => push c (readRun isDigit s)
      | s =>
        match readRun isDigit s with
        | some (run, s) => some (c :: run, s)
        | none => some ([c], s)
    else none

/-- The digits of a decimal integer, which has no zero in front, and the text after them. -/
def readWhole : List Char → Option (List Char × List Char)
  | '0' :: s => some (['0'], s)
  | s => readRun isDigit s

/-- The digits of a number after its point, if it has one. -/
def readFraction : List Char → Option (List Char × List Char)
  | '.' :: s => readRun isDigit s
  | s => some ([], s)

/-- The exponent of a number, if it has one. -/
def readExponent : List Char → Option (Option Int × List Char)
  | [] => some (none, [])
  | c :: s =>
    if c = 'e' ∨ c = 'E' then
      let (negative, s) := splitSign s
      (readRun isDigit s).map fun (run, s) =>
        let n : Int := ofDigits run
        (some (if negative then -n else n), s)
    else some (none, c :: s)

/-- An integer of 64 bits as a document. -/
def ofInteger? (n : Int) : Option Document := (Integer64.ofInt? n).map fun _ => .integer n

/-- The digits of a number to some base, read as an integer. -/
def ofRun? (base : Nat) (run : List Char) : Option Document := do
  let n ← run.foldlM (fun n c => (hexValue? c).map (base * n + ·)) 0
  ofInteger? n

/-- Whether a character is a digit to some base. -/
def isDigitOf (base : Nat) (c : Char) : Bool := (hexValue? c).any (· < base)

/-- An integer to some base after its mark, and the text after it. -/
def readInBase (base : Nat) (s : List Char) : Option (Document × List Char) := do
  let (run, s) ← readRun (isDigitOf base) s
  let d ← ofRun? base run
  return (d, s)

/-- A decimal number as a document. One too large for the format is refused unless it is
negative. -/
def ofNumeral? (n : Numeral) : Option Document :=
  if n.round.isFinite || n.negative then some (.number n.round) else none

/-- A decimal number after its sign, and the text after it. -/
def readDecimal (negative : Bool) (s : List Char) : Option (Document × List Char) := do
  let (whole, s) ← readWhole s
  let (fraction, s) ← readFraction s
  let (exponent, s) ← readExponent s
  let digits := ofDigits (whole ++ fraction)
  let d ←
    if fraction.isEmpty && exponent.isNone then
      ofInteger? (if negative then -(digits : Int) else digits)
    else ofNumeral? { negative, digits, exponent := exponent.getD 0 - fraction.length }
  return (d, s)

/-- The number that is not finite or not a number, by its sign. -/
def infinity (negative : Bool) : Document :=
  .number (.ranked negative ⟨Binary64.top, Nat.lt_succ_self _⟩)

/-- A number, and the text after it. -/
def readNumber (s : List Char) : Option (Document × List Char) :=
  match s with
  | '0' :: 'x' :: s => readInBase 16 s
  | '0' :: 'o' :: s => readInBase 8 s
  | '0' :: 'b' :: s => readInBase 2 s
  | s =>
    match splitSign s with
    | (negative, 'i' :: 'n' :: 'f' :: s) => some (infinity negative, s)
    | (_, 'n' :: 'a' :: 'n' :: s) => some (.number .nan, s)
    | (negative, s) => readDecimal negative s

/-! ## Dates and times -/

/-- A number of exactly so many digits in some range, and the text after it. -/
def readField (width least greatest : Nat) (s : List Char) : Option (Nat × List Char) := do
  let n ← natural? (s.take width)
  if (s.take width).length = width ∧ least ≤ n ∧ n ≤ greatest then some (n, s.drop width) else none

/-- The text after a character that has to stand there. -/
def skipChar (c : Char) : List Char → Option (List Char)
  | d :: s => if d = c then some s else none
  | [] => none

/-- The number of days in a month. -/
def daysIn (year month : Nat) : Nat :=
  if month = 2 then if year % 4 = 0 ∧ (year % 100 ≠ 0 ∨ year % 400 = 0) then 29 else 28
  else if month = 4 ∨ month = 6 ∨ month = 9 ∨ month = 11 then 30
  else 31

/-- The text after a date. -/
def skipDate (s : List Char) : Option (List Char) := do
  let (year, s) ← readField 4 0 9999 s
  let s ← skipChar '-' s
  let (month, s) ← readField 2 1 12 s
  let s ← skipChar '-' s
  let (_, s) ← readField 2 1 (daysIn year month) s
  return s

/-- The text after the fraction of a second, if there is one. -/
def skipFraction : List Char → List Char
  | '.' :: c :: s => if isDigit c then s.dropWhile isDigit else '.' :: c :: s
  | s => s

/-- The text after an hour and a minute. -/
def skipMinute (s : List Char) : Option (List Char) := do
  let (_, s) ← readField 2 0 23 s
  let s ← skipChar ':' s
  let (_, s) ← readField 2 0 59 s
  return s

/-- The text after a time of day; a minute may have a leap second. -/
def skipTime (s : List Char) : Option (List Char) := do
  let s ← skipMinute s
  let s ← skipChar ':' s
  let (_, s) ← readField 2 0 60 s
  return skipFraction s

/-- The text after the distance from universal time, if it is given. -/
def skipOffset : List Char → List Char
  | [] => []
  | c :: s =>
    if c = 'Z' ∨ c = 'z' then s
    else if c = '+' ∨ c = '-' then (skipMinute s).getD (c :: s)
    else c :: s

/-- The text after a date, with a time of day or without one. -/
def skipDateTime (s : List Char) : Option (List Char) := do
  let afterDate ← skipDate s
  match afterDate with
  | c :: rest =>
    if c = 'T' ∨ c = 't' ∨ c = ' ' then return ((skipTime rest).map skipOffset).getD afterDate
    else return afterDate
  | [] => return []

/-- A date or a time as a document. -/
def ofMoment (s : List Char) : Document := .record [("datetime", .text (String.ofList s))]

/-- A date or a time, and the text after it. -/
def readMoment (s : List Char) : Option (Document × List Char) := do
  let rest ← (skipDateTime s).orElse fun _ => skipTime s
  return (ofMoment (s.take (s.length - rest.length)), rest)

end DataGrid.Toml

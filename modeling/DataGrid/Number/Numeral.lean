import DataGrid.Number.Binary64
import DataGrid.Text.Digits

/-!
# Reading numbers from text

A *numeral* is an optional sign, digits with at most one point among them, and an optional exponent;
at least one digit has to stand beside the point. **`Numeral.read?`** takes a text apart into its
digits and the power of ten they are scaled by, and **`Numeral.round`** gives the nearest number.
The words `inf`, `infinity` and `nan`, in any mixture of cases and with an optional sign, are
numbers too. **`Binary64.read`** reads either form; a text of neither form is refused with one of
two reasons.
-/

namespace DataGrid

open Text

/-- A decimal numeral: `± digits · 10 ^ exponent`. -/
structure Numeral where
  negative : Bool
  digits : Nat
  exponent : Int
  deriving DecidableEq, Repr

namespace Numeral

/-- The exponent part of a numeral, which ends it: nothing, or `e` and a signed numeral. -/
def exponent? : List Char → Option Int
  | [] => some 0
  | c :: s => if c = 'e' ∨ c = 'E' then integer? s else none

/-- The digits after the point of a numeral, if there is one, and the text after them. -/
def splitFraction : List Char → List Char × List Char
  | '.' :: s => (s.takeWhile isDigit, s.dropWhile isDigit)
  | s => ([], s)

/-- A numeral without its sign: its digits, and the exponent of the last of them. -/
def unsigned? (s : List Char) : Option (Nat × Int) :=
  let whole := s.takeWhile isDigit
  let (fraction, rest) := splitFraction (s.dropWhile isDigit)
  if whole.isEmpty && fraction.isEmpty then none
  else (exponent? rest).map fun e => (ofDigits (whole ++ fraction), e - fraction.length)

/-- The numeral that is the whole of a text. -/
def read? (s : List Char) : Option Numeral :=
  let (negative, s) := splitSign s
  (unsigned? s).map fun (digits, exponent) => { negative, digits, exponent }

/-- Above this exponent every numeral but zero is infinite. -/
def largestExponent : Nat := 400

/-- The rank nearest to `digits · 10 ^ exponent`. An exponent so large that the result is infinite,
or so small that it is zero, is cut off where that is already settled; this keeps the arithmetic
within the size of the text. -/
def rank (digits : Nat) : Int → Nat
  | .ofNat e => Binary64.rankOf (digits * Nat.pow 10 (min e largestExponent) * Binary64.unitScale) 1
  | .negSucc e =>
    Binary64.rankOf (digits * Binary64.unitScale) (Nat.pow 10 (min (e + 1) (digits.log2 + 1100)))

/-- The rank of a numeral is at most that of infinity, also where its exponent is cut off. -/
theorem rank_le_top (digits : Nat) (exponent : Int) : rank digits exponent ≤ Binary64.top := by
  cases exponent <;> exact Binary64.rankOf_le_top _ _

/-- The number nearest to a numeral. -/
def round (n : Numeral) : Binary64 :=
  .ranked n.negative ⟨rank n.digits n.exponent, Nat.lt_succ_of_le (rank_le_top _ _)⟩

end Numeral

/-- Why a text is not a number. -/
inductive NumeralError
  | empty
  | malformed
  deriving DecidableEq, Repr

/-- The reason in words. -/
def NumeralError.message : NumeralError → String
  | .empty => "cannot parse float from empty string"
  | .malformed => "invalid float literal"

namespace Binary64

/-- Whether a text is a word of small letters, in any mixture of cases. -/
def isWord (word : String) (s : List Char) : Bool := s.map Char.toLower == word.toList

/-- The number that a word stands for. -/
def ofWord? (s : List Char) : Option Binary64 :=
  let (negative, s) := splitSign s
  if isWord "nan" s then some .nan
  else if isWord "inf" s || isWord "infinity" s then
    some (.ranked negative ⟨top, Nat.lt_succ_self top⟩)
  else none

/-- The number that a text stands for. -/
def read (s : List Char) : Except NumeralError Binary64 :=
  if s.isEmpty then .error .empty
  else
    match Numeral.read? s with
    | some n => .ok n.round
    | none => (ofWord? s).elim (.error .malformed) .ok

/-- The number that a text stands for, if it stands for one. -/
def read? (s : List Char) : Option Binary64 := (read s).toOption

end Binary64

end DataGrid

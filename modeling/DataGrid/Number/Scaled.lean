import DataGrid.Number.Binary64
import DataGrid.Text.Digits

/-!
# Scaling by powers of ten

A numeral in a data format may have far more digits than a number of 64 bits can tell apart. Such a
format is read quickly by taking only the digits in front that make up a whole number of 64 bits
(**`takeDigits`**) and by multiplying or dividing that number by a power of ten (**`scale?`**), both
rounded. The result is the nearest number as long as number and power are exact, and may be a
neighbour of it otherwise.
-/

namespace DataGrid.Binary64

open Text

/-- The whole number that goes on with the digits of a run for as long as it fits into 64 bits, and
how many digits that are. -/
def takeDigits (n : Nat) : List Char → Nat × Nat
  | [] => (n, 0)
  | c :: s =>
    if 10 * n + digitValue c < UInt64.size then
      let (m, taken) := takeDigits (10 * n + digitValue c) s
      (m, taken + 1)
    else (n, 0)

/-- The rank nearest to the product of the magnitudes of two ranks. -/
def product (r s : Nat) : Nat := rankOf (units r * units s) unitScale

/-- The rank nearest to the quotient of the magnitudes of two ranks. -/
def quotient (r s : Nat) : Nat := rankOf (units r * unitScale) (units s)

/-- The rank nearest to a whole number. -/
def rankOfNat (n : Nat) : Nat := rankOf (n * unitScale) 1

/-- The exponent of the largest finite power of ten. -/
def largestPower : Nat := 308

/-- The rank of a magnitude times a power of ten. A magnitude is divided by the largest power as long
as the exponent is below all powers, and is refused if the exponent is above them. -/
def scale? (rank : Nat) (exponent : Int) : Option Nat :=
  if exponent.natAbs ≤ largestPower then
    let power := rankOfNat (Nat.pow 10 exponent.natAbs)
    some (if exponent < 0 then quotient rank power else product rank power)
  else if rank = 0 then some 0
  else if exponent < 0 then scale? (quotient rank (rankOfNat (Nat.pow 10 largestPower)))
    (exponent + largestPower)
  else none
termination_by exponent.natAbs
decreasing_by simp only [largestPower] at *; omega

end DataGrid.Binary64

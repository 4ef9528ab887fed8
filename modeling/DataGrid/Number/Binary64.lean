/-!
# Binary floating-point numbers of 64 bits

A number of this format is not-a-number or has a sign and a magnitude. The magnitudes, in
ascending order, are given by their *rank*: rank `0` is zero, and the ranks go up by one from each
magnitude to the next, through `2 ^ 52` ranks for every exponent, to the rank **`top`** of infinity.
So magnitudes compare as their ranks do, every rank below `top` is a finite number, and rounding
has only to find a rank.

Magnitudes are measured in *units* of `2 ^ -1074`, the least positive number of the format, which
makes every finite magnitude a natural number.

Main definitions.
* **`Binary64`**: the numbers; `compare?` orders them, with not-a-number unordered and the two
  zeros equal.
* **`units`**: the magnitude of a rank; **`rankOf`**: the rank nearest to a quotient of natural
  numbers, where a half goes to the even rank.
* **`ofRatio`**, **`ofInt`**: rounding of a fraction and of an integer.
-/

namespace DataGrid

namespace Binary64

/-- The ranks with one exponent. -/
def binade : Nat := Nat.pow 2 52

/-- The rank of infinity. -/
def top : Nat := 2047 * binade

/-- The exponent of the unit: a magnitude is a multiple of `2 ^ -1074`. -/
def unitScale : Nat := Nat.pow 2 1074

end Binary64

/-- A number of the binary format of 64 bits. -/
inductive Binary64
  | nan
  | ranked (negative : Bool) (rank : Fin (Binary64.top + 1))
  deriving DecidableEq, Repr

namespace Binary64

/-- The magnitude of a rank in units. Below `2 ^ 53` the ranks are the units; above, each exponent
doubles the distance between neighbours. -/
def units (rank : Nat) : Nat :=
  if rank < binade then rank else (binade + rank % binade) * Nat.pow 2 (rank / binade - 1)

/-- The integer nearest to a quotient; a half goes to the even neighbour. -/
def roundHalfEven (num den : Nat) : Nat :=
  let quotient := num / den
  if 2 * (num % den) < den then quotient
  else if den < 2 * (num % den) then quotient + 1
  else quotient + quotient % 2

/-- The rank nearest to a quotient of units, at most that of infinity. The quotient is scaled down
to 53 binary digits and rounded to an integer there; a carry out of the 53 digits gives the first
rank of the next exponent by itself. -/
def rankOf (num den : Nat) : Nat :=
  let shift := (num / den).log2 - 52
  min top (shift * binade + roundHalfEven num (den * Nat.pow 2 shift))

/-- No rank is above that of infinity. -/
theorem rankOf_le_top (num den : Nat) : rankOf num den ≤ top := Nat.min_le_left _ _

/-- The number with a sign and the rank nearest to a quotient of units. -/
def ofUnits (negative : Bool) (num den : Nat) : Binary64 :=
  .ranked negative ⟨rankOf num den, Nat.lt_succ_of_le (rankOf_le_top num den)⟩

/-- The number nearest to a fraction. -/
def ofRatio (negative : Bool) (num den : Nat) : Binary64 := ofUnits negative (num * unitScale) den

/-- The number nearest to an integer. -/
def ofInt (n : Int) : Binary64 := ofRatio (n < 0) n.natAbs 1

/-- The place of a number in the order: its rank with its sign. Not-a-number has no place, and both
zeros have the same. -/
def place? : Binary64 → Option Int
  | .nan => none
  | .ranked true r => some (-(r.val : Int))
  | .ranked false r => some r.val

/-- How two numbers compare, unless one of them is not-a-number. -/
def compare? (x y : Binary64) : Option Ordering := do
  return compare (← x.place?) (← y.place?)

/-- Whether a number is neither infinite nor not-a-number. -/
def isFinite : Binary64 → Bool
  | .nan => false
  | .ranked _ r => r.val < top

/-- Equality as numbers: not-a-number equals nothing, and the two zeros are equal. -/
def equals (x y : Binary64) : Bool := x.compare? y == some .eq

/-- Two numbers are equal exactly if they have a place in the order, and the same one. So not-a-number
equals nothing, and the two zeros are equal. -/
theorem equals_iff (x y : Binary64) :
    x.equals y = true ↔ ∃ p, x.place? = some p ∧ y.place? = some p := by
  rcases hx : x.place? with _ | p <;> rcases hy : y.place? with _ | q
  · simp [equals, compare?, hx]
  · simp [equals, compare?, hx]
  · simp [equals, compare?, hx, hy]
  · simpa [equals, compare?, hx, hy] using eq_comm

end Binary64

end DataGrid

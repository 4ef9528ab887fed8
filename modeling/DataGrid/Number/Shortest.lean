import DataGrid.Number.Numeral

/-!
# The shortest text of a number

A finite number is written with the fewest decimal digits that read back as the same number, and
among those with the ones nearest to it; of two that are equally near the larger magnitude is
taken. The text never has an exponent: `1`, `-0`, `0.0000001`, `1000000000000000000000`.

The digits are found by looking at one decimal grid after the other, from coarse to fine: on the
grid of the multiples of a power of ten, the two neighbours of the number are the candidates
(**`onGrid?`**), and the first grid on which one of them reads back is taken (**`shortest`**). The
finest grid holds every number of the format exactly, so the search cannot fail.
-/

namespace DataGrid.Binary64

open Text

/-- A magnitude as a quotient in multiples of `10 ^ exponent`. -/
def scaled (rank : Nat) : Int → Nat × Nat
  | .ofNat e => (units rank, unitScale * Nat.pow 10 e)
  | .negSucc e => (units rank * Nat.pow 10 (e + 1), unitScale)

/-- The multiple of `10 ^ exponent` nearest to a magnitude among its two neighbours on this grid,
of those that read back as the magnitude. -/
def onGrid? (rank : Nat) (exponent : Int) : Option Nat :=
  let (num, den) := scaled rank exponent
  let below := num / den
  let readsBack := fun n => Numeral.rank n exponent == rank
  match readsBack below, readsBack (below + 1) with
  | true, true => some (if 2 * (num % den) < den then below else below + 1)
  | true, false => some below
  | false, true => some (below + 1)
  | false, false => none

/-- The power of ten just above a positive finite magnitude, which is at least `10 ^ -323`. -/
def decimalExponent (rank : Nat) : Int :=
  (digits (units rank * Nat.pow 10 400 / unitScale)).length - (400 : Int)

/-- Seventeen digits are enough to tell any two numbers of the format apart. -/
def sufficientDigits : Nat := 17

/-- The digits of a positive finite magnitude and the exponent of the last of them. -/
def shortest (rank : Nat) : Nat × Int :=
  let start := decimalExponent rank
  let found := (List.range (sufficientDigits + 1)).findSome? fun (n : Nat) =>
    (onGrid? rank (start - n)).map fun digits => (digits, start - n)
  found.getD (units rank * Nat.pow 5 1074, -1074)

/-- A decimal number in positional notation. -/
def positional (digitRun : List Char) : Int → List Char
  | .ofNat e => digitRun ++ List.replicate e '0'
  | .negSucc e =>
    let places := e + 1
    if places < digitRun.length then
      digitRun.take (digitRun.length - places) ++ '.' :: digitRun.drop (digitRun.length - places)
    else '0' :: '.' :: (List.replicate (places - digitRun.length) '0' ++ digitRun)

/-- The text of a magnitude. -/
def magnitudeText (rank : Nat) : List Char :=
  if rank = 0 then ['0']
  else if rank = top then "inf".toList
  else
    let (n, exponent) := shortest rank
    positional (digits n) exponent

/-- The text of a number. Not-a-number has no sign. -/
def text : Binary64 → List Char
  | .nan => "NaN".toList
  | .ranked true r => '-' :: magnitudeText r
  | .ranked false r => magnitudeText r

end DataGrid.Binary64

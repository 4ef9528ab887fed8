/-!
# Decimal numerals of natural numbers and of integers

**`digits`** writes a natural number without leading zeros, **`ofDigits`** reads a run of digits,
and `ofDigits_digits` says that reading undoes writing. A *signed numeral* is an optional `+` or
`-` and one or more digits; **`integer?`** reads one and **`ofInt`** writes one, without a `+`.
Only the digits `0` to `9` count, so digits of other scripts are never part of a numeral.
-/

namespace DataGrid.Text

/-- Whether a character is one of the digits `0` to `9`. -/
def isDigit (c : Char) : Bool := '0' ≤ c && c ≤ '9'

/-- The digit that stands for a number below ten. -/
def digitChar (d : Nat) : Char := Char.ofNat (48 + d)

/-- The number that a digit stands for. -/
def digitValue (c : Char) : Nat := c.toNat - 48

/-- The decimal digits of a natural number, most significant first. -/
def digits (n : Nat) : List Char :=
  if n < 10 then [digitChar n] else digits (n / 10) ++ [digitChar (n % 10)]

/-- The number that a run of digits stands for; the empty run stands for zero. -/
def ofDigits (s : List Char) : Nat := s.foldl (fun n c => 10 * n + digitValue c) 0

/-- A non-empty run of digits read as a number. -/
def natural? (s : List Char) : Option Nat :=
  if !s.isEmpty && s.all isDigit then some (ofDigits s) else none

/-- The sign in front of a numeral: whether it is a minus, and the text after it. -/
def splitSign : List Char → Bool × List Char
  | '-' :: s => (true, s)
  | '+' :: s => (false, s)
  | s => (false, s)

/-- A signed numeral read as an integer. -/
def integer? (s : List Char) : Option Int :=
  let (negative, s) := splitSign s
  (natural? s).map fun n => if negative then -(n : Int) else n

/-- An integer as a numeral, with a sign only when it is negative. -/
def ofInt : Int → List Char
  | .ofNat n => digits n
  | .negSucc n => '-' :: digits (n + 1)

/-- The digit of a number below ten stands for this number. -/
theorem digitValue_digitChar {d : Nat} (h : d < 10) : digitValue (digitChar d) = d := by
  have : ∀ k : Fin 10, digitValue (digitChar k) = k := by decide
  exact this ⟨d, h⟩

/-- The digit of a number below ten is a digit. -/
theorem isDigit_digitChar {d : Nat} (h : d < 10) : isDigit (digitChar d) = true := by
  have : ∀ k : Fin 10, isDigit (digitChar k) = true := by decide
  exact this ⟨d, h⟩

/-- Every number has a digit, zero too. -/
theorem digits_ne_nil (n : Nat) : digits n ≠ [] := by
  rw [digits]
  split <;> simp

/-- The digits of a number are digits. -/
theorem isDigit_of_mem_digits {n : Nat} : ∀ c ∈ digits n, isDigit c = true := by
  induction n using digits.induct with
  | case1 n h =>
    rw [digits, if_pos h]
    simpa using isDigit_digitChar h
  | case2 n h ih =>
    rw [digits, if_neg h]
    intro c hc
    rcases List.mem_append.mp hc with hc | hc
    · exact ih c hc
    · rw [List.mem_singleton.mp hc]
      exact isDigit_digitChar (Nat.mod_lt _ (by decide))

/-- One more digit at the end counts for itself, and those before it count tenfold. -/
theorem ofDigits_append_singleton (s : List Char) (c : Char) :
    ofDigits (s ++ [c]) = 10 * ofDigits s + digitValue c := by
  simp [ofDigits]

/-- The digits of a number stand for this number. -/
theorem ofDigits_digits (n : Nat) : ofDigits (digits n) = n := by
  induction n using digits.induct with
  | case1 n h =>
    rw [digits, if_pos h]
    simpa [ofDigits] using digitValue_digitChar h
  | case2 n h ih =>
    rw [digits, if_neg h, ofDigits_append_singleton, ih,
      digitValue_digitChar (Nat.mod_lt _ (by decide))]
    omega

/-- A natural number is read back from its digits. -/
theorem natural?_digits (n : Nat) : natural? (digits n) = some n := by
  have hall : (digits n).all isDigit = true := List.all_eq_true.mpr isDigit_of_mem_digits
  have hne : (digits n).isEmpty = false := by simpa using digits_ne_nil n
  simp [natural?, hall, hne, ofDigits_digits]

end DataGrid.Text

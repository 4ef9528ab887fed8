import DataGrid.Text.Digits

/-!
# Signed 64-bit integers as text

A cell that holds a whole number holds an `Int64`. **`Integer64.read?`** accepts a signed numeral
whose value lies in the range of the type, and **`Integer64.text`** writes the shortest one.
-/

namespace DataGrid.Integer64

open Text

/-- An integer as a 64-bit one, if it is in range. -/
def ofInt? (n : Int) : Option Int64 :=
  if Int64.minValue.toInt ≤ n ∧ n ≤ Int64.maxValue.toInt then some (Int64.ofInt n) else none

/-- The integer that a signed numeral stands for, if it is in range. -/
def read? (s : List Char) : Option Int64 := integer? s >>= ofInt?

/-- The numeral of an integer. -/
def text (n : Int64) : List Char := ofInt n.toInt

/-- An integer of 64 bits is in range. -/
theorem ofInt?_toInt (n : Int64) : ofInt? n.toInt = some n := by
  have h := Int64.toInt_lt n
  rw [ofInt?, if_pos ⟨Int64.le_toInt n, Int.le_of_lt_add_one h⟩, Int64.ofInt_toInt]

end DataGrid.Integer64

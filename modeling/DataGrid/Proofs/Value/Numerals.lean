import DataGrid.Proofs.Number.ReadBack
import DataGrid.Value

/-!
# Numerals in cells

A number gets into a cell as an integer, as a binary number or as a numeral, and the text of a cell is
a numeral again.

* **`read_trim_text`**: in whichever form a cell holds a number, its text is read as this number once the
  blanks around it are gone.
* **`NotInteger`**: the cells that are not null and yet no integer, by what they hold; `notInteger_iff` says
  that no integer is read from exactly these.
* **`Holds`**: an integer in a cell, in one of three forms. Cells that hold the same integer read alike
  (**`Holds.readsAlike`**): they have the same text, integer and number, and neither is null or blank,
  so they can stand for one another (`Interchangeable`).
-/

namespace DataGrid.Value

open Text

/-! ## The text of a number -/

/-- **The text of a cell that holds a number is read as this number.** -/
theorem read_trim_text {v : Value} {x : Binary64} (number : v.asNumber? = some x) :
    Binary64.read (trim v.text.toList) = .ok x := by
  cases v with
  | integer n =>
    obtain rfl := Option.some.inj number
    rw [text, String.toList_ofList, Integer64.text, ← PlainNumeral.chars_ofInt,
      PlainNumeral.read_trim_chars, PlainNumeral.rounded_ofInt]
  | float y =>
    obtain rfl := Option.some.inj number
    rw [text, String.toList_ofList, trim_eq_self y.isBlank_of_mem_text, y.read_text]
  | decimal t | string t => exact Binary64.read?_eq_some_iff.mp number
  | null | boolean | bytes => cases number

/-! ## Cells without an integer -/

/-- Whether a text is the numeral of an integer of 64 bits, with blanks around it or not. -/
def WritesInteger (t : String) : Prop :=
  ∃ p : PlainNumeral, p.fraction = none ∧ p.chars = trim t.toList ∧ -2 ^ 63 ≤ p.value ∧
    p.value < 2 ^ 63

/-- Whether a cell that is not null is no integer: it holds something else than an integer, a numeral or
a text, or a text that is not the numeral of an integer or the numeral of one that is out of range. -/
inductive NotInteger : Value → Prop
  | boolean (b : Bool) : NotInteger (.boolean b)
  | float (x : Binary64) : NotInteger (.float x)
  | bytes (data : List UInt8) : NotInteger (.bytes data)
  | decimal {t : String} (no : ¬ WritesInteger t) : NotInteger (.decimal t)
  | string {t : String} (no : ¬ WritesInteger t) : NotInteger (.string t)

/-- The texts that write an integer are those from which one is read. -/
theorem writesInteger_iff {t : String} :
    WritesInteger t ↔ ∃ n, Integer64.read? (trim t.toList) = some n := by
  simp only [Integer64.read?_eq_some_iff]
  constructor
  · rintro ⟨p, whole, written, low, high⟩
    obtain ⟨k, value⟩ : ∃ k : ℤ, p.value = k := ⟨_, p.value_of_integer whole⟩
    rw [value] at low high
    have inRange : (Int64.ofInt k).toInt = k := by
      apply Int64.toInt_ofInt_of_le
      · exact_mod_cast low
      · exact_mod_cast high
    exact ⟨Int64.ofInt k, p, whole, written, by rw [inRange, value]⟩
  · rintro ⟨n, p, whole, written, value⟩
    refine ⟨p, whole, written, ?_, ?_⟩ <;> rw [value]
    · exact_mod_cast n.le_toInt
    · exact_mod_cast n.toInt_lt

/-- **The cells without an integer are all those that are not null and from which none is read.** -/
theorem notInteger_iff {v : Value} : v.NotInteger ↔ v ≠ .null ∧ v.asInteger? = none := by
  have unread (t : String) : ¬ WritesInteger t ↔ Integer64.read? (trim t.toList) = none := by
    rw [writesInteger_iff, not_exists, Option.eq_none_iff_forall_ne_some]
  constructor
  · intro h
    cases h with
    | boolean | float | bytes => exact ⟨Value.noConfusion, rfl⟩
    | decimal no | string no => exact ⟨Value.noConfusion, (unread _).mp no⟩
  · rintro ⟨filled, none⟩
    cases v with
    | null => exact absurd rfl filled
    | integer n => cases none
    | boolean b => exact .boolean b
    | float x => exact .float x
    | bytes data => exact .bytes data
    | decimal t => exact .decimal ((unread t).mpr none)
    | string t => exact .string ((unread t).mpr none)

/-! ## Integers in several forms -/

/-- Whether a cell holds an integer, as such or as its numeral. -/
inductive Holds (n : Int64) : Value → Prop
  | integer : Holds n (.integer n)
  | decimal : Holds n (.decimal (String.ofList (Integer64.text n)))
  | string : Holds n (.string (String.ofList (Integer64.text n)))

/-- Whether two cells have the same text and the same number, and neither is null or blank unless the
other is. -/
structure ReadsAlike (v w : Value) : Prop where
  isNull : v.isNull = w.isNull
  isBlank : v.isBlank = w.isBlank
  text : v.text = w.text
  asInteger? : v.asInteger? = w.asInteger?
  asNumber? : v.asNumber? = w.asNumber?

/-- A cell reads like itself. -/
theorem readsAlike_refl (v : Value) : v.ReadsAlike v := ⟨rfl, rfl, rfl, rfl, rfl⟩

/-- Whether two cells hold the same integer or are one and the same. -/
def Interchangeable (v w : Value) : Prop := v = w ∨ ∃ n, v.Holds n ∧ w.Holds n

section Holds

variable {n : Int64} {v w : Value}

/-- There are no blanks around the numeral of an integer. -/
theorem trim_text_integer (n : Int64) : trim (Integer64.text n) = Integer64.text n := by
  rw [Integer64.text, ← PlainNumeral.chars_ofInt]
  exact trim_eq_self (PlainNumeral.ofInt n.toInt).isBlank_of_mem_chars

/-- The text of a cell that holds an integer is its numeral. -/
theorem Holds.text (h : v.Holds n) : v.text = String.ofList (Integer64.text n) := by
  cases h <;> rfl

/-- A cell that holds an integer is not null. -/
theorem Holds.isNull (h : v.Holds n) : v.isNull = false := by
  cases h <;> rfl

/-- A cell that holds an integer is not blank. -/
theorem Holds.isBlank (h : v.Holds n) : v.isBlank = false := by
  have shown : isBlankText (String.ofList (Integer64.text n)) = false := by
    rw [isBlankText, String.toList_ofList, trim_text_integer, Integer64.text,
      ← PlainNumeral.chars_ofInt]
    simpa using (PlainNumeral.ofInt n.toInt).chars_ne_nil
  cases h with
  | integer => rfl
  | decimal | string => exact shown

/-- All integers of 64 bits are read, the least one too. -/
theorem Holds.asInteger? (h : v.Holds n) : v.asInteger? = some n := by
  have read : Integer64.read? (trim (String.ofList (Integer64.text n)).toList) = some n := by
    rw [String.toList_ofList, trim_text_integer, Integer64.read?_text]
  cases h with
  | integer => rfl
  | decimal | string => exact read

/-- Where the format does not hold the integer, its numeral is rounded as it is itself. -/
theorem Holds.asNumber? (h : v.Holds n) : v.asNumber? = some (.ofInt n.toInt) := by
  have read : Binary64.read? (trim (String.ofList (Integer64.text n)).toList) =
      some (.ofInt n.toInt) := by
    rw [String.toList_ofList, trim_text_integer, Binary64.read?_eq_some_iff, Integer64.text,
      Binary64.read_ofInt]
  cases h with
  | integer => rfl
  | decimal | string => exact read

/-- **Cells that hold the same integer read alike**, whatever form it has. -/
theorem Holds.readsAlike (hv : v.Holds n) (hw : w.Holds n) : v.ReadsAlike w where
  isNull := hv.isNull.trans hw.isNull.symm
  isBlank := hv.isBlank.trans hw.isBlank.symm
  text := hv.text.trans hw.text.symm
  asInteger? := hv.asInteger?.trans hw.asInteger?.symm
  asNumber? := hv.asNumber?.trans hw.asNumber?.symm

/-- Cells that can stand for one another read alike. -/
theorem Interchangeable.readsAlike (h : v.Interchangeable w) : v.ReadsAlike w := by
  rcases h with rfl | ⟨n, hv, hw⟩
  · exact v.readsAlike_refl
  · exact hv.readsAlike hw

end Holds

end DataGrid.Value

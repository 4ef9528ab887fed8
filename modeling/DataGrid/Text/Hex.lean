import DataGrid.Text.Digits

/-!
# Hexadecimal digits

Binary cells are shown as two small hexadecimal digits for each byte (**`ofBytes`**); quoted texts
spell code points out in hexadecimal (**`hexDigits`**), and readers take such spellings back
(**`ofHex?`**).
-/

namespace DataGrid.Text

/-- The hexadecimal digit of a number below sixteen, in small letters. -/
def hexDigit (d : Nat) : Char := if d < 10 then digitChar d else Char.ofNat (87 + d)

/-- A number in hexadecimal, without leading zeros. -/
def hexDigits (n : Nat) : List Char :=
  if n < 16 then [hexDigit n] else hexDigits (n / 16) ++ [hexDigit (n % 16)]

/-- The two hexadecimal digits of a byte. -/
def ofByte (b : UInt8) : List Char := [hexDigit (b.toNat / 16), hexDigit (b.toNat % 16)]

/-- The hexadecimal digits of a sequence of bytes. -/
def ofBytes (bs : List UInt8) : List Char := bs.flatMap ofByte

/-- The number that a hexadecimal digit of either case stands for. -/
def hexValue? (c : Char) : Option Nat :=
  if isDigit c then some (digitValue c)
  else if 'a' ≤ c ∧ c ≤ 'f' then some (c.toNat - 87)
  else if 'A' ≤ c ∧ c ≤ 'F' then some (c.toNat - 55)
  else none

/-- The number that a run of hexadecimal digits stands for. -/
def ofHex? (s : List Char) : Option Nat :=
  s.foldlM (fun n c => (hexValue? c).map (16 * n + ·)) 0

/-- Different numbers below sixteen have different digits. -/
theorem hexDigit_inj {d e : Nat} (hd : d < 16) (he : e < 16) (h : hexDigit d = hexDigit e) :
    d = e := by
  have : ∀ i j : Fin 16, hexDigit i = hexDigit j → i = j := by decide
  exact Fin.val_eq_of_eq (this ⟨d, hd⟩ ⟨e, he⟩ h)

/-- Different bytes have different pairs of digits. -/
theorem ofByte_inj {a b : UInt8} (h : ofByte a = ofByte b) : a = b := by
  have ha := a.toNat_lt
  have hb := b.toNat_lt
  simp only [ofByte, List.cons.injEq, and_true] at h
  have hi := hexDigit_inj (by omega) (by omega) h.1
  have lo := hexDigit_inj (by omega) (by omega) h.2
  exact UInt8.toNat_inj.mp (by omega)

/-- Different sequences of bytes have different digits. -/
theorem ofBytes_inj {a b : List UInt8} (h : ofBytes a = ofBytes b) : a = b := by
  induction a generalizing b with
  | nil =>
    cases b with
    | nil => rfl
    | cons y b => simp [ofBytes, ofByte] at h
  | cons x a ih =>
    cases b with
    | nil => simp [ofBytes, ofByte] at h
    | cons y b =>
      simp only [ofBytes, List.flatMap_cons] at h
      have hlen : (ofByte x).length = (ofByte y).length := by simp [ofByte]
      obtain ⟨hx, hab⟩ := List.append_inj h hlen
      rw [ofByte_inj hx, ih hab]

end DataGrid.Text

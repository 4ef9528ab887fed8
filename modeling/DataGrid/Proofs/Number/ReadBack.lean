import DataGrid.Number.Shortest
import DataGrid.Proofs.Number.PlainNumeral

/-!
# Numbers are read back from their texts

* `Integer64.read?_text`: an integer is read back from its numeral, and read as a binary number this
  numeral gives the number nearest to the integer (`Binary64.read_ofInt`).
* **`Integer64.read?_eq_some_iff`**: an integer is read from the plain numerals without a fraction that
  have its value, and from no other text.
* **`Binary64.read_text`**: a binary number is read back from its text, not-a-number and the infinite ones
  from their words.

The digits of a binary number were tried out before they were taken, or are all the digits it has, so
they read back (`rank_shortest`). It remains that laying them out around a point, with zeros where
there are no digits, does not change what they stand for: the text is a plain numeral that is rounded
like the digits (**`PlainNumeral.LaysOut`**).
-/

namespace DataGrid

open Text

/-! ## Integers -/

/-- An integer is read back from its numeral. -/
theorem Text.integer?_ofInt (n : ℤ) : integer? (ofInt n) = some n := by
  simp only [integer?, PlainNumeral.splitSign_ofInt, natural?_digits, decide_eq_true_eq]
  show some (if n < 0 then -(n.natAbs : ℤ) else n.natAbs) = some n
  congr 1
  split_ifs <;> omega

/-- An integer of 64 bits is read back from its numeral, the least one too. -/
theorem Integer64.read?_text (n : Int64) : read? (text n) = some n := by
  rw [read?, text, integer?_ofInt]
  exact ofInt?_toInt n

/-- A natural number is read from the runs of digits that stand for it, and from nothing else. -/
theorem Text.natural?_eq_some_iff {run : List Char} {k : Nat} :
    natural? run = some k ↔ run ≠ [] ∧ (∀ c ∈ run, isDigit c = true) ∧ ofDigits run = k := by
  simp [natural?, and_assoc]

/-- The sign that is split off is the one that is written in front. -/
theorem Text.exists_splitSign (s : List Char) :
    ∃ sign, PlainNumeral.signChars sign ++ (splitSign s).2 = s ∧
      (splitSign s).1 = sign.getD false := by
  unfold splitSign
  split
  · exact ⟨some true, rfl, rfl⟩
  · exact ⟨some false, rfl, rfl⟩
  · exact ⟨none, rfl, rfl⟩

/-- Without a fraction a numeral stands for an integer. -/
theorem PlainNumeral.value_of_integer {p : PlainNumeral} (whole : p.fraction = none) :
    p.value = ((if p.isNegative then -(ofDigits p.whole : ℤ) else ofDigits p.whole : ℤ) : ℚ) := by
  have magnitude : p.magnitude = ofDigits p.whole := by
    simp [PlainNumeral.magnitude, places, whole, ofDigits]
  rw [value, magnitude]
  split_ifs <;> simp

/-- An integer is read from the digits after the sign, and the sign counts for all of them. -/
theorem Text.integer?_eq (s : List Char) :
    integer? s = (natural? (splitSign s).2).map fun k : Nat =>
      if (splitSign s).1 then -(k : ℤ) else k := by
  rcases split : splitSign s with ⟨negative, run⟩
  simp only [integer?, split]
  cases natural? run <;> rfl

/-- **Exactly the plain numerals without a fraction are read as integers.** -/
theorem Text.integer?_eq_some_iff {s : List Char} {n : ℤ} :
    integer? s = some n ↔ ∃ p : PlainNumeral, p.fraction = none ∧ p.chars = s ∧ p.value = n := by
  rw [integer?_eq]
  constructor
  · intro h
    obtain ⟨k, read, rfl⟩ := Option.map_eq_some_iff.mp h
    obtain ⟨nonempty, digits, rfl⟩ := natural?_eq_some_iff.mp read
    obtain ⟨sign, written, negative⟩ := exists_splitSign s
    let p : PlainNumeral := ⟨sign, (splitSign s).2, none, digits, by simp, by simpa using nonempty⟩
    refine ⟨p, rfl, ?_, ?_⟩
    · rw [← written]
      exact congrArg (PlainNumeral.signChars sign ++ ·) (List.append_nil _)
    · rw [p.value_of_integer rfl, negative]
      rfl
  · rintro ⟨p, whole, rfl, value⟩
    have run : p.whole ++ PlainNumeral.fractionChars p.fraction = p.whole := by
      rw [whole]
      exact List.append_nil _
    have nonempty : p.whole ≠ [] := by simpa [whole] using p.digits_ne_nil
    have read : natural? p.whole = some (ofDigits p.whole) :=
      natural?_eq_some_iff.mpr ⟨nonempty, p.isDigit_of_mem_whole, rfl⟩
    rw [p.value_of_integer whole] at value
    rw [p.splitSign_chars, run, read]
    exact congrArg some (Int.cast_injective value)

/-- **An integer of 64 bits is read from exactly the plain numerals without a fraction that have its
value.** -/
theorem Integer64.read?_eq_some_iff {s : List Char} {n : Int64} :
    read? s = some n ↔
      ∃ p : PlainNumeral, p.fraction = none ∧ p.chars = s ∧ p.value = (n.toInt : ℚ) := by
  have read (k : ℤ) : ofInt? k = some n ↔ k = n.toInt := by
    constructor
    · intro h
      unfold ofInt? at h
      split_ifs at h with range
      obtain rfl := Option.some.inj h
      exact (Int64.toInt_ofInt_of_le range.1 (Int.lt_add_one_of_le range.2)).symm
    · rintro rfl
      exact ofInt?_toInt n
  rw [← integer?_eq_some_iff, read?]
  show (integer? s).bind ofInt? = some n ↔ _
  simp [Option.bind_eq_some_iff, read]

/-- Reading with and without the reason for a failure gives the same numbers. -/
theorem Binary64.read?_eq_some_iff {s : List Char} {x : Binary64} :
    read? s = some x ↔ read s = .ok x := by
  rw [read?]
  cases read s <;> simp [Except.toOption]

/-- The numeral of an integer is read as the number nearest to the integer. -/
theorem Binary64.read_ofInt (n : ℤ) : read (Text.ofInt n) = .ok (ofInt n) := by
  rw [← PlainNumeral.chars_ofInt, PlainNumeral.read_chars, PlainNumeral.rounded_ofInt]

/-! ## Digits around a point -/

namespace PlainNumeral

/-- Whether a plain numeral is a number of some digits laid out around a point, and rounded like it. -/
structure LaysOut (p : PlainNumeral) (sign : Option Bool) (n : Nat) (exponent : ℤ) : Prop where
  sameSign : p.sign = sign
  chars : p.chars = signChars sign ++ Binary64.positional (digits n) exponent
  rank : Numeral.rank (ofDigits (p.whole ++ p.places)) (-(p.places.length : ℤ)) =
    Numeral.rank n exponent

/-- Zeros after the digits are the digits of a power of ten. -/
theorem exists_laysOut_natCast (sign : Option Bool) (n e : Nat) :
    ∃ p : PlainNumeral, p.LaysOut sign n e := by
  let whole := digits n ++ List.replicate e '0'
  have isDigit : ∀ c ∈ whole, isDigit c = true := fun c hc =>
    (List.mem_append.mp hc).elim (isDigit_of_mem_digits c) (isDigit_of_mem_replicate_zero c)
  have nonempty : whole ++ [] ≠ [] := by simp [whole, Text.digits_ne_nil]
  refine ⟨⟨sign, whole, none, isDigit, by simp, nonempty⟩, rfl, ?_, ?_⟩
  · exact congrArg (signChars sign ++ ·) (List.append_nil whole)
  · have value : ofDigits (whole ++ []) = n * 10 ^ e := by
      rw [List.append_nil, ofDigits_append, ofDigits_digits, ofDigits_replicate_zero,
        List.length_replicate, Nat.add_zero]
    show Numeral.rank (ofDigits (whole ++ [])) ((0 : Nat) : ℤ) = Numeral.rank n e
    rw [value, rank_natCast, rank_natCast, Nat.pow_zero, Nat.mul_one]

/-- Behind the point stand as many places as the exponent says, with zeros before the digits where
there are more places than digits. -/
theorem exists_laysOut_negSucc (sign : Option Bool) (n e : Nat) :
    ∃ p : PlainNumeral, p.LaysOut sign n (.negSucc e) := by
  -- The point stands among the digits, or all of them stand behind it.
  by_cases inside : e + 1 < (digits n).length
  · let k := (digits n).length - (e + 1)
    have split : (digits n).take k ++ (digits n).drop k = digits n := List.take_append_drop k _
    have places : ((digits n).drop k).length = e + 1 := by
      rw [List.length_drop]
      omega
    refine ⟨⟨sign, (digits n).take k, some ((digits n).drop k),
      fun c hc => isDigit_of_mem_digits c (List.mem_of_mem_take hc),
      fun c hc => isDigit_of_mem_digits c (List.mem_of_mem_drop hc),
      ne_of_eq_of_ne split (Text.digits_ne_nil n)⟩, rfl, ?_, ?_⟩
    · rw [Binary64.positional, if_pos inside]
      rfl
    · show Numeral.rank (ofDigits ((digits n).take k ++ (digits n).drop k))
        (-(((digits n).drop k).length : ℤ)) = _
      rw [split, ofDigits_digits, places, Int.negSucc_eq]
      rfl
  · let fraction := List.replicate (e + 1 - (digits n).length) '0' ++ digits n
    have value : ofDigits (List.replicate 1 '0' ++ fraction) = n := by
      rw [ofDigits_zeros_append, ofDigits_zeros_append, ofDigits_digits]
    have places : fraction.length = e + 1 := by
      rw [List.length_append, List.length_replicate]
      omega
    refine ⟨⟨sign, List.replicate 1 '0', some fraction, isDigit_of_mem_replicate_zero,
      fun c hc => (List.mem_append.mp hc).elim (isDigit_of_mem_replicate_zero c)
        (isDigit_of_mem_digits c),
      by simp⟩, rfl, ?_, ?_⟩
    · rw [Binary64.positional, if_neg inside]
      rfl
    · show Numeral.rank (ofDigits (List.replicate 1 '0' ++ fraction)) (-(fraction.length : ℤ)) = _
      rw [value, places, Int.negSucc_eq]
      rfl

/-- Digits can be laid out around a point for every exponent. -/
theorem exists_laysOut (sign : Option Bool) (n : Nat) (exponent : ℤ) :
    ∃ p : PlainNumeral, p.LaysOut sign n exponent := by
  cases exponent with
  | ofNat e => exact exists_laysOut_natCast sign n e
  | negSucc e => exact exists_laysOut_negSucc sign n e

end PlainNumeral

/-! ## The shortest digits -/

namespace Binary64

variable {rank : Nat}

/-- Digits are taken from a grid only if they read back. -/
theorem rank_of_onGrid? {n : Nat} {exponent : ℤ} (h : onGrid? rank exponent = some n) :
    Numeral.rank n exponent = rank := by
  simp only [onGrid?] at h
  split at h
  · rename_i below above
    obtain rfl := Option.some.inj h
    split_ifs
    · exact beq_iff_eq.mp below
    · exact beq_iff_eq.mp above
  · rename_i below _
    obtain rfl := Option.some.inj h
    exact beq_iff_eq.mp below
  · rename_i _ above
    obtain rfl := Option.some.inj h
    exact beq_iff_eq.mp above
  · cases h

/-- All the digits of a magnitude read back: the unit is so many binary places behind the point, and
each of these takes one decimal place. -/
theorem rank_allDigits {places : Nat} (scale : unitScale = Nat.pow 2 places) (le : rank ≤ top) :
    Numeral.rank (units rank * Nat.pow 5 places) (-(places : ℤ)) = rank := by
  have exact : units rank * Nat.pow 5 places * unitScale = units rank * 10 ^ places := calc
    units rank * Nat.pow 5 places * unitScale = units rank * (5 ^ places * 2 ^ places) := by
      rw [scale]
      exact Nat.mul_assoc _ _ _
    _ = units rank * 10 ^ places := by rw [← Nat.mul_pow]
  rw [PlainNumeral.rank_neg, exact]
  exact rankOf_units (Nat.pow_pos (by decide)) le

/-- Digits that are found by trying read back, and so do all the digits if none are found. -/
theorem rank_getD_allDigits {places : Nat} {last : ℤ} {found : Option (Nat × ℤ)} {taken : Nat × ℤ}
    (le : rank ≤ top) (tried : ∀ d, found = some d → Numeral.rank d.1 d.2 = rank)
    (scale : unitScale = Nat.pow 2 places) (hlast : last = -(places : ℤ))
    (htaken : taken = found.getD (units rank * Nat.pow 5 places, last)) :
    Numeral.rank taken.1 taken.2 = rank := by
  subst htaken hlast
  cases found with
  | none => exact rank_allDigits scale le
  | some d => exact tried d rfl

/-- **The shortest digits of a magnitude read back.** -/
theorem rank_shortest (le : rank ≤ top) :
    Numeral.rank (shortest rank).1 (shortest rank).2 = rank := by
  let start := decimalExponent rank
  let found := (List.range (sufficientDigits + 1)).findSome? fun (k : Nat) =>
    (onGrid? rank (start - k)).map fun n => (n, start - k)
  -- The unit of the format is the 1074th binary place.
  have taken : shortest rank = found.getD (units rank * Nat.pow 5 1074, -1074) := rfl
  refine rank_getD_allDigits le (fun d outcome => ?_) (by decide +kernel) rfl taken
  obtain ⟨k, -, tried⟩ := List.exists_of_findSome?_eq_some outcome
  obtain ⟨n, read, rfl⟩ := Option.map_eq_some_iff.mp tried
  exact rank_of_onGrid? read

/-- The numeral for zero has rank zero. -/
theorem rank_zero : Numeral.rank 0 0 = 0 := by
  have value := PlainNumeral.rank_natCast 0 0
  rw [Nat.zero_mul, Nat.zero_mul] at value
  exact value.trans (rankOf_eq_zero (by decide))

/-- The text of a finite magnitude is made of digits that read back. -/
theorem exists_magnitudeText (lt : rank < top) :
    ∃ n exponent, magnitudeText rank = positional (digits n) exponent ∧
      Numeral.rank n exponent = rank := by
  by_cases zero : rank = 0
  · subst zero
    exact ⟨0, 0, by simp [magnitudeText, digits, digitChar, positional], rank_zero⟩
  · have readsBack := rank_shortest lt.le
    rcases found : shortest rank with ⟨n, exponent⟩
    rw [found] at readsBack
    exact ⟨n, exponent, by rw [magnitudeText, if_neg zero, if_neg lt.ne, found], readsBack⟩

/-- The text of a finite number is a plain numeral that is rounded to this number. -/
theorem exists_plainNumeral {x : Binary64} (finite : x.isFinite = true) :
    ∃ p : PlainNumeral, x.text = p.chars ∧ p.rounded = x := by
  cases x with
  | nan => cases finite
  | ranked negative rank =>
    obtain ⟨n, exponent, magnitude, readsBack⟩ := exists_magnitudeText (of_decide_eq_true finite)
    obtain ⟨p, sign, chars, rounded⟩ :=
      PlainNumeral.exists_laysOut (if negative then some true else none) n exponent
    refine ⟨p, ?_, ?_⟩
    · rw [chars, ← magnitude]
      cases negative <;> rfl
    · have isNegative : p.isNegative = negative := by
        rw [PlainNumeral.isNegative, sign]
        cases negative <;> rfl
      rw [PlainNumeral.rounded, Numeral.round]
      simp only [isNegative, rounded, readsBack]

/-- A number that is not finite is not-a-number or infinite. -/
theorem eq_nan_or_infinite {x : Binary64} (notFinite : x.isFinite = false) :
    x = .nan ∨ ∃ negative, x = .ranked negative (Fin.last top) := by
  cases x with
  | nan => exact .inl rfl
  | ranked negative rank =>
    have atTop : rank = Fin.last top :=
      Fin.ext (Nat.le_antisymm rank.is_le (Nat.le_of_not_lt (of_decide_eq_false notFinite)))
    exact .inr ⟨negative, by rw [atTop]⟩

/-- There is no blank in the text of a number, be it finite or a word. -/
theorem isBlank_of_mem_text (x : Binary64) : ∀ c ∈ x.text, isBlank c = false := by
  cases finite : x.isFinite with
  | true =>
    obtain ⟨p, text, -⟩ := exists_plainNumeral finite
    rw [text]
    exact p.isBlank_of_mem_chars
  | false =>
    have word : x.text.all (fun c => !isBlank c) = true := by
      obtain rfl | ⟨negative, rfl⟩ := eq_nan_or_infinite finite
      · decide +kernel
      · cases negative <;> decide +kernel
    intro c hc
    simpa using List.all_eq_true.mp word c hc

/-- **A number is read back from its text**, a zero with its sign. -/
theorem read_text (x : Binary64) : read x.text = .ok x := by
  cases finite : x.isFinite with
  | true =>
    obtain ⟨p, text, rounded⟩ := exists_plainNumeral finite
    rw [text, p.read_chars, rounded]
  | false =>
    obtain rfl | ⟨negative, rfl⟩ := eq_nan_or_infinite finite
    · decide +kernel
    · cases negative <;> decide +kernel

end Binary64

end DataGrid

import DataGrid.Json.Printer
import DataGrid.Json.Reader
import DataGrid.Proofs.Keyed
import DataGrid.Proofs.Number.PlainNumeral

/-!
# JSON is read as it was written

Strings, numbers and values are read back one after the other, each with what follows it left over. A
document is **`Plain`** if it has no floating-point number, if its integers have 64 bits with a sign or
without one, and if no record in it has two members of one name.

* `readString_escaped`: the characters of a string are read back one by one.
* `readNumber_ofInt`: an integer is read back where no digit, point or exponent follows it.
* **`ReadsBack`**: a value is read back where the number of steps is at least its length and what follows
  it may stand after a value. The items of a sequence and the members of a record are read back if each of
  them is (`readItems_itemsChars`, `readMembers_membersChars`).
* **`read?_text`**: so a plain document is read back from its text.
-/

namespace DataGrid.Json

open Text

/-! ## Strings -/

/-- The four hexadecimal digits that a control character is written with stand for its code point. -/
theorem ofHex?_control {c : Char} (control : c.toNat < 0x20) :
    ofHex? ('0' :: '0' :: ofByte (UInt8.ofNat c.toNat)) = some c.toNat := by
  have all : ∀ n : Fin 0x20, ofHex? ('0' :: '0' :: ofByte (UInt8.ofNat n)) = some n.val := by decide
  exact all ⟨c.toNat, control⟩

/-- The code point of a character stands for this character. -/
theorem character?_toNat (c : Char) : character? c.toNat = some c := by
  have valid : c.toNat.isValidChar := c.valid
  rw [character?, if_pos valid, Char.ofNat_toNat]

/-- A backslash and a letter are read as the character that they stand for. -/
theorem readString_letter {letter c : Char} (stands : escape? letter = some c) (s : List Char) :
    readString ('\\' :: letter :: s) = (readString s).map fun (t, rest) => (c :: t, rest) := by
  rw [readString]
  · rw [stands]
    cases readString s <;> rfl
  · rintro _ _ _ _ _ rfl
    cases stands

/-- A control character that is escaped by its code point is read as this character. -/
theorem readString_control {c : Char} (control : c.toNat < 0x20) (s : List Char) :
    readString ('\\' :: 'u' :: '0' :: '0' :: (ofByte (UInt8.ofNat c.toNat) ++ s)) =
      (readString s).map fun (t, rest) => (c :: t, rest) := by
  have low : isHighHalf c.toNat = false := by
    rw [isHighHalf, decide_eq_false (by omega), Bool.false_and]
  have code := ofHex?_control control
  unfold ofByte at code ⊢
  rw [List.cons_append, List.cons_append, List.nil_append, readString, code]
  simp only [Option.bind_eq_bind, Option.bind_some, low, Bool.false_eq_true, if_false,
    character?_toNat]
  cases readString s <;> rfl

/-- A character that needs no escape is read as itself. -/
theorem readString_other {c : Char} (plain : ¬ c.toNat < 0x20) (quote : c ≠ '"')
    (backslash : c ≠ '\\') (s : List Char) :
    readString (c :: s) = (readString s).map fun (t, rest) => (c :: t, rest) := by
  rw [readString]
  · rw [decide_eq_false plain, decide_eq_false backslash]
    rfl
  all_goals simp [quote, backslash]

/-- One character of a string. -/
theorem readString_escaped (c : Char) (s : List Char) :
    readString (escaped c ++ s) = (readString s).map fun (t, rest) => (c :: t, rest) := by
  unfold escaped
  split
  case h_8 quote backslash _ _ _ _ _ =>
    split_ifs with control
    · exact readString_control control s
    · exact readString_other control quote backslash s
  all_goals exact readString_letter rfl s

/-- **A string is read back**, with what follows it. -/
theorem readString_quoted (s rest : List Char) :
    readString (s.flatMap escaped ++ '"' :: rest) = some (s, rest) := by
  induction s with
  | nil => rfl
  | cons c s ih =>
    rw [List.flatMap_cons, List.append_assoc, readString_escaped, ih]
    rfl

/-- A string that something follows, as the characters between its quotes and what follows. -/
theorem quotedString_append (s : String) (rest : List Char) :
    quotedString s ++ rest = '"' :: (s.toList.flatMap escaped ++ '"' :: rest) := by
  simp [quotedString]

/-! ## Numbers -/

/-- What may stand after a value: the end of the text, a comma or a closing bracket. -/
def EndsValue (rest : List Char) : Prop := ∀ c ∈ rest.head?, c = ',' ∨ c = ']' ∨ c = '}'

/-- No numeral but that of zero has a zero in front. -/
theorem digits_eq_zero_cons {n : Nat} {run : List Char} (h : digits n = '0' :: run) : run = [] := by
  induction n using digits.induct generalizing run with
  | case1 n small =>
    rw [digits, if_pos small] at h
    exact (List.cons.inj h).2.symm
  | case2 n large ih =>
    rw [digits, if_neg large] at h
    obtain ⟨c, front, first⟩ := List.exists_cons_of_ne_nil (digits_ne_nil (n / 10))
    rw [first, List.cons_append] at h
    obtain ⟨rfl, -⟩ := List.cons.inj h
    have zero : ofDigits (digits (n / 10)) = 0 := by rw [first, ih first]; rfl
    rw [ofDigits_digits] at zero
    omega

/-- The digits of a number are read up to the first character that is none. -/
theorem readWhole_digits (n : Nat) {rest : List Char} (stop : ∀ c ∈ rest.head?, isDigit c = false) :
    readWhole (digits n ++ rest) = some (digits n, rest) := by
  unfold readWhole
  rw [takeWhile_word isDigit_of_mem_digits stop, dropWhile_word isDigit_of_mem_digits stop]
  split
  · rename_i none
    exact absurd none (digits_ne_nil n)
  · rename_i zero
    cases digits_eq_zero_cons zero
  · rfl

section endsValue

variable {rest : List Char}

/-- No digit may stand after a value. -/
theorem EndsValue.isDigit (ends : EndsValue rest) : ∀ c ∈ rest.head?, isDigit c = false := by
  intro c hc
  rcases ends c hc with rfl | rfl | rfl <;> rfl

/-- A number that has ended has no fraction. -/
theorem EndsValue.readFraction (ends : EndsValue rest) : readFraction rest = some ([], rest) := by
  cases rest with
  | nil => rfl
  | cons c rest => rcases ends c rfl with rfl | rfl | rfl <;> rfl

/-- A number that has ended has no exponent. -/
theorem EndsValue.readExponent (ends : EndsValue rest) : readExponent rest = some (none, rest) := by
  cases rest with
  | nil => rfl
  | cons c rest => rcases ends c rfl with rfl | rfl | rfl <;> rfl

end endsValue

/-- Digits alone are an integer as long as it fits into 64 bits without a sign. -/
theorem ofNumber?_ofNat {k : Nat} (high : k < 2 ^ 64) :
    ofNumber? false (digits k) [] none = some (.integer k) := by
  have fits : decide (k < UInt64.size) = true := decide_eq_true high
  simp [ofNumber?, ofDigits_digits, fits]

/-- Digits with a minus are an integer as long as it fits into 64 bits with a sign. -/
theorem ofNumber?_negSucc {k : Nat} (low : k < 2 ^ 63) :
    ofNumber? true (digits (k + 1)) [] none = some (.integer (.negSucc k)) := by
  have range : Int64.minValue.toInt ≤ -((k + 1 : Nat) : ℤ) ∧
      -((k + 1 : Nat) : ℤ) ≤ Int64.maxValue.toInt := by
    rw [Int64.toInt_minValue, Int64.toInt_maxValue]
    omega
  have fits : (Integer64.ofInt? (-((k + 1 : Nat) : ℤ))).isSome = true := by
    rw [Integer64.ofInt?, if_pos range]
    rfl
  have whole : ofNumber? true (digits (k + 1)) [] none = some (.integer (-((k + 1 : Nat) : ℤ))) := by
    unfold ofNumber?
    simp only [List.append_nil, ofDigits_digits, fits]
    rfl
  rw [whole, Int.negSucc_eq]
  rfl

/-- **An integer is read back**, with what follows it if that may stand after a value. -/
theorem readNumber_ofInt {n : ℤ} (low : -2 ^ 63 ≤ n) (high : n < 2 ^ 64) {rest : List Char}
    (ends : EndsValue rest) : readNumber (ofInt n ++ rest) = some (.integer n, rest) := by
  cases n with
  | ofNat k =>
    have number := ofNumber?_ofNat (k := k) (by simpa using high)
    obtain ⟨c, run, first⟩ := List.exists_cons_of_ne_nil (digits_ne_nil k)
    have unsigned : c ≠ '-' := by
      rintro rfl
      have digit : isDigit '-' = true := isDigit_of_mem_digits _ (first ▸ List.mem_cons_self)
      cases digit
    have read := readWhole_digits k ends.isDigit
    show readNumber (digits k ++ rest) = _
    rw [first, List.cons_append] at read ⊢
    rw [first] at number
    simp [readNumber, unsigned, read, ends.readFraction, ends.readExponent, number]
  | negSucc k =>
    have number := ofNumber?_negSucc (k := k) (by omega)
    show readNumber ('-' :: (digits (k + 1) ++ rest)) = _
    simp only [readNumber, readWhole_digits _ ends.isDigit, ends.readFraction, ends.readExponent,
      number, Option.bind_eq_bind, Option.bind_some]
    rfl

/-! ## Values -/

/-- Whether a document is said completely by its JSON text. -/
inductive Plain : Document → Prop
  | null : Plain .null
  | boolean (b : Bool) : Plain (.boolean b)
  | integer {n : ℤ} (low : -2 ^ 63 ≤ n) (high : n < 2 ^ 64) : Plain (.integer n)
  | text (s : String) : Plain (.text s)
  | sequence {items : List Document} (each : ∀ d ∈ items, Plain d) : Plain (.sequence items)
  | record {members : List (String × Document)} (distinct : (members.map (·.1)).Nodup)
      (each : ∀ m ∈ members, Plain m.2) : Plain (.record members)

/-- Whether a document is read back from its text, with what follows it if that may stand after a
value. -/
def ReadsBack (d : Document) : Prop :=
  ∀ (steps : Nat) (rest : List Char), (chars d).length ≤ steps → EndsValue rest →
    readValue steps (chars d ++ rest) = some (d, rest)

variable {d : Document} {steps : Nat}

/-- No space is skipped in front of a word. -/
theorem skipSpace_cons {c : Char} (word : isSpace c = false) (s : List Char) :
    skipSpace (c :: s) = c :: s := by
  rw [skipSpace, List.dropWhile_cons, word]
  rfl

/-- The numeral of an integer starts with a minus or a digit. -/
theorem exists_ofInt_eq_cons (n : ℤ) :
    ∃ c t, ofInt n = c :: t ∧ (c = '-' ∨ isDigit c = true) := by
  cases n with
  | ofNat k =>
    obtain ⟨c, run, first⟩ := List.exists_cons_of_ne_nil (digits_ne_nil k)
    exact ⟨c, run, first, .inr (isDigit_of_mem_digits c (first ▸ List.mem_cons_self))⟩
  | negSucc k => exact ⟨'-', digits (k + 1), rfl, .inl rfl⟩

/-- No digit is a space. -/
theorem isSpace_of_isDigit {c : Char} (digit : isDigit c = true) : isSpace c = false := by
  have ne (d : Char) (other : isDigit d = false) : decide (c = d) = false := by
    apply decide_eq_false
    rintro rfl
    rw [digit] at other
    cases other
  rw [isSpace, ne ' ' rfl, ne '\t' rfl, ne '\n' rfl, ne '\r' rfl]
  rfl

/-- The text of a plain document starts neither with a space nor with the bracket that ends a sequence.
-/
theorem Plain.exists_chars_eq_cons (plain : Plain d) :
    ∃ c t, chars d = c :: t ∧ isSpace c = false ∧ c ≠ ']' := by
  cases plain with
  | null => exact ⟨_, _, rfl, rfl, by decide⟩
  | boolean b => cases b <;> exact ⟨_, _, rfl, rfl, by decide⟩
  | @integer n low high =>
    obtain ⟨c, t, first, rfl | digit⟩ := exists_ofInt_eq_cons n
    · exact ⟨_, t, first, rfl, by decide⟩
    · refine ⟨c, t, first, isSpace_of_isDigit digit, ?_⟩
      rintro rfl
      cases digit
  | text s => exact ⟨_, _, rfl, rfl, by decide⟩
  | sequence each => exact ⟨_, _, rfl, rfl, by decide⟩
  | record distinct each => exact ⟨_, _, rfl, rfl, by decide⟩

/-- An item that others follow is written with a comma after it. -/
theorem itemsChars_cons_cons (d d' : Document) (items : List Document) :
    itemsChars (d :: d' :: items) = chars d ++ ',' :: itemsChars (d' :: items) := by
  rw [itemsChars]
  exact List.cons_ne_nil _ _

/-- The items of a sequence are read back if each of them is. -/
theorem readItems_itemsChars {items : List Document} (each : ∀ d ∈ items, ReadsBack d)
    (nonempty : items ≠ []) (rest : List Char) (enough : (itemsChars items).length ≤ steps) :
    readItems steps (itemsChars items ++ rest) = some (items, rest) := by
  induction items generalizing steps with
  | nil => exact absurd rfl nonempty
  | cons d items ih =>
    obtain ⟨first, others⟩ := List.forall_mem_cons.mp each
    cases items with
    | nil =>
      rw [itemsChars, List.length_append, List.length_singleton] at enough
      obtain ⟨steps, rfl⟩ := Nat.exists_eq_add_of_le' (Nat.le_trans (Nat.le_add_left 1 _) enough)
      have read := first steps (']' :: rest) (Nat.le_of_succ_le_succ enough) (by simp [EndsValue])
      rw [itemsChars, List.append_assoc, List.singleton_append, readItems, read]
      rfl
    | cons d' items =>
      rw [itemsChars_cons_cons, List.length_append, List.length_cons] at enough
      obtain ⟨steps, rfl⟩ : ∃ k, steps = k + 1 := ⟨steps - 1, by omega⟩
      have read := first steps (',' :: (itemsChars (d' :: items) ++ rest)) (by omega)
        (by simp [EndsValue])
      have after : readItems steps (itemsChars (d' :: items) ++ rest) = _ :=
        ih others (List.cons_ne_nil _ _) (by omega)
      rw [itemsChars_cons_cons, List.append_assoc, List.cons_append, readItems, read]
      show (readItems steps (itemsChars (d' :: items) ++ rest) >>= _) = _
      rw [after]
      rfl

/-- The last member of a record is written with the closing brace after it. -/
theorem membersChars_singleton (name : String) (d : Document) : membersChars [(name, d)] =
    '"' :: (name.toList.flatMap escaped ++ '"' :: ':' :: (chars d ++ ['}'])) := by
  rw [membersChars]
  simp [quotedString]

/-- A member that others follow is written with a comma after it. -/
theorem membersChars_cons_cons (name : String) (d : Document) (m : String × Document)
    (members : List (String × Document)) : membersChars ((name, d) :: m :: members) =
    '"' :: (name.toList.flatMap escaped ++
      '"' :: ':' :: (chars d ++ ',' :: membersChars (m :: members))) := by
  rw [membersChars]
  · simp [quotedString]
  · exact List.cons_ne_nil _ _

/-- A member that the closing brace follows is read as the last one. -/
theorem readMembers_last (name : String) {s rest : List Char}
    (read : readValue steps s = some (d, '}' :: rest)) :
    readMembers (steps + 1) ('"' :: (name.toList.flatMap escaped ++ '"' :: ':' :: s)) =
      some ([(name, d)], rest) := by
  have colon : skipSpace (':' :: s) = ':' :: s := skipSpace_cons rfl s
  have brace : skipSpace ('}' :: rest) = '}' :: rest := skipSpace_cons rfl rest
  rw [readMembers, skipSpace_cons rfl]
  simp [readString_quoted, colon, read, brace]

/-- A member that a comma follows is read with the members after it. -/
theorem readMembers_next (name : String) {s t rest : List Char} {members : List (String × Document)}
    (read : readValue steps s = some (d, ',' :: t))
    (after : readMembers steps t = some (members, rest)) :
    readMembers (steps + 1) ('"' :: (name.toList.flatMap escaped ++ '"' :: ':' :: s)) =
      some ((name, d) :: members, rest) := by
  have colon : skipSpace (':' :: s) = ':' :: s := skipSpace_cons rfl s
  have comma : skipSpace (',' :: t) = ',' :: t := skipSpace_cons rfl t
  rw [readMembers, skipSpace_cons rfl]
  simp [readString_quoted, colon, read, comma, after]

/-- The members of a record are read back if each of them is. -/
theorem readMembers_membersChars {members : List (String × Document)}
    (each : ∀ m ∈ members, ReadsBack m.2) (nonempty : members ≠ []) (rest : List Char)
    (enough : (membersChars members).length ≤ steps) :
    readMembers steps (membersChars members ++ rest) = some (members, rest) := by
  induction members generalizing steps with
  | nil => exact absurd rfl nonempty
  | cons m members ih =>
    obtain ⟨name, d⟩ := m
    obtain ⟨first, others⟩ := List.forall_mem_cons.mp each
    cases members with
    | nil =>
      rw [membersChars_singleton] at enough ⊢
      simp only [List.length_cons, List.length_append, List.length_nil] at enough
      obtain ⟨steps, rfl⟩ : ∃ k, steps = k + 1 := ⟨steps - 1, by omega⟩
      have read := first steps ('}' :: rest) (by show (chars d).length ≤ _; omega)
        (by simp [EndsValue])
      simpa using readMembers_last name read
    | cons m members =>
      rw [membersChars_cons_cons] at enough ⊢
      simp only [List.length_cons, List.length_append] at enough
      obtain ⟨steps, rfl⟩ : ∃ k, steps = k + 1 := ⟨steps - 1, by omega⟩
      have read := first steps (',' :: (membersChars (m :: members) ++ rest))
        (by show (chars d).length ≤ _; omega) (by simp [EndsValue])
      have after : readMembers steps (membersChars (m :: members) ++ rest) = _ :=
        ih others (List.cons_ne_nil _ _) (by omega)
      simpa using readMembers_next name read after

/-- Where the steps are enough for a text, there is a first one. -/
theorem Plain.exists_steps (plain : Plain d) (enough : (chars d).length ≤ steps) :
    ∃ k, steps = k + 1 := by
  obtain ⟨c, t, first, -⟩ := plain.exists_chars_eq_cons
  rw [first, List.length_cons] at enough
  exact ⟨steps - 1, by omega⟩

/-- A number is read where a digit or a minus stands. -/
theorem readValue_ofInt (n : ℤ) (steps : Nat) (rest : List Char) :
    readValue (steps + 1) (ofInt n ++ rest) = readNumber (ofInt n ++ rest) := by
  obtain ⟨c, t, first, sign⟩ := exists_ofInt_eq_cons n
  have word : isSpace c = false := by
    rcases sign with rfl | digit
    · rfl
    · exact isSpace_of_isDigit digit
  -- No other value starts like a number.
  have other : ∀ letter ∈ ['n', 't', 'f', '"', '[', '{'], c ≠ letter := by
    rintro letter mem rfl
    rcases sign with rfl | digit
    · exact absurd mem (by decide)
    · have none : ['n', 't', 'f', '"', '[', '{'].any isDigit = false := rfl
      exact absurd digit (List.any_eq_false.mp none c mem)
  rw [first, List.cons_append, readValue, skipSpace_cons word]
  split
  case h_7 => rfl
  all_goals exact absurd (List.cons.inj ‹_›).1 (other _ (by decide))

/-- The items of a sequence start as their first one does. -/
theorem Plain.exists_itemsChars_eq_cons (plain : Plain d) (items : List Document) :
    ∃ c t, itemsChars (d :: items) = c :: t ∧ isSpace c = false ∧ c ≠ ']' := by
  obtain ⟨c, t, first, word, inside⟩ := plain.exists_chars_eq_cons
  cases items with
  | nil => exact ⟨c, t ++ [']'], by rw [itemsChars, first, List.cons_append], word, inside⟩
  | cons d' items =>
    exact ⟨c, t ++ ',' :: itemsChars (d' :: items),
      by rw [itemsChars_cons_cons, first, List.cons_append], word, inside⟩

/-- The members of a record start with a quote. -/
theorem exists_membersChars_eq_cons (m : String × Document) (members : List (String × Document)) :
    ∃ t, membersChars (m :: members) = '"' :: t := by
  cases members with
  | nil => exact ⟨_, membersChars_singleton m.1 m.2⟩
  | cons m' members => exact ⟨_, membersChars_cons_cons m.1 m.2 m' members⟩

/-- **A plain document is read back**, with what follows it. -/
theorem Plain.readsBack (plain : Plain d) : ReadsBack d := by
  induction plain with
  | null =>
    intro steps rest enough _
    obtain ⟨steps, rfl⟩ := Plain.null.exists_steps enough
    rfl
  | boolean b =>
    intro steps rest enough _
    obtain ⟨steps, rfl⟩ := (Plain.boolean b).exists_steps enough
    cases b <;> rfl
  | @integer n low high =>
    intro steps rest enough ends
    obtain ⟨steps, rfl⟩ := (Plain.integer low high).exists_steps enough
    exact (readValue_ofInt n steps rest).trans (readNumber_ofInt low high ends)
  | text s =>
    intro steps rest enough _
    obtain ⟨steps, rfl⟩ := (Plain.text s).exists_steps enough
    rw [chars, quotedString_append, readValue, skipSpace_cons rfl]
    show (readString _).map _ = _
    rw [readString_quoted]
    simp
  | @sequence items each ih =>
    intro steps rest enough _
    obtain ⟨steps, rfl⟩ := (Plain.sequence each).exists_steps enough
    rw [chars, List.length_cons] at enough
    cases items with
    | nil => rfl
    | cons d items =>
      have read := readItems_itemsChars ih (List.cons_ne_nil _ _) rest (Nat.le_of_succ_le_succ enough)
      -- The first item does not start with the bracket that ends an empty sequence.
      obtain ⟨c, t, first, word, inside⟩ :=
        (each d List.mem_cons_self).exists_itemsChars_eq_cons items
      rw [first, List.cons_append] at read
      rw [chars, first, List.cons_append, List.cons_append, readValue, skipSpace_cons rfl]
      simp [skipSpace_cons word, inside, read]
  | @record members distinct each ih =>
    intro steps rest enough _
    obtain ⟨steps, rfl⟩ := (Plain.record distinct each).exists_steps enough
    rw [chars, List.length_cons] at enough
    cases members with
    | nil => rfl
    | cons m members =>
      have read := readMembers_membersChars ih (List.cons_ne_nil _ _) rest
        (Nat.le_of_succ_le_succ enough)
      obtain ⟨t, first⟩ := exists_membersChars_eq_cons m members
      rw [first, List.cons_append] at read
      rw [chars, first, List.cons_append, List.cons_append, readValue, skipSpace_cons rfl]
      have quote : skipSpace ('"' :: (t ++ rest)) = '"' :: (t ++ rest) := skipSpace_cons rfl _
      -- Of members with one name only the last would be left, hence the distinct names.
      simp [quote, read, Keyed.entries_ofList distinct]

/-- **A plain document is read back from its text.** -/
theorem read?_text (plain : Plain d) : read? (text d) = some d := by
  -- The reader starts with steps for twice the characters, which is more than it needs.
  have enough : (chars d).length ≤ 2 * (chars d).length + 2 := by omega
  have read := plain.readsBack _ [] enough (by simp [EndsValue])
  rw [List.append_nil] at read
  rw [read?, text, String.toList_ofList]
  show (readValue _ _).bind _ = _
  rw [read]
  rfl

end DataGrid.Json

import DataGrid.Toml.Printer
import Mathlib.Tactic.IntervalCases
import Mathlib.Tactic.SplitIfs

/-!
# Strings of TOML are read as they were written

A text written in one of the four forms of a string is read back with all that follows it left over,
whatever follows it that is not a quote.

* **`Quotation.Fits`**: whether a form can hold a text. Double quotes hold every text, single quotes
  one without what they would end at or could not show. `Quotation.of` picks a form that fits.
* **`readString_chars`**: a text in a form that fits is read back; `readString_stringChars` is the
  case of the form that the writer picks.

Between double quotes a character has one of four spellings (**`Spelled`**), which a reader has to
take back (`read_escaped`). In the forms of several lines quotes may be part of the text; how many
of them have come without another character between them is what the inductions carry along, as at
most two may (**`TakesQuotes`**).
-/

namespace DataGrid.Toml

open Text

variable {read : List Char → Option (List Char × List Char)} {quote : Char}

/-! ## Characters and escapes -/

/-- A character that needs no escape is plain or a line end. -/
theorem isPlain_or_eq_of_not_needsEscape {c : Char} (h : needsEscape c = false) :
    isPlain c = true ∨ c = '\n' := by
  rw [needsEscape, Bool.and_eq_false_iff, Bool.not_eq_false', bne_eq_false_iff_eq] at h
  exact h

/-- Only characters below 256 need an escape, so that two hex digits tell which it is. -/
theorem toNat_lt_of_needsEscape {c : Char} (h : needsEscape c = true) : c.toNat < 256 := by
  simp only [needsEscape, isPlain, Bool.and_eq_true, Bool.not_eq_true', Bool.or_eq_false_iff,
    Bool.and_eq_false_iff, decide_eq_false_iff_not, bne_eq_false_iff_eq] at h
  omega

/-- A hex digit has its value. -/
theorem hexValue?_capitalDigit {d : Nat} (h : d < 16) : hexValue? (capitalDigit d) = some d := by
  have all : ∀ k : Fin 16, hexValue? (capitalDigit k) = some k.val := by decide
  exact all ⟨d, h⟩

/-- A character below 256 is read back from its code in four hex digits. -/
theorem ofCode?_capitalDigits {c : Char} (h : c.toNat < 256) :
    ofCode? ['0', '0', capitalDigit (c.toNat / 16), capitalDigit (c.toNat % 16)] = some c := by
  have zero : hexValue? '0' = some 0 := by decide
  have high := hexValue?_capitalDigit (d := c.toNat / 16) (by omega)
  have low := hexValue?_capitalDigit (d := c.toNat % 16) (by omega)
  have code : ofHex? ['0', '0', capitalDigit (c.toNat / 16), capitalDigit (c.toNat % 16)] =
      some c.toNat := by
    simp [ofHex?, zero, high, low]
    omega
  have valid : c.toNat.isValidChar := c.valid
  rw [ofCode?, code, Option.bind_eq_bind, Option.bind_some, if_pos valid, Char.ofNat_toNat]

/-- How a character can be spelled between double quotes. -/
inductive Spelled (keepsLines : Bool) : Char → List Char → Prop
  /-- As it is. -/
  | plain {c : Char} : isPlain c = true → c ≠ '\\' → Spelled keepsLines c [c]
  /-- As a letter after a backslash. -/
  | letter {c e : Char} : escape? e = some c → Spelled keepsLines c ['\\', e]
  /-- By its code point. -/
  | code {c a b : Char} : ofCode? ['0', '0', a, b] = some c →
      Spelled keepsLines c ['\\', 'u', '0', '0', a, b]
  /-- As the end of a line. -/
  | line : keepsLines = true → Spelled keepsLines '\n' ['\n']

/-- A character is written in one of the spellings that it may have. -/
theorem spelled_escaped (keepsLines : Bool) (c : Char) :
    Spelled keepsLines c (escaped keepsLines c) := by
  unfold escaped
  split
  case h_6 =>
    cases keepsLines with
    | true => exact .line rfl
    | false => exact .letter rfl
  case h_7 hb ht hf hr hs hn =>
    split
    · next h => exact .code (ofCode?_capitalDigits (toNat_lt_of_needsEscape h))
    · next h =>
      have ok := isPlain_or_eq_of_not_needsEscape (Bool.eq_false_iff.mpr h)
      exact .plain (ok.resolve_right hn) hs
  all_goals exact .letter rfl

/-- **A reader that knows the spellings of a character** takes it back from between double quotes.
-/
theorem read_escaped {keepsLines : Bool}
    (plain : ∀ {c} s, isPlain c = true → c ≠ '"' → c ≠ '\\' → read (c :: s) = push c (read s))
    (letter : ∀ {e c} s, escape? e = some c → read ('\\' :: e :: s) = push c (read s))
    (code : ∀ {a b c d x} s, ofCode? [a, b, c, d] = some x →
      read ('\\' :: 'u' :: a :: b :: c :: d :: s) = push x (read s))
    (line : keepsLines = true → ∀ s, read ('\n' :: s) = push '\n' (read s))
    {c : Char} (hc : c ≠ '"') (s : List Char) :
    read (escaped keepsLines c ++ s) = push c (read s) := by
  have spelled := spelled_escaped keepsLines c
  generalize escaped keepsLines c = word at spelled
  cases spelled with
  | plain ok slash => exact plain s ok hc slash
  | letter known => exact letter s known
  | code known => exact code s known
  | line keeps => exact line keeps s

/-- What a character between double quotes starts with. -/
theorem exists_escaped_eq_cons (keepsLines : Bool) {c : Char} (hc : c ≠ '"') :
    ∃ d s, escaped keepsLines c = d :: s ∧ d ≠ '"' ∧ (c ≠ '\n' → isPlain d = true) := by
  have spelled := spelled_escaped keepsLines c
  generalize escaped keepsLines c = word at spelled
  cases spelled with
  | plain ok slash => exact ⟨_, _, rfl, hc, fun _ => ok⟩
  | letter known => exact ⟨_, _, rfl, by simp, fun _ => rfl⟩
  | code known => exact ⟨_, _, rfl, by simp, fun _ => rfl⟩
  | line keeps => exact ⟨_, _, rfl, by simp, fun ne => absurd rfl ne⟩

/-! ## On one line -/

/-- A character is read back from its escaped form in a string of one line. -/
theorem readBasic_escaped {c : Char} (hc : c ≠ '"') (s : List Char) :
    readBasic (escaped false c ++ s) = push c (readBasic s) := by
  refine read_escaped (fun s plain quote slash => ?_) (fun s known => ?_) (fun s known => ?_)
    (by simp) hc s
  · rw [readBasic, if_pos (by simp [plain, slash])] <;> simp_all
  · rw [readBasic, known]
    · rfl
    all_goals
      intros
      simp_all [escape?]
  · rw [readBasic, known]
    rfl

/-- An escaped text is read back up to the quote at its end. -/
theorem readBasic_escapedText (run : Nat) (s rest : List Char) :
    readBasic (escapedText false run s ++ '"' :: rest) = some (s, rest) := by
  induction s generalizing run with
  | nil => rw [escapedText, List.nil_append, readBasic]
  | cons c s ih =>
    rw [escapedText]
    by_cases hc : c = '"'
    · rw [if_pos hc, if_neg (by simp), hc, List.cons_append, List.cons_append, readBasic, ih]
      · rfl
      all_goals simp
    · rw [if_neg hc, List.append_assoc, readBasic_escaped hc, ih]
      rfl

/-- A text of plain characters is read back as it stands between single quotes. -/
theorem readLiteral_append {s : List Char} (h : ∀ c ∈ s, isPlain c = true ∧ c ≠ '\'')
    (rest : List Char) : readLiteral (s ++ '\'' :: rest) = some (s, rest) := by
  induction s with
  | nil => rw [List.nil_append, readLiteral]
  | cons c s ih =>
    obtain ⟨⟨plain, ne⟩, hs⟩ := List.forall_mem_cons.mp h
    rw [List.cons_append, readLiteral, if_pos plain, ih hs]
    · rfl
    · exact ne

/-! ## On several lines -/

/-- How a reader takes quotes: three of them close the string, and one that two others do not follow
is part of the text. -/
structure TakesQuotes (quote : Char) (read : List Char → Option (List Char × List Char)) :
    Prop where
  close : ∀ s, read (quote :: quote :: quote :: s) = some (closingQuotes quote s)
  keep : ∀ s, ¬ [quote, quote] <+: s → read (quote :: s) = push quote (read s)

/-- One or two quotes that no third one follows belong to the text. -/
theorem TakesQuotes.read_replicate (h : TakesQuotes quote read) {n : Nat} (hn : n ≤ 2)
    {s : List Char} (hs : s.head? ≠ some quote) :
    read (List.replicate n quote ++ s) =
      (read s).map fun (t, rest) => (List.replicate n quote ++ t, rest) := by
  have single : read (quote :: s) = push quote (read s) := by
    refine h.keep s fun twice => hs ?_
    obtain ⟨t, rfl⟩ := twice
    rfl
  have double : read (quote :: quote :: s) = push quote (push quote (read s)) := by
    rw [← single]
    refine h.keep _ fun twice => hs ?_
    obtain ⟨t, eq⟩ := twice
    rw [← (List.cons.inj eq).2]
    rfl
  interval_cases n
  · simp
  · simp [single, push]
  · simp [List.replicate_succ, double, push, Function.comp_def]

/-- Up to two quotes may stand before the three that close the string. -/
theorem TakesQuotes.read_replicate_close (h : TakesQuotes quote read) {n : Nat} (hn : n ≤ 2)
    {rest : List Char} (hr : rest.head? ≠ some quote) :
    read (List.replicate n quote ++ quote :: quote :: quote :: rest) =
      some (List.replicate n quote, rest) := by
  have closing : closingQuotes quote (List.replicate n quote ++ rest) =
      (List.replicate n quote, rest) := by
    have : ∀ c ∈ rest.head?, c ≠ quote := fun c hc e => hr (e ▸ hc)
    interval_cases n <;> rcases rest with _ | ⟨c, _ | ⟨d, s⟩⟩ <;>
      simp_all [closingQuotes, List.replicate_succ]
  -- the reader takes the first three of the quotes for the end and gives back those that are left
  have swap : List.replicate n quote ++ quote :: quote :: quote :: rest =
      quote :: quote :: quote :: (List.replicate n quote ++ rest) := by
    interval_cases n <;> rfl
  rw [swap, h.close, closing]

/-- Strings of several lines between double quotes take quotes so. -/
theorem takesQuotes_readMultiBasic : TakesQuotes '"' (readMultiBasic .text) where
  close s := by
    rw [readMultiBasic]
    all_goals simp
  keep s hs := by
    rw [readMultiBasic, if_neg (by simp), if_pos (by decide)]
    · rintro rest - rfl
      exact hs ⟨rest, rfl⟩
    all_goals simp

/-- Strings of several lines between single quotes take quotes so. -/
theorem takesQuotes_readMultiLiteral : TakesQuotes '\'' readMultiLiteral where
  close s := by rw [readMultiLiteral]
  keep s hs := by
    rw [readMultiLiteral, if_pos (by decide)]
    · simp
    · simp
    · rintro rest - rfl
      exact hs ⟨rest, rfl⟩

/-- A backslash and a letter are read as the character that they stand for. -/
theorem readMultiBasic_letter {e c : Char} (h : escape? e = some c) (s : List Char) :
    readMultiBasic .text ('\\' :: e :: s) = push c (readMultiBasic .text s) := by
  rw [readMultiBasic, h]
  all_goals
    intros
    simp_all [escape?]

/-- A character is read back from its escaped form in a string of several lines. -/
theorem readMultiBasic_escaped {c : Char} (hc : c ≠ '"') (s : List Char) :
    readMultiBasic .text (escaped true c ++ s) = push c (readMultiBasic .text s) := by
  refine read_escaped (fun s plain quote slash => ?_) (fun s known => readMultiBasic_letter known s)
    (fun s known => ?_) (fun _ s => ?_) hc s
  · rw [readMultiBasic.eq_def]
    split <;> simp_all [isPlain]
  · rw [readMultiBasic, known]
    · rfl
    all_goals simp
  · rw [readMultiBasic]

/-- An escaped text is read back up to the three quotes at its end, with the quotes that have been
counted before it. -/
theorem readMultiBasic_escapedText {run : Nat} (hrun : run ≤ 2) {s rest : List Char}
    (hr : rest.head? ≠ some '"') :
    readMultiBasic .text
        (List.replicate run '"' ++ (escapedText true run s ++ '"' :: '"' :: '"' :: rest)) =
      some (List.replicate run '"' ++ s, rest) := by
  have quotes := takesQuotes_readMultiBasic
  induction s generalizing run with
  | nil =>
    rw [escapedText, List.nil_append, List.append_nil, quotes.read_replicate_close hrun hr]
  | cons c s ih =>
    rw [escapedText]
    by_cases hc : c = '"'
    · by_cases more : run < 2
      · rw [if_pos hc, if_pos ⟨rfl, more⟩, hc, List.cons_append, List.append_cons,
          ← List.replicate_succ', List.append_cons _ '"' s, ← List.replicate_succ']
        exact ih more
      -- a third quote is escaped, so that the reader does not take it for the end, and counting
      -- starts anew after it
      · rw [if_pos hc, if_neg (by simp [more]), hc, List.cons_append, List.cons_append,
          quotes.read_replicate hrun (by simp), readMultiBasic_letter rfl]
        have after := ih (Nat.zero_le 2)
        simp only [List.replicate_zero, List.nil_append] at after
        rw [after]
        rfl
    · obtain ⟨d, t, head, ne, -⟩ := exists_escaped_eq_cons true hc
      have after := ih (Nat.zero_le 2)
      simp only [List.replicate_zero, List.nil_append] at after
      rw [if_neg hc, List.append_assoc, quotes.read_replicate hrun (by simpa [head] using ne),
        readMultiBasic_escaped hc, after]
      rfl

/-- A plain character or a line end is read as it stands. -/
theorem readMultiLiteral_cons {c : Char} (h : isPlain c = true ∨ c = '\n') (hc : c ≠ '\'')
    (s : List Char) : readMultiLiteral (c :: s) = push c (readMultiLiteral s) := by
  rcases h with plain | rfl
  · rw [readMultiLiteral, if_pos plain]
    all_goals
      intros
      simp_all [isPlain]
  · rw [readMultiLiteral]

/-- A text without three single quotes in a row is read back as it stands. -/
theorem readMultiLiteral_append {run : Nat} {s rest : List Char}
    (hs : ∀ c ∈ s, isPlain c = true ∨ c = '\n') (short : longestRun '\'' run s ≤ 2)
    (hr : rest.head? ≠ some '\'') :
    readMultiLiteral (List.replicate run '\'' ++ (s ++ '\'' :: '\'' :: '\'' :: rest)) =
      some (List.replicate run '\'' ++ s, rest) := by
  have quotes := takesQuotes_readMultiLiteral
  induction s generalizing run with
  | nil => rw [List.nil_append, List.append_nil, quotes.read_replicate_close (n := run) short hr]
  | cons c s ih =>
    obtain ⟨ok, hs⟩ := List.forall_mem_cons.mp hs
    rw [longestRun] at short
    by_cases hc : c = '\''
    · rw [if_pos hc] at short
      rw [hc, List.cons_append, List.append_cons, ← List.replicate_succ', List.append_cons _ _ s,
        ← List.replicate_succ']
      exact ih hs short
    · rw [if_neg hc] at short
      obtain ⟨hrun, short⟩ := max_le_iff.mp short
      have after := ih hs short
      simp only [List.replicate_zero, List.nil_append] at after
      rw [List.cons_append, quotes.read_replicate hrun (by simpa using hc),
        readMultiLiteral_cons ok hc, after]
      rfl

/-! ## All forms -/

/-- Whether a form of a string can hold a text. -/
def Quotation.Fits (s : List Char) : Quotation → Prop
  | .basic | .multiBasic => True
  | .literal => ∀ c ∈ s, isPlain c = true ∧ c ≠ '\''
  | .multiLiteral => (∀ c ∈ s, isPlain c = true ∨ c = '\n') ∧ longestRun '\'' 0 s ≤ 2

/-- The form that a text is written in can hold it. -/
theorem Quotation.fits_of (s : List Char) : (Quotation.of s).Fits s := by
  have ok (raw : s.any needsEscape = false) : ∀ c ∈ s, isPlain c = true ∨ c = '\n' := by
    intro c hc
    exact isPlain_or_eq_of_not_needsEscape (by simpa using List.any_eq_false.mp raw c hc)
  unfold Quotation.of
  dsimp only
  split_ifs with basic literal multiBasic multiLiteral
  · trivial
  · simp only [Bool.and_eq_true, Bool.not_eq_true', List.contains_eq_mem, decide_eq_false_iff_not]
      at literal
    obtain ⟨⟨raw, quote⟩, line⟩ := literal
    intro c hc
    exact ⟨(ok raw c hc).resolve_right fun e => line (e ▸ hc), fun e => quote (e ▸ hc)⟩
  · trivial
  · simp only [Bool.and_eq_true, Bool.not_eq_true', decide_eq_true_eq] at multiLiteral
    exact ⟨ok multiLiteral.1, multiLiteral.2⟩
  · trivial
  · trivial

/-- Nothing is taken off where no line end stands at the start. -/
theorem skipNewline_of_isPlain {s : List Char} (h : ∀ c ∈ s.head?, isPlain c = true) :
    skipNewline s = s := by
  unfold skipNewline newline?
  split <;> simp_all [isPlain]

/-- The line end that a string of several lines may start with is taken off again. -/
theorem skipNewline_opening {s body : List Char}
    (h : '\n' ∉ s → ∀ c ∈ body.head?, isPlain c = true) :
    skipNewline ((if s.contains '\n' then ['\n'] else []) ++ body) = body := by
  split
  · rfl
  · next none => exact skipNewline_of_isPlain (h (by simpa using none))

/-- A double quote that two others do not follow starts a string of one line. -/
theorem readString_quote {s : List Char} (h : s.head? ≠ some '"' ∨ s.tail.head? ≠ some '"') :
    readString ('"' :: s) = readBasic s := by
  unfold readString
  split <;> simp_all

/-- A single quote that two others do not follow starts a string of one line. -/
theorem readString_apostrophe {s : List Char} (h : s.head? ≠ some '\'' ∨ s.tail.head? ≠ some '\'') :
    readString ('\'' :: s) = readLiteral s := by
  unfold readString
  split <;> simp_all

/-- An escaped text does not start with a quote, so that no second one follows the quote before it. -/
theorem head?_escapedText_ne {run : Nat} {s : List Char} (hs : s ≠ []) (rest : List Char) :
    (escapedText false run s ++ rest).head? ≠ some '"' := by
  obtain ⟨c, s, rfl⟩ := List.exists_cons_of_ne_nil hs
  rw [escapedText]
  split_ifs with hc
  · simp_all
  · simp
  · obtain ⟨d, t, head, ne, -⟩ := exists_escaped_eq_cons false hc
    simpa [head] using ne

/-- An escaped text without line ends starts with a plain character, also if it is empty. -/
theorem isPlain_head?_escapedText {s : List Char} (line : '\n' ∉ s) (rest : List Char) :
    ∀ d ∈ (escapedText true 0 s ++ '"' :: rest).head?, isPlain d = true := by
  rcases s with _ | ⟨c, s⟩
  · simp [escapedText, isPlain]
  · rw [escapedText]
    split_ifs with hc
    · simp [isPlain]
    · simp [isPlain]
    · obtain ⟨d, t, head, -, plain⟩ := exists_escaped_eq_cons true hc
      have ne : c ≠ '\n' := fun e => line (by simp [e])
      simpa [head] using plain ne

/-- A text without line ends that may stand between single quotes starts with a plain character too. -/
theorem isPlain_head?_append {s : List Char} (ok : ∀ c ∈ s, isPlain c = true ∨ c = '\n')
    (line : '\n' ∉ s) (rest : List Char) :
    ∀ d ∈ (s ++ '\'' :: rest).head?, isPlain d = true := by
  rcases s with _ | ⟨c, s⟩
  · simp [isPlain]
  · have ne : c ≠ '\n' := fun e => line (by simp [e])
    simpa using (ok c (by simp)).resolve_right ne

/-- **Every form of a string is read back**, with what follows it if that is not a quote. -/
theorem readString_chars {f : Quotation} {s rest : List Char} (fits : f.Fits s)
    (hr : ∀ c ∈ rest.head?, c ≠ '"' ∧ c ≠ '\'') :
    readString (f.chars s ++ rest) = some (s, rest) := by
  have double : rest.head? ≠ some '"' := fun h => (hr _ h).1 rfl
  have single : rest.head? ≠ some '\'' := fun h => (hr _ h).2 rfl
  cases f with
  | basic =>
    rw [Quotation.chars, List.cons_append, List.append_assoc, List.singleton_append,
      readString_quote, readBasic_escapedText]
    -- Two quotes come first only where the text is empty, and then no third one follows.
    by_cases hs : s = []
    · exact .inr (by simpa [hs, escapedText] using double)
    · exact .inl (head?_escapedText_ne hs _)
  | literal =>
    rw [Quotation.chars, List.cons_append, List.append_assoc, List.singleton_append,
      readString_apostrophe, readLiteral_append fits]
    rcases s with _ | ⟨c, s⟩
    · exact .inr (by simpa using single)
    · exact .inl (by simpa using (fits c (by simp)).2)
  | multiBasic =>
    have read := readMultiBasic_escapedText (Nat.zero_le 2) (s := s) double
    simp only [List.replicate_zero, List.nil_append] at read
    simp only [Quotation.chars, opening, List.append_assoc, List.cons_append, List.nil_append,
      readString]
    rw [skipNewline_opening fun line => isPlain_head?_escapedText line _, read]
  | multiLiteral =>
    have read := readMultiLiteral_append fits.1 fits.2 single
    simp only [List.replicate_zero, List.nil_append] at read
    simp only [Quotation.chars, opening, List.append_assoc, List.cons_append, List.nil_append,
      readString]
    rw [skipNewline_opening fun line => isPlain_head?_append fits.1 line _, read]

/-- A text is read back from the string it is written as. -/
theorem readString_stringChars (s : String) {rest : List Char}
    (hr : ∀ c ∈ rest.head?, c ≠ '"' ∧ c ≠ '\'') :
    readString (stringChars s ++ rest) = some (s.toList, rest) :=
  readString_chars (Quotation.fits_of s.toList) hr

/-- A string starts with a quote of either sort. -/
theorem exists_stringChars_eq_cons (s : String) :
    ∃ q t, stringChars s = q :: t ∧ (q = '"' ∨ q = '\'') := by
  unfold stringChars
  cases Quotation.of s.toList
  · exact ⟨_, _, rfl, .inl rfl⟩
  · exact ⟨_, _, rfl, .inr rfl⟩
  · exact ⟨_, _, rfl, .inl rfl⟩
  · exact ⟨_, _, rfl, .inr rfl⟩

end DataGrid.Toml

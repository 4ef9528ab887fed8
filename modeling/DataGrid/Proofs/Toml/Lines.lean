import DataGrid.Proofs.Text.Pieces
import DataGrid.Proofs.Toml.Strings
import DataGrid.Toml.Reader
import Mathlib.Data.List.Basic

/-!
# Tables of TOML are read as they were written

Values, keys, lines and headers are read back one after the other, each with what follows it left
over.

* `readValue_leaf`: a value is read back where the number of steps is at least its length.
* **`Says`**: a text says some statements if they are read from it with any number of steps above
  its length. Empty lines, lines and headers each put one step in front of a text that says
  something (`Says.blank`, `Says.line`, `Says.header`).
* **`read?_text`**: a text of tables whose names and keys do without quotes says what its tables
  say.
-/

namespace DataGrid.Toml

open Text

/-! ## Values -/

/-- A string is read back as a value, with what follows it if that is not a quote. -/
theorem readValue_stringChars {steps : Nat} (hs : 0 < steps) (depth : Nat) (s : String)
    {rest : List Char} (hr : ∀ c ∈ rest.head?, c ≠ '"' ∧ c ≠ '\'') :
    readValue steps depth (stringChars s ++ rest) = some (.text s, rest) := by
  have read := readString_stringChars s hr
  obtain ⟨steps, rfl⟩ := Nat.exists_eq_succ_of_ne_zero hs.ne'
  obtain ⟨q, t, head, rfl | rfl⟩ := exists_stringChars_eq_cons s <;>
    · rw [head, List.cons_append] at read ⊢
      simp [readValue, read]

/-- A string is the next word. -/
theorem skipLines_stringChars (s : String) (rest : List Char) :
    skipLines false (stringChars s ++ rest) = some (stringChars s ++ rest) := by
  obtain ⟨q, t, head, rfl | rfl⟩ := exists_stringChars_eq_cons s <;>
    · rw [head]
      simp [skipLines, isSpace]

/-- A string on an indented line of its own is the next word. -/
theorem skipLines_indented (s : String) (rest : List Char) :
    skipLines false ("\n    ".toList ++ (stringChars s ++ rest)) = some (stringChars s ++ rest) := by
  rw [← skipLines_stringChars s rest]
  simp [skipLines, isSpace]

/-- The lines of an array from the comma after an item on. -/
def itemLines (items : List String) : List Char :=
  ',' :: ((items.flatMap fun s => "\n    ".toList ++ stringChars s ++ [',']) ++ "\n]".toList)

/-- Each further item stands after a comma on an indented line of its own. -/
theorem itemLines_cons (s : String) (items : List String) :
    itemLines (s :: items) = ',' :: ("\n    ".toList ++ (stringChars s ++ itemLines items)) := by
  simp [itemLines]

/-- An item with another one after the comma, maybe on the next line. -/
theorem readItems_cons {steps depth : Nat} (hs : 0 < steps) {s s' : String}
    {t u rest : List Char} {items : List Document}
    (skip : skipLines false t = some (stringChars s' ++ u))
    (read : readItems steps depth (stringChars s' ++ u) = some (items, rest)) :
    readItems (steps + 1) depth (stringChars s ++ ',' :: t) = some (.text s :: items, rest) := by
  have comma : skipLines false (',' :: t) = some (',' :: t) := by simp [skipLines, isSpace]
  rw [readItems, readValue_stringChars hs _ _ (by simp)]
  simp only [Option.bind_eq_bind, Option.bind_some, comma, skip]
  obtain ⟨q, v, head, rfl | rfl⟩ := exists_stringChars_eq_cons s' <;>
    · rw [head, List.cons_append] at read ⊢
      simp [read]

/-- Items on lines of their own are read back, as long as there are more steps than items. -/
theorem readItems_lines {steps depth : Nat} (s : String) {items : List String}
    (hs : items.length + 1 < steps) (rest : List Char) :
    readItems steps depth (stringChars s ++ (itemLines items ++ rest)) =
      some ((s :: items).map .text, rest) := by
  induction items generalizing s steps with
  | nil =>
    obtain ⟨steps, rfl⟩ := Nat.exists_eq_succ_of_ne_zero (by omega : steps ≠ 0)
    rw [readItems, readValue_stringChars (by simp_all) _ _ (by simp [itemLines])]
    simp [itemLines, skipLines, isSpace]
  | cons s' items ih =>
    obtain ⟨steps, rfl⟩ := Nat.exists_eq_succ_of_ne_zero (by omega : steps ≠ 0)
    have few : items.length + 1 < steps := by simpa using hs
    rw [itemLines_cons, List.cons_append, List.append_assoc, List.append_assoc]
    exact readItems_cons (Nat.zero_lt_of_lt few) (skipLines_indented s' _) (ih s' few)

/-- A single item is read back up to the bracket that closes the array. -/
theorem readItems_single {steps : Nat} (hs : 1 < steps) (depth : Nat) (s : String)
    (rest : List Char) :
    readItems steps depth (stringChars s ++ ']' :: rest) = some ([.text s], rest) := by
  obtain ⟨steps, rfl⟩ := Nat.exists_eq_succ_of_ne_zero (by omega : steps ≠ 0)
  rw [readItems, readValue_stringChars (by omega) _ _ (by simp)]
  simp [skipLines, isSpace]

/-- After its bracket an array is its items, one level deeper. -/
theorem readValue_array {steps depth : Nat} (hd : depth ≠ 0) {s : String} {t u rest : List Char}
    {items : List Document} (skip : skipLines false t = some (stringChars s ++ u))
    (read : readItems steps (depth - 1) (stringChars s ++ u) = some (items, rest)) :
    readValue (steps + 1) depth ('[' :: t) = some (.sequence items, rest) := by
  rw [readValue, if_neg hd, skip]
  obtain ⟨q, v, head, rfl | rfl⟩ := exists_stringChars_eq_cons s <;>
    · rw [head, List.cons_append] at read ⊢
      simp [read]

/-- A string is written with one character at least. -/
theorem length_stringChars_pos (s : String) : 0 < (stringChars s).length := by
  obtain ⟨q, t, head, -⟩ := exists_stringChars_eq_cons s
  simp [head]

/-- The lines of an array are longer than its items are many, so that the length of a text gives enough
steps. -/
theorem length_lt_length_itemLines (items : List String) :
    items.length + 2 < (itemLines items).length := by
  induction items with
  | nil => decide
  | cons s items ih =>
    simp only [itemLines, List.flatMap_cons, List.length_cons, List.length_append] at ih ⊢
    omega

/-- An array of two texts or more is written on several lines. -/
theorem Leaf.chars_texts (s s' : String) (items : List String) :
    (Leaf.texts (s :: s' :: items)).chars =
      '[' :: ("\n    ".toList ++ (stringChars s ++ itemLines (s' :: items))) := by
  simp [Leaf.chars, itemLines]

/-- **A value is read back**, with what follows it if that is not a quote. -/
theorem readValue_leaf {steps depth : Nat} {leaf : Leaf} (hs : leaf.chars.length < steps)
    (hd : depth ≠ 0) (rest : List Char) (hr : ∀ c ∈ rest.head?, c ≠ '"' ∧ c ≠ '\'') :
    readValue steps depth (leaf.chars ++ rest) = some (leaf.toDocument, rest) := by
  obtain ⟨steps, rfl⟩ := Nat.exists_eq_succ_of_ne_zero (Nat.ne_zero_of_lt hs)
  match leaf with
  | .text s => exact readValue_stringChars steps.succ_pos depth s hr
  | .boolean true => simp [Leaf.chars, Leaf.toDocument, readValue]
  | .boolean false => simp [Leaf.chars, Leaf.toDocument, readValue]
  | .texts [] => simp [Leaf.chars, Leaf.toDocument, readValue, hd, skipLines, isSpace]
  | .texts [s] =>
    have enough : 1 < steps := by
      have := length_stringChars_pos s
      simp [Leaf.chars] at hs
      omega
    simp only [Leaf.chars, List.cons_append, List.append_assoc, List.nil_append]
    exact readValue_array hd (skipLines_stringChars s _) (readItems_single enough _ s rest)
  | .texts (s :: s' :: items) =>
    rw [Leaf.chars_texts] at hs ⊢
    have enough : (s' :: items).length + 1 < steps := by
      have := length_lt_length_itemLines (s' :: items)
      simp only [List.length_cons, List.length_append] at hs this ⊢
      omega
    rw [List.cons_append, List.append_assoc, List.append_assoc]
    exact readValue_array hd (skipLines_indented s _) (readItems_lines s enough rest)

/-! ## Keys -/

/-- Whether a key can do without quotes. -/
def IsBareKey (key : String) : Prop := key ≠ "" ∧ key.toList.all isBare = true

instance (key : String) : Decidable (IsBareKey key) :=
  inferInstanceAs (Decidable (_ ∧ _))

/-- A character that needs no quotes is none that does. -/
theorem isBare_ne {c d : Char} (h : isBare c = true) (hd : isBare d = false) : c ≠ d :=
  fun e => by simp_all

/-- A character that needs no quotes is not blank. -/
theorem isSpace_of_isBare {c : Char} (h : isBare c = true) : isSpace c = false := by
  simp [isSpace, isBare_ne h (d := ' ') rfl, isBare_ne h (d := '\t') rfl]

/-- Nothing is skipped before a character that is not blank. -/
theorem skipSpace_cons {c : Char} (h : isSpace c = false) (s : List Char) :
    skipSpace (c :: s) = c :: s := by
  simp [skipSpace, h]

/-- The first character of a key without quotes. -/
theorem IsBareKey.exists_eq_cons {key : String} (h : IsBareKey key) :
    ∃ c t, key.toList = c :: t ∧ isBare c = true := by
  obtain ⟨c, t, eq⟩ := List.exists_cons_of_ne_nil (mt String.toList_eq_nil_iff.mp h.1)
  exact ⟨c, t, eq, List.all_eq_true.mp h.2 c (by simp [eq])⟩

/-- Nothing is skipped before a key without quotes. -/
theorem IsBareKey.skipSpace_append {key : String} (h : IsBareKey key) (rest : List Char) :
    skipSpace (key.toList ++ rest) = key.toList ++ rest := by
  obtain ⟨c, t, eq, bare⟩ := h.exists_eq_cons
  rw [eq, List.cons_append, skipSpace_cons (isSpace_of_isBare bare)]

/-- A key without quotes is read back, up to the first character that cannot be in it. -/
theorem readKeyPart_bare {key : String} (h : IsBareKey key) {rest : List Char}
    (hr : ∀ c ∈ rest.head?, isBare c = false) :
    readKeyPart (key.toList ++ rest) = some (key.toList, rest) := by
  have word := List.all_eq_true.mp h.2
  have take := takeWhile_word word hr
  have drop := dropWhile_word word hr
  obtain ⟨c, t, eq, bare⟩ := h.exists_eq_cons
  rw [eq, List.cons_append] at take drop ⊢
  rw [readKeyPart]
  · simp [take, drop]
  · rintro s ⟨⟩
    exact absurd bare (by decide)
  · rintro s ⟨⟩
    exact absurd bare (by decide)

/-- **A key whose parts do without quotes is read back**, with what follows it and the blanks after
it, if that neither goes on with the last part nor starts another one. -/
theorem readKey_bare {key : List String} (hne : key ≠ []) (hk : ∀ part ∈ key, IsBareKey part)
    {parts : Nat} (hp : key.length ≤ parts) (rest : List Char)
    (hr : ∀ c ∈ rest.head?, isBare c = false) (hd : (skipSpace rest).head? ≠ some '.') :
    readKey parts ((".".intercalate key).toList ++ rest) = some (key, skipSpace rest) := by
  rw [String.toList_intercalate]
  induction key generalizing parts with
  | nil => exact absurd rfl hne
  | cons part key ih =>
    obtain ⟨bare, hk⟩ := List.forall_mem_cons.mp hk
    obtain ⟨parts, rfl⟩ := Nat.exists_eq_succ_of_ne_zero (Nat.ne_zero_of_lt hp)
    rcases key with _ | ⟨next, key⟩
    · simp only [List.map_cons, List.map_nil, List.intercalate_singleton]
      rw [readKey, bare.skipSpace_append, readKeyPart_bare bare hr]
      simp only [Option.bind_eq_bind, Option.bind_some]
      split
      · next eq => simp [eq] at hd
      · simp
    · have tail := ih (by simp) hk (Nat.le_of_succ_le_succ hp)
      have point : ".".toList = ['.'] := rfl
      simp only [List.map_cons, List.intercalate_cons_cons, List.append_assoc, point,
        List.cons_append, List.nil_append] at tail ⊢
      rw [readKey, bare.skipSpace_append, readKeyPart_bare bare (by simp; decide)]
      simp [skipSpace_cons (c := '.') (by decide), tail]

/-! ## Lines -/

/-- A table whose names and keys do without quotes, with no more names than a key may have. -/
structure Paragraph.IsBare (p : Paragraph) : Prop where
  name_ne_nil : p.name ≠ []
  length_name_le : p.name.length ≤ keyLimit
  name : ∀ part ∈ p.name, IsBareKey part
  lines : ∀ line ∈ p.lines, IsBareKey line.1

/-- What the lines of a table say. -/
def Paragraph.statements (p : Paragraph) : List Statement :=
  .header p.name :: p.lines.map fun (key, leaf) => .assign [key] leaf.toDocument

/-- A line end is taken off. -/
theorem lineEnd?_newline (s : List Char) : lineEnd? ('\n' :: s) = some s := by
  simp [lineEnd?, skipSpace, isSpace, skipComment, newline?]

/-- A value does not start with a blank. -/
theorem Leaf.exists_chars_eq_cons (leaf : Leaf) :
    ∃ c t, leaf.chars = c :: t ∧ isSpace c = false := by
  match leaf with
  | .text s =>
    obtain ⟨q, t, head, rfl | rfl⟩ := exists_stringChars_eq_cons s
    · exact ⟨_, _, head, by decide⟩
    · exact ⟨_, _, head, by decide⟩
  | .boolean true | .boolean false | .texts [] | .texts [_] | .texts (_ :: _ :: _) =>
    exact ⟨_, _, rfl, by decide⟩

/-- Before a value only the one blank is skipped. -/
theorem skipSpace_leaf (leaf : Leaf) (rest : List Char) :
    skipSpace (' ' :: (leaf.chars ++ rest)) = leaf.chars ++ rest := by
  obtain ⟨c, t, head, space⟩ := leaf.exists_chars_eq_cons
  have blank : skipSpace (' ' :: (leaf.chars ++ rest)) = skipSpace (leaf.chars ++ rest) := by
    simp [skipSpace, isSpace]
  rw [blank, head, List.cons_append, skipSpace_cons space]

/-- A line is read as the setting of its key. -/
theorem readStatement_line {key : String} (hk : IsBareKey key) {leaf : Leaf} {steps : Nat}
    (hs : leaf.chars.length < steps) (rest : List Char) :
    readStatement steps (lineChars key leaf ++ rest) =
      some (.assign [key] leaf.toDocument, rest) := by
  have chars : lineChars key leaf ++ rest =
      key.toList ++ ' ' :: '=' :: ' ' :: (leaf.chars ++ '\n' :: rest) := by
    simp [lineChars]
  have read : readKey keyLimit (key.toList ++ ' ' :: '=' :: ' ' :: (leaf.chars ++ '\n' :: rest)) =
      some ([key], '=' :: ' ' :: (leaf.chars ++ '\n' :: rest)) := by
    have whole : readKey keyLimit _ = _ := readKey_bare (List.cons_ne_nil key [])
      (by simpa using hk) (by rw [keyLimit, List.length_singleton]; decide)
      (' ' :: '=' :: ' ' :: (leaf.chars ++ '\n' :: rest)) (by simp; decide)
      (by simp [skipSpace, isSpace])
    simpa [String.toList_intercalate, skipSpace, isSpace] using whole
  obtain ⟨c, t, eq, bare⟩ := hk.exists_eq_cons
  rw [chars]
  rw [eq, List.cons_append] at read ⊢
  rw [readStatement, read]
  · have value := readValue_leaf hs (by decide : nestingLimit ≠ 0) ('\n' :: rest) (by simp)
    simp [skipChar, skipSpace_leaf, value, lineEnd?_newline]
  all_goals
    intro s other
    exact isBare_ne bare rfl (List.cons.inj other).1

/-- The line of a header is read as the header with its name. -/
theorem readStatement_header {name : List String} (hne : name ≠ [])
    (hk : ∀ part ∈ name, IsBareKey part) (hl : name.length ≤ keyLimit) (steps : Nat)
    (rest : List Char) :
    readStatement steps ('[' :: ((".".intercalate name).toList ++ ']' :: '\n' :: rest)) =
      some (.header name, rest) := by
  have read := readKey_bare hne hk hl (']' :: '\n' :: rest) (by simp; decide)
    (by simp [skipSpace, isSpace])
  obtain ⟨first, names, rfl⟩ := List.exists_cons_of_ne_nil hne
  obtain ⟨c, t, eq, bare⟩ := (hk first (by simp)).exists_eq_cons
  have head : ∃ t, (".".intercalate (first :: names)).toList = c :: t := by
    cases names <;> simp [String.toList_intercalate, eq]
  obtain ⟨t, eq⟩ := head
  rw [eq, List.cons_append] at read ⊢
  rw [readStatement, read]
  · simp [skipChar, skipSpace, isSpace, lineEnd?_newline]
  · intro s other
    exact isBare_ne bare rfl (List.cons.inj other).1

/-! ## Texts -/

/-- Whether a text is read as some statements with any number of steps above its length. -/
def Says (s : List Char) (statements : List Statement) : Prop :=
  ∀ steps, s.length < steps → readStatements steps s = some statements

variable {s : List Char} {statements : List Statement}

/-- The empty text says nothing. -/
theorem says_nil : Says [] [] := by
  intro steps hs
  obtain ⟨steps, rfl⟩ := Nat.exists_eq_succ_of_ne_zero (Nat.ne_zero_of_lt hs)
  simp [readStatements, skipSpace]

/-- An empty line says nothing. -/
theorem Says.blank (h : Says s statements) : Says ('\n' :: s) statements := by
  intro steps hs
  obtain ⟨steps, rfl⟩ := Nat.exists_eq_succ_of_ne_zero (Nat.ne_zero_of_lt hs)
  have := h steps (by simpa using hs)
  simp [readStatements, skipSpace, isSpace, isVoid, lineEnd?, skipComment, newline?, this]

/-- One more step reads one more statement, which starts neither with a blank nor with what makes a
line void. -/
theorem Says.cons (h : Says s statements) {c : Char} {t : List Char} {statement : Statement}
    (space : isSpace c = false) (void : c ≠ '#' ∧ c ≠ '\n' ∧ c ≠ '\r')
    (read : ∀ steps, (c :: t).length ≤ steps →
      readStatement steps (c :: t ++ s) = some (statement, s)) :
    Says (c :: t ++ s) (statement :: statements) := by
  intro steps hs
  obtain ⟨steps, rfl⟩ := Nat.exists_eq_succ_of_ne_zero (Nat.ne_zero_of_lt hs)
  simp only [List.cons_append, List.length_cons, List.length_append] at hs
  have now := read steps (by simp only [List.length_cons]; omega)
  have later := h steps (by omega)
  have notVoid : isVoid (c :: (t ++ s)) = false := by
    unfold isVoid
    split <;> simp_all
  rw [List.cons_append] at now ⊢
  simp [readStatements, skipSpace_cons space, notVoid, now, later]

/-- A line with a key says that the key is set, and then what the rest says. -/
theorem Says.line (h : Says s statements) {key : String} (hk : IsBareKey key) (leaf : Leaf) :
    Says (lineChars key leaf ++ s) (.assign [key] leaf.toDocument :: statements) := by
  obtain ⟨c, t, eq, bare⟩ := hk.exists_eq_cons
  have head : lineChars key leaf = c :: (t ++ " = ".toList ++ leaf.chars ++ ['\n']) := by
    simp [lineChars, eq]
  rw [head]
  refine h.cons (isSpace_of_isBare bare)
    ⟨isBare_ne bare rfl, isBare_ne bare rfl, isBare_ne bare rfl⟩ fun steps hs => ?_
  rw [← head] at hs ⊢
  simp only [lineChars, List.length_append, List.length_singleton] at hs
  exact readStatement_line hk (by omega) s

/-- Several lines say so one after the other. -/
theorem Says.lines (h : Says s statements) {lines : List (String × Leaf)}
    (hk : ∀ line ∈ lines, IsBareKey line.1) :
    Says ((lines.flatMap fun (key, leaf) => lineChars key leaf) ++ s)
      ((lines.map fun (key, leaf) => .assign [key] leaf.toDocument) ++ statements) := by
  induction lines with
  | nil => exact h
  | cons line lines ih =>
    obtain ⟨bare, hk⟩ := List.forall_mem_cons.mp hk
    simpa using (ih hk).line bare line.2

/-- A table of a text says what its lines say, and then what the rest says. -/
theorem Says.paragraph (h : Says s statements) {p : Paragraph} (hp : p.IsBare) :
    Says (p.chars ++ s) (p.statements ++ statements) := by
  have lines := h.lines hp.lines
  have read (steps : Nat) (rest : List Char) :
      readStatement steps ('[' :: ((".".intercalate p.name).toList ++ "]\n".toList) ++ rest) =
        some (.header p.name, rest) := by
    simpa using readStatement_header hp.name_ne_nil hp.name hp.length_name_le steps rest
  have header := lines.cons (by decide) (by decide) fun steps _ => read steps _
  simpa [Paragraph.chars, Paragraph.statements] using header

/-- A text of tables says what its tables say, one after the other. -/
theorem says_text {paragraphs : List Paragraph} (h : ∀ p ∈ paragraphs, p.IsBare) :
    Says (text paragraphs).toList (paragraphs.flatMap Paragraph.statements) := by
  rw [text, String.toList_ofList]
  induction paragraphs with
  | nil => exact says_nil
  | cons p paragraphs ih =>
    obtain ⟨bare, hps⟩ := List.forall_mem_cons.mp h
    rcases paragraphs with _ | ⟨p', paragraphs⟩
    · simpa using says_nil.paragraph bare
    · simpa [List.intercalate_cons_cons] using (ih hps).blank.paragraph bare

/-- **A text of tables without quotes in their names and keys says what its tables say.** -/
theorem read?_text {paragraphs : List Paragraph} (h : ∀ p ∈ paragraphs, p.IsBare) :
    read? (text paragraphs) = assemble? (paragraphs.flatMap Paragraph.statements) := by
  have unmarked : skipByteOrderMark (text paragraphs).toList = (text paragraphs).toList := by
    rw [text, String.toList_ofList]
    rcases paragraphs with _ | ⟨p, _ | ⟨p', paragraphs⟩⟩
    · rfl
    · simp [Paragraph.chars, skipByteOrderMark]
    · simp [List.intercalate_cons_cons, Paragraph.chars, skipByteOrderMark]
  rw [read?, unmarked, says_text h _ (by omega), Option.bind_some]

end DataGrid.Toml

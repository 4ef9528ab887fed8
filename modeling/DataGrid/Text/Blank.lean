/-!
# Blank characters and trimming

A character is *blank* when it has the Unicode property `White_Space`. Text typed by a user is
trimmed of blanks at both ends before it is read, and a cell that holds nothing but blanks counts
as empty.

Main definitions.
* **`isBlank`**: the class, given by its ranges of code points.
* **`trim`**: the text without its leading and trailing blanks; **`trim_spec`** says that what is
  left neither starts nor ends with a blank.
-/

namespace DataGrid.Text

/-- The code points with the property `White_Space`, as closed ranges in ascending order. -/
def blankRanges : List (Nat × Nat) :=
  [(0x9, 0xD), (0x20, 0x20), (0x85, 0x85), (0xA0, 0xA0), (0x1680, 0x1680), (0x2000, 0x200A),
   (0x2028, 0x2029), (0x202F, 0x202F), (0x205F, 0x205F), (0x3000, 0x3000)]

/-- Whether a code point lies in one of the ranges. -/
def inRanges (ranges : List (Nat × Nat)) (n : Nat) : Bool :=
  ranges.any fun r => r.1 ≤ n && n ≤ r.2

/-- Whether a character separates words. -/
def isBlank (c : Char) : Bool := inRanges blankRanges c.toNat

/-- The text without its leading blanks. -/
def trimStart (s : List Char) : List Char := s.dropWhile isBlank

/-- The text without its trailing blanks. -/
def trimEnd : List Char → List Char
  | [] => []
  | c :: s =>
    match trimEnd s with
    | [] => if isBlank c then [] else [c]
    | d :: r => c :: d :: r

/-- The text without its leading and trailing blanks. -/
def trim (s : List Char) : List Char := trimEnd (trimStart s)

/-- Whether a text neither starts nor ends with a blank. -/
def Trimmed (s : List Char) : Prop :=
  (∀ c ∈ s.head?, isBlank c = false) ∧ ∀ c ∈ s.getLast?, isBlank c = false

/-- What is left after trimming at the end does not end with a blank. -/
theorem trimEnd_getLast? (s : List Char) : ∀ c ∈ (trimEnd s).getLast?, isBlank c = false := by
  induction s with
  | nil => simp [trimEnd]
  | cons c s ih =>
    rw [trimEnd]
    split
    · split <;> simp_all
    · simp_all

/-- Trimming at the end leaves the first character alone, unless it is a blank. -/
theorem trimEnd_head? {s : List Char} (h : ∀ c ∈ s.head?, isBlank c = false) :
    (trimEnd s).head? = s.head? := by
  cases s with
  | nil => rfl
  | cons c s =>
    rw [trimEnd]
    split <;> simp_all

/-- What is left after trimming at the start does not start with a blank. -/
theorem trimStart_head? (s : List Char) : ∀ c ∈ (trimStart s).head?, isBlank c = false := by
  induction s with
  | nil => simp [trimStart]
  | cons c s ih =>
    rw [trimStart, List.dropWhile_cons]
    split
    · exact ih
    · simp_all

/-- A trimmed text neither starts nor ends with a blank. -/
theorem trim_spec (s : List Char) : Trimmed (trim s) := by
  refine ⟨?_, trimEnd_getLast? _⟩
  rw [trim, trimEnd_head? (trimStart_head? s)]
  exact trimStart_head? s

/-- A text that consists of blanks alone trims to nothing, and no other text does. -/
theorem trim_eq_nil_iff (s : List Char) : trim s = [] ↔ ∀ c ∈ s, isBlank c = true := by
  have key : ∀ t : List Char, trimEnd t = [] ↔ ∀ c ∈ t, isBlank c = true := by
    intro t
    induction t with
    | nil => simp [trimEnd]
    | cons c t ih =>
      rw [trimEnd]
      split
      · split <;> simp_all
      · simp_all
  induction s with
  | nil => simp [trim, trimStart, trimEnd]
  | cons c s ih =>
    rw [trim, trimStart, List.dropWhile_cons]
    split
    · rename_i h
      simpa [trim, trimStart, h] using ih
    · rw [key]

/-- The trimmed text of a string. -/
def trimmed (s : String) : String := String.ofList (trim s.toList)

/-- Whether a string holds nothing but blanks. -/
def isBlankText (s : String) : Bool := (trim s.toList).isEmpty

end DataGrid.Text

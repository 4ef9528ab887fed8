import DataGrid.Text.Blank
import DataGrid.Text.CaseTable
import DataGrid.Text.CasedTable

/-!
# Upper case, lower case and case folding

Putting a character into another case may give several characters. Lower case depends on the text
around a character in one place only: a capital sigma becomes a final sigma at the end of a word.

* **`lower`**: a text in lower case.
* **`upperChar`**: the upper-case form of one character.
* **`foldChar`**: the character that stands for all characters that differ from this one in case
  alone; **`sameFolded`** compares two characters by it.
-/

namespace DataGrid.Text

/-- The form of a character in a mapping: its expansion, else its image in a run, else itself. -/
def mapped (ranges : List CaseRange) (expansions : List (Nat × List Nat)) (c : Char) :
    List Char :=
  match expansions.lookup c.toNat with
  | some image => image.map Char.ofNat
  | none => [(ranges.findSome? (·.map? c.toNat)).elim c Char.ofNat]

/-- The lower-case form of a character, whatever stands around it. -/
def lowerChar (c : Char) : List Char := mapped lowerRanges lowerExpansions c

/-- The upper-case form of a character. -/
def upperChar (c : Char) : List Char := mapped upperRanges upperExpansions c

/-- The simple case folding of a character. -/
def foldChar (c : Char) : Char := (foldRanges.findSome? (·.map? c.toNat)).elim c Char.ofNat

/-- Whether two characters have the same simple case folding. -/
def sameFolded (c d : Char) : Bool := foldChar c == foldChar d

/-- Whether the first character that is not case-ignorable is a cased letter. -/
def startsCased : List Char → Bool
  | [] => false
  | c :: s =>
    if inRanges caseIgnorableRanges c.toNat then startsCased s else inRanges casedRanges c.toNat

/-- The lower-case form of a capital sigma between two texts, the one before it in reverse: final
after a cased letter, unless a cased letter follows. -/
def lowerSigma (before after : List Char) : Char :=
  if startsCased before && !startsCased after then 'ς' else 'σ'

/-- The lower-case form of the end of a text, where `before` is the text in front of it, in
reverse. -/
def lowerAfter (before : List Char) : List Char → List Char
  | [] => []
  | c :: s =>
    (if c = 'Σ' then [lowerSigma before s] else lowerChar c) ++ lowerAfter (c :: before) s

/-- A text in lower case. -/
def lower (s : List Char) : List Char := lowerAfter [] s

end DataGrid.Text

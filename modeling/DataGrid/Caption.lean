import DataGrid.Text.Case

/-!
# Captions

The heading of a column is shown in words: `FIRST_NAME` becomes `First Name`. Underscores count as
spaces, the text is put into lower case and trimmed, and the first character of each word is put
into upper case. The blanks between the words stay as they are.
-/

namespace DataGrid.Caption

open Text

/-- Underscores as spaces. -/
def spaced (s : List Char) : List Char := s.map fun c => if c = '_' then ' ' else c

/-- The first character of each word in upper case, where the text starts a word or goes on with
one. -/
def capitalized (startsWord : Bool) : List Char → List Char
  | [] => []
  | c :: s =>
    if isBlank c then c :: capitalized true s
    else (if startsWord then upperChar c else [c]) ++ capitalized false s

/-- A heading in words. -/
def inWords (raw : List Char) : List Char := capitalized true (trim (lower (spaced raw)))

/-- The caption that is shown for a heading. -/
def display (raw : String) : String := String.ofList (inWords raw.toList)

end DataGrid.Caption

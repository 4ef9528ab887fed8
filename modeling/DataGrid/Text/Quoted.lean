import DataGrid.Text.Blank
import DataGrid.Text.Hex
import DataGrid.Text.HiddenTable

/-!
# Quoted texts in messages

A message shows a file name between double quotes, with everything spelt out that would not be
seen or would end the quotation: double quotes and backslashes after a backslash, the usual short
forms for line ends and tabs, and the code point in hexadecimal for all else that is not printable.
-/

namespace DataGrid.Text

/-- How a character is written inside a quotation. -/
def quotedChar (c : Char) : List Char :=
  match c with
  | '\x00' => ['\\', '0']
  | '\t' => ['\\', 't']
  | '\r' => ['\\', 'r']
  | '\n' => ['\\', 'n']
  | '\\' => ['\\', '\\']
  | '"' => ['\\', '"']
  | c =>
    if inRanges hiddenRanges c.toNat then '\\' :: 'u' :: '{' :: (hexDigits c.toNat ++ ['}'])
    else [c]

/-- A text in double quotes. -/
def quoted (s : String) : String := String.ofList ('"' :: (s.toList.flatMap quotedChar ++ ['"']))

end DataGrid.Text

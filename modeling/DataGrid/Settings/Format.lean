import DataGrid.Document.Settings
import DataGrid.Toml.Printer
import DataGrid.Toml.Reader

/-!
# The text of settings

Settings are kept as a TOML text. **`Settings.toToml`** writes every setting, in a table for each
part of the settings; **`Settings.ofToml?`** reads a text that need not have all of them.
-/

namespace DataGrid.Settings

open Toml

/-- The tables that settings are written in. -/
def paragraphs (s : Settings) : List Paragraph :=
  let c := s.classifier
  [ ⟨["classifier"], [("evidence", .text c.evidence.storedName)]⟩,
    ⟨["classifier", "boolean_tokens"],
      [("true_value", .text c.tokens.trueValue), ("false_value", .text c.tokens.falseValue),
        ("indeterminate_value", .text c.tokens.indeterminateValue)]⟩,
    ⟨["filter"],
      [("separator", .text (String.ofList [s.filter.separator])),
        ("wildcard", .text (String.ofList [s.filter.wildcard])),
        ("case_sensitive", .boolean s.filter.caseSensitive)]⟩,
    ⟨["layout"],
      [("hidden_columns", .texts s.layout.hiddenColumns),
        ("highlight_column", .text s.layout.highlightColumn),
        ("numeric_format", .text s.layout.numericFormat)]⟩ ]

/-- Settings as a TOML text. -/
def toToml (s : Settings) : String := Toml.text s.paragraphs

/-- The settings that a TOML text stands for. -/
def ofToml? (text : String) : Option Settings := (Toml.read? text).bind (ofDocument? .toml)

end DataGrid.Settings

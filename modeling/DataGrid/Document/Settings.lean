import DataGrid.Document.Search
import DataGrid.Settings.Basic

/-!
# Stored settings

The documents that stand for the settings of a grid, in either format. Any section and any field may
be left out and then has its default.
-/

namespace DataGrid

open Document

namespace FilterSettings

/-- The document of the settings of search. -/
def toDocument (s : FilterSettings) : Document :=
  .record [("separator", ofCharacter s.separator), ("wildcard", ofCharacter s.wildcard),
    ("case_sensitive", .boolean s.caseSensitive)]

/-- The settings of search that a document stands for. -/
def ofDocument? (format : Format) (d : Document) : Option FilterSettings := do
  let ms ← d.members? format ["separator", "wildcard", "case_sensitive"]
  let default : FilterSettings := {}
  return {
    separator := ← defaulted character? ms "separator" default.separator
    wildcard := ← defaulted character? ms "wildcard" default.wildcard
    caseSensitive := ← defaulted boolean? ms "case_sensitive" default.caseSensitive }

end FilterSettings

namespace Settings

/-- The document of the settings of a grid. -/
def toDocument (s : Settings) : Document :=
  .record [("classifier", s.classifier.toDocument), ("filter", s.filter.toDocument),
    ("layout", s.layout.toDocument)]

/-- The settings that a document stands for. -/
def ofDocument? (format : Format) (d : Document) : Option Settings := do
  let ms ← d.members? format ["classifier", "filter", "layout"]
  let default : Settings := {}
  return {
    classifier := ←
      defaulted (ClassifierOptions.ofDocument? format) ms "classifier" default.classifier
    filter := ← defaulted (FilterSettings.ofDocument? format) ms "filter" default.filter
    layout := ← defaulted (LayoutOptions.ofDocument? format) ms "layout" default.layout }

end Settings

end DataGrid

import DataGrid.Layout
import DataGrid.Search.Entry
import DataGrid.Search.Resolved

/-!
# Settings of a grid

What a user may set about all grids: how columns are classified, how search texts are read and
compared, and how tables are laid out. Every setting has a default.
-/

namespace DataGrid

/-- How search texts are read and compared. -/
structure FilterSettings where
  separator : Char := ({} : SearchMarks).separator
  wildcard : Char := ({} : SearchMarks).wildcard
  caseSensitive : Bool := ({} : FilterOptions).caseSensitive
  deriving DecidableEq, Repr

namespace FilterSettings

/-- The part of the settings that says how search texts are read. -/
def marks (s : FilterSettings) : SearchMarks := ⟨s.separator, s.wildcard⟩

/-- The part of the settings that says how texts are compared. -/
def options (s : FilterSettings) : FilterOptions := ⟨s.caseSensitive⟩

end FilterSettings

/-- The settings of a grid. -/
structure Settings where
  classifier : ClassifierOptions := {}
  filter : FilterSettings := {}
  layout : LayoutOptions := {}
  deriving DecidableEq, Repr

end DataGrid

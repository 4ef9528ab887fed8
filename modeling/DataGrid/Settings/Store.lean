import DataGrid.Settings.Format
import DataGrid.Text.Quoted
import DataGrid.Text.Split

/-!
# Settings in files

A **`Store`** is a tree of directories and files, in which settings are loaded and saved. A path is a
text with a slash between each two names; a name of one point stays where it is, and one of two
points goes up.

* **`Settings.loadFrom`** takes a file that is not there for one with no settings in it. A file that is
  there has to be UTF-8 text and has to stand for settings.
* **`Settings.saveTo`** makes the directories on the way to the file first, as **`Store.writeFile`**
  does with any file.
* **`Settings.load`** and **`Settings.save`** do so with the file that settings have by convention.

What goes wrong is told apart by a **`StoreError`**, which names the path from the root of the store.
-/

namespace DataGrid

/-- What stands at a place in a store. -/
inductive Node
  | directory
  | file (bytes : ByteArray)

/-- The way from the top of a store to a place in it. -/
abbrev Place := List String

/-- A tree of directories and files, with the name of the directory that it stands in. Of several
nodes at one place the first counts. -/
structure Store where
  root : String
  nodes : List (Place × Node) := []

/-- Why settings were not loaded or saved. Each names the file, or the directory it should be in. -/
inductive StoreError
  | unreadable (path : String)
  | malformed (path : String)
  | noDirectory (path : String)
  | unwritable (path : String)
  deriving DecidableEq, Repr

/-- The text of an error. -/
def StoreError.message : StoreError → String
  | unreadable path => "Failed to read settings from " ++ Text.quoted path
  | malformed path => "Failed to parse settings from " ++ Text.quoted path
  | noDirectory path => "Failed to create directory: " ++ Text.quoted path
  | unwritable path => "Failed to write settings to " ++ Text.quoted path

/-! ## Paths -/

namespace Path

/-- The segments of a path, between its slashes. -/
def segments (path : String) : List String := (Text.splitAt '/' path.toList).map String.ofList

/-- Whether a segment leads nowhere. -/
def isIdle (segment : String) : Bool := segment = "" || segment = "."

/-- The names of a path in order. -/
def names (path : String) : List String := (segments path).filter (!isIdle ·)

/-- Whether a path can only be one of a directory: it ends with a slash or a point, or is empty. -/
def isOfDirectory (path : String) : Bool := (segments path).getLast?.all isIdle

/-- The segments of a path without the ones at its end that lead nowhere. -/
def trimmed (segments : List String) : List String :=
  (segments.reverse.dropWhile isIdle).reverse

/-- The segments of the directory that a path is in. -/
def parent (path : String) : List String := trimmed (trimmed (segments path)).dropLast

/-- A path from the directory that a store stands in. -/
def shown (root : String) (segments : List String) : String :=
  root ++ String.join (segments.map ("/" ++ ·))

end Path

namespace Store

/-! ## Places -/

/-- What stands at a place. The top is always a directory. -/
def node? (s : Store) (place : Place) : Option Node :=
  if place.isEmpty then some .directory else s.nodes.lookup place

/-- Whether a place is a directory. -/
def isDirectory (s : Store) (place : Place) : Bool := s.node? place matches some .directory

/-- The most bytes that a name has. -/
def longestName : Nat := 255

/-- The most bytes that a path has after the directory that a store stands in. -/
def longestPath : Nat := 4071

/-- Whether a text is short enough for a name. -/
def isName (name : String) : Bool := name.utf8ByteSize ≤ longestName

/-- Whether the segments of a path make one that can be asked for: it is not too long, and there is
no null character in it. Nothing stands at any other path, and nothing can be made there. -/
def admits (segments : List String) : Bool :=
  (Path.shown "" segments).utf8ByteSize ≤ longestPath && segments.all (!·.toList.contains '\x00')

/-- The place that a name leads to from a directory. -/
def enter (place : Place) (name : String) : Place :=
  if name = ".." then place.dropLast else place ++ [name]

/-- The place that names lead to, if each of them leads from a directory to something. -/
def locate? (s : Store) (names : List String) : Option Place :=
  names.foldlM (fun place name =>
    if s.isDirectory place && (s.node? (enter place name)).isSome then some (enter place name)
    else none) []

/-- The place that a path leads to. -/
def resolve? (s : Store) (path : String) : Option Place := do
  if !admits [path] then none
  let place ← s.locate? (Path.names path)
  if Path.isOfDirectory path && !s.isDirectory place then none else some place

/-- The bytes of the file at a path. -/
def bytes? (s : Store) (path : String) : Option ByteArray := do
  match s.node? (← s.resolve? path) with
  | some (.file bytes) => some bytes
  | _ => none

/-- The text of the file at a path, if it is UTF-8. -/
def text? (s : Store) (path : String) : Option String := (s.bytes? path).bind String.fromUTF8?

/-! ## Changes -/

/-- A store with something set at a place. -/
def put (s : Store) (place : Place) (node : Node) : Store :=
  { s with nodes := (place, node) :: s.nodes }

/-- The store with the directories that names lead through from a place, and whether all of them are
there; those before one that cannot be made are made still. -/
def makeAlong (s : Store) : Place → List String → Store × Bool
  | _, [] => (s, true)
  | place, name :: names =>
    match s.node? (enter place name) with
    | some .directory => s.makeAlong (enter place name) names
    | some (.file _) => (s, false)
    | none =>
      if isName name then
        (s.put (enter place name) .directory).makeAlong (enter place name) names
      else (s, false)

/-- The store with the directories that the segments of a path lead through, and whether all of them
are there. None is made on the way to a path that cannot be asked for. -/
def makeDirectories (s : Store) (segments : List String) : Store × Bool :=
  if admits segments then s.makeAlong [] (segments.filter (!Path.isIdle ·)) else (s, false)

/-- The store with the bytes of the file at a path set, if the directory of the file is there and the
path is not one of a directory. -/
def writeBytes? (s : Store) (path : String) (bytes : ByteArray) : Option Store := do
  if !admits [path] then none
  let names := Path.names path
  let name ← names.getLast?
  let place := enter (← s.locate? names.dropLast) name
  if Path.isOfDirectory path || s.isDirectory place || !isName name ||
      !s.isDirectory place.dropLast then none
  else some (s.put place (.file bytes))

end Store

/-! ## Files -/

/-- Something done with a store, which may fail and may change the store even so. -/
abbrev Access := ExceptT StoreError (StateM Store)

namespace Store

/-- Makes the directory at a path, with all directories on the way. -/
def makeDirectory (path : String) : Access Unit := do
  let (s, made) := (← get).makeDirectories (Path.segments path)
  set s
  unless made do throw (.noDirectory (Path.shown s.root [path]))

/-- Writes the bytes of a file and makes the directories on the way to it. -/
def writeFile (path : String) (bytes : ByteArray) : Access Unit := do
  let parent := Path.parent path
  let (s, made) := (← get).makeDirectories parent
  set s
  unless made do throw (.noDirectory (Path.shown s.root parent))
  let some s := s.writeBytes? path bytes | throw (.unwritable (Path.shown s.root [path]))
  set s

end Store

/-! ## Settings -/

namespace Settings

/-- The directory of the settings file. -/
def directory : String := "gridline"

/-- The path of the settings file. -/
def file : String := directory ++ "/grid.toml"

/-- The settings in a file. -/
def loadFrom (path : String) : Access Settings := do
  let s ← get
  let shown := Path.shown s.root [path]
  if (s.resolve? path).isNone then return {}
  let some text := s.text? path | throw (.unreadable shown)
  let some settings := ofToml? text | throw (.malformed shown)
  return settings

/-- The settings in the settings file. -/
def load : Access Settings := loadFrom file

/-- The settings in the settings file, or the defaults if there is anything wrong with it. -/
def loadOrDefault : Access Settings := tryCatch load fun _ => return {}

/-- Writes settings to a file. -/
def saveTo (path : String) (settings : Settings) : Access Unit :=
  Store.writeFile path settings.toToml.toUTF8

/-- Writes settings to the settings file. -/
def save : Settings → Access Unit := saveTo file

end Settings

end DataGrid

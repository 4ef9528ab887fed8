import DataGrid.Toml.Section
import DataGrid.Toml.Token

/-!
# Reading TOML

**`Toml.read?`** takes a TOML text apart into its lines (**`Statement`**) and builds up the tables
that they tell of. Values may nest and keys may have parts up to a limit.

The readers that call each other are given a number of steps, which `read?` sets so high that a text
ends before the steps do.
-/

namespace DataGrid.Toml

/-- How deep values may nest. -/
def nestingLimit : Nat := 79

/-- How many parts a key may have. -/
def keyLimit : Nat := 79

/-- What a line that is neither empty nor a comment says. -/
inductive Statement
  /-- A value under a key. -/
  | assign (key : List String) (d : Document)
  /-- The header of a table. -/
  | header (key : List String)
  /-- The header of an item of an array of tables. -/
  | itemHeader (key : List String)

/-- The names before the last one of a key, and the last one. -/
def splitKey (key : List String) : Option (List String × String) :=
  key.getLast?.map fun name => (key.dropLast, name)

/-! ## Values -/

/-- The table that the keys and values between braces make up. -/
def ofPairs? (pairs : List (List String × Document)) : Option Document :=
  (pairs.foldlM (fun t (key, d) => do
    let (path, name) ← splitKey key
    Section.assign path name d t) (Section.empty .header)).map Section.document

mutual

/-- A value in which others may nest so deep, and the text after it. -/
def readValue : Nat → Nat → List Char → Option (Document × List Char)
  | 0, _, _ => none
  | steps + 1, depth, s =>
    match s with
    | 't' :: 'r' :: 'u' :: 'e' :: s => some (.boolean true, s)
    | 'f' :: 'a' :: 'l' :: 's' :: 'e' :: s => some (.boolean false, s)
    | '"' :: _ | '\'' :: _ => (readString s).map fun (t, s) => (.text (String.ofList t), s)
    | '[' :: s =>
      if depth = 0 then none
      else do
        let s ← skipLines false s
        match s with
        | ']' :: s => return (.sequence [], s)
        | s =>
          let (items, s) ← readItems steps (depth - 1) s
          return (.sequence items, s)
    | '{' :: s =>
      if depth = 0 then none
      else
        match skipSpace s with
        | '}' :: s => some (.record [], s)
        | s => do
          let (pairs, s) ← readPairs steps (depth - 1) s
          let d ← ofPairs? pairs
          return (d, s)
    | s => (readMoment s).orElse fun _ => readNumber s

/-- The items of an array from one of them on, and the text after the closing bracket. There may be
a comma after the last item. -/
def readItems : Nat → Nat → List Char → Option (List Document × List Char)
  | 0, _, _ => none
  | steps + 1, depth, s => do
    let (d, s) ← readValue steps depth s
    let s ← skipLines false s
    match s with
    | ']' :: s => return ([d], s)
    | ',' :: s =>
      let s ← skipLines false s
      match s with
      | ']' :: s => return ([d], s)
      | s =>
        let (ds, s) ← readItems steps depth s
        return (d :: ds, s)
    | _ => none

/-- The keys and values between braces from one of them on, and the text after the closing brace.
There may be no comma after the last value. -/
def readPairs : Nat → Nat → List Char → Option (List (List String × Document) × List Char)
  | 0, _, _ => none
  | steps + 1, depth, s => do
    let (key, s) ← readKey keyLimit s
    let s ← skipChar '=' s
    let (d, s) ← readValue steps depth (skipSpace s)
    match skipSpace s with
    | '}' :: s => return ([(key, d)], s)
    | ',' :: s =>
      let (pairs, s) ← readPairs steps depth s
      return ((key, d) :: pairs, s)
    | _ => none

end

/-! ## Lines -/

/-- What a line says, and the text of the next line. -/
def readStatement (steps : Nat) (s : List Char) : Option (Statement × List Char) :=
  match s with
  | '[' :: '[' :: s => do
    let (key, s) ← readKey keyLimit s
    let s ← skipChar ']' s
    let s ← skipChar ']' s
    let s ← lineEnd? s
    return (.itemHeader key, s)
  | '[' :: s => do
    let (key, s) ← readKey keyLimit s
    let s ← skipChar ']' s
    let s ← lineEnd? s
    return (.header key, s)
  | s => do
    let (key, s) ← readKey keyLimit s
    let s ← skipChar '=' s
    let (d, s) ← readValue steps nestingLimit (skipSpace s)
    let s ← lineEnd? s
    return (.assign key d, s)

/-- Whether a line is empty or a comment from here on. -/
def isVoid : List Char → Bool
  | '#' :: _ | '\n' :: _ | '\r' :: _ => true
  | _ => false

/-- What the lines of a text say. -/
def readStatements : Nat → List Char → Option (List Statement)
  | 0, _ => none
  | steps + 1, s =>
    match skipSpace s with
    | [] => some []
    | s =>
      if isVoid s then (lineEnd? s).bind (readStatements steps)
      else do
        let (statement, s) ← readStatement steps s
        let statements ← readStatements steps s
        return statement :: statements

/-! ## Tables -/

/-- A text on the way of being read: all tables, and the key of the one that is open. -/
structure Progress where
  root : Section := .empty .header
  current : List String := []

/-- The state after a line. -/
def Progress.step (p : Progress) : Statement → Option Progress
  | .assign key d => do
    let (path, name) ← splitKey key
    let root ← p.root.alter .implied (·.assign path name d) p.current
    return { p with root }
  | .header key => do
    let (path, name) ← splitKey key
    let root ← p.root.open? path name
    return { root, current := key }
  | .itemHeader key => do
    let (path, name) ← splitKey key
    let root ← p.root.append path name
    return { root, current := key }

/-- The document that lines make up. -/
def assemble? (statements : List Statement) : Option Document :=
  (statements.foldlM Progress.step {}).map (·.root.document)

/-- The text after the mark of its byte order, if it has one. -/
def skipByteOrderMark : List Char → List Char
  | '\uFEFF' :: s => s
  | s => s

/-- The document that a TOML text stands for. -/
def read? (text : String) : Option Document :=
  let s := skipByteOrderMark text.toList
  (readStatements (2 * s.length + 2) s).bind assemble?

end DataGrid.Toml

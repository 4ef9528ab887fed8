import DataGrid.Text.Case

/-!
# Patterns with wildcards

A pattern covers a whole text: each wildcard in it stands for any run of characters, also for none,
and every other character stands for itself.

This is the meaning of a regular expression that is anchored at both ends, has `.*` for each wildcard and
has every other character escaped, so that none of them is special; the point stands for a line break
too, and where case does not count, characters are the same if their simple case foldings are. Which
characters are the same is left open here and comes from the filter (`ResolvedFilter.sameChar`). There
is no limit on the size of a pattern.

**`Like.covers`** decides this from the end of the pattern to its start. For what is left of the
pattern it keeps a list of verdicts, one for every end of the text: whether the rest of the pattern
covers that end. This takes time in proportion to the length of the pattern times that of the text,
however many wildcards there are.
-/

namespace DataGrid.Like

/-- The verdicts of the empty pattern: it covers the empty text alone. -/
def atEnd : List Char → List Bool
  | [] => [true]
  | _ :: s => false :: atEnd s

/-- The verdicts with a character in front of the pattern, which takes one character of the
text. -/
def throughChar (same : Char → Char → Bool) (p : Char) : List Char → List Bool → List Bool
  | [], _ => [false]
  | c :: s, verdicts =>
    (same p c && verdicts.tail.headD false) :: throughChar same p s verdicts.tail

/-- The verdicts with a wildcard in front of the pattern, which takes any run of the text. -/
def throughWildcard : List Bool → List Bool
  | [] => []
  | v :: verdicts =>
    let rest := throughWildcard verdicts
    (v || rest.headD false) :: rest

/-- The verdicts of a pattern on every end of a text, the whole text first. -/
def verdicts (same : Char → Char → Bool) (wildcard : Char) (text : List Char) :
    List Char → List Bool
  | [] => atEnd text
  | p :: ps =>
    let rest := verdicts same wildcard text ps
    if p = wildcard then throughWildcard rest else throughChar same p text rest

/-- Whether a pattern covers a text, given which characters count as the same. -/
def covers (same : Char → Char → Bool) (wildcard : Char) (pattern text : List Char) : Bool :=
  (verdicts same wildcard text pattern).headD false

end DataGrid.Like

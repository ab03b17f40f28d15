import ApiStencil.Text.Split

/-!
# Paths

Paths are texts whose segments slashes separate. Nothing is normalized: a path is joined and cut as
it is written.

## Main definitions

* `Path.join` - a path below another.
* `Path.parent?` - a path without its last segment.
* `Path.chain` - a path and the directories above it.
* `Path.isAbsolute` - whether a path starts at the root.
* `Path.segments` - the parts of a path between its slashes.
-/

namespace ApiStencil.Path

/-- Whether a path starts at the root. -/
def isAbsolute (path : String) : Bool := path.toList.head? = some '/'

/-- Whether a slash is needed after a path before anything can follow it. -/
def needsSlash (path : String) : Bool :=
  match path.toList.getLast? with
  | none => false
  | some c => c ≠ '/'

/-- A path below another. An absolute path stands for itself. -/
def join (base path : String) : String :=
  if isAbsolute path then path
  else if needsSlash base then base ++ "/" ++ path
  else base ++ path

/-- Whether a segment leads nowhere. -/
def isIdle (segment : List Char) : Bool := segment = [] || segment = ['.']

/-- What a path starts with before its segments: a slash, or the point of the current directory. -/
def splitStart (path : List Char) : List Char × List Char :=
  match path with
  | '/' :: rest => (['/'], rest)
  | ['.'] => (['.'], [])
  | '.' :: '/' :: rest => (['.'], '/' :: rest)
  | _ => ([], path)

/-- The path of the directory that a path lies in: the path without its last segment and without
idle segments around it. The root has none, and neither has the empty path. -/
def parentOf? (path : List Char) : Option (List Char) :=
  let (start, body) := splitStart path
  match Text.dropWhileEnd isIdle (body.splitOn '/') with
  | [] => if start = ['.'] then some [] else none
  | segment :: segments =>
    let outer := Text.dropWhileEnd isIdle (segment :: segments).dropLast
    some (start ++ ['/'].intercalate outer)

/-- The path of the directory that a path lies in. -/
def parent? (path : String) : Option String :=
  (parentOf? path.toList).map String.ofList

/-- A path and at most so many of the directories above it, from the path upwards. -/
def chainOf : Nat → String → List String
  | 0, path => [path]
  | steps + 1, path =>
    path :: match parent? path with
      | some parent => chainOf steps parent
      | none => []

/-- A path and all the directories above it, from the path upwards. Every one is shorter than the
one before. -/
def chain (path : String) : List String := chainOf path.length path

/-- The parts of a path between its slashes. -/
def segments (path : String) : List String :=
  (path.toList.splitOn '/').map String.ofList

/-- The segments of a path without the empty ones at its end. -/
def trimmedSegments (path : String) : List String :=
  Text.dropWhileEnd (· = "") (segments path)

/-- The path of some names, each in the directory before it. -/
def ofNames (names : List String) : String := "/".intercalate names

/-- Whether a path ends in a slash. -/
def endsInSlash (path : String) : Bool := path.toList.getLast? = some '/'

end ApiStencil.Path

import ApiStencil.Template.Expression
import ApiStencil.Text.Split

/-!
# Pieces of templates

A template is cut into texts and tags. A dash inside a tag removes the blanks of the text next to
it.

## Main definitions

* `pieces?` - the pieces of a template, if all its tags are well formed.
* `trim` - the pieces with the blanks next to dashes removed.
-/

namespace ApiStencil.Template

open Expression (mark name)

/-- The text after the end of a tag, and whether a dash stands before that end. -/
def closeTag (m : String) (s : List Char) : Option (Bool × List Char) :=
  match mark ("-" ++ m) s with
  | some rest => some (true, rest)
  | none => (mark m s).map fun rest => (false, rest)

/-- A text without a dash at its start, and whether there was one. -/
def openTag (s : List Char) : Bool × List Char :=
  match s with
  | '-' :: rest => (true, rest)
  | _ => (false, s)

/-- The names of a repetition: one for the values, or two for the keys and the values. -/
def loopNames (s : List Char) : Option (LoopNames × List Char) := do
  let (first, rest) ← name s
  match mark "," rest with
  | some rest =>
    let (second, rest) ← name rest
    return ({ key := some first, value := second }, rest)
  | none => return ({ value := first }, rest)

/-- The tag that starts with a word. -/
def tagOf (word : String) (s : List Char) : Option (Tag × List Char) :=
  if word = "if" then (Expression.read s).map fun (e, rest) => (.choice e, rest)
  else if word = "elif" then (Expression.read s).map fun (e, rest) => (.nextChoice e, rest)
  else if word = "else" then some (.otherwise, s)
  else if word = "endif" then some (.endChoice, s)
  else if word = "for" then do
    let (names, rest) ← loopNames s
    let (container, rest) ← Expression.readContainer (← Expression.word "in" rest)
    return (.loop names container, rest)
  else if word = "endfor" then some (.endLoop, s)
  else none

/-- A tag for a choice or a repetition, after its opening. -/
def blockTag (s : List Char) : Option (Piece × List Char) := do
  let (left, s) := openTag s
  let (word, rest) ← name s
  let (tag, rest) ← tagOf word rest
  let (right, rest) ← closeTag "%\x7d" rest
  return (.tag left right tag, rest)

/-- A tag for an output, after its opening. -/
def outputTag (s : List Char) : Option (Piece × List Char) := do
  let (left, s) := openTag s
  let (e, rest) ← Expression.read s
  let (right, rest) ← closeTag "\x7d\x7d" rest
  return (.tag left right (.output e), rest)

/-- The rest after the end of a comment, and whether a dash stands before that end. -/
def closeComment : List Char → Option (Bool × List Char)
  | [] => none
  | '-' :: '#' :: '\x7d' :: rest => some (true, rest)
  | '#' :: '\x7d' :: rest => some (false, rest)
  | _ :: rest => closeComment rest

/-- A comment, after its opening. -/
def commentTag (s : List Char) : Option (Piece × List Char) := do
  let (left, s) := openTag s
  let (right, rest) ← closeComment s
  return (.tag left right .comment, rest)

/-- The tag at the start of a text; nothing if no tag starts there. -/
def tagAt? (s : List Char) : Option (Option (Piece × List Char)) :=
  match s with
  | '\x7b' :: '%' :: rest => some (blockTag rest)
  | '\x7b' :: '\x7b' :: rest => some (outputTag rest)
  | '\x7b' :: '#' :: rest => some (commentTag rest)
  | _ => none

/-- Adds a character to the front of the first text. -/
def consChar (c : Char) : List Piece → List Piece
  | .text t :: more => .text (c :: t) :: more
  | more => .text [c] :: more

/-- The pieces of a text after `skip` more characters of a tag. -/
def piecesFrom : Nat → List Char → Option (List Piece)
  | _, [] => some []
  | skip + 1, _ :: rest => piecesFrom skip rest
  | 0, c :: rest =>
    match tagAt? (c :: rest) with
    | some (some (piece, after)) =>
      (piecesFrom (rest.length - after.length) rest).map (piece :: ·)
    | some none => none
    | none => (piecesFrom 0 rest).map (consChar c)

/-- The pieces of a template, if all its tags are well formed. -/
def pieces? (source : String) : Option (List Piece) := piecesFrom 0 source.toList

/-- Pieces without the comments at their start, which trim nothing. -/
def dropComments : List Piece → List Piece
  | .tag _ _ .comment :: more => dropComments more
  | more => more

/-- Whether the first piece is a tag that trims the text before it. -/
def trimsBefore : List Piece → Bool
  | .tag left _ _ :: _ => left
  | _ => false

/-- Pieces without the blanks next to dashes, where a tag before them may trim too. -/
def trimAfter : (trims : Bool) → List Piece → List Piece
  | _, [] => []
  | _, .tag left right tag :: more => .tag left right tag :: trimAfter right more
  | trims, .text t :: more =>
    let t := if trims then Text.trimStart t else t
    let t := if trimsBefore more then Text.trimEnd t else t
    .text t :: trimAfter false more

/-- Pieces without the blanks next to dashes. -/
def trim (pieces : List Piece) : List Piece :=
  trimAfter false (dropComments pieces)

end ApiStencil.Template

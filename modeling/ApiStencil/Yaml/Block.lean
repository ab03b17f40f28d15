import ApiStencil.Yaml.Chars

/-!
# Block scalars

A block scalar is a run of indented lines below its header. In a literal scalar the line breaks
stay; in a folded one a break between two lines that start with no blank counts as a space.

## Main definitions

* `Block.Header` - indentation and end as announced.
* `Block.Line` - a line with its break.
* `Block.scan` - the text of a block scalar, after its indicator.
-/

namespace ApiStencil.Yaml.Block

/-- What becomes of the line breaks at the end. -/
inductive Chomping where
  /-- No break stays. -/
  | strip
  /-- One break stays. -/
  | clip
  /-- Every break stays. -/
  | keep
  deriving DecidableEq, Repr

/-- What the header of a scalar announces. -/
structure Header where
  chomping : Chomping := .clip
  /-- The indentation below the surrounding block, zero if it is to be found out. -/
  increment : Nat := 0
  deriving DecidableEq, Repr

/-- The chomping that a character announces. -/
def chomping? (c : Char) : Option Chomping :=
  if c == '+' then some .keep else if c == '-' then some .strip else none

/-- The indentation that a character announces. -/
def increment? (c : Char) : Option Nat :=
  if c.isDigit then some (c.toNat - 0x30) else none

/-- The announcements of a header in either order, and the rest of its line. -/
def announcements (s : List Char) : Header × List Char :=
  match s with
  | c :: rest =>
    match chomping? c, increment? c with
    | some chomping, _ =>
      match rest.head?.bind increment? with
      | some increment => ({ chomping, increment }, rest.drop 1)
      | none => ({ chomping }, rest)
    | none, some increment =>
      match rest.head?.bind chomping? with
      | some chomping => ({ chomping, increment }, rest.drop 1)
      | none => ({ increment }, rest)
    | none, none => ({}, s)
  | [] => ({}, s)

/-- Whether a header announces an indentation of zero. -/
def announcesZero (s : List Char) : Bool :=
  match s with
  | '0' :: _ => true
  | c :: '0' :: _ => (chomping? c).isSome
  | _ => false

/-- A line and the break at its end, which the last line of a text lacks. -/
structure Line where
  text : List Char
  /-- What the break counts as. -/
  ending : List Char := []
  /-- How many characters the break has. -/
  width : Nat := 0
  deriving DecidableEq, Repr

/-- Adds a character to the front of the first line. -/
def consLine (c : Char) : List Line → List Line
  | [] => [{ text := [c] }]
  | line :: lines => { line with text := c :: line.text } :: lines

/-- The lines of a text. There is one after the last break too, which may be empty. -/
def lines : List Char → List Line
  | [] => [{ text := [] }]
  | '\r' :: '\n' :: rest => { text := [], ending := ['\n'], width := 2 } :: lines rest
  | c :: rest =>
    if isBreak c then { text := [], ending := [breakText c], width := 1 } :: lines rest
    else consLine c (lines rest)

/-- How many spaces a line starts with. -/
def spaces (line : List Char) : Nat := (line.takeWhile (· == ' ')).length

/-- Whether a line has nothing but its break after `indent` characters. -/
def Line.isBlank (line : Line) (indent : Nat) : Bool :=
  line.text.length ≤ indent && line.text.all (· == ' ') && line.width ≠ 0

/-- Whether a tab stands where the indentation of a line should be. -/
def Line.hasTab (line : Line) (indent : Nat) : Bool :=
  spaces line.text < indent && (line.text.drop (spaces line.text)).head? = some '\t'

/-- The indentation of a scalar without an announced one: that of the first line with other
characters than spaces, or of a longer line of spaces before it. A tab must not come before it. -/
def findIndent (least : Nat) : List Line → Except Unit Nat
  | [] => .ok least
  | line :: more =>
    let column := spaces line.text
    if column < line.text.length || line.width = 0 then
      if (line.text.drop column).head? = some '\t' then .error () else .ok (max least column)
    else findIndent (max least column) more

/-- The text of a scalar as far as it has been read. -/
structure Progress where
  text : List Char := []
  /-- The break after the last line with text. -/
  ending : List Char := []
  /-- The breaks of the blank lines after it. -/
  blanks : List Char := []
  /-- Whether the last line with text starts with a blank. -/
  indented : Bool := false
  /-- How many characters have been read. -/
  width : Nat := 0

/-- What stands for the breaks before a line. In a folded scalar they join two lines that start with
no blank. -/
def Progress.joint (p : Progress) (literal indented : Bool) : List Char :=
  -- A single break becomes a space; before blank lines it is dropped and theirs stay.
  if !literal && p.ending = ['\n'] && !p.indented && !indented then
    if p.blanks.isEmpty then [' '] else p.blanks
  else p.ending ++ p.blanks

/-- A scalar with one more line with text. -/
def Progress.addLine (p : Progress) (literal : Bool) (indent : Nat) (line : Line) : Progress :=
  let content := line.text.drop indent
  let indented := content.head?.any isSpacing
  { text := p.text ++ p.joint literal indented ++ content
    ending := line.ending
    blanks := []
    indented
    width := p.width + line.text.length + line.width }

/-- A scalar with one more blank line. -/
def Progress.addBlank (p : Progress) (line : Line) : Progress :=
  { p with
    blanks := p.blanks ++ line.ending
    width := p.width + line.text.length + line.width }

/-- Reads the lines of a scalar of a known indentation. -/
def readLines (literal : Bool) (indent : Nat) (p : Progress) : List Line → Except Unit Progress
  | [] => .ok p
  | line :: more =>
    if line.isBlank indent then readLines literal indent (p.addBlank line) more
    else if line.hasTab indent then .error ()
    else if spaces line.text < indent || line.text.length = indent then .ok p
    else readLines literal indent (p.addLine literal indent line) more

/-- The text of a scalar once all its lines are read. -/
def Progress.chomped (p : Progress) : Chomping → List Char
  | .strip => p.text
  | .clip => p.text ++ p.ending
  | .keep => p.text ++ p.ending ++ p.blanks

/-- The indentation of a scalar in a block of indentation `outer`, which is `-1` at the top. -/
def indentOf (outer : Int) (increment : Nat) (body : List Line) : Except Unit Nat :=
  if increment = 0 then findIndent (max (outer + 1) 1).toNat body
  else .ok ((max outer 0).toNat + increment)

/-- The text of the block scalar after its indicator, and what follows it. -/
def scan (literal : Bool) (outer : Int) (s : List Char) : Except Unit (List Char × List Char) := do
  if announcesZero s then throw ()
  let (header, rest) := announcements s
  let rest ← skipLineEnd rest
  let body := lines rest
  let indent ← indentOf outer header.increment body
  let progress ← readLines literal indent {} body
  return (progress.chomped header.chomping, rest.drop progress.width)

end ApiStencil.Yaml.Block

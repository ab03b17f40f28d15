import ApiStencil.Yaml.Chars

/-!
# Folding of lines

In plain and quoted scalars a line break counts as a space, and each further break as a line feed.
Blanks around breaks do not count.

## Main definitions

* `Gap` - the blanks and breaks between two words of a scalar.
* `Gap.text` - what a gap counts as.
-/

namespace ApiStencil.Yaml

/-- The blanks and breaks between two words of a scalar. -/
structure Gap where
  /-- The blanks, until a break comes. -/
  blanks : List Char := []
  /-- Whether a line has ended in the gap. -/
  folded : Bool := false
  /-- The break that ended it; nothing for a break that does not count. -/
  first : List Char := []
  /-- The breaks after that. -/
  more : List Char := []
  deriving DecidableEq, Repr

namespace Gap

/-- Whether nothing stands in the gap. -/
def isEmpty (gap : Gap) : Bool := gap.blanks.isEmpty && !gap.folded

/-- A gap with one more blank. After a break blanks do not count. -/
def addBlank (gap : Gap) (c : Char) : Gap :=
  if gap.folded then gap else { gap with blanks := gap.blanks ++ [c] }

/-- A gap with one more break. -/
def addBreak (gap : Gap) (c : Char) : Gap :=
  if gap.folded then { gap with more := gap.more ++ [breakText c] }
  else { folded := true, first := [breakText c] }

/-- What a gap counts as. -/
def text (gap : Gap) : List Char :=
  if gap.folded then
    if gap.first = ['\n'] then (if gap.more.isEmpty then [' '] else gap.more)
    else gap.first ++ gap.more
  else gap.blanks

end Gap

end ApiStencil.Yaml

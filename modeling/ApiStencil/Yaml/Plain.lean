import ApiStencil.Yaml.Folding

/-!
# Plain scalars

A plain scalar ends before a comment, a document marker, a line that is not indented enough, a colon
that ends a word and, in a flow collection, the marks of such collections.

## Main definitions

* `Plain.scan` - the text of the plain scalar at the start of a text.
-/

namespace ApiStencil.Yaml.Plain

/-- Where a plain scalar stands. -/
structure Setting where
  inFlow : Bool
  /-- The least column of its lines. -/
  indent : Nat

/-- The text of a scalar, what follows it, and whether it ends after a line break. -/
abbrev Outcome := Except Unit (List Char × List Char × Bool)

/-- Adds text in front of a scalar. -/
def prepend (text : List Char) : Outcome → Outcome
  | .ok (rest, after, broken) => .ok (text ++ rest, after, broken)
  | .error () => .error ()

/-- Whether a scalar cannot go on after a gap. -/
def endsAfterGap (setting : Setting) (column : Nat) (s : List Char) : Bool :=
  (!setting.inFlow && column < setting.indent) || (column = 0 && startsWithBoundary s) ||
    s.head? = some '#'

/-- Whether a character ends a scalar. -/
def endsBefore (setting : Setting) (c : Char) (rest : List Char) : Bool :=
  (c == ':' && endsWord rest) || (setting.inFlow && isFlowMark c)

/-- Whether a colon stands before a mark that leaves its meaning open. -/
def isAmbiguous (setting : Setting) (c : Char) (rest : List Char) : Bool :=
  setting.inFlow && c == ':' && rest.head?.any fun d => d == '?' || isFlowMark d

/-- The scalar after a gap, from a column on. -/
def scanFrom (setting : Setting) (gap : Gap) (column : Nat) : List Char → Outcome
  | [] => .ok ([], [], gap.folded)
  | '\r' :: '\n' :: rest => scanFrom setting (gap.addBreak '\n') 0 rest
  | c :: rest =>
    if isSpacing c then
      if gap.folded && column < setting.indent && c == '\t' then .error ()
      else scanFrom setting (gap.addBlank c) (column + 1) rest
    else if isBreak c then scanFrom setting (gap.addBreak c) 0 rest
    -- Markers, comments and margins count only at the start of a word.
    else if !gap.isEmpty && endsAfterGap setting column (c :: rest) then
      .ok ([], c :: rest, gap.folded)
    else if isAmbiguous setting c rest then .error ()
    else if endsBefore setting c rest then .ok ([], c :: rest, gap.folded)
    else prepend (gap.text ++ [c]) (scanFrom setting {} (column + 1) rest)

/-- The plain scalar at the start of a text. -/
def scan (setting : Setting) (column : Nat) (s : List Char) : Outcome :=
  scanFrom setting {} column s

end ApiStencil.Yaml.Plain

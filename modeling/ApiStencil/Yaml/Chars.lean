/-!
# Characters of YAML

The classes of characters that YAML text is scanned by. Where a text ends counts as blank.

## Main definitions

* `isBreak`, `isSpacing` - line breaks, and spaces and tabs.
* `endsWord` - whether a blank, a break or the end of the text comes next.
* `isAllowed` - the characters that a text may hold.
* `skipLineEnd` - passes over the end of a line.
-/

namespace ApiStencil.Yaml

/-- The characters that end a line. -/
def isBreak (c : Char) : Bool :=
  c == '\n' || c == '\r' || c == '\u0085' || c == '\u2028' || c == '\u2029'

/-- The characters that separate the words of a line. -/
def isSpacing (c : Char) : Bool := c == ' ' || c == '\t'

/-- Whether a character separates words. -/
def isWhite (c : Char) : Bool := isSpacing c || isBreak c

/-- Whether a blank, a break or the end of the text comes next. -/
def endsWord : List Char → Bool
  | [] => true
  | c :: _ => isWhite c

/-- The characters of names: letters, digits, underscores and dashes. -/
def isNameChar (c : Char) : Bool := c.isAlphanum || c == '_' || c == '-'

/-- The characters that start and end the collections of flow style, and the comma between their
members. -/
def isFlowMark (c : Char) : Bool :=
  c == ',' || c == '[' || c == ']' || c == '\x7b' || c == '\x7d'

/-- The characters that start a token other than plain text. -/
def isIndicator (c : Char) : Bool :=
  isFlowMark c ||
    ['-', '?', ':', '#', '&', '*', '!', '|', '>', '\'', '"', '%', '@', '\x60'].contains c

/-- The characters that a text may hold: no controls but tabs and line ends. -/
def isAllowed (c : Char) : Bool :=
  let n := c.toNat
  n == 0x9 || n == 0xA || n == 0xD || (0x20 ≤ n && n ≤ 0x7E) || n == 0x85 ||
    (0xA0 ≤ n && n ≤ 0xFFFD) || 0x10000 ≤ n

/-- The mark that may stand before all text. -/
def byteOrderMark : Char := '\ufeff'

/-- A line break as it counts in a scalar. The separators of lines and paragraphs stay, and any
other break becomes a line feed. -/
def breakText (c : Char) : Char :=
  if c == '\u2028' || c == '\u2029' then c else '\n'

/-- Whether a line consists of a word of three times the same character. -/
def startsWithMarker (mark : Char) (s : List Char) : Bool :=
  [mark, mark, mark].isPrefixOf s && endsWord (s.drop 3)

/-- Whether a line starts with the marker between documents. -/
def startsWithBoundary (s : List Char) : Bool :=
  startsWithMarker '-' s || startsWithMarker '.' s

/-- A text after the blanks and the comment at the end of a line, and after its break. Anything else
on the line is at fault. -/
def skipLineEnd (s : List Char) : Except Unit (List Char) :=
  let s := s.dropWhile isSpacing
  let s := if s.head? = some '#' then s.dropWhile (!isBreak ·) else s
  match s with
  | [] => .ok []
  | '\r' :: '\n' :: rest => .ok rest
  | c :: rest => if isBreak c then .ok rest else .error ()

end ApiStencil.Yaml

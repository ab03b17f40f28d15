/-!
# Splitting, trimming and replacing

Operations on the characters of a text that look for another text in it. Matches are taken from the
left and never overlap.

## Main definitions

* `splitText` - the parts of a text between the occurrences of a separator.
* `replaceText` - a text with every occurrence of one text replaced by another.
* `lines` - the lines of a text without their ends.
* `isBlank` - the characters that trimming removes.
-/

namespace ApiStencil.Text

/-- Adds a character to the front of the first part. -/
def consPart (c : Char) : List (List Char) → List (List Char)
  | [] => [[c]]
  | part :: parts => (c :: part) :: parts

/-- `splitText` after `skip` more characters of a separator that has been found. -/
def splitTextFrom (sep : List Char) : Nat → List Char → List (List Char)
  | _, [] => [[]]
  | skip + 1, _ :: s => splitTextFrom sep skip s
  | 0, c :: s =>
    if sep.isPrefixOf (c :: s) then [] :: splitTextFrom sep (sep.length - 1) s
    else consPart c (splitTextFrom sep 0 s)

/-- The parts of `s` between the occurrences of the non-empty text `sep`. -/
def splitText (sep s : List Char) : List (List Char) :=
  splitTextFrom sep 0 s

/-- `replaceText` after `skip` more characters of an occurrence that has been replaced. -/
def replaceTextFrom (old new : List Char) : Nat → List Char → List Char
  | _, [] => []
  | skip + 1, _ :: s => replaceTextFrom old new skip s
  | 0, c :: s =>
    if old.isPrefixOf (c :: s) then new ++ replaceTextFrom old new (old.length - 1) s
    else c :: replaceTextFrom old new 0 s

/-- `s` with every occurrence of `old` replaced by `new`. The empty text occurs before every
character and at the end. -/
def replaceText (old new s : List Char) : List Char :=
  if old.isEmpty then new ++ s.flatMap (fun c => c :: new) else replaceTextFrom old new 0 s

/-- `String` form of `replaceText`. -/
def replaceString (old new s : String) : String :=
  String.ofList (replaceText old.toList new.toList s.toList)

/-- A line without the carriage return that a line feed followed. -/
def stripReturn (line : List Char) : List Char :=
  match ['\r'].isSuffixOf? line with
  | some rest => rest
  | none => line

/-- The lines of a text split at its line feeds: each but the last loses a carriage return at its
end, and nothing stands for an empty rest after the last line feed. -/
def trimLines : List (List Char) → List (List Char)
  | [] => []
  | [rest] => if rest.isEmpty then [] else [rest]
  | line :: more => stripReturn line :: trimLines more

/-- The lines of a text. A line ends with a line feed, and a carriage return just before the line
feed belongs to the end. -/
def lines (s : List Char) : List (List Char) :=
  trimLines (s.splitOn '\n')

/-- The characters of the Unicode property White_Space. -/
def isBlank (c : Char) : Bool :=
  let n := c.toNat
  (0x9 ≤ n && n ≤ 0xD) || n == 0x20 || n == 0x85 || n == 0xA0 || n == 0x1680 ||
    (0x2000 ≤ n && n ≤ 0x200A) || n == 0x2028 || n == 0x2029 || n == 0x202F || n == 0x205F ||
    n == 0x3000

/-- A text without the blanks at its start. -/
def trimStart (s : List Char) : List Char :=
  s.dropWhile isBlank

/-- A list without the longest end of members that satisfy `p`. -/
def dropWhileEnd {α : Type} (p : α → Bool) (s : List α) : List α :=
  (s.reverse.dropWhile p).reverse

/-- A text without the blanks at its end. -/
def trimEnd (s : List Char) : List Char :=
  dropWhileEnd isBlank s

/-- A text without `ending`, or the text itself if it does not end so. -/
def dropEnding (ending s : List Char) : List Char :=
  (ending.isSuffixOf? s).getD s

end ApiStencil.Text

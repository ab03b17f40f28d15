import ApiStencil.Json.Basic
import ApiStencil.Yaml.Scalar
import ApiStencil.Yaml.Chars

/-!
# YAML text

The written form of a value in block style. A text is plain where that reads back as the same text;
several lines make a literal scalar, and what neither can show stands between quotes.

## Main definitions

* `Yaml.Printer.styleOf` - how a text is written.
* `Yaml.Printer.scalar` - the written form of a text.
* `Json.toYaml` - the written form of a value.
-/

namespace ApiStencil

namespace Yaml.Printer

/-- The characters that are shown as they are: no controls but line feeds, and no byte order
mark. -/
def isShown (c : Char) : Bool :=
  let n := c.toNat
  n == 0xA || (0x20 ≤ n && n ≤ 0x7E) || (0xA0 ≤ n && n ≤ 0xFFFD && c != byteOrderMark) ||
    0x10000 ≤ n

/-- Whether two neighbours in a text satisfy `p`. -/
def anyNeighbours (p : Char → Char → Bool) (s : List Char) : Bool :=
  (s.zip (s.drop 1)).any fun (a, b) => p a b

/-- Whether a space follows a break. -/
def hasIndentedLine (s : List Char) : Bool := anyNeighbours (fun a b => isBreak a && b == ' ') s

/-- Whether a break follows a space. -/
def hasBlankEnd (s : List Char) : Bool := anyNeighbours (fun a b => a == ' ' && isBreak b) s

/-- Whether a text ends in a space. -/
def endsInSpace (s : List Char) : Bool := s.getLast? = some ' '

/-- Whether a space or a break stands at an end of a text. -/
def hasOuterWhite (s : List Char) : Bool :=
  let isOuter (c : Char) := c == ' ' || isBreak c
  s.head?.any isOuter || s.getLast?.any isOuter

/-- Whether the start of a text would not be read as text. -/
def startsToken (s : List Char) : Bool :=
  match s with
  | [] => true
  | c :: rest =>
    ['-', '-', '-'].isPrefixOf s || ['.', '.', '.'].isPrefixOf s ||
      (if c == '-' || c == '?' || c == ':' then endsWord rest else isIndicator c)

/-- Whether the end of a key or the start of a comment stands in a text, after a character. -/
def hasToken (before : Char) : List Char → Bool
  | [] => false
  | c :: rest =>
    (c == ':' && endsWord rest) || (c == '#' && isWhite before) || hasToken c rest

/-- Whether a text can be written without quotes. -/
def canBePlain (s : List Char) : Bool :=
  s.all isShown && !s.any isBreak && !hasOuterWhite s && !startsToken s &&
    !hasToken (s.headD ' ') (s.drop 1)

/-- Whether a text can stand between single quotes. -/
def canBeSingleQuoted (s : List Char) : Bool :=
  s.all isShown && !hasIndentedLine s && !hasBlankEnd s

/-- Whether a text can be a literal scalar. -/
def canBeLiteral (s : List Char) : Bool :=
  s.all isShown && !hasBlankEnd s && !endsInSpace s

/-- Whether a plain text would be read as something other than text. -/
def looksTyped (s : String) : Bool :=
  guess s ≠ .text || isPaddedNumber s.toList

/-- How a text is written. -/
def styleOf (text : String) : Style :=
  let s := text.toList
  if s.contains '\n' then if canBeLiteral s then .literal else .doubleQuoted
  else if canBePlain s && !looksTyped text then .plain
  else if canBeSingleQuoted s then .singleQuoted
  else .doubleQuoted

/-- Spaces. -/
def indentation (indent : Nat) : List Char := List.replicate indent ' '

/-- A number in upper case hexadecimal digits of a width. -/
def hexCode (width n : Nat) : List Char :=
  let digits := (Text.hexDigits n).map Char.toUpper
  List.replicate (width - digits.length) '0' ++ digits

/-- The letter of a short escape. -/
def escapeLetter? (c : Char) : Option Char :=
  [('\x00', '0'), ('\x07', 'a'), ('\x08', 'b'), ('\t', 't'), ('\n', 'n'), ('\x0b', 'v'),
    ('\x0c', 'f'), ('\r', 'r'), ('\x1b', 'e'), ('"', '"'), ('\\', '\\'), ('\u0085', 'N'),
    ('\u00a0', '_'), ('\u2028', 'L'), ('\u2029', 'P')].lookup c

/-- The escape of a character. -/
def escape (c : Char) : List Char :=
  match escapeLetter? c with
  | some letter => ['\\', letter]
  | none =>
    let n := c.toNat
    if n ≤ 0xFF then ['\\', 'x'] ++ hexCode 2 n
    else if n ≤ 0xFFFF then ['\\', 'u'] ++ hexCode 4 n
    else ['\\', 'U'] ++ hexCode 8 n

/-- A character between double quotes. -/
def doubleQuotedChar (c : Char) : List Char :=
  if !isShown c || isBreak c || c == '"' || c == '\\' then escape c else [c]

/-- A text between single quotes, with the indentation of lines after a break. -/
def singleQuotedFrom (indent : Nat) (afterBreak : Bool) : List Char → List Char
  | [] => if afterBreak then indentation indent else []
  | c :: rest =>
    if isBreak c then c :: singleQuotedFrom indent true rest
    else
      (if afterBreak then indentation indent else []) ++
        (if c == '\'' then ['\'', '\''] else [c]) ++
        singleQuotedFrom indent false rest

/-- The lines of a literal scalar. Blank lines are not indented. -/
def literalFrom (indent : Nat) (afterBreak : Bool) : List Char → List Char
  | [] => if afterBreak then [] else ['\n']
  | c :: rest =>
    if isBreak c then c :: literalFrom indent true rest
    else (if afterBreak then indentation indent else []) ++ c :: literalFrom indent false rest

/-- The steps of indentation. -/
def step : Nat := 2

/-- What the header of a literal scalar says about indentation: something only if it cannot be seen
from the first line. -/
def indentMark (s : List Char) : List Char :=
  if s.head?.any fun c => c == ' ' || isBreak c then (toString step).toList else []

/-- What the header of a literal scalar says about the breaks at its end. -/
def chompingMark (s : List Char) : List Char :=
  match s.reverse with
  | [] => ['-']
  | [last] => if isBreak last then ['+'] else ['-']
  | last :: before :: _ =>
    if !isBreak last then ['-'] else if isBreak before then ['+'] else []

/-- The written form of a text in a block of some indentation, with the end of its last line. -/
def scalar (indent : Nat) (text : String) : List Char :=
  let s := text.toList
  match styleOf text with
  | .literal | .folded =>
    ['|'] ++ indentMark s ++ chompingMark s ++ ['\n'] ++ literalFrom (indent + step) true s
  | .singleQuoted => ['\''] ++ singleQuotedFrom (indent + step) false s ++ ['\'', '\n']
  | .doubleQuoted => ['"'] ++ s.flatMap doubleQuotedChar ++ ['"', '\n']
  | .plain => s ++ ['\n']

/-- The written form of a key. -/
def key (text : String) : List Char :=
  let s := text.toList
  if s.any isBreak then ['"'] ++ s.flatMap doubleQuotedChar ++ ['"'] else (scalar 0 text).dropLast

/-- The words of a value without members. -/
def simple? : Json → Option String
  | .null => some "null"
  | .flag value => some (if value then "true" else "false")
  | .number value => some value.text
  | .array [] => some "[]"
  | .object [] => some "\x7b\x7d"
  | _ => none

mutual

/-- A value after its key or its dash, in a block of some indentation. After a dash the members of
the value start on the same line. -/
def value (indent : Nat) (afterDash : Bool) : Json → List Char
  | .text text => (if afterDash then [] else [' ']) ++ scalar indent text
  | .array (first :: more) =>
    if afterDash then items (indent + step) true (first :: more)
    else '\n' :: items indent false (first :: more)
  | .object (first :: more) =>
    if afterDash then members (indent + step) true (first :: more)
    else '\n' :: members (indent + step) false (first :: more)
  | other =>
    (if afterDash then [] else [' ']) ++ ((simple? other).getD "").toList ++ ['\n']

/-- The items of an array. The dash of the first one may stand on a line that has begun. -/
def items (indent : Nat) (begun : Bool) : List Json → List Char
  | [] => []
  | item :: more =>
    (if begun then [] else indentation indent) ++ ['-', ' '] ++ value indent true item ++
      items indent false more

/-- The members of an object. The key of the first one may stand on a line that has begun. -/
def members (indent : Nat) (begun : Bool) : List (String × Json) → List Char
  | [] => []
  | (name, item) :: more =>
    (if begun then [] else indentation indent) ++ key name ++ [':'] ++ value indent false item ++
      members indent false more

end

end Yaml.Printer

/-- The written form of a value in YAML. -/
def Json.toYaml (value : Json) : String :=
  String.ofList <|
    match value with
    | .object (first :: more) => Yaml.Printer.members 0 true (first :: more)
    | .array (first :: more) => Yaml.Printer.items 0 true (first :: more)
    | other => Yaml.Printer.value 0 true other

end ApiStencil

import ApiStencil.Json.Basic
import ApiStencil.Text.Hex

/-!
# JSON text

The two written forms of a value: on one line without any space, and on one line for each item and
member, indented by two spaces.

## Main definitions

* `Json.escaped` - a text as a JSON string.
* `Json.compact` - a value on one line.
* `Json.pretty` - a value with indentation.
-/

namespace ApiStencil

namespace Json

/-- A code of at most four hexadecimal digits. -/
def fourDigits (n : Nat) : List Char :=
  let digits := Text.hexDigits n
  List.replicate (4 - digits.length) '0' ++ digits

/-- A character of a JSON string. Only the quote, the backslash and the controls below the space are
escaped. -/
def escapeChar (c : Char) : List Char :=
  if c == '"' then ['\\', '"']
  else if c == '\\' then ['\\', '\\']
  else if c == '\n' then ['\\', 'n']
  else if c == '\r' then ['\\', 'r']
  else if c == '\t' then ['\\', 't']
  else if c == '\x08' then ['\\', 'b']
  else if c == '\x0c' then ['\\', 'f']
  else if c.toNat < 0x20 then '\\' :: 'u' :: fourDigits c.toNat
  else [c]

/-- A text as a JSON string. -/
def escaped (s : String) : String :=
  String.ofList ('"' :: s.toList.flatMap escapeChar ++ ['"'])

mutual

/-- A value on one line. -/
def compact : Json → String
  | null => "null"
  | flag value => if value then "true" else "false"
  | number value => value.text
  | text value => escaped value
  | array items => "[" ++ ",".intercalate (compactItems items) ++ "]"
  | object members => "\x7b" ++ ",".intercalate (compactMembers members) ++ "\x7d"

/-- The items of an array, each on one line. -/
def compactItems : List Json → List String
  | [] => []
  | item :: items => item.compact :: compactItems items

/-- The members of an object, each on one line. -/
def compactMembers : List (String × Json) → List String
  | [] => []
  | (key, value) :: members => (escaped key ++ ":" ++ value.compact) :: compactMembers members

end

/-- A new line with the indentation of a depth. -/
def newline (depth : Nat) : String :=
  String.ofList ('\n' :: List.replicate (2 * depth) ' ')

/-- Parts between brackets, each on a line of its own. No parts leave the brackets together. -/
def bracketed (depth : Nat) (opening closing : String) (parts : List String) : String :=
  if parts.isEmpty then opening ++ closing
  else
    opening ++ newline (depth + 1) ++ ("," ++ newline (depth + 1)).intercalate parts ++
      newline depth ++ closing

mutual

/-- A value at a depth. -/
def prettyAt (depth : Nat) : Json → String
  | array items => bracketed depth "[" "]" (prettyItems (depth + 1) items)
  | object members => bracketed depth "\x7b" "\x7d" (prettyMembers (depth + 1) members)
  | null => "null"
  | flag value => if value then "true" else "false"
  | number value => value.text
  | text value => escaped value

/-- The items of an array at a depth. -/
def prettyItems (depth : Nat) : List Json → List String
  | [] => []
  | item :: items => item.prettyAt depth :: prettyItems depth items

/-- The members of an object at a depth. -/
def prettyMembers (depth : Nat) : List (String × Json) → List String
  | [] => []
  | (key, value) :: members =>
    (escaped key ++ ": " ++ value.prettyAt depth) :: prettyMembers depth members

end

/-- A value with indentation. -/
def pretty (value : Json) : String := value.prettyAt 0

end Json

end ApiStencil

import ApiStencil.Dict
import ApiStencil.Text.Split

/-!
# Documentation of enum cases

The description of an enum can document its cases, one on a line. A first line that ends in a bar is
the description that all cases share. Any other line with exactly one separator `" - "` documents
the literal before the separator, of which an optional list dash and two characters of a marker are
no part.

## Main definitions

* `EnumDescription` - the shared description and the texts of the cases.
* `EnumDescription.ofText` - reads a description.
-/

namespace ApiStencil

/-- What a description says about an enum and its cases. -/
structure EnumDescription where
  /-- The description that all cases share. -/
  shared : Option String := none
  /-- The texts by literal. -/
  cases : Dict String String := Dict.empty
  deriving DecidableEq

namespace EnumDescription

/-- What separates a literal from its text. -/
def separator : List Char := [' ', '-', ' ']

/-- The literal of a marked entry: without a list dash and without the two characters after it. -/
def literal (marked : List Char) : List Char :=
  ((['-', ' '].isPrefixOf? marked).getD marked).drop 2

/-- The literal and the text that a line documents. -/
def entryOf? (line : List Char) : Option (String × String) :=
  match Text.splitText separator line with
  | [marked, text] => some (String.ofList (literal marked), String.ofList text)
  | _ => none

/-- The shared description in a first line that ends in a bar: the line without its bars. -/
def shared? (line : List Char) : Option String :=
  if line.getLast? = some '|' then some (String.ofList (line.filter (· ≠ '|'))) else none

/-- Reads lines: the shared description, if the first line gives one, and the entries of the
others. -/
def ofLines : List (List Char) → EnumDescription
  | [] => {}
  | first :: rest =>
    match shared? first with
    | some text => { shared := some text, cases := Dict.ofList (rest.filterMap entryOf?) }
    | none => { cases := Dict.ofList ((first :: rest).filterMap entryOf?) }

/-- Reads a description. No description says nothing. -/
def ofText : Option String → EnumDescription
  | none => {}
  | some text => ofLines (Text.lines text.toList)

end EnumDescription

end ApiStencil

import ApiStencil.Decimal.Shortest
import ApiStencil.Decoding.Node
import ApiStencil.Text.Hex
import ApiStencil.Yaml.Token

/-!
# YAML scalars

A plain scalar without a tag has the type that its text looks like. A text field takes any scalar as
it is written, and only where something else is asked for does the type come into play.

## Main definitions

* `Yaml.Scalar` - a scalar with its style and tag.
* `Guess` - a value that a text looks like.
* `guess` - the value that a plain text looks like.
* `Scalar.value` - the value of a scalar.
-/

namespace ApiStencil.Yaml

/-- A scalar with its style and tag. -/
structure Scalar where
  text : String
  style : Style
  tag : Option String := none
  deriving DecidableEq, Repr

/-- What a text looks like. -/
inductive Guess where
  | nothing
  | flag (value : Bool)
  /-- A whole number of 64 bits. -/
  | integer (value : Int)
  /-- A whole number of 128 bits, with the name of its width. -/
  | wideInteger (value : Int) (width : String)
  /-- Any other number, in its shortest form. -/
  | decimal (text : String)
  | text
  deriving DecidableEq, Repr

/-- Whether a text stands for nothing. -/
def isNull (s : String) : Bool := ["null", "Null", "NULL", "~"].contains s

/-- The flag that a text stands for. -/
def flag? (s : String) : Option Bool :=
  if ["true", "True", "TRUE"].contains s then some true
  else if ["false", "False", "FALSE"].contains s then some false
  else none

/-- Digits after a zero, with or without a sign. They are no number. -/
def isPaddedNumber (s : List Char) : Bool :=
  let digits := match s with
    | '-' :: rest | '+' :: rest => rest
    | _ => s
  match digits with
  | '0' :: rest => !rest.isEmpty && rest.all Char.isDigit
  | _ => false

/-- The number of one or more digits in a base. -/
def natOfDigits? (base : Nat) (digits : List Char) : Option Nat := do
  if digits.isEmpty then none
  else
    let values ← digits.mapM Text.hexValue?
    if values.all (· < base) then some (values.foldl (fun n d => base * n + d) 0) else none

/-- The number of digits with the mark of their base in front, decimal without one. -/
def nat? (s : List Char) : Option Nat :=
  match s with
  | '0' :: 'x' :: rest => natOfDigits? 16 rest
  | '0' :: 'o' :: rest => natOfDigits? 8 rest
  | '0' :: 'b' :: rest => natOfDigits? 2 rest
  | _ => if isPaddedNumber s then none else natOfDigits? 10 s

/-- A whole number with an optional sign. -/
def int? (s : List Char) : Option Int :=
  match s with
  | '+' :: rest => (nat? rest).map Int.ofNat
  | '-' :: rest => (nat? rest).map fun n => -n
  | _ => (nat? s).map Int.ofNat

/-- A decimal number: its digits without the point, and the exponent of the last of them. -/
structure DecimalText where
  digits : List Char
  exponent : Int

/-- The exponent at the end of a decimal number. -/
def exponent? (s : List Char) : Option Int :=
  match s with
  | [] => some 0
  | c :: rest =>
    if c == 'e' || c == 'E' then
      match rest with
      | '-' :: digits => if digits.all Char.isDigit then (natOfDigits? 10 digits).map (-·) else none
      | '+' :: digits | digits =>
        if digits.all Char.isDigit then (natOfDigits? 10 digits).map Int.ofNat else none
    else none

/-- A decimal number without a sign. There are digits before or after the point. -/
def decimalText? (s : List Char) : Option DecimalText := do
  let whole := s.takeWhile Char.isDigit
  let rest := s.dropWhile Char.isDigit
  let (fraction, rest) := match rest with
    | '.' :: rest => (rest.takeWhile Char.isDigit, rest.dropWhile Char.isDigit)
    | _ => ([], rest)
  if whole.isEmpty && fraction.isEmpty then none
  else
    let exponent ← exponent? rest
    some { digits := whole ++ fraction, exponent := exponent - fraction.length }

/-- The finite double that a text without a plus sign is. -/
def double? (s : List Char) : Option Double := do
  let (negative, s) := match s with
    | '-' :: rest => (true, rest)
    | _ => (false, s)
  let parts ← decimalText? s
  let x ← Double.ofDecimal? ((natOfDigits? 10 parts.digits).getD 0) parts.exponent
  return { x with negative }

/-- The text of a number with a fraction or an exponent, or of an infinite one. -/
def decimal? (s : String) : Option String :=
  if [".inf", ".Inf", ".INF", "+.inf", "+.Inf", "+.INF"].contains s then some "inf"
  else if ["-.inf", "-.Inf", "-.INF"].contains s then some "-inf"
  else if [".nan", ".NaN", ".NAN"].contains s then some "NaN"
  else
    match s.toList with
    | '+' :: '-' :: _ => none
    | '+' :: rest => (double? rest).map (·.positional)
    | rest => (double? rest).map (·.positional)

/-- The value of a whole number by its size, if it has at most 128 bits. -/
def guessInt? (n : Int) : Option Guess :=
  if -0x8000000000000000 ≤ n ∧ n < 0x10000000000000000 then some (.integer n)
  else if 0 ≤ n ∧ n < 0x100000000000000000000000000000000 then some (.wideInteger n "u128")
  else if -0x80000000000000000000000000000000 ≤ n ∧ n < 0 then some (.wideInteger n "i128")
  else none

/-- What a plain text looks like. -/
def guess (s : String) : Guess :=
  if s.isEmpty || isNull s then .nothing
  else
    match flag? s with
    | some value => .flag value
    | none =>
      match (int? s.toList).bind guessInt? with
      | some value => value
      | none =>
        if isPaddedNumber s.toList then .text
        else
          match decimal? s with
          | some text => .decimal text
          | none => .text

/-- What a guess is in a message. -/
def Guess.found (s : String) : Guess → Found
  | nothing => .nothing "unit value"
  | flag value => .flag value
  | integer value => .integer value
  | wideInteger value width => .wideInteger value width
  | decimal digits => .decimal digits
  | text => .text s

namespace Scalar

/-- A tag of the core types. -/
def coreTag (name : String) : String := "tag:yaml.org,2002:" ++ name

/-- Whether a tag belongs to the document alone. -/
def isLocal (tag : String) : Bool := "!".isPrefixOf tag

/-- A value that a tag asks for. -/
def require (s : Scalar) (expected : String) (value : Option Guess) : Except Complaint Guess :=
  match value with
  | some value => .ok value
  | none => .error (.wrongValue (.text s.text) expected)

/-- The value of a scalar: what a core tag asks for, what a plain scalar looks like, and a text in
all other cases. -/
def value (s : Scalar) : Except Complaint Guess :=
  match s.tag with
  | none => .ok (if s.style = .plain then guess s.text else .text)
  | some tag =>
    if tag = coreTag "bool" then s.require "a boolean" ((flag? s.text).map .flag)
    else if tag = coreTag "int" then
      s.require "an integer" ((int? s.text.toList).bind guessInt?)
    else if tag = coreTag "float" then s.require "a float" ((decimal? s.text).map .decimal)
    else if tag = coreTag "null" then
      s.require "null" (if isNull s.text then some .nothing else none)
    else if isLocal tag ∧ s.style = .plain then .ok (guess s.text)
    else .ok .text

/-- Whether a scalar stands for an absent value. Only a plain one does. -/
def presence (s : Scalar) : Presence :=
  if s.style ≠ .plain then .present
  else
    match s.tag with
    | none => if s.text.isEmpty || isNull s.text then .absent else .present
    | some tag =>
      if tag ≠ coreTag "null" then .present
      else if isNull s.text then .absent
      else .contradictory (.wrongValue (.text s.text) "null")

/-- The flag of a flag field: a plain text or a literal with the tag of flags. -/
def flagField? (s : Scalar) : Option Bool :=
  if s.style = .plain ∨ (s.style = .literal ∧ s.tag = some (coreTag "bool")) then flag? s.text
  else none

/-- The complaint about a scalar where something else is expected. -/
def reject (s : Scalar) (expected : String) : Complaint :=
  match s.value with
  | .ok value => .wrongType (value.found s.text) expected
  | .error complaint => complaint

/-- What a scalar is where it may be anything. A tag of the document alone asks for a choice, which
nothing offers. -/
def free (s : Scalar) : FreeScalar :=
  if s.tag.any isLocal then .flawed
  else
    match s.value with
    | .error complaint => .refused complaint
    | .ok .text => .text s.text
    | .ok (.integer (.ofNat n)) => .natural n
    | .ok (.wideInteger n width) => .refused (.wrongType (.wideInteger n width) "any value")
    | .ok _ => .other

instance : ScalarForm Scalar where
  text? s := some s.text
  flag? := flagField?
  presence := presence
  standsForEmpty s := s.style = .plain && s.text.isEmpty
  reject s expected := some (s.reject expected)
  free := free
  isForeignTag := isLocal
  keyText s := s.text
  recordsAsSequences := false

end Scalar

end ApiStencil.Yaml

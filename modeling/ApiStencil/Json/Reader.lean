import ApiStencil.Decoding.Reader
import ApiStencil.Json.Scalar
import ApiStencil.Text.Hex

/-!
# Reading JSON

The tree of a text in JSON, and typed values read from it. A text that is not well formed has a tree
that is cut at its first fault.

## Main definitions

* `Json.Grammar.value` - reads the tree at the start of a text.
* `Json.read?` - the value of a text.
* `Json.decode` - a typed value from the text of a file.
* `Json.decodeValue` - a typed value from a value.
-/

namespace ApiStencil

namespace Json.Grammar

/-- The rest of a text after the part that has been read; nothing if that part is at fault. -/
abbrev Rest := Option (List Char)

/-- Whether a character may stand between the parts of a text. -/
def isSpace (c : Char) : Bool := c == ' ' || c == '\n' || c == '\t' || c == '\r'

/-- A text without the space at its start. -/
def skipSpace (s : List Char) : List Char := s.dropWhile isSpace

/-- A unit of a string: a character, or the code of a numeric escape. -/
abbrev StringUnit := Char ⊕ Nat

/-- The character that a short escape stands for. -/
def shortEscape? (c : Char) : Option Char :=
  if c == '"' ∨ c == '\\' ∨ c == '/' then some c
  else if c == 'b' then some '\x08'
  else if c == 'f' then some '\x0c'
  else if c == 'n' then some '\n'
  else if c == 'r' then some '\r'
  else if c == 't' then some '\t'
  else none

/-- The units of a string up to its closing quote. -/
def units : List Char → Option (List StringUnit × List Char)
  | [] => none
  | '"' :: rest => some ([], rest)
  | '\\' :: 'u' :: a :: b :: c :: d :: rest => do
    let code ← Text.hexNumber? [a, b, c, d]
    let (more, rest) ← units rest
    return (.inr code :: more, rest)
  | '\\' :: c :: rest => do
    let value ← shortEscape? c
    let (more, rest) ← units rest
    return (.inl value :: more, rest)
  | c :: rest =>
    if c.toNat < 0x20 then none
    else do
      let (more, rest) ← units rest
      return (.inl c :: more, rest)

/-- The text of some units. The two halves of a surrogate pair must follow one another. -/
def joinUnits : List StringUnit → Option (List Char)
  | [] => some []
  | .inl c :: more => (joinUnits more).map (c :: ·)
  | .inr high :: .inr low :: more =>
    -- The first half of a pair must meet the second, and the second never stands alone.
    if 0xD800 ≤ high ∧ high < 0xDC00 then
      if 0xDC00 ≤ low ∧ low < 0xE000 then
        (joinUnits more).map (Char.ofNat (0x10000 + (high - 0xD800) * 0x400 + (low - 0xDC00)) :: ·)
      else none
    else if 0xDC00 ≤ high ∧ high < 0xE000 then none
    else (joinUnits (.inr low :: more)).map (Char.ofNat high :: ·)
  | .inr code :: more =>
    if 0xD800 ≤ code ∧ code < 0xE000 then none
    else (joinUnits more).map (Char.ofNat code :: ·)

/-- A string after its opening quote. -/
def string (s : List Char) : Option (Scalar × List Char) := do
  let (parts, rest) ← units s
  match joinUnits parts with
  | some value => return (.text (String.ofList value), rest)
  | none => return (.flawed, rest)

/-- The number of some decimal digits. -/
def natOfDigits (digits : List Char) : Nat :=
  digits.foldl (fun n c => 10 * n + (c.toNat - 0x30)) 0

/-- The parts of a number. -/
structure NumberText where
  negative : Bool
  whole : List Char
  fraction : Option (List Char)
  exponent : Option Int

/-- The digits of a fraction, which has at least one. -/
def fraction (s : List Char) : Option (Option (List Char) × List Char) :=
  match s with
  | '.' :: rest =>
    let digits := rest.takeWhile Char.isDigit
    if digits.isEmpty then none else some (some digits, rest.dropWhile Char.isDigit)
  | _ => some (none, s)

/-- The digits of an exponent, which has at least one. -/
def exponentDigits (s : List Char) : Option (Int × List Char) :=
  let digits := s.takeWhile Char.isDigit
  if digits.isEmpty then none else some (natOfDigits digits, s.dropWhile Char.isDigit)

/-- An exponent with its sign. -/
def exponent (s : List Char) : Option (Option Int × List Char) :=
  match s with
  | 'e' :: '-' :: rest | 'E' :: '-' :: rest =>
    (exponentDigits rest).map fun (value, rest) => (some (-value), rest)
  | 'e' :: '+' :: rest | 'E' :: '+' :: rest | 'e' :: rest | 'E' :: rest =>
    (exponentDigits rest).map fun (value, rest) => (some value, rest)
  | _ => some (none, s)

/-- The parts of a number. A whole part of several digits does not start with a zero. -/
def numberText (s : List Char) : Option (NumberText × List Char) := do
  let (negative, s) := match s with
    | '-' :: rest => (true, rest)
    | _ => (false, s)
  let whole := s.takeWhile Char.isDigit
  if whole.isEmpty ∨ (whole.length > 1 ∧ whole.head? = some '0') then none
  else
    let (fraction, s) ← fraction (s.dropWhile Char.isDigit)
    let (exponent, s) ← exponent s
    return ({ negative, whole, fraction, exponent }, s)

/-- The longest start of some digits whose number fits 64 bits, as a number, and how many digits
follow it. -/
def fitDigits : Nat → List Char → Nat × Nat
  | n, [] => (n, 0)
  | n, c :: rest =>
    let next := 10 * n + (c.toNat - 0x30)
    if next < 0x10000000000000000 then fitDigits next rest else (n, rest.length + 1)

/-- A double from the parts of a number: the leading digits that fit 64 bits, scaled by a power of
ten. An exponent of more than 31 bits counts as infinite. -/
def doubleOf? (n : NumberText) : Option Double := do
  let fraction := n.fraction.getD []
  let (significand, dropped) := fitDigits 0 (n.whole ++ fraction)
  let exponent := n.exponent.getD 0
  let scaled ←
    if exponent < -0x7FFFFFFF ∨ (0x7FFFFFFF < exponent ∧ significand = 0) then some {}
    else if 0x7FFFFFFF < exponent then none
    else Double.scaleByTen? significand (exponent + (dropped : Int) - fraction.length)
  return { scaled with negative := n.negative }

/-- The value of a number. A negative zero is a double. -/
def numberOf? (n : NumberText) : Option Number :=
  let value := natOfDigits n.whole
  if n.fraction = none ∧ n.exponent = none ∧ !n.negative ∧ value < 0x10000000000000000 then
    some (.whole value)
  else if n.fraction = none ∧ n.exponent = none ∧ n.negative ∧ 0 < value ∧
      value ≤ 0x8000000000000000 then
    some (.whole (-value))
  -- Whole numbers of more than 64 bits are doubles, as all others are.
  else (doubleOf? n).map .double

/-- A number. -/
def number (s : List Char) : Option (Scalar × List Char) := do
  let (parts, rest) ← numberText s
  match numberOf? parts with
  | some value => return (.number value, rest)
  | none => return (.flawed, rest)

/-- A scalar at the start of a text. -/
def scalar (s : List Char) : Option (Scalar × List Char) :=
  match s with
  | '"' :: rest => string rest
  | 'n' :: 'u' :: 'l' :: 'l' :: rest => some (.null, rest)
  | 't' :: 'r' :: 'u' :: 'e' :: rest => some (.flag true, rest)
  | 'f' :: 'a' :: 'l' :: 's' :: 'e' :: rest => some (.flag false, rest)
  | _ => number s

/-- A text after the comma that stands before every part but the first. -/
def separated (first : Bool) (s : List Char) : Option (List Char) :=
  match first, s with
  | true, _ => some s
  | false, ',' :: rest => some (skipSpace rest)
  | false, _ => none

/-- The key at the start of a text. -/
def key (s : List Char) : Option (Scalar × List Char) :=
  match s with
  | '"' :: rest => string rest
  | _ => none

mutual

/-- The tree of the value at the start of a text, read in at most so many steps, and the rest after
it. -/
def value : Nat → List Char → Node Scalar × Rest
  | 0, _ => (.cut, none)
  | steps + 1, s =>
    match skipSpace s with
    | '[' :: rest =>
      let (nodes, rest) := items steps true rest
      (.sequence none nodes, rest)
    | '\x7b' :: rest =>
      let (entries, rest) := members steps true rest
      (.mapping none entries, rest)
    | s =>
      match scalar s with
      | some (value, rest) => (.scalar value, some rest)
      | none => (.cut, none)

/-- The items of an array up to its closing bracket. -/
def items : Nat → Bool → List Char → List (Node Scalar) × Rest
  | 0, _, _ => ([.cut], none)
  | steps + 1, first, s =>
    match skipSpace s with
    | ']' :: rest => ([], some rest)
    | s =>
      match separated first s with
      | none => ([.cut], none)
      | some rest =>
        match value steps rest with
        | (node, none) => ([node], none)
        | (node, some rest) =>
          let (nodes, rest) := items steps false rest
          (node :: nodes, rest)

/-- The members of an object up to its closing brace. -/
def members : Nat → Bool → List Char → List (Node Scalar × Node Scalar) × Rest
  | 0, _, _ => ([(.cut, .cut)], none)
  | steps + 1, first, s =>
    match skipSpace s with
    | '\x7d' :: rest => ([], some rest)
    | s =>
      match (separated first s).bind key with
      | none => ([(.cut, .cut)], none)
      | some (key, rest) =>
        match skipSpace rest with
        | ':' :: rest =>
          match value steps rest with
          | (node, none) => ([(.scalar key, node)], none)
          | (node, some rest) =>
            let (entries, rest) := members steps false rest
            ((.scalar key, node) :: entries, rest)
        | _ => ([(.scalar key, .cut)], none)

end

/-- The tree of a text, and what follows it. Every two steps take a character at least. -/
def tree (text : String) : Node Scalar × Rest :=
  let s := text.toList
  value (2 * s.length + 2) s

/-- Whether nothing but space is left. -/
def isDone (rest : Rest) : Bool :=
  rest.any fun s => (skipSpace s).isEmpty

end Json.Grammar

namespace Json

/-- The value of a text. -/
def read? (text : String) : Option Json :=
  let (node, rest) := Grammar.tree text
  if Grammar.isDone rest then ofNode? node else none

/-- A fault of a typed reading. Where it stands is no part of it. -/
def unplaced : ReadFault → ReadFault
  | .malformed => .malformed
  | .mismatch _ complaint => .mismatch [] complaint

/-- The answer of a typed reading, which has no aliases to count. -/
def answer {α : Type} (reading : Reading α) : Except ReadFault α :=
  match reading.run 0 with
  | .ok (value, _) => .ok value
  | .error fault => .error (unplaced fault)

/-- Reads a typed value from a text. What follows the value counts only when the value is
right. -/
def decode {α : Type} (read : Reader Scalar α) (text : String) : Except ReadFault α := do
  let (node, rest) := Grammar.tree text
  let value ← answer (read {} node)
  if Grammar.isDone rest then return value else throw .malformed

/-- Reads a typed value from a value. -/
def decodeValue {α : Type} (read : Reader Scalar α) (value : Json) :
    Except ReadFault α :=
  answer (read {} value.toNode)

end Json

end ApiStencil

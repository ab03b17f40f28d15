import ApiStencil.Reference
import ApiStencil.Yaml.Chars
import ApiStencil.Yaml.Token

/-!
# Anchors, tags and directives

The tokens that say something about a node or about a whole document.

## Main definitions

* `Tag.scanName` - the name of an anchor or alias.
* `Tag.scan` - a tag.
* `Tag.scanDirective` - a line that starts with a percent sign.
-/

namespace ApiStencil.Yaml.Tag

/-- Whether an anchor or alias may end before a text. -/
def endsName (s : List Char) : Bool :=
  endsWord s || s.head?.any (['?', ':', ',', ']', '\x7d', '%', '@', '\x60'].contains ·)

/-- The name of an anchor or alias, after its indicator. -/
def scanName (s : List Char) : Except Unit (String × List Char) :=
  let name := s.takeWhile isNameChar
  let rest := s.dropWhile isNameChar
  if name.isEmpty || !endsName rest then .error () else .ok (String.ofList name, rest)

/-- The characters that an address may hold. Between angle brackets that includes some marks of flow
collections. -/
def isAddressChar (bracketed : Bool) (c : Char) : Bool :=
  isNameChar c ||
    [';', '/', '?', ':', '@', '&', '=', '+', '$', '.', '%', '!', '~', '*', '\'', '(', ')'].contains
      c ||
    (bracketed && (c == ',' || c == '[' || c == ']'))

/-- Whether every percent sign starts a triplet, after `skip` more characters of one. -/
def hasOnlyTriplets : Nat → List Char → Bool
  | _, [] => true
  | skip + 1, _ :: rest => hasOnlyTriplets skip rest
  | 0, c :: rest =>
    if c == '%' then
      2 ≤ rest.length && (rest.take 2).all (fun d => (Text.hexValue? d).isSome) &&
        hasOnlyTriplets 2 rest
    else hasOnlyTriplets 0 rest

/-- The text of an address, in which triplets stand for the bytes of characters. -/
def decodeAddress (raw : List Char) : Except Unit (List Char) :=
  let text := Text.decodeLossy (Reference.percentDecode (Text.encodeText raw))
  if hasOnlyTriplets 0 raw && !text.contains Text.replacement then .ok text else .error ()

/-- The address at the start of a text, which may be empty. -/
def scanAddress (bracketed : Bool) (s : List Char) : Except Unit (List Char × List Char) := do
  let text ← decodeAddress (s.takeWhile (isAddressChar bracketed))
  return (text, s.dropWhile (isAddressChar bracketed))

/-- The address at the start of a text. -/
def scanSomeAddress (bracketed : Bool) (s : List Char) : Except Unit (List Char × List Char) := do
  let (text, rest) ← scanAddress bracketed s
  if text.isEmpty then throw ()
  return (text, rest)

/-- The handle of a tag after its exclamation mark: a name, and whether a second exclamation mark
closes it. -/
def scanHandle (s : List Char) : List Char × Bool × List Char :=
  let name := s.takeWhile isNameChar
  match s.dropWhile isNameChar with
  | '!' :: rest => (name, true, rest)
  | rest => (name, false, rest)

/-- A closed handle as a text. -/
def handleText (name : List Char) : String := String.ofList (['!'] ++ name ++ ['!'])

/-- A tag between angle brackets, after the first of them. -/
def scanVerbatim (s : List Char) : Except Unit (Token × List Char) := do
  let (text, rest) ← scanSomeAddress true s
  match rest with
  | '>' :: rest => return (.tag "" (String.ofList text), rest)
  | _ => throw ()

/-- A tag with a handle, after the exclamation mark. A name that nothing closes belongs to the rest
of the tag, and an exclamation mark alone is a tag of its own. -/
def scanShorthand (s : List Char) : Except Unit (Token × List Char) := do
  match scanHandle s with
  | (name, true, rest) =>
    let (text, rest) ← scanSomeAddress false rest
    return (.tag (handleText name) (String.ofList text), rest)
  | (name, false, rest) =>
    let (text, rest) ← scanAddress false rest
    let text := name ++ text
    if text.isEmpty then return (.tag "" "!", rest)
    else return (.tag "!" (String.ofList text), rest)

/-- The tag after an exclamation mark. A blank ends it or, in a flow collection, a comma. -/
def scan (inFlow : Bool) (s : List Char) : Except Unit (Token × List Char) := do
  let (token, rest) ←
    match s with
    | '<' :: rest => scanVerbatim rest
    | _ => scanShorthand s
  if endsWord rest || (inFlow && rest.head? = some ',') then return (token, rest) else throw ()

/-- The decimal number at the start of a text, of at most nine digits. -/
def scanNumber (s : List Char) : Except Unit (Nat × List Char) :=
  let digits := s.takeWhile Char.isDigit
  if digits.isEmpty || 9 < digits.length then .error ()
  else .ok (digits.foldl (fun n c => 10 * n + (c.toNat - 0x30)) 0, s.dropWhile Char.isDigit)

/-- The version in a directive. -/
def scanVersion (s : List Char) : Except Unit (Token × List Char) := do
  let (major, rest) ← scanNumber (s.dropWhile isSpacing)
  match rest with
  | '.' :: rest =>
    let (minor, rest) ← scanNumber rest
    return (.version major minor, rest)
  | _ => throw ()

/-- The handle that a directive defines. -/
def scanDefinedHandle (s : List Char) : Except Unit (String × List Char) :=
  match s with
  | '!' :: rest =>
    match scanHandle rest with
    | (name, true, rest) => .ok (handleText name, rest)
    | ([], false, rest) => .ok ("!", rest)
    | _ => .error ()
  | _ => .error ()

/-- The handle and the start of its tags in a directive. -/
def scanTagDirective (s : List Char) : Except Unit (Token × List Char) := do
  let (handle, rest) ← scanDefinedHandle (s.dropWhile isSpacing)
  if !rest.head?.any isSpacing then throw ()
  let (start, rest) ← scanSomeAddress true (rest.dropWhile isSpacing)
  if endsWord rest then return (.tagHandle handle (String.ofList start), rest) else throw ()

/-- The directive after a percent sign, with its line break. -/
def scanDirective (s : List Char) : Except Unit (Token × List Char) := do
  let name := s.takeWhile isNameChar
  let rest := s.dropWhile isNameChar
  if !endsWord rest then throw ()
  let (token, rest) ←
    if name = ['Y', 'A', 'M', 'L'] then scanVersion rest
    else if name = ['T', 'A', 'G'] then scanTagDirective rest
    else throw ()
  return (token, ← skipLineEnd rest)

end ApiStencil.Yaml.Tag

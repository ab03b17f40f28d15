import ApiStencil.Document.Basic
import ApiStencil.Text.Hex
import ApiStencil.Text.Split
import ApiStencil.Text.Utf8

/-!
# References

A reference names a schema by its last segment, in which slashes, tildes and percent signs stand
for other characters. What comes before that segment is not looked at.

## Main definitions

* `refName` - the schema name that a reference ends in.
* `Components.lookup` - the schema of a name.
-/

namespace ApiStencil

namespace Reference

/-- The part after the last slash. -/
def lastSegment (reference : List Char) : List Char :=
  (reference.splitOn '/').getLast?.getD []

/-- The byte that the two hexadecimal digits at the start give. -/
def triplet? : List UInt8 → Option UInt8
  | high :: low :: _ =>
    (Text.hexNumber? [Char.ofNat high.toNat, Char.ofNat low.toNat]).map UInt8.ofNat
  | _ => none

/-- `percentDecode` after `skip` more digits of a triplet that has been read. -/
def percentDecodeFrom : Nat → List UInt8 → List UInt8
  | _, [] => []
  | skip + 1, _ :: rest => percentDecodeFrom skip rest
  | 0, b :: rest =>
    match if b == 0x25 then triplet? rest else none with
    | some value => value :: percentDecodeFrom 2 rest
    | none => b :: percentDecodeFrom 0 rest

/-- Replaces each percent sign that two hexadecimal digits follow by the byte of that value. -/
def percentDecode (bytes : List UInt8) : List UInt8 :=
  percentDecodeFrom 0 bytes

/-- The name that a segment encodes: first `~1` stands for a slash, then `~0` for a tilde, then
percent triplets for bytes. -/
def decodeSegment (segment : List Char) : List Char :=
  let unescaped := Text.replaceText ['~', '0'] ['~'] (Text.replaceText ['~', '1'] ['/'] segment)
  Text.decodeLossy (percentDecode (Text.encodeText unescaped))

end Reference

/-- The schema name that a reference ends in. -/
def refName (reference : String) : String :=
  String.ofList (Reference.decodeSegment (Reference.lastSegment reference.toList))

/-- The schema of a name. -/
def Components.lookup (components : Components) (name : String) : Option Schema :=
  components.schemas.get? name

end ApiStencil

/-!
# Bytes of a text

The UTF-8 encoding of characters, and a decoder that never fails: what is no encoding of a character
is replaced.

## Main definitions

* `encodeChar`, `encodeText` - the bytes of a character and of a text.
* `decodeLossy` - the text of any bytes; each maximal part of an ill-formed sequence becomes one
  replacement character.
-/

namespace ApiStencil.Text

/-- The bytes of a character. -/
def encodeChar (c : Char) : List UInt8 :=
  let n := c.toNat
  let tail (bits : Nat) : UInt8 := UInt8.ofNat (0x80 + bits % 0x40)
  if n < 0x80 then [UInt8.ofNat n]
  else if n < 0x800 then [UInt8.ofNat (0xC0 + n / 0x40), tail n]
  else if n < 0x10000 then [UInt8.ofNat (0xE0 + n / 0x1000), tail (n / 0x40), tail n]
  else [UInt8.ofNat (0xF0 + n / 0x40000), tail (n / 0x1000), tail (n / 0x40), tail n]

/-- The bytes of a text. -/
def encodeText (s : List Char) : List UInt8 :=
  s.flatMap encodeChar

/-- What stands for bytes that encode no character. -/
def replacement : Char := Char.ofNat 0xFFFD

/-- The character of a lead byte's payload and the six bits of each continuation byte. -/
def joinBits (lead : Nat) (tails : List UInt8) : Char :=
  Char.ofNat (tails.foldl (fun n b => n * 0x40 + b.toNat % 0x40) lead)

/-- Whether a byte lies between two bounds. -/
def byteIn (low high : Nat) (b : UInt8) : Bool :=
  low ≤ b.toNat && b.toNat ≤ high

/-- Whether a byte continues a sequence. -/
def isTail (b : UInt8) : Bool := byteIn 0x80 0xBF b

/-- The bounds of the byte after a lead byte, which exclude overlong forms, surrogates and codes
beyond the last. -/
def secondBounds (lead : Nat) : Nat × Nat :=
  if lead == 0xE0 then (0xA0, 0xBF)
  else if lead == 0xED then (0x80, 0x9F)
  else if lead == 0xF0 then (0x90, 0xBF)
  else if lead == 0xF4 then (0x80, 0x8F)
  else (0x80, 0xBF)

/-- The text of some bytes. The longest start of a sequence that could still become a character
counts as one error, as does any other byte out of place. -/
def decodeLossy : List UInt8 → List Char
  | [] => []
  | b :: rest =>
    let n := b.toNat
    let (low, high) := secondBounds n
    if n < 0x80 then Char.ofNat n :: decodeLossy rest
    else if n < 0xC2 || 0xF4 < n then replacement :: decodeLossy rest
    else
      match rest with
      | [] => [replacement]
      | b₂ :: rest₂ =>
        if !byteIn low high b₂ then replacement :: decodeLossy (b₂ :: rest₂)
        else if n < 0xE0 then joinBits (n - 0xC0) [b₂] :: decodeLossy rest₂
        else
          match rest₂ with
          | [] => [replacement]
          | b₃ :: rest₃ =>
            if !isTail b₃ then replacement :: decodeLossy (b₃ :: rest₃)
            else if n < 0xF0 then joinBits (n - 0xE0) [b₂, b₃] :: decodeLossy rest₃
            else
              match rest₃ with
              | [] => [replacement]
              | b₄ :: rest₄ =>
                if !isTail b₄ then replacement :: decodeLossy (b₄ :: rest₄)
                else joinBits (n - 0xF0) [b₂, b₃, b₄] :: decodeLossy rest₄

end ApiStencil.Text

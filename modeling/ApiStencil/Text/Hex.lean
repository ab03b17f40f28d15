/-!
# Hexadecimal digits

## Main definitions

* `hexDigits` - a number in lower case hexadecimal digits.
* `hexValue?` - the value of a digit in either case.
* `hexNumber?` - the number of several digits.
-/

namespace ApiStencil.Text

/-- A number in lower case hexadecimal digits. -/
def hexDigits (n : Nat) : List Char :=
  Nat.toDigits 16 n

/-- The value of a hexadecimal digit. -/
def hexValue? (c : Char) : Option Nat :=
  if c.isDigit then some (c.toNat - 0x30)
  else if 'a' ≤ c ∧ c ≤ 'f' then some (c.toNat - 0x57)
  else if 'A' ≤ c ∧ c ≤ 'F' then some (c.toNat - 0x37)
  else none

/-- The number of some hexadecimal digits. -/
def hexNumber? (digits : List Char) : Option Nat :=
  (digits.mapM hexValue?).map (·.foldl (fun n d => 16 * n + d) 0)

end ApiStencil.Text

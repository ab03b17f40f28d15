/-!
# Doubles

The finite numbers of the double format, as whole mantissas times powers of two, and the rounding of
fractions to them. Everything is exact arithmetic on whole numbers.

## Main definitions

* `Double` - a finite double.
* `Double.nearest?` - the double nearest to a fraction.
* `Double.ofDecimal?` - the double nearest to a decimal.
* `Double.scaleByTen?` - a whole number rounded, and then scaled by a rounded power of ten.
-/

namespace ApiStencil

/-- A finite double: `mantissa * 2 ^ exponent` with a sign. -/
structure Double where
  negative : Bool := false
  mantissa : Nat := 0
  exponent : Int := -1074
  deriving DecidableEq, Repr

namespace Double

/-- The whole number nearest to a fraction; of two, the even one. -/
def roundDiv (num den : Nat) : Nat :=
  let quotient := num / den
  let rest := 2 * (num % den)
  if den < rest ∨ (rest = den ∧ quotient % 2 = 1) then quotient + 1 else quotient

/-- The fraction `num / den` divided by a power of two. -/
def divPower (num den : Nat) (exponent : Int) : Nat × Nat :=
  (num * Nat.pow 2 (-exponent).toNat, den * Nat.pow 2 exponent.toNat)

/-- The double without sign nearest to a fraction, if it is not beyond the largest. -/
def nearest? (num den : Nat) : Option Double :=
  if num = 0 then some {}
  else
    -- At `low` the quotient has 53 or 54 bits, or the exponent is the least one.
    let low := max ((Nat.log2 num : Int) - Nat.log2 den - 53) (-1074)
    let scaled := divPower num den low
    let exponent := if scaled.1 / scaled.2 < Nat.pow 2 53 then low else low + 1
    let (n, d) := divPower num den exponent
    let rounded := roundDiv n d
    -- Rounding up can lead to the next power of two.
    let mantissa := if rounded = Nat.pow 2 53 then Nat.pow 2 52 else rounded
    let exponent := if rounded = Nat.pow 2 53 then exponent + 1 else exponent
    if exponent > 971 then none else some { mantissa, exponent }

/-- A double as a fraction, without its sign. -/
def toFraction (x : Double) : Nat × Nat :=
  (x.mantissa * Nat.pow 2 x.exponent.toNat, Nat.pow 2 (-x.exponent).toNat)

/-- The number of decimal digits of a whole number. -/
def digitCount (n : Nat) : Nat := (Nat.toDigits 10 n).length

/-- The double without sign nearest to `digits * 10 ^ exponent`, if it is not beyond the largest.
Numbers far outside the range of the format are recognized by their size alone. -/
def ofDecimal? (digits : Nat) (exponent : Int) : Option Double :=
  if digits = 0 then some {}
  else
    let size := exponent + digitCount digits
    if size > 310 then none
    else if size < -350 then some {}
    else nearest? (digits * Nat.pow 10 exponent.toNat) (Nat.pow 10 (-exponent).toNat)

/-- The double nearest to a power of ten of at most 308. -/
def powerOfTen (exponent : Nat) : Double :=
  (nearest? (Nat.pow 10 exponent) 1).getD {}

/-- The double nearest to a product. -/
def mul? (x y : Double) : Option Double :=
  let (a, b) := x.toFraction
  let (c, d) := y.toFraction
  nearest? (a * c) (b * d)

/-- The double nearest to a quotient. -/
def div? (x y : Double) : Option Double :=
  let (a, b) := x.toFraction
  let (c, d) := y.toFraction
  nearest? (a * d) (b * c)

/-- `x` divided by `10 ^ exponent`, in up to `steps` steps of 308 places and one more. What is left
after all steps counts as zero. -/
def divPowerOfTen? (x : Double) (exponent : Nat) : Nat → Option Double
  | 0 => some {}
  | steps + 1 =>
    if x.mantissa = 0 then some {}
    else if exponent ≤ 308 then x.div? (powerOfTen exponent)
    else
      match x.div? (powerOfTen 308) with
      | some y => divPowerOfTen? y (exponent - 308) steps
      | none => none

/-- A whole number of 64 bits, rounded and then scaled by a rounded power of ten, with a rounding
after each step. -/
def scaleByTen? (significand : Nat) (exponent : Int) : Option Double := do
  let x ← nearest? significand 1
  if exponent < 0 then x.divPowerOfTen? (-exponent).toNat 4
  else if exponent ≤ 308 then x.mul? (powerOfTen exponent.toNat)
  else if x.mantissa = 0 then some {}
  else none

end Double

end ApiStencil

import ApiStencil.Decimal.Double

/-!
# Shortest decimals

A double is written with the fewest decimal digits that read back as it. Of the decimals with that
many digits, the nearest one is taken.

## Main definitions

* `Digits` - decimal digits and where their point stands.
* `Double.shortest` - the shortest digits of a double.
* `Double.positional` - a double with a point, never with an exponent.
* `Double.compact` - the same for numbers of a common size, and an exponent for all others.
-/

namespace ApiStencil

/-- The number `0.d₁d₂… * 10 ^ point` of some decimal digits. -/
structure Digits where
  digits : List Char
  point : Int
  deriving DecidableEq, Repr

/-- A run of zeros. -/
def Digits.zeros (count : Int) : List Char := List.replicate count.toNat '0'

/-- Digits with a point, which has at least one digit on either side. -/
def Digits.positional (d : Digits) : List Char :=
  let whole := d.digits.take d.point.toNat
  let rest := d.digits.drop d.point.toNat
  (if whole.isEmpty then ['0'] else whole) ++ Digits.zeros (d.point - d.digits.length) ++ ['.'] ++
    (if rest.isEmpty then ['0'] else Digits.zeros (-d.point) ++ rest)

/-- Digits with the point after the first one and an exponent. -/
def Digits.scientific (d : Digits) : List Char :=
  d.digits.take 1 ++ (if d.digits.length ≤ 1 then [] else '.' :: d.digits.drop 1) ++
    ['e'] ++ (toString (d.point - 1)).toList

namespace Double

/-- Four times a double over a common denominator: the lower end of the numbers that round to it,
the double itself and the upper end. -/
structure Neighbourhood where
  low : Nat
  middle : Nat
  high : Nat
  denominator : Nat
  /-- Whether the ends round to the double too. -/
  closed : Bool

/-- The numbers that round to a double. Below a power of two the next double is only half as far
away. -/
def neighbourhood (x : Double) : Neighbourhood :=
  let unit := Nat.pow 2 x.exponent.toNat
  let gap := if x.mantissa = Nat.pow 2 52 ∧ x.exponent ≠ -1074 then 1 else 2
  { low := (4 * x.mantissa - gap) * unit
    middle := 4 * x.mantissa * unit
    high := (4 * x.mantissa + 2) * unit
    denominator := 4 * Nat.pow 2 (-x.exponent).toNat
    closed := x.mantissa % 2 = 0 }

/-- Whether `digits * 10 ^ exponent` rounds to the double of a neighbourhood. -/
def Neighbourhood.contains (around : Neighbourhood) (digits : Nat) (exponent : Int) : Bool :=
  let value := digits * Nat.pow 10 exponent.toNat * around.denominator
  let scale := Nat.pow 10 (-exponent).toNat
  if around.closed then around.low * scale ≤ value && value ≤ around.high * scale
  else around.low * scale < value && value < around.high * scale

/-- How many zeros follow the point of `num / den`, which is below one, at most `limit`. -/
def leadingZeros (num den : Nat) : Nat → Nat
  | 0 => 0
  | limit + 1 => if den ≤ num * 10 then 0 else leadingZeros (num * 10) den limit + 1

/-- Where the point of `num / den` stands before its first digit. -/
def pointOf (num den : Nat) : Int :=
  if den ≤ num then digitCount (num / den) else -(leadingZeros num den 400 : Int)

/-- The whole number nearest to the double on a decimal grid that rounds to it, if there is one. -/
def Neighbourhood.onGrid? (around : Neighbourhood) (exponent : Int) : Option Nat :=
  -- One of the two neighbours on the grid is nearest; of two equally near ones the lower.
  let scaled := around.middle * Nat.pow 10 (-exponent).toNat
  let unit := around.denominator * Nat.pow 10 exponent.toNat
  let below := scaled / unit
  let nearer := if 2 * (scaled % unit) ≤ unit then [below, below + 1] else [below + 1, below]
  nearer.find? (around.contains · exponent)

/-- The coarsest hit from the grid of `count` digits on. -/
def Neighbourhood.search (around : Neighbourhood) (point : Int) : Nat → Nat → Option (Nat × Int)
  | _, 0 => none
  | count, more + 1 =>
    match around.onGrid? (point - count) with
    | some digits => some (digits, point - count)
    | none => around.search point (count + 1) more

/-- A list without the zeros at its end. -/
def dropZeros (digits : List Char) : List Char :=
  (digits.reverse.dropWhile (· == '0')).reverse

/-- The shortest digits of a double other than zero, without its sign. -/
def shortest (x : Double) : Digits :=
  let around := x.neighbourhood
  let point := pointOf around.middle around.denominator
  match around.search point 1 17 with
  | some (digits, exponent) =>
    let text := Nat.toDigits 10 digits
    { digits := dropZeros text, point := exponent + text.length }
  | none => { digits := ['0'], point := 1 }

/-- A sign before the text of a number. -/
def signed (x : Double) (text : List Char) : String :=
  String.ofList (if x.negative then '-' :: text else text)

/-- A double with a point and without an exponent. -/
def positional (x : Double) : String :=
  x.signed (if x.mantissa = 0 then ['0', '.', '0'] else x.shortest.positional)

/-- A double with a point, or with an exponent if it has more than 16 digits before the point or
more than 4 zeros after it. -/
def compact (x : Double) : String :=
  x.signed <|
    if x.mantissa = 0 then ['0', '.', '0']
    else
      let d := x.shortest
      if -5 < d.point ∧ d.point ≤ 16 then d.positional else d.scientific

end Double

end ApiStencil

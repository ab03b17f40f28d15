import ApiStencil.Json.Basic
import ApiStencil.Template.Basic
import ApiStencil.Text.Case
import ApiStencil.Text.Split

/-!
# Values in templates

What values count as in a condition, how they are compared, what an output shows of them and what
filters make of them.

## Main definitions

* `isTrue` - what counts as true.
* `display` - what an output shows.
* `areEqual`, `order?` - how values compare.
* `applyFilter` - the filters.
-/

namespace ApiStencil

/-- A double as a whole multiple of the smallest one. -/
def Double.multiple (x : Double) : Int :=
  let size := x.mantissa * Nat.pow 2 (x.exponent + 1074).toNat
  if x.negative then -(size : Int) else size

namespace Template

/-- A number as a double. -/
def toDouble : Json.Number → Double
  | .whole n => { (Double.nearest? n.natAbs 1).getD {} with negative := n < 0 }
  | .double x => x

/-- Whether a value counts as true. Nothing, zero and what is empty do not. -/
def isTrue : Json → Bool
  | .null => false
  | .flag value => value
  | .number n => (toDouble n).mantissa ≠ 0
  | .text value => !value.isEmpty
  | .array items => !items.isEmpty
  | .object members => !members.isEmpty

/-- The text of a number. A double that is whole has no point. -/
def displayNumber : Json.Number → String
  | .whole n => toString n
  | .double x => String.ofList (Text.dropEnding ['.', '0'] x.positional.toList)

mutual

/-- What an output shows of a value. -/
def display : Json → String
  | .null => ""
  | .flag value => if value then "true" else "false"
  | .number n => displayNumber n
  | .text value => value
  | .array items => "[" ++ ", ".intercalate (displayItems items) ++ "]"
  | .object _ => "[object]"

/-- What an output shows of some values. -/
def displayItems : List Json → List String
  | [] => []
  | item :: items => display item :: displayItems items

end

/-- The order of two numbers, which are compared as doubles. -/
def compareNumbers (a b : Json.Number) : Ordering :=
  compare (toDouble a).multiple (toDouble b).multiple

/-- The order of two values, which only numbers have. -/
def order? : Json → Json → Option Ordering
  | .number a, .number b => some (compareNumbers a b)
  | _, _ => none

mutual

/-- Whether two values within arrays and objects are the same. -/
def isSame : Json → Json → Bool
  | .null, .null => true
  | .flag a, .flag b => a == b
  | .number a, .number b => decide (a = b)
  | .text a, .text b => a == b
  | .array a, .array b => areSame a b
  | .object a, .object b => a.length == b.length && haveSame a b
  | _, _ => false

/-- Whether the items of two arrays are the same. -/
def areSame : List Json → List Json → Bool
  | [], [] => true
  | a :: as, b :: bs => isSame a b && areSame as bs
  | _, _ => false

/-- Whether every member of an object is one of another, in any order. -/
def haveSame : List (String × Json) → List (String × Json) → Bool
  | [], _ => true
  | (key, a) :: as, bs =>
    (match bs.lookup key with
      | some b => isSame a b
      | none => false) && haveSame as bs

end

/-- Whether two values are equal. Numbers are compared as doubles. -/
def areEqual : Json → Json → Bool
  | .number a, .number b => compareNumbers a b = .eq
  | a, b => isSame a b

/-- The result of a comparison. A number is neither equal nor unequal to anything else, and only
numbers have an order. -/
def Comparison.holds? (how : Comparison) (a b : Json) : Option Bool :=
  match how, a, b with
  | equal, .number x, .number y => some (compareNumbers x y = .eq)
  | unequal, .number x, .number y => some (compareNumbers x y ≠ .eq)
  | equal, .number _, _ | equal, _, .number _ | unequal, .number _, _ | unequal, _, .number _ =>
    some false
  | equal, a, b => some (areEqual a b)
  | unequal, a, b => some (!areEqual a b)
  | less, a, b => (order? a b).map (· = .lt)
  | atMost, a, b => (order? a b).map (· ≠ .gt)
  | greater, a, b => (order? a b).map (· = .gt)
  | atLeast, a, b => (order? a b).map (· ≠ .lt)

/-- A text with its first character in upper case and the others in lower case. -/
def capitalizeOnly : List Char → List Char
  | [] => []
  | c :: rest => Text.upperChar c ++ Text.lowerText rest

/-- A filter without arguments that changes a text. -/
def textFilter? (name : String) : Option (List Char → List Char) :=
  if name = "upper" then some Text.upperText
  else if name = "lower" then some Text.lowerText
  else if name = "capitalize" then some capitalizeOnly
  else none

/-- The value that a filter with arguments makes of a value. The filters work on texts only. -/
def applyFilter (name : String) (arguments : List (String × Json)) (value : Json) : Option Json :=
  match value, textFilter? name with
  | .text s, some f => some (.text (String.ofList (f s.toList)))
  | .text s, none =>
    if name = "replace" then
      match arguments.reverse.lookup "from", arguments.reverse.lookup "to" with
      | some (.text old), some (.text new) => some (.text (Text.replaceString old new s))
      | _, _ => none
    else none
  | _, _ => none

end Template

end ApiStencil

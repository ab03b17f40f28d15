import ApiStencil.Decimal.Shortest

/-!
# JSON values

The values that contexts of templates and dumps of an API are made of. An object keeps the order of
its members.

## Main definitions

* `Json.Number` - a whole number or a double.
* `Json` - a value.
* `Json.get?` - a member of an object.
* `Json.ofOption` - `null` for what is absent.
-/

namespace ApiStencil

namespace Json

/-- A number: whole as long as it fits 64 bits, with or without sign, else a double. -/
inductive Number where
  | whole (value : Int)
  | double (value : Double)
  deriving DecidableEq, Repr

/-- The text of a number. -/
def Number.text : Number → String
  | whole value => toString value
  | double value => value.compact

end Json

/-- A JSON value. -/
inductive Json where
  | null
  | flag (value : Bool)
  | number (value : Json.Number)
  | text (value : String)
  | array (items : List Json)
  | object (members : List (String × Json))
  deriving Repr

namespace Json

instance : Inhabited Json := ⟨null⟩

/-- The member of an object under a key. -/
def get? (key : String) : Json → Option Json
  | object members => members.lookup key
  | _ => none

/-- A whole number. -/
def ofNat (n : Nat) : Json := number (.whole n)

/-- `null` for what is absent. -/
def ofOption {α : Type} (f : α → Json) : Option α → Json
  | some value => f value
  | none => null

/-- A text or `null`. -/
def ofText? : Option String → Json := ofOption text

/-- An array of texts. -/
def texts (values : List String) : Json := array (values.map text)

end Json

end ApiStencil

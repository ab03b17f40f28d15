import ApiStencil.Decoding.Node
import ApiStencil.Dict
import ApiStencil.Json.Basic

/-!
# JSON scalars

How the scalars of JSON are read. They are typed by their form, so a text is only what stands
between quotes.

## Main definitions

* `Json.Scalar` - a scalar in JSON text.
* `Json.toNode` - the tree of a value.
* `Json.ofNode?` - the value of a tree.
-/

namespace ApiStencil

namespace Json

/-- A scalar in JSON text. -/
inductive Scalar where
  | null
  | flag (value : Bool)
  | number (value : Number)
  | text (value : String)
  /-- A number beyond the range of a double, or a text with half of a surrogate pair. It can be
  passed over but has no value. -/
  | flawed
  deriving DecidableEq, Repr

namespace Scalar

/-- What a scalar is in a message. -/
def found? : Scalar → Option Found
  | null => some (.nothing "null")
  | flag value => some (.flag value)
  | number (.whole value) => some (.integer value)
  | number (.double value) => some (.decimal value.compact)
  | text value => some (.text value)
  | flawed => none

/-- What a scalar is where it may be anything. -/
def free : Scalar → FreeScalar
  | text value => .text value
  | number (.whole (.ofNat value)) => .natural value
  | flawed => .flawed
  | _ => .other

instance : ScalarForm Scalar where
  text?
    | text value => some value
    | _ => none
  flag?
    | flag value => some value
    | _ => none
  presence
    | null => .absent
    | _ => .present
  standsForEmpty _ := false
  reject s expected := s.found?.map fun found => .wrongType found expected
  free := free
  isForeignTag _ := false
  keyText
    | text value => value
    | _ => ""
  recordsAsSequences := true

end Scalar

mutual

/-- The tree of a value. -/
def toNode : Json → Node Scalar
  | null => .scalar .null
  | flag value => .scalar (.flag value)
  | number value => .scalar (.number value)
  | text value => .scalar (.text value)
  | array items => .sequence none (toNodes items)
  | object members => .mapping none (toEntries members)

/-- The trees of some values. -/
def toNodes : List Json → List (Node Scalar)
  | [] => []
  | item :: items => item.toNode :: toNodes items

/-- The trees of some members. -/
def toEntries : List (String × Json) → List (Node Scalar × Node Scalar)
  | [] => []
  | (key, value) :: members => (.scalar (.text key), value.toNode) :: toEntries members

end

/-- The value of a scalar. -/
def ofScalar? : Scalar → Option Json
  | .null => some null
  | .flag value => some (flag value)
  | .number value => some (number value)
  | .text value => some (text value)
  | .flawed => none

mutual

/-- The value of a tree without flaws. A repeated key of an object keeps its first place and takes
the last value. -/
def ofNode? : Node Scalar → Option Json
  | .scalar s => ofScalar? s
  | .sequence _ items => (ofNodes? items).map array
  | .mapping _ entries =>
    (ofEntries? entries).map fun members => object (Dict.ofList members).entries
  | .link _ | .cut => none

/-- The values of some trees. -/
def ofNodes? : List (Node Scalar) → Option (List Json)
  | [] => some []
  | item :: items => do
    let value ← ofNode? item
    let values ← ofNodes? items
    return value :: values

/-- The members of some entries. -/
def ofEntries? : List (Node Scalar × Node Scalar) → Option (List (String × Json))
  | [] => some []
  | (.scalar (.text key), value) :: entries => do
    let value ← ofNode? value
    let members ← ofEntries? entries
    return (key, value) :: members
  | _ :: _ => none

end

end Json

end ApiStencil

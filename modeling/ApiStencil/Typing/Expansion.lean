import ApiStencil.EnumDescription
import ApiStencil.Fault
import ApiStencil.Model.Basic
import ApiStencil.Naming
import ApiStencil.Reference
import ApiStencil.Typing.Vocabulary

/-!
# The type of a descriptor

One rule types properties, parameters, bodies and responses. A `type` word decides, with its
`format`; a descriptor without one is typed by its reference. A property that lists literals of type
`string` gets an enum of its own.

## Main definitions

* `mapScalar`, `mapItems` - the types of the words.
* `expandTypeWith` - the type of a descriptor and the enum that comes with it.
* `spelledExpansion` - the same with the enum in the words of a vocabulary.
-/

namespace ApiStencil

/-- The scalar type of a word and a format. -/
def mapPrimitive : ScalarType → Option String → Except TypeFault Primitive
  | .string, format => .ok (if format = some "binary" then .binary else .text)
  | .integer, format =>
    .ok (if format = some "int64" then .int64 else if format = some "int32" then .int32 else .int)
  | .boolean, _ => .ok .bool
  | .number, format =>
    .ok (if format = some "float" ∨ format = some "Float" then .float else .double)
  | .array, _ => .error .nestedArray
  | .object, _ => .error .inlineObject
  | .other word, _ => .error (.unknownType word)

/-- The type of the items of an array. A `type` word wins over a reference. -/
def mapItems (items : ItemDescriptor) : Except TypeFault TypeRef :=
  match items.type, items.reference with
  | some type, _ => (mapPrimitive type items.format).map .primitive
  | none, some reference => .ok (.named (refName reference))
  | none, none => .error .bareItems

/-- The type of a descriptor with a `type` word. Literals are an error on a number or an array and
have no influence elsewhere. -/
def mapScalar (node : Descriptor) : Except TypeFault TypeRef :=
  match node.type with
  | none => .error .untyped
  | some type =>
    if (type = .number ∨ type = .array) ∧ node.literals.isSome then
      .error (.literalsNotAllowed type.word)
    else if type = .array then
      match node.items with
      | none => .error .noItems
      | some items => (mapItems items).map .array
    else (mapPrimitive type node.format).map .primitive

/-- The property that a descriptor belongs to. -/
structure EnumOwner where
  schema : String
  property : String
  deriving DecidableEq, Repr

/-- The type of a descriptor and the enum generated for it, the literals of which have a type of a
kind `τ`. -/
structure Expansion (τ : Type) where
  type : TypeRef
  nestedEnum : Option (EnumModel τ) := none
  deriving DecidableEq

variable {τ : Type}

/-- The enum of a property that lists literals. Its cases are the literals in order, each with the
text that the description gives for it. -/
def nestedEnum (rawType : τ) (owner : EnumOwner) (description : Option String)
    (literals : List String) : EnumModel τ :=
  let docs := EnumDescription.ofText description
  { name := nestedEnumName owner.schema owner.property
    description := docs.shared.getD missingDescription
    rawType
    cases := literals.map fun literal =>
      { name := literal, description := (docs.cases.get? literal).getD missingDescription } }

/-- The literals that make a descriptor an enum: those of a `string` whose format is not `binary`.
-/
def enumLiterals? (node : Descriptor) : Option (List String) :=
  if node.type = some .string ∧ node.format ≠ some "binary" then node.literals else none

/-- The type of a descriptor, given the type of literals. Without an owner no enum is generated, and
literals are plain text. -/
def expandTypeWith (rawType : τ) (node : Descriptor) (owner : Option EnumOwner) :
    Except TypeFault (Expansion τ) :=
  match owner, enumLiterals? node with
  | some owner, some literals =>
    let model := nestedEnum rawType owner node.description literals
    .ok { type := .enum model.name, nestedEnum := some model }
  | _, _ =>
    match node.type, node.reference with
    | some _, _ => (mapScalar node).map fun type => { type := type }
    | none, some reference => .ok { type := .named (refName reference) }
    | none, none => .error .unresolvable

/-- The type of a descriptor, with its enum not spelled yet. -/
def expandType (node : Descriptor) (owner : Option EnumOwner) :
    Except TypeFault (Expansion TypeRef) :=
  expandTypeWith .text node owner

/-- The type of a descriptor, with its enum in the words of a vocabulary. -/
def spelledExpansion (v : Vocabulary) (node : Descriptor) (owner : Option EnumOwner) :
    Except TypeFault (Expansion String) :=
  expandTypeWith v.text node owner

end ApiStencil

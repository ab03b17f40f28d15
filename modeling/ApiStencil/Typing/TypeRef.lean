/-!
# Types

The types that a descriptor can have, before they are spelled in a target language.

## Main definitions

* `Primitive` - the scalar types.
* `TypeRef` - a scalar, an array, a named model or a generated enum.
-/

namespace ApiStencil

/-- A scalar type. -/
inductive Primitive where
  | binary
  | text
  | int64
  | int32
  | int
  | bool
  | double
  | float
  deriving DecidableEq, Repr

/-- The name of a scalar type in log events. -/
def Primitive.name : Primitive → String
  | binary => "Binary"
  | text => "Text"
  | int64 => "Int64"
  | int32 => "Int32"
  | int => "Int"
  | bool => "Bool"
  | double => "Double"
  | float => "Float"

/-- A type, before it is spelled in a target language. -/
inductive TypeRef where
  | primitive (kind : Primitive)
  | array (element : TypeRef)
  /-- A model, by the name of its schema. -/
  | named (name : String)
  /-- An enum generated for a property. -/
  | enum (name : String)
  deriving DecidableEq, Repr

namespace TypeRef

/-- The text of a type in log events. -/
def describe : TypeRef → String
  | primitive kind => kind.name
  | array element => "array<" ++ describe element ++ ">"
  | named name => "$ref:" ++ name
  | enum name => "enum:" ++ name

/-- The scalar type of a text. -/
abbrev text : TypeRef := primitive .text

end TypeRef

end ApiStencil

import ApiStencil.Text.Split
import ApiStencil.Typing.TypeRef

/-!
# Vocabularies

How types are spelled in a target language. A vocabulary names the scalar types, the pattern of an
array, the namespace of the models and the delimiters of an interpolation in a path.

## Main definitions

* `Vocabulary` - the words of a target language.
* `Vocabulary.spell` - a type as model code sees it.
* `Vocabulary.spellQualified` - a type as endpoint code sees it.
* `Vocabulary.interpolate` - a path parameter between its delimiters.
-/

namespace ApiStencil

/-- The words of a target language. -/
structure Vocabulary where
  binary : String := "Vec<u8>"
  text : String := "String"
  int64 : String := "i64"
  int32 : String := "i32"
  int : String := "isize"
  boolean : String := "bool"
  double : String := "f64"
  float : String := "f32"
  /-- The pattern of an array; the type of its elements stands for the pair of braces. -/
  array : String := "Vec<\x7b\x7d>"
  /-- What stands before the name of a model in endpoint code. -/
  modelNamespace : String := "models::"
  /-- The type of a response without content. -/
  void : String := "()"
  interpolationOpen : String := "\x7b"
  interpolationClose : String := "\x7d"
  deriving DecidableEq, Repr, Inhabited

namespace Vocabulary

/-- The word for a scalar type. -/
def primitive (v : Vocabulary) : Primitive → String
  | .binary => v.binary
  | .text => v.text
  | .int64 => v.int64
  | .int32 => v.int32
  | .int => v.int
  | .bool => v.boolean
  | .double => v.double
  | .float => v.float

/-- What the element type replaces in the pattern of an array. -/
def elementMark : String := "\x7b\x7d"

/-- A type as endpoint code sees it: models carry their namespace. -/
def spellQualified (v : Vocabulary) : TypeRef → String
  | .primitive kind => v.primitive kind
  | .array element => Text.replaceString elementMark (v.spellQualified element) v.array
  | .named name => v.modelNamespace ++ name
  | .enum name => name

/-- A type as model code sees it: a model stands by its name, though as an element of an array it
carries its namespace here too. -/
def spell (v : Vocabulary) : TypeRef → String
  | .named name => name
  | type => v.spellQualified type

/-- A path parameter between the delimiters of an interpolation. -/
def interpolate (v : Vocabulary) (name : String) : String :=
  v.interpolationOpen ++ name ++ v.interpolationClose

end Vocabulary

end ApiStencil

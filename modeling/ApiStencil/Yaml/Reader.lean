import ApiStencil.Decoding.Reader
import ApiStencil.Document.Shape
import ApiStencil.Fault
import ApiStencil.Yaml.Tree

/-!
# Reading YAML

Typed values read from a text in YAML. A fault of a value that comes before the first fault of the
text is the one reported.

## Main definitions

* `Yaml.decode` - a typed value from a text.
* `Document.ofYaml` - the API description in a text.
-/

namespace ApiStencil

namespace Yaml

/-- How many aliases may be followed for each position of a document. -/
def aliasesPerPosition : Nat := 100

/-- The site of the root of a document. -/
def Source.site (source : Source) : Site Scalar where
  resolve := source.resolve
  aliasLimit := aliasesPerPosition * source.size

/-- Reads a typed value from a text. What follows the document counts only when the value is
right. -/
def decode {α : Type} (read : Reader Scalar α) (text : String) : Except ReadFault α := do
  let source := Source.ofText text
  let (value, _) ← (read source.site source.root).run 0
  if source.isComplete then return value else throw .malformed

end Yaml

/-- The API description in a text. -/
def Document.ofYaml (text : String) : Except Fault Document :=
  (Yaml.decode Document.read text).mapError .yaml

end ApiStencil

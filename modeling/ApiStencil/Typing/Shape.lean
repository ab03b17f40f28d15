import ApiStencil.Decoding.Reader
import ApiStencil.Json.Basic
import ApiStencil.Typing.Vocabulary

/-!
# Shape of vocabularies

How a vocabulary is read from the nodes of a text, and how it is shown. A word that is left out
keeps its default.

## Main definitions

* `Vocabulary.read` - reads a vocabulary.
* `Vocabulary.dump` - shows a vocabulary.
-/

namespace ApiStencil

variable {σ : Type} [ScalarForm σ]

/-- Reads a vocabulary. -/
def Vocabulary.read : Reader σ Vocabulary :=
  readRecord "TypeVocabulary" [
    .optional "binary" readText fun v binary => { v with binary },
    .optional "text" readText fun v text => { v with text },
    .optional "int64" readText fun v int64 => { v with int64 },
    .optional "int32" readText fun v int32 => { v with int32 },
    .optional "int" readText fun v int => { v with int },
    .optional "boolean" readText fun v boolean => { v with boolean },
    .optional "double" readText fun v double => { v with double },
    .optional "float" readText fun v float => { v with float },
    .optional "array" readText fun v array => { v with array },
    .optional "model_namespace" readText fun v modelNamespace => { v with modelNamespace },
    .optional "void" readText fun v void => { v with void },
    .optional "interpolation_open" readText fun v interpolationOpen =>
      { v with interpolationOpen },
    .optional "interpolation_close" readText fun v interpolationClose =>
      { v with interpolationClose }] {}

/-- The dump of a vocabulary. -/
def Vocabulary.dump (v : Vocabulary) : Json :=
  .object [("binary", .text v.binary), ("text", .text v.text), ("int64", .text v.int64),
    ("int32", .text v.int32), ("int", .text v.int), ("boolean", .text v.boolean),
    ("double", .text v.double), ("float", .text v.float), ("array", .text v.array),
    ("model_namespace", .text v.modelNamespace), ("void", .text v.void),
    ("interpolation_open", .text v.interpolationOpen),
    ("interpolation_close", .text v.interpolationClose)]

end ApiStencil

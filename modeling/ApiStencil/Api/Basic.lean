import ApiStencil.Document.Basic
import ApiStencil.Endpoint.Basic
import ApiStencil.Model.Basic

/-!
# Expanded APIs

Everything that a run renders: the metadata and servers of a document, its models and its groups of
endpoints. As in a model, the types are of a kind `τ` and the responses of a kind `ρ`.

## Main definitions

* `NamedServer` - a server, which has a name.
* `Api` - an expanded API.
* `SpelledApi` - an API in the words of a target language.
-/

namespace ApiStencil

/-- A server with a name. -/
structure NamedServer where
  name : String
  url : String
  description : Option String
  deriving DecidableEq, Repr

/-- Everything that is generated from a document. -/
structure Api (τ ρ : Type) where
  info : Info
  servers : List NamedServer
  /-- The models in the order of the document. -/
  models : List (Model τ)
  /-- The endpoint groups in the order of the document. -/
  groups : List (EndpointGroup τ ρ)
  deriving DecidableEq, Repr

/-- An API in the words of a target language. -/
abbrev SpelledApi := Api String String

end ApiStencil

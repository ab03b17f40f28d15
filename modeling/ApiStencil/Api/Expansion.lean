import ApiStencil.Api.Basic
import ApiStencil.Endpoint.Expansion
import ApiStencil.Model.Expansion

/-!
# Expansion of documents

The models of a document come before its endpoints, and a fault in either stops the run. The
vocabulary goes along to wherever a type is written.

## Main definitions

* `nameServers` - gives every server a name.
* `expandDocument` - the API of a document in the words of a vocabulary.
-/

namespace ApiStencil

/-- The name of an unnamed server: its position in the list. -/
def positionName (index : Nat) : String := "server" ++ toString index

/-- A server with its own name or that of its position. -/
def nameServer (server : Server) (index : Nat) : NamedServer where
  name := server.name.getD (positionName index)
  url := server.url
  description := server.description

/-- Gives every server a name. -/
def nameServers (servers : List Server) : List NamedServer :=
  servers.mapIdx fun index server => nameServer server index

namespace Log

/-- The log target of the expansion of a document. -/
def document : String := "tamplier_core::oas"

/-- A document that has been expanded. -/
def expandedDocument {τ ρ : Type} (api : Api τ ρ) : Event where
  level := .info
  target := document
  message := "expanded API document `" ++ api.info.title ++ "`"
  fields := [("models", toString api.models.length), ("groups", toString api.groups.length)]

end Log

/-- The API of a document in the words of a vocabulary. -/
def expandDocument (v : Vocabulary) (strict : Bool) (document : Document) :
    Traced SpelledApi := do
  let models ← spelledModels v strict document.components
  let groups ← spelledEndpoints v document.paths
  let api : SpelledApi :=
    { info := document.info, servers := nameServers document.servers, models, groups }
  Traced.report (Log.expandedDocument api)
  return api

end ApiStencil

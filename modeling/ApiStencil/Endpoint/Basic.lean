import ApiStencil.Model.Basic

/-!
# Endpoints

What is generated from an operation on a path: its parameters, body and response with their types.
As in a model, the types are of a kind `τ`; the response is of a kind `ρ`, since before it is
spelled an operation may have none. The lists that templates see are views of the declared
parameters.

## Main definitions

* `ArgumentLocation`, `Argument`, `Payload`, `Endpoint`, `EndpointGroup` - the endpoints.
* `Endpoint.arguments`, `Endpoint.pathArguments`, `Endpoint.queryArguments`, `Endpoint.init` - the
  views.
-/

namespace ApiStencil

/-- Where an argument travels. -/
inductive ArgumentLocation where
  | path
  | query
  | body
  deriving DecidableEq, Repr

/-- The name of a location. -/
def ArgumentLocation.name : ArgumentLocation → String
  | path => "path"
  | query => "query"
  | body => "body"

/-- An argument of a generated operation. -/
structure Argument (τ : Type) where
  name : String
  type : τ
  isOptional : Bool
  location : ArgumentLocation
  deriving DecidableEq, Repr

/-- A request body: its media type and its type. -/
structure Payload (τ : Type) where
  mediaType : String
  type : τ
  deriving DecidableEq, Repr

/-- What is generated from an operation. -/
structure Endpoint (τ ρ : Type) where
  /-- The name of the group. -/
  group : String
  /-- The key of the method. -/
  method : String
  description : String
  /-- The path; once spelled, with its parameters interpolated and without a leading slash. -/
  path : String
  /-- The declared parameters, in the order of their declaration. -/
  declared : List (Argument τ)
  body : Option (Payload τ)
  response : ρ
  deriving DecidableEq, Repr

/-- The endpoints of one path. -/
structure EndpointGroup (τ ρ : Type) where
  name : String
  /-- The raw path. -/
  path : String
  /-- The endpoints, ascending by method. -/
  endpoints : List (Endpoint τ ρ)
  deriving DecidableEq, Repr

variable {σ τ ρ : Type}

/-- The media type of a body or response in JSON. -/
def jsonMediaType : String := "application/json"

/-- Sorts arguments descending by name, keeping the order of equal names. -/
def sortDescending (arguments : List (Argument τ)) : List (Argument τ) :=
  arguments.mergeSort fun a b => b.name ≤ a.name

/-- Sorts endpoints ascending by method, keeping the order of equal methods. -/
def sortEndpoints (endpoints : List (Endpoint τ ρ)) : List (Endpoint τ ρ) :=
  endpoints.mergeSort fun a b => a.method ≤ b.method

namespace Endpoint

/-- The argument that stands for a request body. -/
def bodyArgument (payload : Payload τ) : Argument τ where
  name := "body"
  type := payload.type
  isOptional := false
  location := .body

/-- Every argument in the order of declaration, the body last. -/
def signature (e : Endpoint τ ρ) : List (Argument τ) :=
  e.declared ++ (e.body.map bodyArgument).toList

/-- Every argument, descending by name. -/
def arguments (e : Endpoint τ ρ) : List (Argument τ) :=
  sortDescending e.signature

/-- The arguments in the path, in the order of declaration. -/
def pathArguments (e : Endpoint τ ρ) : List (Argument τ) :=
  e.declared.filter (·.location = .path)

/-- The arguments in the query, descending by name. -/
def queryArguments (e : Endpoint τ ρ) : List (Argument τ) :=
  sortDescending (e.declared.filter (·.location = .query))

/-- The media type of the body, JSON for an operation without one. -/
def contentType (e : Endpoint τ ρ) : String :=
  (e.body.map (·.mediaType)).getD jsonMediaType

/-- The parameter list of a call: names and types in the order of declaration, the body last. -/
def init (e : Endpoint String ρ) : String :=
  joinInit (e.signature.map fun a => (a.name, a.type))

theorem init_eq (e : Endpoint String ρ) :
    e.init = ", ".intercalate (e.signature.map fun a => a.name ++ ": " ++ a.type) := by
  rw [init, joinInit, List.map_map]
  rfl

/-- The name of a parameter between braces, as a path holds it. -/
def placeholder (name : String) : String := "\x7b" ++ name ++ "\x7d"

/-- A path without one leading slash. -/
def dropSlash (path : String) : String :=
  match path.toList with
  | '/' :: rest => String.ofList rest
  | _ => path

end Endpoint

end ApiStencil

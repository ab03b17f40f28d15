import ApiStencil.Endpoint.Basic
import ApiStencil.Trace
import ApiStencil.Typing.Expansion

/-!
# Endpoints of paths

Every path gives a group, and every operation on it an endpoint in the words of a vocabulary.
Anything that cannot be expressed stops the run with the first fault in document order.

## Main definitions

* `mergeParameters` - the parameters of an operation with those that its path shares.
* `spelledParameters`, `spelledBody`, `spelledResponse`, `spelledEndpoint` - the endpoint of an
  operation.
* `spelledGroup`, `spelledEndpoints` - the groups of all paths, in document order.
-/

namespace ApiStencil

/-- The parameters of an operation: those that its path shares, save those that the operation
declares anew with the same name and location, and then its own. -/
def mergeParameters (shared own : List Parameter) : List Parameter :=
  (shared.filter fun s => !own.any fun o => o.name = s.name ∧ o.location = s.location) ++ own

/-- The argument of a parameter. Its type is looked at before its location, and a parameter in the
path is never optional. -/
def spelledParameter (v : Vocabulary) (method path : String) (parameter : Parameter) :
    Except Fault (Argument String) :=
  match spelledExpansion v parameter.schema none with
  | .error cause => .error (.unsupportedParameterType parameter.name method path cause)
  | .ok expansion =>
    if parameter.location = "path" then
      .ok { name := parameter.name, type := v.spell expansion.type, isOptional := false
            location := .path }
    else if parameter.location = "query" then
      .ok { name := parameter.name, type := v.spell expansion.type
            isOptional := !parameter.required, location := .query }
    else
      .error (.unsupportedParameterLocation parameter.name parameter.location method path)

/-- A template of a path with an argument interpolated, if it travels in the path. -/
def Endpoint.interpolateArgument {τ : Type} (v : Vocabulary) (template : String)
    (argument : Argument τ) : String :=
  if argument.location = .path then
    Text.replaceString (placeholder argument.name) (v.interpolate argument.name) template
  else template

/-- The arguments of some parameters, and a template of the path with those in the path interpolated
one after the other. -/
def spelledParameters (v : Vocabulary) (method path : String) (template : String) :
    List Parameter → Except Fault (String × List (Argument String))
  | [] => .ok (template, [])
  | parameter :: rest => do
    let argument ← spelledParameter v method path parameter
    let (template, arguments) ← spelledParameters v method path
      (Endpoint.interpolateArgument v template argument) rest
    return (template, argument :: arguments)

/-- The body of an operation, which has at most one media type. -/
def spelledBody (v : Vocabulary) (method path : String) (body : Option RequestBody) :
    Except Fault (Option (Payload String)) :=
  match (body.bind (·.content)).map (·.entries) with
  | none | some [] => .ok none
  | some [(mediaType, node)] =>
    match spelledExpansion v node none with
    | .ok expansion => .ok (some { mediaType, type := v.spellQualified expansion.type })
    | .error cause => .error (.unsupportedBodyType method path cause)
  | some (_ :: _ :: _) => .error (.multipleContentTypes method path)

/-- The type of a payload of the success response, which must be JSON. -/
def spelledPayload (v : Vocabulary) (method path : String) (payload : String × Descriptor) :
    Except Fault String :=
  if payload.1 ≠ jsonMediaType then
    .error (.unsupportedResponseContentType payload.1 method path)
  else
    match spelledExpansion v payload.2 none with
    | .ok expansion => .ok (v.spellQualified expansion.type)
    | .error cause => .error (.unsupportedResponseType method path cause)

/-- The type of the response under the code 200: that of its last payload, and nothing's type if it
has none. Other codes are not looked at. -/
def spelledResponse (v : Vocabulary) (method path : String) (responses : Dict String Response) :
    Except Fault String :=
  match (responses.get? "200").bind (·.content) with
  | none => .ok v.void
  | some content =>
    content.entries.foldlM (fun _ payload => spelledPayload v method path payload) v.void

/-- What an endpoint says about itself: the summary of the operation, else its description, else the
summary of the path. -/
def describeOperation (item : PathItem) (operation : Operation) : String :=
  ((operation.summary.or operation.description).or item.summary).getD missingDescription

/-- The endpoint of an operation. -/
def spelledEndpoint (v : Vocabulary) (group path : String) (item : PathItem) (method : Method)
    (operation : Operation) : Except Fault (Endpoint String String) := do
  -- Parameters, body and response in this order: the first fault decides.
  let (template, declared) ← spelledParameters v method.upperName path path
    (mergeParameters item.parameters operation.parameters)
  let body ← spelledBody v method.upperName path operation.requestBody
  let response ← spelledResponse v method.upperName path operation.responses
  return {
    group
    method := method.name
    description := describeOperation item operation
    path := Endpoint.dropSlash template
    declared
    body
    response }

namespace Log

/-- The log target of the endpoint expansion. -/
def routes : String := "tamplier_core::oas::routes"

/-- A group that has been built. -/
def expandedGroup {τ ρ : Type} (group : EndpointGroup τ ρ) : Event where
  level := .debug
  target := routes
  message := "expanded endpoint group"
  fields := [("group", group.name), ("path", group.path),
    ("endpoints", toString group.endpoints.length)]

end Log

/-- The group of a path, given the raw paths of the groups before it by name. -/
def spelledGroup (v : Vocabulary) (seen : Dict String String) (path : String) (item : PathItem) :
    Except Fault (EndpointGroup String String) :=
  match item.unsupportedKeys with
  | key :: _ => .error (.unsupportedPathItemKey key path)
  | [] =>
    let name := groupName path
    match seen.get? name with
    | some first => .error (.duplicateGroupName name first path)
    | none => do
      let endpoints ← item.operations.entries.mapM fun (method, operation) =>
        spelledEndpoint v name path item method operation
      return { name, path, endpoints := sortEndpoints endpoints }

/-- The groups of some paths, given the raw paths of the groups before them by name. -/
def spelledGroupsFrom (v : Vocabulary) (seen : Dict String String) :
    List (String × PathItem) → Traced (List (EndpointGroup String String))
  | [] => return []
  | (path, item) :: rest => do
    let group ← Traced.ofExcept (spelledGroup v seen path item)
    Traced.report (Log.expandedGroup group)
    let groups ← spelledGroupsFrom v (seen.insert group.name path) rest
    return group :: groups

/-- The groups of all paths, in document order. -/
def spelledEndpoints (v : Vocabulary) (paths : Dict String PathItem) :
    Traced (List (EndpointGroup String String)) :=
  spelledGroupsFrom v Dict.empty paths.entries

end ApiStencil

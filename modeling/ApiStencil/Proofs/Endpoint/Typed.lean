import ApiStencil.Endpoint.Expansion
import ApiStencil.Proofs.Sorting
import ApiStencil.Proofs.Typing.Expansion

/-!
# Endpoints before they are spelled

As for models, the expansion of endpoints is done once more with types in place of their texts and
with the raw path. The expansion writes types and interpolates the path parameter by parameter; it
is this typing, followed by spelling, and so it has the same events and the same first fault.

## Main definitions

* `expandEndpoint`, `expandGroup`, `expandEndpoints`: the typing of endpoints
* `Endpoint.interpolatePath`: a path with the placeholders of some parameters interpolated
* `Endpoint.spell`, `EndpointGroup.spell`: an endpoint and a group in the words of a vocabulary

## Main results

* `spelledParameters_eq`, `spelledBody_eq`, `spelledResponse_eq`: the parts of an endpoint in the
  words of a vocabulary
* `spelledEndpoint_eq`, `spelledEndpoints_eq`: the expansion of endpoints is their typing and then
  their spelling
-/

namespace ApiStencil

/-! ## Typing -/

/-- An endpoint whose types are not spelled yet. -/
abbrev TypedEndpoint := Endpoint TypeRef (Option TypeRef)

/-- A group whose types are not spelled yet. -/
abbrev TypedGroup := EndpointGroup TypeRef (Option TypeRef)

/-- Types the argument of a parameter. -/
def expandParameter (method path : String) (parameter : Parameter) :
    Except Fault (Argument TypeRef) :=
  match expandType parameter.schema none with
  | .error cause => .error (.unsupportedParameterType parameter.name method path cause)
  | .ok expansion =>
    if parameter.location = "path" then
      .ok { name := parameter.name, type := expansion.type, isOptional := false
            location := .path }
    else if parameter.location = "query" then
      .ok { name := parameter.name, type := expansion.type
            isOptional := !parameter.required, location := .query }
    else
      .error (.unsupportedParameterLocation parameter.name parameter.location method path)

/-- Types the body of an operation, which has at most one media type. -/
def expandBody (method path : String) (body : Option RequestBody) :
    Except Fault (Option (Payload TypeRef)) :=
  match (body.bind (·.content)).map (·.entries) with
  | none | some [] => .ok none
  | some [(mediaType, node)] =>
    match expandType node none with
    | .ok expansion => .ok (some { mediaType, type := expansion.type })
    | .error cause => .error (.unsupportedBodyType method path cause)
  | some (_ :: _ :: _) => .error (.multipleContentTypes method path)

/-- Types a payload of the success response, which must be JSON. -/
def expandPayload (method path : String) (payload : String × Descriptor) :
    Except Fault TypeRef :=
  if payload.1 ≠ jsonMediaType then
    .error (.unsupportedResponseContentType payload.1 method path)
  else
    match expandType payload.2 none with
    | .ok expansion => .ok expansion.type
    | .error cause => .error (.unsupportedResponseType method path cause)

/-- Types the response under the code 200, if it has content. -/
def expandResponse (method path : String) (responses : Dict String Response) :
    Except Fault (Option TypeRef) :=
  match (responses.get? "200").bind (·.content) with
  | none => .ok none
  | some content => do
    let types ← content.entries.mapM (expandPayload method path)
    return types.getLast?

/-- Types the endpoint of an operation. -/
def expandEndpoint (group path : String) (item : PathItem) (method : Method)
    (operation : Operation) : Except Fault TypedEndpoint := do
  let declared ← (mergeParameters item.parameters operation.parameters).mapM
    (expandParameter method.upperName path)
  let body ← expandBody method.upperName path operation.requestBody
  let response ← expandResponse method.upperName path operation.responses
  return {
    group
    method := method.name
    description := describeOperation item operation
    path
    declared
    body
    response }

/-- Types the group of a path, given the raw paths of the groups before it by name. -/
def expandGroup (seen : Dict String String) (path : String) (item : PathItem) :
    Except Fault TypedGroup :=
  match item.unsupportedKeys with
  | key :: _ => .error (.unsupportedPathItemKey key path)
  | [] =>
    let name := groupName path
    match seen.get? name with
    | some first => .error (.duplicateGroupName name first path)
    | none => do
      let endpoints ← item.operations.entries.mapM fun (method, operation) =>
        expandEndpoint name path item method operation
      return { name, path, endpoints := sortEndpoints endpoints }

/-- Types the groups of some paths, given the raw paths of the groups before them by name. -/
def expandGroupsFrom (seen : Dict String String) :
    List (String × PathItem) → Traced (List TypedGroup)
  | [] => return []
  | (path, item) :: rest => do
    let group ← Traced.ofExcept (expandGroup seen path item)
    Traced.report (Log.expandedGroup group)
    let groups ← expandGroupsFrom (seen.insert group.name path) rest
    return group :: groups

/-- Types the groups of all paths, in document order. -/
def expandEndpoints (paths : Dict String PathItem) : Traced (List TypedGroup) :=
  expandGroupsFrom Dict.empty paths.entries

/-! ## Spelling -/

namespace Endpoint

/-- The path with the placeholders of some parameters interpolated one after the other. -/
def interpolatePath (v : Vocabulary) (path : String) (names : List String) : String :=
  names.foldl (fun text name => Text.replaceString (placeholder name) (v.interpolate name) text)
    path

/-- An endpoint in the words of a vocabulary. Declared parameters are spelled as model code sees
them, the body and the response as endpoint code does. -/
def spell (v : Vocabulary) (e : TypedEndpoint) : Endpoint String String where
  group := e.group
  method := e.method
  description := e.description
  path := dropSlash (interpolatePath v e.path (e.pathArguments.map (·.name)))
  declared := e.declared.map fun a => { a with type := v.spell a.type }
  body := e.body.map fun payload => { payload with type := v.spellQualified payload.type }
  response := (e.response.map v.spellQualified).getD v.void

end Endpoint

/-- A group in the words of a vocabulary. -/
def EndpointGroup.spell (v : Vocabulary) (group : TypedGroup) : EndpointGroup String String where
  name := group.name
  path := group.path
  endpoints := group.endpoints.map (·.spell v)

/-! ## The parts of an endpoint -/

section Parts

variable (v : Vocabulary) (method path : String)

theorem spelledParameter_eq (parameter : Parameter) :
    spelledParameter v method path parameter =
      (fun a : Argument TypeRef => { a with type := v.spell a.type }) <$>
        expandParameter method path parameter := by
  unfold spelledParameter expandParameter
  rw [spelledExpansion_eq]
  cases expandType parameter.schema none with
  | error cause => rfl
  | ok expansion =>
    by_cases hpath : parameter.location = "path"
    · simp [hpath, Expansion.mapType]
    · by_cases hquery : parameter.location = "query"
      · simp [hquery, Expansion.mapType]
      · simp [hpath, hquery]

/-- Interpolating the arguments as they come leaves out those that travel elsewhere. -/
theorem foldl_interpolateArgument {τ : Type} (template : String) (arguments : List (Argument τ)) :
    arguments.foldl (Endpoint.interpolateArgument v) template =
      Endpoint.interpolatePath v template
        ((arguments.filter (·.location = .path)).map (·.name)) := by
  induction arguments generalizing template with
  | nil => rfl
  | cons argument rest ih =>
    rw [List.foldl_cons, ih, List.filter_cons]
    by_cases hpath : argument.location = .path <;>
      simp [Endpoint.interpolateArgument, Endpoint.interpolatePath, hpath]

/-- The parameters are spelled, and their path interpolated, once all of them are typed. -/
theorem spelledParameters_eq (template : String) (parameters : List Parameter) :
    spelledParameters v method path template parameters =
      (fun arguments : List (Argument TypeRef) =>
        (arguments.foldl (Endpoint.interpolateArgument v) template,
          arguments.map fun a => { a with type := v.spell a.type })) <$>
        parameters.mapM (expandParameter method path) := by
  induction parameters generalizing template with
  | nil => rfl
  | cons parameter rest ih =>
    rw [spelledParameters, List.mapM_cons, spelledParameter_eq, bind_map_left, map_bind]
    congr 1
    funext argument
    rw [ih, bind_map_left, map_bind]
    rfl

theorem spelledBody_eq (body : Option RequestBody) :
    spelledBody v method path body =
      Option.map (fun payload : Payload TypeRef =>
        { payload with type := v.spellQualified payload.type }) <$>
        expandBody method path body := by
  unfold spelledBody expandBody
  generalize (body.bind fun b => b.content).map _ = payloads
  rcases payloads with _ | _ | ⟨⟨mediaType, node⟩, _ | ⟨second, more⟩⟩
  · rfl
  · rfl
  · simp only [spelledExpansion_eq]
    cases expandType node none <;> rfl
  · rfl

theorem spelledPayload_eq (payload : String × Descriptor) :
    spelledPayload v method path payload =
      v.spellQualified <$> expandPayload method path payload := by
  unfold spelledPayload expandPayload
  split
  · rfl
  · rw [spelledExpansion_eq]
    cases expandType payload.2 none <;> rfl

/-- Of the payloads of a response the last one decides. -/
theorem foldlM_spelledPayload (type : String) (payloads : List (String × Descriptor)) :
    payloads.foldlM (fun _ payload => spelledPayload v method path payload) type =
      (fun types : List TypeRef => (types.getLast?.map v.spellQualified).getD type) <$>
        payloads.mapM (expandPayload method path) := by
  induction payloads generalizing type with
  | nil => rfl
  | cons payload rest ih =>
    rw [List.foldlM_cons, List.mapM_cons, spelledPayload_eq, bind_map_left, map_bind]
    congr 1
    funext first
    rw [ih, map_bind, ← bind_pure_comp]
    congr 1
    funext types
    cases types with
    | nil => rfl
    | cons next more =>
      have hlast := List.getLast?_eq_some_getLast (List.cons_ne_nil next more)
      rw [map_pure, List.getLast?_cons_cons, hlast]
      rfl

theorem spelledResponse_eq (responses : Dict String Response) :
    spelledResponse v method path responses =
      (fun response : Option TypeRef => (response.map v.spellQualified).getD v.void) <$>
        expandResponse method path responses := by
  unfold spelledResponse expandResponse
  generalize (responses.get? "200").bind (fun response => response.content) = content
  cases content with
  | none => rfl
  | some content =>
    simp only [foldlM_spelledPayload, bind_pure_comp, Functor.map_map]

end Parts

/-! ## Endpoints and groups -/

section Runs

variable {v : Vocabulary}

variable (v) in
/-- **Endpoints are typed and then spelled.** The expansion of an operation, which takes its
vocabulary to the parameters, the body and the response, fails as their typing does, and it gives
the typed endpoint in the words of the vocabulary. -/
theorem spelledEndpoint_eq (group path : String) (item : PathItem) (method : Method)
    (operation : Operation) :
    spelledEndpoint v group path item method operation =
      Endpoint.spell v <$> expandEndpoint group path item method operation := by
  simp only [spelledEndpoint, expandEndpoint, spelledParameters_eq, spelledBody_eq,
    spelledResponse_eq, bind_map_left, map_bind, foldl_interpolateArgument]
  rfl

theorem spelledEndpoint_eq_ok_iff {group path : String} {item : PathItem} {method : Method}
    {operation : Operation} {spelled : Endpoint String String} :
    spelledEndpoint v group path item method operation = .ok spelled ↔
      ∃ endpoint, expandEndpoint group path item method operation = .ok endpoint ∧
        endpoint.spell v = spelled := by
  rw [spelledEndpoint_eq, Except.map_eq_ok_iff]

variable (v)

theorem spelledGroup_eq (seen : Dict String String) (path : String) (item : PathItem) :
    spelledGroup v seen path item = EndpointGroup.spell v <$> expandGroup seen path item := by
  have hsort := sortEndpoints_map (f := Endpoint.spell v) fun _ => rfl
  unfold spelledGroup expandGroup
  cases item.unsupportedKeys with
  | cons key keys => rfl
  | nil =>
    simp only [spelledEndpoint_eq]
    cases seen.get? (groupName path) with
    | some first => rfl
    | none =>
      simp only [mapM_map, bind_map_left, map_bind, hsort]
      rfl

theorem expandedGroup_spell (group : TypedGroup) :
    Log.expandedGroup (group.spell v) = Log.expandedGroup group := by
  simp [Log.expandedGroup, EndpointGroup.spell]

theorem spelledGroupsFrom_eq (seen : Dict String String) (entries : List (String × PathItem)) :
    spelledGroupsFrom v seen entries =
      List.map (EndpointGroup.spell v) <$> expandGroupsFrom seen entries := by
  induction entries generalizing seen with
  | nil => rfl
  | cons entry rest ih =>
    obtain ⟨path, item⟩ := entry
    rw [spelledGroupsFrom, expandGroupsFrom, spelledGroup_eq, Traced.ofExcept_map, bind_map_left,
      map_bind]
    congr 1
    funext group
    simp only [expandedGroup_spell, ih, bind_map_left, map_bind, map_pure, List.map_cons]
    rfl

/-- **The endpoints of a document are typed and then spelled.** -/
theorem spelledEndpoints_eq (paths : Dict String PathItem) :
    spelledEndpoints v paths = List.map (EndpointGroup.spell v) <$> expandEndpoints paths :=
  spelledGroupsFrom_eq v Dict.empty paths.entries

end Runs

end ApiStencil

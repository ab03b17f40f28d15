import ApiStencil.Proofs.Endpoint.Expansion
import ApiStencil.Proofs.FirstFault
import ApiStencil.Proofs.Typing.Expansion

/-!
# The faults of the paths of a document

Which paths the expansion accepts, and which fault it reports of those that it does not. Each check
is looked at for itself: what is wrong with a parameter, a body, a response, an operation and a path
is listed in the order of the document. The expansion stops at the first fault of the list.

## Main definitions

* `Parameter.IsSupported`, `RequestBody.IsSupported`, `Operation.IsSupported`, `PathsSupported`:
  what the expansion accepts
* `parameterFaults`, `bodyFaults`, `payloadFaults`, `operationFaults`, `pathFaults`,
  `endpointFaults`: what is wrong, in order

## Main results

* `stopsAtFirst_expandEndpoint`, `stopsAtFirst_expandGroupsFrom`: where the expansion stops
* `endpointFaults_eq_nil_iff`: nothing is wrong exactly with what is accepted
* `spelledEndpoints_result`: when the expansion succeeds, and how it fails
-/

namespace ApiStencil

variable {method path : String}

/-! ## What is accepted -/

/-- A parameter that has a type and travels in the path or in the query. -/
structure Parameter.IsSupported (parameter : Parameter) : Prop where
  typable : parameter.schema.IsTypable
  location : parameter.location = "path" ∨ parameter.location = "query"

/-- The media types and descriptors of the payloads of a body. -/
def RequestBody.payloads (body : Option RequestBody) : List (String × Descriptor) :=
  ((body.bind (·.content)).map (·.entries)).getD []

/-- A body with at most one payload, which has a type. -/
def RequestBody.IsSupported (body : Option RequestBody) : Prop :=
  RequestBody.payloads body = [] ∨
    ∃ mediaType node, RequestBody.payloads body = [(mediaType, node)] ∧ node.IsTypable

/-- The media types and descriptors of the payloads of the success response. -/
def Operation.successPayloads (operation : Operation) : List (String × Descriptor) :=
  (((operation.responses.get? "200").bind (·.content)).map (·.entries)).getD []

/-- An operation of which parameters, body and success response are accepted. The first are those of
its path, too, which are given by `shared`. -/
structure Operation.IsSupported (shared : List Parameter) (operation : Operation) : Prop where
  parameters : ∀ parameter ∈ mergeParameters shared operation.parameters, parameter.IsSupported
  body : RequestBody.IsSupported operation.requestBody
  response : operation.successPayloads = [] ∨
    ∃ node, operation.successPayloads = [(jsonMediaType, node)] ∧ node.IsTypable

/-- Some paths with supported keys, with names of their own and with supported operations. -/
structure PathsSupported (entries : List (String × PathItem)) : Prop where
  keys : ∀ entry ∈ entries, entry.2.unsupportedKeys = []
  names : (entries.map fun entry => groupName entry.1).Nodup
  operations : ∀ entry ∈ entries, ∀ operation ∈ entry.2.operations.values,
    operation.IsSupported entry.2.parameters

/-! ## What is wrong -/

/-- What is wrong with a parameter: its type, and then its location. -/
def parameterFaults (method path : String) (parameter : Parameter) : List Fault :=
  typeFaults (.unsupportedParameterType parameter.name method path) parameter.schema ++
    if parameter.location = "path" ∨ parameter.location = "query" then []
    else [.unsupportedParameterLocation parameter.name parameter.location method path]

/-- What is wrong with a body: the number of its payloads, and then their types. -/
def bodyFaults (method path : String) (body : Option RequestBody) : List Fault :=
  (if 1 < (RequestBody.payloads body).length then [.multipleContentTypes method path] else []) ++
    (RequestBody.payloads body).flatMap fun payload =>
      typeFaults (.unsupportedBodyType method path) payload.2

/-- What is wrong with a payload of a success response: its media type, and then its type. -/
def payloadFaults (method path : String) (payload : String × Descriptor) : List Fault :=
  (if payload.1 = jsonMediaType then []
    else [.unsupportedResponseContentType payload.1 method path]) ++
    typeFaults (.unsupportedResponseType method path) payload.2

/-- What is wrong with an operation: with its parameters, its body and its success response. -/
def operationFaults (path : String) (item : PathItem) (entry : Method × Operation) : List Fault :=
  (mergeParameters item.parameters entry.2.parameters).flatMap
      (parameterFaults entry.1.upperName path) ++
    (bodyFaults entry.1.upperName path entry.2.requestBody ++
      entry.2.successPayloads.flatMap (payloadFaults entry.1.upperName path))

/-- The fault of a path whose group has the name of an earlier one. -/
def nameFaults (before : List String) (path : String) : List Fault :=
  match before.find? (groupName · = groupName path) with
  | some first => [.duplicateGroupName (groupName path) first path]
  | none => []

/-- What is wrong with a path that comes after some others: its keys, its name and its operations,
in the order of the document. -/
def pathFaults (before : List String) (entry : String × PathItem) : List Fault :=
  entry.2.unsupportedKeys.map (.unsupportedPathItemKey · entry.1) ++
    (nameFaults before entry.1 ++
      entry.2.operations.entries.flatMap (operationFaults entry.1 entry.2))

/-- What is wrong with some paths that come after some others. -/
def endpointFaultsFrom (before : List String) : List (String × PathItem) → List Fault
  | [] => []
  | entry :: rest => pathFaults before entry ++ endpointFaultsFrom (before ++ [entry.1]) rest

/-- What is wrong with the paths of a document, in its order. -/
def endpointFaults (paths : Dict String PathItem) : List Fault :=
  endpointFaultsFrom [] paths.entries

/-! ## Where the expansion stops -/

theorem stopsAtFirst_expandParameter (parameter : Parameter) :
    StopsAtFirst (parameterFaults method path parameter)
      (expandParameter method path parameter) := by
  unfold parameterFaults typeFaults expandParameter
  cases expandType parameter.schema none with
  | error cause => exact rfl
  | ok expansion =>
    by_cases hpath : parameter.location = "path"
    · simp only [hpath, true_or, if_true]
      exact .ok _
    by_cases hquery : parameter.location = "query"
    · simp only [hquery, or_true, if_true]
      exact .ok _
    · simp only [hpath, hquery, or_self, if_false]
      exact rfl

theorem stopsAtFirst_expandBody (body : Option RequestBody) :
    StopsAtFirst (bodyFaults method path body) (expandBody method path body) := by
  unfold bodyFaults RequestBody.payloads expandBody
  generalize (body.bind (·.content)).map (·.entries) = payloads
  rcases payloads with _ | _ | ⟨⟨mediaType, node⟩, _ | ⟨second, rest⟩⟩
  · exact .ok none
  · exact .ok none
  · simp only [Option.getD_some, List.length_singleton, Nat.lt_irrefl, if_false, List.nil_append,
      List.flatMap_singleton, typeFaults]
    cases expandType node none with
    | ok expansion => exact .ok _
    | error cause => exact rfl
  · have hmany : 1 < ((mediaType, node) :: second :: rest).length := by simp
    simp only [Option.getD_some, if_pos hmany]
    exact rfl

theorem stopsAtFirst_expandPayload (payload : String × Descriptor) :
    StopsAtFirst (payloadFaults method path payload) (expandPayload method path payload) := by
  unfold payloadFaults typeFaults expandPayload
  by_cases hjson : payload.1 = jsonMediaType
  · rw [if_pos hjson, if_neg (not_not.mpr hjson)]
    cases expandType payload.2 none with
    | ok expansion => exact .ok expansion.type
    | error cause => exact rfl
  · rw [if_neg hjson, if_pos hjson]
    exact rfl

theorem stopsAtFirst_expandResponse (operation : Operation) :
    StopsAtFirst (operation.successPayloads.flatMap (payloadFaults method path))
      (expandResponse method path operation.responses) := by
  unfold Operation.successPayloads expandResponse
  cases (operation.responses.get? "200").bind (·.content) with
  | none => exact .ok none
  | some content =>
    have hpayloads : StopsAtFirst (content.entries.flatMap (payloadFaults method path))
        (content.entries.mapM (expandPayload method path)) :=
      .mapM fun payload _ => stopsAtFirst_expandPayload payload
    exact hpayloads.map

/-- An operation is looked through from its parameters to its response. -/
theorem stopsAtFirst_expandEndpoint (group : String) (item : PathItem)
    (entry : Method × Operation) :
    StopsAtFirst (operationFaults path item entry)
      (expandEndpoint group path item entry.1 entry.2) := by
  unfold operationFaults expandEndpoint
  have hparameters : StopsAtFirst
      ((mergeParameters item.parameters entry.2.parameters).flatMap
        (parameterFaults entry.1.upperName path))
      ((mergeParameters item.parameters entry.2.parameters).mapM
        (expandParameter entry.1.upperName path)) :=
    .mapM fun parameter _ => stopsAtFirst_expandParameter parameter
  refine hparameters.bind fun declared _ => ?_
  refine (stopsAtFirst_expandBody _).bind fun body _ => ?_
  exact (stopsAtFirst_expandResponse entry.2).map

theorem nameFaults_eq_nil_iff {before : List String} :
    nameFaults before path = [] ↔ before.find? (groupName · = groupName path) = none := by
  unfold nameFaults
  cases before.find? (groupName · = groupName path) <;> simp

/-- A path is looked at for its keys, then for its name, and then for its operations. -/
theorem stopsAtFirst_expandGroup {seen : Dict String String} {before : List String}
    (hseen : ∀ name, seen.get? name = before.find? (groupName · = name))
    (entry : String × PathItem) :
    StopsAtFirst (pathFaults before entry) (expandGroup seen entry.1 entry.2) := by
  unfold pathFaults nameFaults expandGroup
  cases entry.2.unsupportedKeys with
  | cons key keys => exact rfl
  | nil =>
    simp only [hseen, List.map_nil, List.nil_append]
    cases before.find? (groupName · = groupName entry.1) with
    | some first => exact rfl
    | none =>
      have hoperations : StopsAtFirst
          (entry.2.operations.entries.flatMap (operationFaults entry.1 entry.2))
          (entry.2.operations.entries.mapM fun operation =>
            expandEndpoint (groupName entry.1) entry.1 entry.2 operation.1 operation.2) :=
        .mapM fun operation _ => stopsAtFirst_expandEndpoint _ _ operation
      exact hoperations.map

/-- The paths are looked at one after the other. The names that are taken are those of the paths
before. -/
theorem stopsAtFirst_expandGroupsFrom {seen : Dict String String} {before : List String}
    (hseen : ∀ name, seen.get? name = before.find? (groupName · = name))
    (entries : List (String × PathItem)) :
    StopsAtFirst (endpointFaultsFrom before entries) (expandGroupsFrom seen entries).result := by
  induction entries generalizing seen before with
  | nil => exact .ok []
  | cons entry rest ih =>
    obtain ⟨path, item⟩ := entry
    rw [endpointFaultsFrom, expandGroupsFrom, Traced.result_bind]
    refine (stopsAtFirst_expandGroup hseen (path, item)).bind fun group hgroup => ?_
    obtain ⟨endpoints, -, rfl⟩ := expandGroup_eq_ok hgroup
    have hnone : before.find? (groupName · = groupName path) = none := by
      have hfaults := (stopsAtFirst_expandGroup hseen (path, item)).exists_ok_iff.mp ⟨_, hgroup⟩
      have hlater := (List.append_eq_nil_iff.mp hfaults).2
      exact nameFaults_eq_nil_iff.mp (List.append_eq_nil_iff.mp hlater).1
    have hnext : ∀ name, (seen.insert (groupName path) path).get? name =
        (before ++ [path]).find? (groupName · = name) := by
      intro name
      rw [Dict.get?_insert, hseen, List.find?_append]
      by_cases hname : name = groupName path
      · subst hname
        simp [hnone]
      · simp [hname, Ne.symm hname]
    simp only [Traced.result_bind]
    exact (ih hnext).map

/-! ## Nothing is wrong with what is accepted -/

theorem parameterFaults_eq_nil_iff {parameter : Parameter} :
    parameterFaults method path parameter = [] ↔ parameter.IsSupported := by
  rw [parameterFaults, List.append_eq_nil_iff, typeFaults_eq_nil_iff]
  constructor
  · rintro ⟨htypable, hlocation⟩
    refine ⟨htypable, ?_⟩
    by_contra hother
    simp [hother] at hlocation
  · rintro ⟨htypable, hlocation⟩
    exact ⟨htypable, if_pos hlocation⟩

theorem bodyFaults_eq_nil_iff {body : Option RequestBody} :
    bodyFaults method path body = [] ↔ RequestBody.IsSupported body := by
  unfold bodyFaults RequestBody.IsSupported
  rcases RequestBody.payloads body with _ | ⟨⟨mediaType, node⟩, _ | ⟨second, rest⟩⟩
  · simp
  · simp [typeFaults_eq_nil_iff]
  · simp

theorem payloadFaults_eq_nil_iff {payload : String × Descriptor} :
    payloadFaults method path payload = [] ↔
      payload.1 = jsonMediaType ∧ payload.2.IsTypable := by
  rw [payloadFaults, List.append_eq_nil_iff, typeFaults_eq_nil_iff]
  by_cases hjson : payload.1 = jsonMediaType <;> simp [hjson]

theorem nodup_successPayloads (operation : Operation) :
    (operation.successPayloads.map (·.1)).Nodup := by
  unfold Operation.successPayloads
  cases (operation.responses.get? "200").bind (·.content) with
  | none => exact List.nodup_nil
  | some content => exact content.nodup_keys

/-- All payloads of a success response are JSON, so there is at most one. -/
theorem successFaults_eq_nil_iff {operation : Operation} :
    operation.successPayloads.flatMap (payloadFaults method path) = [] ↔
      operation.successPayloads = [] ∨
        ∃ node, operation.successPayloads = [(jsonMediaType, node)] ∧ node.IsTypable := by
  have hkeys := nodup_successPayloads operation
  simp only [List.flatMap_eq_nil_iff, payloadFaults_eq_nil_iff]
  generalize operation.successPayloads = payloads at hkeys ⊢
  rcases payloads with _ | ⟨⟨mediaType, node⟩, _ | ⟨second, rest⟩⟩
  · simp
  · simp [and_assoc]
  · refine iff_of_false (fun h => ?_) (by simp)
    have hfirst := (h _ (List.mem_cons_self ..)).1
    have hsecond := (h second (by simp)).1
    simp_all

theorem operationFaults_eq_nil_iff {item : PathItem} {entry : Method × Operation} :
    operationFaults path item entry = [] ↔ entry.2.IsSupported item.parameters := by
  rw [operationFaults, List.append_eq_nil_iff, List.append_eq_nil_iff, List.flatMap_eq_nil_iff,
    bodyFaults_eq_nil_iff, successFaults_eq_nil_iff]
  simp only [parameterFaults_eq_nil_iff]
  exact ⟨fun h => ⟨h.1, h.2.1, h.2.2⟩, fun h => ⟨h.parameters, h.body, h.response⟩⟩

theorem pathFaults_eq_nil_iff {before : List String} {entry : String × PathItem} :
    pathFaults before entry = [] ↔ entry.2.unsupportedKeys = [] ∧
      groupName entry.1 ∉ before.map groupName ∧
      ∀ operation ∈ entry.2.operations.values, operation.IsSupported entry.2.parameters := by
  rw [pathFaults, List.append_eq_nil_iff, List.append_eq_nil_iff, List.map_eq_nil_iff,
    nameFaults_eq_nil_iff, List.flatMap_eq_nil_iff, Dict.values, List.forall_mem_map]
  simp only [operationFaults_eq_nil_iff, List.find?_eq_none, List.mem_map, decide_eq_true_eq,
    not_exists, not_and]

/-- Nothing is wrong with some paths that come after some others exactly if they are supported and
have none of the names that are taken. -/
theorem endpointFaultsFrom_eq_nil_iff {before : List String}
    {entries : List (String × PathItem)} :
    endpointFaultsFrom before entries = [] ↔ PathsSupported entries ∧
      ∀ entry ∈ entries, groupName entry.1 ∉ before.map groupName := by
  induction entries generalizing before with
  | nil => exact iff_of_true rfl ⟨⟨by simp, by simp, by simp⟩, by simp⟩
  | cons entry rest ih =>
    rw [endpointFaultsFrom, List.append_eq_nil_iff, pathFaults_eq_nil_iff, ih]
    simp only [List.map_append, List.map_cons, List.map_nil, List.mem_append, List.mem_singleton,
      not_or]
    constructor
    · rintro ⟨⟨hkeys, hname, hoperations⟩, hrest, hnames⟩
      refine ⟨⟨?_, ?_, ?_⟩, ?_⟩
      · exact List.forall_mem_cons.mpr ⟨hkeys, hrest.keys⟩
      · rw [List.map_cons, List.nodup_cons]
        refine ⟨fun hmem => ?_, hrest.names⟩
        obtain ⟨other, hother, heq⟩ := List.mem_map.mp hmem
        exact (hnames other hother).2 heq
      · exact List.forall_mem_cons.mpr ⟨hoperations, hrest.operations⟩
      · exact List.forall_mem_cons.mpr ⟨hname, fun other hother => (hnames other hother).1⟩
    · rintro ⟨h, hnames⟩
      have hnodup := h.names
      rw [List.map_cons, List.nodup_cons] at hnodup
      obtain ⟨hname, hnames⟩ := List.forall_mem_cons.mp hnames
      obtain ⟨hkeys, hkeys'⟩ := List.forall_mem_cons.mp h.keys
      obtain ⟨hoperations, hoperations'⟩ := List.forall_mem_cons.mp h.operations
      refine ⟨⟨hkeys, hname, hoperations⟩, ⟨hkeys', hnodup.2, hoperations'⟩, ?_⟩
      intro other hother
      exact ⟨hnames other hother, fun heq => hnodup.1 (heq ▸ List.mem_map_of_mem hother)⟩

theorem endpointFaultsFrom_append {before : List String} {entries more : List (String × PathItem)} :
    endpointFaultsFrom before (entries ++ more) =
      endpointFaultsFrom before entries ++
        endpointFaultsFrom (before ++ entries.map Prod.fst) more := by
  induction entries generalizing before with
  | nil => rw [List.map_nil, List.append_nil]; rfl
  | cons entry entries ih =>
    rw [List.cons_append, endpointFaultsFrom, endpointFaultsFrom, ih, List.append_assoc,
      List.map_cons, List.append_assoc, List.singleton_append]

/-! ## The endpoints of a document -/

theorem stopsAtFirst_expandEndpoints (paths : Dict String PathItem) :
    StopsAtFirst (endpointFaults paths) (expandEndpoints paths).result := by
  have hnone : ∀ name, Dict.empty.get? name = [].find? (groupName · = name) := fun _ => rfl
  exact stopsAtFirst_expandGroupsFrom hnone paths.entries

theorem endpointFaults_eq_nil_iff {paths : Dict String PathItem} :
    endpointFaults paths = [] ↔ PathsSupported paths.entries := by
  rw [endpointFaults, endpointFaultsFrom_eq_nil_iff]
  simp

theorem stopsAtFirst_spelledEndpoints (v : Vocabulary) (paths : Dict String PathItem) :
    StopsAtFirst (endpointFaults paths) (spelledEndpoints v paths).result := by
  rw [spelledEndpoints_eq, Traced.result_map]
  exact (stopsAtFirst_expandEndpoints paths).map

/-- **Endpoints and their first fault.** The paths of a document give their endpoints exactly if no
path has an unsupported key, no two of them have one group name, and every operation is supported:
each of its parameters has a type and travels in the path or the query, its body has at most one
payload and that has a type, and its success response has no payload or just one in JSON that has a
type. Otherwise the run ends in the first fault in the order of the document. -/
theorem spelledEndpoints_result (v : Vocabulary) (paths : Dict String PathItem) :
    ((∃ groups, (spelledEndpoints v paths).result = .ok groups) ↔
        PathsSupported paths.entries) ∧
      ∀ fault, (spelledEndpoints v paths).result = .error fault ↔
        (endpointFaults paths).head? = some fault := by
  have hstops := stopsAtFirst_spelledEndpoints v paths
  refine ⟨?_, fun fault => hstops.eq_error_iff⟩
  rw [hstops.exists_ok_iff, endpointFaults, endpointFaultsFrom_eq_nil_iff]
  simp

end ApiStencil

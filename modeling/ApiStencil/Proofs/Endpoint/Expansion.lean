import ApiStencil.Proofs.Endpoint.Typed

/-!
# The endpoints of a successful expansion

What the parts of an operation give when the expansion of a document succeeds: each part is typed
by its descriptor alone, and the group of a path does not depend on the groups before it.

## Main definitions

* `RequestBody.descriptors`, `Operation.successDescriptors`: the descriptors of the payloads
* `pathGroups`: the groups of some paths, as a function of each path

## Main results

* `expandParameter_eq_ok`, `expandBody_eq_ok`, `expandResponse_eq_ok`: the parts of an operation
* `expandEndpoint_eq_ok`, `expandGroup_eq_ok`: one endpoint and one group
* `expandEndpoints_eq_ok`, `eq_pathGroups_of_expandEndpoints`: the groups of all paths
-/

namespace ApiStencil

variable {method path : String}

/-! ## Parts of an operation -/

theorem expandParameter_eq_ok {parameter : Parameter} {argument : Argument TypeRef}
    (h : expandParameter method path parameter = .ok argument) :
    argument.name = parameter.name ∧ ∃ expansion,
      expandType parameter.schema none = .ok expansion ∧ argument.type = expansion.type := by
  unfold expandParameter at h
  split at h
  · cases h
  · next expansion hx =>
    split at h
    · cases h
      exact ⟨rfl, expansion, hx, rfl⟩
    · split at h
      · cases h
        exact ⟨rfl, expansion, hx, rfl⟩
      · cases h

/-- The descriptors of the payloads of a body. -/
def RequestBody.descriptors (body : Option RequestBody) : List Descriptor :=
  ((body.bind (·.content)).map (·.values)).getD []

/-- At most one descriptor is there, and it gives the type. -/
def TypedBy (nodes : List Descriptor) (type? : Option TypeRef) : Prop :=
  nodes = [] ∧ type? = none ∨
    ∃ node expansion, nodes = [node] ∧ expandType node none = .ok expansion ∧
      type? = some expansion.type

/-- A body has at most one payload, which types it. -/
theorem expandBody_eq_ok {body : Option RequestBody} {payload : Option (Payload TypeRef)}
    (h : expandBody method path body = .ok payload) :
    TypedBy (RequestBody.descriptors body) (payload.map (·.type)) := by
  unfold expandBody at h
  unfold RequestBody.descriptors Dict.values
  cases hc : body.bind (·.content) with
  | none =>
    rw [hc] at h
    obtain rfl := Except.ok.inj h
    exact .inl ⟨rfl, rfl⟩
  | some content =>
    rw [hc] at h
    simp only [Option.map_some, Option.getD_some] at h ⊢
    split at h
    · contradiction
    · next hentries =>
      rw [Option.some.inj hentries]
      obtain rfl := Except.ok.inj h
      exact .inl ⟨rfl, rfl⟩
    · next mediaType node hentries =>
      rw [Option.some.inj hentries]
      split at h
      · next expansion hx =>
        cases h
        exact .inr ⟨node, expansion, rfl, hx, rfl⟩
      · cases h
    · cases h

/-- The descriptors of the payloads of the success response. -/
def Operation.successDescriptors (operation : Operation) : List Descriptor :=
  (((operation.responses.get? "200").bind (·.content)).map (·.values)).getD []

theorem expandPayload_eq_ok {payload : String × Descriptor} {type : TypeRef}
    (h : expandPayload method path payload = .ok type) :
    payload.1 = jsonMediaType ∧ ∃ expansion,
      expandType payload.2 none = .ok expansion ∧ type = expansion.type := by
  unfold expandPayload at h
  split at h
  · cases h
  · next hjson =>
    refine ⟨not_not.mp hjson, ?_⟩
    split at h
    · next expansion hx => exact ⟨expansion, hx, (Except.ok.inj h).symm⟩
    · cases h

/-- All payloads of a success response are JSON, so there is at most one, which types it. -/
theorem expandResponse_eq_ok {operation : Operation} {response : Option TypeRef}
    (h : expandResponse method path operation.responses = .ok response) :
    TypedBy operation.successDescriptors response := by
  unfold expandResponse at h
  unfold Operation.successDescriptors Dict.values
  cases hc : (operation.responses.get? "200").bind (·.content) with
  | none =>
    rw [hc] at h
    exact .inl ⟨rfl, (Except.ok.inj h).symm⟩
  | some content =>
    rw [hc] at h
    obtain ⟨types, htypes, hlast⟩ := Except.bind_eq_ok_iff.mp h
    rw [Except.mapM_eq_ok_iff] at htypes
    have hkeys := content.nodup_keys
    simp only [Option.map_some, Option.getD_some]
    generalize content.entries = entries at htypes hkeys
    rcases htypes with - | ⟨hfirst, hrest⟩
    · exact .inl ⟨rfl, (Except.ok.inj hlast).symm⟩
    · obtain ⟨hjson, expansion, hx, rfl⟩ := expandPayload_eq_ok hfirst
      rcases hrest with - | ⟨hsecond, -⟩
      · exact .inr ⟨_, expansion, rfl, hx, (Except.ok.inj hlast).symm⟩
      · obtain ⟨hjson', -⟩ := expandPayload_eq_ok hsecond
        simp [hjson, hjson'] at hkeys

/-! ## Endpoints and groups -/

theorem expandEndpoint_eq_ok {group : String} {item : PathItem} {key : Method}
    {operation : Operation} {endpoint : TypedEndpoint}
    (h : expandEndpoint group path item key operation = .ok endpoint) :
    List.Forall₂ (fun parameter argument =>
        expandParameter key.upperName path parameter = .ok argument)
      (mergeParameters item.parameters operation.parameters) endpoint.declared ∧
    expandBody key.upperName path operation.requestBody = .ok endpoint.body ∧
    expandResponse key.upperName path operation.responses = .ok endpoint.response := by
  obtain ⟨declared, hdeclared, h⟩ := Except.bind_eq_ok_iff.mp h
  obtain ⟨body, hbody, h⟩ := Except.bind_eq_ok_iff.mp h
  obtain ⟨response, hresponse, h⟩ := Except.bind_eq_ok_iff.mp h
  cases h
  exact ⟨Except.mapM_eq_ok_iff.mp hdeclared, hbody, hresponse⟩

theorem origin_of_expandEndpoint {group : String} {item : PathItem} {key : Method}
    {operation : Operation} {endpoint : TypedEndpoint}
    (h : expandEndpoint group path item key operation = .ok endpoint) :
    endpoint.group = group ∧ endpoint.method = key.name ∧ endpoint.path = path := by
  obtain ⟨declared, -, h⟩ := Except.bind_eq_ok_iff.mp h
  obtain ⟨body, -, h⟩ := Except.bind_eq_ok_iff.mp h
  obtain ⟨response, -, h⟩ := Except.bind_eq_ok_iff.mp h
  cases h
  exact ⟨rfl, rfl, rfl⟩

/-- The groups before it decide only whether a group may have its name. -/
theorem expandGroup_eq_ok {seen : Dict String String} {item : PathItem} {group : TypedGroup}
    (h : expandGroup seen path item = .ok group) :
    ∃ endpoints, List.Forall₂ (fun entry endpoint =>
        expandEndpoint (groupName path) path item entry.1 entry.2 = .ok endpoint)
      item.operations.entries endpoints ∧
      group = { name := groupName path, path, endpoints := sortEndpoints endpoints } := by
  unfold expandGroup at h
  split at h
  · cases h
  · dsimp only at h
    split at h
    · cases h
    · obtain ⟨endpoints, hendpoints, h⟩ := Except.bind_eq_ok_iff.mp h
      exact ⟨endpoints, Except.mapM_eq_ok_iff.mp hendpoints, (Except.ok.inj h).symm⟩

theorem expandGroupsFrom_eq_ok {seen : Dict String String} {entries : List (String × PathItem)}
    {groups : List TypedGroup} (h : (expandGroupsFrom seen entries).result = .ok groups) :
    List.Forall₂ (fun entry group => ∃ seen, expandGroup seen entry.1 entry.2 = .ok group)
      entries groups := by
  induction entries generalizing seen groups with
  | nil =>
    cases h
    exact .nil
  | cons entry rest ih =>
    obtain ⟨path, item⟩ := entry
    rw [expandGroupsFrom, Traced.result_bind, Except.bind_eq_ok_iff] at h
    obtain ⟨group, hgroup, h⟩ := h
    rw [Traced.result_bind, Except.bind_eq_ok_iff] at h
    obtain ⟨-, -, h⟩ := h
    rw [Traced.result_bind, Except.bind_eq_ok_iff] at h
    obtain ⟨groups, hgroups, h⟩ := h
    cases h
    exact .cons ⟨seen, hgroup⟩ (ih hgroups)

/-- Every path gives its group, in the order of the document. -/
theorem expandEndpoints_eq_ok {paths : Dict String PathItem} {groups : List TypedGroup}
    (h : (expandEndpoints paths).result = .ok groups) :
    List.Forall₂ (fun entry group => ∃ seen, expandGroup seen entry.1 entry.2 = .ok group)
      paths.entries groups :=
  expandGroupsFrom_eq_ok h

/-- A group that may have its name may have it when no group is before it, too. -/
theorem expandGroup_empty {seen : Dict String String} {item : PathItem} {group : TypedGroup}
    (h : expandGroup seen path item = .ok group) :
    expandGroup Dict.empty path item = .ok group := by
  unfold expandGroup at h ⊢
  split at h
  · cases h
  · dsimp only at h
    split at h
    · cases h
    · exact h

/-- The groups of some paths, each one as if it were the first. -/
def pathGroups (paths : Dict String PathItem) : List TypedGroup :=
  paths.entries.filterMap fun entry => (expandGroup Dict.empty entry.1 entry.2).toOption

/-- A path gives the same group wherever it stands in the document. -/
theorem eq_pathGroups_of_expandEndpoints {paths : Dict String PathItem} {groups : List TypedGroup}
    (h : (expandEndpoints paths).result = .ok groups) : groups = pathGroups paths := by
  have hgroups := expandEndpoints_eq_ok h
  clear h
  unfold pathGroups
  generalize paths.entries = entries at hgroups ⊢
  induction hgroups with
  | nil => rfl
  | cons hgroup _ ih =>
    obtain ⟨seen, hgroup⟩ := hgroup
    rw [List.filterMap_cons, expandGroup_empty hgroup]
    exact congrArg _ ih

/-- The groups are those of the paths, and named after them. -/
theorem forall₂_of_expandEndpoints {paths : Dict String PathItem} {groups : List TypedGroup}
    (h : (expandEndpoints paths).result = .ok groups) :
    List.Forall₂ (fun entry group => entry.1 = group.path ∧ groupName entry.1 = group.name)
      paths.entries groups := by
  refine (expandEndpoints_eq_ok h).imp fun entry group hgroup => ?_
  obtain ⟨seen, hgroup⟩ := hgroup
  obtain ⟨endpoints, -, rfl⟩ := expandGroup_eq_ok hgroup
  exact ⟨rfl, rfl⟩

theorem paths_of_expandEndpoints {paths : Dict String PathItem} {groups : List TypedGroup}
    (h : (expandEndpoints paths).result = .ok groups) : groups.map (·.path) = paths.keys :=
  (map_eq_map_of_forall₂ (forall₂_of_expandEndpoints h) fun _ _ => And.left).symm

theorem names_of_expandEndpoints {paths : Dict String PathItem} {groups : List TypedGroup}
    (h : (expandEndpoints paths).result = .ok groups) :
    groups.map (·.name) = paths.entries.map fun entry => groupName entry.1 :=
  (map_eq_map_of_forall₂ (forall₂_of_expandEndpoints h) fun _ _ => And.right).symm

end ApiStencil

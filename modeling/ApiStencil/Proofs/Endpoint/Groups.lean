import ApiStencil.Proofs.Endpoint.Faults
import ApiStencil.Proofs.Sorting
import Mathlib.Data.List.Nodup

/-!
# Groups and the paths that they come from

A document that expands has a group for each path and an endpoint for each operation on it. What an
operation gives is a function of its path, of the operation itself and of what the path item says
for all its operations. So neither the other operations on the path nor the other paths have a part
in it.

## Main definitions

* `operationEndpoint?`: the endpoint of an operation, by all that it depends on
* `EndpointGroup.Mirrors`: a group has one endpoint for each operation, in the order of the methods
* `endpointsFor`: the endpoints of a method on a path
* `PathItem.SharesOperation`: two path items that agree on one operation

## Main results

* `mirrors_of_expandGroup`: the group of a path mirrors its operations
* `endpointsFor_eq`: which endpoints there are for a method on a path
* `spelledEndpoints_mirror`: groups mirror the paths, and operations do not depend on each other
-/

namespace ApiStencil

variable {v : Vocabulary} {path : String}

/-! ## What an endpoint is made from -/

/-- The endpoint of an operation in the words of a vocabulary. Of a path item there are only its
summary and its shared parameters. -/
def operationEndpoint? (v : Vocabulary) (path : String) (summary : Option String)
    (shared : List Parameter) (method : Method) (operation : Operation) :
    Option (Endpoint String String) :=
  (expandEndpoint (groupName path) path { summary, parameters := shared } method
    operation).toOption.map (·.spell v)

/-- The other operations of a path item are not looked at. -/
theorem operationEndpoint?_of_expandEndpoint {item : PathItem} {method : Method}
    {operation : Operation} {endpoint : TypedEndpoint}
    (h : expandEndpoint (groupName path) path item method operation = .ok endpoint) :
    operationEndpoint? v path item.summary item.parameters method operation =
      some (endpoint.spell v) := by
  have hitem : expandEndpoint (groupName path) path
      { summary := item.summary, parameters := item.parameters } method operation =
        .ok endpoint := h
  rw [operationEndpoint?, hitem]
  rfl

/-! ## The group of a path -/

/-- A group that has the name of its path and, in the order of the methods, one endpoint for each
operation on it. -/
structure EndpointGroup.Mirrors (v : Vocabulary) (path : String) (item : PathItem)
    (group : EndpointGroup String String) : Prop where
  path_eq : group.path = path
  name_eq : group.name = groupName path
  ascending : group.endpoints.Pairwise fun a b => a.method < b.method
  endpoints : ∃ made, group.endpoints.Perm made ∧
    List.Forall₂ (fun entry endpoint =>
        endpoint.method = entry.1.name ∧ endpoint.group = group.name ∧
          operationEndpoint? v path item.summary item.parameters entry.1 entry.2 = some endpoint)
      item.operations.entries made

theorem Method.ofName?_name (method : Method) : Method.ofName? method.name = some method := by
  cases method <;> decide +kernel

theorem Method.name_injective : Function.Injective Method.name := by
  intro method other h
  rw [← Option.some_inj, ← ofName?_name, h, ofName?_name]

/-- The group of a path has an endpoint for each of its operations. The methods of the operations
differ, so their order is strict. -/
theorem mirrors_of_expandGroup {seen : Dict String String} {item : PathItem} {group : TypedGroup}
    (h : expandGroup seen path item = .ok group) : (group.spell v).Mirrors v path item := by
  obtain ⟨endpoints, hendpoints, rfl⟩ := expandGroup_eq_ok h
  have hsorted := isStableSort_sortEndpoints endpoints
  refine ⟨rfl, rfl, ?_, endpoints.map (Endpoint.spell v), hsorted.perm.map (Endpoint.spell v), ?_⟩
  · have hmethods : item.operations.keys.map Method.name = endpoints.map (·.method) := by
      rw [Dict.keys, List.map_map]
      exact map_eq_map_of_forall₂ hendpoints fun entry endpoint he =>
        (origin_of_expandEndpoint he).2.1.symm
    have hnodup : (endpoints.map (·.method)).Nodup := by
      rw [← hmethods]
      exact List.Nodup.map Method.name_injective item.operations.keys_nodup
    exact List.pairwise_map.mpr (hsorted.pairwise_lt hnodup)
  · rw [List.forall₂_map_right_iff]
    refine hendpoints.imp fun entry endpoint he => ?_
    obtain ⟨hgroup, hmethod, -⟩ := origin_of_expandEndpoint he
    exact ⟨hmethod, hgroup, operationEndpoint?_of_expandEndpoint he⟩

/-! ## The endpoints of a method -/

/-- The endpoints that some groups have for a method on a path. -/
def endpointsFor (groups : List (EndpointGroup String String)) (path : String) (method : Method) :
    List (Endpoint String String) :=
  (groups.filter (·.path = path)).flatMap fun group =>
    group.endpoints.filter (·.method = method.name)

/-- Of what the entries of a dictionary give, only what one of them gives is picked by its key. -/
theorem Dict.forall₂_filter_entries {κ α β : Type} [DecidableEq κ] {d : Dict κ α} {k : κ}
    {R : κ × α → β → Prop} {made : List β} {q : β → Bool} (h : List.Forall₂ R d.entries made)
    (hq : ∀ entry b, R entry b → (entry.1 = k ↔ q b = true)) :
    List.Forall₂ (fun a b => R (k, a) b) (d.get? k).toList (made.filter q) := by
  have hpicked := List.rel_filter (p := fun entry => entry.1 = k) (q := q)
    (fun entry b hb => by simpa using hq entry b hb) h
  rwa [d.filter_entries, Option.toList_map, List.forall₂_map_left_iff] at hpicked

/-- A group has the endpoint of an operation for its method, and no other. -/
theorem EndpointGroup.Mirrors.filter_endpoints {item : PathItem}
    {group : EndpointGroup String String} (h : group.Mirrors v path item) (method : Method) :
    group.endpoints.filter (·.method = method.name) =
      ((item.operations.get? method).bind
        (operationEndpoint? v path item.summary item.parameters method)).toList := by
  obtain ⟨made, hperm, hmade⟩ := h.endpoints
  have hfilter := hperm.filter fun endpoint => endpoint.method = method.name
  have hpicked := Dict.forall₂_filter_entries (k := method)
    (q := fun endpoint => endpoint.method = method.name) hmade
    fun entry endpoint he => by simp [he.1, Method.name_injective.eq_iff]
  generalize made.filter _ = picked at hpicked hfilter
  cases hget : item.operations.get? method with
  | none =>
    rw [hget] at hpicked
    cases hpicked
    exact hfilter.eq_nil
  | some operation =>
    rw [hget] at hpicked
    obtain ⟨endpoint, rest, ⟨-, -, hendpoint⟩, hrest, rfl⟩ := List.forall₂_cons_left_iff.mp hpicked
    cases hrest
    rw [Option.bind_some, hendpoint]
    exact List.perm_singleton.mp hfilter

/-- There is one endpoint for each operation, and it is that of the operation. -/
theorem endpointsFor_eq {paths : Dict String PathItem} {groups : List (EndpointGroup String String)}
    (h : List.Forall₂ (fun entry group => group.Mirrors v entry.1 entry.2) paths.entries groups)
    (path : String) (method : Method) :
    endpointsFor groups path method =
      ((paths.get? path).bind fun item => (item.operations.get? method).bind
        (operationEndpoint? v path item.summary item.parameters method)).toList := by
  have hpicked := Dict.forall₂_filter_entries (k := path) (q := fun group => group.path = path) h
    fun entry group hg => by simp [hg.path_eq]
  rw [endpointsFor]
  generalize groups.filter _ = picked at hpicked
  cases hget : paths.get? path with
  | none =>
    rw [hget] at hpicked
    cases hpicked
    rfl
  | some item =>
    rw [hget] at hpicked
    obtain ⟨group, rest, hgroup, hrest, rfl⟩ := List.forall₂_cons_left_iff.mp hpicked
    cases hrest
    rw [List.flatMap_singleton, hgroup.filter_endpoints, Option.bind_some]

/-! ## The groups of a document -/

theorem forall₂_mirrors_of_spelledEndpoints {paths : Dict String PathItem}
    {groups : List (EndpointGroup String String)}
    (h : (spelledEndpoints v paths).result = .ok groups) :
    List.Forall₂ (fun entry group => group.Mirrors v entry.1 entry.2) paths.entries groups := by
  rw [spelledEndpoints_eq, Traced.result_map, Except.map_eq_ok_iff] at h
  obtain ⟨typed, htyped, rfl⟩ := h
  rw [List.forall₂_map_right_iff]
  refine (expandEndpoints_eq_ok htyped).imp fun entry group hgroup => ?_
  obtain ⟨seen, hgroup⟩ := hgroup
  exact mirrors_of_expandGroup hgroup

/-- Two path items have the same operation for a method, under the same summary and with the same
shared parameters. Their other operations may differ. -/
structure PathItem.SharesOperation (method : Method) (item other : PathItem) : Prop where
  summary : item.summary = other.summary
  parameters : item.parameters = other.parameters
  operation : item.operations.get? method = other.operations.get? method

/-- **Groups mirror the paths.** The paths of a document that expands give their groups in order,
each named after its path, and no two groups have one name. A group has one endpoint for each
operation on its path and no others, strictly ascending by method, and each of them has the name of
the group. The endpoint of an operation is the same in any two documents that have this operation,
with the same summary and shared parameters, on the same path: there may be any other operations on
the path, and any other paths. -/
theorem spelledEndpoints_mirror {paths : Dict String PathItem}
    {groups : List (EndpointGroup String String)}
    (h : (spelledEndpoints v paths).result = .ok groups) :
    List.Forall₂ (fun entry group => group.Mirrors v entry.1 entry.2) paths.entries groups ∧
      (groups.map (·.name)).Nodup ∧
      ∀ others otherGroups, (spelledEndpoints v others).result = .ok otherGroups →
        ∀ path method item other, paths.get? path = some item → others.get? path = some other →
          item.SharesOperation method other →
            endpointsFor groups path method = endpointsFor otherGroups path method := by
  have hmirrors := forall₂_mirrors_of_spelledEndpoints h
  refine ⟨hmirrors, ?_, ?_⟩
  · have hsupported : PathsSupported paths.entries := by
      rw [← endpointFaults_eq_nil_iff, ← (stopsAtFirst_spelledEndpoints v paths).exists_ok_iff]
      exact ⟨groups, h⟩
    have hnames : (paths.entries.map fun entry => groupName entry.1) = groups.map (·.name) :=
      map_eq_map_of_forall₂ hmirrors fun entry group hgroup => hgroup.name_eq.symm
    rw [← hnames]
    exact hsupported.names
  · intro others otherGroups hothers path method item other hitem hother hshares
    rw [endpointsFor_eq hmirrors, hitem,
      endpointsFor_eq (forall₂_mirrors_of_spelledEndpoints hothers), hother, Option.bind_some,
      Option.bind_some, hshares.summary, hshares.parameters, hshares.operation]

/-- A path item with two operations that share a parameter, and with some more. -/
def petItem (more : List (Method × Operation)) : PathItem where
  summary := some "A pet"
  parameters := [{ name := "id", location := "path", schema := { type := some .integer } }]
  operations := Dict.ofList ([(.post, {}), (.get, {})] ++ more)

/-- The only path of a document with that path item. -/
def petPaths (more : List (Method × Operation)) : Dict String PathItem :=
  Dict.ofList [("/pets/\x7bid\x7d", petItem more)]

/-- Reading a pet gives one endpoint, and it is the same whether a pet can be deleted or not. -/
theorem spelledEndpoints_mirror_pets :
    ∃ groups others, (spelledEndpoints {} (petPaths [])).result = .ok groups ∧
      (spelledEndpoints {} (petPaths [(.delete, {})])).result = .ok others ∧
      groups.map (·.name) = ["PetsByID"] ∧ (groups.map (·.name)).Nodup ∧
      (endpointsFor groups "/pets/\x7bid\x7d" .get).length = 1 ∧
      endpointsFor groups "/pets/\x7bid\x7d" .get =
        endpointsFor others "/pets/\x7bid\x7d" .get := by
  have hok : (spelledEndpoints {} (petPaths [])).result.toOption.isSome := by decide +kernel
  have hmore : (spelledEndpoints {} (petPaths [(.delete, {})])).result.toOption.isSome := by
    decide +kernel
  obtain ⟨groups, hgroups⟩ := Except.exists_eq_ok_of_isSome hok
  obtain ⟨others, hothers⟩ := Except.exists_eq_ok_of_isSome hmore
  obtain ⟨hmirrors, hnodup, hsame⟩ := spelledEndpoints_mirror hgroups
  refine ⟨groups, others, hgroups, hothers, ?_, hnodup, ?_, ?_⟩
  · rw [← map_eq_map_of_forall₂ hmirrors fun entry group hgroup => hgroup.name_eq.symm]
    decide +kernel
  · rw [endpointsFor_eq hmirrors]
    decide +kernel
  · exact hsame _ _ hothers _ .get (petItem []) (petItem [(.delete, {})]) (by decide +kernel)
      (by decide +kernel) ⟨rfl, rfl, by decide +kernel⟩

end ApiStencil

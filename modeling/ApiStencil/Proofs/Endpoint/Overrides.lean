import ApiStencil.Proofs.Endpoint.Relevance

/-!
# Parameters that an operation declares anew

A path shares its parameters with its operations, and an operation may declare some of them anew.
What is declared anew is told by name and location together, and it takes the place of the shared
parameter before this is typed or its location is looked at. So a parameter in the query hides none
in the path, and a shared parameter that is hidden cannot be at fault.

## Main definitions

* `inheritedParameters`: the parameters of a path that an operation does not declare anew
* `overlaidParameters`: what an operation inherits, followed by its own parameters
* `Parameter.Overlays`: a list of parameters is one list laid over another
* `spelledEndpoint`: the endpoint of an operation in the words of a vocabulary

## Main results

* `overlays_overlaidParameters`: which parameters an endpoint is built from
* `expandEndpoint_eq_overlaid`: an operation may as well declare what it inherits
* `expandEndpoint_of_overridden`: a parameter that is declared anew makes no difference
* `spelledEndpoint_overrides`: the endpoint of an operation and what its path shares
-/

namespace ApiStencil

variable {shared own : List Parameter}

/-! ## One list laid over another -/

/-- The parameters of a path that an operation does not declare anew. -/
def inheritedParameters (shared own : List Parameter) : List Parameter :=
  shared.filter fun parameter => parameter.key ∉ own.map Parameter.key

/-- The parameters that an endpoint is built from: what its operation inherits, followed by its own
parameters. -/
def overlaidParameters (shared own : List Parameter) : List Parameter :=
  inheritedParameters shared own ++ own

/-- The parameters `own` are laid over those in `shared`: each name in each location that one of the
lists declares is there, once if the lists declare it once, and as `own` declares it if it does. A
shared parameter is hidden only by one of the same name in the same location. -/
structure Parameter.Overlays (shared own merged : List Parameter) : Prop where
  nodup_keys : (shared.map Parameter.key).Nodup → (own.map Parameter.key).Nodup →
    (merged.map Parameter.key).Nodup
  mem_keys_iff : ∀ key, key ∈ merged.map Parameter.key ↔
    key ∈ shared.map Parameter.key ∨ key ∈ own.map Parameter.key
  own_of_mem : ∀ parameter ∈ merged, parameter.key ∈ own.map Parameter.key →
    parameter ∈ own
  hidden : ∀ parameter ∈ shared, parameter ∉ merged →
    ∃ other ∈ own, other.name = parameter.name ∧ other.location = parameter.location

theorem mem_inheritedParameters {parameter : Parameter} :
    parameter ∈ inheritedParameters shared own ↔
      parameter ∈ shared ∧ parameter.key ∉ own.map Parameter.key := by
  rw [inheritedParameters, List.mem_filter, decide_eq_true_iff]

theorem overlays_overlaidParameters (shared own : List Parameter) :
    Parameter.Overlays shared own (overlaidParameters shared own) where
  nodup_keys := by
    intro hshared hown
    rw [overlaidParameters, List.map_append, List.nodup_append]
    refine ⟨hshared.sublist (List.filter_sublist.map _), hown, ?_⟩
    intro key hkey other hother heq
    obtain ⟨parameter, hparameter, rfl⟩ := List.mem_map.mp hkey
    exact (mem_inheritedParameters.mp hparameter).2 (heq ▸ hother)
  mem_keys_iff := by
    intro key
    rw [overlaidParameters, List.map_append, List.mem_append]
    constructor
    · rintro (hkey | hkey)
      · obtain ⟨parameter, hparameter, rfl⟩ := List.mem_map.mp hkey
        exact .inl (List.mem_map_of_mem (mem_inheritedParameters.mp hparameter).1)
      · exact .inr hkey
    · intro hkey
      by_cases hown : key ∈ own.map Parameter.key
      · exact .inr hown
      · obtain ⟨parameter, hparameter, rfl⟩ := List.mem_map.mp (hkey.resolve_right hown)
        exact .inl (List.mem_map_of_mem (mem_inheritedParameters.mpr ⟨hparameter, hown⟩))
  own_of_mem := by
    intro parameter hparameter hkey
    rcases List.mem_append.mp hparameter with hinherited | hown
    · exact absurd hkey (mem_inheritedParameters.mp hinherited).2
    · exact hown
  hidden := by
    intro parameter hparameter hhidden
    have hkey : parameter.key ∈ own.map Parameter.key := by
      by_contra hkey
      have hinherited := mem_inheritedParameters.mpr ⟨hparameter, hkey⟩
      exact hhidden (List.mem_append_left own hinherited)
    obtain ⟨other, hother, heq⟩ := List.mem_map.mp hkey
    obtain ⟨hname, hlocation⟩ := Prod.mk.inj heq
    exact ⟨other, hother, hname, hlocation⟩

/-- Where an operation declares a parameter anew, it inherits none. -/
theorem inheritedParameters_of_overridden {before after : List Parameter} {parameter : Parameter}
    (h : parameter.key ∈ own.map Parameter.key) :
    inheritedParameters (before ++ parameter :: after) own =
      inheritedParameters (before ++ after) own := by
  unfold inheritedParameters
  rw [List.filter_append, List.filter_append, List.filter_cons_of_neg]
  simpa using h

/-! ## Endpoints -/

variable {group path : String} {item : PathItem} {method : Method} {operation : Operation}

/-- An operation may as well declare what it inherits. -/
theorem expandEndpoint_eq_overlaid (group path : String) (item : PathItem) (method : Method)
    (operation : Operation) :
    expandEndpoint group path item method operation =
      expandEndpoint group path { item with parameters := [] } method { operation with
        parameters := overlaidParameters item.parameters operation.parameters } := by
  have hmerge : mergeParameters item.parameters operation.parameters =
      mergeParameters [] (overlaidParameters item.parameters operation.parameters) :=
    mergeParameters_eq item.parameters operation.parameters
  unfold expandEndpoint
  rw [hmerge]
  rfl

/-- What a path shares makes no difference but for what is inherited. -/
theorem expandEndpoint_congr_inherited
    (h : inheritedParameters shared operation.parameters =
      inheritedParameters item.parameters operation.parameters) :
    expandEndpoint group path { item with parameters := shared } method operation =
      expandEndpoint group path item method operation := by
  rw [expandEndpoint_eq_overlaid group path item, expandEndpoint_eq_overlaid, overlaidParameters,
    overlaidParameters, h]

/-- A shared parameter that the operation declares anew can be any parameter of its name in its
location. -/
theorem expandEndpoint_of_overridden {before after : List Parameter} {parameter other : Parameter}
    (hitem : item.parameters = before ++ parameter :: after)
    (h : parameter.key ∈ operation.parameters.map Parameter.key)
    (hother : other.key = parameter.key) :
    expandEndpoint group path { item with parameters := before ++ other :: after } method
        operation =
      expandEndpoint group path item method operation := by
  apply expandEndpoint_congr_inherited
  rw [hitem, inheritedParameters_of_overridden h, inheritedParameters_of_overridden (hother ▸ h)]

/-- **Parameters that are declared anew.** An endpoint is built from the shared parameters that its
operation does not declare anew, in their order, and then from those of the operation: as if the
path shared none and the operation declared all of them, and on success there is an argument for
each. This is the list of the operation laid over that of the path. A shared parameter that the
operation declares anew, with the same name and location, can have any schema, also one without a
type: neither the endpoint nor its fault depends on it. -/
theorem spelledEndpoint_overrides (v : Vocabulary) (group path : String) (item : PathItem)
    (method : Method) (operation : Operation) :
    mergeParameters item.parameters operation.parameters =
        overlaidParameters item.parameters operation.parameters ∧
      Parameter.Overlays item.parameters operation.parameters
        (overlaidParameters item.parameters operation.parameters) ∧
      spelledEndpoint v group path item method operation =
        spelledEndpoint v group path { item with parameters := [] } method { operation with
          parameters := overlaidParameters item.parameters operation.parameters } ∧
      (∀ endpoint, spelledEndpoint v group path item method operation = .ok endpoint →
        List.Forall₂ (Parameter.Gives v)
          (overlaidParameters item.parameters operation.parameters) endpoint.declared) ∧
      ∀ before parameter after, item.parameters = before ++ parameter :: after →
        parameter.key ∈ operation.parameters.map Parameter.key →
        ∀ other : Parameter, other.key = parameter.key →
          spelledEndpoint v group path { item with parameters := before ++ other :: after } method
              operation =
            spelledEndpoint v group path item method operation := by
  refine ⟨mergeParameters_eq _ _, overlays_overlaidParameters _ _, ?_, ?_, ?_⟩
  · rw [spelledEndpoint_eq, spelledEndpoint_eq, expandEndpoint_eq_overlaid]
  · intro endpoint h
    obtain ⟨typed, htyped, rfl⟩ := spelledEndpoint_eq_ok_iff.mp h
    have hgives := gives_of_expandEndpoint (v := v) htyped
    rw [mergeParameters_eq] at hgives
    exact hgives
  · intro before parameter after hitem hkey other hother
    rw [spelledEndpoint_eq, spelledEndpoint_eq, expandEndpoint_of_overridden hitem hkey hother]

/-- A path that shares an identifier without a type, and a parameter of the same name in the
query. -/
def idItem : PathItem where
  parameters := [{ name := "id", location := "path" },
    { name := "id", location := "query", schema := { type := some .boolean } }]

/-- An operation that declares the identifier anew. -/
def idOperation : Operation where
  parameters := [
    { name := "id", location := "path", schema := { type := some .integer } },
    { name := "limit", location := "query", schema := { type := some .integer } }]

/-- The identifier has the type that the operation declares, the parameter in the query stays, and
what the path says of the identifier makes no difference. Without the operation's declaration there
is no endpoint. -/
theorem spelledEndpoint_overrides_id :
    ∃ endpoint, spelledEndpoint {} "PetsByID" "/pets/\x7bid\x7d" idItem .get idOperation =
        .ok endpoint ∧
      endpoint.declared.map (fun a => (a.name, a.location, a.type)) =
        [("id", .query, "bool"), ("id", .path, "isize"), ("limit", .query, "isize")] ∧
      List.Forall₂ (Parameter.Gives {})
        (overlaidParameters idItem.parameters idOperation.parameters) endpoint.declared ∧
      ((overlaidParameters idItem.parameters idOperation.parameters).map
        Parameter.key).Nodup ∧
      spelledEndpoint {} "PetsByID" "/pets/\x7bid\x7d" { idItem with
        parameters := { name := "id", location := "path", schema := { type := some .string } } ::
          idItem.parameters.tail } .get idOperation = .ok endpoint ∧
      (spelledEndpoint {} "PetsByID" "/pets/\x7bid\x7d" idItem .get {}).toOption = none := by
  have hok : (spelledEndpoint {} "PetsByID" "/pets/\x7bid\x7d" idItem .get
      idOperation).toOption.isSome := by decide +kernel
  obtain ⟨endpoint, hendpoint⟩ := Except.exists_eq_ok_of_isSome hok
  obtain ⟨-, hoverlays, -, hgives, hoverridden⟩ :=
    spelledEndpoint_overrides {} "PetsByID" "/pets/\x7bid\x7d" idItem .get idOperation
  refine ⟨endpoint, hendpoint, ?_, hgives endpoint hendpoint,
    hoverlays.nodup_keys (by decide) (by decide), ?_, by decide +kernel⟩
  · have hdeclared : (spelledEndpoint {} "PetsByID" "/pets/\x7bid\x7d" idItem .get
        idOperation).toOption.map (fun e => e.declared.map fun a => (a.name, a.location, a.type)) =
        some [("id", .query, "bool"), ("id", .path, "isize"), ("limit", .query, "isize")] := by
      decide +kernel
    rw [hendpoint] at hdeclared
    exact Option.some.inj hdeclared
  · rw [← hendpoint]
    exact hoverridden [] _ _ rfl (by decide) _ rfl

end ApiStencil

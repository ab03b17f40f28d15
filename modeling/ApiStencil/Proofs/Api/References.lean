import ApiStencil.Proofs.Api.Expansion
import ApiStencil.Proofs.Endpoint.Expansion
import ApiStencil.Proofs.Model.Combine
import ApiStencil.Proofs.Model.Names

/-!
# References of a document

A descriptor without a type word is typed by its reference, as the model of that name. The name is
not looked up: whether there is such a model depends on the schema of the name. Only the references
that a schema is combined from must lead to a schema.

## Main definitions

* `TypeRef.modelNames`, `Api.modelNames`: the models that types name
* `Descriptor.modelName?`, `Document.modelReferences`: the models that descriptors refer to
* `Components.GivesModel`: whether there is a schema of a name that gives a model

## Main results

* `modelNames_of_expandType`: a type names the model that its descriptor refers to
* `mem_modelNames_iff`: the types of an API name what the descriptors of the document refer to
* `mem_names_schemaModels_iff`: the models are those of the schemas that give one
* `references_of_expandDocument`: which types of an expanded document name a model that is there
* `typeDocument_unknown_reference`: a property may name a model that is not there
-/

namespace ApiStencil

variable {components : Components} {strict : Bool}

/-! ## What a type names -/

/-- The models that a type names. -/
def TypeRef.modelNames : TypeRef → List String
  | .named name => [name]
  | .array element => element.modelNames
  | .primitive _ | .enum _ => []

/-- The model that the items of an array refer to. -/
def ItemDescriptor.modelName? (items : ItemDescriptor) : Option String :=
  match items.type with
  | none => items.reference.map refName
  | some _ => none

/-- The model that a descriptor refers to: by itself, or by the items of an array. -/
def Descriptor.modelName? (node : Descriptor) : Option String :=
  match node.type with
  | none => node.reference.map refName
  | some .array => if node.literals.isSome then none else node.items.bind (·.modelName?)
  | some _ => none

theorem mapPrimitive_modelNames {word : ScalarType} {format : Option String} {type : TypeRef}
    (h : (mapPrimitive word format).map TypeRef.primitive = .ok type) : type.modelNames = [] := by
  obtain ⟨kind, -, rfl⟩ := Except.map_eq_ok_iff.mp h
  rfl

theorem mapItems_eq_ok {items : ItemDescriptor} {type : TypeRef} (h : mapItems items = .ok type) :
    type.modelNames = items.modelName?.toList := by
  unfold mapItems at h
  unfold ItemDescriptor.modelName?
  split at h
  next htype =>
    rw [htype]
    exact mapPrimitive_modelNames h
  next htype href =>
    cases h
    rw [htype, href]
    rfl
  next => cases h

theorem mapItems_eq_error {items : ItemDescriptor} {cause : TypeFault}
    (h : mapItems items = .error cause) : items.modelName? = none := by
  unfold mapItems at h
  unfold ItemDescriptor.modelName?
  split at h
  next htype => rw [htype]
  next => cases h
  next htype href => rw [htype, href]; rfl

theorem mapScalar_eq_ok {node : Descriptor} {type : TypeRef} (h : mapScalar node = .ok type) :
    type.modelNames = node.modelName?.toList := by
  unfold mapScalar at h
  unfold Descriptor.modelName?
  split at h
  next => cases h
  next word hword =>
    rw [hword]
    split at h
    next => cases h
    next hliterals =>
      split at h
      next harray =>
        subst harray
        split at h
        next => cases h
        next items hitems =>
          obtain ⟨element, helement, rfl⟩ := Except.map_eq_ok_iff.mp h
          have hnone : node.literals.isSome = false := by simpa using hliterals
          simpa [hnone, hitems, TypeRef.modelNames] using mapItems_eq_ok helement
      next hscalar =>
        rw [mapPrimitive_modelNames h]
        cases word <;> first | rfl | contradiction

theorem mapScalar_eq_error {node : Descriptor} {cause : TypeFault} (hword : node.type ≠ none)
    (h : mapScalar node = .error cause) : node.modelName? = none := by
  unfold mapScalar at h
  unfold Descriptor.modelName?
  split at h
  next hnone => exact absurd hnone hword
  next word hword =>
    rw [hword]
    split at h
    next hliterals => cases word <;> simp [hliterals.2]
    next hliterals =>
      split at h
      next harray =>
        subst harray
        split at h
        next hitems => simp [hitems]
        next items hitems =>
          cases hm : mapItems items with
          | ok element =>
            rw [hm] at h
            cases h
          | error fault => simp [hitems, mapItems_eq_error hm]
      next hscalar => cases word <;> first | rfl | contradiction

/-- A descriptor that can be typed names the model that it refers to. -/
theorem modelNames_of_expandType {node : Descriptor} {owner : Option EnumOwner}
    {expansion : Expansion TypeRef} (h : expandType node owner = .ok expansion) :
    expansion.type.modelNames = node.modelName?.toList := by
  rcases expandType_eq_ok h with ⟨o, literals, -, hliterals, rfl⟩ | ⟨-, -, hword | href⟩
  · simp [Descriptor.modelName?, type_of_enumLiterals? hliterals, TypeRef.modelNames]
  · exact mapScalar_eq_ok hword.2
  · obtain ⟨hword, reference, href, htype⟩ := href
    simp [Descriptor.modelName?, hword, href, htype, TypeRef.modelNames]

/-- A descriptor that cannot be typed refers to no model. -/
theorem modelName?_of_expandType {node : Descriptor} {owner : Option EnumOwner}
    {cause : TypeFault} (h : expandType node owner = .error cause) : node.modelName? = none := by
  rcases expandType_eq_error h with ⟨hword, hscalar⟩ | ⟨hword, href, -⟩
  · exact mapScalar_eq_error hword hscalar
  · simp [Descriptor.modelName?, hword, href]

/-- A single descriptor gives a type that names what it refers to. -/
theorem modelNames_of_typedBy {nodes : List Descriptor} {type? : Option TypeRef}
    (h : TypedBy nodes type?) :
    nodes.filterMap (·.modelName?) = type?.toList.flatMap TypeRef.modelNames := by
  rcases h with ⟨rfl, rfl⟩ | ⟨node, expansion, rfl, hx, rfl⟩
  · rfl
  · simp [modelNames_of_expandType hx, List.filterMap_eq_flatMap_toList]

/-! ## References of the models -/

/-- The types of the properties of a model. -/
def Model.propertyTypes : Model TypeRef → List TypeRef
  | .object model => model.properties.map (·.type)
  | .enum _ => []

/-- The descriptors that the properties of the models are typed by. -/
def propertyDescriptors (components : Components) : List Descriptor :=
  components.schemas.entries.flatMap fun named =>
    match effectiveSchema components named.1 named.2 with
    | .ok effective => if effective.kind = some .object then effective.properties.values else []
    | .error _ => []

theorem mem_modelNames_keptProperties (name : String) (effective : Schema) (model : String) :
    model ∈ (keptProperties name effective).flatMap (fun p => p.1.type.modelNames) ↔
      model ∈ effective.properties.values.filterMap (·.modelName?) := by
  unfold keptProperties Dict.values
  induction effective.properties.entries with
  | nil => rfl
  | cons property rest ih =>
    have hproperty : ((typedProperty? name effective.required property).toList.flatMap
        fun p => p.1.type.modelNames) = property.2.modelName?.toList := by
      unfold typedProperty?
      cases hx : expandType property.2 (some { schema := name, property := property.1 }) with
      | ok expansion =>
        simpa [Except.toOption, typedProperty] using modelNames_of_expandType hx
      | error cause => simp [Except.toOption, modelName?_of_expandType hx]
    rw [List.filterMap_eq_flatMap_toList] at ih ⊢
    rw [List.flatMap_cons, List.flatMap_append, List.mem_append, hproperty, ih, List.map_cons,
      List.filterMap_cons]
    cases property.2.modelName? <;> simp

theorem mem_modelNames_objectModel (name : String) (effective : Schema) (model : String) :
    model ∈ ((objectModel name effective).properties.map (·.type)).flatMap TypeRef.modelNames ↔
      model ∈ effective.properties.values.filterMap (·.modelName?) := by
  rw [← mem_modelNames_keptProperties name]
  simp [objectModel, sortProperties, List.mem_flatMap]

/-- The properties of the models name what their descriptors refer to. -/
theorem mem_modelNames_schemaModels {model : String} :
    model ∈ ((schemaModels components).flatMap Model.propertyTypes).flatMap TypeRef.modelNames ↔
      model ∈ (propertyDescriptors components).filterMap (·.modelName?) := by
  unfold schemaModels propertyDescriptors
  rw [List.filterMap_eq_flatMap_toList, List.flatMap_assoc, List.flatMap_assoc,
    List.filterMap_flatMap]
  simp only [List.mem_flatMap (f := fun _ : String × Schema => _)]
  refine exists_congr fun named => and_congr_right fun _ => ?_
  cases effectiveSchema components named.1 named.2 with
  | error fault => rfl
  | ok effective =>
    simp only [Except.toOption, Option.bind_some]
    unfold schemaModel?
    split
    next hkind =>
      rw [if_pos hkind, ← mem_modelNames_objectModel named.1]
      simp [Model.propertyTypes]
    next hkind =>
      rw [if_neg (by simp [hkind])]
      cases expandEnum TypeRef.text named.1 effective <;>
        simp [Except.toOption, Model.propertyTypes]
    next hobject _ =>
      rw [if_neg hobject]
      rfl

/-! ## References of the endpoints -/

/-- The types of the parameters, the body and the response of an endpoint. -/
def Endpoint.types (endpoint : TypedEndpoint) : List TypeRef :=
  endpoint.declared.map (·.type) ++ (endpoint.body.map (·.type)).toList ++
    endpoint.response.toList

/-- The descriptors that an endpoint is typed by. -/
def Operation.descriptors (item : PathItem) (operation : Operation) : List Descriptor :=
  (mergeParameters item.parameters operation.parameters).map (·.schema) ++
    RequestBody.descriptors operation.requestBody ++ operation.successDescriptors

/-- An endpoint names what the descriptors of its operation refer to. -/
theorem mem_modelNames_endpoint {group path : String} {item : PathItem} {key : Method}
    {operation : Operation} {endpoint : TypedEndpoint}
    (h : expandEndpoint group path item key operation = .ok endpoint) (model : String) :
    model ∈ (operation.descriptors item).filterMap (·.modelName?) ↔
      model ∈ endpoint.types.flatMap TypeRef.modelNames := by
  obtain ⟨hdeclared, hbody, hresponse⟩ := expandEndpoint_eq_ok h
  have hparameters : model ∈ (mergeParameters item.parameters operation.parameters).flatMap
        (fun parameter => parameter.schema.modelName?.toList) ↔
      model ∈ endpoint.declared.flatMap fun argument => argument.type.modelNames := by
    refine mem_flatMap_iff_of_forall₂ hdeclared (fun parameter argument hargument c => ?_) model
    obtain ⟨-, expansion, hx, htype⟩ := expandParameter_eq_ok hargument
    rw [htype, modelNames_of_expandType hx]
  have hpayload := modelNames_of_typedBy (expandBody_eq_ok hbody)
  have hanswer := modelNames_of_typedBy (expandResponse_eq_ok hresponse)
  rw [Operation.descriptors, Endpoint.types, List.filterMap_append, List.filterMap_append,
    List.flatMap_append, List.flatMap_append, hpayload, hanswer]
  simp only [List.mem_append, List.flatMap_map, ← hparameters, List.filterMap_eq_flatMap_toList]

/-- The endpoints of the groups name what the descriptors of the operations refer to. -/
theorem mem_modelNames_groups {paths : Dict String PathItem} {groups : List TypedGroup}
    (h : (expandEndpoints paths).result = .ok groups) (model : String) :
    model ∈ paths.entries.flatMap (fun entry => entry.2.operations.values.flatMap fun operation =>
        (operation.descriptors entry.2).filterMap (·.modelName?)) ↔
      model ∈ groups.flatMap fun group => group.endpoints.flatMap fun endpoint =>
        endpoint.types.flatMap TypeRef.modelNames := by
  refine mem_flatMap_iff_of_forall₂ (expandEndpoints_eq_ok h) (fun entry group hgroup c => ?_) model
  obtain ⟨seen, hgroup⟩ := hgroup
  obtain ⟨endpoints, hendpoints, rfl⟩ := expandGroup_eq_ok hgroup
  have hmem := mem_flatMap_iff_of_forall₂ hendpoints
    (fun operation endpoint hendpoint => mem_modelNames_endpoint hendpoint) c
  rw [Dict.values, List.flatMap_map, hmem]
  simp [sortEndpoints, List.mem_flatMap]

/-! ## References of a document -/

/-- The models that the types of an API name. -/
def Api.modelNames (api : TypedApi) : List String :=
  (api.models.flatMap Model.propertyTypes).flatMap TypeRef.modelNames ++
    api.groups.flatMap fun group => group.endpoints.flatMap fun endpoint =>
      endpoint.types.flatMap TypeRef.modelNames

/-- The models that the descriptors of a document refer to, in the properties of its models and in
its operations. -/
def Document.modelReferences (document : Document) : List String :=
  (propertyDescriptors document.components).filterMap (·.modelName?) ++
    document.paths.entries.flatMap fun entry => entry.2.operations.values.flatMap fun operation =>
      (operation.descriptors entry.2).filterMap (·.modelName?)

/-- Whether there is a schema of a name that gives a model. -/
def Components.GivesModel (components : Components) (name : String) : Prop :=
  ∃ schema ∈ components.lookup name, schema.GivesModel

instance (components : Components) (name : String) : Decidable (components.GivesModel name) :=
  inferInstanceAs (Decidable (∃ schema ∈ components.lookup name, schema.GivesModel))

/-- A successful expansion gives the models of exactly those schemas that give one. -/
theorem mem_names_schemaModels_iff (h : SchemasExpand components strict) (name : String) :
    name ∈ (schemaModels components).map (·.name) ↔ components.GivesModel name := by
  unfold schemaModels Components.GivesModel Components.lookup
  simp only [List.mem_map, List.mem_filterMap, Option.mem_def, Dict.get?_eq_some_iff]
  constructor
  · rintro ⟨model, ⟨⟨key, schema⟩, hmem, hmodel⟩, rfl⟩
    obtain ⟨effective, heffective, hmodel⟩ := Option.bind_eq_some_iff.mp hmodel
    have hok : effectiveSchema components key schema = .ok effective := by
      cases he : effectiveSchema components key schema <;> simp_all [Except.toOption]
    refine ⟨schema, name_schemaModel? hmodel ▸ hmem, (kind_effectiveSchema_iff hok).mp ?_⟩
    exact kind_of_schemaModel? hmodel
  · rintro ⟨schema, hmem, hgives⟩
    obtain ⟨model?, hm⟩ := h (name, schema) hmem
    obtain ⟨effective, heffective, rfl, hstring⟩ := expandSchema_eq_ok hm
    have hkind := (kind_effectiveSchema_iff heffective).mpr hgives
    obtain ⟨model, hmodel⟩ := exists_schemaModel? name hkind hstring
    refine ⟨model, ⟨(name, schema), hmem, ?_⟩, name_schemaModel? hmodel⟩
    rw [heffective]
    exact hmodel

/-- The types of an API name what the descriptors of its document refer to. -/
theorem mem_modelNames_iff {document : Document} {api : TypedApi}
    (h : (typeDocument strict document).result = .ok api) (name : String) :
    name ∈ api.modelNames ↔ name ∈ document.modelReferences := by
  obtain ⟨hmodels, hgroups, -⟩ := typeDocument_eq_ok_iff.mp h
  obtain ⟨-, -, hmodels⟩ := expandModels_eq_ok_iff.mp hmodels
  rw [Api.modelNames, Document.modelReferences, List.mem_append, List.mem_append, hmodels,
    mem_modelNames_schemaModels, mem_modelNames_groups hgroups]

/-- **References of an expanded document.** The types of properties, parameters, bodies and
responses name exactly the models that their descriptors refer to. Such a model is there if the
document has a schema of that name that gives one, and only then: so every name leads to a model
exactly when every reference leads to such a schema. The references that schemas are combined from
always lead to a schema. -/
theorem references_of_expandDocument {v : Vocabulary} {document : Document} {spelled : SpelledApi}
    (h : (expandDocument v strict document).result = .ok spelled) :
    ∃ api, (typeDocument strict document).result = .ok api ∧ spelled = api.spell v ∧
      (∀ name, name ∈ api.modelNames ↔ name ∈ document.modelReferences) ∧
      (∀ name, name ∈ spelled.models.map (·.name) ↔ document.components.GivesModel name) ∧
      ((∀ name ∈ api.modelNames, name ∈ spelled.models.map (·.name)) ↔
        ∀ name ∈ document.modelReferences, document.components.GivesModel name) ∧
      ∀ named ∈ document.components.schemas.entries, ∀ reference ∈ named.2.parts,
        (document.components.lookup (refName reference)).isSome := by
  obtain ⟨api, htyped, rfl⟩ := expandDocument_eq_ok_iff.mp h
  obtain ⟨hmodels, -⟩ := typeDocument_eq_ok_iff.mp htyped
  obtain ⟨hexpand, -, hmodels⟩ := expandModels_eq_ok_iff.mp hmodels
  have hreferences := mem_modelNames_iff htyped
  have hnames : ∀ name, name ∈ (api.spell v).models.map (·.name) ↔
      document.components.GivesModel name := by
    intro name
    rw [← mem_names_schemaModels_iff hexpand, ← hmodels, Api.spell, names_spell]
  refine ⟨api, htyped, rfl, hreferences, hnames, ?_, ?_⟩
  · simp only [hreferences, hnames]
  · intro named hnamed
    obtain ⟨model?, hm⟩ := hexpand named hnamed
    obtain ⟨effective, heffective, -⟩ := expandSchema_eq_ok hm
    exact lookup_parts heffective

/-- A document in which every reference leads to a model: of a property, of the items of an array,
of an alias, of a body and of a response. -/
def petDocument : Document where
  components := { schemas := Dict.ofList [
    ("Pet", { kind := some .object,
              properties := Dict.ofList [("name", { type := some .string })] }),
    ("Animal", { reference := some "#/components/schemas/Pet" }),
    ("Owner", { kind := some .object,
                properties := Dict.ofList [
                  ("pets", { type := some .array,
                             items := some { reference := some "#/components/schemas/Animal" } }),
                  ("favourite", { reference := some "#/components/schemas/Pet" })] })] }
  paths := Dict.ofList [("/owners", { operations := Dict.ofList [(.post, {
    requestBody := some { content := some <| Dict.ofList [
      (jsonMediaType, { reference := some "#/components/schemas/Owner" })] }
    responses := Dict.ofList [("200", { content := some <| Dict.ofList [
      (jsonMediaType, { reference := some "#/components/schemas/Animal" })] })] })] })]

theorem petDocument_references :
    ∃ spelled api, (expandDocument {} true petDocument).result = .ok spelled ∧
      (typeDocument true petDocument).result = .ok api ∧ "Animal" ∈ api.modelNames ∧
      ∀ name ∈ api.modelNames, name ∈ spelled.models.map (·.name) := by
  have hok : (expandDocument {} true petDocument).result.toOption.isSome := by decide +kernel
  obtain ⟨spelled, h⟩ := Except.exists_eq_ok_of_isSome hok
  obtain ⟨api, htyped, -, hreferences, -, hclosed, -⟩ := references_of_expandDocument h
  refine ⟨spelled, api, h, htyped, (hreferences "Animal").mpr (by decide +kernel), ?_⟩
  exact hclosed.mpr (by decide +kernel)

/-- A document with a property that refers to a schema that is not there. -/
def orderDocument : Document where
  components := { schemas := Dict.ofList [
    ("Order", { kind := some .object,
                properties := Dict.ofList [
                  ("pet", { reference := some "#/components/schemas/Pet" })] })] }

/-- The property is typed by its reference all the same, as a model that is not there. -/
theorem typeDocument_unknown_reference :
    ∃ api, (typeDocument false orderDocument).result = .ok api ∧
      (expandDocument {} false orderDocument).result = .ok (api.spell {}) ∧
      "Pet" ∈ api.modelNames ∧ "Pet" ∉ (api.spell {}).models.map (·.name) := by
  refine ⟨{
    info := {}
    servers := []
    models := [.object {
      name := "Order"
      description := missingDescription
      properties := [{ name := "pet", type := .named "Pet", isOptional := true
                       description := missingDescription }]
      nestedEnums := [] }]
    groups := [] }, ?_, ?_, ?_, ?_⟩
  all_goals decide +kernel

end ApiStencil

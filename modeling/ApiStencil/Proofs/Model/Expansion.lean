import ApiStencil.Proofs.Model.Typed

/-!
# The models of a successful expansion

Whether an expansion succeeds depends on the run being strict; what it gives when it succeeds does
not. The models of a document are a function of its schemas.

## Main definitions

* `keptProperties`, `objectModel`, `schemaModel?`, `schemaModels`: the models of a document, as a
  function of its schemas
* `SchemasExpand`: every schema gives its model, or none

## Main results

* `expandObject_eq_ok`, `expandSchema_eq_ok`: what one schema gives
* `expandModels_eq_ok_iff`: what all schemas give
-/

namespace ApiStencil

variable {components : Components} {strict : Bool}

/-! ## Properties -/

/-- The property of a model that a descriptor gives, if it can be typed. -/
def typedProperty? (schema : String) (required : List String) (property : String × Descriptor) :
    Option TypedProperty :=
  (expandType property.2 (some { schema, property := property.1 })).toOption.map
    (typedProperty required property.1 property.2)

/-- The properties that a schema keeps in its model, in the order of the document. -/
def keptProperties (name : String) (schema : Schema) : List TypedProperty :=
  schema.properties.entries.filterMap (typedProperty? name schema.required)

/-- The record of an effective schema. -/
def objectModel (name : String) (schema : Schema) : ObjectModel TypeRef where
  name
  description := schema.describe
  properties := sortProperties ((keptProperties name schema).map (·.1))
  nestedEnums := (keptProperties name schema).filterMap (·.2)

theorem expandProperty_of_ok {name : String} {required : List String}
    {property : String × Descriptor} {expansion : Expansion TypeRef}
    (h : expandType property.2 (some { schema := name, property := property.1 }) = .ok expansion) :
    expandProperty strict name required property =
      ⟨[Log.expandedProperty { schema := name, property := property.1 } expansion.type],
        .ok (some (typedProperty required property.1 property.2 expansion))⟩ := by
  simp only [expandProperty, h]
  rfl

/-- A property that cannot be typed is dropped, or ends a strict run. -/
theorem expandProperty_of_error {name : String} {required : List String}
    {property : String × Descriptor} {cause : TypeFault}
    (h : expandType property.2 (some { schema := name, property := property.1 }) = .error cause) :
    expandProperty strict name required property =
      if strict then ⟨[], .error (.unresolvedPropertyType name property.1 cause)⟩
      else ⟨[Log.droppedProperty { schema := name, property := property.1 } cause],
        .ok none⟩ := by
  simp only [expandProperty, h]
  rfl

theorem expandProperty_eq_ok {name : String} {required : List String}
    {property : String × Descriptor} {typed : Option TypedProperty}
    (h : (expandProperty strict name required property).result = .ok typed) :
    typed = typedProperty? name required property := by
  unfold typedProperty?
  cases hx : expandType property.2 (some { schema := name, property := property.1 }) with
  | ok expansion =>
    rw [expandProperty_of_ok hx] at h
    exact (Except.ok.inj h).symm
  | error cause =>
    rw [expandProperty_of_error hx] at h
    cases strict
    · exact (Except.ok.inj h).symm
    · cases h

theorem reduceOption_map_eq {α β : Type} (f : α → Option β) (as : List α) :
    (as.map f).reduceOption = as.filterMap f := by
  change (as.map f).filterMap id = _
  rw [List.filterMap_map]
  rfl

/-- A record keeps exactly the properties that can be typed, also in a strict run. -/
theorem expandObject_eq_ok {name : String} {schema : Schema} {model : ObjectModel TypeRef}
    (h : (expandObject strict name schema).result = .ok model) :
    model = objectModel name schema := by
  rw [expandObject, Traced.result_bind, Except.bind_eq_ok_iff] at h
  obtain ⟨typed, htyped, hmodel⟩ := h
  rw [Traced.result_mapM] at htyped
  rw [← Except.ok.inj hmodel,
    Except.eq_map_of_mapM_eq_ok (fun _ _ => expandProperty_eq_ok) htyped]
  simp [objectModel, keptProperties, reduceOption_map_eq]

/-! ## Schemas -/

/-- The model of an effective schema, if it gives one. -/
def schemaModel? (name : String) (effective : Schema) : Option (Model TypeRef) :=
  match effective.kind with
  | some .object => some (.object (objectModel name effective))
  | some .string => (expandEnum TypeRef.text name effective).toOption.map .enum
  | _ => none

/-- The model of an effective schema is the record of its properties or the enum of its literals,
by the kind of the schema. -/
theorem schemaModel?_eq_some_iff {name : String} {effective : Schema} {model : Model TypeRef} :
    schemaModel? name effective = some model ↔
      effective.kind = some .object ∧ model = .object (objectModel name effective) ∨
        effective.kind = some .string ∧
          ∃ made, expandEnum TypeRef.text name effective = .ok made ∧ model = .enum made := by
  unfold schemaModel?
  split
  next hkind => simp [hkind, eq_comm]
  next hkind =>
    cases hmade : expandEnum TypeRef.text name effective <;> simp [hkind, Except.toOption, eq_comm]
  next hobject hstring =>
    constructor
    · intro h
      cases h
    · rintro (⟨hkind, -⟩ | ⟨hkind, -⟩)
      · exact (hobject hkind).elim
      · exact (hstring hkind).elim

theorem kind_of_schemaModel? {name : String} {effective : Schema} {model : Model TypeRef}
    (h : schemaModel? name effective = some model) :
    effective.kind = some .object ∨ effective.kind = some .string :=
  (schemaModel?_eq_some_iff.mp h).imp And.left And.left

theorem exists_schemaModel? (name : String) {effective : Schema}
    (hkind : effective.kind = some .object ∨ effective.kind = some .string)
    (henum : effective.kind = some .string →
      ∃ model, expandEnum TypeRef.text name effective = .ok model) :
    ∃ model, schemaModel? name effective = some model := by
  rcases hkind with hkind | hkind
  · exact ⟨_, schemaModel?_eq_some_iff.mpr (.inl ⟨hkind, rfl⟩)⟩
  · obtain ⟨model, hmodel⟩ := henum hkind
    exact ⟨_, schemaModel?_eq_some_iff.mpr (.inr ⟨hkind, model, hmodel, rfl⟩)⟩

/-- A schema that expands gives the model of its effective schema. -/
theorem expandSchema_eq_ok {named : String × Schema} {model? : Option (Model TypeRef)}
    (h : (expandSchema components strict named).result = .ok model?) :
    ∃ effective, effectiveSchema components named.1 named.2 = .ok effective ∧
      model? = schemaModel? named.1 effective ∧
      (effective.kind = some .string →
        ∃ model, expandEnum TypeRef.text named.1 effective = .ok model) := by
  rw [expandSchema, Traced.result_bind, Except.bind_eq_ok_iff] at h
  obtain ⟨effective, heffective, h⟩ := h
  refine ⟨effective, heffective, ?_⟩
  unfold schemaModel?
  cases hkind : effective.kind with
  | none =>
    simp only [hkind] at h
    exact ⟨(Except.ok.inj h).symm, by simp⟩
  | some kind =>
    cases kind with
    | object =>
      simp only [hkind, Traced.result_bind, Except.bind_eq_ok_iff] at h
      obtain ⟨model, hmodel, _, -, h⟩ := h
      rw [← expandObject_eq_ok hmodel]
      exact ⟨(Except.ok.inj h).symm, by simp⟩
    | string =>
      simp only [hkind, Traced.result_bind, Except.bind_eq_ok_iff] at h
      obtain ⟨model, hmodel, _, -, h⟩ := h
      rw [Traced.result_ofExcept] at hmodel
      rw [hmodel]
      exact ⟨(Except.ok.inj h).symm, fun _ => ⟨model, rfl⟩⟩
    | other word =>
      simp only [hkind] at h
      exact ⟨(Except.ok.inj h).symm, by simp⟩

/-- The models of a document. -/
def schemaModels (components : Components) : List (Model TypeRef) :=
  components.schemas.entries.filterMap fun named =>
    (effectiveSchema components named.1 named.2).toOption.bind (schemaModel? named.1)

theorem mem_schemaModels_iff {model : Model TypeRef} :
    model ∈ schemaModels components ↔
      ∃ named ∈ components.schemas.entries, ∃ effective,
        effectiveSchema components named.1 named.2 = .ok effective ∧
          schemaModel? named.1 effective = some model := by
  simp only [schemaModels, List.mem_filterMap, Option.bind_eq_some_iff, Except.toOption_eq_some_iff]

/-- Every schema of a document gives its model, or none. -/
def SchemasExpand (components : Components) (strict : Bool) : Prop :=
  ∀ named ∈ components.schemas.entries,
    ∃ model?, (expandSchema components strict named).result = .ok model?

/-- The models of the schemas in order, as long as every one of them expands. -/
theorem mapM_expandSchema_eq_ok {models : List (Option (Model TypeRef))}
    (h : (components.schemas.entries.mapM (expandSchema components strict)).result = .ok models) :
    models.reduceOption = schemaModels components := by
  have hmodel : ∀ named model?, (expandSchema components strict named).result = .ok model? →
      model? = (effectiveSchema components named.1 named.2).toOption.bind
        (schemaModel? named.1) := by
    intro named model? hm
    obtain ⟨effective, heffective, rfl, -⟩ := expandSchema_eq_ok hm
    rw [heffective]
    rfl
  rw [Traced.result_mapM] at h
  rw [Except.eq_map_of_mapM_eq_ok hmodel h, schemaModels, reduceOption_map_eq]

theorem schemasExpand_iff :
    SchemasExpand components strict ↔ ∃ models,
      (components.schemas.entries.mapM (expandSchema components strict)).result = .ok models := by
  simp only [Traced.result_mapM]
  exact Except.exists_mapM_eq_ok_iff.symm

/-- Once every schema has given its model, only the names are left to be checked. -/
theorem SchemasExpand.result_expandModels (h : SchemasExpand components strict) :
    (expandModels components strict).result =
      (checkEnumNames (schemaModels components)).map fun _ => schemaModels components := by
  obtain ⟨models, hmodels⟩ := schemasExpand_iff.mp h
  rw [expandModels, Traced.bind_of_ok _ hmodels]
  simp only [mapM_expandSchema_eq_ok hmodels, Traced.result_bind, Traced.result_ofExcept]
  cases checkEnumNames (schemaModels components) <;> rfl

/-- **An expansion succeeds** exactly when every schema gives its model and the names of the enums
are free, and then it gives the models of the document. -/
theorem expandModels_eq_ok_iff {models : List (Model TypeRef)} :
    (expandModels components strict).result = .ok models ↔
      SchemasExpand components strict ∧ checkEnumNames (schemaModels components) = .ok () ∧
        models = schemaModels components := by
  constructor
  · intro h
    have hexpand : SchemasExpand components strict := by
      rw [expandModels, Traced.result_bind, Except.bind_eq_ok_iff] at h
      obtain ⟨options, hoptions, -⟩ := h
      exact schemasExpand_iff.mpr ⟨options, hoptions⟩
    rw [hexpand.result_expandModels] at h
    cases hcheck : checkEnumNames (schemaModels components) with
    | ok _ =>
      rw [hcheck] at h
      exact ⟨hexpand, rfl, (Except.ok.inj h).symm⟩
    | error fault =>
      rw [hcheck] at h
      cases h
  · rintro ⟨hexpand, hcheck, rfl⟩
    rw [hexpand.result_expandModels, hcheck]
    rfl

/-! ## Spelling -/

theorem name_spell (v : Vocabulary) (model : Model TypeRef) :
    (model.spell v).name = model.name :=
  model.name_mapType v.spell

theorem names_spell (v : Vocabulary) (models : List (Model TypeRef)) :
    (models.map (·.spell v)).map (·.name) = models.map (·.name) := by
  simp [name_spell]

theorem spelledModels_eq_ok_iff {v : Vocabulary} {spelled : List (Model String)} :
    (spelledModels v strict components).result = .ok spelled ↔
      ∃ models, (expandModels components strict).result = .ok models ∧
        models.map (Model.spell v) = spelled := by
  rw [spelledModels_eq, Traced.result_map, Except.map_eq_ok_iff]

end ApiStencil

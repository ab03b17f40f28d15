import ApiStencil.Proofs.Model.Expansion
import ApiStencil.Proofs.Typing.Expansion

/-!
# Names of generated types

The models of a document and the enums generated for their properties share one namespace. The
names of the models differ by themselves, since they are those of the schemas; the names of the
enums are checked in the order of the document, and the first one that is taken ends the run.

## Main definitions

* `typeNames`: the names of the types that some models generate
* `enumOwners`: the properties that an enum is generated for

## Main results

* `nestedEnumNames_schemaModels`: the enums of the models are those of the properties in order
* `checkNamesFrom_eq_ok_iff`, `checkNamesFrom_eq_error`: what the check accepts and reports
* `spelledModels_typeNames`: the names of a successful run differ, and a run that fails for a name
  reports the first one that is taken
-/

namespace ApiStencil

variable {components : Components} {strict : Bool}

/-- The names of the types that some models generate: their own, and then those of the enums that
they bring along. -/
def typeNames {τ : Type} (models : List (Model τ)) : List String :=
  models.map (·.name) ++ models.flatMap fun model => model.nestedEnums.map (·.name)

/-- The properties of an effective schema that an enum is generated for, in order. -/
def enumProperties (effective : Schema) : List String :=
  (effective.properties.entries.filter fun property => (enumLiterals? property.2).isSome).map (·.1)

/-- The properties that an enum is generated for: schema by schema in the order of the document, and
in the order of the effective schema. -/
def enumOwners (components : Components) : List EnumOwner :=
  components.schemas.entries.flatMap fun named =>
    match effectiveSchema components named.1 named.2 with
    | .ok effective =>
      if effective.kind = some .object then
        (enumProperties effective).map fun property => { schema := named.1, property }
      else []
    | .error _ => []

/-! ## The enums of the models -/

/-- The enum that comes with a property is that of its literals. -/
theorem typedProperty?_nestedEnum (schema : String) (required : List String)
    (property : String × Descriptor) :
    (typedProperty? schema required property).bind (·.2) =
      (enumLiterals? property.2).map
        (nestedEnum .text { schema, property := property.1 } property.2.description) := by
  unfold typedProperty?
  cases hx : expandType property.2 (some { schema, property := property.1 }) with
  | ok expansion =>
    simp only [Except.toOption, Option.map_some, Option.bind_some, typedProperty,
      nestedEnum_of_expandType hx]
  | error cause =>
    cases hl : enumLiterals? property.2 with
    | none => rfl
    | some literals =>
      rw [expandType_of_enumLiterals _ hl] at hx
      cases hx

theorem nestedEnums_objectModel (name : String) (effective : Schema) :
    (objectModel name effective).nestedEnums =
      effective.properties.entries.filterMap fun property =>
        (enumLiterals? property.2).map
          (nestedEnum .text { schema := name, property := property.1 } property.2.description) := by
  simp only [objectModel, keptProperties, List.filterMap_filterMap, typedProperty?_nestedEnum]

theorem names_nestedEnums_objectModel (name : String) (effective : Schema) :
    (objectModel name effective).nestedEnums.map (·.name) =
      (enumProperties effective).map (nestedEnumName name) := by
  rw [nestedEnums_objectModel]
  simp only [enumProperties, List.map_filterMap, Option.map_map, List.map_map]
  induction effective.properties.entries with
  | nil => rfl
  | cons property rest ih =>
    cases h : enumLiterals? property.2 <;> simp [h, ih, nestedEnum]

theorem name_schemaModel? {name : String} {effective : Schema} {model : Model TypeRef}
    (h : schemaModel? name effective = some model) : model.name = name := by
  rcases schemaModel?_eq_some_iff.mp h with ⟨-, rfl⟩ | ⟨-, made, hmade, rfl⟩
  · rfl
  · unfold expandEnum at hmade
    split at hmade <;> cases hmade
    rfl

theorem nestedEnums_schemaModel? (name : String) (effective : Schema) :
    (schemaModel? name effective).toList.flatMap (fun model =>
        model.nestedEnums.map fun nested => (model.name, nested.name)) =
      if effective.kind = some .object then
        (enumProperties effective).map fun property => (name, nestedEnumName name property)
      else [] := by
  unfold schemaModel?
  split
  next hkind =>
    have h := congrArg (List.map (name, ·)) (names_nestedEnums_objectModel name effective)
    simpa [hkind, Model.nestedEnums, Model.name, objectModel, Function.comp_def] using h
  next hkind =>
    cases h : expandEnum TypeRef.text name effective <;>
      simp [hkind, Except.toOption, Model.nestedEnums]
  next hobject _ =>
    rw [if_neg hobject]
    rfl

/-- The enums of the models are those of the properties, in order. -/
theorem nestedEnumNames_schemaModels (components : Components) :
    nestedEnumNames (schemaModels components) =
      (enumOwners components).map fun owner => (owner.schema, owner.enumName) := by
  unfold nestedEnumNames schemaModels enumOwners
  rw [List.filterMap_eq_flatMap_toList, List.flatMap_assoc, List.map_flatMap]
  refine List.flatMap_congr fun named _ => ?_
  cases effectiveSchema components named.1 named.2 with
  | error fault => rfl
  | ok effective =>
    simp only [Except.toOption, Option.bind_some, nestedEnums_schemaModel?]
    split
    · simp [EnumOwner.enumName]
    · rfl

/-! ## The names of the models -/

theorem sublist_names_schemaModels (components : Components) :
    ((schemaModels components).map (·.name)).Sublist components.schemas.keys := by
  refine sublist_map_filterMap (fun named model hmodel => ?_) components.schemas.entries
  obtain ⟨effective, -, hm⟩ := Option.bind_eq_some_iff.mp hmodel
  exact name_schemaModel? hm

/-- The names of the models differ, since those of the schemas do. -/
theorem nodup_names_schemaModels (components : Components) :
    ((schemaModels components).map (·.name)).Nodup :=
  (sublist_names_schemaModels components).nodup components.schemas.keys_nodup

/-! ## The check -/

/-- The check accepts names that differ from each other and from those of the origins. -/
theorem checkNamesFrom_eq_ok_iff {origins : Dict String NameOrigin}
    {names : List (String × String)} :
    checkNamesFrom origins names = .ok () ↔ (origins.keys ++ names.map (·.2)).Nodup := by
  -- The names that are taken grow with every name that is accepted.
  induction names generalizing origins with
  | nil => simp [checkNamesFrom, origins.keys_nodup]
  | cons entry rest ih =>
    obtain ⟨schema, name⟩ := entry
    rw [checkNamesFrom]
    cases h : origins.get? name with
    | some first =>
      have hmem : name ∈ origins.keys := origins.mem_keys_iff.mpr ⟨first, h⟩
      refine iff_of_false (by simp) fun hnodup => ?_
      exact (List.nodup_append.mp hnodup).2.2 name hmem name (List.mem_cons_self ..) rfl
    | none =>
      have hmem : name ∉ origins.keys := origins.get?_eq_none_iff.mp h
      rw [ih, Dict.keys_insert, if_neg hmem, List.map_cons, List.append_assoc,
        List.singleton_append]

/-- The check reports the first name that is taken, with the origin that it was taken from. -/
theorem checkNamesFrom_eq_error {origins : Dict String NameOrigin}
    {names : List (String × String)} {fault : Fault}
    (h : checkNamesFrom origins names = .error fault) :
    ∃ before schema name after first, names = before ++ (schema, name) :: after ∧
      (origins.keys ++ before.map (·.2)).Nodup ∧
      (origins.get? name = some first ∨ ∃ earlier, (earlier, name) ∈ before ∧
        first = .propertyOf earlier) ∧
      fault = .duplicateEnumName name first (.propertyOf schema) := by
  induction names generalizing origins with
  | nil => cases h
  | cons entry rest ih =>
    obtain ⟨schema, name⟩ := entry
    rw [checkNamesFrom] at h
    cases hget : origins.get? name with
    | some first =>
      rw [hget] at h
      exact ⟨[], schema, name, rest, first, rfl, by simpa using origins.keys_nodup, .inl hget,
        (Except.error.inj h).symm⟩
    | none =>
      rw [hget] at h
      obtain ⟨before, owner, taken, after, first, hsplit, hnodup, hfirst, hfault⟩ := ih h
      rw [Dict.keys_insert, if_neg (origins.get?_eq_none_iff.mp hget)] at hnodup
      refine ⟨(schema, name) :: before, owner, taken, after, first, by rw [hsplit]; rfl,
        by simpa using hnodup, ?_, hfault⟩
      rcases hfirst with hfirst | ⟨earlier, hmem, rfl⟩
      · rw [Dict.get?_insert] at hfirst
        split at hfirst
        next htaken =>
          cases hfirst
          exact .inr ⟨schema, by simp [htaken], rfl⟩
        next => exact .inl hfirst
      · exact .inr ⟨earlier, List.mem_cons_of_mem _ hmem, rfl⟩

/-! ## The namespace of a document -/

theorem names_nestedEnumNames (models : List (Model TypeRef)) :
    (nestedEnumNames models).map (·.2) =
      models.flatMap fun model => model.nestedEnums.map (·.name) := by
  simp [nestedEnumNames, List.map_flatMap, Function.comp_def]

theorem typeNames_spell (v : Vocabulary) (models : List (Model TypeRef)) :
    typeNames (models.map (Model.spell v)) = typeNames models := by
  have hnested : ∀ model : Model TypeRef,
      (model.spell v).nestedEnums.map (·.name) = model.nestedEnums.map (·.name) := by
    rintro (model | model)
    · simp [Model.spell, Model.mapType, Model.nestedEnums, ObjectModel.mapType, EnumModel.mapType]
    · rfl
  simp [typeNames, List.flatMap_map, name_spell, hnested]

/-- Where the check of the enums starts: at the names of the models. -/
theorem entries_origins (components : Components) :
    (Dict.ofList ((schemaModels components).map fun model =>
      (model.name, NameOrigin.schemaNamed model.name))).entries =
        (schemaModels components).map fun model =>
          (model.name, NameOrigin.schemaNamed model.name) := by
  refine Dict.entries_ofList ?_
  simpa [Function.comp_def] using nodup_names_schemaModels components

theorem keys_origins (components : Components) :
    (Dict.ofList ((schemaModels components).map fun model =>
      (model.name, NameOrigin.schemaNamed model.name))).keys =
        (schemaModels components).map (·.name) := by
  rw [Dict.keys, entries_origins]
  simp [Function.comp_def]

/-- The check accepts a document whose generated types differ in their names. -/
theorem checkEnumNames_eq_ok_iff (components : Components) :
    checkEnumNames (schemaModels components) = .ok () ↔
      (typeNames (schemaModels components)).Nodup := by
  rw [checkEnumNames, checkNamesFrom_eq_ok_iff, keys_origins, names_nestedEnumNames, typeNames]

/-- The check reports the first enum whose name a model or an earlier enum has. -/
theorem checkEnumNames_eq_error {fault : Fault}
    (h : checkEnumNames (schemaModels components) = .error fault) :
    ∃ before owner after first, enumOwners components = before ++ owner :: after ∧
      ((schemaModels components).map (·.name) ++ before.map (·.enumName)).Nodup ∧
      (owner.enumName ∈ (schemaModels components).map (·.name) ∧
          first = .schemaNamed owner.enumName ∨
        ∃ earlier ∈ before, earlier.enumName = owner.enumName ∧
          first = .propertyOf earlier.schema) ∧
      fault = .duplicateEnumName owner.enumName first (.propertyOf owner.schema) := by
  obtain ⟨before, schema, name, after, first, hsplit, hnodup, hfirst, hfault⟩ :=
    checkNamesFrom_eq_error h
  rw [nestedEnumNames_schemaModels] at hsplit
  obtain ⟨before, rest, howners, rfl, hrest⟩ := List.map_eq_append_iff.mp hsplit
  obtain ⟨owner, after, rfl, howner, rfl⟩ := List.map_eq_cons_iff.mp hrest
  cases howner
  rw [keys_origins, List.map_map] at hnodup
  refine ⟨before, owner, after, first, howners, hnodup, ?_, hfault⟩
  rcases hfirst with hfirst | ⟨earlier, hmem, rfl⟩
  · rw [Dict.get?_eq_some_iff, entries_origins] at hfirst
    obtain ⟨model, hmodel, heq⟩ := List.mem_map.mp hfirst
    obtain ⟨hname, rfl⟩ := Prod.mk.inj heq
    exact .inl ⟨List.mem_map.mpr ⟨model, hmodel, hname⟩, by rw [hname]⟩
  · obtain ⟨origin, horigin, heq⟩ := List.mem_map.mp hmem
    obtain ⟨rfl, hname⟩ := Prod.mk.inj heq
    exact .inr ⟨origin, horigin, hname, rfl⟩

end ApiStencil

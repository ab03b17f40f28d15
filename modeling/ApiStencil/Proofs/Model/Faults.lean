import ApiStencil.Proofs.FirstFault
import ApiStencil.Proofs.Model.Combine
import ApiStencil.Proofs.Model.Names
import Mathlib.Data.List.ReduceOption

/-!
# The faults of the schemas of a document

Which schemas the expansion accepts, and which fault it reports of those that it does not. As for
the paths, each check is looked at for itself: what is wrong with what a schema refers to, with its
literals and with its properties is listed in the order of the document, and after all schemas the
enums whose names are taken. The expansion stops at the first fault of the list.

## Main definitions

* `Schema.IsSupported`, `SchemasSupported`: what the expansion accepts
* `Components.modelNames`, `Components.typeNames`: the names of the types that are generated
* `referenceFaults`, `memberFaults`, `combinationFaults`, `kindFaults`, `schemaFaults`,
  `enumNameFaults`, `modelFaults`: what is wrong, in order

## Main results

* `mem_schemaFaults`: what can be wrong with a schema
* `stopsAtFirst_expandSchema`, `stopsAtFirst_expandModels`: where the expansion stops
* `schemaFaults_eq_nil_iff`: nothing is wrong exactly with what is accepted
* `spelledModels_result`: when the expansion succeeds, and how it fails
-/

namespace ApiStencil

variable {components : Components} {strict : Bool} {name : String}

/-! ## What is accepted -/

/-- Whether a reference leads to a schema. -/
def Components.Defines (components : Components) (reference : String) : Prop :=
  (components.lookup (refName reference)).isSome

/-- A schema that gives its model, or none: its reference leads to a schema; without one, the
members of its `allOf` are plain references that do; without both, it lists literals if it is a
string. In a strict run every property of its model has a type. -/
structure Schema.IsSupported (components : Components) (strict : Bool) (schema : Schema) :
    Prop where
  reference : ∀ reference, schema.reference = some reference → components.Defines reference
  members : schema.reference = none → ∀ members, schema.allOf = some members →
    ∀ member ∈ members, member.type = none ∧
      ∃ reference, member.reference = some reference ∧ components.Defines reference
  literals : schema.reference = none → schema.allOf = none → schema.kind = some .string →
    schema.literals.getD [] ≠ []
  properties : strict = true → (schema.combined components).kind = some .object →
    ∀ property ∈ (schema.combined components).properties.entries, property.2.IsTypable

/-- The names of the models of a document: those of the schemas that give one. -/
def Components.modelNames (components : Components) : List String :=
  (components.schemas.entries.filter fun named => named.2.GivesModel).map (·.1)

/-- The names of the types that are generated for a document: of its models, and of the enums of
their properties. -/
def Components.typeNames (components : Components) : List String :=
  components.modelNames ++ (enumOwners components).map (·.enumName)

/-- Some schemas that are supported and generate types with names of their own. -/
structure SchemasSupported (components : Components) (strict : Bool) : Prop where
  schemas : ∀ named ∈ components.schemas.entries, named.2.IsSupported components strict
  names : components.typeNames.Nodup

/-! ## What is wrong -/

/-- The fault of a reference that leads nowhere. -/
def referenceFaults (components : Components) (name reference : String) : List Fault :=
  match components.lookup (refName reference) with
  | some _ => []
  | none => [.danglingReference name (refName reference)]

/-- What is wrong with a member of an `allOf`: its form, or else its reference. -/
def memberFaults (components : Components) (name : String) (member : Descriptor) : List Fault :=
  match member.reference, member.type with
  | some reference, none => referenceFaults components name reference
  | _, _ => [.unsupportedAllOf name]

/-- What is wrong with the references that a schema is combined from. -/
def combinationFaults (components : Components) (name : String) (schema : Schema) : List Fault :=
  match schema.reference, schema.allOf with
  | some reference, _ => referenceFaults components name reference
  | none, some members => members.flatMap (memberFaults components name)
  | none, none => []

/-- What is wrong with a property, which is nothing if it may be dropped. -/
def propertyFaults (strict : Bool) (name : String) (property : String × Descriptor) : List Fault :=
  if strict then typeFaults (.unresolvedPropertyType name property.1) property.2 else []

/-- What is wrong with an effective schema: with its properties or with its literals. -/
def kindFaults (strict : Bool) (name : String) (effective : Schema) : List Fault :=
  match effective.kind with
  | some .object => effective.properties.entries.flatMap (propertyFaults strict name)
  | some .string => if effective.literals.getD [] = [] then [.missingEnumValues name] else []
  | _ => []

/-- What is wrong with a schema: with what it refers to, and then with what that combines to. -/
def schemaFaults (components : Components) (strict : Bool) (named : String × Schema) : List Fault :=
  combinationFaults components named.1 named.2 ++
    kindFaults strict named.1 (named.2.combined components)

/-- The fault of an enum whose name is that of a model or of an enum before it. -/
def enumNameFaults (models : List String) (before : List EnumOwner) (owner : EnumOwner) :
    List Fault :=
  if owner.enumName ∈ models then
    [.duplicateEnumName owner.enumName (.schemaNamed owner.enumName) (.propertyOf owner.schema)]
  else
    match before.find? (·.enumName = owner.enumName) with
    | some first =>
      [.duplicateEnumName owner.enumName (.propertyOf first.schema) (.propertyOf owner.schema)]
    | none => []

/-- The faults of some enums that come after some others. -/
def enumNameFaultsFrom (models : List String) (before : List EnumOwner) :
    List EnumOwner → List Fault
  | [] => []
  | owner :: rest =>
    enumNameFaults models before owner ++ enumNameFaultsFrom models (before ++ [owner]) rest

/-- What is wrong with the schemas of a document: with each of them in order, and then with the
names of the enums. -/
def modelFaults (components : Components) (strict : Bool) : List Fault :=
  components.schemas.entries.flatMap (schemaFaults components strict) ++
    enumNameFaultsFrom components.modelNames [] (enumOwners components)

theorem mem_referenceFaults {reference : String} {fault : Fault}
    (h : fault ∈ referenceFaults components name reference) :
    fault = .danglingReference name (refName reference) := by
  unfold referenceFaults at h
  split at h
  · cases h
  · exact List.mem_singleton.mp h

theorem mem_combinationFaults {schema : Schema} {fault : Fault}
    (h : fault ∈ combinationFaults components name schema) :
    (∃ target, fault = .danglingReference name target) ∨ fault = .unsupportedAllOf name := by
  unfold combinationFaults at h
  split at h
  · exact .inl ⟨_, mem_referenceFaults h⟩
  · obtain ⟨member, -, hmember⟩ := List.mem_flatMap.mp h
    unfold memberFaults at hmember
    split at hmember
    · exact .inl ⟨_, mem_referenceFaults hmember⟩
    · exact .inr (List.mem_singleton.mp hmember)
  · cases h

theorem mem_kindFaults {effective : Schema} {fault : Fault}
    (h : fault ∈ kindFaults strict name effective) :
    (∃ property cause, fault = .unresolvedPropertyType name property cause) ∨
      fault = .missingEnumValues name := by
  unfold kindFaults at h
  split at h
  · obtain ⟨property, -, hproperty⟩ := List.mem_flatMap.mp h
    unfold propertyFaults typeFaults at hproperty
    split at hproperty
    · split at hproperty
      · cases hproperty
      · exact .inl ⟨_, _, List.mem_singleton.mp hproperty⟩
    · cases hproperty
  · split at h
    · exact .inr (List.mem_singleton.mp h)
    · cases h
  · cases h

/-- What is wrong with a schema is said of the schema by its name. -/
theorem mem_schemaFaults {named : String × Schema} {fault : Fault}
    (h : fault ∈ schemaFaults components strict named) :
    ((∃ target, fault = .danglingReference named.1 target) ∨ fault = .unsupportedAllOf named.1) ∨
      (∃ property cause, fault = .unresolvedPropertyType named.1 property cause) ∨
        fault = .missingEnumValues named.1 :=
  (List.mem_append.mp h).imp mem_combinationFaults mem_kindFaults

/-! ## Where the expansion of a schema stops -/

theorem stopsAtFirst_resolveReference (reference : String) :
    StopsAtFirst (referenceFaults components name reference)
      (resolveReference components name reference) := by
  simp only [referenceFaults, resolveReference]
  cases components.lookup (refName reference) with
  | some target => exact .ok target
  | none => exact rfl

theorem stopsAtFirst_resolveMember (member : Descriptor) :
    StopsAtFirst (memberFaults components name member)
      (resolveMember components name member) := by
  unfold memberFaults resolveMember
  cases member.reference with
  | none => exact rfl
  | some reference =>
    cases member.type with
    | none => exact stopsAtFirst_resolveReference reference
    | some type => exact rfl

theorem stopsAtFirst_effectiveSchema (schema : Schema) :
    StopsAtFirst (combinationFaults components name schema)
      (effectiveSchema components name schema) := by
  unfold combinationFaults effectiveSchema
  cases schema.reference with
  | some reference => exact (stopsAtFirst_resolveReference reference).map
  | none =>
    cases schema.allOf with
    | none => exact .ok schema
    | some members =>
      have hmembers : StopsAtFirst (members.flatMap (memberFaults components name))
          (members.mapM (resolveMember components name)) :=
        .mapM fun member _ => stopsAtFirst_resolveMember member
      exact hmembers.map

/-- A property stops a strict run only. -/
theorem stopsAtFirst_expandProperty (required : List String) (property : String × Descriptor) :
    StopsAtFirst (propertyFaults strict name property)
      (expandProperty strict name required property).result := by
  unfold propertyFaults typeFaults
  cases hx : expandType property.2 (some { schema := name, property := property.1 }) with
  | ok expansion =>
    rw [expandProperty_of_ok hx]
    cases hplain : expandType property.2 none with
    | ok _ => simpa using StopsAtFirst.ok _
    | error cause =>
      rw [expandType_eq_error_iff.mpr hplain] at hx
      cases hx
  | error cause =>
    rw [expandProperty_of_error hx, expandType_eq_error_iff.mp hx]
    cases strict with
    | true => exact rfl
    | false => exact .ok none

theorem stopsAtFirst_expandObject (effective : Schema) :
    StopsAtFirst (effective.properties.entries.flatMap (propertyFaults strict name))
      (expandObject strict name effective).result := by
  have hproperties : StopsAtFirst
      (effective.properties.entries.flatMap (propertyFaults strict name))
      (effective.properties.entries.mapM fun property =>
        (expandProperty strict name effective.required property).result) :=
    .mapM fun property _ => stopsAtFirst_expandProperty effective.required property
  rw [expandObject, Traced.result_bind, Traced.result_mapM]
  exact hproperties.map

theorem stopsAtFirst_expandEnum (effective : Schema) :
    StopsAtFirst (if effective.literals.getD [] = [] then [.missingEnumValues name] else [])
      (expandEnum TypeRef.text name effective) := by
  unfold expandEnum
  cases effective.literals.getD [] with
  | nil => exact rfl
  | cons literal literals => exact .ok _

/-- A schema is looked at for what it refers to, and then for what that combines to. -/
theorem stopsAtFirst_expandSchema (named : String × Schema) :
    StopsAtFirst (schemaFaults components strict named)
      (expandSchema components strict named).result := by
  rw [schemaFaults, expandSchema, Traced.result_bind, Traced.result_ofExcept]
  refine (stopsAtFirst_effectiveSchema named.2).bind fun effective heffective => ?_
  rw [← effectiveSchema_eq_combined heffective, kindFaults]
  cases effective.kind with
  | none => exact .ok none
  | some kind =>
    cases kind with
    | object =>
      simp only [Traced.result_bind]
      exact (stopsAtFirst_expandObject effective).map
    | string =>
      simp only [Traced.result_bind, Traced.result_ofExcept]
      exact (stopsAtFirst_expandEnum effective).map
    | other word => exact .ok none

/-! ## Nothing is wrong with what is accepted -/

theorem referenceFaults_eq_nil_iff {reference : String} :
    referenceFaults components name reference = [] ↔ components.Defines reference := by
  unfold referenceFaults Components.Defines
  cases components.lookup (refName reference) <;> simp

theorem memberFaults_eq_nil_iff {member : Descriptor} :
    memberFaults components name member = [] ↔ member.type = none ∧
      ∃ reference, member.reference = some reference ∧ components.Defines reference := by
  unfold memberFaults
  cases member.reference with
  | none => simp
  | some reference => cases member.type <;> simp [referenceFaults_eq_nil_iff]

theorem propertyFaults_eq_nil_iff {property : String × Descriptor} :
    propertyFaults strict name property = [] ↔ (strict = true → property.2.IsTypable) := by
  unfold propertyFaults
  cases strict <;> simp [typeFaults_eq_nil_iff]

theorem combinationFaults_eq_nil_iff {schema : Schema} :
    combinationFaults components name schema = [] ↔
      (∀ reference, schema.reference = some reference → components.Defines reference) ∧
      (schema.reference = none → ∀ members, schema.allOf = some members →
        ∀ member ∈ members, member.type = none ∧
          ∃ reference, member.reference = some reference ∧ components.Defines reference) := by
  unfold combinationFaults
  cases schema.reference with
  | some reference => simp [referenceFaults_eq_nil_iff]
  | none =>
    cases schema.allOf with
    | none => simp
    | some members => simp [memberFaults_eq_nil_iff]

theorem kindFaults_eq_nil_iff {effective : Schema} :
    kindFaults strict name effective = [] ↔
      (effective.kind = some .string → effective.literals.getD [] ≠ []) ∧
      (strict = true → effective.kind = some .object →
        ∀ property ∈ effective.properties.entries, property.2.IsTypable) := by
  unfold kindFaults
  split
  next hkind =>
    simp only [List.flatMap_eq_nil_iff, propertyFaults_eq_nil_iff]
    constructor
    · intro h
      exact ⟨by simp [hkind], fun hstrict _ property hmem => h property hmem hstrict⟩
    · rintro ⟨-, h⟩ property hmem hstrict
      exact h hstrict hkind property hmem
  next hkind => simp [hkind]
  next hobject hstring =>
    exact iff_of_true rfl ⟨fun hkind => (hstring hkind).elim, fun _ hkind => (hobject hkind).elim⟩

/-- What a schema refers to is combined to a record, so only a schema that stands for itself can
miss its literals. -/
theorem kind_combined_eq_string_iff {schema : Schema} :
    (schema.combined components).kind = some .string ↔
      schema.reference = none ∧ schema.allOf = none ∧ schema.kind = some .string := by
  unfold Schema.combined
  split
  next hrefers =>
    refine iff_of_false (by simp [combine]) ?_
    rintro ⟨hreference, hallOf, -⟩
    simp [hreference, hallOf] at hrefers
  next hrefers =>
    rw [not_or, Option.not_isSome_iff_eq_none, Option.not_isSome_iff_eq_none] at hrefers
    simp [hrefers]

theorem schemaFaults_eq_nil_iff {named : String × Schema} :
    schemaFaults components strict named = [] ↔ named.2.IsSupported components strict := by
  rw [schemaFaults, List.append_eq_nil_iff, combinationFaults_eq_nil_iff, kindFaults_eq_nil_iff,
    kind_combined_eq_string_iff]
  have hself : named.2.reference = none → named.2.allOf = none →
      named.2.combined components = named.2 := by
    intro hreference hallOf
    simp [Schema.combined, hreference, hallOf]
  constructor
  · rintro ⟨⟨hreference, hmembers⟩, hliterals, hproperties⟩
    refine ⟨hreference, hmembers, fun hnoReference hnoMembers hkind => ?_, hproperties⟩
    rw [← hself hnoReference hnoMembers]
    exact hliterals ⟨hnoReference, hnoMembers, hkind⟩
  · intro h
    refine ⟨⟨h.reference, h.members⟩, ?_, h.properties⟩
    rintro ⟨hnoReference, hnoMembers, hkind⟩
    rw [hself hnoReference hnoMembers]
    exact h.literals hnoReference hnoMembers hkind

theorem schemasExpand_iff_isSupported :
    SchemasExpand components strict ↔
      ∀ named ∈ components.schemas.entries, named.2.IsSupported components strict := by
  refine forall₂_congr fun named _ => ?_
  rw [(stopsAtFirst_expandSchema named).exists_ok_iff, schemaFaults_eq_nil_iff]

/-! ## The names of the models -/

/-- A schema that expands gives its name to a model exactly if it gives one. -/
theorem name_expandSchema {named : String × Schema} {model? : Option (Model TypeRef)}
    (h : (expandSchema components strict named).result = .ok model?) :
    model?.map (·.name) = if named.2.GivesModel then some named.1 else none := by
  obtain ⟨effective, heffective, rfl, henum⟩ := expandSchema_eq_ok h
  split
  next hgives =>
    have hkind := (kind_effectiveSchema_iff heffective).mpr hgives
    obtain ⟨model, hmodel⟩ := exists_schemaModel? named.1 hkind henum
    rw [hmodel, Option.map_some, name_schemaModel? hmodel]
  next hgives =>
    rw [Option.map_eq_none_iff, Option.eq_none_iff_forall_ne_some]
    intro model hmodel
    exact hgives ((kind_effectiveSchema_iff heffective).mp (kind_of_schemaModel? hmodel))

/-- The models are named, in order, as the schemas that give one. -/
theorem SchemasExpand.names_schemaModels (h : SchemasExpand components strict) :
    (schemaModels components).map (·.name) = components.modelNames := by
  obtain ⟨models, hmodels⟩ := schemasExpand_iff.mp h
  rw [← mapM_expandSchema_eq_ok hmodels, Components.modelNames]
  rw [Traced.result_mapM, Except.mapM_eq_ok_iff] at hmodels
  clear h
  generalize components.schemas.entries = entries at hmodels ⊢
  induction hmodels with
  | nil => rfl
  | @cons named model? entries models hnamed _ ih =>
    have hname := name_expandSchema hnamed
    by_cases hgives : named.2.GivesModel
    · rw [if_pos hgives, Option.map_eq_some_iff] at hname
      obtain ⟨model, rfl, hmodel⟩ := hname
      simp [List.reduceOption_cons_of_some, hgives, hmodel, ih]
    · rw [if_neg hgives, Option.map_eq_none_iff] at hname
      simp [List.reduceOption_cons_of_none, hgives, hname, ih]

/-! ## The names of the enums -/

/-- The enums are looked at one after the other. The names that are taken are those of the models
and of the enums before. -/
theorem stopsAtFirst_checkNamesFrom {origins : Dict String NameOrigin} {models : List String}
    {before : List EnumOwner}
    (horigins : ∀ name, origins.get? name = if name ∈ models then some (.schemaNamed name)
      else (before.find? (·.enumName = name)).map (.propertyOf ·.schema))
    (owners : List EnumOwner) :
    StopsAtFirst (enumNameFaultsFrom models before owners)
      (checkNamesFrom origins (owners.map fun owner => (owner.schema, owner.enumName))) := by
  induction owners generalizing origins before with
  | nil => exact .ok ()
  | cons owner rest ih =>
    rw [enumNameFaultsFrom, enumNameFaults, List.map_cons, checkNamesFrom, horigins]
    split
    next => exact rfl
    next hmodel =>
      cases hfirst : before.find? (·.enumName = owner.enumName) with
      | some first => exact rfl
      | none =>
        refine ih fun name => ?_
        rw [Dict.get?_insert, horigins, List.find?_append]
        by_cases hname : name = owner.enumName
        · subst hname
          simp [hmodel, hfirst]
        · simp [hname, Ne.symm hname]

/-- Where the check of the enums starts: the names of the models are taken, and no others. -/
theorem get?_origins (h : SchemasExpand components strict) (name : String) :
    (Dict.ofList ((schemaModels components).map fun model =>
      (model.name, NameOrigin.schemaNamed model.name))).get? name =
        if name ∈ components.modelNames then some (.schemaNamed name) else none := by
  rw [← h.names_schemaModels]
  split
  next hmem =>
    obtain ⟨model, hmodel, rfl⟩ := List.mem_map.mp hmem
    rw [Dict.get?_eq_some_iff, entries_origins]
    exact List.mem_map.mpr ⟨model, hmodel, rfl⟩
  next hmem =>
    rwa [Dict.get?_eq_none_iff, keys_origins]

theorem SchemasExpand.stopsAtFirst_checkEnumNames (h : SchemasExpand components strict) :
    StopsAtFirst (enumNameFaultsFrom components.modelNames [] (enumOwners components))
      (checkEnumNames (schemaModels components)) := by
  rw [checkEnumNames, nestedEnumNames_schemaModels]
  exact stopsAtFirst_checkNamesFrom (get?_origins h) (enumOwners components)

/-- No enum has a name that is taken exactly if the names of all types differ. -/
theorem SchemasExpand.enumNameFaults_eq_nil_iff (h : SchemasExpand components strict) :
    enumNameFaultsFrom components.modelNames [] (enumOwners components) = [] ↔
      components.typeNames.Nodup := by
  have hchecked : (∃ a, checkEnumNames (schemaModels components) = .ok a) ↔
      checkEnumNames (schemaModels components) = .ok () :=
    ⟨fun ⟨_, hok⟩ => hok, fun hok => ⟨(), hok⟩⟩
  rw [← h.stopsAtFirst_checkEnumNames.exists_ok_iff, hchecked, checkEnumNames,
    checkNamesFrom_eq_ok_iff, keys_origins, h.names_schemaModels, nestedEnumNames_schemaModels,
    List.map_map]
  rfl

/-! ## The models of a document -/

/-- The schemas are looked at one after the other, and then the names of the enums. -/
theorem stopsAtFirst_expandModels :
    StopsAtFirst (modelFaults components strict) (expandModels components strict).result := by
  rw [modelFaults, expandModels, Traced.result_bind, Traced.result_mapM]
  have hschemas : StopsAtFirst
      (components.schemas.entries.flatMap (schemaFaults components strict))
      (components.schemas.entries.mapM fun named =>
        (expandSchema components strict named).result) :=
    .mapM fun named _ => stopsAtFirst_expandSchema named
  refine hschemas.bind fun models hmodels => ?_
  rw [← Traced.result_mapM] at hmodels
  have hexpand : SchemasExpand components strict := schemasExpand_iff.mpr ⟨models, hmodels⟩
  rw [mapM_expandSchema_eq_ok hmodels, Traced.result_bind, Traced.result_ofExcept]
  exact hexpand.stopsAtFirst_checkEnumNames.map

theorem modelFaults_eq_nil_iff :
    modelFaults components strict = [] ↔ SchemasSupported components strict := by
  have hschemas : components.schemas.entries.flatMap (schemaFaults components strict) = [] ↔
      ∀ named ∈ components.schemas.entries, named.2.IsSupported components strict := by
    simp only [List.flatMap_eq_nil_iff, schemaFaults_eq_nil_iff]
  rw [modelFaults, List.append_eq_nil_iff, hschemas]
  constructor
  · rintro ⟨hsupported, hnames⟩
    have hexpand := schemasExpand_iff_isSupported.mpr hsupported
    exact ⟨hsupported, hexpand.enumNameFaults_eq_nil_iff.mp hnames⟩
  · intro h
    have hexpand := schemasExpand_iff_isSupported.mpr h.schemas
    exact ⟨h.schemas, hexpand.enumNameFaults_eq_nil_iff.mpr h.names⟩

/-- A name is found to be taken only once all schemas are supported. -/
theorem isSupported_of_head?_modelFaults {enumName : String} {first second : NameOrigin}
    (h : (modelFaults components strict).head? = some (.duplicateEnumName enumName first second)) :
    ∀ named ∈ components.schemas.entries, named.2.IsSupported components strict := by
  simp only [← schemaFaults_eq_nil_iff, ← List.flatMap_eq_nil_iff]
  rw [modelFaults] at h
  cases hschemas : components.schemas.entries.flatMap (schemaFaults components strict) with
  | nil => rfl
  | cons fault rest =>
    rw [hschemas, List.cons_append, List.head?_cons, Option.some.injEq] at h
    subst h
    have hmem : .duplicateEnumName enumName first second ∈
        components.schemas.entries.flatMap (schemaFaults components strict) := by simp [hschemas]
    obtain ⟨named, -, hfault⟩ := List.mem_flatMap.mp hmem
    rcases mem_schemaFaults hfault with (⟨_, h⟩ | h) | ⟨_, _, h⟩ | h <;> cases h

/-- **Models and their first fault.** The schemas of a document give their models exactly if every
schema is supported and no two generated types have one name, and then the models are those of the
schemas that refer to others or are an object or a string, in the order of the document. Otherwise
the run ends in the first fault of the first schema that is not supported; only if all of them are
does it end in a name that is taken. -/
theorem spelledModels_result (v : Vocabulary) (strict : Bool) (components : Components) :
    ((∃ models, (spelledModels v strict components).result = .ok models) ↔
        SchemasSupported components strict) ∧
      (∀ models, (spelledModels v strict components).result = .ok models →
        models.map (·.name) = components.modelNames) ∧
      (∀ fault, (spelledModels v strict components).result = .error fault ↔
        (modelFaults components strict).head? = some fault) ∧
      ∀ enumName first second, (spelledModels v strict components).result =
          .error (.duplicateEnumName enumName first second) →
        ∀ named ∈ components.schemas.entries, named.2.IsSupported components strict := by
  have hstops : StopsAtFirst (modelFaults components strict)
      (spelledModels v strict components).result := by
    rw [spelledModels_eq, Traced.result_map]
    exact stopsAtFirst_expandModels.map
  refine ⟨?_, ?_, fun fault => hstops.eq_error_iff, ?_⟩
  · rw [hstops.exists_ok_iff, modelFaults_eq_nil_iff]
  · intro spelled h
    obtain ⟨models, hmodels, rfl⟩ := spelledModels_eq_ok_iff.mp h
    obtain ⟨hexpand, -, rfl⟩ := expandModels_eq_ok_iff.mp hmodels
    rw [names_spell, hexpand.names_schemaModels]
  · intro enumName first second h
    exact isSupported_of_head?_modelFaults (hstops.eq_error_iff.mp h)

end ApiStencil

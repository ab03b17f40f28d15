import ApiStencil.Proofs.Model.Documentation
import ApiStencil.Proofs.Text.Utf8

/-!
# The properties of a record

A record accounts for every property of its schema. Either the property is in the record, or it has
no type and is dropped, and then the run warns of it once. The record sorts its properties, while
its enums and the warnings come in the order of the schema; it is the names that say which of them
belong together.

## Main definitions

* `droppedProperties`: the properties of a schema without a type, each with the cause
* `Event.isAbout`: an event names a schema
* `ObjectModel.AccountsFor`: a record and the dropped properties make up a schema

## Main results

* `perm_kept_dropped`: every property is kept or dropped
* `warnings_expandModels`: the warnings of a run, schema by schema
* `accountsFor_objectModel`: a record accounts for its schema
* `spelledModels_properties`: so does every record of a document, and the warnings tell of the rest
-/

namespace ApiStencil

variable {v : Vocabulary} {components : Components} {name : String} {effective : Schema}

/-! ## Kept and dropped properties -/

/-- The properties of a schema that have no type, each with the cause, in the order of the
schema. -/
def droppedProperties (name : String) (schema : Schema) : List (String × TypeFault) :=
  schema.properties.entries.filterMap fun property =>
    match expandType property.2 (some { schema := name, property := property.1 }) with
    | .ok _ => none
    | .error cause => some (property.1, cause)

theorem mem_droppedProperties_iff {dropped : String × TypeFault} :
    dropped ∈ droppedProperties name effective ↔
      ∃ node, effective.properties.get? dropped.1 = some node ∧
        expandType node (some { schema := name, property := dropped.1 }) = .error dropped.2 := by
  obtain ⟨p, cause⟩ := dropped
  simp only [droppedProperties, List.mem_filterMap, Dict.get?_eq_some_iff]
  constructor
  · rintro ⟨⟨p, node⟩, hmem, h⟩
    split at h
    next => cases h
    next other hx =>
      cases h
      exact ⟨node, hmem, hx⟩
  · rintro ⟨node, hmem, hx⟩
    exact ⟨(p, node), hmem, by simp only [hx]⟩

theorem sublist_names_droppedProperties (name : String) (schema : Schema) :
    ((droppedProperties name schema).map (·.1)).Sublist schema.properties.keys := by
  refine sublist_map_filterMap (fun property dropped h => ?_) schema.properties.entries
  split at h <;> cases h
  rfl

/-- Every property of a schema is kept or dropped. -/
theorem perm_kept_dropped (name : String) (schema : Schema) :
    ((keptProperties name schema).map (·.1.name) ++
      (droppedProperties name schema).map (·.1)).Perm schema.properties.keys := by
  unfold keptProperties droppedProperties Dict.keys
  induction schema.properties.entries with
  | nil => exact .nil
  | cons property rest ih =>
    cases hx : expandType property.2 (some { schema := name, property := property.1 }) with
    | ok expansion =>
      have hkept : typedProperty? name schema.required property =
          some (typedProperty schema.required property.1 property.2 expansion) := by
        rw [typedProperty?, hx]
        rfl
      rw [List.filterMap_cons_some hkept, List.filterMap_cons_none (by simp only [hx])]
      exact ih.cons property.1
    | error cause =>
      have hkept : typedProperty? name schema.required property = none := by
        rw [typedProperty?, hx]
        rfl
      rw [List.filterMap_cons_none hkept,
        List.filterMap_cons_some (b := (property.1, cause)) (by simp only [hx])]
      exact List.perm_middle.trans (ih.cons property.1)

/-! ## Warnings -/

/-- The warnings of dropped properties. -/
def dropWarnings (schema : String) (dropped : List (String × TypeFault)) : List Event :=
  dropped.map fun d => Log.droppedProperty { schema, property := d.1 } d.2

/-- An event names a schema. -/
def Event.isAbout (schema : String) (event : Event) : Bool :=
  event.fields.head? = some ("schema", schema)

theorem isAbout_of_mem_dropWarnings {schema other : String} {dropped : List (String × TypeFault)}
    {event : Event} (h : event ∈ dropWarnings schema dropped) :
    event.isAbout other = true ↔ schema = other := by
  obtain ⟨d, -, rfl⟩ := List.mem_map.mp h
  simp [Event.isAbout, Log.droppedProperty]

theorem warnings_expandProperty (name : String) (required : List String)
    (property : String × Descriptor) :
    (expandProperty false name required property).warnings =
      match expandType property.2 (some { schema := name, property := property.1 }) with
      | .ok _ => []
      | .error cause => [Log.droppedProperty { schema := name, property := property.1 } cause] := by
  cases hx : expandType property.2 (some { schema := name, property := property.1 }) with
  | ok expansion =>
    rw [expandProperty_of_ok hx]
    rfl
  | error cause =>
    rw [expandProperty_of_error hx]
    rfl

/-- A lenient run gives every record. -/
theorem exists_expandProperties_eq_ok (name : String) (schema : Schema) :
    ∃ typed, (schema.properties.entries.mapM
      (expandProperty false name schema.required)).result = .ok typed := by
  rw [Traced.result_mapM, Except.exists_mapM_eq_ok_iff]
  intro property _
  cases hx : expandType property.2 (some { schema := name, property := property.1 }) with
  | ok expansion => exact ⟨_, by rw [expandProperty_of_ok hx]⟩
  | error cause => exact ⟨none, by rw [expandProperty_of_error hx]; rfl⟩

theorem warnings_expandObject (name : String) (schema : Schema) :
    (expandObject false name schema).warnings =
      dropWarnings name (droppedProperties name schema) := by
  obtain ⟨typed, htyped⟩ := exists_expandProperties_eq_ok name schema
  rw [expandObject, Traced.warnings_bind_of_ok _ htyped, Traced.warnings_mapM_of_ok htyped]
  show _ ++ [] = _
  rw [List.append_nil, dropWarnings, droppedProperties, List.map_filterMap,
    List.filterMap_eq_flatMap_toList]
  refine List.flatMap_congr fun property _ => ?_
  rw [warnings_expandProperty]
  cases expandType property.2 (some { schema := name, property := property.1 }) <;> rfl

/-- The warnings that a schema gives rise to: those of its record, if it gives one. -/
def schemaWarnings (components : Components) (named : String × Schema) : List Event :=
  match effectiveSchema components named.1 named.2 with
  | .ok effective =>
    if effective.kind = some .object then
      dropWarnings named.1 (droppedProperties named.1 effective)
    else []
  | .error _ => []

theorem warnings_expandSchema (components : Components) (named : String × Schema) :
    (expandSchema components false named).warnings = schemaWarnings components named := by
  unfold expandSchema schemaWarnings
  cases effectiveSchema components named.1 named.2 with
  | error fault => rfl
  | ok effective =>
    rw [Traced.warnings_bind_of_ok _ (Traced.result_ofExcept _)]
    show [] ++ _ = ite _ _ _
    rw [List.nil_append]
    split
    next hkind =>
      obtain ⟨typed, htyped⟩ := exists_expandProperties_eq_ok named.1 effective
      obtain ⟨model, hmodel⟩ : ∃ model, (expandObject false named.1 effective).result = .ok model :=
        ⟨_, by rw [expandObject, Traced.bind_of_ok _ htyped]; rfl⟩
      rw [Traced.warnings_bind_of_ok _ hmodel, warnings_expandObject, if_pos hkind]
      exact List.append_nil _
    next hkind =>
      rw [if_neg (by simp [hkind])]
      cases expandEnum TypeRef.text named.1 effective <;> rfl
    next hobject _ =>
      rw [if_neg hobject]
      cases effective.kind <;> rfl

/-- The warnings of a run come schema by schema. -/
theorem warnings_expandModels {models : List (Model TypeRef)}
    (h : (expandModels components false).result = .ok models) :
    (expandModels components false).warnings =
      components.schemas.entries.flatMap (schemaWarnings components) := by
  obtain ⟨options, hoptions⟩ := schemasExpand_iff.mp (expandModels_eq_ok_iff.mp h).1
  rw [expandModels, Traced.warnings_bind_of_ok _ hoptions, Traced.warnings_mapM_of_ok hoptions]
  simp only [warnings_expandSchema]
  cases checkEnumNames options.reduceOption <;> exact List.append_nil _

theorem isAbout_of_mem_schemaWarnings {named : String × Schema} {event : Event}
    (h : event ∈ schemaWarnings components named) (schema : String) :
    event.isAbout schema = true ↔ named.1 = schema := by
  unfold schemaWarnings at h
  split at h
  next =>
    split at h
    next => exact isAbout_of_mem_dropWarnings h
    next => cases h
  next => cases h

/-- The warnings about a schema are its own. -/
theorem filter_isAbout_schemaWarnings {schema : Schema}
    (hschema : components.lookup name = some schema) :
    (components.schemas.entries.flatMap (schemaWarnings components)).filter (·.isAbout name) =
      schemaWarnings components (name, schema) := by
  have hfilter : ∀ named : String × Schema,
      (schemaWarnings components named).filter (·.isAbout name) =
        if named.1 = name then schemaWarnings components named else [] := by
    intro named
    split
    next hname =>
      rw [List.filter_eq_self]
      exact fun event hevent => (isAbout_of_mem_schemaWarnings hevent name).mpr hname
    next hname =>
      rw [List.filter_eq_nil_iff]
      exact fun event hevent habout =>
        hname ((isAbout_of_mem_schemaWarnings hevent name).mp habout)
  have hpick : ∀ entries : List (String × Schema),
      (entries.flatMap fun named =>
        if named.1 = name then schemaWarnings components named else []) =
        (entries.filter (·.1 = name)).flatMap (schemaWarnings components) := by
    intro entries
    induction entries with
    | nil => rfl
    | cons named entries ih =>
      rw [List.flatMap_cons, ih]
      by_cases hname : named.1 = name <;> simp [hname]
  have hget : components.schemas.get? name = some schema := hschema
  rw [List.filter_flatMap]
  simp only [hfilter]
  rw [hpick, Dict.filter_entries, hget]
  exact List.append_nil _

/-! ## The record of a schema -/

/-- A record and the dropped properties make up a schema. -/
structure ObjectModel.AccountsFor (v : Vocabulary) (effective : Schema)
    (dropped : List (String × TypeFault)) (record : ObjectModel String) : Prop where
  /-- Every property is in the record or dropped, and none is both. -/
  split : (record.properties.map (·.name) ++ dropped.map (·.1)).Perm effective.properties.keys
  /-- Properties are dropped in the order of the schema. -/
  ordered : (dropped.map (·.1)).Sublist effective.properties.keys
  typed : ∀ p ∈ record.properties, ∃ node expansion,
    effective.properties.get? p.name = some node ∧
      expandType node (some { schema := record.name, property := p.name }) = .ok expansion ∧
      p.type = v.spell expansion.type
  untyped : ∀ d ∈ dropped, ∃ node, effective.properties.get? d.1 = some node ∧
    expandType node (some { schema := record.name, property := d.1 }) = .error d.2
  /-- The names ascend by the bytes of their encoding. -/
  ascending : record.properties.Pairwise fun a b =>
    Text.encodeText a.name.toList < Text.encodeText b.name.toList
  init : record.init = ", ".intercalate (record.properties.map fun p => p.name ++ ": " ++ p.type)
  optional : ∀ p ∈ record.properties, p.isOptional = true ↔ p.name ∉ effective.required
  /-- Each property of the schema that gets an enum is in the record, with the name of its enum for
  its type and the description of its enum. -/
  enums : List.Forall₂ (fun property nested =>
      nested.name = nestedEnumName record.name property.1 ∧
        property.2.literals = some (nested.cases.map (·.name)) ∧
        ∃ p ∈ record.properties, p.name = property.1 ∧ p.type = nested.name ∧
          p.description = nested.description)
    (effective.properties.entries.filter (·.2.IsEnum)) record.nestedEnums
  distinct : (record.nestedEnums.map (·.name)).Nodup

theorem perm_names_objectModel (v : Vocabulary) (name : String) (effective : Schema) :
    (((objectModel name effective).mapType v.spell).properties.map (·.name)).Perm
      ((keptProperties name effective).map (·.1.name)) := by
  have hsorted := (isStableSort_sortProperties ((keptProperties name effective).map (·.1))).perm
  have hnames := hsorted.map (·.name)
  rw [List.map_map] at hnames
  simpa [ObjectModel.mapType, objectModel, ModelProperty.mapType, Function.comp_def] using hnames

/-- The enums of a record are those of the properties that get one, in order. -/
theorem nestedEnums_spell_objectModel (v : Vocabulary) (name : String) (effective : Schema) :
    List.Forall₂ (fun property nested => ∃ literals, property.2.literals = some literals ∧
        enumLiterals? property.2 = some literals ∧
        nested = (nestedEnum .text { schema := name, property := property.1 } property.2.description
          literals).mapType v.spell)
      (effective.properties.entries.filter (·.2.IsEnum))
      ((objectModel name effective).mapType v.spell).nestedEnums := by
  show List.Forall₂ _ _ ((objectModel name effective).nestedEnums.map _)
  rw [nestedEnums_objectModel]
  induction effective.properties.entries with
  | nil => exact .nil
  | cons property rest ih =>
    by_cases hproperty : property.2.IsEnum
    · obtain ⟨literals, hliterals, henum⟩ := Descriptor.isEnum_iff.mp hproperty
      rw [List.filter_cons_of_pos (by simpa using hproperty), List.filterMap_cons, henum]
      exact .cons ⟨literals, hliterals, henum, rfl⟩ ih
    · rw [List.filter_cons_of_neg (by simpa using hproperty), List.filterMap_cons,
        Descriptor.enumLiterals?_eq_none hproperty]
      exact ih

theorem accountsFor_objectModel (v : Vocabulary)
    (hdistinct : ((objectModel name effective).nestedEnums.map (·.name)).Nodup) :
    ((objectModel name effective).mapType v.spell).AccountsFor v effective
      (droppedProperties name effective) where
  split := ((perm_names_objectModel v name effective).append_right _).trans
    (perm_kept_dropped name effective)
  ordered := sublist_names_droppedProperties name effective
  typed p hp := by
    obtain ⟨node, expansion, hget, hx, htype, -⟩ := mem_properties_objectModel_iff.mp hp
    exact ⟨node, expansion, hget, hx, htype⟩
  untyped d hd := mem_droppedProperties_iff.mp hd
  ascending := by
    refine (ascending_objectModel name effective).imp fun {a b} hab => ?_
    exact Text.encodeText_lt_encodeText hab
  init := ObjectModel.init_eq _
  optional p hp := by
    obtain ⟨node, expansion, -, -, -, -, hoptional⟩ := mem_properties_objectModel_iff.mp hp
    exact hoptional
  enums := by
    have hmem : ∀ property ∈ effective.properties.entries.filter (·.2.IsEnum),
        effective.properties.get? property.1 = some property.2 := by
      intro property hproperty
      exact (Dict.get?_eq_some_iff ..).mpr (List.mem_filter.mp hproperty).1
    refine ((List.forall₂_and_left _ _).mpr
      ⟨hmem, nestedEnums_spell_objectModel v name effective⟩).imp ?_
    rintro ⟨p, node⟩ _ ⟨hget, literals, hliterals, henum, rfl⟩
    have hrecord : _ ∧ ∃ q ∈ ((objectModel name effective).mapType v.spell).properties,
        q.name = p ∧ q.type = nestedEnumName name p ∧ q.description = _ :=
      @mem_nestedEnums_objectModel v effective node literals { schema := name, property := p }
        hget henum
    refine ⟨rfl, ?_, hrecord.2⟩
    have hnames : (nestedEnum TypeRef.text { schema := name, property := p } node.description
        literals).cases.map (·.name) = literals := by simp [nestedEnum, Function.comp_def]
    exact hliterals.trans (congrArg some hnames.symm)
  distinct := by
    simpa [ObjectModel.mapType, EnumModel.mapType, Function.comp_def] using hdistinct

/-- A record of a document is that of the schema with its name. -/
theorem exists_of_object_mem_spelledModels {strict : Bool} {spelled : List (Model String)}
    {record : ObjectModel String} (h : (spelledModels v strict components).result = .ok spelled)
    (hrecord : .object record ∈ spelled) :
    ∃ name schema effective, components.lookup name = some schema ∧
      effectiveSchema components name schema = .ok effective ∧ effective.kind = some .object ∧
      record = (objectModel name effective).mapType v.spell ∧
      ((objectModel name effective).nestedEnums.map (·.name)).Nodup := by
  obtain ⟨models, hmodels, rfl⟩ := spelledModels_eq_ok_iff.mp h
  obtain ⟨-, hcheck, rfl⟩ := expandModels_eq_ok_iff.mp hmodels
  obtain ⟨model, hmodel, hspell⟩ := List.mem_map.mp hrecord
  obtain ⟨⟨name, schema⟩, hentry, effective, heffective, hmade⟩ := mem_schemaModels_iff.mp hmodel
  rcases schemaModel?_eq_some_iff.mp hmade with ⟨hkind, rfl⟩ | ⟨-, made, -, rfl⟩
  · have hnames := (List.nodup_append.mp ((checkEnumNames_eq_ok_iff components).mp hcheck)).2.1
    exact ⟨name, schema, effective, (Dict.get?_eq_some_iff ..).mpr hentry, heffective, hkind,
      (Model.object.inj hspell).symm, (List.nodup_flatMap.mp hnames).1 _ hmodel⟩
  · cases hspell

/-- Every warning of a successful run is about a record that the run gives. -/
theorem exists_object_of_mem_schemaWarnings {spelled : List (Model String)}
    {named : String × Schema} {warning : Event}
    (h : (spelledModels v false components).result = .ok spelled)
    (hnamed : named ∈ components.schemas.entries)
    (hwarning : warning ∈ schemaWarnings components named) :
    ∃ record, .object record ∈ spelled ∧ record.name = named.1 := by
  have hschema : components.lookup named.1 = some named.2 := (Dict.get?_eq_some_iff ..).mpr hnamed
  unfold schemaWarnings at hwarning
  split at hwarning
  next effective heffective =>
    split at hwarning
    next hkind =>
      rw [effectiveSchema_eq_combined heffective] at hkind
      exact ⟨_, mem_spelledModels_of_kind h hschema hkind, rfl⟩
    next => cases hwarning
  next => cases hwarning

/-- **Nothing is lost silently.** In a lenient run that succeeds every record accounts for the
effective schema of its name: the properties of the schema split into those of the record, ascending
by name, and dropped ones without a type, and the enums of the record are those of its properties
that get one, in the order of the schema. The warnings about the record are one for each dropped
property in that order, with its cause, and all warnings of the run are about records. -/
theorem spelledModels_properties (v : Vocabulary) (components : Components)
    {spelled : List (Model String)}
    (h : (spelledModels v false components).result = .ok spelled) :
    (∀ record, .object record ∈ spelled → ∃ schema effective dropped,
      components.lookup record.name = some schema ∧
        effectiveSchema components record.name schema = .ok effective ∧
        record.AccountsFor v effective dropped ∧
        (spelledModels v false components).warnings.filter (·.isAbout record.name) =
          dropped.map fun d => Log.droppedProperty { schema := record.name, property := d.1 } d.2) ∧
      ∀ warning ∈ (spelledModels v false components).warnings,
        ∃ record, .object record ∈ spelled ∧ warning.isAbout record.name = true := by
  obtain ⟨models, hmodels, -⟩ := spelledModels_eq_ok_iff.mp h
  have hwarnings : (spelledModels v false components).warnings =
      components.schemas.entries.flatMap (schemaWarnings components) := by
    rw [spelledModels_eq, Traced.warnings_map, warnings_expandModels hmodels]
  rw [hwarnings]
  constructor
  · intro record hrecord
    obtain ⟨name, schema, effective, hschema, heffective, hkind, rfl, hdistinct⟩ :=
      exists_of_object_mem_spelledModels h hrecord
    refine ⟨schema, effective, droppedProperties name effective, hschema, heffective,
      accountsFor_objectModel v hdistinct, ?_⟩
    show List.filter (·.isAbout name) _ = dropWarnings name _
    rw [filter_isAbout_schemaWarnings hschema]
    simp only [schemaWarnings, heffective, if_pos hkind]
  · intro warning hwarning
    obtain ⟨named, hnamed, hwarning⟩ := List.mem_flatMap.mp hwarning
    obtain ⟨record, hrecord, hname⟩ := exists_object_of_mem_schemaWarnings h hnamed hwarning
    exact ⟨record, hrecord, (isAbout_of_mem_schemaWarnings hwarning _).mpr hname.symm⟩

/-- A schema with an enum, a binary string with literals, and two properties without a type. -/
def parcelSchema : Schema where
  kind := some .object
  required := ["size", "inner"]
  properties := Dict.ofList [
    ("size", { type := some .string, description := some "Its size|\n- xxbig - Large"
               literals := some ["big", "small"] }),
    ("inner", { type := some .object }),
    ("photo", { type := some .string, format := some "binary", literals := some ["none"] }),
    ("labels", { type := some .array }),
    ("owner", { reference := some "#/components/schemas/Box" })]

/-- A document with that schema and an alias of it. -/
def parcelComponents : Components where
  schemas := Dict.ofList [("Parcel", parcelSchema),
    ("Box", { reference := some "#/components/schemas/Parcel" })]

theorem spelledModels_properties_parcel :
    ∃ spelled record effective dropped,
      (spelledModels {} false parcelComponents).result = .ok spelled ∧
        .object record ∈ spelled ∧ record.name = "Parcel" ∧
        record.AccountsFor {} effective dropped ∧
        dropped.map (fun d => Log.droppedProperty { schema := record.name, property := d.1 } d.2) =
          [Log.droppedProperty { schema := "Parcel", property := "inner" } .inlineObject,
            Log.droppedProperty { schema := "Parcel", property := "labels" } .noItems] ∧
        (spelledModels {} false parcelComponents).warnings.length = 4 := by
  have hok : (spelledModels {} false parcelComponents).result.toOption.isSome := by decide +kernel
  obtain ⟨spelled, hspelled⟩ := Except.exists_eq_ok_of_isSome hok
  have hschema : parcelComponents.lookup "Parcel" = some parcelSchema := by decide +kernel
  have hmem := mem_spelledModels_of_kind hspelled hschema (by decide +kernel)
  generalize hrecord : (objectModel "Parcel" (parcelSchema.combined parcelComponents)).mapType
    (Vocabulary.spell {}) = record at hmem
  have hname : record.name = "Parcel" := by
    rw [← hrecord]
    rfl
  obtain ⟨-, effective, dropped, -, -, haccounts, hwarnings⟩ :=
    (spelledModels_properties {} parcelComponents hspelled).1 record hmem
  refine ⟨spelled, record, effective, dropped, hspelled, hmem, hname, haccounts, ?_,
    by decide +kernel⟩
  rw [← hwarnings, hname]
  decide +kernel

end ApiStencil

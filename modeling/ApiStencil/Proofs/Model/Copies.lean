import ApiStencil.Proofs.Model.Composition

/-!
# Copied models

A schema that is a reference gives the record of the schema that it names, under its own name. That
schema is taken as it is written. If it is an object, both records have the same properties, up to
the names of the enums that are generated for them. If it refers to others itself, its own record
has their properties and that of the reference has not.

## Main definitions

* `TypeRef.withEnum`, `ModelProperty.ownedBy`: a property in a record of another name
* `ObjectModel.Copies`: a record has the properties of another one

## Main results

* `copies_objectModel`: the records of one schema under two names
* `spelledModels_alias`: the record of a reference
* `spelledModels_alias_empty`: references to schemas that refer to others
-/

namespace ApiStencil

variable {v : Vocabulary} {strict : Bool} {components : Components} {name other : String}

/-! ## One schema under two names -/

/-- A type in which the enum goes by another name, if it is one. -/
def TypeRef.withEnum (name : String) : TypeRef → TypeRef
  | .enum _ => .enum name
  | type => type

/-- A property as the record of some name has it, which the enum of the property is named after. -/
def ModelProperty.ownedBy (owner : String) (p : ModelProperty TypeRef) : ModelProperty TypeRef :=
  { p with type := p.type.withEnum (nestedEnumName owner p.name) }

/-- A record has the properties of another one, in the same order. They are alike but for the names
of the enums among their types; and so are these enums, one for each. -/
structure ObjectModel.Copies (copy original : ObjectModel TypeRef) : Prop where
  properties : copy.properties = original.properties.map (·.ownedBy copy.name)
  nestedEnums : List.Forall₂ (fun nested source => ∃ p ∈ original.properties,
      p.type = .enum source.name ∧ source.name = nestedEnumName original.name p.name ∧
        nested = { source with name := nestedEnumName copy.name p.name })
    copy.nestedEnums original.nestedEnums

/-- A type word never gives an enum. -/
theorem mapScalar_withEnum {node : Descriptor} {type : TypeRef} (h : mapScalar node = .ok type)
    (enum : String) : type.withEnum enum = type := by
  rcases mapScalar_primitive_or_array h with ⟨kind, rfl⟩ | ⟨element, rfl⟩
  · rfl
  · rfl

theorem property_typedProperty? (name other : String) (required : List String)
    (property : String × Descriptor) :
    (typedProperty? other required property).map (·.1) =
      ((typedProperty? name required property).map (·.1)).map (·.ownedBy other) := by
  unfold typedProperty?
  cases hliterals : enumLiterals? property.2 with
  | some literals =>
    rw [expandType_of_enumLiterals _ hliterals, expandType_of_enumLiterals _ hliterals]
    rfl
  | none =>
    have howner : expandType property.2 (some { schema := other, property := property.1 }) =
        expandType property.2 (some { schema := name, property := property.1 }) := by
      rw [expandType_of_plain (.inr hliterals), expandType_of_plain (.inr hliterals)]
    rw [howner]
    cases hx : expandType property.2 (some { schema := name, property := property.1 }) with
    | error cause => rfl
    | ok expansion =>
      have hnested := nestedEnum_of_expandType hx
      have htype : ∀ enum, expansion.type.withEnum enum = expansion.type := by
        intro enum
        rcases expandType_eq_ok hx with ⟨o, literals, -, hsome, -⟩ | ⟨-, -, hword | href⟩
        · rw [hliterals] at hsome
          cases hsome
        · exact mapScalar_withEnum hword.2 enum
        · obtain ⟨-, reference, -, htype⟩ := href
          rw [htype]
          rfl
      simp [Except.toOption, ModelProperty.ownedBy, typedProperty, htype]

theorem properties_objectModel_ownedBy (name other : String) (schema : Schema) :
    (objectModel other schema).properties =
      (objectModel name schema).properties.map (·.ownedBy other) := by
  simp only [objectModel, keptProperties, List.map_filterMap]
  rw [← sortProperties_map (f := ModelProperty.ownedBy other) fun _ => rfl, List.map_filterMap]
  simp only [property_typedProperty? name other]

/-- The property that an enum is generated for is one of the record, and it has that enum for its
type. -/
theorem mem_properties_of_enumLiterals {schema : Schema} {property : String × Descriptor}
    {literals : List String} (hproperty : property ∈ schema.properties.entries)
    (hliterals : enumLiterals? property.2 = some literals) :
    ∃ p ∈ (objectModel name schema).properties, p.name = property.1 ∧
      p.type = .enum (nestedEnumName name property.1) := by
  have hx := expandType_of_enumLiterals { schema := name, property := property.1 } hliterals
  have hkept : typedProperty schema.required property.1 property.2 _ ∈ keptProperties name schema :=
    mem_keptProperties_iff.mpr
      ⟨_, _, _, (Dict.get?_eq_some_iff ..).mpr hproperty, hx, rfl⟩
  refine ⟨_, (isStableSort_sortProperties _).perm.mem_iff.mpr (List.mem_map_of_mem hkept), rfl, rfl⟩

/-- The records of one schema under two names. -/
theorem copies_objectModel (name other : String) (schema : Schema) :
    (objectModel other schema).Copies (objectModel name schema) where
  properties := properties_objectModel_ownedBy name other schema
  nestedEnums := by
    rw [nestedEnums_objectModel, nestedEnums_objectModel]
    have hsame : List.Forall₂ (fun property source => property = source ∧
        property ∈ schema.properties.entries) schema.properties.entries schema.properties.entries :=
      List.forall₂_same.mpr fun property hproperty => ⟨rfl, hproperty⟩
    refine List.rel_filterMap ?_ hsame
    rintro property _ ⟨rfl, hproperty⟩
    show Option.Rel _ ((enumLiterals? property.2).map _) ((enumLiterals? property.2).map _)
    cases hliterals : enumLiterals? property.2 with
    | none => exact .none
    | some literals =>
      obtain ⟨p, hp, hname, htype⟩ := mem_properties_of_enumLiterals hproperty hliterals
      refine .some ⟨p, hp, htype, ?_, ?_⟩
      · rw [hname]
        rfl
      · rw [hname]
        rfl

/-! ## References to schemas -/

/-- The combination of a single schema has its properties and required names. -/
theorem objectModel_combine_singleton (name : String) (target : Schema)
    (description : Option String) :
    objectModel name { combine [target] with description } =
      { objectModel name target with description := description.getD missingDescription } := by
  have hproperties : (combine [target]).properties = target.properties := by
    apply Dict.ext
    have hnodup : (([target].flatMap (·.properties.entries)).map Prod.fst).Nodup := by
      simpa using target.properties.nodup_keys
    rw [combine, Dict.entries_ofList hnodup, List.flatMap_singleton]
  have hrequired : (combine [target]).required = target.required := by simp [combine]
  simp only [objectModel, keptProperties, hproperties, hrequired, Schema.describe]

/-- The record of a schema that refers to another one. -/
theorem mem_schemaModels_of_reference {schema target : Schema} {reference : String}
    (hschema : components.lookup name = some schema)
    (hreference : schema.reference = some reference)
    (htarget : components.lookup (refName reference) = some target) :
    .object (objectModel name { combine [target] with description := schema.description }) ∈
      schemaModels components := by
  have heffective : effectiveSchema components name schema = _ :=
    effectiveSchema_of_reference hreference
  rw [htarget] at heffective
  exact mem_schemaModels_iff.mpr ⟨(name, schema), (Dict.get?_eq_some_iff ..).mp hschema, _,
    heffective, schemaModel?_eq_some_iff.mpr (.inl ⟨rfl, rfl⟩)⟩

/-- The record of a schema that refers to no other one, and the only one of its name. -/
theorem mem_schemaModels_of_plain_iff {target : Schema} {model : ObjectModel TypeRef}
    (htarget : components.lookup name = some target) (hreference : target.reference = none)
    (hmembers : target.allOf = none) :
    .object model ∈ schemaModels components ∧ model.name = name ↔
      target.kind = some .object ∧ model = objectModel name target := by
  have heffective : effectiveSchema components name target = .ok target := by
    simp only [effectiveSchema, hreference, hmembers]
  constructor
  · rintro ⟨h, hname⟩
    obtain ⟨⟨key, schema⟩, hentry, effective, hok, hmodel⟩ := mem_schemaModels_iff.mp h
    obtain rfl : key = name := (name_schemaModel? hmodel).symm.trans hname
    obtain rfl := Option.some.inj (((Dict.get?_eq_some_iff ..).mpr hentry).symm.trans htarget)
    obtain rfl := Except.ok.inj (heffective.symm.trans hok)
    rcases schemaModel?_eq_some_iff.mp hmodel with ⟨hkind, hobject⟩ | ⟨-, made, -, henum⟩
    · exact ⟨hkind, Model.object.inj hobject⟩
    · cases henum
  · rintro ⟨hkind, rfl⟩
    refine ⟨mem_schemaModels_iff.mpr ⟨(name, target), (Dict.get?_eq_some_iff ..).mp htarget, _,
      heffective, schemaModel?_eq_some_iff.mpr (.inl ⟨hkind, rfl⟩)⟩, rfl⟩

/-- **Copied models.** Let a reference be among the schemas of a document whose models expand. It
leads to a schema, and the only model of its name is a record under its own description. The
properties of that record are those that are written in the schema, typed as if they were its own,
and the required names are those of the schema. If the schema refers to no other one and gives a
record itself, the record of the reference is a copy of that one. What the schema refers to has no
part in it: where no properties are written, there are none. -/
theorem spelledModels_alias {spelled : List (Model String)} {schema : Schema} {reference : String}
    (h : (spelledModels v strict components).result = .ok spelled)
    (hschema : components.lookup name = some schema)
    (hreference : schema.reference = some reference) :
    ∃ models, (expandModels components strict).result = .ok models ∧
      models.map (·.spell v) = spelled ∧
      ∃ target, components.lookup (refName reference) = some target ∧
      ∃ copy : ObjectModel TypeRef, .object copy ∈ models ∧
        copy.name = name ∧ copy.description = schema.describe ∧
        (∀ other ∈ models, other.name = name → other = .object copy) ∧
        (copy.mapType v.spell).IsComposition v [target] ∧
        (target.reference = none → target.allOf = none → ∀ original, .object original ∈ models →
          original.name = refName reference → copy.Copies original) ∧
        (target.properties.entries = [] → copy.properties = [] ∧ copy.nestedEnums = []) := by
  obtain ⟨models, hmodels, hspelled⟩ := spelledModels_eq_ok_iff.mp h
  obtain ⟨hexpand, -, rfl⟩ := expandModels_eq_ok_iff.mp hmodels
  have hentry := (Dict.get?_eq_some_iff ..).mp hschema
  obtain ⟨target, htarget⟩ : ∃ target, components.lookup (refName reference) = some target := by
    obtain ⟨model?, hmodel⟩ := hexpand _ hentry
    obtain ⟨effective, heffective, -⟩ := expandSchema_eq_ok hmodel
    rw [effectiveSchema_of_reference hreference] at heffective
    cases htarget : components.lookup (refName reference) with
    | some target => exact ⟨target, rfl⟩
    | none =>
      rw [htarget] at heffective
      cases heffective
  have hcopy := mem_schemaModels_of_reference hschema hreference htarget
  have hwritten := objectModel_combine_singleton name target schema.description
  refine ⟨_, hmodels, hspelled, target, htarget, _, hcopy, rfl, rfl, ?_,
    isComposition_objectModel v name [target] schema.description, ?_, ?_⟩
  · intro other hother hname
    exact List.inj_on_of_nodup_map (nodup_names_schemaModels components) hother hcopy hname
  · intro hplain hmembers original horiginal hname
    obtain ⟨-, rfl⟩ :=
      (mem_schemaModels_of_plain_iff htarget hplain hmembers).mp ⟨horiginal, hname⟩
    have hcopies := copies_objectModel (refName reference) name target
    rw [hwritten]
    exact ⟨hcopies.properties, hcopies.nestedEnums⟩
  · intro hempty
    rw [hwritten]
    simp [objectModel, keptProperties, hempty, sortProperties]

/-- A property with an enum for its type. -/
def stateDescriptor : Descriptor where
  type := some .string
  literals := some ["new", "used"]

/-- A schema with that property. -/
def itemSchema : Schema where
  kind := some .object
  required := ["id"]
  properties := Dict.ofList [("id", { type := some .string }), ("state", stateDescriptor)]

/-- A reference to that schema. -/
def productSchema : Schema where
  reference := some "#/components/schemas/Item"
  description := some "For sale"

/-- The schemas of a document with both. -/
def productComponents : Components where
  schemas := Dict.ofList [("Product", productSchema), ("Item", itemSchema)]

/-- The state of an item is that of a product, under another name. -/
theorem spelledModels_alias_product :
    ∃ models copy original, (expandModels productComponents false).result = .ok models ∧
      .object copy ∈ models ∧ copy.name = "Product" ∧ copy.description = "For sale" ∧
      .object original ∈ models ∧ original.name = "Item" ∧ copy.Copies original ∧
      (∃ p ∈ original.properties, p.name = "state" ∧ p.type = .enum "ItemState") ∧
      ∃ p ∈ copy.properties, p.name = "state" ∧ p.type = .enum "ProductState" := by
  have hok : (spelledModels {} false productComponents).result.toOption.isSome := by
    decide +kernel
  obtain ⟨spelled, hspelled⟩ := Except.exists_eq_ok_of_isSome hok
  have hproduct : productComponents.lookup "Product" = some productSchema := by decide +kernel
  have hitem : productComponents.lookup "Item" = some itemSchema := by decide +kernel
  have hreference : refName "#/components/schemas/Item" = "Item" := by decide +kernel
  obtain ⟨models, hmodels, -, target, htarget, copy, hcopy, hname, hdescription, -, -, hcopies,
    -⟩ := spelledModels_alias hspelled hproduct rfl
  rw [hreference] at htarget hcopies
  obtain rfl := Option.some.inj (hitem.symm.trans htarget)
  obtain ⟨horiginal, hitemName⟩ : .object (objectModel "Item" itemSchema) ∈
      schemaModels productComponents ∧ (objectModel "Item" itemSchema).name = "Item" :=
    (mem_schemaModels_of_plain_iff hitem rfl rfl).mpr ⟨rfl, rfl⟩
  obtain ⟨-, -, hall⟩ := expandModels_eq_ok_iff.mp hmodels
  rw [← hall] at horiginal
  have hcopied := hcopies rfl rfl _ horiginal hitemName
  have hstate : ("state", stateDescriptor) ∈ itemSchema.properties.entries := by decide +kernel
  obtain ⟨p, hp, hpname, hptype⟩ : ∃ p ∈ (objectModel "Item" itemSchema).properties,
      p.name = "state" ∧ p.type = .enum (nestedEnumName "Item" "state") :=
    mem_properties_of_enumLiterals hstate rfl
  refine ⟨models, copy, _, hmodels, hcopy, hname, hdescription, horiginal, hitemName,
    hcopied, ⟨p, hp, hpname, ?_⟩, p.ownedBy copy.name, ?_, hpname, ?_⟩
  · rw [hptype]
    decide +kernel
  · rw [hcopied.properties]
    exact List.mem_map_of_mem hp
  · show p.type.withEnum (nestedEnumName copy.name p.name) = _
    rw [hptype, hname, hpname]
    decide +kernel

/-- A schema with a name. -/
def petSchema : Schema where
  kind := some .object
  properties := Dict.ofList [("name", { type := some .string })]

/-- A schema that is composed of that one, a reference to it, and a reference to each of the two. -/
def houndComponents : Components where
  schemas := Dict.ofList [("Pet", petSchema),
    ("Dog", { allOf := some [{ reference := some "#/components/schemas/Pet" }] }),
    ("Cat", { reference := some "#/components/schemas/Pet" }),
    ("Hound", { reference := some "#/components/schemas/Dog" }),
    ("Kitten", { reference := some "#/components/schemas/Cat" })]

/-- The names of the properties in the record of some name. -/
def propertyNames (models : List (Model String)) (name : String) : Option (List String) :=
  (models.find? (·.name = name)).bind fun
    | .object model => some (model.properties.map (·.name))
    | .enum _ => none

/-- Dogs and cats have names, but hounds and kittens do not. -/
theorem spelledModels_alias_empty :
    (houndComponents.lookup "Hound").bind (·.reference) = some "#/components/schemas/Dog" ∧
      (houndComponents.lookup "Kitten").bind (·.reference) = some "#/components/schemas/Cat" ∧
      ∃ models, (spelledModels {} false houndComponents).result = .ok models ∧
        propertyNames models "Dog" = some ["name"] ∧ propertyNames models "Hound" = some [] ∧
        propertyNames models "Cat" = some ["name"] ∧ propertyNames models "Kitten" = some [] := by
  have hnames : (spelledModels {} false houndComponents).result.toOption.map (fun models =>
      (["Dog", "Hound", "Cat", "Kitten"].map (propertyNames models))) =
        some [some ["name"], some [], some ["name"], some []] := by decide +kernel
  obtain ⟨models, hmodels, hnames⟩ := Option.map_eq_some_iff.mp hnames
  refine ⟨by decide +kernel, by decide +kernel, models, Except.toOption_eq_some_iff.mp hmodels, ?_⟩
  simpa using hnames

end ApiStencil

import ApiStencil.Proofs.Dict
import ApiStencil.Proofs.Model.Combine
import ApiStencil.Proofs.Model.Names
import ApiStencil.Proofs.Sorting
import ApiStencil.Proofs.Typing.Expansion
import Mathlib.Data.List.Induction
import Mathlib.Data.List.Nodup

/-!
# Composed models

A schema with an `allOf` gives the record of its members. A property is defined by the last member
that declares it, and it is required if any member requires it. The definition that counts is found
before it is typed, so an earlier one does not come back when the last one has no type.

## Main definitions

* `LastDefines`: the definition of a property that counts
* `Schema.Composes`: the members of a schema lead to some schemas
* `ObjectModel.IsComposition`: a record has the properties of some schemas

## Main results

* `get?_properties_combine`: a combination defines a property as the last schema does
* `isComposition_objectModel`: the record of a combination
* `spelledModels_composition`: the record of a composed schema, whatever else the schema says
-/

namespace ApiStencil

variable {v : Vocabulary} {strict : Bool} {components : Components} {name p : String}
  {targets : List Schema}

/-! ## Properties of a combination -/

/-- The last of some schemas that declares the property `p` defines it by `node`. -/
def LastDefines (targets : List Schema) (p : String) (node : Descriptor) : Prop :=
  ∃ before target after, targets = before ++ target :: after ∧
    target.properties.get? p = some node ∧ ∀ later ∈ after, later.properties.get? p = none

/-- It is the last schema that has a value there. -/
theorem lastDefines_iff_lastOf {node : Descriptor} :
    LastDefines targets p node ↔
      LastOf (fun target node => target.properties.get? p = some node) targets node := by
  simp only [LastDefines, LastOf, ← Option.eq_none_iff_forall_ne_some]

theorem not_lastDefines_nil {node : Descriptor} : ¬ LastDefines [] p node := by
  rw [lastDefines_iff_lastOf]
  exact not_lastOf_nil

/-- One more schema at the end defines a property unless it does not declare it. -/
theorem lastDefines_concat_iff {last : Schema} {node : Descriptor} :
    LastDefines (targets ++ [last]) p node ↔
      last.properties.get? p = some node ∨
        last.properties.get? p = none ∧ LastDefines targets p node := by
  rw [lastDefines_iff_lastOf, lastDefines_iff_lastOf, lastOf_concat_iff,
    Option.eq_none_iff_forall_ne_some]

/-- A combination defines a property as the last schema does that declares it. -/
theorem get?_properties_combine {node : Descriptor} :
    (combine targets).properties.get? p = some node ↔ LastDefines targets p node := by
  induction targets using List.reverseRecOn with
  | nil => simpa [combine, Dict.ofList, Dict.insertAll, Dict.get?, Dict.empty] using
      not_lastDefines_nil
  | append_singleton targets last ih =>
    have hstep : (combine (targets ++ [last])).properties =
        (combine targets).properties.insertAll last.properties.entries := by
      simp [combine, Dict.ofList, Dict.insertAll_append]
    rw [hstep, Dict.get?_insertAll, Option.or_eq_some_iff, ih, lastDefines_concat_iff]

theorem mem_required_combine : p ∈ (combine targets).required ↔ ∃ target ∈ targets,
    p ∈ target.required := by
  simp [combine]

/-! ## The properties of a record -/

/-- The description of the property that a descriptor defines. Where there is an enum it is the part
of the text that is not about one of the cases. -/
def Descriptor.propertyDescription (node : Descriptor) : String :=
  match enumLiterals? node with
  | some _ => (EnumDescription.ofText node.description).shared.getD missingDescription
  | none => node.description.getD missingDescription

theorem description_typedProperty (required : List String) {node : Descriptor}
    {expansion : Expansion TypeRef}
    (h : expandType node (some { schema := name, property := p }) = .ok expansion) :
    (typedProperty required p node expansion).1.description = node.propertyDescription := by
  have henum := nestedEnum_of_expandType h
  unfold typedProperty Descriptor.propertyDescription
  cases hliterals : enumLiterals? node <;> rw [henum, hliterals] <;> rfl

/-- The properties that are kept are those whose definitions have a type. -/
theorem mem_keptProperties_iff {effective : Schema} {typed : TypedProperty} :
    typed ∈ keptProperties name effective ↔ ∃ p node expansion,
      effective.properties.get? p = some node ∧
        expandType node (some { schema := name, property := p }) = .ok expansion ∧
        typedProperty effective.required p node expansion = typed := by
  simp only [keptProperties, List.mem_filterMap, typedProperty?, Option.map_eq_some_iff,
    Except.toOption_eq_some_iff, Prod.exists, Dict.get?_eq_some_iff]
  exact exists_congr fun p => exists_congr fun node => exists_and_left.symm

/-- A record has a property for each definition that has a type, and no others. -/
theorem mem_properties_objectModel_iff {effective : Schema} {property : ModelProperty String} :
    property ∈ ((objectModel name effective).mapType v.spell).properties ↔ ∃ node expansion,
      effective.properties.get? property.name = some node ∧
        expandType node (some { schema := name, property := property.name }) = .ok expansion ∧
        property.type = v.spell expansion.type ∧
        property.description = node.propertyDescription ∧
        (property.isOptional = true ↔ property.name ∉ effective.required) := by
  have hmem : property ∈ ((objectModel name effective).mapType v.spell).properties ↔
      ∃ typed ∈ keptProperties name effective, typed.1.mapType v.spell = property := by
    have hsorted := (isStableSort_sortProperties ((keptProperties name effective).map (·.1))).perm
    simp only [ObjectModel.mapType, objectModel, (hsorted.map _).mem_iff, List.map_map,
      List.mem_map, Function.comp_apply]
  rw [hmem]
  constructor
  · rintro ⟨typed, htyped, rfl⟩
    obtain ⟨p, node, expansion, hget, hx, rfl⟩ := mem_keptProperties_iff.mp htyped
    exact ⟨node, expansion, hget, hx, rfl, description_typedProperty effective.required hx,
      by simp [ModelProperty.mapType, typedProperty]⟩
  · rintro ⟨node, expansion, hget, hx, htype, hdescription, hoptional⟩
    refine ⟨_, mem_keptProperties_iff.mpr ⟨_, node, expansion, hget, hx, rfl⟩, ?_⟩
    have hrequired : (!effective.required.contains property.name) = property.isOptional := by
      rw [Bool.eq_iff_iff, hoptional]
      simp
    rw [ModelProperty.mapType, description_typedProperty _ hx, ← hdescription]
    simp only [typedProperty, hrequired, ← htype]

/-- The names of the properties of a record ascend, so none of them occurs twice. -/
theorem ascending_objectModel (name : String) (effective : Schema) :
    ((objectModel name effective).mapType v.spell).properties.Pairwise
      fun a b => a.name < b.name := by
  have hsublist : (((keptProperties name effective).map (·.1)).map (·.name)).Sublist
      effective.properties.keys := by
    rw [List.map_map]
    refine sublist_map_filterMap (fun property typed htyped => ?_) effective.properties.entries
    obtain ⟨expansion, -, rfl⟩ := Option.map_eq_some_iff.mp htyped
    rfl
  have hnodup := hsublist.nodup effective.properties.keys_nodup
  exact List.pairwise_map.mpr ((isStableSort_sortProperties _).pairwise_lt hnodup)

/-! ## Composed schemas -/

/-- The properties of a record are those of some schemas. Their names ascend, so none of them occurs
twice. There is a property for each name whose last definition has a type, with the type and the
description of that definition, and it may be left out if none of the schemas requires it. -/
structure ObjectModel.IsComposition (v : Vocabulary) (targets : List Schema)
    (model : ObjectModel String) : Prop where
  ascending : model.properties.Pairwise fun a b => a.name < b.name
  mem_properties_iff : ∀ property, property ∈ model.properties ↔ ∃ node expansion,
    LastDefines targets property.name node ∧
      expandType node (some { schema := model.name, property := property.name }) =
        .ok expansion ∧
      property.type = v.spell expansion.type ∧
      property.description = node.propertyDescription ∧
      (property.isOptional = true ↔ ∀ target ∈ targets, property.name ∉ target.required)

/-- The members of a schema are plain references, which lead to `targets` in order. The schema does
not refer to another one itself. -/
structure Schema.Composes (components : Components) (schema : Schema) (targets : List Schema) :
    Prop where
  reference : schema.reference = none
  members : ∃ members, schema.allOf = some members ∧
    List.Forall₂ (fun member target => member.type = none ∧ ∃ reference,
        member.reference = some reference ∧
          components.lookup (refName reference) = some target)
      members targets

theorem isComposition_objectModel (v : Vocabulary) (name : String) (targets : List Schema)
    (description : Option String) :
    ((objectModel name { combine targets with description }).mapType v.spell).IsComposition v
      targets where
  ascending := ascending_objectModel name _
  mem_properties_iff property := by
    rw [mem_properties_objectModel_iff]
    simp only [get?_properties_combine, mem_required_combine, not_exists, not_and]
    rfl

theorem Schema.Composes.effectiveSchema_eq {schema : Schema}
    (h : schema.Composes components targets) (name : String) :
    effectiveSchema components name schema =
      .ok { combine targets with description := schema.description } := by
  obtain ⟨members, hmembers, htargets⟩ := h.members
  have hrun : members.mapM (resolveMember components name) = .ok targets :=
    Except.mapM_eq_ok_iff.mpr (htargets.imp fun _ _ => resolveMember_eq_ok_iff.mpr)
  simp only [effectiveSchema, h.reference, hmembers, hrun]
  rfl

/-- The record of a composed schema depends on its members and its description alone. -/
theorem Schema.Composes.mem_spelledModels {schema : Schema} {models : List (Model String)}
    (h : schema.Composes components targets) (hschema : components.lookup name = some schema)
    (hmodels : (spelledModels v strict components).result = .ok models) :
    .object ((objectModel name
      { combine targets with description := schema.description }).mapType v.spell) ∈ models := by
  obtain ⟨typed, htyped, rfl⟩ := spelledModels_eq_ok_iff.mp hmodels
  obtain ⟨-, -, rfl⟩ := expandModels_eq_ok_iff.mp htyped
  refine List.mem_map.mpr ⟨.object (objectModel name _), mem_schemaModels_iff.mpr
    ⟨(name, schema), (Dict.get?_eq_some_iff ..).mp hschema, _, h.effectiveSchema_eq name, ?_⟩, rfl⟩
  exact schemaModel?_eq_some_iff.mpr (.inl ⟨rfl, rfl⟩)

/-- **Composed schemas.** Let the members of a schema be plain references that lead to `targets`. If
the models of a document expand, then there is one of the name of the schema, and it is a record
that has the properties of `targets`: the last definition of a property counts, and all lists of
required names. The properties, the required names and the literals of the schema itself have no
part in it. Any other schema that is composed of the same members under the same description has the
same record, in this document or in another one. -/
theorem spelledModels_composition {models : List (Model String)} {schema : Schema}
    (h : (spelledModels v strict components).result = .ok models)
    (hschema : components.lookup name = some schema)
    (hcomposes : schema.Composes components targets) :
    ∃ model, .object model ∈ models ∧ model.name = name ∧
      (∀ other ∈ models, other.name = name → other = .object model) ∧
      model.IsComposition v targets ∧
      ∀ otherStrict otherComponents otherSchema otherModels,
        (spelledModels v otherStrict otherComponents).result = .ok otherModels →
          otherComponents.lookup name = some otherSchema →
          otherSchema.Composes otherComponents targets →
          otherSchema.description = schema.description → .object model ∈ otherModels := by
  have hmodel := hcomposes.mem_spelledModels hschema h
  refine ⟨_, hmodel, rfl, ?_, isComposition_objectModel v name targets schema.description, ?_⟩
  · have hnodup : (models.map (·.name)).Nodup := by
      obtain ⟨typed, htyped, rfl⟩ := spelledModels_eq_ok_iff.mp h
      obtain ⟨-, -, rfl⟩ := expandModels_eq_ok_iff.mp htyped
      rw [names_spell]
      exact nodup_names_schemaModels components
    intro other hother hname
    exact List.inj_on_of_nodup_map hnodup hother hmodel hname
  · intro otherStrict otherComponents otherSchema otherModels hrun hother hothers hdescription
    rw [← hdescription]
    exact hothers.mem_spelledModels hother hrun

/-- A schema with a name and an age, which both have a type. -/
def animalSchema : Schema where
  kind := some .object
  properties := Dict.ofList [("name", { type := some .string }), ("age", { type := some .integer })]

/-- A schema that requires a name without declaring it, and whose definition of the age has no
type. -/
def taggedSchema : Schema where
  kind := some .object
  required := ["name"]
  properties := Dict.ofList [("age", { type := some .object })]

/-- A schema that is composed of those two, with properties and required names of its own. -/
def dogSchema : Schema where
  allOf := some [{ reference := some "#/components/schemas/Animal" },
    { reference := some "#/components/schemas/Tagged" }]
  required := ["age"]
  properties := Dict.ofList [("age", { type := some .string })]

/-- The schemas of a document with that schema. -/
def dogComponents : Components where
  schemas := Dict.ofList
    [("Animal", animalSchema), ("Tagged", taggedSchema), ("Dog", dogSchema)]

/-- The record of a dog has a required name, and it has no age. -/
theorem spelledModels_composition_dog :
    ∃ models model, (spelledModels {} false dogComponents).result = .ok models ∧
      .object model ∈ models ∧ model.name = "Dog" ∧
      (∃ property ∈ model.properties, property.name = "name" ∧ property.isOptional = false) ∧
      ∀ property ∈ model.properties, property.name ≠ "age" := by
  have hok : (spelledModels {} false dogComponents).result.toOption.isSome := by decide +kernel
  obtain ⟨models, hmodels⟩ := Except.exists_eq_ok_of_isSome hok
  have hdog : dogComponents.lookup "Dog" = some dogSchema := by decide +kernel
  have hcomposes : dogSchema.Composes dogComponents [animalSchema, taggedSchema] :=
    ⟨rfl, _, rfl, .cons ⟨rfl, _, rfl, by decide +kernel⟩
      (.cons ⟨rfl, _, rfl, by decide +kernel⟩ .nil)⟩
  obtain ⟨model, hmodel, hname, -, hcomposition, -⟩ :=
    spelledModels_composition hmodels hdog hcomposes
  refine ⟨models, model, hmodels, hmodel, hname, ?_, fun property hproperty hage => ?_⟩
  · refine ⟨{ name := "name", type := "String", isOptional := false,
              description := missingDescription }, ?_, rfl, rfl⟩
    rw [hcomposition.mem_properties_iff, hname]
    refine ⟨{ type := some .string }, { type := .text }, ?_, rfl, rfl, by decide, by decide⟩
    exact ⟨[], animalSchema, [taggedSchema], rfl, by decide +kernel, by decide +kernel⟩
  · obtain ⟨node, expansion, hlast, hx, -⟩ :=
      (hcomposition.mem_properties_iff property).mp hproperty
    rw [hage, ← get?_properties_combine] at hlast
    have hnode : (combine [animalSchema, taggedSchema]).properties.get? "age" =
        some { type := some .object } := by decide +kernel
    cases hnode.symm.trans hlast
    cases hx

end ApiStencil

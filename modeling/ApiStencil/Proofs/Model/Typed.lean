import ApiStencil.Model.Expansion
import ApiStencil.Proofs.Sorting
import ApiStencil.Proofs.Typing.Expansion
import Mathlib.Data.List.ReduceOption

/-!
# Models before they are spelled

The expansion of models writes types in the words of a vocabulary as it goes. Here it is done once
more with types in place of their texts. The expansion is then this typing, followed by spelling:
with the same events, the same faults and the models in the same places. What holds of models in
all vocabularies is proved of typing, which no vocabulary takes part in.

## Main definitions

* `expandProperty`, `expandObject`, `expandSchema`, `expandModels`: the typing of models
* `TypedProperty.spell`, `Model.spell`: a property and a model in the words of a vocabulary

## Main results

* `spelledProperty_eq`, `spelledObject_eq`, `spelledSchema_eq`: one schema in the words of a
  vocabulary
* `spelledModels_eq`: the expansion of models is their typing and then their spelling
-/

namespace ApiStencil

/-! ## Typing -/

/-- A typed property and the enum generated for it. -/
abbrev TypedProperty := ModelProperty TypeRef × Option (EnumModel TypeRef)

/-- The property of a model that a typed descriptor gives. A generated enum lends the property its
description. -/
def typedProperty (required : List String) (name : String) (node : Descriptor)
    (expansion : Expansion TypeRef) : TypedProperty :=
  ({ name, type := expansion.type, isOptional := !required.contains name
     description := node.describe expansion.nestedEnum },
    expansion.nestedEnum)

/-- Types a property, or drops it with a warning. A strict run stops instead. -/
def expandProperty (strict : Bool) (schema : String) (required : List String)
    (property : String × Descriptor) : Traced (Option TypedProperty) :=
  let owner : EnumOwner := { schema, property := property.1 }
  match expandType property.2 (some owner) with
  | .ok expansion => do
    Traced.report (Log.expandedProperty owner expansion.type)
    return some (typedProperty required property.1 property.2 expansion)
  | .error cause =>
    if strict then Traced.fail (.unresolvedPropertyType schema property.1 cause)
    else do
      Traced.report (Log.droppedProperty owner cause)
      return none

/-- Types the record of an effective schema. -/
def expandObject (strict : Bool) (name : String) (schema : Schema) :
    Traced (ObjectModel TypeRef) := do
  let typed ← schema.properties.entries.mapM (expandProperty strict name schema.required)
  let kept := typed.reduceOption
  return {
    name
    description := schema.describe
    properties := sortProperties (kept.map (·.1))
    nestedEnums := kept.filterMap (·.2) }

/-- Types the model of a named schema, if it gives one. -/
def expandSchema (components : Components) (strict : Bool) (named : String × Schema) :
    Traced (Option (Model TypeRef)) := do
  let effective ← Traced.ofExcept (effectiveSchema components named.1 named.2)
  match effective.kind with
  | some .object => do
    let model ← expandObject strict named.1 effective
    Traced.report (Log.expandedModel (.object model))
    return some (.object model)
  | some .string => do
    let model ← Traced.ofExcept (expandEnum .text named.1 effective)
    Traced.report (Log.expandedModel (.enum model))
    return some (.enum model)
  | kind => do
    Traced.report (Log.skippedSchema named.1 kind)
    return none

/-- Types the models of all named schemas, in document order. -/
def expandModels (components : Components) (strict : Bool) :
    Traced (List (Model TypeRef)) := do
  let models ← components.schemas.entries.mapM (expandSchema components strict)
  let models := models.reduceOption
  Traced.ofExcept (checkEnumNames models)
  return models

/-! ## Spelling -/

/-- A typed property in the words of a vocabulary. -/
def TypedProperty.spell (v : Vocabulary) (property : TypedProperty) :
    ModelProperty String × Option (EnumModel String) :=
  (property.1.mapType v.spell, property.2.map (·.mapType v.spell))

/-- A model in the words of a vocabulary. -/
def Model.spell (v : Vocabulary) (model : Model TypeRef) : Model String :=
  model.mapType v.spell

section MapType

variable {σ τ : Type} (f : σ → τ)

theorem Model.name_mapType (model : Model σ) : (model.mapType f).name = model.name := by
  cases model <;> rfl

theorem expandEnum_map (rawType : σ) (name : String) (schema : Schema) :
    expandEnum (f rawType) name schema =
      EnumModel.mapType f <$> expandEnum rawType name schema := by
  unfold expandEnum
  cases schema.literals.getD [] <;> rfl

theorem nestedEnumNames_map (models : List (Model σ)) :
    nestedEnumNames (models.map (·.mapType f)) = nestedEnumNames models := by
  rw [nestedEnumNames, nestedEnumNames, List.flatMap_map]
  refine List.flatMap_congr fun model _ => ?_
  cases model with
  | object model =>
    simp only [Model.mapType, ObjectModel.mapType, Model.nestedEnums, List.map_map]
    rfl
  | enum model => rfl

/-- Enums are told apart by their names. -/
theorem checkEnumNames_map (models : List (Model σ)) :
    checkEnumNames (models.map (·.mapType f)) = checkEnumNames models := by
  simp [checkEnumNames, nestedEnumNames_map, Model.name_mapType, Function.comp_def]

theorem Log.expandedModel_mapType (model : Model σ) :
    Log.expandedModel (model.mapType f) = Log.expandedModel model := by
  cases model <;> simp [Log.expandedModel, Model.mapType, ObjectModel.mapType, EnumModel.mapType]

end MapType

section Runs

variable (v : Vocabulary) (strict : Bool) (components : Components)

/-- A property is spelled once it is typed. That it is dropped has nothing to do with words. -/
theorem spelledProperty_eq (schema : String) (required : List String)
    (property : String × Descriptor) :
    spelledProperty v strict schema required property =
      Option.map (TypedProperty.spell v) <$> expandProperty strict schema required property := by
  simp only [spelledProperty, expandProperty, spelledExpansion_eq]
  cases expandType property.2 (some { schema, property := property.1 }) with
  | ok expansion =>
    rcases expansion with ⟨type, _ | nested⟩ <;> rfl
  | error cause => cases strict <;> rfl

theorem spelledObject_eq (name : String) (schema : Schema) :
    spelledObject v strict name schema =
      ObjectModel.mapType v.spell <$> expandObject strict name schema := by
  have hsort := sortProperties_map (f := ModelProperty.mapType v.spell) fun _ => rfl
  have hrun : (schema.properties.entries.mapM (spelledProperty v strict name schema.required)) =
      List.map (Option.map (TypedProperty.spell v)) <$>
        schema.properties.entries.mapM (expandProperty strict name schema.required) := by
    rw [← mapM_map]
    simp only [← spelledProperty_eq]
  rw [spelledObject, expandObject, hrun, bind_map_left, map_bind]
  congr 1
  funext typed
  simp only [List.reduceOption_map, map_pure, ObjectModel.mapType, ← hsort]
  simp [TypedProperty.spell, List.map_filterMap, List.filterMap_map, Function.comp_def]

/-- The model of a schema is spelled once it is typed. -/
theorem spelledSchema_eq (named : String × Schema) :
    spelledSchema v strict components named =
      Option.map (Model.spell v) <$> expandSchema components strict named := by
  rw [spelledSchema, expandSchema, map_bind]
  congr 1
  funext effective
  cases hkind : effective.kind with
  | none => rfl
  | some kind =>
    cases kind with
    | object =>
      simp only [spelledObject_eq, bind_map_left, map_bind, map_pure]
      congr 1
      funext model
      have hreport := Log.expandedModel_mapType v.spell (.object model)
      rw [Model.mapType] at hreport
      rw [hreport]
      rfl
    | string =>
      simp only
      rw [show v.text = v.spell .text from rfl, expandEnum_map]
      cases expandEnum TypeRef.text named.1 effective <;> rfl
    | other word => rfl

theorem mapM_spelledSchema (entries : List (String × Schema)) :
    entries.mapM (spelledSchema v strict components) =
      List.map (Option.map (Model.spell v)) <$> entries.mapM (expandSchema components strict) := by
  rw [← mapM_map]
  simp only [← spelledSchema_eq]

/-- **Models are typed and then spelled.** The expansion of the models of a document, which takes
its vocabulary to every property, has the events and the faults of their typing, and it gives the
typed models in the words of the vocabulary. -/
theorem spelledModels_eq :
    spelledModels v strict components =
      List.map (Model.spell v) <$> expandModels components strict := by
  rw [spelledModels, expandModels, mapM_spelledSchema, bind_map_left, map_bind]
  congr 1
  funext models
  have hcheck : checkEnumNames (models.reduceOption.map (Model.spell v)) =
      checkEnumNames models.reduceOption := checkEnumNames_map v.spell models.reduceOption
  simp only [List.reduceOption_map, hcheck, map_bind, map_pure]

end Runs

end ApiStencil

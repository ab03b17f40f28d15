import ApiStencil.Proofs.Api.Expansion
import ApiStencil.Proofs.Model.Combine
import ApiStencil.Proofs.Model.Names

/-!
# Cases of generated enums

A string schema must list literals, so the enum that is its model has a case. A property need not:
the enum of a property has a case for each of its literals, and it has none if the list is empty.
A schema that refers to others generates the enums of their properties again, with the same cases.

## Main results

* `cases_ne_nil_of_expandEnum`: the enum of a schema has a case
* `cases_nestedEnum_eq_nil_iff`: the enum of a property has one if there are literals
* `mem_nestedEnums_schemaModels_iff`: which enums come with the models
* `cases_of_expandDocument`: when all enums of an expanded document have a case
* `expandDocument_without_cases`: a document with an enum that has none
-/

namespace ApiStencil

variable {components : Components} {strict : Bool}

/-! ## The enum of a schema -/

theorem cases_ne_nil_of_expandEnum {name : String} {effective : Schema} {model : EnumModel TypeRef}
    (h : expandEnum TypeRef.text name effective = .ok model) : model.cases ≠ [] := by
  unfold expandEnum at h
  split at h
  · cases h
  · next hliterals =>
    cases h
    simpa using hliterals

theorem cases_ne_nil_of_mem_schemaModels {model : EnumModel TypeRef}
    (h : .enum model ∈ schemaModels components) : model.cases ≠ [] := by
  obtain ⟨named, -, effective, -, hmodel⟩ := mem_schemaModels_iff.mp h
  rcases schemaModel?_eq_some_iff.mp hmodel with ⟨-, hobject⟩ | ⟨-, made, hmade, heq⟩
  · cases hobject
  · cases heq
    exact cases_ne_nil_of_expandEnum hmade

/-! ## The enums of properties -/

theorem cases_nestedEnum_eq_nil_iff {owner : EnumOwner} {description : Option String}
    {literals : List String} :
    (nestedEnum TypeRef.text owner description literals).cases = [] ↔ literals = [] :=
  List.map_eq_nil_iff

/-- The enums that come with the models are those of the properties of the effective schemas. -/
theorem mem_nestedEnums_schemaModels_iff (h : SchemasExpand components strict)
    {nested : EnumModel TypeRef} :
    (∃ model ∈ schemaModels components, nested ∈ model.nestedEnums) ↔
      ∃ named ∈ components.schemas.entries, (named.2.combined components).kind = some .object ∧
        ∃ property ∈ (named.2.combined components).properties.entries, ∃ literals,
          enumLiterals? property.2 = some literals ∧
            nestedEnum .text { schema := named.1, property := property.1 } property.2.description
              literals = nested := by
  constructor
  · rintro ⟨model, hmodel, hnested⟩
    obtain ⟨named, hnamed, effective, heffective, hmodel⟩ := mem_schemaModels_iff.mp hmodel
    obtain rfl := effectiveSchema_eq_combined heffective
    refine ⟨named, hnamed, ?_⟩
    rcases schemaModel?_eq_some_iff.mp hmodel with ⟨hkind, rfl⟩ | ⟨-, made, -, rfl⟩
    · rw [Model.nestedEnums, nestedEnums_objectModel] at hnested
      obtain ⟨property, hproperty, hnested⟩ := List.mem_filterMap.mp hnested
      exact ⟨hkind, property, hproperty, Option.map_eq_some_iff.mp hnested⟩
    · cases hnested
  · rintro ⟨named, hnamed, hkind, property, hproperty, hnested⟩
    obtain ⟨model?, hmodel⟩ := h named hnamed
    obtain ⟨effective, heffective, -⟩ := expandSchema_eq_ok hmodel
    obtain rfl := effectiveSchema_eq_combined heffective
    have hobject : schemaModel? named.1 (named.2.combined components) =
        some (.object (objectModel named.1 (named.2.combined components))) :=
      schemaModel?_eq_some_iff.mpr (.inl ⟨hkind, rfl⟩)
    refine ⟨_, mem_schemaModels_iff.mpr ⟨named, hnamed, _, heffective, hobject⟩, ?_⟩
    rw [Model.nestedEnums, nestedEnums_objectModel]
    exact List.mem_filterMap.mpr ⟨property, hproperty, Option.map_eq_some_iff.mpr hnested⟩

/-! ## Spelling -/

theorem nestedEnums_spell (v : Vocabulary) (model : Model TypeRef) :
    (model.spell v).nestedEnums = model.nestedEnums.map (·.mapType v.spell) := by
  cases model <;> rfl

/-- Whether all enums that come with some models have a case does not depend on the vocabulary. -/
theorem cases_spell_iff (v : Vocabulary) (models : List (Model TypeRef)) :
    (∀ model ∈ models.map (·.spell v), ∀ nested ∈ model.nestedEnums, nested.cases ≠ []) ↔
      ∀ model ∈ models, ∀ nested ∈ model.nestedEnums, nested.cases ≠ [] := by
  simp only [List.forall_mem_map, nestedEnums_spell]
  rfl

/-! ## Expanded documents -/

/-- **Cases of enums.** In an expanded document every enum that is the model of a schema has a case.
So have all enums of properties exactly when no property of an effective object schema, be it the
schema itself or the combination of what it refers to, is a string with an empty list of literals.
-/
theorem cases_of_expandDocument {v : Vocabulary} {document : Document} {api : SpelledApi}
    (h : (expandDocument v strict document).result = .ok api) :
    (∀ model, Model.enum model ∈ api.models → model.cases ≠ []) ∧
      ((∀ model ∈ api.models, ∀ nested ∈ model.nestedEnums, nested.cases ≠ []) ↔
        ∀ named ∈ document.components.schemas.entries,
          (named.2.combined document.components).kind = some .object →
            ∀ property ∈ (named.2.combined document.components).properties.entries,
              enumLiterals? property.2 ≠ some []) := by
  obtain ⟨models, hmodels, hspelled⟩ :=
    spelledModels_eq_ok_iff.mp (result_spelledModels_of_expandDocument h)
  obtain ⟨hexpand, -, rfl⟩ := expandModels_eq_ok_iff.mp hmodels
  rw [← hspelled]
  constructor
  · intro model hmodel
    obtain ⟨typed, htyped, heq⟩ := List.mem_map.mp hmodel
    cases typed with
    | object record => cases heq
    | enum made =>
      cases heq
      exact cases_ne_nil_of_mem_schemaModels htyped
  · rw [cases_spell_iff]
    constructor
    · intro hcases named hnamed hkind property hproperty hliterals
      obtain ⟨model, hmodel, hnested⟩ := (mem_nestedEnums_schemaModels_iff hexpand).mpr
        ⟨named, hnamed, hkind, property, hproperty, [], hliterals, rfl⟩
      exact hcases model hmodel _ hnested (cases_nestedEnum_eq_nil_iff.mpr rfl)
    · intro hliterals model hmodel nested hnested hnil
      obtain ⟨named, hnamed, hkind, property, hproperty, literals, hsome, rfl⟩ :=
        (mem_nestedEnums_schemaModels_iff hexpand).mp ⟨model, hmodel, hnested⟩
      obtain rfl := cases_nestedEnum_eq_nil_iff.mp hnil
      exact hliterals named hnamed hkind property hproperty hsome

/-- A document with a property that lists some literals, and with schemas that refer to its own. -/
def sizeDocument (literals : List String) : Document where
  components := { schemas := Dict.ofList [
    ("Color", { kind := some .string, literals := some ["red"] }),
    ("Shirt", { kind := some .object,
                properties := Dict.ofList [
                  ("size", { type := some .string, literals := some literals })] }),
    ("Top", { reference := some "#/components/schemas/Shirt" }),
    ("Coat", { allOf := some [{ reference := some "#/components/schemas/Shirt" }] })] }

/-- The model of a schema with that property. -/
def sizeModel (literals : List String) (schema : String) : Model String :=
  .object {
    name := schema
    description := missingDescription
    properties := [{ name := "size", type := schema ++ "Size", isOptional := true
                     description := missingDescription }]
    nestedEnums := [{
      name := schema ++ "Size"
      description := missingDescription
      rawType := "String"
      cases := literals.map fun name => { name, description := missingDescription } }] }

/-- The API of that document. -/
def sizeApi (literals : List String) : SpelledApi where
  info := {}
  servers := []
  models := .enum {
    name := "Color"
    description := missingDescription
    rawType := "String"
    cases := [{ name := "red", description := missingDescription }] } ::
      ["Shirt", "Top", "Coat"].map (sizeModel literals)
  groups := []

theorem cases_of_expandDocument_size :
    (expandDocument {} false (sizeDocument ["S"])).result = .ok (sizeApi ["S"]) ∧
      ∀ model ∈ (sizeApi ["S"]).models, ∀ nested ∈ model.nestedEnums, nested.cases ≠ [] := by
  have hok : (expandDocument {} false (sizeDocument ["S"])).result = .ok (sizeApi ["S"]) := by
    decide +kernel
  exact ⟨hok, (cases_of_expandDocument hok).2.mpr (by decide +kernel)⟩

/-- With an empty list of literals nothing stops the run, and the enums have no cases. -/
theorem expandDocument_without_cases :
    (expandDocument {} true (sizeDocument [])).result = .ok (sizeApi []) ∧
      ∃ model ∈ (sizeApi []).models, ∃ nested ∈ model.nestedEnums, nested.cases = [] := by
  have hok : (expandDocument {} true (sizeDocument [])).result = .ok (sizeApi []) := by
    decide +kernel
  exact ⟨hok, sizeModel [] "Shirt", by simp [sizeApi], _, List.mem_singleton_self _, rfl⟩

end ApiStencil

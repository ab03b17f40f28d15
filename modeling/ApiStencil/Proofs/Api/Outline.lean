import ApiStencil.Proofs.Api.Expansion
import ApiStencil.Proofs.Sorting

/-!
# What a vocabulary does not decide

The words of a vocabulary stand in the types of an API, in the texts that are made of them and in
the paths of its endpoints. What is left of an API without these is its outline. All spellings of an
API have one outline, so a document has one, too: no name, order, flag or description depends on the
words, and no fault and no event of the run.

## Main definitions

* `Model.untype`, `Argument.untype`: a model and an argument without types
* `Endpoint.outline`, `EndpointGroup.outline`, `Api.outline`: what is not spelled

## Main results

* `Endpoint.outline_spell`, `Api.outline_spell`: a spelling keeps the outline
* `expandDocument_outline`: what a document gives in two vocabularies
-/

namespace ApiStencil

variable {τ ρ : Type}

/-! ## Models and arguments without types -/

/-- A model without types. -/
def Model.untype (model : Model τ) : Model Unit := model.mapType fun _ => ()

/-- An argument without its type. -/
def Argument.untype (argument : Argument τ) : Argument Unit := { argument with type := () }

theorem Model.untype_spell (v : Vocabulary) (model : Model TypeRef) :
    (model.spell v).untype = model.untype := by
  cases model with
  | object model =>
    simp [Model.untype, Model.spell, Model.mapType, ObjectModel.mapType, ModelProperty.mapType,
      EnumModel.mapType]
  | enum model => rfl

/-- Arguments are sorted by their names, so their types make no difference. -/
theorem map_untype_sortDescending (arguments : List (Argument τ)) :
    (sortDescending arguments).map (·.untype) = sortDescending (arguments.map (·.untype)) :=
  (sortDescending_map (f := fun a : Argument τ => a.untype) (fun _ => rfl) arguments).symm

theorem map_untype_filter (location : ArgumentLocation) (arguments : List (Argument τ)) :
    (arguments.filter (·.location = location)).map (·.untype) =
      (arguments.map (·.untype)).filter (·.location = location) := by
  rw [List.filter_map]
  rfl

/-! ## Outlines -/

/-- What an endpoint says besides its spelled texts. -/
structure EndpointOutline where
  group : String
  method : String
  description : String
  /-- The arguments in the order of a call. -/
  signature : List (Argument Unit)
  arguments : List (Argument Unit)
  pathArguments : List (Argument Unit)
  queryArguments : List (Argument Unit)
  hasBody : Bool
  contentType : String
  deriving DecidableEq, Repr

/-- What a group says besides the spelled texts of its endpoints. -/
structure GroupOutline where
  name : String
  /-- The raw path. -/
  path : String
  endpoints : List EndpointOutline
  deriving DecidableEq, Repr

/-- What an API says besides its spelled texts. -/
structure ApiOutline where
  info : Info
  servers : List NamedServer
  models : List (Model Unit)
  groups : List GroupOutline
  deriving DecidableEq, Repr

/-- The outline of an endpoint. -/
def Endpoint.outline (e : Endpoint τ ρ) : EndpointOutline where
  group := e.group
  method := e.method
  description := e.description
  signature := e.signature.map (·.untype)
  arguments := e.arguments.map (·.untype)
  pathArguments := e.pathArguments.map (·.untype)
  queryArguments := e.queryArguments.map (·.untype)
  hasBody := e.body.isSome
  contentType := e.contentType

/-- The outline of a group. -/
def EndpointGroup.outline (group : EndpointGroup τ ρ) : GroupOutline where
  name := group.name
  path := group.path
  endpoints := group.endpoints.map (·.outline)

/-- The outline of an API. -/
def Api.outline (api : Api τ ρ) : ApiOutline where
  info := api.info
  servers := api.servers
  models := api.models.map (·.untype)
  groups := api.groups.map (·.outline)

/-! ## Spelling -/

section Spelling

variable (v : Vocabulary) (e : TypedEndpoint)

theorem Endpoint.map_untype_declared_spell :
    (e.spell v).declared.map (·.untype) = e.declared.map (·.untype) := by
  simp only [Endpoint.spell, List.map_map]
  rfl

theorem Endpoint.map_untype_signature_spell :
    (e.spell v).signature.map (·.untype) = e.signature.map (·.untype) := by
  rw [Endpoint.signature, Endpoint.signature, List.map_append, List.map_append,
    map_untype_declared_spell]
  congr 1
  cases h : e.body <;> simp [Endpoint.spell, Endpoint.bodyArgument, Argument.untype, h]

/-- The lists of arguments are views of what is declared, and a spelling changes only types. -/
theorem Endpoint.outline_spell : (e.spell v).outline = e.outline := by
  have hdeclared := e.map_untype_declared_spell v
  have hsignature := e.map_untype_signature_spell v
  unfold Endpoint.outline Endpoint.arguments Endpoint.pathArguments Endpoint.queryArguments
  simp only [map_untype_sortDescending, map_untype_filter, hdeclared, hsignature]
  cases h : e.body <;> simp [Endpoint.spell, Endpoint.contentType, h]

theorem EndpointGroup.outline_spell (group : TypedGroup) :
    (group.spell v).outline = group.outline := by
  simp [EndpointGroup.outline, EndpointGroup.spell, Endpoint.outline_spell]

theorem Api.outline_spell (api : TypedApi) : (api.spell v).outline = api.outline := by
  simp [Api.outline, Api.spell, Model.untype_spell, EndpointGroup.outline_spell]

end Spelling

/-! ## Documents -/

/-- **The words make no difference.** In two vocabularies a document is expanded with the same
events, and so with the same warnings, and it fails with the same fault or succeeds in both. The two
APIs then have one outline: they differ in spelled texts only. -/
theorem expandDocument_outline (v w : Vocabulary) (strict : Bool) (document : Document) :
    (expandDocument v strict document).events = (expandDocument w strict document).events ∧
      (∀ fault, (expandDocument v strict document).result = .error fault ↔
        (expandDocument w strict document).result = .error fault) ∧
      ∀ spelled, (expandDocument v strict document).result = .ok spelled →
        ∃ other, (expandDocument w strict document).result = .ok other ∧
          other.outline = spelled.outline := by
  refine ⟨?_, fun fault => ?_, ?_⟩
  · rw [expandDocument_eq, expandDocument_eq, Traced.events_map, Traced.events_map]
  · rw [expandDocument_eq, expandDocument_eq, Traced.result_map, Traced.result_map,
      Except.map_eq_error_iff, Except.map_eq_error_iff]
  · intro spelled h
    obtain ⟨api, htyped, rfl⟩ := expandDocument_eq_ok_iff.mp h
    refine ⟨api.spell w, expandDocument_eq_ok_iff.mpr ⟨api, htyped, rfl⟩, ?_⟩
    rw [api.outline_spell w, api.outline_spell v]

/-- A document with words of many kinds: an enum, a list of models, and a path with a parameter. -/
def catalogDocument : Document where
  info := { title := "Catalog", version := "1" }
  components := { schemas := Dict.ofList [
    ("State", { kind := some .string, literals := some ["new"] }),
    ("Item", {
      kind := some .object
      properties := Dict.ofList [
        ("parts", { type := some .array
                    items := some { reference := some "#/components/schemas/Item" } }),
        ("size", { type := some .object })] })] }
  paths := Dict.ofList [("/items/\x7bid\x7d", {
    operations := Dict.ofList [(.get, {
      parameters := [{ name := "id", location := "path", schema := { type := some .integer } }]
      responses := Dict.ofList [("200", { content := some <| Dict.ofList [
        (jsonMediaType, { reference := some "#/components/schemas/Item" })] })] })] })]

/-- The words of another language. -/
def otherVocabulary : Vocabulary where
  text := "string"
  int := "number"
  array := "\x7b\x7d[]"
  modelNamespace := ""
  interpolationOpen := ":"
  interpolationClose := ""

/-- The two APIs differ, and their outlines and the warnings of the runs agree. -/
theorem expandDocument_outline_catalog :
    ∃ spelled other, (expandDocument {} false catalogDocument).result = .ok spelled ∧
      (expandDocument otherVocabulary false catalogDocument).result = .ok other ∧
      spelled ≠ other ∧ other.outline = spelled.outline ∧
      (expandDocument {} false catalogDocument).warnings.length = 1 ∧
      (expandDocument otherVocabulary false catalogDocument).warnings.length = 1 := by
  have hok : (expandDocument {} false catalogDocument).result.toOption.isSome := by
    decide +kernel
  have hne : (expandDocument {} false catalogDocument).result ≠
      (expandDocument otherVocabulary false catalogDocument).result := by decide +kernel
  obtain ⟨spelled, hspelled⟩ := Except.exists_eq_ok_of_isSome hok
  obtain ⟨hevents, -, hother⟩ := expandDocument_outline {} otherVocabulary false catalogDocument
  obtain ⟨other, hexpand, houtline⟩ := hother spelled hspelled
  have hwarnings : (expandDocument {} false catalogDocument).warnings.length = 1 := by
    decide +kernel
  refine ⟨spelled, other, hspelled, hexpand, ?_, houtline, hwarnings, ?_⟩
  · rintro rfl
    exact hne (hspelled.trans hexpand.symm)
  · rw [Traced.warnings, ← hevents]
    exact hwarnings

end ApiStencil

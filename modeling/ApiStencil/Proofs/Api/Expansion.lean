import ApiStencil.Api.Expansion
import ApiStencil.Proofs.Endpoint.Expansion
import ApiStencil.Proofs.Model.Expansion

/-!
# The parts of an expanded document

A document expands when its models and its endpoints do. It is typed first, part by part, and
spelled then; spelling never fails.

## Main definitions

* `typeDocument`: the typing of a document
* `Api.spell`: an API in the words of a vocabulary

## Main results

* `expandDocument_eq`: the expansion of a document is its typing and then its spelling
* `typeDocument_eq_ok_iff`, `expandDocument_eq_ok_iff`: what is expanded, part by part
* `result_spelledModels_of_expandDocument`: the models of an expanded document
* `exists_groups_of_expandDocument`, `names_groups_of_expandDocument`: its groups
-/

namespace ApiStencil

variable {v : Vocabulary} {strict : Bool} {document : Document}

/-- An API whose types are not spelled yet. -/
abbrev TypedApi := Api TypeRef (Option TypeRef)

/-- An API in the words of a vocabulary. -/
def Api.spell (v : Vocabulary) (api : TypedApi) : SpelledApi where
  info := api.info
  servers := api.servers
  models := api.models.map (·.spell v)
  groups := api.groups.map (·.spell v)

/-- Types the API of a document. -/
def typeDocument (strict : Bool) (document : Document) : Traced TypedApi := do
  let models ← expandModels document.components strict
  let groups ← expandEndpoints document.paths
  let api : TypedApi :=
    { info := document.info, servers := nameServers document.servers, models, groups }
  Traced.report (Log.expandedDocument api)
  return api

theorem expandedDocument_spell (v : Vocabulary) (api : TypedApi) :
    Log.expandedDocument (api.spell v) = Log.expandedDocument api := by
  simp [Log.expandedDocument, Api.spell]

/-- **A document is typed and then spelled.** The vocabulary goes along to every property, parameter
and payload, and yet the run is that of the typing, with its events and its fault, and then the
spelling of what it gives. -/
theorem expandDocument_eq (v : Vocabulary) (strict : Bool) (document : Document) :
    expandDocument v strict document = Api.spell v <$> typeDocument strict document := by
  rw [expandDocument, typeDocument, spelledModels_eq, bind_map_left, map_bind]
  congr 1
  funext models
  rw [spelledEndpoints_eq, bind_map_left, map_bind]
  congr 1
  funext groups
  simp only [map_bind, map_pure, ← expandedDocument_spell v]
  rfl

/-- A document expands part by part. -/
theorem typeDocument_eq_ok_iff {api : TypedApi} :
    (typeDocument strict document).result = .ok api ↔
      (expandModels document.components strict).result = .ok api.models ∧
        (expandEndpoints document.paths).result = .ok api.groups ∧
        api.info = document.info ∧ api.servers = nameServers document.servers := by
  simp only [typeDocument, Traced.result_bind, Except.bind_eq_ok_iff]
  constructor
  · rintro ⟨models, hmodels, groups, hgroups, -, -, h⟩
    cases h
    exact ⟨hmodels, hgroups, rfl, rfl⟩
  · rintro ⟨hmodels, hgroups, hinfo, hservers⟩
    refine ⟨api.models, hmodels, api.groups, hgroups, (), rfl, ?_⟩
    rw [← hinfo, ← hservers]
    rfl

/-- What is spelled is what was typed. -/
theorem expandDocument_eq_ok_iff {spelled : SpelledApi} :
    (expandDocument v strict document).result = .ok spelled ↔
      ∃ api, (typeDocument strict document).result = .ok api ∧ api.spell v = spelled := by
  rw [expandDocument_eq, Traced.result_map, Except.map_eq_ok_iff]

theorem result_spelledModels_of_expandDocument {spelled : SpelledApi}
    (h : (expandDocument v strict document).result = .ok spelled) :
    (spelledModels v strict document.components).result = .ok spelled.models := by
  obtain ⟨api, htyped, rfl⟩ := expandDocument_eq_ok_iff.mp h
  exact spelledModels_eq_ok_iff.mpr ⟨api.models, (typeDocument_eq_ok_iff.mp htyped).1, rfl⟩

theorem exists_groups_of_expandDocument {spelled : SpelledApi}
    (h : (expandDocument v strict document).result = .ok spelled) :
    ∃ groups, (expandEndpoints document.paths).result = .ok groups ∧
      spelled.groups = groups.map (·.spell v) := by
  obtain ⟨api, htyped, rfl⟩ := expandDocument_eq_ok_iff.mp h
  exact ⟨api.groups, (typeDocument_eq_ok_iff.mp htyped).2.1, rfl⟩

/-- The groups of an expanded document are named after its paths. -/
theorem names_groups_of_expandDocument {spelled : SpelledApi}
    (h : (expandDocument v strict document).result = .ok spelled) :
    spelled.groups.map (·.name) = document.paths.entries.map fun entry => groupName entry.1 := by
  obtain ⟨groups, hgroups, hspelled⟩ := exists_groups_of_expandDocument h
  have hnames : (groups.map (·.spell v)).map (·.name) = groups.map (·.name) := by
    rw [List.map_map]
    rfl
  rw [hspelled, hnames, names_of_expandEndpoints hgroups]

end ApiStencil

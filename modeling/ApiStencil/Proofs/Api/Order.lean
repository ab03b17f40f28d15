import ApiStencil.Proofs.Api.References
import ApiStencil.Proofs.Endpoint.Faults
import ApiStencil.Proofs.Model.Faults
import Mathlib.Data.List.Nodup

/-!
# The order of a document

The schemas and paths of a document are looked up by their names, and each of them gives its own
model or group. So another order of the schemas and paths gives the same models and groups in that
order, and whether a document is accepted does not depend on it. Which fault is reported does.

## Main definitions

* `Document.Reorders`: two documents with the same schemas and paths
* `Document.IsSupported`, `Document.typed`: what is accepted, and the API that it gives
* `Api.Follows`, `Api.SameParts`: the order of an API, and two APIs with the same parts

## Main results

* `expandModels_eq_ok_iff_typed`, `expandDocument_eq_ok_iff_typed`: the answer as a function of the
  document
* `Components.Reorders.perm_schemaModels`, `perm_pathGroups`: models and groups in another order
* `expandDocument_reorders`: what a document gives in two orders
-/

namespace ApiStencil

variable {strict : Bool}

/-! ## The API of a document -/

/-- A document of which schemas and paths are supported. -/
structure Document.IsSupported (document : Document) (strict : Bool) : Prop where
  schemas : SchemasSupported document.components strict
  paths : PathsSupported document.paths.entries

/-- The API of a document, if it is supported. -/
def Document.typed (document : Document) : TypedApi where
  info := document.info
  servers := nameServers document.servers
  models := schemaModels document.components
  groups := pathGroups document.paths

theorem expandModels_eq_ok_iff_typed {components : Components} {models : List (Model TypeRef)} :
    (expandModels components strict).result = .ok models ↔
      SchemasSupported components strict ∧ models = schemaModels components := by
  rw [← modelFaults_eq_nil_iff, ← stopsAtFirst_expandModels.exists_ok_iff]
  constructor
  · intro h
    exact ⟨⟨models, h⟩, (expandModels_eq_ok_iff.mp h).2.2⟩
  · rintro ⟨⟨others, h⟩, rfl⟩
    rwa [(expandModels_eq_ok_iff.mp h).2.2] at h

theorem expandEndpoints_eq_ok_iff {paths : Dict String PathItem} {groups : List TypedGroup} :
    (expandEndpoints paths).result = .ok groups ↔
      PathsSupported paths.entries ∧ groups = pathGroups paths := by
  rw [← endpointFaults_eq_nil_iff, ← (stopsAtFirst_expandEndpoints paths).exists_ok_iff]
  constructor
  · intro h
    exact ⟨⟨groups, h⟩, eq_pathGroups_of_expandEndpoints h⟩
  · rintro ⟨⟨others, h⟩, rfl⟩
    rwa [eq_pathGroups_of_expandEndpoints h] at h

/-- A document that is supported has one API, and its spelling is the answer. -/
theorem expandDocument_eq_ok_iff_typed {v : Vocabulary} {document : Document}
    {spelled : SpelledApi} :
    (expandDocument v strict document).result = .ok spelled ↔
      document.IsSupported strict ∧ spelled = document.typed.spell v := by
  simp only [expandDocument_eq_ok_iff, typeDocument_eq_ok_iff, expandModels_eq_ok_iff_typed,
    expandEndpoints_eq_ok_iff]
  constructor
  · rintro ⟨⟨info, servers, models, groups⟩, ⟨⟨hschemas, rfl⟩, ⟨hpaths, rfl⟩, rfl, rfl⟩, rfl⟩
    exact ⟨⟨hschemas, hpaths⟩, rfl⟩
  · rintro ⟨h, rfl⟩
    exact ⟨document.typed, ⟨⟨h.schemas, rfl⟩, ⟨h.paths, rfl⟩, rfl, rfl⟩, rfl⟩

/-! ## Dictionaries in another order -/

/-- A dictionary is read by its keys, wherever they stand. -/
theorem Dict.get?_of_perm {κ α : Type} [DecidableEq κ] {d e : Dict κ α}
    (h : d.entries.Perm e.entries) (k : κ) : d.get? k = e.get? k := by
  apply Option.ext
  intro value
  rw [Dict.get?_eq_some_iff, Dict.get?_eq_some_iff, h.mem_iff]

/-! ## Schemas in another order -/

section Schemas

variable {c d : Components}

/-- Two documents have the same schemas, each in its own order. -/
def Components.Reorders (c d : Components) : Prop := c.schemas.entries.Perm d.schemas.entries

theorem Components.Reorders.lookup_eq (h : c.Reorders d) : c.lookup = d.lookup :=
  funext fun name => Dict.get?_of_perm h name

theorem Components.Reorders.effectiveSchema_eq (h : c.Reorders d) :
    effectiveSchema c = effectiveSchema d := by
  have hreference : resolveReference c = resolveReference d := by
    funext name reference
    simp only [resolveReference, h.lookup_eq]
  have hmember : resolveMember c = resolveMember d := by
    funext name member
    simp only [resolveMember, hreference]
  funext name schema
  simp only [effectiveSchema, hreference, hmember]

theorem Components.Reorders.perm_schemaModels (h : c.Reorders d) :
    (schemaModels c).Perm (schemaModels d) := by
  unfold schemaModels
  rw [h.effectiveSchema_eq]
  exact h.filterMap _

theorem Components.Reorders.perm_typeNames (h : c.Reorders d) :
    c.typeNames.Perm d.typeNames := by
  have hmodels : c.modelNames.Perm d.modelNames := (h.filter _).map _
  have howners : (enumOwners c).Perm (enumOwners d) := by
    unfold enumOwners
    rw [h.effectiveSchema_eq]
    exact h.flatMap_right _
  exact hmodels.append (howners.map _)

theorem Components.Reorders.isSupported_iff (h : c.Reorders d) (schema : Schema) :
    schema.IsSupported c strict ↔ schema.IsSupported d strict := by
  have hcombined : schema.combined c = schema.combined d := by
    simp only [Schema.combined, Components.targets, h.lookup_eq]
  have hdefines : c.Defines = d.Defines := by
    funext reference
    simp only [Components.Defines, h.lookup_eq]
  constructor
  · intro hs
    exact ⟨hdefines ▸ hs.reference, hdefines ▸ hs.members, hs.literals, hcombined ▸ hs.properties⟩
  · intro hs
    exact ⟨hdefines ▸ hs.reference, hdefines ▸ hs.members, hs.literals, hcombined ▸ hs.properties⟩

theorem Components.Reorders.schemasSupported (h : c.Reorders d) (hc : SchemasSupported c strict) :
    SchemasSupported d strict where
  schemas named hnamed := (h.isSupported_iff named.2).mp (hc.schemas named (h.mem_iff.mpr hnamed))
  names := h.perm_typeNames.nodup_iff.mp hc.names

end Schemas

/-! ## Paths in another order -/

theorem PathsSupported.perm {entries others : List (String × PathItem)}
    (h : PathsSupported entries) (hperm : entries.Perm others) : PathsSupported others where
  keys entry hentry := h.keys entry (hperm.mem_iff.mpr hentry)
  names := (hperm.map _).nodup_iff.mp h.names
  operations entry hentry := h.operations entry (hperm.mem_iff.mpr hentry)

/-- Each group is that of its path alone. -/
theorem perm_pathGroups {paths others : Dict String PathItem}
    (h : paths.entries.Perm others.entries) : (pathGroups paths).Perm (pathGroups others) :=
  h.filterMap _

/-! ## Documents in another order -/

/-- Two documents are equal but for the order of their schemas and paths. -/
structure Document.Reorders (d e : Document) : Prop where
  info : d.info = e.info
  servers : d.servers = e.servers
  schemas : d.components.Reorders e.components
  paths : d.paths.entries.Perm e.paths.entries

/-- The models and the groups of an API stand in the order of a document. -/
structure Api.Follows (api : SpelledApi) (document : Document) : Prop where
  models : api.models.map (·.name) = document.components.modelNames
  groups : api.groups.map (·.path) = document.paths.keys

/-- Two APIs have the same parts: one model for each name, and one group for each path. -/
structure Api.SameParts (a b : SpelledApi) : Prop where
  info : a.info = b.info
  servers : a.servers = b.servers
  models : a.models.Perm b.models
  groups : a.groups.Perm b.groups
  model_eq : ∀ model ∈ a.models, ∀ other ∈ b.models, model.name = other.name → model = other
  group_eq : ∀ group ∈ a.groups, ∀ other ∈ b.groups, group.path = other.path → group = other

variable {d e : Document}

theorem Document.Reorders.symm (h : d.Reorders e) : e.Reorders d :=
  ⟨h.info.symm, h.servers.symm, List.Perm.symm h.schemas, h.paths.symm⟩

theorem Document.IsSupported.reorders (hd : d.IsSupported strict) (h : d.Reorders e) :
    e.IsSupported strict :=
  ⟨h.schemas.schemasSupported hd.schemas, hd.paths.perm h.paths⟩

theorem Api.follows_of_expandDocument {v : Vocabulary} {api : SpelledApi}
    (h : (expandDocument v strict d).result = .ok api) : api.Follows d := by
  obtain ⟨hd, rfl⟩ := expandDocument_eq_ok_iff_typed.mp h
  constructor
  · have hexpand := schemasExpand_iff_isSupported.mpr hd.schemas.schemas
    rw [← hexpand.names_schemaModels]
    exact names_spell v (schemaModels d.components)
  · have hgroups := expandEndpoints_eq_ok_iff.mpr ⟨hd.paths, rfl⟩
    rw [← paths_of_expandEndpoints hgroups]
    simp [Api.spell, Document.typed, EndpointGroup.spell]

/-- Models that follow a document differ in their names, since its schemas do. -/
theorem Api.Follows.model_eq {api : SpelledApi} (h : api.Follows d) :
    ∀ model ∈ api.models, ∀ other ∈ api.models, model.name = other.name → model = other := by
  have hnodup : d.components.modelNames.Nodup :=
    d.components.schemas.keys_nodup.sublist (List.filter_sublist.map _)
  rw [← h.models] at hnodup
  intro model hmodel other hother hname
  exact List.inj_on_of_nodup_map hnodup hmodel hother hname

theorem Api.Follows.group_eq {api : SpelledApi} (h : api.Follows d) :
    ∀ group ∈ api.groups, ∀ other ∈ api.groups, group.path = other.path → group = other := by
  have hnodup := d.paths.keys_nodup
  rw [← h.groups] at hnodup
  intro group hgroup other hother hpath
  exact List.inj_on_of_nodup_map hnodup hgroup hother hpath

/-- The two APIs consist of the same models and groups, and no two models have one name. -/
theorem Document.Reorders.sameParts {v : Vocabulary} (h : d.Reorders e)
    (hd : (d.typed.spell v).Follows d) : (d.typed.spell v).SameParts (e.typed.spell v) := by
  have hmodels : (d.typed.spell v).models.Perm (e.typed.spell v).models :=
    h.schemas.perm_schemaModels.map _
  have hgroups : (d.typed.spell v).groups.Perm (e.typed.spell v).groups :=
    (perm_pathGroups h.paths).map _
  refine ⟨h.info, congrArg nameServers h.servers, hmodels, hgroups, ?_, ?_⟩
  · intro model hmodel other hother
    exact hd.model_eq model hmodel other (hmodels.mem_iff.mpr hother)
  · intro group hgroup other hother
    exact hd.group_eq group hgroup other (hgroups.mem_iff.mpr hother)

/-- **The order makes no difference.** Of two documents that differ in the order of their schemas
and paths only, either both are accepted or none is. If they are, each schema has one model and each
path one group in both APIs, and each API has them in the order of its own document. -/
theorem expandDocument_reorders (v : Vocabulary) (strict : Bool) (h : d.Reorders e) :
    ((∃ api, (expandDocument v strict d).result = .ok api) ↔
        ∃ api, (expandDocument v strict e).result = .ok api) ∧
      ∀ a b, (expandDocument v strict d).result = .ok a →
        (expandDocument v strict e).result = .ok b →
          a.SameParts b ∧ a.Follows d ∧ b.Follows e := by
  constructor
  · simp only [expandDocument_eq_ok_iff_typed, exists_and_left, exists_eq, and_true]
    exact ⟨fun hd => hd.reorders h, fun he => he.reorders h.symm⟩
  · intro a b ha hb
    have hfollows := Api.follows_of_expandDocument ha
    refine ⟨?_, hfollows, Api.follows_of_expandDocument hb⟩
    obtain ⟨-, rfl⟩ := expandDocument_eq_ok_iff_typed.mp ha
    obtain ⟨-, rfl⟩ := expandDocument_eq_ok_iff_typed.mp hb
    exact h.sameParts hfollows

/-- The document of the pets with its schemas from the last to the first: the references lead
backward that led forward, and the other way round. -/
def reversedPetDocument : Document :=
  { petDocument with components :=
      { schemas := Dict.ofList petDocument.components.schemas.entries.reverse } }

theorem petDocument_reorders :
    ∃ a b, (expandDocument {} true petDocument).result = .ok a ∧
      (expandDocument {} true reversedPetDocument).result = .ok b ∧ a.SameParts b ∧
      a.models.map (·.name) = ["Pet", "Animal", "Owner"] ∧
      b.models.map (·.name) = ["Owner", "Animal", "Pet"] := by
  have h : petDocument.Reorders reversedPetDocument := by
    refine ⟨rfl, rfl, ?_, .refl _⟩
    have hentries : reversedPetDocument.components.schemas.entries =
        petDocument.components.schemas.entries.reverse := by decide +kernel
    rw [Components.Reorders, hentries]
    exact (List.reverse_perm _).symm
  have hok : (expandDocument {} true petDocument).result.toOption.isSome := by decide +kernel
  obtain ⟨a, ha⟩ := Except.exists_eq_ok_of_isSome hok
  obtain ⟨hiff, hparts⟩ := expandDocument_reorders {} true h
  obtain ⟨b, hb⟩ := hiff.mp ⟨a, ha⟩
  obtain ⟨hsame, hfollows, hreversed⟩ := hparts a b ha hb
  refine ⟨a, b, ha, hb, hsame, ?_, ?_⟩
  · rw [hfollows.models]
    decide +kernel
  · rw [hreversed.models]
    decide +kernel

end ApiStencil

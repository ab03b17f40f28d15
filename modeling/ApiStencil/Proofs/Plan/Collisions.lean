import ApiStencil.Proofs.Endpoint.Faults
import ApiStencil.Proofs.Model.Names
import ApiStencil.Proofs.Plan.Outputs
import Mathlib.Data.List.Nodup

/-!
# Outputs of their own

No two models or groups go to one file, as long as no path text lies below both of their
directories. A model may have an absolute path for its name, which replaces the directory; but such
an output differs from all relative ones, and from those of other names. The file of a group lies
in its directory itself. The extension may be any text, so what makes the name of that file can be
nothing but a point or two.

## Main definitions

* `Path.withSlash`: a directory with a slash at its end
* `Path.IsFileName`: a segment of a path that can name a file
* `Layout.SeparatesFiles`: no path text lies below the directories of both models and groups

## Main results

* `Path.join_injective`, `Path.join_ne_join`: when joined paths agree
* `nodup_outputs`: the outputs of models and groups differ if their names do
* `plan_outputs_differ`: the outputs of an expanded document, and where those of the groups lie
-/

namespace ApiStencil

namespace Path

variable {base other path : String}

/-! ## Joined paths -/

/-- A directory with a slash at its end, which is added if it is not there. -/
def withSlash (dir : String) : String := if needsSlash dir then dir ++ "/" else dir

theorem join_eq_withSlash_append (h : isAbsolute path = false) :
    join base path = withSlash base ++ path := by
  rw [join, if_neg (by simp [h]), withSlash]
  split <;> rfl

/-- Paths below a relative one differ. An absolute path stands for itself, and none below a relative
one is absolute. -/
theorem join_injective (hbase : isAbsolute base = false) : Function.Injective (join base) := by
  intro a b h
  cases ha : isAbsolute a with
  | true =>
    have hjoin : join base a = a := by rw [join, if_pos ha]
    cases hb : isAbsolute b with
    | true => rwa [hjoin, join, if_pos hb] at h
    | false =>
      have hrel := relative_join hbase hb
      rw [← h, hjoin, ha] at hrel
      cases hrel
  | false =>
    cases hb : isAbsolute b with
    | true =>
      have hrel := relative_join hbase ha
      rw [h, join, if_pos hb, hb] at hrel
      cases hrel
    | false =>
      rw [join_eq_withSlash_append ha, join_eq_withSlash_append hb] at h
      exact (String.append_right_inj _).mp h

/-- No path text lies below both of two directories. -/
def Apart (base other : String) : Prop :=
  ¬(withSlash base).toList <+: (withSlash other).toList ∧
    ¬(withSlash other).toList <+: (withSlash base).toList

instance (base other : String) : Decidable (Apart base other) :=
  inferInstanceAs (Decidable (_ ∧ _))

/-- Whatever is joined to one directory, it is not what a relative path joined to the other makes.
-/
theorem join_ne_join (hapart : Apart base other) (hother : isAbsolute other = false)
    (hpath : isAbsolute path = false) (name : String) : join base name ≠ join other path := by
  intro h
  cases hname : isAbsolute name with
  | true =>
    have hrel := relative_join hother hpath
    rw [← h, join, if_pos hname, hname] at hrel
    cases hrel
  | false =>
    rw [join_eq_withSlash_append hname, join_eq_withSlash_append hpath] at h
    have hbase : (withSlash base).toList <+: (withSlash other ++ path).toList := by
      rw [← h, String.toList_append]
      exact List.prefix_append _ _
    have hdir : (withSlash other).toList <+: (withSlash other ++ path).toList := by
      rw [String.toList_append]
      exact List.prefix_append _ _
    rcases List.prefix_or_prefix_of_prefix hbase hdir with hp | hp
    · exact hapart.1 hp
    · exact hapart.2 hp

/-! ## Names of files -/

/-- A segment of a path that can name a file: it leads neither up nor nowhere. -/
structure IsFileName (name : String) : Prop extends IsComponent name where
  ne_point : name ≠ "."

/-- The name of a file is made of a name, a point and an extension. It can name a file unless there
is nothing but one point or two. -/
theorem isFileName_iff {name extension : String} (hname : '/' ∉ name.toList)
    (hextension : '/' ∉ extension.toList) :
    IsFileName (name ++ "." ++ extension) ↔
      ¬(extension = "" ∧ (name = "" ∨ name = ".") ∨ extension = "." ∧ name = "") := by
  have hchars : (name ++ "." ++ extension).toList = name.toList ++ '.' :: extension.toList := by
    simp
  have hslash : '/' ∉ (name ++ "." ++ extension).toList := by simp [hname, hextension]
  have hempty : name ++ "." ++ extension ≠ "" := by
    intro h
    rw [h] at hchars
    simp at hchars
  have hpoint (text : String) : text = "." ↔ text.toList = ['.'] := String.toList_inj.symm
  have hone : name ++ "." ++ extension = "." ↔ name = "" ∧ extension = "" := by
    rw [hpoint, hchars]
    simp [List.append_eq_cons_iff]
  have htwo : name ++ "." ++ extension = ".." ↔
      name = "" ∧ extension = "." ∨ name = "." ∧ extension = "" := by
    rw [← String.toList_inj, hchars, hpoint, hpoint]
    rcases hletters : name.toList with _ | ⟨first, _ | ⟨second, rest⟩⟩ <;>
      simp_all [← String.toList_eq_nil_iff]
  constructor
  · rintro ⟨⟨-, hne_up, -⟩, hne_point⟩ (⟨hextension, hname | hname⟩ | ⟨hextension, hname⟩)
    · exact hne_point (hone.mpr ⟨hname, hextension⟩)
    · exact hne_up (htwo.mpr (.inr ⟨hname, hextension⟩))
    · exact hne_up (htwo.mpr (.inl ⟨hname, hextension⟩))
  · intro h
    refine ⟨⟨hempty, fun hup => h ?_, hslash⟩, fun hpoint => h ?_⟩
    · rcases htwo.mp hup with ⟨hname, hextension⟩ | ⟨hname, hextension⟩
      · exact .inr ⟨hextension, hname⟩
      · exact .inl ⟨hextension, .inr hname⟩
    · obtain ⟨hname, hextension⟩ := hone.mp hpoint
      exact .inl ⟨hextension, .inl hname⟩

end Path

/-! ## Outputs -/

/-- The directories of the models and of the groups are relative, and no path text lies below both
of them. So neither of them is empty. -/
structure Layout.SeparatesFiles (layout : Layout) : Prop where
  models : Path.isAbsolute layout.modelsDir = false
  groups : Path.isAbsolute layout.endpointsDir = false
  apart : Path.Apart layout.modelsDir layout.endpointsDir

instance (layout : Layout) : Decidable layout.SeparatesFiles :=
  decidable_of_iff (Path.isAbsolute layout.modelsDir = false ∧
      Path.isAbsolute layout.endpointsDir = false ∧
      Path.Apart layout.modelsDir layout.endpointsDir)
    ⟨fun h => ⟨h.1, h.2.1, h.2.2⟩, fun h => ⟨h.models, h.groups, h.apart⟩⟩

section Outputs

variable {layout : Layout}

theorem sourceOutput_injective {dir : String} (hdir : Path.isAbsolute dir = false) :
    Function.Injective (sourceOutput layout dir) := by
  intro a b h
  have hfile : a ++ "." ++ layout.extension = b ++ "." ++ layout.extension :=
    Path.join_injective hdir h
  rwa [String.append_left_inj, String.append_left_inj] at hfile

/-- The file of a name without a slash is no absolute path, since the name ends in a point at the
latest. -/
theorem isAbsolute_file {name extension : String} (h : '/' ∉ name.toList) :
    Path.isAbsolute (name ++ "." ++ extension) = false := by
  cases hname : name.toList with
  | nil => simp [Path.isAbsolute, hname]
  | cons c rest =>
    have hc : c ≠ '/' := fun heq => h (by simp [hname, heq])
    simp [Path.isAbsolute, hname, hc]

/-- The outputs of models and groups differ if the names of the models do, and those of the groups,
which have no slash. -/
theorem nodup_outputs (hlayout : layout.SeparatesFiles) {models groups : List String}
    (hmodels : models.Nodup) (hgroups : groups.Nodup)
    (hslash : ∀ group ∈ groups, '/' ∉ group.toList) :
    (models.map (sourceOutput layout layout.modelsDir) ++
      groups.map (sourceOutput layout layout.endpointsDir)).Nodup := by
  rw [List.nodup_append]
  refine ⟨List.Nodup.map (sourceOutput_injective hlayout.models) hmodels,
    List.Nodup.map (sourceOutput_injective hlayout.groups) hgroups, ?_⟩
  intro output hmodel other hgroup
  obtain ⟨model, -, rfl⟩ := List.mem_map.mp hmodel
  obtain ⟨group, hmem, rfl⟩ := List.mem_map.mp hgroup
  exact Path.join_ne_join hlayout.apart hlayout.groups (isAbsolute_file (hslash group hmem)) _

end Outputs

/-! ## Expanded documents -/

section Document

variable {v : Vocabulary} {strict : Bool} {document : Document} {api : SpelledApi}
  {layout : Layout}

/-- The names of the models of an expanded document differ. -/
theorem nodup_names_models (h : (expandDocument v strict document).result = .ok api) :
    (api.models.map (·.name)).Nodup := by
  obtain ⟨models, hmodels, hspelled⟩ :=
    spelledModels_eq_ok_iff.mp (result_spelledModels_of_expandDocument h)
  obtain ⟨-, -, rfl⟩ := expandModels_eq_ok_iff.mp hmodels
  rw [← hspelled, names_spell]
  exact nodup_names_schemaModels document.components

/-- The names of the groups of an expanded document differ. -/
theorem nodup_names_groups (h : (expandDocument v strict document).result = .ok api) :
    (api.groups.map (·.name)).Nodup := by
  obtain ⟨groups, hgroups, -⟩ := exists_groups_of_expandDocument h
  have hfaults : endpointFaults document.paths = [] :=
    (stopsAtFirst_expandEndpoints document.paths).exists_ok_iff.mp ⟨groups, hgroups⟩
  rw [names_groups_of_expandDocument h]
  exact (endpointFaults_eq_nil_iff.mp hfaults).names

/-- **Outputs of their own.** Let a document be expanded, and let the directories of models and
groups be relative and apart. Then the outputs of all models and groups differ. If the extension has
no slash, the output of a group is its directory with one segment after it; and that can name a file
unless it is made of nothing but points. -/
theorem plan_outputs_differ (h : (expandDocument v strict document).result = .ok api)
    (hlayout : layout.SeparatesFiles) (templates : List String) :
    (((plan api layout templates).drop templates.length).map (·.output)).Nodup ∧
      ('/' ∉ layout.extension.toList → ∀ group ∈ api.groups, ∃ file,
        (groupJob layout group).output = Path.withSlash layout.endpointsDir ++ file ∧
          '/' ∉ file.toList ∧
          (Path.IsFileName file ↔
            ¬(layout.extension = "" ∧ (group.name = "" ∨ group.name = ".") ∨
              layout.extension = "." ∧ group.name = ""))) := by
  have hslash : ∀ group ∈ api.groups, '/' ∉ group.name.toList :=
    fun group hgroup => slash_notMem_of_mem_groups h hgroup
  constructor
  · have hjobs : (plan api layout templates).drop templates.length =
        api.models.map (modelJob layout) ++ api.groups.map (groupJob layout) := by
      rw [plan, List.append_assoc, List.drop_left' (List.length_map _)]
    have houtputs := nodup_outputs hlayout (nodup_names_models h) (nodup_names_groups h)
      (List.forall_mem_map.mpr hslash)
    rw [hjobs]
    simpa [Function.comp_def, modelJob, groupJob] using houtputs
  · intro hextension group hgroup
    refine ⟨group.name ++ "." ++ layout.extension,
      Path.join_eq_withSlash_append (isAbsolute_file (hslash group hgroup)), ?_,
      Path.isFileName_iff (hslash group hgroup) hextension⟩
    simp [hslash group hgroup, hextension]

end Document

/-- A document with a schema that goes by some name, and with the root for its only path. -/
def rootDocument (name : String) : Document where
  components := { schemas := Dict.ofList [(name, { kind := some .object })] }
  paths := Dict.ofList [("/", {})]

/-- The API of that document. The group of the root has no name. -/
def rootApi (name : String) : SpelledApi :=
  { namedApi name with groups := [{ name := "", path := "/", endpoints := [] }] }

/-- The name of a model may be the path of the directory of the groups. -/
theorem plan_outputs_differ_root :
    (expandDocument {} true (rootDocument "/src/endpoints/")).result =
        .ok (rootApi "/src/endpoints/") ∧
      ({} : Layout).SeparatesFiles ∧
      (((plan (rootApi "/src/endpoints/") {} []).drop 0).map (·.output)).Nodup ∧
      ∃ file, (groupJob {} { name := "", path := "/", endpoints := [] }).output =
        Path.withSlash "src/endpoints" ++ file ∧ Path.IsFileName file := by
  have hok : (expandDocument {} true (rootDocument "/src/endpoints/")).result =
      .ok (rootApi "/src/endpoints/") := by decide +kernel
  have hlayout : ({} : Layout).SeparatesFiles := by decide +kernel
  obtain ⟨hnodup, hfile⟩ := plan_outputs_differ hok hlayout []
  obtain ⟨file, houtput, -, hname⟩ := hfile (by decide) _ (List.mem_singleton_self _)
  exact ⟨hok, hlayout, hnodup, file, houtput, hname.mpr (by decide)⟩

/-- Without an extension the group of the root has the directory of the groups for its output, with
a point after it. -/
theorem group_output_without_name :
    (expandDocument {} true (rootDocument "Pet")).result = .ok (rootApi "Pet") ∧
      ({ extension := "" } : Layout).SeparatesFiles ∧
      '/' ∉ ({ extension := "" } : Layout).extension.toList ∧
      ∃ group ∈ (rootApi "Pet").groups,
        (groupJob { extension := "" } group).output = "src/endpoints/." ∧
        ¬∃ file, (groupJob { extension := "" } group).output =
          Path.withSlash "src/endpoints" ++ file ∧ Path.IsFileName file := by
  have houtput :
      (groupJob { extension := "" } { name := "", path := "/", endpoints := [] }).output =
        "src/endpoints/." := by decide +kernel
  have hdir : Path.withSlash "src/endpoints" ++ "." = "src/endpoints/." := by decide +kernel
  refine ⟨by decide +kernel, by decide +kernel, by decide, _, List.mem_singleton_self _, houtput,
    ?_⟩
  rintro ⟨file, hfile, hname⟩
  rw [houtput, ← hdir, String.append_right_inj] at hfile
  exact hname.ne_point hfile.symm

end ApiStencil

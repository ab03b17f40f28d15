import ApiStencil.Proofs.Plan.Collisions
import ApiStencil.Proofs.Sorting
import ApiStencil.Proofs.Text.Utf8
import ApiStencil.Template.Bundle

/-!
# Files of the project

The templates of the project are those below its directory, however many slashes that is written
with at its end. The output of a template is what its name has after the directory as it is written.
With two slashes or more that need not come first in the name, and then the directory stays in the
output.

Outputs are compared as paths, by where they lead. The templates `a` and `a.tera` of the project
have one output, and a template may have that of a model or group. Apart from that the files of the
project are different from all others.

## Main definitions

* `bareName`: the name of a template without the ending
* `Path.SamePlace`: two paths lead to one place
* `ProjectFilesDiffer`: the outputs of the templates of the project lead elsewhere than all others

## Main results

* `moves_bareName`: the name of a template leads to its output below the directory of the project
* `projectTemplates_outputs`: which templates are listed, in which order, and their outputs
* `project_outputs_differ`: when the files of the project are different from all others
-/

namespace ApiStencil

/-! ## Moves -/

namespace Path

theorem moves_append_slash (front rest : List Char) :
    moves (String.ofList (front ++ '/' :: rest)) =
      moves (String.ofList front) ++ moves (String.ofList rest) := by
  rw [moves, segments_append_slash, movesOf_append, moves, moves]

/-- Slashes at the start of a path lead nowhere. -/
theorem moves_replicate_append (n : Nat) (rest : List Char) :
    moves (String.ofList (List.replicate n '/' ++ rest)) = moves (String.ofList rest) := by
  induction n with
  | zero => rfl
  | succ n ih =>
    rw [List.replicate_succ, List.cons_append, ← List.nil_append ('/' :: _), moves_append_slash, ih]
    exact congrArg (· ++ _) moves_empty

/-- Two paths lead to one place: they differ in slashes and points that lead nowhere at most. -/
def SamePlace (path other : String) : Prop :=
  isAbsolute path = isAbsolute other ∧ moves path = moves other

instance (path other : String) : Decidable (SamePlace path other) :=
  inferInstanceAs (Decidable (_ ∧ _))

end Path

/-! ## The output of a template -/

section Output

variable {projectDir name : String} {rest : List Char}

/-- The name of a template without the ending. -/
def bareName (name : String) : String := String.ofList (Text.dropEnding templateEnding name.toList)

theorem bareName_eq_iff {out : String} :
    bareName name = out ↔ Text.WithoutEnding templateEnding name.toList out.toList := by
  rw [← Text.dropEnding_eq_iff, bareName, ← String.toList_inj, String.toList_ofList]

theorem projectOutput_of_append (h : name.toList = projectDir.toList ++ rest) :
    projectOutput projectDir name =
      String.ofList (Text.dropEnding templateEnding (rest.dropWhile (· = '/'))) := by
  have hfirst : projectDir.toList.isPrefixOf? name.toList = some rest :=
    List.isPrefixOf?_eq_some_iff_append_eq.mpr h.symm
  rw [projectOutput, projectRelative, hfirst]

theorem projectOutput_of_not_isPrefix (h : ¬projectDir.toList <+: name.toList) :
    projectOutput projectDir name = bareName name := by
  have hnone : projectDir.toList.isPrefixOf? name.toList = none := by
    refine Option.eq_none_iff_forall_ne_some.mpr fun rest hrest => h ⟨rest, ?_⟩
    exact List.isPrefixOf?_eq_some_iff_append_eq.mp hrest
  rw [projectOutput, projectRelative, hnone, bareName]

theorem slash_notMem_templateEnding : '/' ∉ templateEnding := by decide

/-- What is left of a text without slashes at its start, and without the ending, is no absolute
path. -/
theorem isAbsolute_dropEnding_dropWhile (rest : List Char) :
    Path.isAbsolute
      (String.ofList (Text.dropEnding templateEnding (rest.dropWhile (· = '/')))) = false := by
  obtain ⟨ending, hending⟩ := Text.dropEnding_isPrefix templateEnding (rest.dropWhile (· = '/'))
  rw [Path.isAbsolute, String.toList_ofList, decide_eq_false_iff_not]
  intro hhead
  have hfirst : (rest.dropWhile (· = '/')).head? = some '/' := by
    rw [← hending, List.head?_append, hhead, Option.some_or]
  have hslash := List.head?_dropWhile_not (· = '/') rest
  simp [hfirst] at hslash

/-- What is left of a text is the same with slashes at its start, but for these. -/
theorem exists_dropEnding_eq (rest : List Char) :
    ∃ n, Text.dropEnding templateEnding rest =
      List.replicate n '/' ++ Text.dropEnding templateEnding (rest.dropWhile (· = '/')) := by
  obtain ⟨n, hrest⟩ := Text.exists_replicate_append_dropWhile '/' rest
  refine ⟨n, ?_⟩
  rw [← Text.dropEnding_replicate_append slash_notMem_templateEnding, ← hrest]

/-- The name of a template leads to a directory first, and then below it. -/
theorem moves_bareName {start : List Char} (h : name.toList = start ++ '/' :: rest) :
    Path.moves (bareName name) = Path.moves (String.ofList start) ++
      Path.moves (String.ofList (Text.dropEnding templateEnding (rest.dropWhile (· = '/')))) := by
  obtain ⟨n, hrest⟩ := exists_dropEnding_eq rest
  rw [bareName, h, Text.dropEnding_append_cons slash_notMem_templateEnding, hrest,
    Path.moves_append_slash, Path.moves_replicate_append]

/-- The name of a template is longer than what comes after a directory. -/
theorem bareName_ne {start : List Char} (h : name.toList = start ++ '/' :: rest) :
    bareName name ≠
      String.ofList (Text.dropEnding templateEnding (rest.dropWhile (· = '/'))) := by
  intro heq
  obtain ⟨n, hrest⟩ := exists_dropEnding_eq rest
  rw [bareName, h, Text.dropEnding_append_cons slash_notMem_templateEnding, hrest] at heq
  have hlength := congrArg List.length (String.ofList_injective heq)
  simp only [List.length_append, List.length_cons, List.length_replicate] at hlength
  omega

/-- The name of a template starts where it started. -/
theorem isAbsolute_bareName {start : List Char} (h : name.toList = start ++ '/' :: rest) :
    Path.isAbsolute (bareName name) = Path.isAbsolute name := by
  rw [Path.isAbsolute, Path.isAbsolute, bareName, String.toList_ofList, h,
    Text.dropEnding_append_cons slash_notMem_templateEnding]
  cases start <;> rfl

/-! ### Directories with slashes at their end -/

section Directory

variable {start : List Char} {slashes : Nat}
  (hdir : projectDir.toList = start ++ List.replicate slashes '/')
  (hname : name.toList = start ++ '/' :: rest)
include hdir hname

theorem isPrefix_of_slashes_le_one (h : slashes ≤ 1) : projectDir.toList <+: name.toList := by
  rw [hdir, hname, List.prefix_append_right_inj]
  rcases Nat.le_one_iff_eq_zero_or_eq_one.mp h with rfl | rfl
  · exact List.nil_prefix
  · exact ⟨rest, rfl⟩

/-- The output is what comes after the directory just if that comes first as it is written. -/
theorem projectOutput_eq_iff :
    projectOutput projectDir name =
        String.ofList (Text.dropEnding templateEnding (rest.dropWhile (· = '/'))) ↔
      projectDir.toList <+: name.toList := by
  constructor
  · intro houtput
    by_contra hfirst
    rw [projectOutput_of_not_isPrefix hfirst] at houtput
    exact bareName_ne hname houtput
  · rintro ⟨written, hwritten⟩
    have hslashes : List.replicate slashes '/' ++ written = '/' :: rest := by
      rw [hdir, hname, List.append_assoc, List.append_cancel_left_eq] at hwritten
      exact hwritten
    have hrest : written.dropWhile (· = '/') = rest.dropWhile (· = '/') := by
      have hdrop := congrArg (List.dropWhile (· = '/')) hslashes
      rw [List.dropWhile_append_of_pos (by simp)] at hdrop
      simpa using hdrop
    rw [projectOutput_of_append hwritten.symm, hrest]

theorem isAbsolute_projectOutput_iff :
    Path.isAbsolute (projectOutput projectDir name) = true ↔
      ¬projectDir.toList <+: name.toList ∧ Path.isAbsolute name = true := by
  by_cases hfirst : projectDir.toList <+: name.toList
  · rw [(projectOutput_eq_iff hdir hname).mpr hfirst, isAbsolute_dropEnding_dropWhile]
    simp [hfirst]
  · rw [projectOutput_of_not_isPrefix hfirst, isAbsolute_bareName hname]
    simp [hfirst]

end Directory

end Output

/-! ## The list of templates -/

section Listed

variable {bundle : Bundle}

theorem mem_projectTemplates_iff {dir name : String} :
    name ∈ bundle.projectTemplates dir ↔ name ∈ bundle.templates.keys ∧
      ∃ rest, name.toList = Text.dropWhileEnd (· = '/') dir.toList ++ '/' :: rest := by
  rw [Bundle.projectTemplates_eq, List.mem_mergeSort, List.mem_filter, List.isPrefixOf_iff_prefix,
    TemplateEngine.directoryStart]
  simp only [List.prefix_iff_exists_append_eq, List.append_assoc, List.singleton_append, eq_comm]

/-- The names of the listed templates ascend. -/
theorem pairwise_projectTemplates (bundle : Bundle) (dir : String) :
    (bundle.projectTemplates dir).Pairwise (· < ·) := by
  have hsorted := isStableSort_mergeSort (r := (· ≤ ·)) id
    (bundle.templates.keys.filter fun name =>
      (TemplateEngine.directoryStart dir).isPrefixOf name.toList)
    (fun _ _ _ => String.le_trans) String.le_total
  refine hsorted.pairwise_lt ?_
  rw [List.map_id]
  exact bundle.templates.keys_nodup.filter _

/-- Names that are in order stay so. -/
theorem projectTemplates_of_pairwise {dir : String} {names : List String}
    (hnames : (bundle.templates.keys.filter fun name =>
      (TemplateEngine.directoryStart dir).isPrefixOf name.toList) = names)
    (hordered : names.Pairwise fun a b => decide (a ≤ b) = true) :
    bundle.projectTemplates dir = names := by
  rw [Bundle.projectTemplates_eq, hnames]
  exact List.mergeSort_of_pairwise hordered

theorem getElem?_plan_of_templates {api : SpelledApi} {layout : Layout} {templates : List String}
    {i : Nat} {name : String} (h : templates[i]? = some name) :
    (plan api layout templates)[i]? = some (projectJob api layout name) := by
  have hi : i < (templates.map (projectJob api layout)).length := by
    rw [List.length_map]
    exact (List.getElem?_eq_some_iff.mp h).1
  rw [plan, List.append_assoc, List.getElem?_append_left hi, List.getElem?_map, h, Option.map_some]

end Listed

/-! ## The outputs of the listed templates -/

/-- **The templates of the project and their outputs.** Let `start` be the directory of the project
without slashes at its end. The listed templates are those whose names start with `start` and a
slash, in the order of their bytes. If the directory as it is written comes first in such a name,
then the output is the rest of the name without slashes at its start, and without the ending. This
is so unless the directory ends in two slashes or more. If it does not come first, the output is the
whole name without the ending; so the directory stays in it, and the path may be absolute. -/
theorem projectTemplates_outputs (api : SpelledApi) (bundle : Bundle) (layout : Layout) :
    ∃ start slashes, layout.projectDir.toList = start ++ List.replicate slashes '/' ∧
      start.getLast? ≠ some '/' ∧
      (bundle.projectTemplates layout.projectDir).Pairwise
        (fun a b => Text.encodeText a.toList < Text.encodeText b.toList) ∧
      (∀ name, name ∈ bundle.projectTemplates layout.projectDir ↔
        name ∈ bundle.templates.keys ∧ ∃ rest, name.toList = start ++ '/' :: rest) ∧
      ∀ (i : Nat) name, (bundle.projectTemplates layout.projectDir)[i]? = some name →
        ∃ rest, ∃ job : RenderJob, name.toList = start ++ '/' :: rest ∧
          (plan api layout (bundle.projectTemplates layout.projectDir))[i]? = some job ∧
          job.template = name ∧
          (Text.WithoutEnding templateEnding (rest.dropWhile (· = '/')) job.output.toList ↔
            layout.projectDir.toList <+: name.toList) ∧
          (slashes ≤ 1 → layout.projectDir.toList <+: name.toList) ∧
          (¬layout.projectDir.toList <+: name.toList →
            Text.WithoutEnding templateEnding name.toList job.output.toList) ∧
          (Path.isAbsolute job.output = true ↔
            ¬layout.projectDir.toList <+: name.toList ∧ Path.isAbsolute name = true) := by
  obtain ⟨dropped, hdir, hdropped⟩ :=
    Text.exists_dropWhileEnd_append (fun c => decide (c = '/')) layout.projectDir.toList
  obtain ⟨slashes, rfl⟩ : ∃ slashes, dropped = List.replicate slashes '/' :=
    ⟨_, List.eq_replicate_iff.mpr ⟨rfl, fun c hc => of_decide_eq_true (hdropped c hc)⟩⟩
  refine ⟨_, slashes, hdir, ?_, ?_, fun _ => mem_projectTemplates_iff, ?_⟩
  · intro hlast
    obtain ⟨init, hinit⟩ := List.getLast?_eq_some_iff.mp hlast
    simpa using Text.not_of_dropWhileEnd_eq_append hinit
  · exact (pairwise_projectTemplates bundle _).imp fun hab => Text.encodeText_lt_encodeText hab
  · intro i name hi
    obtain ⟨-, rest, hname⟩ := mem_projectTemplates_iff.mp (List.mem_of_getElem? hi)
    refine ⟨rest, projectJob api layout name, hname, getElem?_plan_of_templates hi, rfl, ?_,
      isPrefix_of_slashes_le_one hdir hname, ?_, isAbsolute_projectOutput_iff hdir hname⟩
    · rw [← projectOutput_eq_iff hdir hname, ← Text.dropEnding_eq_iff, ← String.toList_inj,
        String.toList_ofList, eq_comm]
      rfl
    · intro hfirst
      exact bareName_eq_iff.mp (projectOutput_of_not_isPrefix hfirst).symm

/-- A directory with two slashes at its end stays in the output of a template, as it does not come
first in the name. With nothing before the slashes the output is an absolute path. -/
theorem projectTemplates_outputs_slashes :
    (plan (namedApi "Pet") { projectDir := "project//" }
        (Bundle.projectTemplates { templates := Dict.ofList [("project/a.tera", [])] }
          "project//")).map (·.output) = ["project/a", "src/models/Pet.rs"] ∧
      (plan (namedApi "Pet") { projectDir := "//" }
        (Bundle.projectTemplates { templates := Dict.ofList [("/etc/a.tera", [])] }
          "//")).map (·.output) = ["/etc/a", "src/models/Pet.rs"] ∧
      Path.isAbsolute "/etc/a" = true := by
  decide +kernel

/-! ## Outputs in one place -/

section Collisions

variable {v : Vocabulary} {strict : Bool} {document : Document} {api : SpelledApi}
  {bundle : Bundle} {template : String}

/-- The outputs of the listed templates lie below the output directory as their names lie below the
directory of the project. -/
theorem moves_projectOutput (h : template ∈ bundle.projectTemplates "project") :
    Path.isAbsolute (projectOutput "project" template) = false ∧
      Path.moves (bareName template) =
        "project" :: Path.moves (projectOutput "project" template) := by
  obtain ⟨-, rest, hname⟩ := mem_projectTemplates_iff.mp h
  have hdir : Text.dropWhileEnd (· = '/') "project".toList = "project".toList := by decide
  rw [hdir] at hname
  have hwhole : "project".toList = "project".toList ++ List.replicate 0 '/' :=
    (List.append_nil _).symm
  have houtput := (projectOutput_eq_iff hwhole hname).mpr ⟨'/' :: rest, hname.symm⟩
  rw [houtput, moves_bareName hname, isAbsolute_dropEnding_dropWhile]
  exact ⟨rfl, rfl⟩

theorem samePlace_projectOutput_iff {other : String}
    (h : template ∈ bundle.projectTemplates "project")
    (hother : other ∈ bundle.projectTemplates "project") :
    Path.SamePlace (projectOutput "project" template) (projectOutput "project" other) ↔
      Path.moves (bareName template) = Path.moves (bareName other) := by
  obtain ⟨hrelative, hmoves⟩ := moves_projectOutput h
  obtain ⟨hrelative', hmoves'⟩ := moves_projectOutput hother
  rw [Path.SamePlace, hrelative, hrelative', hmoves, hmoves', List.cons_inj_right]
  exact and_iff_right rfl

/-- A template has the output of a model or group just if it has the name of that file below the
directory of the project. The file of an absolute path is no output of a template. -/
theorem samePlace_sourceOutput_iff {dir name : String} (hdir : Path.isAbsolute dir = false)
    (h : template ∈ bundle.projectTemplates "project") :
    Path.SamePlace (projectOutput "project" template) (sourceOutput {} dir name) ↔
      Path.isAbsolute name = false ∧
        Path.moves (bareName template) =
          Path.moves ("project/" ++ dir ++ "/" ++ name ++ ".rs") := by
  obtain ⟨hrelative, hmoves⟩ := moves_projectOutput h
  have hfile : name ++ "." ++ "rs" = name ++ ".rs" := by rw [String.append_assoc]; rfl
  have habsolute : Path.isAbsolute (name ++ ".rs") = Path.isAbsolute name := by
    by_cases hempty : name = ""
    · subst hempty
      decide
    · exact Path.isAbsolute_append hempty
  rw [Path.SamePlace, hrelative, hmoves, sourceOutput, hfile]
  cases hname : Path.isAbsolute name with
  | true =>
    rw [Path.join, if_pos (habsolute.trans hname), habsolute, hname]
    simp
  | false =>
    have hpath : "project/" ++ dir ++ "/" ++ name ++ ".rs" =
        String.ofList ("project".toList ++ '/' :: (dir.toList ++ '/' :: (name ++ ".rs").toList)) :=
      String.toList_injective (by simp)
    have hproject : Path.moves "project" = ["project"] := by decide
    rw [hpath, Path.moves_append_slash, Path.moves_append_slash, String.ofList_toList,
      String.ofList_toList, String.ofList_toList, Path.moves_join (habsolute.trans hname),
      Path.relative_join hdir (habsolute.trans hname), hproject, List.singleton_append,
      List.cons_inj_right]

theorem take_plan (api : SpelledApi) (layout : Layout) (templates : List String) :
    (plan api layout templates).take templates.length =
      templates.map (projectJob api layout) := by
  rw [plan, List.append_assoc, List.take_left' (List.length_map _)]

theorem drop_plan (api : SpelledApi) (layout : Layout) (templates : List String) :
    (plan api layout templates).drop templates.length =
      api.models.map (modelJob layout) ++ api.groups.map (groupJob layout) := by
  rw [plan, List.append_assoc, List.drop_left' (List.length_map _)]

/-- The outputs of the templates of the project lead elsewhere than each other, and elsewhere than
those of all other jobs of the plan. -/
def ProjectFilesDiffer (api : SpelledApi) (layout : Layout) (templates : List String) : Prop :=
  (((plan api layout templates).take templates.length).Pairwise fun job other =>
      ¬Path.SamePlace job.output other.output) ∧
    ∀ job ∈ (plan api layout templates).take templates.length,
      ∀ other ∈ (plan api layout templates).drop templates.length,
        ¬Path.SamePlace job.output other.output

instance (api : SpelledApi) (layout : Layout) (templates : List String) :
    Decidable (ProjectFilesDiffer api layout templates) :=
  inferInstanceAs (Decidable (_ ∧ _))

/-- **The files of the project.** Let a document be expanded, and take the default layout. The
files of the project are different from each other and from all others exactly when no two of their
templates have names that lead to one place, the endings aside, and none has a name that leads to
where the file of a model or group would lie below the directory of the project. A model with an
absolute path for its name does not count. -/
theorem project_outputs_differ (h : (expandDocument v strict document).result = .ok api)
    (bundle : Bundle) :
    ProjectFilesDiffer api {} (bundle.projectTemplates "project") ↔
      (∀ template ∈ bundle.projectTemplates "project",
        ∀ other ∈ bundle.projectTemplates "project",
          Path.moves (bareName template) = Path.moves (bareName other) → template = other) ∧
      ∀ template ∈ bundle.projectTemplates "project",
        (∀ model ∈ api.models, Path.isAbsolute model.name = false →
          Path.moves (bareName template) ≠
            Path.moves ("project/src/models/" ++ model.name ++ ".rs")) ∧
        ∀ group ∈ api.groups, Path.moves (bareName template) ≠
          Path.moves ("project/src/endpoints/" ++ group.name ++ ".rs") := by
  rw [ProjectFilesDiffer, take_plan, drop_plan, List.pairwise_map, List.forall_mem_map]
  refine and_congr ?_ (forall₂_congr fun template htemplate => ?_)
  · have hnodup : (bundle.projectTemplates "project").Nodup :=
      (pairwise_projectTemplates bundle "project").imp ne_of_lt
    rw [← List.nodup_map_iff_inj_on hnodup, List.Nodup, List.pairwise_map]
    exact List.Pairwise.iff_of_mem fun htemplate hother =>
      not_congr (samePlace_projectOutput_iff htemplate hother)
  · have hmodelsDir : "project/" ++ "src/models" ++ "/" = "project/src/models/" := by decide
    have hgroupsDir : "project/" ++ "src/endpoints" ++ "/" = "project/src/endpoints/" := by decide
    rw [List.forall_mem_append, List.forall_mem_map, List.forall_mem_map]
    refine and_congr (forall₂_congr fun model _ => ?_) (forall₂_congr fun group hgroup => ?_)
    · rw [← hmodelsDir, Ne, ← not_and]
      exact not_congr (samePlace_sourceOutput_iff (by decide) htemplate)
    · have hrelative : Path.isAbsolute group.name = false :=
        (Path.staysBelow_of_notMem (slash_notMem_of_mem_groups h hgroup)).1
      rw [← hgroupsDir, Ne, ← and_iff_right hrelative (b := _ = _)]
      exact not_congr (samePlace_sourceOutput_iff (by decide) htemplate)

end Collisions

/-- Templates of the project with files of their own. -/
def crateBundle : Bundle where
  templates := Dict.ofList [("object.tera", []), ("project/Cargo.toml.tera", []),
    ("project/src/models/mod.rs.tera", [])]

theorem projectTemplates_crateBundle : crateBundle.projectTemplates "project" =
    ["project/Cargo.toml.tera", "project/src/models/mod.rs.tera"] :=
  projectTemplates_of_pairwise (by decide +kernel) (by decide +kernel)

theorem project_outputs_differ_crate :
    (expandDocument {} true (namedDocument "Pet")).result = .ok (namedApi "Pet") ∧
      crateBundle.projectTemplates "project" =
        ["project/Cargo.toml.tera", "project/src/models/mod.rs.tera"] ∧
      ProjectFilesDiffer (namedApi "Pet") {} (crateBundle.projectTemplates "project") := by
  have hok : (expandDocument {} true (namedDocument "Pet")).result = .ok (namedApi "Pet") := by
    decide +kernel
  refine ⟨hok, projectTemplates_crateBundle, (project_outputs_differ hok crateBundle).mpr ?_⟩
  rw [projectTemplates_crateBundle]
  decide +kernel

/-- Templates of the project without files of their own. -/
def sharedBundle : Bundle where
  templates := Dict.ofList [("project/a", []), ("project/a.tera", []),
    ("project/src/models/Pet.rs.tera", [])]

/-- Two templates of the project may have one output, and one may have the output of a model. -/
theorem project_outputs_agree :
    (expandDocument {} true (namedDocument "Pet")).result = .ok (namedApi "Pet") ∧
      (plan (namedApi "Pet") {} (sharedBundle.projectTemplates "project")).map
          (fun job => (job.template, job.output)) =
        [("project/a", "a"), ("project/a.tera", "a"),
          ("project/src/models/Pet.rs.tera", "src/models/Pet.rs"),
          ("object.tera", "src/models/Pet.rs")] ∧
      ¬ProjectFilesDiffer (namedApi "Pet") {} (sharedBundle.projectTemplates "project") := by
  have htemplates : sharedBundle.projectTemplates "project" =
      ["project/a", "project/a.tera", "project/src/models/Pet.rs.tera"] :=
    projectTemplates_of_pairwise (by decide +kernel) (by decide +kernel)
  rw [htemplates]
  decide +kernel

end ApiStencil

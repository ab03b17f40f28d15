import ApiStencil.Plan.Basic
import ApiStencil.Proofs.Api.Expansion
import ApiStencil.Proofs.Command.Frame
import ApiStencil.Proofs.Endpoint.Expansion
import ApiStencil.Proofs.Naming

/-!
# Where the outputs of a plan go

In the default layout the file of a group always lies below the output directory, since the name of
a group has no slash. The name of a model is that of its schema, which may hold anything: its file
lies below the output directory unless that name is an absolute path or goes up before its last
segment. A template of the project loses its ending, and what is left of its name could be `..`.

## Main definitions

* `Path.StaysBelow`: a name that leads to a file below the directory of those files
* `IsProjectTemplate`, `projectTemplate`: a template below the directory of the project

## Main results

* `Path.descends_source_iff`: when the file of a name lies below its directory
* `descends_projectOutput_iff`: when the output of a template lies below the output directory
* `descends_plan_iff`: when all outputs of a plan do
* `plan_contained`: and then no file elsewhere is created or changed
-/

namespace ApiStencil

namespace Path

variable {path base : String}

/-- An ending changes nothing about where a path starts. -/
theorem isAbsolute_append {ending : String} (hne : path ≠ "") :
    isAbsolute (path ++ ending) = isAbsolute path := by
  obtain ⟨c, cs, hchars⟩ := List.exists_cons_of_ne_nil (l := path.toList) (by simpa using hne)
  simp [isAbsolute, hchars]

/-- A path below another one descends if both do. -/
theorem descends_join_iff (hbase : Descends base) (hne : base ≠ "") :
    Descends (join base path) ↔ Descends path := by
  cases habsolute : isAbsolute path with
  | true => rw [join, if_pos habsolute]
  | false =>
    obtain ⟨front, idle, hsegments, -, hjoin⟩ := segments_join habsolute hne
    have hfront : ".." ∉ front := by
      have hup := hbase.noParent
      rw [hsegments, List.mem_append, not_or] at hup
      exact hup.1
    constructor
    · intro h
      have hup := h.noParent
      rw [hjoin, List.mem_append, not_or] at hup
      exact ⟨habsolute, hup.2⟩
    · intro h
      refine ⟨relative_join hbase.relative habsolute, ?_⟩
      rw [hjoin, List.mem_append, not_or]
      exact ⟨hfront, h.noParent⟩

/-- A name of a model or group that leads to a file below the directory of those files: it is no
absolute path, and does not go up before its last segment. -/
def StaysBelow (name : String) : Prop :=
  isAbsolute name = false ∧ ".." ∉ (segments name).dropLast

instance (name : String) : Decidable (StaysBelow name) := inferInstanceAs (Decidable (_ ∧ _))

/-- The last segment does not count, since it is longer in the file. -/
theorem descends_source_iff (name : String) : Descends (name ++ ".rs") ↔ StaysBelow name := by
  obtain ⟨init, last, hname, hfile⟩ := segments_append name (show '/' ∉ ".rs".toList by decide)
  have habsolute : isAbsolute (name ++ ".rs") = isAbsolute name := by
    by_cases hempty : name = ""
    · subst hempty
      decide
    · exact isAbsolute_append hempty
  have hlast : ".." ≠ last ++ ".rs" := by
    intro heq
    have hlength := congrArg String.length heq
    rw [String.length_append] at hlength
    have : (".." : String).length = 2 := by decide
    have : (".rs" : String).length = 3 := by decide
    omega
  have hup : ".." ∈ segments (name ++ ".rs") ↔ ".." ∈ (segments name).dropLast := by
    rw [hname, hfile, List.dropLast_concat, List.mem_append, List.mem_singleton]
    exact or_iff_left hlast
  constructor
  · intro h
    exact ⟨habsolute ▸ h.relative, fun hmem => h.noParent (hup.mpr hmem)⟩
  · rintro ⟨hrelative, hnone⟩
    exact ⟨habsolute.trans hrelative, fun hmem => hnone (hup.mp hmem)⟩

theorem staysBelow_of_notMem {name : String} (h : '/' ∉ name.toList) : StaysBelow name := by
  refine ⟨?_, ?_⟩
  · rw [isAbsolute, decide_eq_false_iff_not]
    exact fun hhead => h (List.mem_of_head? hhead)
  · rw [segments, List.splitOn_eq_singleton h]
    exact List.not_mem_nil

theorem ofNames_concat (names : List String) (last ending : String) :
    ofNames (names ++ [last ++ ending]) = ofNames (names ++ [last]) ++ ending := by
  induction names with
  | nil => simp [ofNames]
  | cons name names ih =>
    rw [ofNames, ofNames] at ih ⊢
    cases names with
    | nil => simp [String.append_assoc]
    | cons next names =>
      simp only [List.cons_append, String.intercalate_cons_cons] at ih ⊢
      rw [ih]
      simp only [String.append_assoc]

end Path

/-! ## Templates of the project -/

/-- The names on the path of a template below the directory of the project. -/
def IsProjectTemplate (parts : List String) : Prop :=
  parts ≠ [] ∧ ∀ part ∈ parts, Path.IsComponent part

instance (parts : List String) : Decidable (IsProjectTemplate parts) :=
  inferInstanceAs (Decidable (_ ∧ _))

/-- The name of a template below the directory of the project. -/
def projectTemplate (parts : List String) : String := Path.ofNames ("project" :: parts)

section Template

variable {parts : List String} (h : IsProjectTemplate parts)
include h

theorem segments_ofNames_of_isProjectTemplate : Path.segments (Path.ofNames parts) = parts :=
  Path.segments_ofNames h.1 fun part hpart => (h.2 part hpart).noSlash

theorem isAbsolute_ofNames_of_isProjectTemplate :
    Path.isAbsolute (Path.ofNames parts) = false :=
  (Path.descends_ofNames h.1 h.2).relative

/-- The output of a template has its path below the directory of the project, without the ending. -/
theorem projectOutput_projectTemplate :
    projectOutput "project" (projectTemplate parts) =
      String.ofList (Text.dropEnding templateEnding (Path.ofNames parts).toList) := by
  obtain ⟨first, rest, rfl⟩ := List.exists_cons_of_ne_nil h.1
  have htemplate : (projectTemplate (first :: rest)).toList =
      "project".toList ++ '/' :: (Path.ofNames (first :: rest)).toList := by
    simp [projectTemplate, Path.ofNames, String.intercalate_cons_cons]
  have hrelative := isAbsolute_ofNames_of_isProjectTemplate h
  have hprefix : "project".toList.isPrefixOf? (projectTemplate (first :: rest)).toList =
      some ('/' :: (Path.ofNames (first :: rest)).toList) :=
    List.isPrefixOf?_eq_some_iff_append_eq.mpr htemplate.symm
  rw [projectOutput, projectRelative, hprefix]
  have hdrop : ('/' :: (Path.ofNames (first :: rest)).toList).dropWhile (· = '/') =
      (Path.ofNames (first :: rest)).toList := by
    cases hchars : (Path.ofNames (first :: rest)).toList with
    | nil => rfl
    | cons c cs =>
      have hc : c ≠ '/' := by simpa [Path.isAbsolute, hchars] using hrelative
      simp [hc]
  simp only [hdrop]

/-- The output of a template lies below the output directory, unless nothing but `..` is left of its
last name without the ending. -/
theorem descends_projectOutput_iff :
    Path.Descends (projectOutput "project" (projectTemplate parts)) ↔
      parts.getLast? ≠ some "...tera" := by
  have hsegments := segments_ofNames_of_isProjectTemplate h
  have hrelative := isAbsolute_ofNames_of_isProjectTemplate h
  have hup : ".." ∉ parts := fun hmem => (h.2 ".." hmem).ne_parent rfl
  rw [projectOutput_projectTemplate h, Text.dropEnding]
  cases hsuffix : templateEnding.isSuffixOf? (Path.ofNames parts).toList with
  | none =>
    rw [Option.getD_none, String.ofList_toList]
    refine iff_of_true ⟨hrelative, by rwa [hsegments]⟩ fun hlast => ?_
    obtain ⟨init, rfl⟩ := List.getLast?_eq_some_iff.mp hlast
    have hending : Path.ofNames (init ++ ["...tera"]) = Path.ofNames (init ++ [".."]) ++ ".tera" :=
      Path.ofNames_concat init ".." ".tera"
    rw [hending, String.toList_append] at hsuffix
    have hsome := List.isSuffixOf?_eq_some_iff_append_eq.mpr
      (rfl : (Path.ofNames (init ++ [".."])).toList ++ templateEnding = _)
    cases hsuffix.symm.trans hsome
  | some out =>
    have hwhole : Path.ofNames parts = String.ofList out ++ ".tera" := by
      apply String.toList_injective
      rw [String.toList_append, String.toList_ofList]
      exact (List.isSuffixOf?_eq_some_iff_append_eq.mp hsuffix).symm
    obtain ⟨init, last, hout, hparts⟩ :=
      Path.segments_append (String.ofList out) (show '/' ∉ ".tera".toList by decide)
    rw [← hwhole, hsegments] at hparts
    subst hparts
    have hstart : Path.isAbsolute (String.ofList out) = false := by
      refine Path.relative_start hrelative ?_
      rw [hwhole, String.toList_append]
      exact List.prefix_append _ _
    have hinit : ".." ∉ init := fun hmem => hup (List.mem_append_left _ hmem)
    have hending : "...tera" = ".." ++ ".tera" := by decide
    have hlast : last ++ ".tera" = "...tera" ↔ last = ".." := by
      rw [hending, String.append_left_inj]
    rw [Option.getD_some, List.getLast?_concat, Ne, Option.some.injEq, hlast]
    constructor
    · rintro hdescends rfl
      exact hdescends.noParent (by simp [hout])
    · intro hne
      exact ⟨hstart, by simp [hout, hinit, Ne.symm hne]⟩

end Template

/-! ## Plans -/

theorem descends_sourceOutput_iff {dir : String} (hdir : Path.Descends dir) (hne : dir ≠ "")
    (name : String) :
    Path.Descends (sourceOutput {} dir name) ↔ Path.StaysBelow name := by
  have hfile : name ++ "." ++ "rs" = name ++ ".rs" := by rw [String.append_assoc]; rfl
  rw [sourceOutput, Path.descends_join_iff hdir hne, hfile, Path.descends_source_iff]

section Plan

variable {v : Vocabulary} {strict : Bool} {document : Document} {api : SpelledApi}
  {templates : List (List String)}

/-- The name of a group of an expanded document has no slash. -/
theorem slash_notMem_of_mem_groups (h : (expandDocument v strict document).result = .ok api)
    {group : EndpointGroup String String} (hgroup : group ∈ api.groups) :
    '/' ∉ group.name.toList := by
  have hname := List.mem_map_of_mem (f := fun group => group.name) hgroup
  rw [names_groups_of_expandDocument h] at hname
  obtain ⟨entry, -, hpath⟩ := List.mem_map.mp hname
  rw [← hpath]
  exact slash_notMem_groupName entry.1

/-- All outputs of a plan lie below the output directory exactly when no model has an absolute path
or one that goes up for its name, and no template of the project is left with `..` for its last
name. -/
theorem descends_plan_iff (h : (expandDocument v strict document).result = .ok api)
    (htemplates : ∀ parts ∈ templates, IsProjectTemplate parts) :
    (∀ job ∈ plan api {} (templates.map projectTemplate), Path.Descends job.output) ↔
      (∀ model ∈ api.models, Path.StaysBelow model.name) ∧
      ∀ parts ∈ templates, parts.getLast? ≠ some "...tera" := by
  have hproject : (∀ job ∈ (templates.map projectTemplate).map (projectJob api {}),
      Path.Descends job.output) ↔ ∀ parts ∈ templates, parts.getLast? ≠ some "...tera" := by
    rw [List.map_map, List.forall_mem_map]
    exact forall₂_congr fun parts hparts => descends_projectOutput_iff (htemplates parts hparts)
  have hmodels : (∀ job ∈ api.models.map (modelJob {}), Path.Descends job.output) ↔
      ∀ model ∈ api.models, Path.StaysBelow model.name := by
    rw [List.forall_mem_map]
    exact forall₂_congr fun model _ =>
      descends_sourceOutput_iff (by decide +kernel) (by decide) model.name
  have hgroups : ∀ job ∈ api.groups.map (groupJob {}), Path.Descends job.output := by
    rw [List.forall_mem_map]
    intro group hgroup
    have hname := Path.staysBelow_of_notMem (slash_notMem_of_mem_groups h hgroup)
    exact (descends_sourceOutput_iff (by decide +kernel) (by decide) group.name).mpr hname
  simp only [plan, List.forall_mem_append]
  rw [hproject, hmodels, and_iff_left hgroups, and_comm]

/-- **Containment of a plan.** Let a document be expanded and let some templates lie below the
directory of the project. All outputs of the plan are relative paths without `..` exactly when every
model has a name that stays below its directory, and no template is left with `..` for its last
name. Then files with such outputs go below the output directory: every file that is on the disk
after they have been written, or after writing them has failed, was there before or lies below that
directory. -/
theorem plan_contained (h : (expandDocument v strict document).result = .ok api)
    (htemplates : ∀ parts ∈ templates, IsProjectTemplate parts) :
    ((∀ job ∈ plan api {} (templates.map projectTemplate), Path.Descends job.output) ↔
      (∀ model ∈ api.models, Path.StaysBelow model.name) ∧
        ∀ parts ∈ templates, parts.getLast? ≠ some "...tera") ∧
    ((∀ job ∈ plan api {} (templates.map projectTemplate), Path.Descends job.output) →
      ∀ (session next : Session) (dir : String) (files : List RenderedFile) (force : Bool)
        (result : Except Fault Unit),
        (∀ file ∈ files, ∃ job ∈ plan api {} (templates.map projectTemplate),
          file.path = job.output) →
        session.run (writeOutput dir files force) = (result, next) →
        ∀ location contents, next.disk.at? location = some (.file contents) →
          session.disk.at? location = some (.file contents) ∨
            ∃ base, next.disk.baseOf dir = .ok base ∧ base <+: location) := by
  refine ⟨descends_plan_iff h htemplates, fun hdescends => ?_⟩
  intro session next dir files force result hfiles hrun location contents hat
  have hpaths : ∀ file ∈ files, Path.Descends file.path := by
    intro file hfile
    obtain ⟨job, hjob, hpath⟩ := hfiles file hfile
    rw [hpath]
    exact hdescends job hjob
  exact Session.file_of_writeOutput hpaths hrun hat

end Plan

/-- A document with one schema, which goes by some name. -/
def namedDocument (name : String) : Document where
  components := { schemas := Dict.ofList [(name, { kind := some .object })] }

/-- The API of that document. -/
def namedApi (name : String) : SpelledApi where
  info := {}
  servers := []
  models := [.object {
    name
    description := missingDescription
    properties := []
    nestedEnums := [] }]
  groups := []

theorem plan_contained_pet :
    (expandDocument {} true (namedDocument "Pet")).result = .ok (namedApi "Pet") ∧
      (∀ parts ∈ [["src", "lib.rs.tera"]], IsProjectTemplate parts) ∧
      ∀ job ∈ plan (namedApi "Pet") {} [projectTemplate ["src", "lib.rs.tera"]],
        Path.Descends job.output := by
  have hok : (expandDocument {} true (namedDocument "Pet")).result = .ok (namedApi "Pet") := by
    decide +kernel
  have htemplates : ∀ parts ∈ [["src", "lib.rs.tera"]], IsProjectTemplate parts := by
    decide +kernel
  refine ⟨hok, htemplates, ?_⟩
  exact (plan_contained hok htemplates).1.mpr (by decide +kernel)

/-- A schema may have an absolute path for its name, or one that goes up from the directory of the
models and out of the output directory. Its file is written there. -/
theorem plan_not_contained :
    Session.noteDisk.at? ["work", "note.rs"] = none ∧
      ∀ name ∈ ["/work/note", "../../../note"],
        (expandDocument {} true (namedDocument name)).result = .ok (namedApi name) ∧
        ∃ job ∈ plan (namedApi name) {} [], ¬Path.Descends job.output ∧
          (Session.run ⟨Session.noteDisk, []⟩
            (writeOutput "out" [⟨job.output, "generated"⟩] false)).2.disk.at? ["work", "note.rs"] =
              some (.file (.text "generated")) := by
  decide +kernel

end ApiStencil

import ApiStencil.Command.Generate
import ApiStencil.Proofs.Command.Frame
import ApiStencil.Proofs.Command.Output
import Mathlib

/-!
# What a failed run leaves behind

Everything up to the last file being rendered only reads the disk. Writing the files can fail too,
and it leaves the disk as it was if the files stand together below the output directory: then all
that can be in the way is there before the run, and it is found before anything is changed. This
goes for every template engine.

## Main definitions

* `renderFiles`: the part of a run that renders the files
* `Disk.Refuses`: a directory that is refused before anything is changed
* `Disk.Settles`: a directory that takes some files whole or not at all

## Main results

* `Session.respects_renderFiles`: nothing is changed before all files are rendered
* `Session.disk_eq_of_refuses`, `Session.disk_eq_of_settles`: writing the files of a run is refused,
  or all of them are written, or the disk is as it was
* `Session.disk_eq_of_generateFiles_error`: a failed run leaves the disk as it was
* `Session.run_loadBundle`: a directory is loaded from all files below it
-/

namespace ApiStencil

/-- The files of a run, and the configuration that they are rendered with. -/
def renderFiles (flags : Flags) (ρ : Type := Bundle) [TemplateEngine ρ] :
    ExceptT Fault (StateM Session) (ProjectConfig × List RenderedFile) := do
  let config ← resolveConfig flags
  let api ← expandConfigured config
  let bundle : ρ ← loadBundle config.templates
  let files ← replay (generate api bundle config.layout)
  return (config, files)

theorem generateFiles_eq (flags : Flags) (force : Bool) (ρ : Type) [TemplateEngine ρ] :
    generateFiles flags force ρ = (do
      let (config, files) ← renderFiles flags ρ
      writeOutput config.output files force
      report (Log.generationFinished files.length config.output)
      return "Generated " ++ toString files.length ++ " files in " ++
        Text.quoted config.output ++ "\n" : ExceptT Fault (StateM Session) String) := by
  simp only [generateFiles, renderFiles, bind_assoc, pure_bind]

namespace Session

/-! ## Reading -/

section Reading

variable {R : Disk → Disk → Prop} [IsPreorder Disk R]

theorem respects_loadConfig (path : String) :
    Respects R (loadConfig path : ExceptT Fault (StateM Session) ProjectConfig) := by
  refine (respects_readText path).bind fun outcome => ?_
  refine (respects_orFail _ outcome).bind fun text => ?_
  refine (respects_liftExcept _).bind fun config => ?_
  exact (respects_report _).bind fun _ => respects_pure _

theorem respects_loadConfigOrDefault (path : Option String) :
    Respects R (loadConfigOrDefault path : ExceptT Fault (StateM Session) ProjectConfig) := by
  unfold loadConfigOrDefault
  cases path with
  | some path => exact respects_loadConfig path
  | none =>
    refine (respects_kind? defaultConfigPath).bind fun kind => ?_
    split_ifs
    · exact respects_loadConfig defaultConfigPath
    · exact respects_pure _

theorem respects_resolveConfig (flags : Flags) :
    Respects R (resolveConfig flags : ExceptT Fault (StateM Session) ProjectConfig) :=
  (respects_loadConfigOrDefault flags.config).bind fun _ => respects_pure _

theorem respects_readDocument (config : ProjectConfig) :
    Respects R (readDocument config : ExceptT Fault (StateM Session) String) := by
  unfold readDocument
  cases config.schema with
  | none => exact respects_throw _
  | some path =>
    have hread : Respects R (do orFail (.workspace <| .unreadableDocument ·) (← readText path)) :=
      (respects_readText path).bind fun outcome => respects_orFail _ outcome
    refine (respects_kind? path).bind fun kind => ?_
    split_ifs
    · exact (respects_throw _).bind fun _ => hread
    · exact hread

theorem respects_expandConfigured (config : ProjectConfig) :
    Respects R (expandConfigured config : ExceptT Fault (StateM Session) SpelledApi) := by
  refine (respects_readDocument config).bind fun text => ?_
  exact (respects_liftExcept _).bind fun document => respects_replay _

theorem respects_loadBundle {ρ : Type} [TemplateEngine ρ] (dir : String) :
    Respects R (loadBundle dir : ExceptT Fault (StateM Session) ρ) := by
  have hread (name : String) : Respects R (readTemplate dir name :
      ExceptT Fault (StateM Session) (String × String)) := by
    refine (respects_readText (Path.join dir name)).bind fun outcome => ?_
    exact (respects_orFail _ outcome).bind fun text => respects_pure _
  have hload : Respects R (do
      let names ← filesBelow dir
      report (Log.loadingBundle dir names.length)
      let sources ← names.mapM (readTemplate dir)
      liftExcept (TemplateEngine.loadAll dir sources : Except Fault ρ)) := by
    refine (respects_filesBelow dir).bind fun names => ?_
    refine (respects_report _).bind fun _ => ?_
    exact (Respects.mapM fun name _ => hread name).bind fun sources => respects_liftExcept _
  refine ((respects_kind? dir).bind fun kind => respects_pure _).bind fun isDirectory => ?_
  split_ifs
  · exact (respects_throw _).bind fun _ => hload
  · exact hload

/-- Everything up to the last file being rendered respects every preorder: it only reads. -/
theorem respects_renderFiles (flags : Flags) (ρ : Type) [TemplateEngine ρ] :
    Respects R (renderFiles flags ρ) := by
  refine (respects_resolveConfig flags).bind fun config => ?_
  refine (respects_expandConfigured config).bind fun api => ?_
  refine (respects_loadBundle config.templates).bind fun bundle => ?_
  exact (respects_replay _).bind fun files => respects_pure _

end Reading

/-! ## Writing -/

variable {session next : Session} {dir : String} {files : List RenderedFile} {force : Bool}
  {fault : Fault}

section Reaches

variable {base : Location} (hreaches : session.disk.Reaches dir base force)
include hreaches

theorem disk_eq_of_makeOutput_error (hfits : Disk.Fits dir)
    (h : session.run (createDirectories dir >>= orFail .io) = (.error fault, next)) :
    next.disk = session.disk := by
  obtain ⟨outcome, made, hrun, -, -, hsame⟩ := opens_createDirectories hreaches.aims
  rw [run_orFail_of_run hrun] at h
  cases outcome with
  | error early =>
    cases h
    exact hsame nofun hfits
  | ok _ => cases h

/-- Clearing a directory fails only without force, and then it has only looked. -/
theorem disk_eq_of_clearOutput_error (hfind : session.disk.find dir = .ok .directory)
    (h : session.run (clearOutput dir force) = (.error fault, next)) :
    next.disk = session.disk := by
  cases force with
  | false =>
    obtain ⟨result, hrun, -⟩ := run_clearOutput_of_not_force session dir
    cases hrun.symm.trans h
    rfl
  | true =>
    obtain ⟨result, cleared, hrun, hiff, -⟩ := run_clearOutput hreaches hfind
    obtain rfl := hiff.mpr (Or.inr rfl)
    cases hrun.symm.trans h

/-- An output directory that cannot be freed and made leaves the disk as it was. -/
theorem disk_eq_of_prepareOutput_error (hfits : Disk.Fits dir)
    (h : session.run (prepareOutput dir force) = (.error fault, next)) :
    next.disk = session.disk := by
  rw [prepareOutput, run_bind, run_kind?] at h
  cases hkind : session.disk.kind? dir with
  | none =>
    rw [hkind] at h
    exact disk_eq_of_makeOutput_error hreaches hfits h
  | some kind =>
    rw [hkind] at h
    cases kind with
    | file =>
      cases h
      rfl
    | directory =>
      have hfind := Disk.kind?_eq_directory_iff.mp hkind
      have hfree := Disk.unblocked_of_directory (hreaches.aims.find_eq_ok hfind).2
      rcases run_bind_eq_error h with hclear | ⟨_, cleared, hclear, hmake⟩
      · exact disk_eq_of_clearOutput_error hreaches hfind hclear
      · obtain ⟨result, middle, hrun, -, hcleared⟩ := run_clearOutput hreaches hfind
        cases hrun.symm.trans hclear
        obtain ⟨haims, hcleared⟩ := hcleared rfl
        obtain ⟨last, hmade, -⟩ := run_createDirectories_of_cleared haims hfits hfree hcleared
        rw [run_orFail_of_run hmade] at hmake
        cases hmake

end Reaches

end Session

/-- An output directory is refused before anything is changed: a file is in its place, or there is
something in it and no force is used. -/
def Disk.Refuses (disk : Disk) (dir : String) (force : Bool) : Prop :=
  disk.kind? dir = some .file ∨
    force = false ∧ disk.kind? dir = some .directory ∧ disk.childNames dir ≠ .ok []

/-- A directory takes some files whole or not at all: its path reaches a location, they have plain
relative paths, the system permits all of these paths, and none of the files lies in the place of a
directory of another one. -/
structure Disk.Settles (disk : Disk) (dir : String) (files : List RenderedFile) (force : Bool) :
    Prop where
  reaches : ∃ base, disk.Reaches dir base force
  plain : ∀ file ∈ files, file.IsPlain
  noneNested : NoneNested files
  fits : Disk.Fits dir ∧ ∀ file ∈ files, Disk.Fits (Path.join dir file.path)

namespace Session

variable {session next : Session} {dir : String} {files : List RenderedFile} {force : Bool}
  {fault : Fault}

theorem run_freeOutput_of_refuses (hrefuses : session.disk.Refuses dir force) :
    ∃ fault, session.run (freeOutput dir force) = (.error fault, session) := by
  rcases hrefuses with hfile | ⟨rfl, hdir, hnames⟩
  · rw [freeOutput, run_bind, run_kind?, hfile]
    exact ⟨.workspace (.outputNotADirectory dir), rfl⟩
  · obtain ⟨result, hrun, hclear⟩ := run_freeOutput_of_not_force session dir
    cases result with
    | error fault => exact ⟨fault, hrun⟩
    | ok _ =>
      rcases hclear rfl with hnone | ⟨-, hnil⟩
      · rw [hnone] at hdir
        cases hdir
      · exact absurd hnil hnames

/-- However its path is spelled, an output directory that is refused leaves the disk as it was. -/
theorem disk_eq_of_refuses {result : Except Fault Unit} (hrefuses : session.disk.Refuses dir force)
    (h : session.run (writeOutput dir files force) = (result, next)) :
    next.disk = session.disk := by
  obtain ⟨refusal, hfree⟩ := run_freeOutput_of_refuses hrefuses
  rw [writeOutput, prepareOutput_eq, bind_assoc, run_bind, hfree] at h
  cases h
  rfl

/-- A directory that settles files takes all of them, or the disk is as it was. -/
theorem disk_eq_of_settles (hsettles : session.disk.Settles dir files force)
    (h : session.run (writeOutput dir files force) = (.error fault, next)) :
    next.disk = session.disk := by
  obtain ⟨base, hreaches⟩ := hsettles.reaches
  rcases run_bind_eq_error h with hprepare | ⟨_, middle, hprepare, hwrite⟩
  · exact disk_eq_of_prepareOutput_error hreaches hsettles.fits.1 hprepare
  · obtain ⟨result, start, hrun, -, hstart⟩ := run_prepareOutput_of_reaches hreaches
    cases hrun.symm.trans hprepare
    obtain ⟨haims, hwritten⟩ := hstart rfl
    have hplain : ∀ file ∈ [] ++ files, file.IsPlain := by simpa using hsettles.plain
    obtain ⟨result, last, hrest, hiff, -⟩ :=
      run_writeFiles_of_aims haims hplain (by simp [NoneNested]) hwritten
    obtain rfl := hiff.mpr ⟨hsettles.noneNested, hsettles.fits.2⟩
    cases hrest.symm.trans hwrite

/-- **A failed run.** Whatever the template engine, a run that fails leaves the disk as it was,
whatever it fails at: reading the configuration, the document or the templates, rendering, or
writing. If it gets as far as writing, this takes an output directory that is refused or that
settles the files that have been rendered. -/
theorem disk_eq_of_generateFiles_error {ρ : Type} [TemplateEngine ρ] {flags : Flags}
    (hwrites : ∀ config files middle,
      session.run (renderFiles flags ρ) = (.ok (config, files), middle) →
        session.disk.Refuses config.output force ∨
          session.disk.Settles config.output files force)
    (h : session.run (generateFiles flags force ρ) = (.error fault, next)) :
    next.disk = session.disk := by
  have hreads : Respects Eq (renderFiles flags ρ) := respects_renderFiles flags ρ
  rw [generateFiles_eq] at h
  rcases run_bind_eq_error h with hrender | ⟨⟨config, files⟩, middle, hrender, hrest⟩
  · exact (hreads.of_run hrender).symm
  · have hsame : middle.disk = session.disk := (hreads.of_run hrender).symm
    rcases run_bind_eq_error hrest with hwrite | ⟨_, last, -, hdone⟩
    · rcases hwrites config files middle hrender with hrefuses | hsettles
      · exact (disk_eq_of_refuses (hsame ▸ hrefuses) hwrite).trans hsame
      · exact (disk_eq_of_settles (hsame ▸ hsettles) hwrite).trans hsame
    · cases hdone

/-- A run that has rendered its files fails if they cannot be written. -/
theorem run_generateFiles_of_writeOutput {ρ : Type} [TemplateEngine ρ] {flags : Flags}
    {config : ProjectConfig} {middle : Session}
    (hrender : session.run (renderFiles flags ρ) = (.ok (config, files), middle))
    (hwrite : (middle.run (writeOutput config.output files force)).1 = .error fault) :
    session.run (generateFiles flags force ρ) =
      (.error fault, (middle.run (writeOutput config.output files force)).2) := by
  rw [generateFiles_eq, run_bind, hrender]
  simp only
  rcases hrun : middle.run (writeOutput config.output files force) with ⟨result, next⟩
  rw [hrun] at hwrite
  obtain rfl : result = .error fault := hwrite
  rw [run_bind, hrun]

/-! ## Loading templates -/

theorem run_mapM_readTemplate {sources : List (String × String)}
    (hread : ∀ source ∈ sources,
      session.disk.readText (Path.join dir source.1) = .ok source.2) :
    session.run ((sources.map (·.1)).mapM (readTemplate dir)) = (.ok sources, session) := by
  induction sources with
  | nil => rfl
  | cons source sources ih =>
    have hhead : session.run (readTemplate dir source.1) = (.ok source, session) := by
      simp only [readTemplate, run_bind, run_readText, hread source (List.mem_cons_self ..),
        run_orFail, Except.mapError, run_pure]
    have htail := ih fun other hother => hread other (List.mem_cons_of_mem _ hother)
    rw [List.map_cons, List.mapM_cons, run_bind, hhead]
    simp only [run_bind, htail, run_pure]

/-- A bundle is loaded from all files below a directory. -/
theorem run_loadBundle {ρ : Type} [TemplateEngine ρ] {disk : Disk} {bundle : ρ}
    {sources : List (String × String)} (hkind : disk.kind? dir = some .directory)
    (hfiles : disk.filesBelow dir = sources.map (·.1))
    (hread : ∀ source ∈ sources, disk.readText (Path.join dir source.1) = .ok source.2)
    (hbundle : TemplateEngine.loadAll dir sources = .ok bundle) (events : List Event) :
    run ⟨disk, events⟩ (loadBundle dir) =
      (.ok bundle, ⟨disk, events ++ [Log.loadingBundle dir sources.length]⟩) := by
  have hdirectory : run ⟨disk, events⟩ (isDirectory dir) = (.ok true, ⟨disk, events⟩) := by
    rw [isDirectory, run_bind, run_kind?]
    simp [hkind]
  have hsources : run ⟨disk, events ++ [Log.loadingBundle dir sources.length]⟩
      ((sources.map (·.1)).mapM (readTemplate dir)) =
        (.ok sources, ⟨disk, events ++ [Log.loadingBundle dir sources.length]⟩) :=
    run_mapM_readTemplate hread
  rw [loadBundle, run_bind, hdirectory]
  simp only [Bool.not_true, Bool.false_eq_true, ↓reduceIte, run_bind, run_filesBelow, hfiles,
    List.length_map, run_report, hsources, run_liftExcept, hbundle]

/-! ## Runs that fail at writing -/

/-- A document without schemas and paths. -/
def titleText : String := "info:\n title: T\n version: v1"

/-- A working directory with a document, with two templates of which one makes a file in the place
of a directory of the other, and with an output directory that a file has been left in. -/
def projectDisk : Disk :=
  [(["work"], .directory), (["work", "api.yml"], .file (.text titleText)),
    (["work", "t"], .directory), (["work", "t", "project"], .directory),
    (["work", "t", "project", "a.tera"], .file (.text "1")),
    (["work", "t", "project", "a"], .directory),
    (["work", "t", "project", "a", "b.tera"], .file (.text "2")),
    (["work", "out"], .directory), (["work", "out", "old"], .file (.text "0"))].foldl
      (fun (disk : Disk) (placed : Location × Entry) => disk.put placed.1 placed.2)
      (Disk.empty ["work"])

/-- The flags of a run with the templates of some directory. -/
def projectFlags (templates : String) : Flags where
  schema := some "api.yml"
  output := some "out"
  templates := some templates

def projectConfig (templates : String) : ProjectConfig :=
  ProjectConfig.override {} (projectFlags templates)

def titleDocument : Document := { info := { title := "T", version := "v1" } }

def titleApi : SpelledApi where
  info := titleDocument.info
  servers := []
  models := []
  groups := []

section Title

variable {disk : Disk} {flags : Flags} {config : ProjectConfig}

theorem run_resolveConfig_of_none (hgiven : flags.config = none)
    (hkind : disk.kind? defaultConfigPath = none) :
    run ⟨disk, []⟩ (resolveConfig flags) =
      (.ok (ProjectConfig.override {} flags), ⟨disk, []⟩) := by
  simp [resolveConfig, loadConfigOrDefault, hgiven, run_bind, run_kind?, hkind]

theorem run_expandConfigured_title {path : String} (hschema : config.schema = some path)
    (htypes : config.types = {}) (hstrict : config.strict = false)
    (hkind : disk.kind? path = some .file) (hread : disk.readText path = .ok titleText) :
    run ⟨disk, []⟩ (expandConfigured config) =
      (.ok titleApi, ⟨disk, (expandDocument {} false titleDocument).events⟩) := by
  have hyaml : Document.ofYaml titleText = .ok titleDocument := by cbv
  have hexpand : (expandDocument {} false titleDocument).result = .ok titleApi := by
    decide +kernel
  simp [expandConfigured, readDocument, hschema, htypes, hstrict, run_bind, run_kind?, hkind,
    run_readText, hread, run_orFail, Except.mapError, run_liftExcept, hyaml, run_replay, hexpand]

/-- The files are rendered if the templates can be loaded. -/
theorem run_renderFiles_title {bundle : Bundle} {loading : List Event} {files : List RenderedFile}
    (hconfig : run ⟨disk, []⟩ (resolveConfig flags) = (.ok config, ⟨disk, []⟩))
    (hexpand : run ⟨disk, []⟩ (expandConfigured config) =
      (.ok titleApi, ⟨disk, (expandDocument {} false titleDocument).events⟩))
    (hbundle : ∀ events, run ⟨disk, events⟩ (loadBundle config.templates) =
      (.ok bundle, ⟨disk, events ++ loading⟩))
    (hfiles : (generate titleApi bundle config.layout).result = .ok files) :
    run ⟨disk, []⟩ (renderFiles flags) = (.ok (config, files),
      ⟨disk, (expandDocument {} false titleDocument).events ++ loading ++
        (generate titleApi bundle config.layout).events⟩) := by
  rw [renderFiles, run_bind, hconfig]
  simp only [run_bind, hexpand, hbundle, run_replay, hfiles, run_pure]

end Title

/-- The session once the files of some templates have been rendered. -/
def renderedSession (loading : List Event) (bundle : Bundle) : Session where
  disk := projectDisk
  events := (expandDocument {} false titleDocument).events ++ loading ++
    (generate titleApi bundle {}).events

theorem run_renderFiles_project {templates : String} {bundle : Bundle} {loading : List Event}
    {files : List RenderedFile}
    (hbundle : ∀ events, run ⟨projectDisk, events⟩ (loadBundle templates) =
      (.ok bundle, ⟨projectDisk, events ++ loading⟩))
    (hfiles : (generate titleApi bundle {}).result = .ok files) :
    run ⟨projectDisk, []⟩ (renderFiles (projectFlags templates)) =
      (.ok (projectConfig templates, files), renderedSession loading bundle) := by
  have hconfig : projectDisk.kind? defaultConfigPath = none := by decide +kernel
  have hkind : projectDisk.kind? "api.yml" = some .file := by decide +kernel
  have hread : projectDisk.readText "api.yml" = .ok titleText := by decide +kernel
  have hexpand := @run_expandConfigured_title projectDisk (projectConfig templates) _ rfl rfl rfl
    hkind hread
  exact run_renderFiles_title (run_resolveConfig_of_none rfl hconfig) hexpand hbundle hfiles

/-- A bundle without templates of the project. -/
def innerBundle : Bundle where
  templates := Dict.ofList [("b.tera", [.text ['2']])]

theorem run_loadBundle_inner (events : List Event) :
    run ⟨projectDisk, events⟩ (loadBundle "t/project/a") =
      (.ok innerBundle,
        ⟨projectDisk, events ++ [Log.loadingBundle "t/project/a" 1]⟩) := by
  have hkind : projectDisk.kind? "t/project/a" = some .directory := by decide +kernel
  have hfiles : projectDisk.filesBelow "t/project/a" = [("b.tera", "2")].map (·.1) := by
    have hdir : projectDisk.locateDirectory "t/project/a" = .ok ["work", "t", "project", "a"] := by
      decide +kernel
    have hbelow : projectDisk.below ["work", "t", "project", "a"] =
        [(["b.tera"], .file (.text "2"))] := by decide +kernel
    rw [Disk.filesBelow, hdir]
    simp [hbelow, Path.ofNames, Entry.kind]
  have hbundle : TemplateEngine.loadAll "t/project/a" [("b.tera", "2")] =
      .ok innerBundle := by cbv
  exact run_loadBundle hkind hfiles (by decide +kernel) hbundle events

/-- A run without force finds that there is something in its output directory, and leaves it. -/
theorem disk_eq_of_generateFiles_error_project :
    (∀ config files middle,
      run ⟨projectDisk, []⟩ (renderFiles (projectFlags "t/project/a")) =
        (.ok (config, files), middle) →
          projectDisk.Refuses config.output false ∨
            projectDisk.Settles config.output files false) ∧
      ∃ next, run ⟨projectDisk, []⟩ (generateFiles (projectFlags "t/project/a") false) =
          (.error (.workspace (.outputNotEmpty "out")), next) ∧
        next.disk = projectDisk := by
  have hfiles : (generate titleApi innerBundle {}).result = .ok [] := by
    have hproject : innerBundle.projectTemplates "project" = [] := by
      have hkeys : (innerBundle.templates.keys.filter fun name =>
          (TemplateEngine.directoryStart "project").isPrefixOf name.toList) = [] := by
        decide +kernel
      rw [Bundle.projectTemplates_eq, hkeys, List.mergeSort_nil]
    rw [generate_bundle, hproject]
    rfl
  have hrender := run_renderFiles_project run_loadBundle_inner hfiles
  have hwrites : ∀ config files middle,
      run ⟨projectDisk, []⟩ (renderFiles (projectFlags "t/project/a")) =
        (.ok (config, files), middle) →
          projectDisk.Refuses config.output false ∨
            projectDisk.Settles config.output files false := by
    intro config files middle hok
    cases hrender.symm.trans hok
    have htargets : projectDisk.Targets "out" ["work", "out"] := by decide +kernel
    exact Or.inr {
      reaches := ⟨["work", "out"], htargets.reaches false⟩
      plain := by simp
      noneNested := by simp [NoneNested]
      fits := by decide +kernel }
  have hwrite : (run (renderedSession [Log.loadingBundle "t/project/a" 1] innerBundle)
      (writeOutput "out" [] false)).1 = .error (.workspace (.outputNotEmpty "out")) := by
    decide +kernel
  have hrun := run_generateFiles_of_writeOutput hrender hwrite
  exact ⟨hwrites, _, hrun, disk_eq_of_generateFiles_error hwrites hrun⟩

/-- The templates of the project, one of which makes a file in the place of a directory of the
other. -/
def conflictBundle : Bundle where
  templates := Dict.ofList
    [("project/a.tera", [.text ['1']]), ("project/a/b.tera", [.text ['2']])]

theorem run_loadBundle_conflict (events : List Event) :
    run ⟨projectDisk, events⟩ (loadBundle "t") =
      (.ok conflictBundle, ⟨projectDisk, events ++ [Log.loadingBundle "t" 2]⟩) := by
  have hkind : projectDisk.kind? "t" = some .directory := by decide +kernel
  have hfiles : projectDisk.filesBelow "t" =
      [("project/a.tera", "1"), ("project/a/b.tera", "2")].map (·.1) := by
    have hdir : projectDisk.locateDirectory "t" = .ok ["work", "t"] := by decide +kernel
    have hbelow : projectDisk.below ["work", "t"] =
        [(["project"], .directory), (["project", "a.tera"], .file (.text "1")),
          (["project", "a"], .directory), (["project", "a", "b.tera"], .file (.text "2"))] := by
      decide +kernel
    rw [Disk.filesBelow, hdir]
    simp [hbelow, List.mergeSort, Path.ofNames, Entry.kind]
  have hbundle : TemplateEngine.loadAll "t" [("project/a.tera", "1"), ("project/a/b.tera", "2")] =
      .ok conflictBundle := by cbv
  exact run_loadBundle hkind hfiles (by decide +kernel) hbundle events

/-- The files of the project: one lies in the place of a directory of the other. -/
def conflictingFiles : List RenderedFile := [⟨"a", "1"⟩, ⟨"a/b", "2"⟩]

/-- By force the output directory is cleared before the conflict is found, and what was there is
lost. -/
theorem disk_ne_of_generateFiles_conflict :
    ∃ next, run ⟨projectDisk, []⟩ (generateFiles (projectFlags "t") true) =
        (.error (.workspace (.cannotCreate "out/a" .alreadyExists)), next) ∧
      projectDisk.at? ["work", "out", "old"] = some (.file (.text "0")) ∧
      next.disk.at? ["work", "out", "old"] = none := by
  have hproject : conflictBundle.projectTemplates "project" =
      ["project/a.tera", "project/a/b.tera"] := by
    have hkeys : (conflictBundle.templates.keys.filter fun name =>
        (TemplateEngine.directoryStart "project").isPrefixOf name.toList) =
          ["project/a.tera", "project/a/b.tera"] := by decide +kernel
    rw [Bundle.projectTemplates_eq, hkeys]
    simp [List.mergeSort]
  have hfiles : (generate titleApi conflictBundle {}).result = .ok conflictingFiles := by
    rw [generate_bundle, hproject]
    decide +kernel
  have hrender := run_renderFiles_project run_loadBundle_conflict hfiles
  have hold : projectDisk.at? ["work", "out", "old"] = some (.file (.text "0")) := by
    decide +kernel
  have hwrite : (run (renderedSession [Log.loadingBundle "t" 2] conflictBundle)
      (writeOutput "out" conflictingFiles true)).1 =
        .error (.workspace (.cannotCreate "out/a" .alreadyExists)) := by decide +kernel
  have hlost : (run (renderedSession [Log.loadingBundle "t" 2] conflictBundle)
      (writeOutput "out" conflictingFiles true)).2.disk.at? ["work", "out", "old"] = none := by
    decide +kernel
  exact ⟨_, run_generateFiles_of_writeOutput hrender hwrite, hold, hlost⟩

end Session

end ApiStencil

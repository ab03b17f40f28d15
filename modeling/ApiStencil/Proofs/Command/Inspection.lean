import ApiStencil.Command.Inspect
import ApiStencil.Proofs.Command.Regeneration
import ApiStencil.Proofs.Command.Stored

/-!
# Inspecting and generating

An inspection shows what the templates of a run see. Both commands put their flags over the
configuration in their own way, since a run also needs an output directory and templates; but what
they expand depends only on the document, the words and the strictness, which are the same. So a run
fails as the inspection does, or it goes on with the API that the inspection shows.

## Main definitions

* `finishGeneration`: what a run does once its document is expanded
* `Session.EndsFor`: the ways in which that can end

## Main results

* `expandConfigured_congr`: what the expansion depends on
* `Session.endsFor_of_run`: how a run ends once its document is expanded
* `Session.run_generateFiles_of_inspectDocument`: how a run ends whose document is inspected
-/

namespace ApiStencil

section Configuration

variable {m : Type → Type} [Monad m] [MonadDisk m] [MonadLog m]

/-- The expansion depends on the document, the words and the strictness. -/
theorem expandConfigured_congr {c d : ProjectConfig} (hschema : c.schema = d.schema)
    (htypes : c.types = d.types) (hstrict : c.strict = d.strict) :
    (expandConfigured c : ExceptT Fault m SpelledApi) = expandConfigured d := by
  simp only [expandConfigured, readDocument, hschema, htypes, hstrict]

/-- What a run does once its document is expanded: it loads the templates, renders the files and
writes them. -/
def finishGeneration (config : ProjectConfig) (api : SpelledApi) (force : Bool)
    (ρ : Type := Bundle) [TemplateEngine ρ] : ExceptT Fault m String := do
  let bundle : ρ ← loadBundle config.templates
  let files ← replay (generate api bundle config.layout)
  writeOutput config.output files force
  report (Log.generationFinished files.length config.output)
  return "Generated " ++ toString files.length ++ " files in " ++ Text.quoted config.output ++ "\n"

theorem generateFiles_eq_finishGeneration (flags : Flags) (force : Bool) (ρ : Type)
    [TemplateEngine ρ] :
    (generateFiles flags force ρ : ExceptT Fault m String) = (do
      let config ← resolveConfig flags
      let api ← expandConfigured config
      finishGeneration config api force ρ) :=
  rfl

end Configuration

namespace Session

variable {ρ : Type} [TemplateEngine ρ] {session start last : Session} {flags : Flags}
  {config : ProjectConfig} {api : SpelledApi} {force : Bool}

/-- The ways in which a run can end once its document is expanded to some API. It fails for the
templates of its configuration, for a file that cannot be rendered, or at writing; or the files for
that API are on the disk, and the run says how many there are. -/
inductive EndsFor (ρ : Type) [TemplateEngine ρ] (config : ProjectConfig) (api : SpelledApi)
    (force : Bool) (start : Session) : Except Fault String → Session → Prop
  | templates {fault : Fault} {last : Session}
      (hload : start.run (loadBundle config.templates : ExceptT Fault (StateM Session) ρ) =
        (.error fault, last))
      (hlast : last.disk = start.disk) :
      EndsFor ρ config api force start (.error fault) last
  | rendering {bundle : ρ} {loaded last : Session} {fault : Fault}
      (hload : start.run (loadBundle config.templates) = (.ok bundle, loaded))
      (hrender : (generate api bundle config.layout).result = .error fault)
      (hlast : last.disk = start.disk) :
      EndsFor ρ config api force start (.error fault) last
  | writing {bundle : ρ} {loaded rendered last : Session} {files : List RenderedFile}
      {fault : Fault}
      (hload : start.run (loadBundle config.templates) = (.ok bundle, loaded))
      (hrender : (generate api bundle config.layout).result = .ok files)
      (hrendered : rendered.disk = start.disk)
      (hwrite : rendered.run (writeOutput config.output files force) = (.error fault, last)) :
      EndsFor ρ config api force start (.error fault) last
  | written {bundle : ρ} {loaded rendered written last : Session} {files : List RenderedFile}
      (hload : start.run (loadBundle config.templates) = (.ok bundle, loaded))
      (hrender : (generate api bundle config.layout).result = .ok files)
      (hrendered : rendered.disk = start.disk)
      (hwrite : rendered.run (writeOutput config.output files force) = (.ok (), written))
      (hlast : last.disk = written.disk)
      (hstores : start.disk.Stores config.output files last.disk) :
      EndsFor ρ config api force start
        (.ok ("Generated " ++ toString files.length ++ " files in " ++
          Text.quoted config.output ++ "\n")) last

/-- Once its document is expanded a run ends in one of these ways. -/
theorem endsFor_of_run {result : Except Fault String}
    (h : start.run (finishGeneration config api force ρ) = (result, last)) :
    EndsFor ρ config api force start result last := by
  have hreads : Respects Eq (loadBundle config.templates : ExceptT Fault (StateM Session) ρ) :=
    respects_loadBundle config.templates
  rw [finishGeneration, run_bind] at h
  rcases hload : start.run (loadBundle config.templates : ExceptT Fault (StateM Session) ρ) with
    ⟨fault | bundle, loaded⟩
  · rw [hload] at h
    cases h
    exact .templates hload (hreads.of_run hload).symm
  have hloaded : loaded.disk = start.disk := (hreads.of_run hload).symm
  simp only [hload, run_bind, run_replay] at h
  cases hrender : (generate api bundle config.layout).result with
  | error fault =>
    rw [hrender] at h
    cases h
    exact .rendering hload hrender hloaded
  | ok files =>
    rw [hrender] at h
    simp only at h
    generalize hrendered : ({ loaded with
      events := loaded.events ++ (generate api bundle config.layout).events } : Session) =
        rendered at h
    have hdisk : rendered.disk = start.disk := by rw [← hrendered, ← hloaded]
    rcases hwrite : rendered.run (writeOutput config.output files force) with
      ⟨fault | ⟨⟩, written⟩
    · rw [hwrite] at h
      cases h
      exact .writing hload hrender hdisk hwrite
    · have hstores : start.disk.Stores config.output files written.disk :=
        hdisk ▸ stores_writeOutput hwrite
      rw [hwrite] at h
      cases h
      exact .written hload hrender hdisk hwrite rfl hstores

/-! ## Configurations -/

theorem run_resolveConfig_of_load {loaded : Session} {result : Except Fault ProjectConfig}
    (hload : session.run (loadConfigOrDefault flags.config) = (result, loaded)) :
    session.run (resolveConfig flags) = (result.map (·.override flags), loaded) := by
  rw [resolveConfig, run_bind, hload]
  cases result <;> rfl

theorem run_inspectedConfig_of_load {loaded : Session} {result : Except Fault ProjectConfig}
    (hload : session.run (loadConfigOrDefault flags.config) = (result, loaded)) :
    session.run (inspectedConfig flags) = (result.map (·.overrideDocument flags), loaded) := by
  rw [inspectedConfig, run_bind, hload]
  cases result <;> rfl

/-! ## Both commands -/

/-- A run with the configuration, the document and the strictness of an inspection, and with any
directories, starts in the same way: both fail, or both have expanded the document to one API. -/
theorem run_inspectDocument_cases (ρ : Type) [TemplateEngine ρ] (session : Session)
    (flags : Flags) (output templates : Option String) (force : Bool) (format : DumpFormat) :
    (∃ fault last, session.run (inspectDocument flags format) = (.error fault, last) ∧
      session.run (generateFiles { flags with output, templates } force ρ) =
        (.error fault, last)) ∨
    ∃ config loaded api next,
      session.run (inspectedConfig flags) = (.ok config, loaded) ∧
      loaded.run (expandConfigured config) = (.ok api, next) ∧
      session.run (inspectDocument flags format) = (.ok (format.write api.dump), next) ∧
      session.run (generateFiles { flags with output, templates } force ρ) =
        next.run (finishGeneration
          { config with
            output := output.getD config.output
            templates := templates.getD config.templates } api force ρ) := by
  rcases hload : session.run (loadConfigOrDefault flags.config) with ⟨fault | c, loaded⟩
  all_goals
    have hinspected := run_inspectedConfig_of_load hload
    have hresolved := @run_resolveConfig_of_load _ { flags with output, templates } _ _ hload
  · refine .inl ⟨fault, loaded, ?_, ?_⟩
    · rw [inspectDocument, run_bind, hinspected]
      rfl
    · rw [generateFiles_eq_finishGeneration, run_bind, hresolved]
      rfl
  have hsame : (expandConfigured (c.override { flags with output, templates }) :
      ExceptT Fault (StateM Session) SpelledApi) = expandConfigured (c.overrideDocument flags) :=
    expandConfigured_congr rfl rfl rfl
  rcases hexpand : loaded.run (expandConfigured (c.overrideDocument flags)) with
    ⟨fault | api, next⟩
  · refine .inl ⟨fault, next, ?_, ?_⟩
    · rw [inspectDocument, run_bind, hinspected]
      simp only [Except.map, run_bind, hexpand]
    · rw [generateFiles_eq_finishGeneration, run_bind, hresolved]
      simp only [Except.map, run_bind, hsame, hexpand]
  · refine .inr ⟨c.overrideDocument flags, loaded, api, next, hinspected, hexpand, ?_, ?_⟩
    · rw [inspectDocument, run_bind, hinspected]
      simp only [Except.map, run_bind, hexpand]
      rfl
    · rw [generateFiles_eq_finishGeneration, run_bind, hresolved]
      simp only [Except.map, run_bind, hsame, hexpand]
      rfl

/-- An inspection only reads. -/
theorem respects_inspectDocument {R : Disk → Disk → Prop} [IsPreorder Disk R] (flags : Flags)
    (format : DumpFormat) :
    Respects R (inspectDocument flags format : ExceptT Fault (StateM Session) String) := by
  have hconfig : Respects R (inspectedConfig flags :
      ExceptT Fault (StateM Session) ProjectConfig) :=
    (respects_loadConfigOrDefault flags.config).bind fun _ => respects_pure _
  refine hconfig.bind fun config => ?_
  exact (respects_expandConfigured config).bind fun api => respects_pure _

/-- **Inspecting and generating.** Take an inspection, and a run with the same configuration,
document and strictness, with any other directories and any template engine, and with or without
force. If the inspection fails, the run fails with the same fault and leaves the disk as it was. If
the inspection succeeds, it shows an API; and the run goes on with that very API, the layout of the
same configuration and the same disk: it fails for its templates, for a file that cannot be rendered
or at writing, or the files for the API are on the disk. -/
theorem run_generateFiles_of_inspectDocument (ρ : Type) [TemplateEngine ρ] (session : Session)
    (flags : Flags) (output templates : Option String) (force : Bool) (format : DumpFormat) :
    (∀ fault next, session.run (inspectDocument flags format) = (.error fault, next) →
      ∃ last, session.run (generateFiles { flags with output, templates } force ρ) =
          (.error fault, last) ∧
        last.disk = session.disk) ∧
    ∀ text next, session.run (inspectDocument flags format) = (.ok text, next) →
      next.disk = session.disk ∧ ∃ config loaded api result last,
        session.run (inspectedConfig flags) = (.ok config, loaded) ∧
        loaded.run (expandConfigured config) = (.ok api, next) ∧
        text = format.write api.dump ∧
        session.run (generateFiles { flags with output, templates } force ρ) = (result, last) ∧
        EndsFor ρ
          { config with
            output := output.getD config.output
            templates := templates.getD config.templates } api force next result last := by
  have hreads : Respects Eq (inspectDocument flags format :
    ExceptT Fault (StateM Session) String) := respects_inspectDocument flags format
  rcases run_inspectDocument_cases ρ session flags output templates force format with
    ⟨fault, last, hinspect, hgenerate⟩ |
    ⟨config, loaded, api, next, hconfig, hexpand, hinspect, hgenerate⟩
  · rw [hinspect]
    refine ⟨?_, fun text next h => (by cases h)⟩
    rintro _ _ ⟨⟩
    exact ⟨last, hgenerate, (hreads.of_run hinspect).symm⟩
  · rw [hinspect]
    refine ⟨fun fault next h => (by cases h), ?_⟩
    rintro _ _ ⟨⟩
    rw [hgenerate]
    exact ⟨(hreads.of_run hinspect).symm, config, loaded, api, _, _, hconfig, hexpand, rfl, rfl,
      endsFor_of_run rfl⟩

/-- The flags of an inspection of the site. -/
def siteInspection (schema : String) : Flags where
  schema := some schema

theorem run_inspectedConfig_site (schema : String) :
    run ⟨siteDisk, []⟩ (inspectedConfig (siteInspection schema)) =
      (.ok (ProjectConfig.overrideDocument {} (siteInspection schema)), ⟨siteDisk, []⟩) := by
  have hload : run ⟨siteDisk, []⟩ (loadConfigOrDefault (siteInspection schema).config) =
      (.ok {}, ⟨siteDisk, []⟩) := by
    simp [loadConfigOrDefault, siteInspection, run_bind, run_kind?, holdsSite_siteDisk.noConfig]
  exact run_inspectedConfig_of_load hload

/-- Without its document the site is neither inspected nor generated. With it the inspection
succeeds, and once the run is over its file can be read. -/
theorem run_generateFiles_of_inspectDocument_site :
    (∃ last, run ⟨siteDisk, []⟩ (generateFiles (siteFlags "lost.yml" "out") true) =
        (.error (.workspace (.documentNotFound "lost.yml")), last) ∧
      last.disk = siteDisk) ∧
    ∃ text next last,
      run ⟨siteDisk, []⟩ (inspectDocument (siteInspection "api.yml") .json) = (.ok text, next) ∧
      run ⟨siteDisk, []⟩ (generateFiles (siteFlags "api.yml" "out") true) =
        (.ok "Generated 1 files in \"out\"\n", last) ∧
      siteDisk.Stores "out" siteFiles last.disk ∧
      last.disk.readText "out/readme" = .ok "1" := by
  constructor
  · have hlost : siteDisk.kind? "lost.yml" = none := by decide +kernel
    have hinspect : run ⟨siteDisk, []⟩ (inspectDocument (siteInspection "lost.yml") .json) =
        (.error (.workspace (.documentNotFound "lost.yml")), ⟨siteDisk, []⟩) := by
      have hschema : (ProjectConfig.overrideDocument {} (siteInspection "lost.yml")).schema =
          some "lost.yml" := rfl
      rw [inspectDocument, run_bind, run_inspectedConfig_site]
      simp only [expandConfigured, run_bind, run_readDocument_of_lost hschema hlost []]
    exact (run_generateFiles_of_inspectDocument Bundle ⟨siteDisk, []⟩ (siteInspection "lost.yml")
      (some "out") (some "t") true .json).1 _ _ hinspect
  · have hconfig := run_inspectedConfig_site "api.yml"
    have hexpand := @run_expandConfigured_title siteDisk
      (ProjectConfig.overrideDocument {} (siteInspection "api.yml")) "api.yml" rfl rfl rfl
      holdsSite_siteDisk.document.1 holdsSite_siteDisk.document.2
    have hinspect : run ⟨siteDisk, []⟩ (inspectDocument (siteInspection "api.yml") .json) =
        (.ok (DumpFormat.json.write titleApi.dump),
          ⟨siteDisk, (expandDocument {} false titleDocument).events⟩) := by
      rw [inspectDocument, run_bind, hconfig]
      simp only [run_bind, hexpand]
      rfl
    have hwritten : (run ⟨siteDisk, siteEvents⟩ (writeOutput "out" siteFiles true)).1 =
        .ok () := by decide +kernel
    obtain ⟨printed, done, hdone, -⟩ := exists_run_generateFiles_of_writeOutput
      (@run_renderFiles_site _ _ "out" holdsSite_siteDisk) hwritten
    obtain ⟨-, config, loaded, api, result, last, hconfig', hexpand', -, hrun, hends⟩ :=
      (run_generateFiles_of_inspectDocument Bundle ⟨siteDisk, []⟩ (siteInspection "api.yml")
        (some "out") (some "t") true .json).2 _ _ hinspect
    cases hconfig.symm.trans hconfig'
    cases hexpand.symm.trans hexpand'
    cases hdone.symm.trans hrun
    cases hends with
    | written hload hrender _ _ _ hstores =>
      cases (run_loadBundle_site holdsSite_siteDisk _).symm.trans hload
      cases result_generate_site.symm.trans hrender
      have htext : "Generated " ++ toString siteFiles.length ++ " files in " ++
          Text.quoted "out" ++ "\n" = "Generated 1 files in \"out\"\n" := by decide +kernel
      have hfile : (⟨"readme", "1"⟩ : RenderedFile) ∈ siteFiles := List.mem_singleton_self _
      have hpath : Path.join "out" "readme" = "out/readme" := by decide +kernel
      obtain ⟨location, file, -, hlast, hread⟩ := hstores.readText_eq_ok hfile
      obtain rfl := List.mem_singleton.mp (Disk.mem_of_lastFileAt? hlast)
      exact ⟨_, _, _, hinspect, htext ▸ hrun, hstores, hpath ▸ hread⟩

end Session

end ApiStencil

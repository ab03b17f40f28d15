import ApiStencil.Plan.Generation
import ApiStencil.Proofs.Plan.Contexts
import Mathlib

/-!
# The files of a plan

Whatever renders the templates, a run has a file for each template of the project, for each model
and for each group of endpoints, in this order, or it ends in the fault of the first file that
cannot be made.

## Main definitions

* `Makes`: the file that a renderer makes for a job

## Main results

* `result_generate_eq_ok_iff`: the files are those of the jobs, one for each
* `result_generate_eq_error_iff`, `events_generate_of_error`: where a run stops
* `generate_files`: the files of an API
-/

namespace ApiStencil

section Rendering

variable {ρ : Type} [Renderer ρ] {renderer : ρ} {job : RenderJob} {file : RenderedFile}

/-- A renderer makes a file for a job: under the path of the job, and with what the template gives
in its context. -/
structure Makes (renderer : ρ) (job : RenderJob) (file : RenderedFile) : Prop where
  path : file.path = job.output
  contents : Renderer.render renderer job.template job.context = .ok file.contents

/-! ## One job -/

theorem renderJob_eq (renderer : ρ) (job : RenderJob) :
    renderJob renderer job = ⟨[Log.rendering job],
      (Renderer.render renderer job.template job.context).map fun contents =>
        { path := job.output, contents }⟩ := by
  unfold renderJob
  rw [Traced.bind_of_ok _ rfl]
  cases hrender : Renderer.render renderer job.template job.context with
  | ok contents => rfl
  | error fault => rfl

theorem result_renderJob_eq_ok_iff :
    (renderJob renderer job).result = .ok file ↔ Makes renderer job file := by
  rw [renderJob_eq]
  constructor
  · intro h
    obtain ⟨contents, hcontents, rfl⟩ := Except.map_eq_ok_iff.mp h
    exact ⟨rfl, hcontents⟩
  · rintro ⟨hpath, hcontents⟩
    obtain ⟨path, contents⟩ := file
    obtain rfl : path = job.output := hpath
    exact Except.map_eq_ok_iff.mpr ⟨contents, hcontents, rfl⟩

theorem exists_result_renderJob_iff :
    (∃ file, (renderJob renderer job).result = .ok file) ↔
      ∃ contents, Renderer.render renderer job.template job.context = .ok contents := by
  simp only [result_renderJob_eq_ok_iff]
  constructor
  · rintro ⟨file, hfile⟩
    exact ⟨file.contents, hfile.contents⟩
  · rintro ⟨contents, hcontents⟩
    exact ⟨{ path := job.output, contents }, rfl, hcontents⟩

theorem result_renderJob_eq_error_iff {fault : Fault} :
    (renderJob renderer job).result = .error fault ↔
      Renderer.render renderer job.template job.context = .error fault := by
  rw [renderJob_eq]
  exact Except.map_eq_error_iff

/-! ## All jobs -/

section Generate

variable {api : SpelledApi} {layout : Layout}

theorem result_generate_eq_ok_iff {files : List RenderedFile} :
    (generate api renderer layout).result = .ok files ↔
      List.Forall₂ (Makes renderer)
        (plan api layout (Renderer.projectTemplates renderer layout.projectDir)) files := by
  rw [generate, Traced.result_mapM, Except.mapM_eq_ok_iff]
  simp only [result_renderJob_eq_ok_iff]

theorem exists_result_generate_iff :
    (∃ files, (generate api renderer layout).result = .ok files) ↔
      ∀ job ∈ plan api layout (Renderer.projectTemplates renderer layout.projectDir),
        ∃ contents, Renderer.render renderer job.template job.context = .ok contents := by
  rw [generate, Traced.result_mapM, Except.exists_mapM_eq_ok_iff]
  simp only [exists_result_renderJob_iff]

theorem result_generate_eq_error_iff {fault : Fault} :
    (generate api renderer layout).result = .error fault ↔
      ∃ before job after,
        plan api layout (Renderer.projectTemplates renderer layout.projectDir) =
          before ++ job :: after ∧
        (∀ earlier ∈ before, ∃ contents,
          Renderer.render renderer earlier.template earlier.context = .ok contents) ∧
        Renderer.render renderer job.template job.context = .error fault := by
  rw [generate, Traced.result_mapM, Except.mapM_eq_error_iff]
  simp only [exists_result_renderJob_iff, result_renderJob_eq_error_iff]

/-- The jobs after the one that a run fails at are not even started. -/
theorem events_generate_of_error {before after : List RenderJob} {fault : Fault}
    (hplan : plan api layout (Renderer.projectTemplates renderer layout.projectDir) =
      before ++ job :: after)
    (hbefore : ∀ earlier ∈ before, ∃ contents,
      Renderer.render renderer earlier.template earlier.context = .ok contents)
    (hjob : Renderer.render renderer job.template job.context = .error fault) :
    (generate api renderer layout).events = (before ++ [job]).map Log.rendering := by
  rw [generate, hplan, Traced.events_mapM_of_error
    (fun earlier hearlier => exists_result_renderJob_iff.mpr (hbefore earlier hearlier))
    (result_renderJob_eq_error_iff.mpr hjob)]
  simp only [renderJob_eq, ← List.map_eq_flatMap]

/-! ## The files of an API -/

/-- The files of a plan in three parts: those of the templates of the project, those of the models
and those of the groups. -/
theorem forall₂_makes_plan_iff {templates : List String} {files : List RenderedFile} :
    List.Forall₂ (Makes renderer) (plan api layout templates) files ↔
      ∃ project models groups, files = project ++ models ++ groups ∧
        List.Forall₂ (fun template => Makes renderer (projectJob api layout template))
          templates project ∧
        List.Forall₂ (fun model => Makes renderer (modelJob layout model)) api.models models ∧
        List.Forall₂ (fun group => Makes renderer (groupJob layout group)) api.groups groups := by
  simp only [plan, forall₂_append_iff, List.forall₂_map_left_iff]
  constructor
  · rintro ⟨_, groups, rfl, ⟨project, models, rfl, hproject, hmodels⟩, hgroups⟩
    exact ⟨project, models, groups, rfl, hproject, hmodels, hgroups⟩
  · rintro ⟨project, models, groups, rfl, hproject, hmodels, hgroups⟩
    exact ⟨project ++ models, groups, rfl, ⟨project, models, rfl, hproject, hmodels⟩, hgroups⟩

/-- **The files of an API.** A run has files exactly when the renderer has a text for every job of
the plan. These are, one for each and in this order: the files of the templates of the project,
those of the models, each by the template of its kind, and those of the groups. The templates of the
project all see one value, which shows the whole API with the names of its models and groups in
their order; the template of a model sees what shows that model, and that of a group what shows that
group. Otherwise there are no files, and the run ends in the fault of the first job that there is no
text for. The jobs after it are not started, whatever they are. -/
theorem generate_files (api : SpelledApi) (renderer : ρ) (layout : Layout) :
    ((∃ files, (generate api renderer layout).result = .ok files) ↔
      ∀ job ∈ plan api layout (Renderer.projectTemplates renderer layout.projectDir),
        ∃ contents, Renderer.render renderer job.template job.context = .ok contents) ∧
    (api.ShownBy (projectContext api) ∧
      (projectContext api).get? "models" = some (.texts (api.models.map (·.name))) ∧
      (projectContext api).get? "groups" = some (.texts (api.groups.map (·.name))) ∧
      (∀ model ∈ api.models, model.ShownBy model.context) ∧
      (∀ group ∈ api.groups, group.ShownBy group.dump) ∧
      ∀ files, (generate api renderer layout).result = .ok files ↔
        ∃ project models groups, files = project ++ models ++ groups ∧
          List.Forall₂ (fun template => Makes renderer
              { template
                output := projectOutput layout.projectDir template
                context := projectContext api })
            (Renderer.projectTemplates renderer layout.projectDir) project ∧
          List.Forall₂ (fun model => Makes renderer
              { template := match model with
                  | .object _ => layout.objectTemplate
                  | .enum _ => layout.enumTemplate
                output := sourceOutput layout layout.modelsDir model.name
                context := model.context })
            api.models models ∧
          List.Forall₂ (fun group => Makes renderer
              { template := layout.endpointsTemplate
                output := sourceOutput layout layout.endpointsDir group.name
                context := group.dump })
            api.groups groups) ∧
    ∀ fault, (generate api renderer layout).result = .error fault ↔
      ∃ before job after,
        plan api layout (Renderer.projectTemplates renderer layout.projectDir) =
          before ++ job :: after ∧
        (∀ earlier ∈ before, ∃ contents,
          Renderer.render renderer earlier.template earlier.context = .ok contents) ∧
        Renderer.render renderer job.template job.context = .error fault ∧
        (generate api renderer layout).events = (before ++ [job]).map Log.rendering := by
  refine ⟨exists_result_generate_iff, ⟨shownBy_projectContext api, rfl, rfl,
    fun model _ => model.shownBy_context, fun group _ => group.shownBy_dump, fun files => ?_⟩,
    fun fault => ?_⟩
  · rw [result_generate_eq_ok_iff, forall₂_makes_plan_iff]
    rfl
  · rw [result_generate_eq_error_iff]
    constructor
    · rintro ⟨before, job, after, hplan, hbefore, hjob⟩
      have hevents := events_generate_of_error hplan hbefore hjob
      exact ⟨before, job, after, hplan, hbefore, hjob, hevents⟩
    · rintro ⟨before, job, after, hplan, hbefore, hjob, -⟩
      exact ⟨before, job, after, hplan, hbefore, hjob⟩

end Generate

end Rendering

/-- A record with one property. -/
def petModel : Model String :=
  .object { name := "Pet", description := missingDescription, nestedEnums := []
            properties := [{ name := "kind", type := "Kind", isOptional := false
                             description := missingDescription }] }

/-- An enum with one case. -/
def kindModel : Model String :=
  .enum { name := "Kind", description := missingDescription, rawType := "String"
          cases := [{ name := "cat", description := missingDescription }] }

/-- An API with a record, an enum and a group. -/
def shopApi : SpelledApi where
  info := { title := "shop", version := "1" }
  servers := []
  models := [petModel, kindModel]
  groups := [{ name := "Pets", path := "/pets", endpoints := [] }]

/-- A bundle whose templates give one member of what they see, and that has no template for the
groups. -/
def shopBundle : Bundle where
  templates := Dict.ofList [
    ("project/readme.tera", [.output (.path ["name"])]),
    ("object.tera", [.output (.path ["init"])]),
    ("enum.tera", [.output (.path ["raw_type"])])]

theorem Bundle.render_of_get? {bundle : Bundle} {name text : String} {context : Json}
    {parts : List Template.Part} (hparts : bundle.templates.get? name = some parts)
    (htext : Template.render? parts context = some text) :
    Renderer.render bundle name context = .ok text := by
  have hrender : TemplateEngine.render bundle name context = some text := by
    change (bundle.templates.get? name).bind (Template.render? · context) = some text
    rw [hparts, Option.bind_some, htext]
  exact TemplateEngine.renderIn_of_render hrender

/-- What the templates make of the API. -/
theorem render_shop :
    (∀ groups, Renderer.render shopBundle "project/readme.tera"
        (projectContext { shopApi with groups }) = .ok "Shop") ∧
      Makes shopBundle (modelJob {} petModel) ⟨"src/models/Pet.rs", "kind: Kind"⟩ ∧
      Makes shopBundle (modelJob {} kindModel) ⟨"src/models/Kind.rs", "String"⟩ ∧
      ∀ context, Renderer.render shopBundle "endpoints.tera" context =
        .error (.template "endpoints.tera") := by
  have hreadme : ∀ groups, Template.render? [.output (.path ["name"])]
      (projectContext { shopApi with groups }) = some "Shop" := fun groups => by cbv
  have hpet : Template.render? [.output (.path ["init"])] petModel.context =
      some "kind: Kind" := by cbv
  have hkind : Template.render? [.output (.path ["raw_type"])] kindModel.context =
      some "String" := by cbv
  exact ⟨fun groups => Bundle.render_of_get? rfl (hreadme groups),
    ⟨by decide +kernel, Bundle.render_of_get? rfl hpet⟩,
    ⟨by decide +kernel, Bundle.render_of_get? rfl hkind⟩, fun context => rfl⟩

/-- The files of the project and of the models, and the fault of the group that there is no template
for. -/
theorem generate_files_shop :
    (generate { shopApi with groups := [] } shopBundle {}).result =
        .ok [⟨"readme", "Shop"⟩, ⟨"src/models/Pet.rs", "kind: Kind"⟩,
          ⟨"src/models/Kind.rs", "String"⟩] ∧
      (generate shopApi shopBundle {}).result = .error (.template "endpoints.tera") := by
  obtain ⟨hreadme, hpet, hkind, hgroup⟩ := render_shop
  have hkeys : (shopBundle.templates.keys.filter fun name =>
      (TemplateEngine.directoryStart "project").isPrefixOf name.toList) =
        ["project/readme.tera"] := by decide +kernel
  have hproject : Renderer.projectTemplates shopBundle "project" = ["project/readme.tera"] := by
    change shopBundle.projectTemplates "project" = _
    rw [Bundle.projectTemplates_eq, hkeys, List.mergeSort_singleton]
  constructor
  · obtain ⟨-, ⟨-, -, -, -, -, hfiles⟩, -⟩ :=
      generate_files { shopApi with groups := [] } shopBundle {}
    refine (hfiles _).mpr ⟨[⟨"readme", "Shop"⟩], _, [], rfl, ?_, .cons hpet (.cons hkind .nil),
      .nil⟩
    rw [hproject]
    exact .cons ⟨by decide +kernel, hreadme []⟩ .nil
  · obtain ⟨-, -, hfault⟩ := generate_files shopApi shopBundle {}
    have hplan : plan shopApi {} (Renderer.projectTemplates shopBundle "project") =
        projectJob shopApi {} "project/readme.tera" :: shopApi.models.map (modelJob {}) ++
          shopApi.groups.map (groupJob {}) := by
      rw [hproject]
      rfl
    have hbefore : ∀ job ∈
        projectJob shopApi {} "project/readme.tera" :: shopApi.models.map (modelJob {}),
        ∃ contents, Renderer.render shopBundle job.template job.context = .ok contents := by
      simp only [shopApi, List.map_cons, List.map_nil, List.forall_mem_cons]
      exact ⟨⟨_, hreadme _⟩, ⟨_, hpet.2⟩, ⟨_, hkind.2⟩, by simp⟩
    exact (hfault _).mpr ⟨_, _, [], hplan, hbefore, hgroup _,
      events_generate_of_error hplan hbefore (hgroup _)⟩

end ApiStencil

import ApiStencil.Plan.Basic
import ApiStencil.Template.Bundle
import ApiStencil.Trace

/-!
# Generation

The files of a run: every job of the plan is rendered in turn, and the first one that fails stops
the run. Anything that renders templates by their names will do; a run has a template engine for it.

## Main definitions

* `RenderedFile` - a file with its contents.
* `Renderer` - what renders templates by their names.
* `generate` - the files for an API.
-/

namespace ApiStencil

/-- A file that has been made. -/
structure RenderedFile where
  /-- The path of the file below the output directory. -/
  path : String
  contents : String
  deriving DecidableEq, Repr

/-- What renders templates by their names, and knows which of them belong to the project. -/
class Renderer (ρ : Type) where
  /-- The text of a template in a context. -/
  render (renderer : ρ) (template : String) (context : Json) : Except Fault String
  /-- The names of the templates in the directory of the project. -/
  projectTemplates (renderer : ρ) (dir : String) : List String

instance {ρ : Type} [TemplateEngine ρ] : Renderer ρ where
  render := TemplateEngine.renderIn
  projectTemplates := TemplateEngine.projectTemplates

namespace Log

/-- A job that is about to be done. -/
def rendering (job : RenderJob) : Event where
  level := .debug
  target := "tamplier_core::codegen"
  message := "rendering"
  fields := [("template", job.template), ("output", Text.quoted job.output)]

end Log

section Rendering

variable {ρ : Type} [Renderer ρ]

/-- The file of a job. -/
def renderJob (renderer : ρ) (job : RenderJob) : Traced RenderedFile := do
  Traced.report (Log.rendering job)
  let contents ← Traced.ofExcept (Renderer.render renderer job.template job.context)
  return { path := job.output, contents }

/-- The files for an API. -/
def generate (api : SpelledApi) (renderer : ρ) (layout : Layout) : Traced (List RenderedFile) :=
  (plan api layout (Renderer.projectTemplates renderer layout.projectDir)).mapM
    (renderJob renderer)

end Rendering

theorem generate_bundle (api : SpelledApi) (bundle : Bundle) (layout : Layout) :
    generate api bundle layout =
      (plan api layout (bundle.projectTemplates layout.projectDir)).mapM (renderJob bundle) :=
  rfl

end ApiStencil

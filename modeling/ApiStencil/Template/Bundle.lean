import ApiStencil.Dict
import ApiStencil.Template.Engine
import ApiStencil.Template.Parts
import ApiStencil.Template.Render

/-!
# Bundles

The templates of a run by their names, for a small engine: it knows outputs with a few filters,
choices and repetitions, and it loads nothing else.

## Main definitions

* `Bundle` - templates by name, an instance of `TemplateEngine`.
* `Bundle.ofSources` - the bundle of some sources. Every one must be well formed.
* `Bundle.render` - the text of a template in a context.
* `Bundle.projectTemplates` - the names in the directory of the project.
-/

namespace ApiStencil

/-- Templates by name. -/
structure Bundle where
  templates : Dict String (List Template.Part) := Dict.empty

namespace Bundle

/-- A source with its parts in place of its text. -/
def parse? (source : String × String) : Option (String × List Template.Part) :=
  (Template.parts? source.2).map fun parts => (source.1, parts)

/-- Of sources with one name the last counts, though every one must be well formed. -/
instance : TemplateEngine Bundle where
  load sources := (sources.mapM parse?).map fun parsed => { templates := Dict.ofList parsed }
  names bundle := bundle.templates.keys
  render bundle name context :=
    (bundle.templates.get? name).bind (Template.render? · context)

/-- The bundle of some sources, which goes by the name `origin` in a fault. -/
def ofSources (origin : String) (sources : List (String × String)) : Except Fault Bundle :=
  TemplateEngine.loadAll origin sources

/-- The text of a template in a context. -/
def render (bundle : Bundle) (name : String) (context : Json) : Except Fault String :=
  TemplateEngine.renderIn bundle name context

/-- The names of the templates below a directory, sorted. -/
def projectTemplates (bundle : Bundle) (dir : String) : List String :=
  TemplateEngine.projectTemplates bundle dir

theorem projectTemplates_eq (bundle : Bundle) (dir : String) :
    bundle.projectTemplates dir = (bundle.templates.keys.filter fun name =>
      (TemplateEngine.directoryStart dir).isPrefixOf name.toList).mergeSort fun a b => a ≤ b :=
  rfl

end Bundle

end ApiStencil

import ApiStencil.Fault
import ApiStencil.Json.Basic
import ApiStencil.Text.Split

/-!
# Template engines

Templates are written for an engine, which knows what their text means. A run asks three things of
it: to load templates, to name them, and to render one of them in a context. What can stand in a
template is left to the engine.

## Main definitions

* `TemplateEngine` - loads and renders templates.
* `TemplateEngine.loadAll`, `TemplateEngine.renderIn` - the same, with a fault for a failure.
* `TemplateEngine.projectTemplates` - the names in the directory of the project.
-/

namespace ApiStencil

/-- An engine for templates. Its answers depend on what it is given and on nothing else. -/
class TemplateEngine (ρ : Type) where
  /-- Loads templates from their names and sources, if all of them are well formed. -/
  load (sources : List (String × String)) : Option ρ
  /-- The names of the templates, in any order. -/
  names (templates : ρ) : List String
  /-- The text of a template in a context, if there is such a template and it can be rendered. -/
  render (templates : ρ) (name : String) (context : Json) : Option String

namespace TemplateEngine

variable {ρ : Type} [TemplateEngine ρ]

/-- Loads templates, which go by the name `origin` in a fault. -/
def loadAll (origin : String) (sources : List (String × String)) : Except Fault ρ :=
  match load sources with
  | some templates => .ok templates
  | none => .error (.template origin)

/-- The text of a template in a context. -/
def renderIn (templates : ρ) (name : String) (context : Json) : Except Fault String :=
  match render templates name context with
  | some text => .ok text
  | none => .error (.template name)

theorem renderIn_of_render {templates : ρ} {name text : String} {context : Json}
    (h : render templates name context = some text) :
    renderIn templates name context = .ok text := by
  rw [renderIn, h]

/-- A directory without the slashes at its end, and one slash after it. -/
def directoryStart (dir : String) : List Char :=
  Text.dropWhileEnd (· = '/') dir.toList ++ ['/']

/-- The names of the templates below a directory, sorted. -/
def projectTemplates (templates : ρ) (dir : String) : List String :=
  ((names templates).filter fun name => (directoryStart dir).isPrefixOf name.toList).mergeSort
    fun a b => a ≤ b

end TemplateEngine

end ApiStencil

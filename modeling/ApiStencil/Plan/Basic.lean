import ApiStencil.Api.Dump
import ApiStencil.Disk.Path
import ApiStencil.Naming
import ApiStencil.Plan.Layout

/-!
# Plans

A plan says which template makes which file, and what it sees. It has a job for each template of the
project, for each model and for each group of endpoints, in this order.

## Main definitions

* `RenderJob` - a template, its output and its context.
* `projectContext` - what the templates of the project see.
* `projectOutput` - the file that a template of the project makes.
* `plan` - the jobs for an API.
-/

namespace ApiStencil

/-- One file to be made. -/
structure RenderJob where
  template : String
  /-- The path of the file below the output directory. -/
  output : String
  context : Json

/-- What the templates of the project see. -/
def projectContext (api : SpelledApi) : Json :=
  .object [("name", .text (capitalize api.info.title)), ("title", .text api.info.title),
    ("description", .text (api.info.description.getD "")), ("version", .text api.info.version),
    ("servers", .array (api.servers.map (·.dump))),
    ("models", .texts (api.models.map (·.name))), ("groups", .texts (api.groups.map (·.name)))]

/-- The ending of the names of templates, which their output lacks. -/
def templateEnding : List Char := ['.', 't', 'e', 'r', 'a']

/-- The path of a template below the directory of the project, or its name if it lies elsewhere. -/
def projectRelative (projectDir template : List Char) : List Char :=
  match projectDir.isPrefixOf? template with
  | some rest => rest.dropWhile (· = '/')
  | none => template

/-- The file that a template of the project makes. -/
def projectOutput (projectDir template : String) : String :=
  String.ofList
    (Text.dropEnding templateEnding (projectRelative projectDir.toList template.toList))

/-- The file of a model or group in a directory. -/
def sourceOutput (layout : Layout) (dir name : String) : String :=
  Path.join dir (name ++ "." ++ layout.extension)

/-- The job of a template of the project. -/
def projectJob (api : SpelledApi) (layout : Layout) (template : String) : RenderJob where
  template
  output := projectOutput layout.projectDir template
  context := projectContext api

/-- The template for a kind of models. -/
def Layout.modelTemplate (layout : Layout) : Model String → String
  | .object _ => layout.objectTemplate
  | .enum _ => layout.enumTemplate

/-- The job of a model. -/
def modelJob (layout : Layout) (model : Model String) : RenderJob where
  template := layout.modelTemplate model
  output := sourceOutput layout layout.modelsDir model.name
  context := model.context

/-- The job of a group of endpoints. -/
def groupJob (layout : Layout) (group : EndpointGroup String String) : RenderJob where
  template := layout.endpointsTemplate
  output := sourceOutput layout layout.endpointsDir group.name
  context := group.dump

/-- The jobs for an API. -/
def plan (api : SpelledApi) (layout : Layout) (projectTemplates : List String) :
    List RenderJob :=
  projectTemplates.map (projectJob api layout) ++ api.models.map (modelJob layout) ++
    api.groups.map (groupJob layout)

end ApiStencil

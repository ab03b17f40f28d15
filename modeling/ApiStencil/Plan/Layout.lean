import ApiStencil.Decoding.Reader
import ApiStencil.Json.Basic

/-!
# Layouts

Where the templates of a run are found in a bundle, and where their output goes.

## Main definitions

* `Layout` - names of templates and of output directories.
* `Layout.read` - reads a layout. What is left out keeps its default.
* `Layout.dump` - shows a layout.
-/

namespace ApiStencil

/-- Names of templates and of output directories. -/
structure Layout where
  /-- The template of each record. -/
  objectTemplate : String := "object.tera"
  /-- The template of each enum. -/
  enumTemplate : String := "enum.tera"
  /-- The template of each group of endpoints. -/
  endpointsTemplate : String := "endpoints.tera"
  /-- The directory of the templates that are rendered once each. -/
  projectDir : String := "project"
  modelsDir : String := "src/models"
  endpointsDir : String := "src/endpoints"
  /-- The extension of the files of models and groups. -/
  extension : String := "rs"
  deriving DecidableEq, Repr, Inhabited

variable {σ : Type} [ScalarForm σ]

/-- Reads a layout. -/
def Layout.read : Reader σ Layout :=
  readRecord "OutputLayout" [
    .optional "object_template" readText fun l objectTemplate => { l with objectTemplate },
    .optional "enum_template" readText fun l enumTemplate => { l with enumTemplate },
    .optional "endpoints_template" readText fun l endpointsTemplate =>
      { l with endpointsTemplate },
    .optional "project_dir" readText fun l projectDir => { l with projectDir },
    .optional "models_dir" readText fun l modelsDir => { l with modelsDir },
    .optional "endpoints_dir" readText fun l endpointsDir => { l with endpointsDir },
    .optional "extension" readText fun l extension => { l with extension }] {}

/-- The dump of a layout. -/
def Layout.dump (l : Layout) : Json :=
  .object [("object_template", .text l.objectTemplate), ("enum_template", .text l.enumTemplate),
    ("endpoints_template", .text l.endpointsTemplate), ("project_dir", .text l.projectDir),
    ("models_dir", .text l.modelsDir), ("endpoints_dir", .text l.endpointsDir),
    ("extension", .text l.extension)]

end ApiStencil

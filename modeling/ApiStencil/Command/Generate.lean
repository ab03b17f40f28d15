import ApiStencil.Api.Expansion
import ApiStencil.Command.Config
import ApiStencil.Command.Output
import ApiStencil.Yaml.Reader

/-!
# The command `generate`

A document is expanded, the templates of a directory are rendered for it, and the files are written
to the output directory. Nothing is written before every template has been rendered. The command
goes with any template engine, of which its last argument is the type.

## Main definitions

* `expandConfigured` - the API of the document that a configuration names.
* `loadBundle` - the templates of a directory.
* `generateFiles` - the whole command.
-/

namespace ApiStencil

namespace Log

/-- The templates of a directory that are about to be loaded. -/
def loadingBundle (dir : String) (count : Nat) : Event where
  level := .debug
  target := "tamplier_core::codegen"
  message := "loading template bundle"
  fields := [("dir", Text.quoted dir), ("templates", toString count)]

/-- A run whose files have all been written. -/
def generationFinished (count : Nat) (output : String) : Event where
  level := .info
  target := generation
  message := "generation finished"
  fields := [("files", toString count), ("output", Text.quoted output)]

end Log

variable {m : Type → Type} [Monad m] [MonadDisk m] [MonadLog m]

/-- The API of the document that a configuration names. -/
def expandConfigured (config : ProjectConfig) : ExceptT Fault m SpelledApi := do
  let text ← readDocument config
  let document ← liftExcept (Document.ofYaml text)
  replay (expandDocument config.types config.strict document)

/-- The name of a template and its source. -/
def readTemplate (dir name : String) : ExceptT Fault m (String × String) := do
  return (name, ← orFail (fun _ => .template dir) (← readText (Path.join dir name)))

/-- The templates of a directory, which go by their paths below it. -/
def loadBundle {ρ : Type} [TemplateEngine ρ] (dir : String) : ExceptT Fault m ρ := do
  if !(← isDirectory dir) then throw (.workspace (.noTemplateDirectory dir))
  let names ← filesBelow dir
  report (Log.loadingBundle dir names.length)
  let sources ← names.mapM (readTemplate dir)
  liftExcept (TemplateEngine.loadAll dir sources)

/-- Writes the files for a document and says how many there are. -/
def generateFiles (flags : Flags) (force : Bool) (ρ : Type := Bundle) [TemplateEngine ρ] :
    ExceptT Fault m String := do
  let config ← resolveConfig flags
  let api ← expandConfigured config
  let bundle : ρ ← loadBundle config.templates
  -- Up to here nothing is written.
  let files ← replay (generate api bundle config.layout)
  writeOutput config.output files force
  report (Log.generationFinished files.length config.output)
  return "Generated " ++ toString files.length ++ " files in " ++ Text.quoted config.output ++ "\n"

end ApiStencil

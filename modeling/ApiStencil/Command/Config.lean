import ApiStencil.Disk.Access
import ApiStencil.Json.Reader
import ApiStencil.Plan.Layout
import ApiStencil.Typing.Shape

/-!
# Configurations

What a command works with. A configuration comes from a file, if there is one, or from the defaults;
flags of the command line override parts of it. Paths in a file count from the directory of the
file, and paths in flags from the working directory.

## Main definitions

* `ProjectConfig` - paths, strictness, words and layout of a run.
* `loadConfig` - the configuration of a file.
* `resolveConfig` - the configuration of a command with its flags.
* `readDocument` - the text of the document that a configuration names.
-/

namespace ApiStencil

/-- Paths, strictness, words and layout of a run. -/
structure ProjectConfig where
  /-- The document, which has no default. -/
  schema : Option String := none
  /-- The directory that the files go to. -/
  output : String := "Generated"
  /-- The directory of the templates. -/
  templates : String := ".templates"
  /-- Whether a property without a type is a fault. -/
  strict : Bool := false
  types : Vocabulary := {}
  layout : Layout := {}
  deriving DecidableEq, Repr

namespace ProjectConfig

/-- Reads a path. -/
def readPath {σ : Type} [ScalarForm σ] : Reader σ String := readTextAs "path string"

/-- The field of the document, which goes by two names. -/
def schemaField {σ : Type} [ScalarForm σ] : Field σ ProjectConfig :=
  { Field.optional "schema" (readOptional readPath)
      fun (c : ProjectConfig) schema => { c with schema } with
    otherName := some "yml" }

/-- Reads a configuration. What is left out keeps its default. -/
def read {σ : Type} [ScalarForm σ] : Reader σ ProjectConfig :=
  readRecord "ProjectConfig" [
    schemaField,
    .optional "output" readPath fun c output => { c with output },
    .optional "templates" readPath fun c templates => { c with templates },
    .optional "strict" readFlag fun c strict => { c with strict },
    .optional "types" Vocabulary.read fun c types => { c with types },
    .optional "layout" Layout.read fun c layout => { c with layout }] {}

/-- The dump of a configuration. -/
def dump (c : ProjectConfig) : Json :=
  .object [("schema", .ofText? c.schema), ("output", .text c.output),
    ("templates", .text c.templates), ("strict", .flag c.strict), ("types", c.types.dump),
    ("layout", c.layout.dump)]

/-- The configuration with its relative paths taken from a directory. -/
def rebase (base : String) (c : ProjectConfig) : ProjectConfig :=
  { c with
    schema := c.schema.map (Path.join base)
    output := Path.join base c.output
    templates := Path.join base c.templates }

end ProjectConfig

/-- The file that a configuration comes from if no other is given. -/
def defaultConfigPath : String := "tamplier.json"

/-- The flags that override a configuration. -/
structure Flags where
  /-- The file that the configuration comes from. -/
  config : Option String := none
  schema : Option String := none
  output : Option String := none
  templates : Option String := none
  strict : Bool := false
  deriving DecidableEq, Repr

/-- A configuration with the flags of a command over it. -/
def ProjectConfig.override (c : ProjectConfig) (flags : Flags) : ProjectConfig :=
  { c with
    schema := flags.schema <|> c.schema
    output := flags.output.getD c.output
    templates := flags.templates.getD c.templates
    strict := c.strict || flags.strict }

namespace Log

/-- A configuration that has been loaded. -/
def loadedConfig (path : String) : Event where
  level := .debug
  target := "tamplier::config"
  message := "loaded project configuration"
  fields := [("path", Text.quoted path)]

end Log

variable {m : Type → Type} [Monad m] [MonadDisk m]

section Loading

variable [MonadLog m]

/-- The configuration of a file. -/
def loadConfig (path : String) : ExceptT Fault m ProjectConfig := do
  let text ← orFail (.workspace <| .unreadableConfig path ·) (← readText path)
  let config ← liftExcept ((Json.decode ProjectConfig.read text).mapError Fault.json)
  report (Log.loadedConfig path)
  return config.rebase ((Path.parent? path).getD "")

/-- The configuration of the given file, or of the file in the default place, or the default. -/
def loadConfigOrDefault (path : Option String) : ExceptT Fault m ProjectConfig := do
  match path with
  | some path => loadConfig path
  | none =>
    if (← kind? defaultConfigPath) = some .file then loadConfig defaultConfigPath
    else return {}

/-- The configuration of a command with its flags. -/
def resolveConfig (flags : Flags) : ExceptT Fault m ProjectConfig := do
  return (← loadConfigOrDefault flags.config).override flags

end Loading

/-- The text of the document that a configuration names. -/
def readDocument (config : ProjectConfig) : ExceptT Fault m String := do
  match config.schema with
  | none => throw (.workspace .noDocument)
  | some path =>
    if (← kind? path).isNone then throw (.workspace (.documentNotFound path))
    orFail (.workspace <| .unreadableDocument ·) (← readText path)

end ApiStencil

import ApiStencil.Command.Generate
import ApiStencil.Json.Printer
import ApiStencil.Yaml.Printer

/-!
# The command `inspect`

A document is expanded and shown as the templates see it.

## Main definitions

* `DumpFormat` - the notation of a dump.
* `inspectedConfig` - the configuration of an inspection with its flags.
* `inspectDocument` - the whole command.
-/

namespace ApiStencil

/-- The notation of a dump. -/
inductive DumpFormat where
  | yaml
  | json
  deriving DecidableEq, Repr

/-- The text of a value in a notation. -/
def DumpFormat.write : DumpFormat → Json → String
  | yaml, value => value.toYaml
  | json, value => value.pretty

/-- A configuration with the flags of an inspection over it. No templates are read and nothing is
written, so only the document and the strictness count. -/
def ProjectConfig.overrideDocument (c : ProjectConfig) (flags : Flags) : ProjectConfig :=
  { c with
    schema := flags.schema <|> c.schema
    strict := c.strict || flags.strict }

variable {m : Type → Type} [Monad m] [MonadDisk m] [MonadLog m]

/-- The configuration of an inspection with its flags. -/
def inspectedConfig (flags : Flags) : ExceptT Fault m ProjectConfig := do
  return (← loadConfigOrDefault flags.config).overrideDocument flags

/-- The dump of the document that the flags or the configuration name. -/
def inspectDocument (flags : Flags) (format : DumpFormat) : ExceptT Fault m String := do
  let api ← expandConfigured (← inspectedConfig flags)
  return format.write api.dump

end ApiStencil

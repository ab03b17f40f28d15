import ApiStencil.Command.Arguments

/-!
# Runs

What comes of a command line: the text that is printed, the fault that ends the run, and the exit
code.

## Main definitions

* `Outcome` - what comes of a run.
* `Command.execute` - does what a command says.
* `Invocation.run` - does what a command line asks for.
-/

namespace ApiStencil

/-- What comes of a run. -/
structure Outcome where
  /-- The text that is printed. -/
  printed : String := ""
  /-- The fault that ended the run. -/
  fault : Option Fault := none
  exitCode : UInt32 := 0
  deriving DecidableEq, Repr

/-- The exit code after a fault. -/
def faultCode : UInt32 := 1

/-- The exit code after a command line that makes no sense. -/
def misuseCode : UInt32 := 2

/-- The text that names the program and its version. -/
def versionText : String := "tamplier-cli 0.1.0\n"

variable {m : Type → Type} [Monad m] [MonadDisk m] [MonadLog m]

/-- Does what a command says. The answer is the text to print. -/
def Command.execute (command : Command) (ρ : Type := Bundle) [TemplateEngine ρ] :
    ExceptT Fault m String := do
  match command with
  | generate flags force => generateFiles flags force ρ
  | inspect flags format => return (← inspectDocument flags format) ++ "\n"

/-- What comes of a command. -/
def Outcome.ofResult : Except Fault String → Outcome
  | .ok printed => { printed }
  | .error fault => { fault, exitCode := faultCode }

/-- Does what a command line asks for. -/
def Invocation.run (invocation : Invocation) (ρ : Type := Bundle) [TemplateEngine ρ] :
    m Outcome := do
  match invocation with
  | command _ asked => return Outcome.ofResult (← (asked.execute ρ).run)
  | help => return {}
  | version => return { printed := versionText }
  | misuse => return { exitCode := misuseCode }

end ApiStencil

import ApiStencil.Command.Inspect

/-!
# Command lines

What a program is asked to do. An option that takes a value has it in the next argument or after an
equals sign, and none may be given twice, other than the one that makes a run more verbose.

## Main definitions

* `Command` - a command with its options.
* `Invocation` - what a command line asks for.
* `Invocation.parse` - reads a command line.
-/

namespace ApiStencil

/-- A command with its options. -/
inductive Command where
  | generate (flags : Flags) (force : Bool)
  | inspect (flags : Flags) (format : DumpFormat)
  deriving DecidableEq, Repr

/-- What a command line asks for. -/
inductive Invocation where
  | command (verbosity : Nat) (command : Command)
  | help
  | version
  /-- The command line makes no sense. -/
  | misuse
  deriving DecidableEq, Repr

namespace Invocation

/-- The kinds of arguments, by their form. -/
inductive ArgumentForm where
  /-- A name after two dashes, and what follows an equals sign. -/
  | long (name : String) (value : Option String)
  /-- Letters after one dash. -/
  | short (letters : List Char)
  | word
  deriving DecidableEq, Repr

/-- The form of an argument. -/
def formOf (argument : String) : ArgumentForm :=
  match argument.toList with
  | '-' :: '-' :: rest =>
    let name := rest.takeWhile (· != '=')
    let value := match rest.drop name.length with
      | [] => none
      | _ :: value => some (String.ofList value)
    .long (String.ofList name) value
  | '-' :: c :: rest => .short (c :: rest)
  | _ => .word

/-- What the arguments of a command have given so far. -/
structure Given where
  flags : Flags := {}
  force : Bool := false
  format : Option DumpFormat := none
  verbosity : Nat := 0

/-- What an option does with what has been given. Nothing comes of an option that is out of
place. -/
inductive Switch where
  | flag (set : Given → Option Given)
  | value (set : Given → String → Option Given)

/-- A flag that has not been given yet. -/
def raise (old : Bool) (put : Bool → Given) : Option Given :=
  if old then none else some (put true)

/-- A value that has not been given yet. -/
def fill {α : Type} (old : Option α) (new : Option α) (put : Option α → Given) : Option Given :=
  match old, new with
  | none, some value => some (put (some value))
  | _, _ => none

/-- The path in an argument, which is not empty. -/
def path? (value : String) : Option String := if value = "" then none else some value

/-- The format with a name. -/
def format? (value : String) : Option DumpFormat :=
  if value = "yaml" then some .yaml else if value = "json" then some .json else none

/-- The options that every command has. -/
def commonSwitch? (name : String) : Option Switch :=
  match name with
  | "config" => some <| .value fun g s =>
    fill g.flags.config (path? s) fun config => { g with flags.config := config }
  | "schema" => some <| .value fun g s =>
    fill g.flags.schema (path? s) fun schema => { g with flags.schema := schema }
  | "strict" => some <| .flag fun g =>
    raise g.flags.strict fun strict => { g with flags.strict := strict }
  | "verbose" => some <| .flag fun g => some { g with verbosity := g.verbosity + 1 }
  | _ => none

/-- The options of `generate`. -/
def generateSwitch? (name : String) : Option Switch :=
  match name with
  | "output" => some <| .value fun g s =>
    fill g.flags.output (path? s) fun output => { g with flags.output := output }
  | "templates" => some <| .value fun g s =>
    fill g.flags.templates (path? s) fun templates => { g with flags.templates := templates }
  | "force" => some <| .flag fun g => raise g.force fun force => { g with force }
  | _ => commonSwitch? name

/-- The options of `inspect`. -/
def inspectSwitch? (name : String) : Option Switch :=
  match name with
  | "format" => some <| .value fun g s => fill g.format (format? s) fun format => { g with format }
  | _ => commonSwitch? name

/-- What ends the reading of a command line before its end. -/
inductive Halt where
  | help
  | version
  | misuse
  deriving DecidableEq, Repr

/-- Goes on with what an option gives, if it is in place. -/
def orMisuse {α : Type} : Option α → Except Halt α
  | some given => .ok given
  | none => .error .misuse

/-- Reads the letters after one dash: how much more verbose the run is to be. Only the program
itself has a version. -/
def readLetters (hasVersion : Bool) : Nat → List Char → Except Halt Nat
  | count, [] => .ok count
  | count, 'v' :: letters => readLetters hasVersion (count + 1) letters
  | _, 'h' :: _ => .error .help
  | _, 'V' :: _ => .error (if hasVersion then .version else .misuse)
  | _, _ => .error .misuse

/-- Whether an argument can be the value of the option before it. -/
def canBeValue (argument : String) : Bool :=
  argument = "-" || argument.toList.head? ≠ some '-'

/-- Reads the arguments of a command with some options. -/
def readGiven (switch? : String → Option Switch) (given : Given) :
    List String → Except Halt Given
  | [] => .ok given
  | argument :: rest =>
    match formOf argument with
    | .word => .error .misuse
    | .long "" none => if rest.isEmpty then .ok given else .error .misuse
    | .long "help" none => .error .help
    | .short letters => do
      let verbosity ← readLetters false given.verbosity letters
      readGiven switch? { given with verbosity } rest
    | .long name value =>
      match switch? name, value with
      | some (.flag set), none => do readGiven switch? (← orMisuse (set given)) rest
      | some (.value set), some value => do
        readGiven switch? (← orMisuse (set given value)) rest
      | some (.value set), none =>
        match rest with
        | value :: rest =>
          if canBeValue value then do readGiven switch? (← orMisuse (set given value)) rest
          else .error .misuse
        | [] => .error .misuse
      | _, _ => .error .misuse

/-- The verbosity of a run. What a command is given comes before what stands before the command. -/
def verbosityOf (outer inner : Nat) : Nat := if inner = 0 then outer else inner

/-- Reads the command `generate` after its name. -/
def readGenerate (verbosity : Nat) (arguments : List String) : Except Halt Invocation := do
  let given ← readGiven generateSwitch? {} arguments
  return .command (verbosityOf verbosity given.verbosity) (.generate given.flags given.force)

/-- Reads the command `inspect` after its name. -/
def readInspect (verbosity : Nat) (arguments : List String) : Except Halt Invocation := do
  let given ← readGiven inspectSwitch? {} arguments
  return .command (verbosityOf verbosity given.verbosity)
    (.inspect given.flags (given.format.getD .yaml))

/-- Whether there is help on the command with a name. -/
def hasHelp (name : String) : Bool := ["generate", "inspect", "help"].contains name

/-- Reads a command line from what stands before the command on. -/
def read (verbosity : Nat) : List String → Except Halt Invocation
  | [] => .error .misuse
  | "generate" :: rest => readGenerate verbosity rest
  | "inspect" :: rest => readInspect verbosity rest
  | "help" :: rest => .error (if rest.all hasHelp && rest.length ≤ 1 then .help else .misuse)
  | argument :: rest =>
    match formOf argument with
    | .long "verbose" none => read (verbosity + 1) rest
    | .long "help" none => .error .help
    | .long "version" none => .error .version
    | .short letters => do read (← readLetters true verbosity letters) rest
    | _ => .error .misuse

/-- What a command line asks for. -/
def parse (arguments : List String) : Invocation :=
  match read 0 arguments with
  | .ok invocation => invocation
  | .error .help => .help
  | .error .version => .version
  | .error .misuse => .misuse

/-- How verbose a run is to be. -/
def verbosity : Invocation → Nat
  | command verbosity _ => verbosity
  | help | version | misuse => 0

end Invocation

end ApiStencil

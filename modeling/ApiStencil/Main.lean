import ApiStencil.Command.LogFilter
import ApiStencil.Command.Run

/-!
# The program

Commands on a real system: its files, its standard output and error, and its environment.
-/

namespace ApiStencil

/-- A run on a real system, which shows the events that pass a filter. -/
abbrev Program := ReaderT LogFilter IO

namespace Program

/-- The fault that an error of the system stands for. -/
def faultOf (error : IO.Error) : DiskFault :=
  match error with
  | .noFileOrDirectory .. => .notFound
  | .alreadyExists .. => .alreadyExists
  | .inappropriateType _ code _ => if code = 20 then .notADirectory else .isADirectory
  | .unsatisfiedConstraints .. => .directoryNotEmpty
  | .invalidArgument _ code _ => if code = 36 then .nameTooLong else .invalidArgument
  | .permissionDenied _ code details => .other code.toNat "PermissionDenied" details
  | .resourceBusy code details => .other code.toNat "ResourceBusy" details
  | other => .other 0 "Other" (toString other)

/-- The answer of an action, or the fault that stands for its error. -/
def attempt {α : Type} (action : IO α) : IO (Except DiskFault α) := do
  match ← action.toBaseIO with
  | .ok answer => return .ok answer
  | .error error => return .error (faultOf error)

/-- The kind of what a path leads to. What is no directory counts as a file. -/
def kindOf? (path : String) : IO (Option EntryKind) := do
  if path = "" then return none
  match ← ((← IO.currentDir) / path).metadata.toBaseIO with
  | .error _ => return none
  | .ok data => return some (match data.type with | .dir => .directory | _ => .file)

/-- The text of a file. -/
def textOf (path : String) : IO (Except DiskFault String) := do
  match ← attempt (IO.FS.readBinFile path) with
  | .error fault => return .error fault
  | .ok bytes =>
    match String.fromUTF8? bytes with
    | some text => return .ok text
    | none => return .error .notText

/-- The names of what lies in a directory. -/
def namesIn (path : String) : IO (List String) := do
  return ((← ((← IO.currentDir) / path).readDir).map (·.fileName)).toList

/-- The files at most so many directories below a directory. -/
def filesFrom (outer : Location) : Nat → String → IO (List String)
  | 0, _ => return []
  | depth + 1, dir => do
    let names ← namesIn dir
    let found ← names.mapM fun name => do
      let path := Path.join dir name
      match ← kindOf? path with
      | some .directory => filesFrom (outer ++ [name]) depth path
      | some .file => return [Path.ofNames (outer ++ [name])]
      | none => return []
    return found.flatten

instance : MonadDisk Program where
  kind? path := kindOf? path
  readText path := textOf path
  writeText path text := attempt (IO.FS.writeFile path text)
  makeDirectory path := attempt (IO.FS.createDir path)
  childNames path := attempt (namesIn path)
  removeAll path := attempt (IO.FS.removeDirAll path)
  filesBelow path := do return (← filesFrom [] Disk.pathLimit path).mergeSort fun a b => a ≤ b

/-- The line that shows an event. -/
def lineOf (event : Event) : String :=
  event.level.name ++ " " ++ event.target ++ ": " ++ event.message ++
    String.join (event.fields.map fun (name, value) => " " ++ name ++ "=" ++ value)

instance : MonadLog Program where
  report event := do
    if (← read).passes event then IO.eprintln (lineOf event)

end Program

end ApiStencil

open ApiStencil in
/-- Runs a command line. A setting of the environment says what is shown of the run. -/
def main (arguments : List String) : IO UInt32 := do
  let invocation := Invocation.parse arguments
  let filter := LogFilter.forRun (← IO.getEnv "RUST_LOG") invocation.verbosity
  let outcome ← (invocation.run : Program Outcome).run filter
  IO.print outcome.printed
  if let some fault := outcome.fault then IO.eprintln ("Error: " ++ fault.inspect)
  return outcome.exitCode

import ApiStencil.Disk.Access
import ApiStencil.Plan.Generation

/-!
# Output directories

The files of a run go to a directory that is empty or not there. A directory that has something in
it is cleared, but only by force.

## Main definitions

* `prepareOutput` - makes an empty output directory.
* `writeOutput` - writes the files of a run below a directory.
-/

namespace ApiStencil

namespace Log

/-- The log target of a generation. -/
def generation : String := "tamplier::generate"

/-- A directory that is about to be cleared. -/
def clearingOutput (dir : String) : Event where
  level := .warn
  target := generation
  message := "clearing output directory"
  fields := [("dir", Text.quoted dir)]

/-- A file that has been written. -/
def wroteFile (path : String) : Event where
  level := .debug
  target := generation
  message := "wrote file"
  fields := [("path", Text.quoted path)]

end Log

variable {m : Type → Type} [Monad m] [MonadDisk m] [MonadLog m]

/-- Clears a directory if there is something in it, and if force may be used. -/
def clearOutput (dir : String) (force : Bool) : ExceptT Fault m Unit := do
  let names ← orFail .io (← childNames dir)
  if names.isEmpty then return
  if !force then throw (.workspace (.outputNotEmpty dir))
  report (Log.clearingOutput dir)
  orFail .io (← removeAll dir)

/-- Makes an empty output directory. -/
def prepareOutput (dir : String) (force : Bool) : ExceptT Fault m Unit := do
  match ← kind? dir with
  -- A path that cannot be followed counts as free too.
  | none => pure ()
  | some .file => throw (.workspace (.outputNotADirectory dir))
  | some .directory => clearOutput dir force
  orFail .io (← createDirectories dir)

/-- Writes a file below a directory, and makes the directories that it lies in. -/
def writeRendered (dir : String) (file : RenderedFile) : ExceptT Fault m Unit := do
  let path := Path.join dir file.path
  if let some parent := Path.parent? path then
    orFail (.workspace <| .cannotCreate parent ·) (← createDirectories parent)
  orFail (.workspace <| .cannotWrite path ·) (← writeText path file.contents)
  report (Log.wroteFile path)

/-- Writes the files of a run below a directory. -/
def writeOutput (dir : String) (files : List RenderedFile) (force : Bool) :
    ExceptT Fault m Unit := do
  prepareOutput dir force
  files.forM (writeRendered dir)

end ApiStencil

import ApiStencil.Disk.Tree
import ApiStencil.Trace

/-!
# Access to a disk

What a command asks of the system that it runs on. The commands are written against this interface,
so that they run on a real system as well as on a disk that is a value.

## Main definitions

* `MonadDisk` - computations with access to files and directories.
* `createDirectories` - makes a directory and those above it.
* `Session` - a disk that is a value, and the events reported so far.
-/

namespace ApiStencil

/-- Computations with access to files and directories. -/
class MonadDisk (m : Type → Type) where
  /-- The kind of what a path leads to, if it leads to anything. -/
  kind? (path : String) : m (Option EntryKind)
  /-- The text of a file. -/
  readText (path : String) : m (Except DiskFault String)
  /-- Gives a file its text. The file may be there already. -/
  writeText (path text : String) : m (Except DiskFault Unit)
  /-- Makes a directory in one that is there. -/
  makeDirectory (path : String) : m (Except DiskFault Unit)
  /-- The names of what lies in a directory. -/
  childNames (path : String) : m (Except DiskFault (List String))
  /-- Removes a directory and all that lies below it. -/
  removeAll (path : String) : m (Except DiskFault Unit)
  /-- The files below a directory, by path from there and in order. -/
  filesBelow (path : String) : m (List String)

export MonadDisk (kind? readText writeText makeDirectory childNames removeAll filesBelow)

variable {m : Type → Type} {α : Type}

instance {ε : Type} [Monad m] [MonadDisk m] : MonadDisk (ExceptT ε m) where
  kind? path := ExceptT.lift (kind? path)
  readText path := ExceptT.lift (readText path)
  writeText path text := ExceptT.lift (writeText path text)
  makeDirectory path := ExceptT.lift (makeDirectory path)
  childNames path := ExceptT.lift (childNames path)
  removeAll path := ExceptT.lift (removeAll path)
  filesBelow path := ExceptT.lift (filesBelow path)

/-- The answer of an access. A fault of the disk is put in the words of a command. -/
def orFail [Monad m] (fault : DiskFault → Fault) (outcome : Except DiskFault α) :
    ExceptT Fault m α :=
  liftExcept (outcome.mapError fault)

section Directories

variable [Monad m] [MonadDisk m]

/-- Whether a path leads to a directory. -/
def isDirectory (path : String) : m Bool := do
  return (← kind? path) = some .directory

/-- The outcome of making a directory, which may be there already. -/
def settleDirectory (path : String) (outcome : Except DiskFault Unit) :
    m (Except DiskFault Unit) := do
  match outcome with
  | .ok () => return .ok ()
  | .error fault => return if ← isDirectory path then .ok () else .error fault

/-- Makes the first directory of a chain, in which each one lies in the next. Those above it are
made only if they are missing. -/
def createChain : List String → m (Except DiskFault Unit)
  | [] => return .error .notFound
  | path :: outer => do
    if path = "" then return .ok ()
    match ← makeDirectory path with
    | .error .notFound =>
      match ← createChain outer with
      | .ok () => settleDirectory path (← makeDirectory path)
      | .error fault => return .error fault
    | outcome => settleDirectory path outcome

/-- Makes a directory and those above it, as far as they are missing. -/
def createDirectories (path : String) : m (Except DiskFault Unit) :=
  createChain (Path.chain path)

end Directories

/-- A disk that is a value, and the events reported so far. -/
structure Session where
  disk : Disk
  events : List Event := []

namespace Session

/-- The session with a change of its disk, unless that failed. -/
def update (change : Disk → Except DiskFault Disk) : StateM Session (Except DiskFault Unit) :=
  fun session =>
    match change session.disk with
    | .ok disk => (.ok (), { session with disk })
    | .error fault => (.error fault, session)

/-- An observation of the disk. -/
def observe (view : Disk → α) : StateM Session α :=
  fun session => (view session.disk, session)

instance : MonadDisk (StateM Session) where
  kind? path := observe (·.kind? path)
  readText path := observe (·.readText path)
  writeText path text := update (·.writeFile path (.text text))
  makeDirectory path := update (·.makeDirectory path)
  childNames path := observe (·.childNames path)
  removeAll path := fun session =>
    let (outcome, disk) := session.disk.removeAll path
    (outcome, { session with disk })
  filesBelow path := observe (·.filesBelow path)

instance : MonadLog (StateM Session) where
  report event := modify fun session => { session with events := session.events ++ [event] }

end Session

end ApiStencil

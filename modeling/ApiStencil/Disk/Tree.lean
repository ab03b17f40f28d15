import ApiStencil.Dict
import ApiStencil.Disk.Path
import ApiStencil.Fault

/-!
# Disks

The files and directories of a system and the directory that a program works in. Paths are followed
segment by segment, and every operation fails where a system without links and permissions would.

## Main definitions

* `Disk` - files and directories by location. Everything lies in a directory.
* `Disk.locate`, `Disk.place` - where a path leads, and where something new goes.
* `Disk.kind?`, `Disk.readText`, `Disk.childNames`, `Disk.filesBelow` - looking at a disk.
* `Disk.makeDirectory`, `Disk.writeFile`, `Disk.removeAll` - changing a disk.

## Main results

* `Disk.at?_put`, `Disk.at?_restrict` - what is on a disk after a change.
-/

namespace ApiStencil

/-- Where something lies: the names of the directories from the root down, and its own. -/
abbrev Location := List String

/-- What a file holds. -/
inductive Contents where
  | text (value : String)
  /-- Bytes that are no text. -/
  | binary (bytes : List UInt8)
  deriving DecidableEq, Repr

/-- The contents that some bytes make. -/
def Contents.ofBytes (bytes : List UInt8) : Contents :=
  match String.fromUTF8? ⟨bytes.toArray⟩ with
  | some value => text value
  | none => binary bytes

/-- What can lie at a location. -/
inductive Entry where
  | file (contents : Contents)
  | directory
  deriving DecidableEq, Repr

/-- The kinds of entries. -/
inductive EntryKind where
  | file
  | directory
  deriving DecidableEq, Repr

/-- The kind of an entry. -/
def Entry.kind : Entry → EntryKind
  | file _ => .file
  | directory => .directory

/-- What lies at a location. The root is always a directory. -/
def entryAt? (entries : Dict Location Entry) : Location → Option Entry
  | [] => some .directory
  | location => entries.get? location

/-- The files and directories of a system. -/
@[ext] structure Disk where
  /-- Everything below the root. -/
  entries : Dict Location Entry
  /-- The directory that relative paths start from. -/
  home : Location
  /-- Everything lies in a directory. -/
  placed : ∀ location ∈ entries.keys,
    location ≠ [] ∧ entryAt? entries location.dropLast = some .directory

namespace Disk

/-- The disk with nothing on it. -/
def empty (home : Location) : Disk where
  entries := Dict.empty
  home
  placed := by simp

instance : Inhabited Disk := ⟨empty []⟩

/-- What lies at a location. -/
def at? (disk : Disk) (location : Location) : Option Entry :=
  entryAt? disk.entries location

/-- Whether a new directory or any file may go to a location. -/
def Accepts (disk : Disk) (location : Location) : Prop :=
  disk.at? location ≠ some .directory ∧
    disk.at? location.dropLast = some .directory

instance (disk : Disk) (location : Location) : Decidable (disk.Accepts location) :=
  inferInstanceAs (Decidable (_ ∧ _))

theorem entryAt?_of_ne_nil (entries : Dict Location Entry) {location : Location}
    (h : location ≠ []) : entryAt? entries location = entries.get? location := by
  cases location with
  | nil => exact absurd rfl h
  | cons name names => rfl

theorem Accepts.ne_nil {disk : Disk} {location : Location} (h : disk.Accepts location) :
    location ≠ [] := by
  rintro rfl
  exact h.1 rfl

theorem entryAt?_insert (entries : Dict Location Entry) {location : Location} (entry : Entry)
    (h : location ≠ []) (other : Location) :
    entryAt? (entries.insert location entry) other =
      if other = location then some entry else entryAt? entries other := by
  cases other with
  | nil => simp [entryAt?, h.symm]
  | cons name names => simp [entryAt?, Dict.get?_insert]

/-- Puts an entry at a location that accepts it. -/
def put (disk : Disk) (location : Location) (entry : Entry) : Disk :=
  if h : disk.Accepts location then
    { entries := disk.entries.insert location entry
      home := disk.home
      placed := by
        have inside : ∀ other : Location, disk.at? other = some .directory →
            entryAt? (disk.entries.insert location entry) other = some .directory := by
          intro other hother
          rw [entryAt?_insert _ _ h.ne_nil, if_neg]
          · exact hother
          · rintro rfl
            exact h.1 hother
        intro other hother
        rw [Dict.keys_insert] at hother
        have hother : other ∈ disk.entries.keys ∨ other = location := by
          split at hother
          · exact Or.inl hother
          · simpa using hother
        rcases hother with hother | rfl
        · exact ⟨(disk.placed other hother).1, inside _ (disk.placed other hother).2⟩
        · exact ⟨h.ne_nil, inside _ h.2⟩ }
  else disk

/-- What is on a disk after an entry has been put there. -/
theorem at?_put {disk : Disk} {location : Location} (entry : Entry)
    (h : disk.Accepts location) (other : Location) :
    (disk.put location entry).at? other =
      if other = location then some entry else disk.at? other := by
  simp only [put, dif_pos h]
  exact entryAt?_insert _ _ h.ne_nil other

/-- The part of a disk at the locations that satisfy `p`, which must go with their directories. -/
def restrict (disk : Disk) (p : Location → Bool)
    (h : ∀ location, p location = true → p location.dropLast = true) : Disk where
  entries := disk.entries.filterKeys p
  home := disk.home
  placed := by
    intro location hlocation
    rw [Dict.keys_filterKeys, List.mem_filter] at hlocation
    obtain ⟨hkey, hp⟩ := hlocation
    obtain ⟨hne, hparent⟩ := disk.placed location hkey
    refine ⟨hne, ?_⟩
    by_cases hroot : location.dropLast = []
    · rw [hroot]; rfl
    · rw [entryAt?_of_ne_nil _ hroot] at hparent ⊢
      rw [Dict.get?_filterKeys, if_pos (h location hp)]
      exact hparent

/-- What is on a part of a disk. -/
theorem at?_restrict (disk : Disk) (p : Location → Bool)
    (h : ∀ location, p location = true → p location.dropLast = true) {location : Location}
    (hne : location ≠ []) :
    (disk.restrict p h).at? location = if p location then disk.at? location else none := by
  simp only [at?, entryAt?_of_ne_nil _ hne]
  exact Dict.get?_filterKeys _ _ _

/-- Whether a location lies below a directory. -/
def isBelow (directory location : Location) : Bool :=
  directory.isPrefixOf location && location ≠ directory

theorem isPrefixOf_of_dropLast {directory location : Location}
    (h : directory.isPrefixOf location.dropLast = true) : directory.isPrefixOf location = true := by
  rw [List.isPrefixOf_iff_prefix] at h ⊢
  exact h.trans (List.dropLast_prefix location)

theorem isBelow_of_dropLast {directory location : Location}
    (h : isBelow directory location.dropLast = true) : isBelow directory location = true := by
  simp only [isBelow, Bool.and_eq_true, decide_eq_true_eq] at h ⊢
  refine ⟨isPrefixOf_of_dropLast h.1, ?_⟩
  rintro rfl
  have hprefix := (List.isPrefixOf_iff_prefix.mp h.1).length_le
  have hlength : location.dropLast.length = location.length - 1 := List.length_dropLast
  have hnil : location = [] := List.length_eq_zero_iff.mp (by omega)
  exact h.2 (by simp [hnil])

/-- Removes all that lies below a directory. -/
def prune (disk : Disk) (directory : Location) : Disk :=
  disk.restrict (fun location => !isBelow directory location) fun location h => by
    rw [Bool.not_eq_true'] at h ⊢
    exact Bool.eq_false_iff.mpr fun hd => Bool.eq_false_iff.mp h (isBelow_of_dropLast hd)

/-- Removes a directory and all that lies below it. -/
def remove (disk : Disk) (directory : Location) : Disk :=
  disk.restrict (fun location => !directory.isPrefixOf location) fun location h => by
    rw [Bool.not_eq_true'] at h ⊢
    exact Bool.eq_false_iff.mpr fun hd => Bool.eq_false_iff.mp h (isPrefixOf_of_dropLast hd)

/-- What lies below a directory, by location from there. -/
def below (disk : Disk) (directory : Location) : List (Location × Entry) :=
  disk.entries.entries.filterMap fun (location, entry) =>
    match directory.isPrefixOf? location with
    | none | some [] => none
    | some rest => some (rest, entry)

/-! ## Paths on a disk -/

/-- The most bytes that a name may have. -/
def nameLimit : Nat := 255

/-- The most bytes that a path may have. -/
def pathLimit : Nat := 4095

/-- Where a segment leads from a location, which must be that of a directory. -/
def step (disk : Disk) (location : Location) (segment : String) : Except DiskFault Location :=
  match disk.at? location with
  | none => .error .notFound
  | some (.file _) => .error .notADirectory
  | some .directory =>
    if segment = "" ∨ segment = "." then .ok location
    else if segment = ".." then .ok location.dropLast
    else if nameLimit < segment.utf8ByteSize then .error .nameTooLong
    else .ok (location ++ [segment])

/-- The location that a path starts from. -/
def startOf (disk : Disk) (path : String) : Location :=
  if Path.isAbsolute path then [] else disk.home

/-- Where some segments of a path lead. -/
def follow (disk : Disk) (path : String) (segments : List String) :
    Except DiskFault Location :=
  if path = "" then .error .notFound
  else if path.toList.contains '\x00' then .error .nulInPath
  else if pathLimit < path.utf8ByteSize then .error .nameTooLong
  else segments.foldlM disk.step (disk.startOf path)

/-- Where a path leads. A path that ends in a slash leads to a directory. -/
def locate (disk : Disk) (path : String) : Except DiskFault Location :=
  disk.follow path (Path.segments path)

/-- Where something new goes that is made under a path. -/
def place (disk : Disk) (path : String) : Except DiskFault Location :=
  disk.follow path (Path.trimmedSegments path)

/-! ## Looking at a disk -/

/-- What a path leads to. -/
def find (disk : Disk) (path : String) : Except DiskFault Entry := do
  let location ← disk.locate path
  match disk.at? location with
  | some entry => return entry
  | none => throw .notFound

/-- The kind of what a path leads to, if it leads to anything. -/
def kind? (disk : Disk) (path : String) : Option EntryKind :=
  match disk.find path with
  | .ok entry => some entry.kind
  | .error _ => none

/-- The text of a file. -/
def readText (disk : Disk) (path : String) : Except DiskFault String := do
  match ← disk.find path with
  | .file (.text value) => return value
  | .file (.binary _) => throw .notText
  | .directory => throw .isADirectory

/-- The location of a directory. -/
def locateDirectory (disk : Disk) (path : String) : Except DiskFault Location := do
  match ← disk.find path with
  | .directory => disk.locate path
  | .file _ => throw .notADirectory

/-- The names of what lies in a directory. -/
def childNames (disk : Disk) (path : String) : Except DiskFault (List String) := do
  let directory ← disk.locateDirectory path
  return (disk.below directory).filterMap fun (rest, _) =>
    match rest with
    | [name] => some name
    | _ => none

/-- The files below a directory, by path from there and in order. -/
def filesBelow (disk : Disk) (path : String) : List String :=
  match disk.locateDirectory path with
  | .error _ => []
  | .ok directory =>
    let files := (disk.below directory).filter fun (_, entry) => entry.kind = .file
    (files.map fun (location, _) => Path.ofNames location).mergeSort fun a b => a ≤ b

/-! ## Changing a disk -/

/-- Makes a directory. -/
def makeDirectory (disk : Disk) (path : String) : Except DiskFault Disk := do
  let location ← disk.place path
  match disk.at? location with
  | some _ => throw .alreadyExists
  | none => return disk.put location .directory

/-- Gives a file its contents. The file may be there already. -/
def writeFile (disk : Disk) (path : String) (contents : Contents) : Except DiskFault Disk := do
  let location ← disk.place path
  if Path.endsInSlash path then throw .isADirectory
  match disk.at? location with
  | some .directory => throw .isADirectory
  | _ => return disk.put location (.file contents)

/-- Removes a directory and all that lies below it. What lies below goes first. After that a path
that came by way of it leads nowhere, and the directory stays; it also stays, and that is a fault,
if the path names it from within. -/
def removeAll (disk : Disk) (path : String) : Except DiskFault Unit × Disk :=
  match disk.locateDirectory path with
  | .error fault => (.error fault, disk)
  | .ok directory =>
    let cleared := disk.prune directory
    match cleared.locate path, (Path.trimmedSegments path).getLast? with
    | .error _, _ => (.ok (), cleared)
    | .ok _, none => (.error (.other 16 "ResourceBusy" "Device or resource busy"), cleared)
    | .ok _, some "." => (.error .invalidArgument, cleared)
    | .ok _, some ".." => (.error .directoryNotEmpty, cleared)
    | .ok _, some _ => (.ok (), disk.remove directory)

end Disk

end ApiStencil

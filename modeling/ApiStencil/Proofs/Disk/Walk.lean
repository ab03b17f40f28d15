import ApiStencil.Disk.Tree
import ApiStencil.Proofs.Disk.Path
import ApiStencil.Proofs.Trace

/-!
# Following a path

Everything above a directory is a directory, and a path is followed from one directory to the next.
Whether the limits of the system permit it depends on its names and on its length.

## Main definitions

* `Disk.locationOf`: the location that the names of a relative path give
* `Disk.Fits`: a path that the limits of the system permit
* `Disk.Unblocked`: no file at a location or above it

## Main results

* `Disk.directory_above`: everything above a directory is a directory
* `Disk.follow_eq_ok_iff`: when a path can be followed
* `Disk.kind?_eq_directory_iff`: when a path leads to a directory
-/

namespace ApiStencil.Disk

variable {disk : Disk} {location above : Location} {path name segment : String}
  {segments : List String}

/-! ## What lies above -/

theorem directory_of_at?_concat (h : disk.at? (location ++ [name]) ≠ none) :
    disk.at? location = some .directory := by
  have hkey : location ++ [name] ∈ disk.entries.keys := by
    by_contra hkey
    rw [at?, entryAt?_of_ne_nil _ (by simp)] at h
    exact h (disk.entries.get?_eq_none_iff.mpr hkey)
  have hplaced := (disk.placed _ hkey).2
  rwa [List.dropLast_concat] at hplaced

/-- Everything above a directory is a directory. -/
theorem directory_above (h : disk.at? location = some .directory) (hp : above <+: location) :
    disk.at? above = some .directory := by
  obtain ⟨rest, rfl⟩ := hp
  induction rest using List.reverseRecOn with
  | nil => rwa [List.append_nil] at h
  | append_singleton rest name ih =>
    rw [← List.append_assoc] at h
    exact ih (directory_of_at?_concat (h ▸ Option.some_ne_none _))

theorem at?_eq_none_below (h : disk.at? above = none) (hp : above <+: location) :
    disk.at? location = none := by
  obtain ⟨rest, rfl⟩ := hp
  induction rest using List.reverseRecOn with
  | nil => rwa [List.append_nil]
  | append_singleton rest name ih =>
    by_contra hne
    rw [← List.append_assoc] at hne
    simp [directory_of_at?_concat hne] at ih

theorem not_append_isPrefix {rest : Location} (h : rest ≠ []) : ¬location ++ rest <+: location := by
  intro hp
  have hlength := hp.length_le
  rw [List.length_append] at hlength
  have := List.length_pos_of_ne_nil h
  omega

/-- No file is at a location or above it. -/
def Unblocked (disk : Disk) (location : Location) : Prop :=
  ∀ above, above <+: location → ∀ contents, disk.at? above ≠ some (.file contents)

theorem unblocked_of_directory (h : disk.at? location = some .directory) :
    disk.Unblocked location := by
  intro above hp contents
  simp [directory_above h hp]

theorem unblocked_concat_iff :
    disk.Unblocked (location ++ [name]) ↔ disk.Unblocked location ∧
      ∀ contents, disk.at? (location ++ [name]) ≠ some (.file contents) := by
  constructor
  · intro h
    exact ⟨fun above hp => h above (hp.trans (List.prefix_append _ _)),
      h _ (List.prefix_refl _)⟩
  · rintro ⟨h, hlast⟩ above hp
    rcases List.prefix_concat_iff.mp hp with rfl | hp
    · exact hlast
    · exact h above hp

/-- Below a directory only what comes after it can block the way. -/
theorem Unblocked.eq_directory (h : disk.Unblocked location) (hat : disk.at? location ≠ none) :
    disk.at? location = some .directory := by
  cases hentry : disk.at? location with
  | none => exact absurd hentry hat
  | some entry =>
    cases entry with
    | file contents => exact absurd hentry (h _ (List.prefix_refl _) contents)
    | directory => rfl

/-! ## Following a path -/

theorem directory_of_step {location' : Location} (h : disk.step location segment = .ok location') :
    disk.at? location = some .directory := by
  unfold step at h
  split at h
  · cases h
  · cases h
  · assumption

/-- The location that the names of a relative path give. -/
def locationOf (disk : Disk) (path : String) : Location := disk.home ++ Path.names path

theorem locationOf_eq_of_home {next : Disk} (h : next.home = disk.home) :
    next.locationOf path = disk.locationOf path := by
  rw [locationOf, h, locationOf]

/-- A path that the limits of the system permit. -/
structure Fits (path : String) : Prop where
  noNul : '\x00' ∉ path.toList
  size : path.utf8ByteSize ≤ pathLimit
  names : ∀ name ∈ Path.names path, name.utf8ByteSize ≤ nameLimit

instance (path : String) : Decidable (Fits path) :=
  decidable_of_iff ('\x00' ∉ path.toList ∧ path.utf8ByteSize ≤ pathLimit ∧
      ∀ name ∈ Path.names path, name.utf8ByteSize ≤ nameLimit)
    ⟨fun h => ⟨h.1, h.2.1, h.2.2⟩, fun h => ⟨h.noNul, h.size, h.names⟩⟩

/-- The limits of the system count for moves. -/
theorem fits_iff_moves : Fits path ↔ '\x00' ∉ path.toList ∧ path.utf8ByteSize ≤ pathLimit ∧
    ∀ move ∈ Path.moves path, move.utf8ByteSize ≤ nameLimit := by
  rw [Path.moves_eq_filter_names]
  constructor
  · intro h
    exact ⟨h.noNul, h.size, fun move hmove => h.names move (List.mem_of_mem_filter hmove)⟩
  · rintro ⟨hnul, hsize, hfit⟩
    refine ⟨hnul, hsize, fun name hname => ?_⟩
    by_cases hdot : name = "."
    · subst hdot
      decide
    · exact hfit name (List.mem_filter.mpr ⟨hname, by simpa using hdot⟩)

theorem fits_empty : Fits "" := ⟨by simp, by decide, by simp⟩

theorem follow_eq_ok_iff {next : Location} :
    disk.follow path segments = .ok next ↔ path ≠ "" ∧ '\x00' ∉ path.toList ∧
      path.utf8ByteSize ≤ pathLimit ∧
      segments.foldlM disk.step (disk.startOf path) = .ok next := by
  rw [follow]
  by_cases hempty : path = ""
  · simp [hempty]
  by_cases hnul : '\x00' ∈ path.toList
  · simp [hempty, hnul]
  by_cases hlong : pathLimit < path.utf8ByteSize
  · simp [hempty, hnul, hlong, Nat.not_le.mpr hlong]
  · simp [hempty, hnul, hlong, Nat.not_lt.mp hlong]

theorem find_eq_ok_iff {entry : Entry} :
    disk.find path = .ok entry ↔
      ∃ location, disk.locate path = .ok location ∧ disk.at? location = some entry := by
  rw [find, Except.bind_eq_ok_iff]
  refine exists_congr fun location => and_congr_right fun _ => ?_
  cases disk.at? location with
  | none => simp
  | some other => exact ⟨fun h => congrArg some (Except.ok.inj h), fun h => by cases h; rfl⟩

theorem startOf_of_relative (hrel : Path.isAbsolute path = false) :
    disk.startOf path = disk.home := by
  simp [startOf, hrel]

theorem kind?_eq_some_iff {kind : EntryKind} :
    disk.kind? path = some kind ↔ ∃ entry, disk.find path = .ok entry ∧ entry.kind = kind := by
  unfold kind?
  cases disk.find path <;> simp

theorem kind?_eq_directory_iff :
    disk.kind? path = some .directory ↔ disk.find path = .ok .directory := by
  rw [kind?_eq_some_iff]
  constructor
  · rintro ⟨contents | -, hfind, hkind⟩
    · cases hkind
    · exact hfind
  · exact fun hfind => ⟨.directory, hfind, rfl⟩

end ApiStencil.Disk

import ApiStencil.Proofs.Disk.Aim

/-!
# Changing a disk by paths

When the changes that a path can ask for succeed, and what is on the disk after them. Something new
goes where the path aims at, if that is in a directory. A directory can be removed and made again
under the same path if the path does not come by way of it.

## Main definitions

* `Disk.Targets`: a path that aims at a location however much lies there

## Main results

* `Disk.Aims.makeDirectory_eq_ok_iff`, `Disk.Aims.writeFile_eq_ok_iff`: when something new can be
  made
* `Disk.childNames_eq_ok`: when a directory has nothing in it
* `Disk.Targets.removeAll_eq`: a directory and all that lies below it goes
-/

namespace ApiStencil.Disk

variable {disk next : Disk} {path : String} {location : Location}

theorem home_put (location : Location) (entry : Entry) :
    (disk.put location entry).home = disk.home := by
  unfold put
  split <;> rfl

theorem at?_remove {directory location : Location} (hne : directory ≠ []) :
    (disk.remove directory).at? location =
      if directory <+: location then none else disk.at? location := by
  by_cases hroot : location = []
  · subst hroot
    rw [if_neg (by simpa using hne)]
    rfl
  · rw [remove, at?_restrict _ _ _ hroot]
    by_cases hp : directory <+: location
    · simp [hp, List.isPrefixOf_iff_prefix.mpr hp]
    · simp [hp]

theorem at?_prune {directory location : Location} :
    (disk.prune directory).at? location =
      if directory <+: location ∧ location ≠ directory then none else disk.at? location := by
  by_cases hroot : location = []
  · subst hroot
    rw [if_neg (by simp [eq_comm])]
    rfl
  · rw [prune, at?_restrict _ _ _ hroot]
    by_cases heq : location = directory
    · simp [isBelow, heq]
    by_cases hp : directory <+: location
    · simp [isBelow, hp, heq, List.isPrefixOf_iff_prefix.mpr hp]
    · simp [isBelow, hp]

theorem makeDirectory_eq_ok_iff_place :
    disk.makeDirectory path = .ok next ↔ ∃ location, disk.place path = .ok location ∧
      disk.at? location = none ∧ next = disk.put location .directory := by
  rw [makeDirectory, Except.bind_eq_ok_iff]
  refine exists_congr fun location => and_congr_right fun _ => ?_
  cases disk.at? location with
  | none => exact ⟨fun h => ⟨rfl, (Except.ok.inj h).symm⟩, fun h => h.2 ▸ rfl⟩
  | some entry => exact iff_of_false (fun h => nomatch h) (by simp)

theorem writeFile_eq_ok_iff_place {contents : Contents} :
    disk.writeFile path contents = .ok next ↔ ∃ location, disk.place path = .ok location ∧
      Path.endsInSlash path = false ∧ disk.at? location ≠ some .directory ∧
      next = disk.put location (.file contents) := by
  rw [writeFile, Except.bind_eq_ok_iff]
  refine exists_congr fun location => and_congr_right fun _ => ?_
  cases Path.endsInSlash path with
  | true => exact iff_of_false (fun h => nomatch h) (by simp)
  | false =>
    simp only [Bool.false_eq_true, if_false]
    match disk.at? location with
    | none => exact ⟨fun h => ⟨trivial, by simp, (Except.ok.inj h).symm⟩, fun h => h.2.2 ▸ rfl⟩
    | some (.file old) =>
      exact ⟨fun h => ⟨trivial, by simp, (Except.ok.inj h).symm⟩, fun h => h.2.2 ▸ rfl⟩
    | some .directory => exact iff_of_false (fun h => nomatch h) (by simp)

section Aims

variable (haims : disk.Aims path location) (hempty : path ≠ "")
include haims hempty

/-- A directory is made in one that is there, if nothing has its location yet. -/
theorem Aims.makeDirectory_eq_ok_iff :
    disk.makeDirectory path = .ok next ↔ Fits path ∧
      disk.at? location.dropLast = some .directory ∧ disk.at? location = none ∧
      next = disk.put location .directory := by
  simp only [makeDirectory_eq_ok_iff_place, haims.place_eq_ok_iff hempty]
  constructor
  · rintro ⟨_, ⟨hfits, rfl, hdir⟩, hnone, rfl⟩
    exact ⟨hfits, hdir, hnone, rfl⟩
  · rintro ⟨hfits, hdir, hnone, rfl⟩
    exact ⟨_, ⟨hfits, rfl, hdir⟩, hnone, rfl⟩

/-- Unless a file is in the way, a directory that cannot be found is one to lie in. -/
theorem Aims.makeDirectory_eq_notFound (hfits : Fits path) (hfree : disk.Unblocked location)
    (houter : disk.at? location.dropLast ≠ some .directory) :
    disk.makeDirectory path = .error .notFound := by
  rw [makeDirectory, haims.place_eq_notFound hempty hfits hfree houter]
  rfl

/-- A directory that cannot be made for want of another one is not there yet. -/
theorem Aims.at?_eq_none_of_makeDirectory (h : disk.makeDirectory path = .error .notFound) :
    disk.at? location = none := by
  refine haims.at?_eq_none_of_place ?_ hempty
  cases hplace : disk.place path with
  | error fault =>
    rw [makeDirectory, hplace] at h
    cases h
    rfl
  | ok found =>
    simp only [makeDirectory, hplace, bind, Except.bind] at h
    split at h <;> cases h

/-- A file is written in a directory that is there, if no directory has its location. -/
theorem Aims.writeFile_eq_ok_iff (hslash : Path.endsInSlash path = false) (contents : Contents) :
    disk.writeFile path contents = .ok next ↔ Fits path ∧
      disk.at? location.dropLast = some .directory ∧ disk.at? location ≠ some .directory ∧
      next = disk.put location (.file contents) := by
  simp only [writeFile_eq_ok_iff_place, haims.place_eq_ok_iff hempty]
  constructor
  · rintro ⟨_, ⟨hfits, rfl, hdir⟩, -, hne, rfl⟩
    exact ⟨hfits, hdir, hne, rfl⟩
  · rintro ⟨hfits, hdir, hne, rfl⟩
    exact ⟨_, ⟨hfits, rfl, hdir⟩, hslash, hne, rfl⟩

end Aims

theorem locateDirectory_of_find (h : disk.find path = .ok .directory) :
    disk.locateDirectory path = disk.locate path := by
  rw [locateDirectory, h]
  rfl

/-- What is below a directory is listed by the rest of its location. -/
theorem mem_below_iff {directory rest : Location} {entry : Entry} :
    (rest, entry) ∈ disk.below directory ↔
      rest ≠ [] ∧ disk.at? (directory ++ rest) = some entry := by
  rw [below, List.mem_filterMap]
  constructor
  · rintro ⟨⟨location, other⟩, hmem, h⟩
    simp only at h
    split at h
    · cases h
    · cases h
    · rename_i found hne hpre
      obtain ⟨rfl, rfl⟩ := Prod.mk.inj (Option.some.inj h)
      obtain rfl := List.isPrefixOf?_eq_some_iff_append_eq.mp hpre
      refine ⟨hne, ?_⟩
      rw [at?, entryAt?_of_ne_nil _ (List.append_ne_nil_of_right_ne_nil _ hne),
        Dict.get?_eq_some_iff]
      exact hmem
  · rintro ⟨hne, hat⟩
    rw [at?, entryAt?_of_ne_nil _ (by simp [hne]), Dict.get?_eq_some_iff] at hat
    refine ⟨(directory ++ rest, entry), hat, ?_⟩
    obtain ⟨first, more, rfl⟩ := List.exists_cons_of_ne_nil hne
    simp only [List.isPrefixOf?_eq_some_iff_append_eq.mpr rfl]

/-- Nothing is named in a directory exactly when nothing lies in it. -/
theorem childNames_eq_ok {directory : Location} (hlocate : disk.locate path = .ok directory)
    (hdir : disk.at? directory = some .directory) :
    ∃ names, disk.childNames path = .ok names ∧
      (names = [] ↔ ∀ name, disk.at? (directory ++ [name]) = none) := by
  have hfind : disk.find path = .ok .directory := find_eq_ok_iff.mpr ⟨directory, hlocate, hdir⟩
  refine ⟨_, by rw [childNames, locateDirectory_of_find hfind, hlocate]; rfl, ?_⟩
  rw [List.filterMap_eq_nil_iff]
  constructor
  · intro hnone name
    by_contra hne
    obtain ⟨entry, hentry⟩ := Option.ne_none_iff_exists'.mp hne
    have := hnone ([name], entry) (mem_below_iff.mpr ⟨List.cons_ne_nil _ _, hentry⟩)
    simp at this
  · rintro hnone ⟨rest, entry⟩ hmem
    obtain ⟨hne, hat⟩ := mem_below_iff.mp hmem
    match rest, hne with
    | [name], _ => simp [hnone name] at hat
    | _ :: _ :: _, _ => rfl

/-! ## Removing directories -/

/-- A path targets a location: it aims there however much lies there, also once all that is gone. -/
structure Targets (disk : Disk) (path : String) (location : Location) : Prop where
  ne_root : location ≠ []
  aims : (disk.remove location).Aims path location

instance (disk : Disk) (path : String) (location : Location) :
    Decidable (disk.Targets path location) :=
  decidable_of_iff (location ≠ [] ∧ (disk.remove location).Aims path location)
    ⟨fun h => ⟨h.1, h.2⟩, fun h => ⟨h.ne_root, h.aims⟩⟩

/-- A path still aims where it did, as long as the directories elsewhere are kept. -/
theorem Targets.aims_of_directories (h : disk.Targets path location) (hhome : next.home = disk.home)
    (hkept : ∀ other, ¬location <+: other → disk.at? other = some .directory →
      next.at? other = some .directory) : next.Aims path location := by
  refine h.aims.of_directories hhome fun other hother => ?_
  rw [at?_remove h.ne_root] at hother
  split_ifs at hother with hp
  exact hkept other hp hother

theorem Targets.aims_self (h : disk.Targets path location) : disk.Aims path location :=
  h.aims_of_directories rfl fun _ _ hdir => hdir

theorem Targets.ne_empty (h : disk.Targets path location) : path ≠ "" := by
  rintro rfl
  -- The empty path aims at the working directory, which is not there once that is gone.
  have hmoves : some disk.home = some location := h.aims.moves
  obtain rfl := Option.some.inj hmoves
  have hstart : (disk.remove disk.home).at? disk.home = some .directory := h.aims.start
  simp [at?_remove h.ne_root] at hstart

/-- A relative path that never goes up targets a location below the working directory, which is not
in the way. -/
theorem targets_of_relative (hhome : disk.at? disk.home = some .directory)
    (hrel : Path.isAbsolute path = false) (hdown : ∀ move ∈ Path.moves path, move ≠ "..")
    (hends : Path.EndsInMove path) : disk.Targets path (disk.home ++ Path.moves path) := by
  have hne : disk.home ++ Path.moves path ≠ [] :=
    List.append_ne_nil_of_right_ne_nil _ hends.moves_ne_nil
  have hout : ¬disk.home ++ Path.moves path <+: disk.home := not_append_isPrefix hends.moves_ne_nil
  have hhome' : (disk.remove (disk.home ++ Path.moves path)).at? disk.home =
      some .directory := by rwa [at?_remove hne, if_neg hout]
  exact ⟨hne, aims_of_relative hrel hdown hhome' (Or.inl hends)⟩

theorem targets_of_isNormal (hhome : disk.at? disk.home = some .directory)
    (hnormal : Path.IsNormal path) (hempty : path ≠ "") :
    disk.Targets path (disk.locationOf path) := by
  rw [locationOf, ← hnormal.moves_eq]
  exact targets_of_relative hhome hnormal.relative hnormal.ne_parent (hnormal.endsInMove hempty)

/-- A directory goes with all that lies below it. -/
theorem Targets.removeAll_eq (h : disk.Targets path location)
    (hfind : disk.find path = .ok .directory) :
    disk.removeAll path = (.ok (), disk.remove location) := by
  obtain ⟨hfits, hdir⟩ := h.aims_self.find_eq_ok hfind
  have hlocate := h.aims_self.locate_of_directory h.ne_empty hfits hdir
  have hpruned : (disk.prune location).Aims path location :=
    h.aims_of_directories rfl fun other hp hother => by
      rwa [at?_prune, if_neg (fun hb => hp hb.1)]
  have hcleared : (disk.prune location).locate path = .ok location := by
    refine hpruned.locate_of_directory h.ne_empty hfits ?_
    rw [at?_prune, if_neg (fun hb => hb.2 rfl)]
    exact hdir
  have hgone : (disk.remove location).at? location ≠ some .directory := by
    simp [at?_remove h.ne_root]
  obtain ⟨before, name, -, hbefore, hmove, hup, -, -⟩ := h.aims.exists_concat hgone
  rw [removeAll, locateDirectory_of_find hfind, hlocate]
  simp only [hcleared, hbefore, List.getLast?_concat]
  split
  · rename_i heq; cases heq
  · rename_i heq; cases heq
  · rename_i heq; exact absurd (Option.some.inj heq) hmove.2
  · rename_i heq; exact absurd (Option.some.inj heq) hup
  · rfl

end ApiStencil.Disk

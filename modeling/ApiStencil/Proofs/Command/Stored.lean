import ApiStencil.Proofs.Command.Frame

/-!
# The files of a run on the disk

Once the files of a run have been written, each of them is found under its path, however that and
the output directory are spelled: writing a file keeps all directories, so every path still leads
where it did. Where several paths lead to one place, the file that came last is there. The other
files are those that were on the disk before and did not lie in the output directory.

## Main definitions

* `Disk.lastFileAt?`: the last of some files whose path leads to a location
* `Disk.Adds`: a disk with some files more than another
* `Disk.LiesIn`: a location in a directory or below it
* `Disk.Stores`: a disk with some files in place of what was in a directory

## Main results

* `Session.adds_writeRendered`: what one more file changes
* `Session.adds_writeFiles`: the files that are added
* `Session.stores_writeOutput`: what is on the disk after the files of a run
-/

namespace ApiStencil

namespace Disk

variable {disk middle next : Disk} {dir path : String} {location base : Location}
  {files written : List RenderedFile} {file : RenderedFile}

/-- Only a path that ends in a slash could lead elsewhere than what is made under it. -/
theorem locate_eq_ok_of_place (hslash : Path.endsInSlash path = false)
    (h : disk.place path = .ok location) : disk.locate path = .ok location := by
  have hempty : path ≠ "" := (follow_eq_ok_iff.mp h).1
  rwa [locate, ← Path.trimmedSegments_of_not_endsInSlash hempty hslash]

/-! ## The last file -/

/-- The last of some files in a directory whose path leads to a location. -/
def lastFileAt? (disk : Disk) (dir : String) (files : List RenderedFile) (location : Location) :
    Option RenderedFile :=
  files.reverse.find? fun file => disk.locate (Path.join dir file.path) = .ok location

theorem lastFileAt?_concat : disk.lastFileAt? dir (files ++ [file]) location =
    if disk.locate (Path.join dir file.path) = .ok location then some file
    else disk.lastFileAt? dir files location := by
  rw [lastFileAt?, List.reverse_append, List.reverse_singleton, List.singleton_append,
    List.find?_cons]
  by_cases h : disk.locate (Path.join dir file.path) = .ok location
  · simp [h]
  · simp [h, lastFileAt?]

theorem mem_of_lastFileAt? (h : disk.lastFileAt? dir files location = some file) : file ∈ files :=
  List.mem_reverse.mp (List.mem_of_find?_eq_some h)

/-- Where a path leads there is a last file. -/
theorem exists_lastFileAt? (hfile : file ∈ files)
    (h : disk.locate (Path.join dir file.path) = .ok location) :
    ∃ last, disk.lastFileAt? dir files location = some last := by
  refine Option.isSome_iff_exists.mp (List.find?_isSome.mpr ⟨file, List.mem_reverse.mpr hfile, ?_⟩)
  exact decide_eq_true h

/-- The last file stays the same as long as the directories are kept. -/
theorem lastFileAt?_of_directories (hhome : next.home = disk.home)
    (hkept : ∀ location, disk.at? location = some .directory → next.at? location = some .directory)
    (hfound : ∀ file ∈ files, ∃ location, disk.locate (Path.join dir file.path) = .ok location) :
    next.lastFileAt? dir files location = disk.lastFileAt? dir files location := by
  simp only [lastFileAt?, ← List.head?_filter]
  refine congrArg List.head? (List.filter_congr fun file hfile => ?_)
  obtain ⟨found, hlocate⟩ := hfound file (List.mem_reverse.mp hfile)
  rw [locate_of_directories hhome hkept hlocate, hlocate]

/-! ## Adding files -/

/-- The next disk has some files in a directory added. The path of each leads to a location, where
the last of those with this location lies, and no directory and no other file is changed. -/
structure Adds (dir : String) (files : List RenderedFile) (disk next : Disk) : Prop where
  home : next.home = disk.home
  directories : ∀ location, disk.at? location = some .directory →
    next.at? location = some .directory
  found : ∀ file ∈ files, ∃ location, next.locate (Path.join dir file.path) = .ok location
  contents : ∀ location file, next.lastFileAt? dir files location = some file →
    next.at? location = some (.file (.text file.contents))
  others : ∀ location, next.lastFileAt? dir files location = none → ∀ contents,
    next.at? location = some (.file contents) ↔ disk.at? location = some (.file contents)

theorem adds_nil (dir : String) (disk : Disk) : disk.Adds dir [] disk :=
  ⟨rfl, fun _ h => h, by simp, by simp [lastFileAt?], fun _ _ _ => Iff.rfl⟩

/-- Directories can be made meanwhile. -/
theorem Adds.grows (h : disk.Adds dir files middle) (hgrows : middle.Grows next) :
    disk.Adds dir files next := by
  have hlast (location : Location) :
      next.lastFileAt? dir files location = middle.lastFileAt? dir files location :=
    lastFileAt?_of_directories hgrows.home (fun other => hgrows.kept other .directory) h.found
  refine ⟨hgrows.home.trans h.home, fun location hdir => ?_, fun file hfile => ?_,
    fun location file hfile => ?_, fun location hnone contents => ?_⟩
  · exact hgrows.kept location .directory (h.directories location hdir)
  · obtain ⟨location, hlocate⟩ := h.found file hfile
    exact ⟨location, hgrows.locate hlocate⟩
  · rw [hlast] at hfile
    exact hgrows.kept location _ (h.contents location file hfile)
  · rw [hlast] at hnone
    rw [← h.others location hnone]
    exact ⟨hgrows.noFile location contents, hgrows.kept location _⟩

/-- One more file is found under its path, and takes the place of one that was there. -/
theorem Adds.writeFile (h : disk.Adds dir files middle)
    (hwrite : middle.writeFile (Path.join dir file.path) (.text file.contents) = .ok next) :
    disk.Adds dir (files ++ [file]) next := by
  obtain ⟨place, hplace, hslash, hne, rfl⟩ := writeFile_eq_ok_iff_place.mp hwrite
  have hat (location : Location) := at?_put (.file (.text file.contents))
    (accepts_of_place hplace hne) location
  have hhome := middle.home_put place (.file (.text file.contents))
  have hkept (location : Location) (hdir : middle.at? location = some .directory) :
      (middle.put place (.file (.text file.contents))).at? location = some .directory := by
    rwa [hat, if_neg]
    rintro rfl
    exact hne hdir
  have hlocate := locate_of_directories hhome hkept (locate_eq_ok_of_place hslash hplace)
  have hlast (location : Location) :
      (middle.put place (.file (.text file.contents))).lastFileAt? dir (files ++ [file]) location =
        if location = place then some file else middle.lastFileAt? dir files location := by
    rw [lastFileAt?_concat, hlocate, lastFileAt?_of_directories hhome hkept h.found]
    simp only [Except.ok.injEq, eq_comm]
  refine ⟨hhome.trans h.home, fun location hdir => hkept location (h.directories location hdir),
    fun other hother => ?_, fun location last hfile => ?_, fun location hnone contents => ?_⟩
  · rcases List.mem_append.mp hother with hother | hother
    · obtain ⟨location, hfound⟩ := h.found other hother
      exact ⟨location, locate_of_directories hhome hkept hfound⟩
    · obtain rfl := List.mem_singleton.mp hother
      exact ⟨place, hlocate⟩
  · rw [hlast] at hfile
    rw [hat]
    split_ifs at hfile ⊢
    · rw [Option.some.inj hfile]
    · exact h.contents location last hfile
  · rw [hlast] at hnone
    split_ifs at hnone with hplaced
    rw [hat, if_neg hplaced]
    exact h.others location hnone contents

/-! ## The output directory -/

/-- A location lies in the directory that a path leads to, or below it. -/
def LiesIn (disk : Disk) (dir : String) (location : Location) : Prop :=
  ∃ base, disk.locate dir = .ok base ∧ base <+: location

theorem liesIn_iff (h : disk.locate dir = .ok base) :
    disk.LiesIn dir location ↔ base <+: location :=
  ⟨fun ⟨_, hlocate, hbelow⟩ => Except.ok.inj (hlocate.symm.trans h) ▸ hbelow,
    fun hbelow => ⟨base, h, hbelow⟩⟩

/-- No file lies in a directory any more, and all others are still there. -/
def Frees (dir : String) (disk next : Disk) : Prop :=
  ∀ location contents, next.at? location = some (.file contents) ↔
    disk.at? location = some (.file contents) ∧ ¬disk.LiesIn dir location

theorem frees_self (h : ∀ location contents, disk.LiesIn dir location →
    disk.at? location ≠ some (.file contents)) : disk.Frees dir disk :=
  fun location contents =>
    ⟨fun hat => ⟨hat, fun hin => h location contents hin hat⟩, fun hat => hat.1⟩

/-- No file lies where a path leads to nothing. -/
theorem frees_of_kind?_eq_none (h : disk.kind? dir = none) : disk.Frees dir disk := by
  refine frees_self fun location contents => ?_
  rintro ⟨base, hlocate, hbelow⟩ hat
  cases hbase : disk.at? base with
  | none => simp [at?_eq_none_below hbase hbelow] at hat
  | some entry =>
    have hfind : disk.find dir = .ok entry := find_eq_ok_iff.mpr ⟨base, hlocate, hbase⟩
    simp [kind?, hfind] at h

/-- No file lies in a directory without names. -/
theorem frees_of_childNames (hlocate : disk.locate dir = .ok base)
    (hdir : disk.at? base = some .directory) (h : disk.childNames dir = .ok []) :
    disk.Frees dir disk := by
  obtain ⟨names, hnames, hnil⟩ := childNames_eq_ok hlocate hdir
  have hnone := hnil.mp (Except.ok.inj (hnames.symm.trans h))
  refine frees_self fun location contents hin hat => ?_
  obtain ⟨rest, rfl⟩ := (liesIn_iff hlocate).mp hin
  cases rest with
  | nil => simp [hdir] at hat
  | cons name rest =>
    have hchild : base ++ [name] <+: base ++ name :: rest :=
      (List.prefix_append_right_inj base).mpr (List.prefix_append [name] rest)
    simp [at?_eq_none_below (hnone name) hchild] at hat

theorem at?_restrict_eq_file_iff (p : Location → Bool)
    (hp : ∀ location, p location = true → p location.dropLast = true) {contents : Contents} :
    (disk.restrict p hp).at? location = some (.file contents) ↔
      disk.at? location = some (.file contents) ∧ p location = true := by
  by_cases hroot : location = []
  · subst hroot
    exact iff_of_false nofun nofun
  · rw [at?_restrict _ _ _ hroot]
    cases p location <;> simp

theorem frees_remove (hlocate : disk.locate dir = .ok base) :
    disk.Frees dir (disk.remove base) := by
  intro location contents
  rw [remove, at?_restrict_eq_file_iff, liesIn_iff hlocate, ← List.isPrefixOf_iff_prefix,
    Bool.not_eq_true', Bool.not_eq_true]

theorem frees_prune (hlocate : disk.locate dir = .ok base)
    (hdir : disk.at? base = some .directory) : disk.Frees dir (disk.prune base) := by
  intro location contents
  rw [prune, at?_restrict_eq_file_iff, liesIn_iff hlocate, isBelow]
  refine and_congr_right fun hat => ?_
  have hne : location ≠ base := by
    rintro rfl
    simp [hdir] at hat
  simp [hne, ← List.isPrefixOf_iff_prefix]

/-- No file is left in a directory that has been removed with all that lies below it. -/
theorem frees_removeAll (hlocate : disk.locate dir = .ok base)
    (hdir : disk.at? base = some .directory) : disk.Frees dir (disk.removeAll dir).2 := by
  have hpruned := frees_prune hlocate hdir
  have hlocated := locateDirectory_of_find (find_eq_ok_iff.mpr ⟨base, hlocate, hdir⟩)
  rw [removeAll, hlocated, hlocate]
  simp only
  split
  · exact hpruned
  · exact hpruned
  · exact hpruned
  · exact hpruned
  · exact frees_remove hlocate

/-- The next disk has some files in place of those that were in a directory. The path of each leads
to a location, where the last of those with this location lies. The other files are those that were
on the disk before and did not lie in the directory. -/
structure Stores (dir : String) (files : List RenderedFile) (disk next : Disk) : Prop where
  found : ∀ file ∈ files, ∃ location, next.locate (Path.join dir file.path) = .ok location
  contents : ∀ location file, next.lastFileAt? dir files location = some file →
    next.at? location = some (.file (.text file.contents))
  others : ∀ location, next.lastFileAt? dir files location = none → ∀ contents,
    next.at? location = some (.file contents) ↔
      disk.at? location = some (.file contents) ∧ ¬disk.LiesIn dir location

theorem Adds.stores (h : middle.Adds dir files next) (hfree : disk.Frees dir middle) :
    disk.Stores dir files next where
  found := h.found
  contents := h.contents
  others location hnone contents :=
    (h.others location hnone contents).trans (hfree location contents)

/-- A file can be read under its path. -/
theorem Stores.readText_eq_ok (h : disk.Stores dir files next) (hfile : file ∈ files) :
    ∃ location last, next.locate (Path.join dir file.path) = .ok location ∧
      next.lastFileAt? dir files location = some last ∧
      next.readText (Path.join dir file.path) = .ok last.contents := by
  obtain ⟨location, hlocate⟩ := h.found file hfile
  obtain ⟨last, hlast⟩ := exists_lastFileAt? hfile hlocate
  have hfind : next.find (Path.join dir file.path) = .ok (.file (.text last.contents)) :=
    find_eq_ok_iff.mpr ⟨location, hlocate, h.contents location last hlast⟩
  exact ⟨location, last, hlocate, hlast, by rw [readText, hfind]; rfl⟩

end Disk

namespace Session

variable {session next : Session} {disk : Disk} {dir : String} {force : Bool}
  {files written : List RenderedFile} {file : RenderedFile}

theorem run_orFail_eq_ok {α : Type} {outcome : Except DiskFault α} {fault : DiskFault → Fault}
    {a : α} (h : session.run (orFail fault outcome) = (.ok a, next)) :
    outcome = .ok a ∧ next = session := by
  rw [run_orFail] at h
  cases outcome with
  | error _ => cases h
  | ok _ =>
    cases h
    exact ⟨rfl, rfl⟩

/-- A text that has been written was given to a file of the disk. -/
theorem run_writeContents_eq_ok {path contents : String}
    (h : session.run (writeContents path contents) = (.ok (), next)) :
    session.disk.writeFile path (.text contents) = .ok next.disk := by
  obtain ⟨outcome, middle, hwrite, h⟩ := run_bind_eq_ok h
  obtain ⟨⟨⟩, opened, hfail, hreport⟩ := run_bind_eq_ok h
  obtain ⟨rfl, rfl⟩ := run_orFail_eq_ok hfail
  cases hreport
  rw [run_writeText] at hwrite
  cases hfile : session.disk.writeFile path (.text contents) with
  | error fault => simp [hfile] at hwrite
  | ok disk =>
    rw [hfile] at hwrite
    cases hwrite
    rfl

/-- One more file is added to those that have been written. -/
theorem adds_writeRendered (hadds : disk.Adds dir written session.disk)
    (h : session.run (writeRendered dir file) = (.ok (), next)) :
    disk.Adds dir (written ++ [file]) next.disk := by
  rw [writeRendered_eq] at h
  obtain ⟨⟨⟩, opened, hopen, hwrite⟩ := run_bind_eq_ok h
  exact (hadds.grows ((grows_openParent _).of_run hopen)).writeFile
    (run_writeContents_eq_ok hwrite)

/-- The run over the files adds all of them. -/
theorem adds_writeFiles (hadds : disk.Adds dir written session.disk)
    (h : session.run (files.forM (writeRendered dir)) = (.ok (), next)) :
    disk.Adds dir (written ++ files) next.disk := by
  induction files generalizing session written with
  | nil =>
    cases h
    rwa [List.append_nil]
  | cons file files ih =>
    obtain ⟨⟨⟩, middle, hfile, hrest⟩ := run_bind_eq_ok h
    rw [List.append_cons]
    exact ih (adds_writeRendered hadds hfile) hrest

/-- Clearing an output directory takes the files in it away and no others. -/
theorem frees_clearOutput (hfind : session.disk.find dir = .ok .directory)
    (h : session.run (clearOutput dir force) = (.ok (), next)) :
    session.disk.Frees dir next.disk := by
  obtain ⟨base, hlocate, hdir⟩ := Disk.find_eq_ok_iff.mp hfind
  obtain ⟨outcome, listed, hlist, h⟩ := run_bind_eq_ok h
  rw [run_childNames] at hlist
  cases hlist
  obtain ⟨names, taken, hnames, h⟩ := run_bind_eq_ok h
  obtain ⟨hnames, rfl⟩ := run_orFail_eq_ok hnames
  cases names with
  | nil =>
    cases h
    exact Disk.frees_of_childNames hlocate hdir hnames
  | cons name names =>
    cases force with
    | false => cases h
    | true =>
      obtain ⟨⟨⟩, told, hreport, h⟩ := run_bind_eq_ok h
      cases hreport
      obtain ⟨removed, cleared, hremove, h⟩ := run_bind_eq_ok h
      rw [run_removeAll] at hremove
      cases hremove
      obtain ⟨-, rfl⟩ := run_orFail_eq_ok h
      exact Disk.frees_removeAll hlocate hdir

/-- An output directory that has been prepared has no file in it. -/
theorem frees_prepareOutput (h : session.run (prepareOutput dir force) = (.ok (), next)) :
    session.disk.Frees dir next.disk := by
  obtain ⟨middle, hfree, hgrows, -⟩ := run_prepareOutput_eq_ok h
  have hfreed : session.disk.Frees dir middle.disk := by
    rw [freeOutput, run_bind, run_kind?] at hfree
    cases hkind : session.disk.kind? dir with
    | none =>
      rw [hkind] at hfree
      cases hfree
      exact Disk.frees_of_kind?_eq_none hkind
    | some kind =>
      rw [hkind] at hfree
      cases kind with
      | file => cases hfree
      | directory => exact frees_clearOutput (Disk.kind?_eq_directory_iff.mp hkind) hfree
  intro location contents
  rw [← hfreed location contents]
  exact ⟨hgrows.noFile location contents, hgrows.kept location _⟩

/-- **The files of a run on the disk.** Once the files of a run have been written, each is found
under its path, unless a later one has taken its place. All other files are as they were, but for
those in the output directory, which are gone. -/
theorem stores_writeOutput (h : session.run (writeOutput dir files force) = (.ok (), next)) :
    session.disk.Stores dir files next.disk := by
  obtain ⟨⟨⟩, middle, hprepare, hwrite⟩ := run_bind_eq_ok h
  have hadds : middle.disk.Adds dir ([] ++ files) next.disk :=
    adds_writeFiles (Disk.adds_nil dir middle.disk) hwrite
  exact hadds.stores (frees_prepareOutput hprepare)

end Session

end ApiStencil

import ApiStencil.Proofs.Command.OutputTree

/-!
# Writing files to an output directory

Writing the files of a run succeeds exactly when nothing is in the way: no file at the directory or
above it, nothing in the directory that may not be cleared, and no file that would have to be a
directory for another one. The invariant of the run over the files is `Disk.Written`: the disk
holds what the files so far make.

## Main definitions

* `Disk.Reaches`: a path of an output directory that still aims there after it has been cleared
* `Disk.Admits`: when some files can be written to a directory

## Main results

* `Session.run_prepareOutput_of_reaches`: the output directory is empty before the first file
* `Session.run_writeRendered`: what writing one file changes
* `Session.run_writeRendered_of_written`: one more file keeps the invariant
* `Session.run_writeFiles_of_aims`: when all files can be written
* `Session.run_writeOutput`: when the files of a run can be written, and what is there then
-/

namespace ApiStencil

/-- Whatever lay below a directory is gone, and all that does not lie there is as it was. -/
structure Disk.Cleared (disk : Disk) (base : Location) (next : Disk) : Prop where
  home : next.home = disk.home
  noFile : ∀ contents, next.at? base ≠ some (.file contents)
  below : ∀ rest, rest ≠ [] → next.at? (base ++ rest) = none
  outside : ∀ location, ¬base <+: location → next.at? location = disk.at? location

theorem Disk.cleared_self {disk : Disk} {base : Location}
    (hbase : ∀ contents, disk.at? base ≠ some (.file contents))
    (h : ∀ name, disk.at? (base ++ [name]) = none) : disk.Cleared base disk := by
  refine ⟨rfl, hbase, fun rest hne => ?_, fun _ _ => rfl⟩
  obtain ⟨name, more, rfl⟩ := List.exists_cons_of_ne_nil hne
  exact at?_eq_none_below (h name)
    ((List.prefix_append_right_inj base).mpr (List.prefix_append [name] more))

theorem Disk.cleared_remove {disk : Disk} {base : Location} (hne : base ≠ []) :
    disk.Cleared base (disk.remove base) := by
  refine ⟨rfl, ?_, fun rest _ => ?_, fun location hbase => ?_⟩
  · rw [at?_remove hne, if_pos (List.prefix_refl _)]
    simp
  · rw [at?_remove hne, if_pos (List.prefix_append _ _)]
  · rw [at?_remove hne, if_neg hbase]

theorem Disk.Cleared.unblocked {disk next : Disk} {base : Location} (h : disk.Cleared base next)
    (hfree : disk.Unblocked base) : next.Unblocked base := by
  intro above habove
  by_cases hbase : base <+: above
  · obtain rfl : above = base := habove.eq_of_length_le hbase.length_le
    exact h.noFile
  · rw [h.outside above hbase]
    exact hfree above habove

/-- Once a directory is cleared and there, no file has been written. -/
theorem Disk.Cleared.written {disk middle next : Disk} {base : Location}
    (h : disk.Cleared base middle) (h' : middle.OpenedTo base next) :
    disk.Written base [] next := by
  refine ⟨h'.home.trans h.home, fun location => ?_⟩
  rw [h'.at?]
  by_cases hbase : base <+: location
  · obtain ⟨rest, rfl⟩ := hbase
    rw [writtenAt?_append, outputAt?_of_ne (by simp)]
    by_cases hrest : rest = []
    · simp [hrest]
    · rw [if_neg (not_append_isPrefix hrest), h.below rest hrest]
      simp [hrest]
  · rw [writtenAt?_outside hbase, h.outside location hbase]

/-- The path of an output directory aims at a location, and by force it must do so once that has
been cleared too. -/
structure Disk.Reaches (disk : Disk) (dir : String) (base : Location) (force : Bool) : Prop where
  ne_empty : dir ≠ ""
  aims : disk.Aims dir base
  targets : force = true → disk.Targets dir base

theorem Disk.Targets.reaches {disk : Disk} {dir : String} {base : Location}
    (h : disk.Targets dir base) (force : Bool) : disk.Reaches dir base force :=
  ⟨h.ne_empty, h.aims_self, fun _ => h⟩

/-- A directory is missing, or there is nothing in it, or it may be cleared. -/
def Disk.MayClear (disk : Disk) (base : Location) (force : Bool) : Prop :=
  disk.at? base = none ∨ (∀ name, disk.at? (base ++ [name]) = none) ∨ force = true

/-- A path that names a file below a directory. -/
structure RenderedFile.IsPlain (file : RenderedFile) : Prop where
  normal : Path.IsNormal file.path
  names_ne_nil : file.names ≠ []
  noSlash : Path.endsInSlash file.path = false

instance (file : RenderedFile) : Decidable file.IsPlain :=
  decidable_of_iff
    (Path.IsNormal file.path ∧ file.names ≠ [] ∧ Path.endsInSlash file.path = false)
    ⟨fun h => ⟨h.1, h.2.1, h.2.2⟩, fun h => ⟨h.normal, h.names_ne_nil, h.noSlash⟩⟩

/-- A name is a path of a file, unless it stands for a directory. -/
theorem RenderedFile.isPlain_of_notMem {cs : List Char} (h : '/' ∉ cs) (hne : cs ≠ [])
    (hdot : cs ≠ ['.'] ∧ cs ≠ ['.', '.']) (contents : String) :
    IsPlain ⟨String.ofList cs, contents⟩ := by
  have hnames : Path.names (String.ofList cs) = [String.ofList cs] :=
    Path.names_of_notMem h hne
  refine ⟨⟨?_, fun name hname => ?_⟩, by simp [RenderedFile.names, hnames], ?_⟩
  · rw [Path.isAbsolute, String.toList_ofList, decide_eq_false_iff_not]
    exact fun hhead => h (List.mem_of_head? hhead)
  · rw [hnames, List.mem_singleton] at hname
    subst hname
    exact ⟨fun heq => hdot.1 (String.ofList_injective heq),
      fun heq => hdot.2 (String.ofList_injective heq)⟩
  · rw [Path.endsInSlash, String.toList_ofList, decide_eq_false_iff_not]
    exact fun hlast => h (List.mem_of_getLast? hlast)

/-- Some files can be written to a directory. No file is at the directory or above it, what is in
it may be cleared, none of the files would lie below another one, and the system permits all the
paths. -/
structure Disk.Admits (disk : Disk) (dir : String) (files : List RenderedFile) (force : Bool) :
    Prop where
  unblocked : disk.Unblocked (disk.locationOf dir)
  mayClear : disk.MayClear (disk.locationOf dir) force
  noneNested : NoneNested files
  fits : Disk.Fits dir ∧ ∀ file ∈ files, Disk.Fits (Path.join dir file.path)

namespace Session

variable {session : Session} {dir path : String}

/-! ## The output directory -/

/-- A directory that has been cleared can be made again. -/
theorem run_createDirectories_of_cleared {middle : Session} {base : Location}
    (haims : middle.disk.Aims dir base) (hfits : Disk.Fits dir)
    (hfree : session.disk.Unblocked base) (h : session.disk.Cleared base middle.disk) :
    ∃ next, middle.run (createDirectories dir) = (.ok (.ok ()), next) ∧
      next.disk.Aims dir base ∧ session.disk.Written base [] next.disk := by
  obtain ⟨outcome, next, hrun, hiff, hopen, -⟩ := opens_createDirectories haims
  obtain rfl := hiff.mpr ⟨hfits, h.unblocked hfree⟩
  have hopen := hopen rfl
  exact ⟨next, hrun, haims.of_directories hopen.home fun _ => hopen.directory, h.written hopen⟩

section Reaches

variable {base : Location} {force : Bool} (hreaches : session.disk.Reaches dir base force)
include hreaches

/-- A directory is cleared if there is nothing in it, or by force. -/
theorem run_clearOutput (hfind : session.disk.find dir = .ok .directory) :
    ∃ result next, session.run (clearOutput dir force) = (result, next) ∧
      (result = .ok () ↔
        (∀ name, session.disk.at? (base ++ [name]) = none) ∨ force = true) ∧
      (result = .ok () → next.disk.Aims dir base ∧ session.disk.Cleared base next.disk) := by
  obtain ⟨hfits, hdir⟩ := hreaches.aims.find_eq_ok hfind
  have hlocate := hreaches.aims.locate_of_directory hreaches.ne_empty hfits hdir
  have hnoFile : ∀ contents, session.disk.at? base ≠ some (.file contents) := by simp [hdir]
  obtain ⟨names, hnames, hnil⟩ := Disk.childNames_eq_ok hlocate hdir
  have hlist : session.run (childNames dir >>= orFail .io) = (.ok names, session) :=
    run_orFail_of_run (by rw [run_childNames, hnames]) .io
  rw [clearOutput, ← bind_assoc, run_bind, hlist]
  by_cases hnames : names = []
  · subst hnames
    have hnone := hnil.mp rfl
    exact ⟨.ok (), session, rfl, iff_of_true rfl (Or.inl hnone),
      fun _ => ⟨hreaches.aims, Disk.cleared_self hnoFile hnone⟩⟩
  · have hisEmpty : names.isEmpty = false := by simpa using hnames
    simp only [hisEmpty, Bool.false_eq_true, if_false]
    cases force with
    | false =>
      refine ⟨.error (.workspace (.outputNotEmpty dir)), session, rfl,
        iff_of_false (by simp) ?_, by simp⟩
      simpa [← hnil] using hnames
    | true =>
      have htargets := hreaches.targets rfl
      refine ⟨.ok (), { disk := session.disk.remove base
                        events := session.events ++ [Log.clearingOutput dir] }, ?_,
        iff_of_true rfl (Or.inr rfl),
        fun _ => ⟨htargets.aims, Disk.cleared_remove htargets.ne_root⟩⟩
      simp only [Bool.not_true, Bool.false_eq_true, if_false]
      rw [run_bind, run_report]
      simp only
      rw [run_orFail_of_run (run_removeAll _ dir)]
      simp only [htargets.removeAll_eq hfind]
      rfl

/-- A path that fits and that nothing blocks leads nowhere only if nothing is there. -/
theorem at?_eq_none_of_kind? (hkind : session.disk.kind? dir = none) (hfits : Disk.Fits dir)
    (hfree : session.disk.Unblocked base) : session.disk.at? base = none := by
  by_contra hne
  have hfind := (hreaches.aims.find_eq_directory_iff hreaches.ne_empty).mpr
    ⟨hfits, hfree.eq_directory hne⟩
  rw [Disk.kind?_eq_directory_iff.mpr hfind] at hkind
  cases hkind

/-- The output directory is there and empty before the first file, if it can be made and cleared. -/
theorem run_prepareOutput_of_reaches :
    ∃ result next, session.run (prepareOutput dir force) = (result, next) ∧
      (result = .ok () ↔ Disk.Fits dir ∧ session.disk.Unblocked base ∧
        session.disk.MayClear base force) ∧
      (result = .ok () → next.disk.Aims dir base ∧ session.disk.Written base [] next.disk) := by
  rw [prepareOutput, run_bind, run_kind?]
  cases hkind : session.disk.kind? dir with
  | none =>
    have hmissing := at?_eq_none_of_kind? hreaches hkind
    obtain ⟨outcome, next, hrun, hiff, hopen, -⟩ := opens_createDirectories hreaches.aims
    refine ⟨_, next, run_orFail_of_run hrun .io, ?_, fun hok => ?_⟩
    · rw [mapError_eq_ok_iff, hiff, ← and_assoc]
      exact (and_iff_left_of_imp fun h => Or.inl (hmissing h.1 h.2)).symm
    · have hok := mapError_eq_ok_iff.mp hok
      have hnone := hmissing (hiff.mp hok).1 (hiff.mp hok).2
      have hcleared : session.disk.Cleared base session.disk :=
        Disk.cleared_self (by simp [hnone])
          fun name => Disk.at?_eq_none_below hnone (List.prefix_append _ _)
      have hopen := hopen hok
      exact ⟨hreaches.aims.of_directories hopen.home fun _ => hopen.directory,
        hcleared.written hopen⟩
  | some kind =>
    obtain ⟨entry, hfind, rfl⟩ := Disk.kind?_eq_some_iff.mp hkind
    obtain ⟨hfits, hat⟩ := hreaches.aims.find_eq_ok hfind
    cases entry with
    | file contents =>
      refine ⟨.error (.workspace (.outputNotADirectory dir)), session, rfl,
        iff_of_false (by simp) ?_, by simp⟩
      rintro ⟨-, hfree, -⟩
      exact hfree _ (List.prefix_refl _) contents hat
    | directory =>
      have hfree := Disk.unblocked_of_directory hat
      obtain ⟨result, middle, hclear, hiff, hcleared⟩ := run_clearOutput hreaches hfind
      simp only [Entry.kind]
      rw [run_bind, hclear]
      cases result with
      | error fault =>
        refine ⟨.error fault, middle, rfl, iff_of_false (by simp) ?_, by simp⟩
        rintro ⟨-, -, hmay⟩
        have := hiff.mpr (hmay.resolve_left (by simp [hat]))
        cases this
      | ok _ =>
        obtain ⟨haims, hcleared⟩ := hcleared rfl
        obtain ⟨next, hrun, hwritten⟩ :=
          run_createDirectories_of_cleared haims hfits hfree hcleared
        exact ⟨.ok (), next, run_orFail_of_run hrun .io,
          iff_of_true rfl ⟨hfits, hfree, Or.inr (hiff.mp rfl)⟩, fun _ => hwritten⟩

end Reaches

/-- A relative path without `.` and `..` reaches the location that its names give. -/
theorem run_prepareOutput (session : Session) (force : Bool)
    (hhome : session.disk.at? session.disk.home = some .directory)
    (hnormal : Path.IsNormal dir) (hempty : dir ≠ "") :
    ∃ result next, session.run (prepareOutput dir force) = (result, next) ∧
      (result = .ok () ↔ Disk.Fits dir ∧ session.disk.Unblocked (session.disk.locationOf dir) ∧
        session.disk.MayClear (session.disk.locationOf dir) force) ∧
      (result = .ok () → session.disk.Written (session.disk.locationOf dir) [] next.disk) := by
  have htargets := Disk.targets_of_isNormal hhome hnormal hempty
  obtain ⟨result, next, hrun, hiff, hnext⟩ :=
    run_prepareOutput_of_reaches (htargets.reaches force)
  exact ⟨result, next, hrun, hiff, fun hok => (hnext hok).2⟩

/-! ## One file -/

section File

variable {outer : Location} {name : String}

/-- A file can be written in a directory that is there, unless it would replace a directory. -/
theorem run_writeText_of_directory (text : String)
    (haims : session.disk.Aims path (outer ++ [name])) (hempty : path ≠ "")
    (hslash : Path.endsInSlash path = false)
    (houter : session.disk.at? outer = some .directory) :
    ∃ outcome next, session.run (writeText path text) = (.ok outcome, next) ∧
      (outcome = .ok () ↔ Disk.Fits path ∧
        session.disk.at? (outer ++ [name]) ≠ some .directory) ∧
      (outcome = .ok () → next.disk.home = session.disk.home ∧
        ∀ location, next.disk.at? location =
          if location = outer ++ [name] then some (.file (.text text))
          else session.disk.at? location) := by
  have hiff {next : Disk} : session.disk.writeFile path (.text text) = .ok next ↔
      Disk.Fits path ∧ session.disk.at? outer = some .directory ∧
        session.disk.at? (outer ++ [name]) ≠ some .directory ∧
        next = session.disk.put (outer ++ [name]) (.file (.text text)) := by
    rw [haims.writeFile_eq_ok_iff hempty hslash, List.dropLast_concat]
  rw [run_writeText]
  cases hwrite : session.disk.writeFile path (.text text) with
  | error fault =>
    refine ⟨.error fault, session, rfl, iff_of_false (by simp) ?_, by simp⟩
    rintro ⟨hfits, hne⟩
    have := hiff.mpr ⟨hfits, houter, hne, rfl⟩
    rw [hwrite] at this
    cases this
  | ok disk =>
    obtain ⟨hfits, -, hne, rfl⟩ := hiff.mp hwrite
    have haccepts : session.disk.Accepts (outer ++ [name]) := by
      refine ⟨hne, ?_⟩
      rwa [List.dropLast_concat]
    exact ⟨.ok (), _, rfl, iff_of_true rfl ⟨hfits, hne⟩,
      fun _ => ⟨Disk.home_put _ _, Disk.at?_put _ haccepts⟩⟩

/-- A file can be written if nothing is in the way of its directories and of itself. What changes
is the file and the directories that it lies in. -/
theorem run_writeRendered {file : RenderedFile} {moves : List String}
    (hpath : Path.join dir file.path = path) (haims : session.disk.Aims path (outer ++ [name]))
    (hmoves : Path.moves path = moves ++ [name]) (hname : name ≠ "..")
    (hslash : Path.endsInSlash path = false) :
    ∃ result next, session.run (writeRendered dir file) = (result, next) ∧
      (result = .ok () ↔ Disk.Fits path ∧ session.disk.Unblocked outer ∧
        session.disk.at? (outer ++ [name]) ≠ some .directory) ∧
      (result = .ok () → next.disk.home = session.disk.home ∧
        ∀ location, next.disk.at? location =
          if location = outer ++ [name] then some (.file (.text file.contents))
          else if location <+: outer then some .directory
          else session.disk.at? location) := by
  have hempty : path ≠ "" := by rintro rfl; simp [Path.moves_empty] at hmoves
  obtain ⟨parent, base, hparent, -, hpaims, hbase, hpfits⟩ := haims.parent hmoves hname
  obtain ⟨rfl, -⟩ := List.append_inj' hbase rfl
  obtain ⟨outcome, middle, hrun, hiff, hopen, -⟩ := opens_createDirectories hpaims
  unfold writeRendered
  simp only [hpath, hparent]
  rw [run_bind, hrun]
  simp only [run_bind, run_orFail]
  cases outcome with
  | error fault =>
    refine ⟨.error (.workspace (.cannotCreate parent fault)), middle, rfl,
      iff_of_false (by simp) ?_, by simp⟩
    rintro ⟨hfits, hfree, -⟩
    have := hiff.mpr ⟨hpfits hfits, hfree⟩
    cases this
  | ok _ =>
    have hopen := hopen rfl
    have houter : middle.disk.at? outer = some .directory := by
      rw [hopen.at?, if_pos (List.prefix_refl _)]
    have hsame : middle.disk.at? (outer ++ [name]) = session.disk.at? (outer ++ [name]) := by
      rw [hopen.at?, if_neg (Disk.not_append_isPrefix (List.cons_ne_nil _ _))]
    have haims' : middle.disk.Aims path (outer ++ [name]) :=
      haims.of_directories hopen.home fun location => hopen.directory
    obtain ⟨outcome, next, hwrite, hiff', hnext⟩ :=
      run_writeText_of_directory file.contents haims' hempty hslash houter
    simp only [Except.mapError, hwrite]
    cases outcome with
    | error fault =>
      refine ⟨.error (.workspace (.cannotWrite path fault)), next, rfl,
        iff_of_false (by simp) ?_, by simp⟩
      rintro ⟨hfits, -, hne⟩
      have := hiff'.mpr ⟨hfits, by rwa [hsame]⟩
      cases this
    | ok _ =>
      obtain ⟨hfits, hne⟩ := hiff'.mp rfl
      obtain ⟨hhome, hat⟩ := hnext rfl
      refine ⟨.ok (), _, rfl, iff_of_true rfl ⟨hfits, (hiff.mp rfl).2, by rwa [← hsame]⟩,
        fun _ => ⟨hhome.trans hopen.home, fun location => ?_⟩⟩
      rw [← hopen.at?]
      exact hat location

end File

/-! ## All files -/

section Files

variable {disk : Disk} {base : Location} {written files : List RenderedFile} {file : RenderedFile}

/-- One more file can be written unless it would be nested with those before it or does not fit,
and then the disk holds that file too. -/
theorem run_writeRendered_of_written (hdir : session.disk.Aims dir base)
    (hfiles : ∀ other ∈ written ++ [file], other.IsPlain) (hnone : NoneNested written)
    (hwritten : disk.Written base written session.disk) :
    ∃ result next, session.run (writeRendered dir file) = (result, next) ∧
      (result = .ok () ↔ NoneNested (written ++ [file]) ∧
        Disk.Fits (Path.join dir file.path)) ∧
      (result = .ok () → next.disk.Aims dir base ∧
        disk.Written base (written ++ [file]) next.disk) := by
  have hfile : file.IsPlain := hfiles file (by simp)
  have hne : ∀ other ∈ written, other.names ≠ [] :=
    fun other hother => (hfiles other (List.mem_append_left _ hother)).names_ne_nil
  have hempty : file.path ≠ "" := fun heq => hfile.names_ne_nil (by
    rw [RenderedFile.names, heq, Path.names_empty])
  obtain ⟨outer, name, hnames⟩ := Path.exists_names_eq_append hfile.normal.relative hempty
  have hmoves : Path.moves (Path.join dir file.path) = Path.moves dir ++ outer ++ [name] := by
    rw [Path.moves_join hfile.normal.relative, hfile.normal.moves_eq, hnames, List.append_assoc]
  have haims : session.disk.Aims (Path.join dir file.path) (base ++ outer ++ [name]) := by
    rw [List.append_assoc, ← hnames]
    exact hdir.join hfile.normal hempty
  obtain ⟨result, next, hrun, hiff, hnext⟩ := run_writeRendered rfl haims hmoves
    (hfile.normal.ne_dot name (by simp [hnames])).2
    ((Path.endsInSlash_join hfile.normal.relative hempty).trans hfile.noSlash)
  have hlocation : base ++ outer ++ [name] = base ++ file.names := by
    rw [RenderedFile.names, hnames, List.append_assoc]
  rw [hlocation] at hiff hnext
  -- What could be in the way is among the files that have been written.
  have hiff' : result = .ok () ↔ NoneNested (written ++ [file]) ∧
      Disk.Fits (Path.join dir file.path) := by
    rw [hiff, hwritten.unblocked_iff hne, hwritten.at?, Disk.writtenAt?_append,
      noneNested_concat_iff hnames, and_iff_right hnone, and_comm]
  refine ⟨result, next, hrun, hiff', fun hok => ?_⟩
  obtain ⟨hhome, hat⟩ := hnext hok
  refine ⟨hdir.of_directories hhome fun location hthere => ?_,
    hwritten.concat (hiff'.mp hok).1 hnames hhome hat⟩
  have hother : location ≠ base ++ file.names := by
    rintro rfl
    exact (hiff.mp hok).2.2 hthere
  rw [hat, if_neg hother]
  split_ifs
  · rfl
  · exact hthere

/-- The run over the files succeeds exactly when no file is nested in another one and all paths
fit, and the disk then holds what the files make. The files written so far are the invariant. -/
theorem run_writeFiles_of_aims (hdir : session.disk.Aims dir base)
    (hfiles : ∀ file ∈ written ++ files, file.IsPlain) (hnone : NoneNested written)
    (hwritten : disk.Written base written session.disk) :
    ∃ result next, session.run (files.forM (writeRendered dir)) = (result, next) ∧
      (result = .ok () ↔ NoneNested (written ++ files) ∧
        ∀ file ∈ files, Disk.Fits (Path.join dir file.path)) ∧
      (result = .ok () → disk.Written base (written ++ files) next.disk) := by
  induction files generalizing session written with
  | nil => exact ⟨.ok (), session, rfl, by simpa using hnone, fun _ => by simpa using hwritten⟩
  | cons file files ih =>
    have hsplit : written ++ file :: files = written ++ [file] ++ files := by simp
    rw [hsplit] at hfiles ⊢
    obtain ⟨result, next, hrun, hiff, hnext⟩ := run_writeRendered_of_written hdir
      (fun other hother => hfiles other (List.mem_append_left _ hother)) hnone hwritten
    rw [List.forM, run_bind, hrun]
    cases result with
    | error fault =>
      refine ⟨.error fault, next, rfl, iff_of_false (by simp) ?_, by simp⟩
      rintro ⟨hnest, hfits⟩
      have := hiff.mpr ⟨hnest.of_subset (List.subset_append_left _ _), hfits file (by simp)⟩
      cases this
    | ok _ =>
      obtain ⟨hnest, hfits⟩ := hiff.mp rfl
      obtain ⟨hdir, hwritten⟩ := hnext rfl
      obtain ⟨result, last, hrest, hiff', hlast⟩ := ih hdir hfiles hnest hwritten
      refine ⟨result, last, hrest, ?_, hlast⟩
      rw [hiff', List.forall_mem_cons, and_iff_right hfits]

/-- A relative path without `.` and `..` still aims at its directory once there are files in it. -/
theorem run_writeFiles (hdir : Path.IsNormal dir)
    (hfiles : ∀ file ∈ written ++ files, file.IsPlain) (hnone : NoneNested written)
    (hwritten : disk.Written (disk.locationOf dir) written session.disk) :
    ∃ result next, session.run (files.forM (writeRendered dir)) = (result, next) ∧
      (result = .ok () ↔ NoneNested (written ++ files) ∧
        ∀ file ∈ files, Disk.Fits (Path.join dir file.path)) ∧
      (result = .ok () →
        disk.Written (disk.locationOf dir) (written ++ files) next.disk) := by
  have hne : ∀ other ∈ written, other.names ≠ [] :=
    fun other hother => (hfiles other (List.mem_append_left _ hother)).names_ne_nil
  have hhome : session.disk.at? session.disk.home = some .directory := by
    rw [hwritten.at?, hwritten.home]
    exact Disk.writtenAt?_above hne (List.prefix_append _ _)
  have haims := Disk.aims_of_isNormal hhome hdir
  rw [Disk.locationOf_eq_of_home hwritten.home] at haims
  exact run_writeFiles_of_aims haims hfiles hnone hwritten

end Files

/-- **Writing the files of a run.** Let the output directory be given by a relative path without
`.` and `..`, and likewise each of the files. Then writing them succeeds exactly when the disk
admits them. After that the directory holds the files, each with the contents that came last, the
directories that they lie in, and nothing else; all above the directory is there, and everything
that does not lie in it is as it was. -/
theorem run_writeOutput (session : Session) (dir : String) (files : List RenderedFile)
    (force : Bool) (hhome : session.disk.at? session.disk.home = some .directory)
    (hdir : Path.IsNormal dir) (hempty : dir ≠ "") (hfiles : ∀ file ∈ files, file.IsPlain) :
    ∃ result next, session.run (writeOutput dir files force) = (result, next) ∧
      (result = .ok () ↔ session.disk.Admits dir files force) ∧
      (result = .ok () →
        session.disk.Written (session.disk.locationOf dir) files next.disk) := by
  obtain ⟨result, middle, hprepare, hiff, hwritten⟩ :=
    run_prepareOutput session force hhome hdir hempty
  rw [writeOutput, run_bind, hprepare]
  cases result with
  | error fault =>
    refine ⟨.error fault, middle, rfl, iff_of_false (by simp) fun h => ?_, by simp⟩
    have := hiff.mpr ⟨h.fits.1, h.unblocked, h.mayClear⟩
    cases this
  | ok _ =>
    obtain ⟨hfits, hfree, hmay⟩ := hiff.mp rfl
    obtain ⟨result, next, hrun, hiff', hnext⟩ :=
      run_writeFiles hdir (by simpa using hfiles) (by simp [NoneNested]) (hwritten rfl)
    rw [List.nil_append] at hiff' hnext
    refine ⟨result, next, hrun, ?_, hnext⟩
    rw [hiff']
    exact ⟨fun h => ⟨hfree, hmay, h.1, hfits, h.2⟩, fun h => ⟨h.noneNested, h.fits.2⟩⟩

/-- A disk with a working directory and nothing else. -/
def workDisk : Disk := (Disk.empty ["work"]).put ["work"] .directory

/-- A disk with an output directory that a file has been left in. -/
def staleDisk : Disk :=
  (workDisk.put ["work", "out"] .directory).put ["work", "out", "old"] (.file (.text "0"))

/-- Files in two directories, two of them of the same path. -/
def nestedFiles : List RenderedFile := [⟨"a/b", "1"⟩, ⟨"c", "2"⟩, ⟨"a//b", "3"⟩]

/-- By force the files take the place of what was there, and the last one of a path is kept. -/
theorem run_writeOutput_stale :
    ∃ next, run ⟨staleDisk, []⟩ (writeOutput "out" nestedFiles true) = (.ok (), next) ∧
      next.disk.at? ["work", "out", "a", "b"] = some (.file (.text "3")) ∧
      next.disk.at? ["work", "out", "a"] = some .directory ∧
      next.disk.at? ["work", "out", "old"] = none := by
  obtain ⟨result, next, hrun, hiff, hwritten⟩ :=
    run_writeOutput ⟨staleDisk, []⟩ "out" nestedFiles true (by decide +kernel)
      (by decide +kernel) (by decide) (by decide +kernel)
  have hlocation : staleDisk.locationOf "out" = ["work", "out"] := by decide +kernel
  have hdir : staleDisk.at? ["work", "out"] = some .directory := by decide +kernel
  have hadmits : staleDisk.Admits "out" nestedFiles true :=
    { unblocked := hlocation ▸ Disk.unblocked_of_directory hdir
      mayClear := Or.inr (Or.inr rfl)
      noneNested := by decide +kernel
      fits := by decide +kernel }
  have hok := hiff.mpr hadmits
  have hwritten := hwritten hok
  rw [hlocation] at hwritten
  refine ⟨next, by rw [hrun, hok], ?_⟩
  simp only [hwritten.at?]
  decide +kernel

/-- A file whose name is longer than the system permits. -/
def longFile : RenderedFile := ⟨String.ofList (List.replicate 256 'a'), "x"⟩

/-- The limits of the system count too: a file alone in a directory that can be made is not written
if its name is too long. -/
theorem run_writeOutput_longName :
    workDisk.at? workDisk.home = some .directory ∧ Path.IsNormal "out" ∧ longFile.IsPlain ∧
      workDisk.Unblocked (workDisk.locationOf "out") ∧
      workDisk.MayClear (workDisk.locationOf "out") false ∧ NoneNested [longFile] ∧
      (run ⟨workDisk, []⟩ (writeOutput "out" [longFile] false)).1 ≠ .ok () := by
  have hhome : workDisk.at? workDisk.home = some .directory := by decide +kernel
  have hdir : Path.IsNormal "out" := by decide +kernel
  have hplain : longFile.IsPlain :=
    RenderedFile.isPlain_of_notMem (by decide +kernel) (by decide +kernel) (by decide +kernel) "x"
  have hnames : Path.names longFile.path = [longFile.path] :=
    Path.names_of_notMem (by decide +kernel) (by decide +kernel)
  have hlocation : workDisk.locationOf "out" = ["work"] ++ ["out"] := by decide +kernel
  have hmissing : workDisk.at? (["work"] ++ ["out"]) = none := by decide +kernel
  have hfree : workDisk.Unblocked (["work"] ++ ["out"]) :=
    Disk.unblocked_concat_iff.mpr ⟨Disk.unblocked_of_directory hhome, by rw [hmissing]; simp⟩
  refine ⟨hhome, hdir, hplain, hlocation ▸ hfree, Or.inl (hlocation ▸ hmissing),
    by simp [NoneNested], ?_⟩
  obtain ⟨result, middle, hprepare, -, hwritten⟩ :=
    run_prepareOutput ⟨workDisk, []⟩ false hhome hdir (by decide)
  rw [writeOutput, run_bind, hprepare]
  cases result with
  | error fault => simp
  | ok _ =>
    have hfiles : ∀ file ∈ [] ++ [longFile], file.IsPlain := by simpa using hplain
    obtain ⟨result, next, hrun, hiff, -⟩ :=
      run_writeFiles hdir hfiles (by simp [NoneNested]) (hwritten rfl)
    simp only [hrun]
    rw [Ne, hiff]
    rintro ⟨-, hfits⟩
    have hname : longFile.path ∈ Path.names (Path.join "out" longFile.path) := by
      rw [Path.names_join hplain.normal.relative, List.mem_append]
      exact Or.inr (hnames ▸ List.mem_singleton_self _)
    have hlong : ¬longFile.path.utf8ByteSize ≤ Disk.nameLimit := by decide +kernel
    exact hlong ((hfits longFile (by simp)).names longFile.path hname)

end Session

end ApiStencil

import ApiStencil.Command.Output
import ApiStencil.Proofs.Disk.Effect

/-!
# What writing files leaves alone

The files of a run go below the output directory, however its path is spelled and whether the run
succeeds or fails. Without force there is nothing below it when the first of them is written, so no
file of the disk is changed. This rests on looking at the directory before anything is made: a path
that leads nowhere then, but to a directory once those above it have been made, is not looked at.

## Main definitions

* `Disk.ConfinedTo`: a disk whose files may differ only below a directory
* `Disk.AddsNoFile`: a disk without a new file
* `Disk.Guards`: an output directory that is looked at before it is made

## Main results

* `Session.confinedTo_writeRendered`: a file is written below the output directory
* `Session.file_of_writeOutput`: after a run every file is an old one or below the output directory
* `Session.file_kept_writeOutput`: without force no file is changed
-/

namespace ApiStencil

namespace Disk

variable {disk middle next : Disk} {dir : String}

/-- The files of the next disk may differ below a directory only, and no directory is gone. -/
structure ConfinedTo (dir : String) (disk next : Disk) : Prop where
  home : next.home = disk.home
  kept : ∀ location, disk.at? location = some .directory → next.at? location = some .directory
  outside : ∀ base, disk.baseOf dir = .ok base → ∀ location, ¬base <+: location →
    ∀ contents, next.at? location = some (.file contents) ↔
      disk.at? location = some (.file contents)

theorem ConfinedTo.refl (dir : String) (disk : Disk) : disk.ConfinedTo dir disk :=
  ⟨rfl, fun _ h => h, fun _ _ _ _ _ => Iff.rfl⟩

theorem ConfinedTo.trans (h : disk.ConfinedTo dir middle) (h' : middle.ConfinedTo dir next) :
    disk.ConfinedTo dir next where
  home := h'.home.trans h.home
  kept location hdir := h'.kept location (h.kept location hdir)
  outside base hbase location hout contents := by
    have hbase' : middle.baseOf dir = .ok base := baseOf_of_directories h.home h.kept hbase
    exact (h'.outside base hbase' location hout contents).trans
      (h.outside base hbase location hout contents)

instance : IsPreorder Disk (ConfinedTo dir) where
  refl := ConfinedTo.refl dir
  trans _ _ _ := ConfinedTo.trans

theorem Grows.confinedTo (h : disk.Grows next) : disk.ConfinedTo dir next where
  home := h.home
  kept location := h.kept location .directory
  outside _ _ location _ contents := ⟨h.noFile location contents, h.kept location (.file contents)⟩

/-- A file that is written below a directory changes nothing elsewhere. -/
theorem confinedTo_writeFile {path : String} {contents : Contents} (hpath : Path.Descends path)
    (h : disk.writeFile (Path.join dir path) contents = .ok next) : disk.ConfinedTo dir next := by
  obtain ⟨location, hplace, -, hne, rfl⟩ := writeFile_eq_ok_iff_place.mp h
  have haccepts : disk.Accepts location := accepts_of_place hplace hne
  refine ⟨home_put _ _, fun other hdir => ?_, fun base hbase other hout _ => ?_⟩
  · rw [at?_put _ haccepts, if_neg]
    · exact hdir
    · rintro rfl
      exact hne hdir
  · have hbelow : base <+: location := isPrefix_of_place_join hbase hpath hplace
    rw [at?_put _ haccepts, if_neg]
    rintro rfl
    exact hout hbelow

/-- The next disk has no file that was not there. -/
def AddsNoFile (disk next : Disk) : Prop :=
  ∀ location contents, next.at? location = some (.file contents) →
    disk.at? location = some (.file contents)

instance : IsPreorder Disk AddsNoFile where
  refl _ _ _ h := h
  trans _ _ _ h h' location contents hat := h location contents (h' location contents hat)

theorem addsNoFile_restrict (disk : Disk) (p : Location → Bool)
    (hp : ∀ location, p location = true → p location.dropLast = true) :
    disk.AddsNoFile (disk.restrict p hp) := by
  intro location contents hat
  by_cases hroot : location = []
  · subst hroot
    cases hat
  · rw [at?_restrict _ _ _ hroot] at hat
    split_ifs at hat
    exact hat

theorem addsNoFile_removeAll (disk : Disk) (path : String) :
    disk.AddsNoFile (disk.removeAll path).2 := by
  have hpruned (directory : Location) : disk.AddsNoFile (disk.prune directory) :=
    addsNoFile_restrict disk _ _
  have hremoved (directory : Location) : disk.AddsNoFile (disk.remove directory) :=
    addsNoFile_restrict disk _ _
  rw [removeAll]
  split
  · exact Std.Refl.refl disk
  · simp only
    split
    · exact hpruned _
    · exact hpruned _
    · exact hpruned _
    · exact hpruned _
    · exact hremoved _

/-- Whether there is something in an output directory is looked at before it is made: its path is
not empty, and it leads somewhere already or never goes up. -/
structure Guards (disk : Disk) (dir : String) : Prop where
  ne_empty : dir ≠ ""
  looked : ".." ∉ Path.segments dir ∨ disk.kind? dir ≠ none

instance (disk : Disk) (dir : String) : Decidable (disk.Guards dir) :=
  decidable_of_iff (dir ≠ "" ∧ (".." ∉ Path.segments dir ∨ disk.kind? dir ≠ none))
    ⟨fun h => ⟨h.1, h.2⟩, fun h => ⟨h.ne_empty, h.looked⟩⟩

end Disk

namespace Session

variable {session next : Session} {dir : String} {files : List RenderedFile}
  {result : Except Fault Unit}

theorem grows_makeDirectories (path : String) :
    Respects Disk.Grows (createDirectories path) := by
  intro session
  obtain ⟨outcome, next, hrun, hgrows, -⟩ := grows_createDirectories session path
  rwa [hrun]

/-! ## Writing files -/

/-- Makes the directories that a file lies in. -/
def openParent (path : String) : ExceptT Fault (StateM Session) Unit :=
  match Path.parent? path with
  | none => pure ()
  | some parent => do
    orFail (.workspace <| .cannotCreate parent ·) (← createDirectories parent)

/-- Writes a file whose directories are there. -/
def writeContents (path contents : String) : ExceptT Fault (StateM Session) Unit := do
  orFail (.workspace <| .cannotWrite path ·) (← writeText path contents)
  report (Log.wroteFile path)

theorem writeRendered_eq (dir : String) (file : RenderedFile) :
    writeRendered dir file = (do
      openParent (Path.join dir file.path)
      writeContents (Path.join dir file.path) file.contents :
        ExceptT Fault (StateM Session) Unit) := by
  unfold writeRendered openParent writeContents
  cases hparent : Path.parent? (Path.join dir file.path) with
  | none => simp only [hparent, pure_bind]
  | some parent => simp only [hparent, bind_assoc]

theorem grows_openParent (path : String) : Respects Disk.Grows (openParent path) := by
  unfold openParent
  split
  · exact respects_pure ()
  · exact (grows_makeDirectories _).bind fun outcome => respects_orFail _ outcome

theorem confinedTo_writeRendered {file : RenderedFile} (hfile : Path.Descends file.path) :
    Respects (Disk.ConfinedTo dir) (writeRendered dir file) := by
  rw [writeRendered_eq]
  refine Respects.bind ((grows_openParent _).mono fun _ _ h => h.confinedTo) fun _ => ?_
  refine Respects.bind ?_ fun outcome => ?_
  · exact respects_writeText fun _ _ h => Disk.confinedTo_writeFile hfile h
  · exact (respects_orFail _ outcome).bind fun _ => respects_report _

theorem confinedTo_writeFiles (hfiles : ∀ file ∈ files, Path.Descends file.path) :
    Respects (Disk.ConfinedTo dir) (files.forM (writeRendered dir)) :=
  Respects.forM fun file hfile => confinedTo_writeRendered (hfiles file hfile)

/-! ## The output directory -/

theorem addsNoFile_clearOutput (dir : String) (force : Bool) :
    Respects Disk.AddsNoFile (clearOutput dir force) := by
  have hclear : Respects Disk.AddsNoFile (do
      report (Log.clearingOutput dir)
      orFail .io (← removeAll dir)) := by
    refine (respects_report _).bind fun _ => Respects.bind ?_ fun outcome => ?_
    · exact respects_removeAll fun disk => Disk.addsNoFile_removeAll disk dir
    · exact respects_orFail _ outcome
  refine (respects_childNames dir).bind fun outcome => ?_
  refine (respects_orFail _ outcome).bind fun names => ?_
  split_ifs
  · exact respects_pure ()
  · exact (respects_throw _).bind fun _ => hclear
  · exact hclear

/-- The first part of preparing an output directory: what is in the way is cleared. -/
def freeOutput (dir : String) (force : Bool) : ExceptT Fault (StateM Session) Unit := do
  match ← kind? dir with
  | none => pure ()
  | some .file => throw (.workspace (.outputNotADirectory dir))
  | some .directory => clearOutput dir force

theorem prepareOutput_eq (dir : String) (force : Bool) :
    prepareOutput dir force = (do
      freeOutput dir force
      orFail .io (← createDirectories dir)) := by
  rw [freeOutput, bind_assoc]
  refine bind_congr fun kind => ?_
  cases kind with
  | none => rfl
  | some kind => cases kind <;> rfl

theorem addsNoFile_prepareOutput (dir : String) (force : Bool) :
    Respects Disk.AddsNoFile (prepareOutput dir force) := by
  have hfree : Respects Disk.AddsNoFile (freeOutput dir force) := by
    refine (respects_kind? dir).bind fun kind => ?_
    cases kind with
    | none => exact respects_pure ()
    | some kind =>
      cases kind with
      | file => exact respects_throw _
      | directory => exact addsNoFile_clearOutput dir force
  have hmake : Respects Disk.AddsNoFile (createDirectories dir) :=
    (grows_makeDirectories dir).mono fun _ _ h => h.noFile
  rw [prepareOutput_eq]
  exact hfree.bind fun _ => hmake.bind fun outcome => respects_orFail _ outcome

/-- An output directory that has been prepared is there. -/
theorem run_prepareOutput_eq_ok {force : Bool}
    (h : session.run (prepareOutput dir force) = (.ok (), next)) :
    ∃ middle, session.run (freeOutput dir force) = (.ok (), middle) ∧
      middle.disk.Grows next.disk ∧ (dir ≠ "" → next.disk.find dir = .ok .directory) := by
  rw [prepareOutput_eq] at h
  obtain ⟨_, middle, hfree, h⟩ := run_bind_eq_ok h
  obtain ⟨outcome, opened, hrun, hgrows, hfind⟩ := grows_createDirectories middle dir
  rw [run_orFail_of_run hrun, Prod.mk.injEq, mapError_eq_ok_iff] at h
  obtain ⟨hok, rfl⟩ := h
  exact ⟨middle, hfree, hgrows, hfind hok⟩

theorem baseOf_of_prepareOutput {force : Bool}
    (h : session.run (prepareOutput dir force) = (.ok (), next)) :
    ∃ base, next.disk.baseOf dir = .ok base := by
  obtain ⟨middle, -, -, hfind⟩ := run_prepareOutput_eq_ok h
  by_cases hempty : dir = ""
  · exact ⟨next.disk.home, if_pos hempty⟩
  · obtain ⟨base, hlocate, -⟩ := Disk.find_eq_ok_iff.mp (hfind hempty)
    exact ⟨base, (if_neg hempty).trans hlocate⟩

/-- **Containment.** After the files of a run, every file on the disk is one that was there or lies
below the output directory, if their paths descend. -/
theorem file_of_writeOutput {force : Bool} (hfiles : ∀ file ∈ files, Path.Descends file.path)
    (h : session.run (writeOutput dir files force) = (result, next)) {location : Location}
    {contents : Contents} (hat : next.disk.at? location = some (.file contents)) :
    session.disk.at? location = some (.file contents) ∨
      ∃ base, next.disk.baseOf dir = .ok base ∧ base <+: location := by
  rw [writeOutput, run_bind] at h
  rcases hprepare : session.run (prepareOutput dir force) with ⟨fault | _, middle⟩
  · rw [hprepare] at h
    cases h
    exact Or.inl ((addsNoFile_prepareOutput dir force).of_run hprepare location contents hat)
  · have hold := (addsNoFile_prepareOutput dir force).of_run hprepare
    rw [hprepare] at h
    have hconfined := (confinedTo_writeFiles hfiles).of_run h
    obtain ⟨base, hbase⟩ := baseOf_of_prepareOutput hprepare
    by_cases hbelow : base <+: location
    · exact Or.inr ⟨base, Disk.baseOf_of_directories hconfined.home hconfined.kept hbase, hbelow⟩
    · exact Or.inl (hold location contents
        ((hconfined.outside base hbase location hbelow contents).mp hat))

/-! ## Without force -/

/-- Without force a directory is left alone, and it is an error if there is something in it. -/
theorem run_clearOutput_of_not_force (session : Session) (dir : String) :
    ∃ result, session.run (clearOutput dir false) = (result, session) ∧
      (result = .ok () → session.disk.childNames dir = .ok []) := by
  have hlist : session.run (childNames dir >>= orFail .io) =
      ((session.disk.childNames dir).mapError .io, session) :=
    run_orFail_of_run (session.run_childNames dir) .io
  rw [clearOutput, ← bind_assoc, run_bind, hlist]
  cases hnames : session.disk.childNames dir with
  | error fault => exact ⟨_, rfl, nofun⟩
  | ok names =>
    cases names with
    | nil => exact ⟨.ok (), rfl, fun _ => rfl⟩
    | cons name names => exact ⟨.error (.workspace (.outputNotEmpty dir)), rfl, nofun⟩

/-- Without force nothing is in the way of an output directory: nothing is there, or a directory
with nothing in it. -/
theorem run_freeOutput_of_not_force (session : Session) (dir : String) :
    ∃ result, session.run (freeOutput dir false) = (result, session) ∧
      (result = .ok () → session.disk.kind? dir = none ∨
        session.disk.find dir = .ok .directory ∧ session.disk.childNames dir = .ok []) := by
  rw [freeOutput, run_bind, run_kind?]
  cases hkind : session.disk.kind? dir with
  | none => exact ⟨.ok (), rfl, fun _ => Or.inl rfl⟩
  | some kind =>
    cases kind with
    | file => exact ⟨.error (.workspace (.outputNotADirectory dir)), rfl, nofun⟩
    | directory =>
      obtain ⟨result, hclear, hnames⟩ := run_clearOutput_of_not_force session dir
      exact ⟨result, hclear,
        fun hok => Or.inr ⟨Disk.kind?_eq_directory_iff.mp hkind, hnames hok⟩⟩

/-- Without force preparing an output directory only adds directories. -/
theorem grows_prepareOutput (dir : String) : Respects Disk.Grows (prepareOutput dir false) := by
  have hfree : Respects Disk.Grows (freeOutput dir false) := by
    intro session
    obtain ⟨result, hrun, -⟩ := run_freeOutput_of_not_force session dir
    rw [hrun]
    exact Disk.Grows.refl session.disk
  rw [prepareOutput_eq]
  refine hfree.bind fun _ => (grows_makeDirectories dir).bind fun outcome => ?_
  exact respects_orFail _ outcome

/-- No file was at or below an output directory that is guarded, once it has been prepared. -/
theorem noFile_of_prepareOutput (hguards : session.disk.Guards dir)
    (h : session.run (prepareOutput dir false) = (.ok (), next)) :
    ∃ base, next.disk.baseOf dir = .ok base ∧ ∀ location, base <+: location →
      ∀ contents, session.disk.at? location ≠ some (.file contents) := by
  obtain ⟨middle, hfree, hgrows, hfind⟩ := run_prepareOutput_eq_ok h
  obtain ⟨result, hrun, hclear⟩ := run_freeOutput_of_not_force session dir
  rw [hfree] at hrun
  obtain ⟨rfl, rfl⟩ := Prod.mk.inj hrun
  obtain ⟨base, hlocate, hdir⟩ := Disk.find_eq_ok_iff.mp (hfind hguards.ne_empty)
  refine ⟨base, (if_neg hguards.ne_empty).trans hlocate, fun location hbelow contents => ?_⟩
  rcases hclear rfl with hkind | ⟨hfound, hnames⟩
  · have hup : ".." ∉ Path.segments dir := hguards.looked.resolve_right fun hne => hne hkind
    have hnone := hgrows.at?_base_eq_none hup hkind hlocate hdir
    simp [Disk.at?_eq_none_below hnone hbelow]
  · obtain ⟨old, hold, holddir⟩ := Disk.find_eq_ok_iff.mp hfound
    obtain rfl : old = base := Except.ok.inj ((hgrows.locate hold).symm.trans hlocate)
    obtain ⟨names, hlist, hnil⟩ := Disk.childNames_eq_ok hold holddir
    have hnone := hnil.mp (Except.ok.inj (hlist.symm.trans hnames))
    obtain ⟨rest, rfl⟩ := hbelow
    cases rest with
    | nil => simp [holddir]
    | cons name rest =>
      have hchild : old ++ [name] <+: old ++ name :: rest :=
        (List.prefix_append_right_inj old).mpr (List.prefix_append [name] rest)
      simp [Disk.at?_eq_none_below (hnone name) hchild]

/-- **No clobbering.** Without force every file that is on the disk before a run is there after it,
with the same contents, whether the run succeeds or fails. This takes an output directory that is
looked at before it is made, and files that go below it. -/
theorem file_kept_writeOutput (session : Session) (hguards : session.disk.Guards dir)
    (hfiles : ∀ file ∈ files, Path.Descends file.path) {location : Location} {contents : Contents}
    (hat : session.disk.at? location = some (.file contents)) :
    (session.run (writeOutput dir files false)).2.disk.at? location = some (.file contents) := by
  rw [writeOutput, run_bind]
  rcases hprepare : session.run (prepareOutput dir false) with ⟨fault | _, middle⟩
  · exact ((grows_prepareOutput dir).of_run hprepare).kept location _ hat
  · have hgrows := (grows_prepareOutput dir).of_run hprepare
    have hwrite : Respects (Disk.ConfinedTo dir) (files.forM (writeRendered dir)) :=
      confinedTo_writeFiles hfiles
    have hconfined := hwrite middle
    obtain ⟨base, hbase, hnone⟩ := noFile_of_prepareOutput hguards hprepare
    have hout : ¬base <+: location := fun hbelow => hnone location hbelow contents hat
    exact (hconfined.outside base hbase location hout contents).mpr (hgrows.kept location _ hat)

/-- A working directory with a note in it. -/
def noteDisk : Disk :=
  ((Disk.empty ["work"]).put ["work"] .directory).put ["work", "note"] (.file (.text "mine"))

/-- A file that goes by the name of the note. -/
def noteFile : RenderedFile := ⟨"note", "generated"⟩

/-- The note stays where it is when the file is written below another directory. -/
theorem file_kept_writeOutput_note :
    noteDisk.Guards "out" ∧ Path.Descends noteFile.path ∧
      noteDisk.at? ["work", "note"] = some (.file (.text "mine")) ∧
      (run ⟨noteDisk, []⟩ (writeOutput "out" [noteFile] false)).2.disk.at? ["work", "note"] =
        some (.file (.text "mine")) := by
  have hguards : noteDisk.Guards "out" := by decide +kernel
  have hfile : Path.Descends noteFile.path := by decide +kernel
  have hat : noteDisk.at? ["work", "note"] = some (.file (.text "mine")) := by decide +kernel
  exact ⟨hguards, hfile, hat,
    file_kept_writeOutput ⟨noteDisk, []⟩ hguards (List.forall_mem_singleton.mpr hfile) hat⟩

/-- The working directory is not looked at if its path is empty, or goes through a directory that is
made on the way, and then the note is lost. -/
theorem file_lost_writeOutput :
    noteDisk.at? ["work", "note"] = some (.file (.text "mine")) ∧
      ∀ dir ∈ ["", "new/.."],
        (run ⟨noteDisk, []⟩ (writeOutput dir [noteFile] false)).1 = .ok () ∧
        (run ⟨noteDisk, []⟩ (writeOutput dir [noteFile] false)).2.disk.at? ["work", "note"] =
          some (.file (.text "generated")) := by
  decide +kernel

end Session

end ApiStencil

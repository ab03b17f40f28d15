import ApiStencil.Proofs.Disk.Directories

/-!
# Disks with the same tree

The entries of a disk stand in the order in which they were made, which no path can tell. Two disks
hold the same tree if the same lies at every location. Then every path leads to the same place on
both, and the same change makes the same tree of them. A command that only follows paths gives the
same answer on both, and they hold the same tree again after it.

## Main definitions

* `Disk.SameTree`: two disks with the same at every location
* `Disk.SameOutcome`: the same fault, or disks with the same tree
* `Session.SeesTree`: a command that cannot tell disks with the same tree apart

## Main results

* `Disk.SameTree.makeDirectory`, `Disk.SameTree.writeFile`: the same change
* `Session.SeesTree.bind`, `Session.SeesTree.forM`: sequences and loops of such commands
* `Session.seesTree_createDirectories`: making directories is such a command
-/

namespace ApiStencil

namespace Disk

/-- Two disks hold the same tree: the same lies at every location, and programs work in the same
directory. -/
structure SameTree (disk other : Disk) : Prop where
  home : other.home = disk.home
  at? : ∀ location, other.at? location = disk.at? location

variable {disk other : Disk}

/-! ## Following paths -/

section Paths

variable (h : disk.SameTree other)
include h

theorem SameTree.step_eq : other.step = disk.step := by
  funext location segment
  rw [step, step, h.at?]

theorem SameTree.follow_eq (path : String) (segments : List String) :
    other.follow path segments = disk.follow path segments := by
  rw [follow, follow, h.step_eq, startOf, h.home, ← startOf]

theorem SameTree.find_eq (path : String) : other.find path = disk.find path := by
  rw [find, locate, h.follow_eq, ← locate, find]
  exact bind_congr fun location => by rw [h.at?]

theorem SameTree.kind?_eq (path : String) : other.kind? path = disk.kind? path := by
  rw [kind?, h.find_eq, kind?]

/-! ## Changes -/

theorem SameTree.put (location : Location) (entry : Entry) :
    (disk.put location entry).SameTree (other.put location entry) := by
  have haccepts : other.Accepts location ↔ disk.Accepts location := by
    rw [Accepts, h.at?, h.at?, Accepts]
  refine ⟨by rw [home_put, home_put, h.home], fun place => ?_⟩
  by_cases hplace : disk.Accepts location
  · rw [at?_put entry hplace, at?_put entry (haccepts.mpr hplace), h.at?]
  · rw [Disk.put, dif_neg (fun ha => hplace (haccepts.mp ha)), Disk.put, dif_neg hplace, h.at?]

end Paths

/-- Two outcomes of a change are the same fault, or disks with the same tree. -/
inductive SameOutcome : Except DiskFault Disk → Except DiskFault Disk → Prop
  | ok {disk other : Disk} (h : disk.SameTree other) : SameOutcome (.ok disk) (.ok other)
  | error (fault : DiskFault) : SameOutcome (.error fault) (.error fault)

theorem SameTree.makeDirectory (h : disk.SameTree other) (path : String) :
    SameOutcome (disk.makeDirectory path) (other.makeDirectory path) := by
  rw [Disk.makeDirectory, Disk.makeDirectory, place, place, h.follow_eq]
  cases disk.follow path (Path.trimmedSegments path) with
  | error fault => exact .error fault
  | ok location =>
    simp only [bind, Except.bind, h.at?]
    cases disk.at? location with
    | some entry => exact .error _
    | none => exact .ok (h.put location .directory)

theorem SameTree.writeFile (h : disk.SameTree other) (path : String) (contents : Contents) :
    SameOutcome (disk.writeFile path contents) (other.writeFile path contents) := by
  rw [Disk.writeFile, Disk.writeFile, place, place, h.follow_eq]
  cases disk.follow path (Path.trimmedSegments path) with
  | error fault => exact .error fault
  | ok location =>
    cases Path.endsInSlash path with
    | true => exact .error _
    | false =>
      simp only [bind, Except.bind, h.at?]
      rcases disk.at? location with _ | _ | _
      · exact .ok (h.put location (.file contents))
      · exact .ok (h.put location (.file contents))
      · exact .error _

end Disk

namespace Session

variable {α β : Type}

/-! ## Commands -/

/-- A command cannot tell disks with the same tree apart: it gives the same answer on both, and they
hold the same tree after it. -/
def SeesTree (command : ExceptT Fault (StateM Session) α) : Prop :=
  ∀ session other : Session, session.disk.SameTree other.disk →
    (other.run command).1 = (session.run command).1 ∧
      (session.run command).2.disk.SameTree (other.run command).2.disk

variable {command x : ExceptT Fault (StateM Session) α}
  {f : α → ExceptT Fault (StateM Session) β}

/-- A run that is known on one disk is known on the other. -/
theorem SeesTree.of_run (h : SeesTree command) {session next other : Session}
    {result : Except Fault α} (hsame : session.disk.SameTree other.disk)
    (hrun : session.run command = (result, next)) :
    ∃ last, other.run command = (result, last) ∧ next.disk.SameTree last.disk := by
  obtain ⟨hresult, hdisk⟩ := h session other hsame
  rw [hrun] at hresult hdisk
  exact ⟨(other.run command).2, Prod.ext hresult rfl, hdisk⟩

theorem SeesTree.bind (hx : SeesTree x) (hf : ∀ a, SeesTree (f a)) : SeesTree (x >>= f) := by
  intro session other hsame
  rw [run_bind, run_bind]
  rcases hrun : session.run x with ⟨fault | a, middle⟩
  · obtain ⟨last, hlast, hdisk⟩ := hx.of_run hsame hrun
    rw [hlast]
    exact ⟨rfl, hdisk⟩
  · obtain ⟨last, hlast, hdisk⟩ := hx.of_run hsame hrun
    rw [hlast]
    exact hf a middle last hdisk

theorem seesTree_pure (a : α) : SeesTree (pure a) := fun _ _ hsame => ⟨rfl, hsame⟩

theorem seesTree_report (event : Event) :
    SeesTree (report event : ExceptT Fault (StateM Session) Unit) := fun _ _ hsame => ⟨rfl, hsame⟩

theorem seesTree_orFail (fault : DiskFault → Fault) (outcome : Except DiskFault α) :
    SeesTree (orFail fault outcome) := by
  cases outcome with
  | ok a => exact seesTree_pure a
  | error cause => exact fun _ _ hsame => ⟨rfl, hsame⟩

theorem seesTree_kind? (path : String) :
    SeesTree (kind? path : ExceptT Fault (StateM Session) (Option EntryKind)) := by
  intro session other hsame
  rw [run_kind?, run_kind?, hsame.kind?_eq]
  exact ⟨rfl, hsame⟩

theorem seesTree_update {change : Disk → Except DiskFault Disk}
    (h : ∀ disk other, disk.SameTree other → Disk.SameOutcome (change disk) (change other)) :
    SeesTree (ExceptT.lift (update change)) := by
  intro session other hsame
  have houtcome := h session.disk other.disk hsame
  rw [run_update, run_update]
  generalize change session.disk = outcome at houtcome ⊢
  generalize change other.disk = outcome' at houtcome ⊢
  cases houtcome with
  | ok hdisk => exact ⟨rfl, hdisk⟩
  | error fault => exact ⟨rfl, hsame⟩

theorem seesTree_makeDirectory (path : String) :
    SeesTree (makeDirectory path : ExceptT Fault (StateM Session) (Except DiskFault Unit)) :=
  @seesTree_update (·.makeDirectory path) fun _ _ hsame => hsame.makeDirectory path

theorem seesTree_writeText (path text : String) :
    SeesTree (writeText path text : ExceptT Fault (StateM Session) (Except DiskFault Unit)) :=
  @seesTree_update (·.writeFile path (.text text))
    fun _ _ hsame => hsame.writeFile path (.text text)

theorem SeesTree.forM {body : α → ExceptT Fault (StateM Session) Unit}
    (h : ∀ a, SeesTree (body a)) (as : List α) : SeesTree (as.forM body) := by
  induction as with
  | nil => exact seesTree_pure ()
  | cons a as ih => exact (h a).bind fun _ => ih

/-! ## Making directories -/

theorem seesTree_settleDirectory (path : String) (outcome : Except DiskFault Unit) :
    SeesTree (settleDirectory path outcome) := by
  cases outcome with
  | ok _ => exact seesTree_pure _
  | error fault =>
    refine SeesTree.bind ?_ fun isDirectory => seesTree_pure _
    exact (seesTree_kind? path).bind fun kind => seesTree_pure _

/-- The directories of a chain are made one after the other, so the induction is on the chain. -/
theorem seesTree_createChain (chain : List String) : SeesTree (createChain chain) := by
  induction chain with
  | nil => exact seesTree_pure _
  | cons path outer ih =>
    rw [createChain]
    split_ifs
    · exact seesTree_pure _
    · refine (seesTree_makeDirectory path).bind fun outcome => ?_
      split
      · refine ih.bind fun outcome => ?_
        cases outcome with
        | ok _ => exact (seesTree_makeDirectory path).bind (seesTree_settleDirectory path)
        | error fault => exact seesTree_pure _
      · exact seesTree_settleDirectory path _

theorem seesTree_createDirectories (path : String) :
    SeesTree (createDirectories path :
      ExceptT Fault (StateM Session) (Except DiskFault Unit)) :=
  seesTree_createChain (Path.chain path)

end Session

end ApiStencil

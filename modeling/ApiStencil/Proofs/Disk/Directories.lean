import ApiStencil.Disk.Access
import ApiStencil.Proofs.Disk.Change

/-!
# Making directories

Making a directory and those above it succeeds exactly when no file is in the way, and then it adds
directories down to the location and nothing else. The induction is on the chain of paths from the
location upwards: the directories above are made first, and one more is made in them.

## Main definitions

* `Session.run`: the outcome of a command and the session after it
* `Disk.OpenedTo`: a disk with directories down to a location
* `Session.Opens`: a command that makes a directory and those above it

## Main results

* `Session.opens_createDirectories`: when directories can be made, and what they change
-/

namespace ApiStencil

/-- The next disk has directories down to a location and is otherwise as it was. -/
structure Disk.OpenedTo (disk : Disk) (location : Location) (next : Disk) : Prop where
  home : next.home = disk.home
  at? : ∀ other, next.at? other =
    if other <+: location then some .directory else disk.at? other

theorem Disk.openedTo_self {disk : Disk} {location : Location}
    (h : disk.at? location = some .directory) : disk.OpenedTo location disk := by
  refine ⟨rfl, fun other => ?_⟩
  split_ifs with hp
  · exact directory_above h hp
  · rfl

theorem Disk.openedTo_put {disk : Disk} {location : Location} {name : String}
    (hdir : disk.at? location = some .directory) (hnone : disk.at? (location ++ [name]) = none) :
    disk.OpenedTo (location ++ [name]) (disk.put (location ++ [name]) .directory) := by
  refine ⟨home_put _ _, fun other => ?_⟩
  have haccepts : disk.Accepts (location ++ [name]) := by
    refine ⟨by simp [hnone], ?_⟩
    rwa [List.dropLast_concat]
  rw [at?_put _ haccepts]
  by_cases hother : other = location ++ [name]
  · simp [hother]
  · rw [if_neg hother]
    split_ifs with hp
    · rcases List.prefix_concat_iff.mp hp with heq | hp
      · exact absurd heq hother
      · exact directory_above hdir hp
    · rfl

theorem Disk.OpenedTo.directory {disk next : Disk} {location other : Location}
    (h : disk.OpenedTo location next) (hother : disk.at? other = some .directory) :
    next.at? other = some .directory := by
  rw [h.at?]
  split_ifs
  · rfl
  · exact hother

theorem Disk.OpenedTo.concat {disk middle next : Disk} {location : Location} {name : String}
    (h : disk.OpenedTo location middle) (h' : middle.OpenedTo (location ++ [name]) next) :
    disk.OpenedTo (location ++ [name]) next := by
  refine ⟨h'.home.trans h.home, fun other => ?_⟩
  rw [h'.at?, h.at?]
  split_ifs with hlong hshort
  · rfl
  · exact absurd (hshort.trans (List.prefix_append _ _)) hlong
  · rfl

theorem Disk.OpenedTo.unblocked_concat_iff {disk next : Disk} {location : Location} {name : String}
    (h : disk.OpenedTo location next) (hfree : disk.Unblocked location) :
    next.Unblocked (location ++ [name]) ↔ disk.Unblocked (location ++ [name]) := by
  have hdir : next.at? location = some .directory := by
    rw [h.at?, if_pos (List.prefix_refl _)]
  rw [Disk.unblocked_concat_iff, Disk.unblocked_concat_iff, h.at?,
    if_neg (not_append_isPrefix (List.cons_ne_nil _ _))]
  exact and_congr_left' (iff_of_true (unblocked_of_directory hdir) hfree)

theorem mapError_eq_ok_iff {outcome : Except DiskFault Unit} {fault : DiskFault → Fault} :
    outcome.mapError fault = .ok () ↔ outcome = .ok () := by
  cases outcome <;> simp [Except.mapError]

/-- The outcome of a command and the session after it. -/
def Session.run {α : Type} (session : Session) (command : ExceptT Fault (StateM Session) α) :
    Except Fault α × Session :=
  Id.run (command.run.run session)

namespace Session

variable {α β : Type} (session : Session)

@[simp] theorem run_pure (a : α) : session.run (pure a) = (.ok a, session) := rfl

theorem run_bind (x : ExceptT Fault (StateM Session) α)
    (f : α → ExceptT Fault (StateM Session) β) :
    session.run (x >>= f) =
      match session.run x with
      | (.ok a, next) => next.run (f a)
      | (.error fault, next) => (.error fault, next) := by
  unfold run
  rw [ExceptT.run_bind, StateT.run_bind, Id.run_bind]
  rcases (StateT.run x.run session).run with ⟨a | fault, next⟩ <;> rfl

theorem run_kind? (path : String) :
    session.run (kind? path) = (.ok (session.disk.kind? path), session) := rfl

theorem run_readText (path : String) :
    session.run (readText path) = (.ok (session.disk.readText path), session) := rfl

theorem run_filesBelow (path : String) :
    session.run (filesBelow path) = (.ok (session.disk.filesBelow path), session) := rfl

theorem run_childNames (path : String) :
    session.run (childNames path) = (.ok (session.disk.childNames path), session) := rfl

theorem run_removeAll (path : String) :
    session.run (removeAll path) = (.ok (session.disk.removeAll path).1,
      { session with disk := (session.disk.removeAll path).2 }) := rfl

theorem run_report (event : Event) :
    session.run (report event) =
      (.ok (), { session with events := session.events ++ [event] }) := rfl

theorem run_update (change : Disk → Except DiskFault Disk) :
    session.run (ExceptT.lift (update change)) =
      match change session.disk with
      | .ok disk => (.ok (.ok ()), { session with disk })
      | .error fault => (.ok (.error fault), session) := by
  change (Except.ok (update change session).1, (update change session).2) = _
  cases h : change session.disk <;> simp only [update, h]

theorem run_makeDirectory (path : String) :
    session.run (makeDirectory path) =
      match session.disk.makeDirectory path with
      | .ok disk => (.ok (.ok ()), { session with disk })
      | .error fault => (.ok (.error fault), session) :=
  session.run_update (·.makeDirectory path)

theorem run_writeText (path text : String) :
    session.run (writeText path text) =
      match session.disk.writeFile path (.text text) with
      | .ok disk => (.ok (.ok ()), { session with disk })
      | .error fault => (.ok (.error fault), session) :=
  session.run_update (·.writeFile path (.text text))

theorem run_liftExcept (result : Except Fault α) :
    session.run (liftExcept result) = (result, session) := by
  cases result <;> rfl

theorem run_orFail (fault : DiskFault → Fault) (outcome : Except DiskFault α) :
    session.run (orFail fault outcome) = (outcome.mapError fault, session) := by
  cases outcome <;> rfl

theorem run_orFail_of_run {session : Session}
    {x : ExceptT Fault (StateM Session) (Except DiskFault α)}
    {outcome : Except DiskFault α} {next : Session} (h : session.run x = (.ok outcome, next))
    (fault : DiskFault → Fault) :
    session.run (x >>= orFail fault) = (outcome.mapError fault, next) := by
  rw [run_bind, h]
  exact next.run_orFail fault outcome

theorem run_settleDirectory_ok (path : String) :
    session.run (settleDirectory path (.ok ())) = (.ok (.ok ()), session) := rfl

theorem run_settleDirectory_error (path : String) (fault : DiskFault) :
    session.run (settleDirectory path (.error fault)) =
      (.ok (if session.disk.kind? path = some .directory then .ok () else .error fault),
        session) := by
  simp only [settleDirectory, isDirectory, run_bind, run_kind?, run_pure, decide_eq_true_eq]

section Chain

variable {session} {path : String} (hempty : path ≠ "") (outer : List String)
include hempty

/-- The directories above are made only if the first of a chain cannot be found. -/
theorem run_createChain_of_ne (h : session.disk.makeDirectory path ≠ .error .notFound) :
    session.run (createChain (path :: outer)) =
      session.run (makeDirectory path >>= settleDirectory path) := by
  rw [createChain, if_neg hempty, run_bind, run_bind, run_makeDirectory]
  cases hmake : session.disk.makeDirectory path with
  | ok disk => rfl
  | error fault =>
    simp only
    split
    · rename_i heq
      obtain rfl := Except.error.inj heq
      exact absurd hmake h
    · rfl

theorem run_createChain_of_notFound (h : session.disk.makeDirectory path = .error .notFound) :
    session.run (createChain (path :: outer)) =
      match session.run (createChain outer) with
      | (.ok (.ok ()), next) => next.run (makeDirectory path >>= settleDirectory path)
      | (.ok (.error fault), next) => (.ok (.error fault), next)
      | (.error fault, next) => (.error fault, next) := by
  rw [createChain, if_neg hempty, run_bind, run_makeDirectory, h]
  simp only [run_bind]
  rcases session.run (createChain outer) with ⟨fault | fault | made, next⟩ <;> simp [run_bind]

end Chain

variable {session} {path : String}

/-- A directory that cannot be made or found leaves the disk as it was. -/
theorem run_settled_of_error {next : Session} {fault : DiskFault}
    (h : session.run (makeDirectory path >>= settleDirectory path) = (.ok (.error fault), next)) :
    next = session := by
  rw [run_bind, run_makeDirectory] at h
  cases hmake : session.disk.makeDirectory path with
  | ok disk =>
    rw [hmake] at h
    cases h
  | error early =>
    rw [hmake] at h
    exact (congrArg Prod.snd ((run_settleDirectory_error _ path early).symm.trans h)).symm

section Aims

variable {location : Location} (haims : session.disk.Aims path location)
include haims

/-- A directory is there after it has been made or found, if all that it lies in is. -/
theorem run_settled (hempty : path ≠ "") :
    ∃ outcome next,
      session.run (makeDirectory path >>= settleDirectory path) = (.ok outcome, next) ∧
      (outcome = .ok () ↔ Disk.Fits path ∧ session.disk.Unblocked location ∧
        session.disk.at? location.dropLast = some .directory) ∧
      (outcome = .ok () → session.disk.OpenedTo location next.disk) := by
  rw [run_bind, run_makeDirectory]
  cases hmake : session.disk.makeDirectory path with
  | ok disk =>
    obtain ⟨hfits, hdir, hnone, rfl⟩ := (haims.makeDirectory_eq_ok_iff hempty).mp hmake
    obtain ⟨-, name, outer, -, -, -, -, rfl⟩ := haims.exists_concat (by simp [hnone])
    rw [List.dropLast_concat] at hdir ⊢
    have hfree : session.disk.Unblocked (outer ++ [name]) :=
      Disk.unblocked_concat_iff.mpr ⟨Disk.unblocked_of_directory hdir, by rw [hnone]; simp⟩
    exact ⟨.ok (), _, run_settleDirectory_ok _ path, iff_of_true rfl ⟨hfits, hfree, hdir⟩,
      fun _ => Disk.openedTo_put hdir hnone⟩
  | error fault =>
    refine ⟨_, _, run_settleDirectory_error _ path fault, ?_, ?_⟩
    · by_cases hkind : session.disk.kind? path = some .directory
      · rw [if_pos hkind]
        rw [Disk.kind?_eq_directory_iff, haims.find_eq_directory_iff hempty] at hkind
        obtain ⟨hfits, hat⟩ := hkind
        refine iff_of_true rfl ⟨hfits, Disk.unblocked_of_directory hat, ?_⟩
        exact Disk.directory_above hat (List.dropLast_prefix location)
      · rw [if_neg hkind]
        refine iff_of_false (by simp) ?_
        rintro ⟨hfits, hfree, hdir⟩
        by_cases hnone : session.disk.at? location = none
        · have := (haims.makeDirectory_eq_ok_iff hempty).mpr ⟨hfits, hdir, hnone, rfl⟩
          rw [hmake] at this
          cases this
        · rw [Disk.kind?_eq_directory_iff, haims.find_eq_directory_iff hempty] at hkind
          exact hkind ⟨hfits, hfree.eq_directory hnone⟩
    · intro h
      split_ifs at h with hkind
      · rw [Disk.kind?_eq_directory_iff, haims.find_eq_directory_iff hempty] at hkind
        exact Disk.openedTo_self hkind.2

end Aims

/-- Once all that a directory lies in has been made, it can be made too unless a file is in its
place. -/
theorem run_settled_of_opened {middle : Session} {outer : Location} {name : String}
    (haims : session.disk.Aims path (outer ++ [name])) (hempty : path ≠ "")
    (hopen : session.disk.OpenedTo outer middle.disk) (hfree : session.disk.Unblocked outer) :
    ∃ outcome next,
      middle.run (makeDirectory path >>= settleDirectory path) = (.ok outcome, next) ∧
      (outcome = .ok () ↔ Disk.Fits path ∧ session.disk.Unblocked (outer ++ [name])) ∧
      (outcome = .ok () → session.disk.OpenedTo (outer ++ [name]) next.disk) := by
  have haims' : middle.disk.Aims path (outer ++ [name]) :=
    haims.of_directories hopen.home fun location => hopen.directory
  have houter : middle.disk.at? outer = some .directory := by
    rw [hopen.at?, if_pos (List.prefix_refl _)]
  obtain ⟨outcome, next, hrun, hiff, hnext⟩ := run_settled haims' hempty
  refine ⟨outcome, next, hrun, ?_, fun hok => hopen.concat (hnext hok)⟩
  rw [hiff, hopen.unblocked_concat_iff hfree, List.dropLast_concat, and_iff_left houter]

/-- A command makes a directory unless its path does not fit or a file is in the way, and then
nothing else changes. If the path fits, nothing at all changes when the command fails. -/
def Opens (session : Session)
    (command : ExceptT Fault (StateM Session) (Except DiskFault Unit)) (path : String)
    (location : Location) : Prop :=
  ∃ outcome next, session.run command = (.ok outcome, next) ∧
    (outcome = .ok () ↔ Disk.Fits path ∧ session.disk.Unblocked location) ∧
    (outcome = .ok () → session.disk.OpenedTo location next.disk) ∧
    (outcome ≠ .ok () → Disk.Fits path → next.disk = session.disk)

theorem opens_createChain_empty {location : Location} (haims : session.disk.Aims "" location)
    (outer : List String) : session.Opens (createChain ("" :: outer)) "" location := by
  have hdir : session.disk.at? location = some .directory :=
    haims.ends.resolve_left (by decide)
  exact ⟨.ok (), session, rfl,
    iff_of_true rfl ⟨Disk.fits_empty, Disk.unblocked_of_directory hdir⟩,
    fun _ => Disk.openedTo_self hdir, fun hne => absurd rfl hne⟩

/-- Directories are made from the outermost inwards, and only the outermost can fail if all paths
fit. -/
theorem opens_createChain {location : Location} (haims : session.disk.Aims path location)
    {steps : Nat} (hsteps : path.length ≤ steps) :
    session.Opens (createChain (Path.chainOf steps path)) path location := by
  induction steps generalizing path location with
  | zero =>
    obtain rfl : path = "" := by simpa using hsteps
    exact opens_createChain_empty haims []
  | succ steps ih =>
    by_cases hempty : path = ""
    · subst hempty
      exact opens_createChain_empty haims _
    rw [Path.chainOf]
    by_cases hmake : session.disk.makeDirectory path = .error .notFound
    · have hnone := haims.at?_eq_none_of_makeDirectory hempty hmake
      obtain ⟨name, outer, hmoves, hname⟩ := haims.exists_moves (by simp [hnone])
      obtain ⟨parent, base, hparent, hshorter, hpaims, rfl, hpfits⟩ := haims.parent hmoves hname
      have hfree_iff : session.disk.Unblocked (base ++ [name]) ↔ session.disk.Unblocked base := by
        rw [Disk.unblocked_concat_iff, hnone]
        exact and_iff_left (by simp)
      rw [Opens, hparent, run_createChain_of_notFound hempty _ hmake, hfree_iff]
      obtain ⟨outcome, middle, hrun, hiff, hopen, hsame⟩ := ih hpaims (by omega)
      rw [hrun]
      cases outcome with
      | error fault =>
        refine ⟨.error fault, middle, rfl, iff_of_false (by simp) ?_, by simp,
          fun _ hfits => hsame (by simp) (hpfits hfits)⟩
        rintro ⟨hfits, hfree⟩
        have := hiff.mpr ⟨hpfits hfits, hfree⟩
        cases this
      | ok made =>
        have hfree := (hiff.mp rfl).2
        obtain ⟨outcome, last, hsettled, hiff', hopen'⟩ :=
          run_settled_of_opened haims hempty (hopen rfl) hfree
        rw [hfree_iff] at hiff'
        exact ⟨outcome, last, hsettled, hiff', hopen',
          fun hne hfits => absurd (hiff'.mpr ⟨hfits, hfree⟩) hne⟩
    · rw [Opens, run_createChain_of_ne hempty _ hmake]
      obtain ⟨outcome, next, hsettled, hiff, hopen⟩ := run_settled haims hempty
      refine ⟨outcome, next, hsettled, ?_, hopen, ?_⟩
      · rw [hiff]
        refine and_congr_right fun hfits => and_iff_left_of_imp fun hfree => ?_
        by_contra houter
        exact hmake (haims.makeDirectory_eq_notFound hempty hfits hfree houter)
      · intro hne _
        obtain ⟨fault, rfl⟩ : ∃ fault, outcome = .error fault := by
          cases outcome with
          | ok _ => exact absurd rfl hne
          | error fault => exact ⟨fault, rfl⟩
        rw [run_settled_of_error hsettled]

/-- **Making directories.** Where a path aims, a directory can be made exactly when the path fits
and no file is at the location or above it. Then everything down to the location is a directory, and
nothing else has changed. -/
theorem opens_createDirectories {location : Location} (haims : session.disk.Aims path location) :
    session.Opens (createDirectories path) path location :=
  opens_createChain haims le_rfl

end Session

end ApiStencil

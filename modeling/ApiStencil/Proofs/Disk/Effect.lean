import ApiStencil.Proofs.Disk.Growth

/-!
# What a command may do to a disk

A command respects a relation between disks if it takes every disk to a related one, whether it
succeeds or fails. If the relation is a preorder, the commands that respect it are closed under
sequence and loops, so for a new command only its accesses have to be looked at.

## Main definitions

* `Session.Respects`: a command that changes a disk as a relation permits

## Main results

* `Session.Respects.bind`, `Session.Respects.forM`: sequences and loops of such commands
* `Session.respects_observe`, `Session.respects_update`: accesses to the disk
* `Session.run_bind_eq_ok`, `Session.run_bind_eq_error`: how a sequence ended
-/

namespace ApiStencil.Session

variable {α β : Type}

/-! ## Events -/

theorem run_reports (session : Session) (events : List Event) :
    session.run (events.forM report) =
      (.ok (), { session with events := session.events ++ events }) := by
  induction events generalizing session with
  | nil => simp [List.forM]
  | cons event events ih =>
    rw [List.forM, run_bind, run_report]
    simp only [ih, List.append_assoc, List.singleton_append]

/-- The events of a computation are reported before it answers or fails. -/
theorem run_replay (session : Session) (computation : Traced α) :
    session.run (replay computation) =
      (computation.result, { session with events := session.events ++ computation.events }) := by
  rw [replay, run_bind, run_reports]
  exact run_liftExcept _ computation.result

/-! ## How a sequence ended -/

section Ends

variable {session last : Session} {x : ExceptT Fault (StateM Session) α}
  {f : α → ExceptT Fault (StateM Session) β}

theorem run_bind_eq_ok {b : β} (h : session.run (x >>= f) = (.ok b, last)) :
    ∃ a middle, session.run x = (.ok a, middle) ∧ middle.run (f a) = (.ok b, last) := by
  rw [run_bind] at h
  rcases hx : session.run x with ⟨fault | a, middle⟩
  · simp [hx] at h
  · exact ⟨a, middle, rfl, by simpa [hx] using h⟩

/-- A sequence failed in its first part or in its second. -/
theorem run_bind_eq_error {fault : Fault} (h : session.run (x >>= f) = (.error fault, last)) :
    session.run x = (.error fault, last) ∨
      ∃ a middle, session.run x = (.ok a, middle) ∧ middle.run (f a) = (.error fault, last) := by
  rw [run_bind] at h
  rcases hx : session.run x with ⟨early | a, middle⟩
  · exact Or.inl (by simpa [hx] using h)
  · exact Or.inr ⟨a, middle, rfl, by simpa [hx] using h⟩

end Ends

/-! ## Respecting a relation -/

/-- A command changes every disk as `R` permits, whether it succeeds or fails. -/
def Respects (R : Disk → Disk → Prop) (command : ExceptT Fault (StateM Session) α) : Prop :=
  ∀ session : Session, R session.disk (session.run command).2.disk

variable {R S : Disk → Disk → Prop} {command x : ExceptT Fault (StateM Session) α}
  {f : α → ExceptT Fault (StateM Session) β}

theorem Respects.of_run (h : Respects R command) {session next : Session} {result : Except Fault α}
    (hrun : session.run command = (result, next)) : R session.disk next.disk := by
  have hnext := h session
  rwa [hrun] at hnext

theorem Respects.mono (hRS : ∀ disk next, R disk next → S disk next) (h : Respects R command) :
    Respects S command :=
  fun session => hRS _ _ (h session)

theorem Respects.bind [IsTrans Disk R] (hx : Respects R x) (hf : ∀ a, Respects R (f a)) :
    Respects R (x >>= f) := by
  intro session
  have hfirst := hx session
  rw [run_bind]
  rcases hrun : session.run x with ⟨fault | a, middle⟩
  · rwa [hrun] at hfirst
  · rw [hrun] at hfirst
    exact IsTrans.trans _ _ _ hfirst (hf a middle)

section Refl

variable [Std.Refl R]

theorem respects_pure (a : α) : Respects R (pure a) :=
  fun session => Std.Refl.refl session.disk

theorem respects_throw (fault : Fault) :
    Respects R (throw fault : ExceptT Fault (StateM Session) α) :=
  fun session => Std.Refl.refl session.disk

theorem respects_observe (view : Disk → α) : Respects R (ExceptT.lift (observe view)) :=
  fun session => Std.Refl.refl session.disk

theorem respects_report (event : Event) :
    Respects R (report event : ExceptT Fault (StateM Session) Unit) :=
  fun session => Std.Refl.refl session.disk

theorem respects_liftExcept (result : Except Fault α) :
    Respects R (liftExcept result : ExceptT Fault (StateM Session) α) := by
  cases result with
  | ok a => exact respects_pure a
  | error fault => exact respects_throw fault

theorem respects_orFail (fault : DiskFault → Fault) (outcome : Except DiskFault α) :
    Respects R (orFail fault outcome : ExceptT Fault (StateM Session) α) :=
  respects_liftExcept _

theorem respects_kind? (path : String) :
    Respects R (kind? path : ExceptT Fault (StateM Session) (Option EntryKind)) :=
  respects_observe (·.kind? path)

theorem respects_readText (path : String) :
    Respects R (readText path : ExceptT Fault (StateM Session) (Except DiskFault String)) :=
  respects_observe (·.readText path)

theorem respects_childNames (path : String) :
    Respects R (childNames path :
      ExceptT Fault (StateM Session) (Except DiskFault (List String))) :=
  respects_observe (·.childNames path)

theorem respects_filesBelow (path : String) :
    Respects R (filesBelow path : ExceptT Fault (StateM Session) (List String)) :=
  respects_observe (·.filesBelow path)

/-- A change that fails leaves the disk alone. -/
theorem respects_update {change : Disk → Except DiskFault Disk}
    (h : ∀ disk next, change disk = .ok next → R disk next) :
    Respects R (ExceptT.lift (update change)) := by
  intro session
  rw [run_update]
  cases hchange : change session.disk with
  | ok next => exact h _ _ hchange
  | error fault => exact Std.Refl.refl session.disk

theorem respects_writeText {path text : String}
    (h : ∀ disk next, disk.writeFile path (.text text) = .ok next → R disk next) :
    Respects R (writeText path text : ExceptT Fault (StateM Session) (Except DiskFault Unit)) :=
  @respects_update R _ (·.writeFile path (.text text)) h

end Refl

theorem respects_removeAll {path : String} (h : ∀ disk, R disk (disk.removeAll path).2) :
    Respects R (removeAll path : ExceptT Fault (StateM Session) (Except DiskFault Unit)) :=
  fun session => h session.disk

section Preorder

variable [IsPreorder Disk R]

theorem Respects.forM {body : α → ExceptT Fault (StateM Session) Unit} {as : List α}
    (h : ∀ a ∈ as, Respects R (body a)) : Respects R (as.forM body) := by
  induction as with
  | nil => exact respects_pure ()
  | cons a as ih =>
    have ha : Respects R (body a) := h a List.mem_cons_self
    have has : ∀ other ∈ as, Respects R (body other) :=
      fun other hother => h other (List.mem_cons_of_mem _ hother)
    exact ha.bind fun _ => ih has

theorem Respects.mapM {as : List α} (h : ∀ a ∈ as, Respects R (f a)) :
    Respects R (as.mapM f) := by
  induction as with
  | nil => exact respects_pure []
  | cons a as ih =>
    have ha : Respects R (f a) := h a List.mem_cons_self
    have has : ∀ other ∈ as, Respects R (f other) :=
      fun other hother => h other (List.mem_cons_of_mem _ hother)
    rw [List.mapM_cons]
    exact ha.bind fun b => (ih has).bind fun bs => respects_pure (b :: bs)

/-- Reporting the events of a computation leaves the disk alone. -/
theorem respects_replay (computation : Traced α) :
    Respects R (replay computation : ExceptT Fault (StateM Session) α) :=
  Respects.bind (Respects.forM fun event _ => respects_report event)
    fun _ => respects_liftExcept computation.result

end Preorder

end ApiStencil.Session

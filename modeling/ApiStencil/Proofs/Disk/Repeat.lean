import ApiStencil.Proofs.Disk.Effect

/-!
# Commands that are repeated on another disk

A command that only reads gives its answer again on another disk, as long as it finds there what it
found before. It is enough to look at each access: if they can be repeated, so can sequences and
loops of them, whatever has been reported in the meantime.

## Main definitions

* `Session.Answers`: a command that gives an answer and leaves the disk alone
* `Session.Repeats`: a command that gives its answers on another disk too

## Main results

* `Session.Answers.bind`, `Session.Repeats.bind`, `Session.Repeats.mapM`: sequences and loops
* `Session.Repeats.observe_bind`, `Session.repeats_read`: accesses to the disk
-/

namespace ApiStencil.Session

variable {α β : Type} {disk next : Disk} {command x : ExceptT Fault (StateM Session) α}
  {f : α → ExceptT Fault (StateM Session) β} {a : α} {b : β}

/-! ## Answers -/

/-- On a disk a command gives an answer and leaves the disk alone, whatever has been reported. -/
def Answers (disk : Disk) (command : ExceptT Fault (StateM Session) α) (a : α) : Prop :=
  ∀ events, ∃ more, run ⟨disk, events⟩ command = (.ok a, ⟨disk, more⟩)

theorem Answers.bind (hx : Answers disk x a) (hf : Answers disk (f a) b) :
    Answers disk (x >>= f) b := by
  intro events
  obtain ⟨middle, hmiddle⟩ := hx events
  obtain ⟨more, hmore⟩ := hf middle
  exact ⟨more, by rw [run_bind, hmiddle]; exact hmore⟩

theorem answers_pure (a : α) : Answers disk (pure a) a := fun events => ⟨events, rfl⟩

/-! ## Repeating -/

/-- Whenever a command answers on a disk, it leaves that alone and gives the same answer on the next
one. -/
def Repeats (disk next : Disk) (command : ExceptT Fault (StateM Session) α) : Prop :=
  ∀ (session : Session) (a : α) (last : Session), session.disk = disk →
    session.run command = (.ok a, last) → last.disk = disk ∧ Answers next command a

/-- A sequence is repeated step by step. -/
theorem Repeats.bind (hx : Repeats disk next x) (hf : ∀ a, Repeats disk next (f a)) :
    Repeats disk next (x >>= f) := by
  intro session b last hdisk h
  obtain ⟨a, middle, hmiddle, hlast⟩ := run_bind_eq_ok h
  obtain ⟨hdisk', hanswers⟩ := hx session a middle hdisk hmiddle
  obtain ⟨hdisk'', hanswers'⟩ := hf a middle b last hdisk' hlast
  exact ⟨hdisk'', hanswers.bind hanswers'⟩

theorem repeats_pure (a : α) : Repeats disk next (pure a) := by
  intro session b last hdisk h
  cases h
  exact ⟨hdisk, answers_pure a⟩

theorem repeats_throw (fault : Fault) :
    Repeats disk next (throw fault : ExceptT Fault (StateM Session) α) := by
  intro session a last _ h
  cases h

theorem repeats_report (event : Event) :
    Repeats disk next (report event : ExceptT Fault (StateM Session) Unit) := by
  intro session a last hdisk h
  cases h
  exact ⟨hdisk, fun events => ⟨events ++ [event], rfl⟩⟩

theorem repeats_liftExcept (result : Except Fault α) :
    Repeats disk next (liftExcept result : ExceptT Fault (StateM Session) α) := by
  cases result with
  | ok a => exact repeats_pure a
  | error fault => exact repeats_throw fault

theorem repeats_replay (computation : Traced α) :
    Repeats disk next (replay computation : ExceptT Fault (StateM Session) α) := by
  intro session a last hdisk h
  rw [run_replay, Prod.mk.injEq] at h
  obtain ⟨hresult, rfl⟩ := h
  exact ⟨hdisk, fun events => ⟨events ++ computation.events, by rw [run_replay, hresult]⟩⟩

/-- What comes after an observation is repeated if it does not depend on how the disks differ. -/
theorem Repeats.observe_bind {view : Disk → α} (hview : f (view next) = f (view disk))
    (h : Repeats disk next (f (view disk))) :
    Repeats disk next (ExceptT.lift (observe view) >>= f) := by
  have hrun (session : Session) :
      session.run (ExceptT.lift (observe view) >>= f) = session.run (f (view session.disk)) := rfl
  rintro session b last rfl hb
  rw [hrun] at hb
  obtain ⟨hdisk, hanswers⟩ := h session b last rfl hb
  refine ⟨hdisk, fun events => ?_⟩
  rw [hrun, hview]
  exact hanswers events

/-- The text of a file is read again if it is still there. -/
theorem repeats_read {path : String} (fault : DiskFault → Fault)
    (hread : ∀ text, disk.readText path = .ok text → next.readText path = .ok text) :
    Repeats disk next (do orFail fault (← readText path)) := by
  rintro session text last rfl h
  rw [run_orFail_of_run (session.run_readText path), Prod.mk.injEq] at h
  obtain ⟨hresult, rfl⟩ := h
  have htext : session.disk.readText path = .ok text := by
    cases hfound : session.disk.readText path with
    | error cause => simp [hfound, Except.mapError] at hresult
    | ok found => simpa [hfound, Except.mapError] using hresult
  refine ⟨rfl, fun events => ⟨events, ?_⟩⟩
  rw [run_orFail_of_run (run_readText ⟨next, events⟩ path), hread text htext]
  rfl

theorem Repeats.mapM {as : List α} (h : ∀ a ∈ as, Repeats disk next (f a)) :
    Repeats disk next (as.mapM f) := by
  induction as with
  | nil => exact repeats_pure []
  | cons a as ih =>
    have hrest : ∀ other ∈ as, Repeats disk next (f other) :=
      fun other hother => h other (List.mem_cons_of_mem _ hother)
    rw [List.mapM_cons]
    refine (h a List.mem_cons_self).bind fun b => ?_
    exact (ih hrest).bind fun bs => repeats_pure (b :: bs)

end ApiStencil.Session

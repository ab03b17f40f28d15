import ApiStencil.Proofs.Trace

/-!
# Runs that stop at their first fault

A run makes its checks one after the other and stops at the first one that fails. The checks that
fail can also be listed, each one looked at for itself. The run succeeds if nothing is listed, and
otherwise it ends in what comes first in the list.

## Main definitions

* `StopsAtFirst faults run`: the run succeeds if there are no faults, and else ends in the first one

## Main results

* `StopsAtFirst.exists_ok_iff`, `StopsAtFirst.eq_error_iff`: what the faults say about the run
* `StopsAtFirst.bind`, `StopsAtFirst.mapM`: the faults of a run are those of its steps in order
-/

namespace ApiStencil

variable {α β ε : Type}

/-- A run succeeds if there are no faults, and otherwise ends in the first of them. -/
def StopsAtFirst (faults : List ε) (run : Except ε α) : Prop :=
  match faults with
  | [] => ∃ a, run = .ok a
  | fault :: _ => run = .error fault

namespace StopsAtFirst

variable {faults more : List ε} {run : Except ε α}

theorem ok (a : α) : StopsAtFirst ([] : List ε) (.ok a) := ⟨a, rfl⟩

theorem exists_ok_iff (h : StopsAtFirst faults run) : (∃ a, run = .ok a) ↔ faults = [] := by
  cases faults with
  | nil => exact iff_of_true h rfl
  | cons fault rest => simp [show run = .error fault from h]

theorem eq_error_iff (h : StopsAtFirst faults run) {fault : ε} :
    run = .error fault ↔ faults.head? = some fault := by
  cases faults with
  | nil =>
    obtain ⟨a, rfl⟩ := h
    simp
  | cons first rest => simp [show run = .error first from h]

/-- A step that succeeds leaves it to the rest of the run where that stops. -/
theorem bind {f : α → Except ε β} (h : StopsAtFirst faults run)
    (hf : ∀ a, run = .ok a → StopsAtFirst more (f a)) :
    StopsAtFirst (faults ++ more) (run >>= f) := by
  cases faults with
  | nil =>
    obtain ⟨a, rfl⟩ := h
    exact hf a rfl
  | cons fault rest =>
    obtain rfl : run = .error fault := h
    exact rfl

theorem map {f : α → β} (h : StopsAtFirst faults run) : StopsAtFirst faults (f <$> run) := by
  cases faults with
  | nil =>
    obtain ⟨a, rfl⟩ := h
    exact ok (f a)
  | cons fault rest =>
    obtain rfl : run = .error fault := h
    exact rfl

/-- The faults of a run over a list are those of its members in order. -/
theorem mapM {faultsOf : α → List ε} {f : α → Except ε β} {as : List α}
    (h : ∀ a ∈ as, StopsAtFirst (faultsOf a) (f a)) :
    StopsAtFirst (as.flatMap faultsOf) (as.mapM f) := by
  induction as with
  | nil => exact ok []
  | cons a as ih =>
    rw [List.flatMap_cons, List.mapM_cons]
    refine (h a (List.mem_cons_self ..)).bind fun b _ => ?_
    exact (ih fun other hother => h other (List.mem_cons_of_mem _ hother)).map

end StopsAtFirst

end ApiStencil

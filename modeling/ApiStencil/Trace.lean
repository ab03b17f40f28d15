import ApiStencil.Fault

/-!
# Traced computations

A run reports what it does as it goes. The events are data: a traced computation is its events, in
order and up to the point where it stopped, together with its answer or its fault.

## Main definitions

* `Level`, `Event` - what is reported.
* `Traced` - a computation that reports events and then answers or fails.
* `MonadLog` - computations that can report events as they go.
* `replay` - a traced computation as part of one that reports as it goes.

## Main results

* `Traced.instLawfulMonad` - traced computations compose as expected.
-/

namespace ApiStencil

/-- How important an event is, the most important first. -/
inductive Level where
  | error
  | warn
  | info
  | debug
  | trace
  deriving DecidableEq, Repr

namespace Level

/-- The rank of a level: a higher rank is more verbose. -/
def rank : Level → Nat
  | error => 1
  | warn => 2
  | info => 3
  | debug => 4
  | trace => 5

/-- The name of a level. -/
def name : Level → String
  | error => "error"
  | warn => "warn"
  | info => "info"
  | debug => "debug"
  | trace => "trace"

/-- Every level. -/
def all : List Level := [error, warn, info, debug, trace]

end Level

/-- Something that a run reports. -/
structure Event where
  level : Level
  /-- The part of the program that reports it. -/
  target : String
  message : String
  /-- Named details, in order. -/
  fields : List (String × String) := []
  deriving DecidableEq, Repr

/-- A computation that reports events and then answers or fails. -/
@[ext] structure Traced (α : Type) where
  /-- The events up to the point where the computation stopped. -/
  events : List Event
  result : Except Fault α

namespace Traced

variable {α β : Type}

/-- Runs a computation on the answer of another, after its events. -/
def andThen (x : Traced α) (f : α → Traced β) : Traced β :=
  match x.result with
  | .ok a => ⟨x.events ++ (f a).events, (f a).result⟩
  | .error fault => ⟨x.events, .error fault⟩

instance : Monad Traced where
  pure a := ⟨[], .ok a⟩
  bind := andThen

/-- Reports one event. -/
def report (event : Event) : Traced Unit := ⟨[event], .ok ()⟩

/-- Stops with a fault. -/
def fail (fault : Fault) : Traced α := ⟨[], .error fault⟩

/-- A computation without events. -/
def ofExcept (result : Except Fault α) : Traced α := ⟨[], result⟩

instance : MonadExcept Fault Traced where
  throw := fail
  tryCatch x handler :=
    match x.result with
    | .ok _ => x
    | .error fault => ⟨x.events ++ (handler fault).events, (handler fault).result⟩

@[simp] theorem pure_events (a : α) : (pure a : Traced α).events = [] := rfl

@[simp] theorem pure_result (a : α) : (pure a : Traced α).result = .ok a := rfl

theorem bind_def (x : Traced α) (f : α → Traced β) : x >>= f = x.andThen f := rfl

theorem bind_of_ok {x : Traced α} {a : α} (f : α → Traced β) (h : x.result = .ok a) :
    x >>= f = ⟨x.events ++ (f a).events, (f a).result⟩ := by
  simp [bind_def, andThen, h]

theorem bind_of_error {x : Traced α} {fault : Fault} (f : α → Traced β)
    (h : x.result = .error fault) : x >>= f = ⟨x.events, .error fault⟩ := by
  simp [bind_def, andThen, h]

theorem andThen_pure (x : Traced α) : x.andThen pure = x := by
  rcases x with ⟨events, _ | a⟩ <;> simp [andThen]

theorem andThen_assoc {γ : Type} (x : Traced α) (f : α → Traced β) (g : β → Traced γ) :
    (x.andThen f).andThen g = x.andThen fun a => (f a).andThen g := by
  rcases x with ⟨events, _ | a⟩
  · simp [andThen]
  · rcases h : (f a).result with _ | b <;> simp [andThen, h]

instance instLawfulMonad : LawfulMonad Traced :=
  LawfulMonad.mk' Traced (fun x => andThen_pure x)
    (fun a f => by show (pure a : Traced _).andThen f = f a; simp [andThen])
    (fun x f g => andThen_assoc x f g)

end Traced

/-- Computations that can report events as they go. -/
class MonadLog (m : Type → Type) where
  report : Event → m Unit

export MonadLog (report)

instance {ε : Type} {m : Type → Type} [Monad m] [MonadLog m] : MonadLog (ExceptT ε m) where
  report event := ExceptT.lift (report event)

/-- A traced computation as part of one that reports as it goes. -/
def replay {α : Type} {m : Type → Type} [Monad m] [MonadLog m] (run : Traced α) :
    ExceptT Fault m α := do
  run.events.forM report
  liftExcept run.result

end ApiStencil

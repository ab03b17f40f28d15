import ApiStencil.Trace
import Mathlib.Data.List.Forall2

/-!
# Results and events of traced computations

The result of a traced computation is a computation in `Except` of its own: it does not depend on
what is reported. A run over a list succeeds exactly when it succeeds at every member, and otherwise
it stops at the first member that it fails at.

## Main definitions

* `Traced.warnings`: the warnings that a run reports

## Main results

* `mapM_map`: what the members of a list give, changed after the run
* `Traced.result_bind`, `Traced.result_mapM`: the result follows the computation step by step
* `Except.mapM_eq_ok_iff`, `Except.mapM_eq_error_iff`: how a run over a list succeeds and fails
-/

namespace ApiStencil

variable {α β γ ε : Type}

/-- What the members of two lists contribute agrees as a whole if it agrees member by member. -/
theorem mem_flatMap_iff_of_forall₂ {R : α → β → Prop} {f : α → List γ} {g : β → List γ}
    {as : List α} {bs : List β} (h : List.Forall₂ R as bs)
    (hfg : ∀ a b, R a b → ∀ c, c ∈ f a ↔ c ∈ g b) (c : γ) :
    c ∈ as.flatMap f ↔ c ∈ bs.flatMap g := by
  induction h with
  | nil => rfl
  | cons hab _ ih =>
    rw [List.flatMap_cons, List.flatMap_cons, List.mem_append, List.mem_append, hfg _ _ hab, ih]

theorem exists_mem_of_forall₂ {R : α → β → Prop} {as : List α} {bs : List β} {b : β}
    (h : List.Forall₂ R as bs) (hb : b ∈ bs) : ∃ a ∈ as, R a b := by
  induction h with
  | nil => cases hb
  | @cons a _ as _ hab _ ih =>
    rcases List.mem_cons.mp hb with rfl | hb
    · exact ⟨a, List.mem_cons_self, hab⟩
    · obtain ⟨other, hother, hR⟩ := ih hb
      exact ⟨other, List.mem_cons_of_mem a hother, hR⟩

/-- Two lists have the same labels in order if their members have the same label pair by pair. -/
theorem map_eq_map_of_forall₂ {R : α → β → Prop} {f : α → γ} {g : β → γ} {as : List α}
    {bs : List β} (h : List.Forall₂ R as bs) (hfg : ∀ a b, R a b → f a = g b) :
    as.map f = bs.map g := by
  induction h with
  | nil => rfl
  | cons hab _ ih => rw [List.map_cons, List.map_cons, hfg _ _ hab, ih]

/-- What is made from the members of a list pair by pair differs if it tells them apart as well as
their labels do. -/
theorem nodup_map_of_forall₂ {δ : Type} {R : α → β → Prop} {f : α → γ} {g : β → δ}
    {as : List α} {bs : List β} (h : List.Forall₂ R as bs)
    (hfg : ∀ a b a' b', R a b → R a' b' → g b = g b' → f a = f a') (hnodup : (as.map f).Nodup) :
    (bs.map g).Nodup := by
  induction h with
  | nil => exact List.nodup_nil
  | @cons a b as bs hab hrest ih =>
    rw [List.map_cons, List.nodup_cons] at hnodup ⊢
    refine ⟨?_, ih hnodup.2⟩
    intro hmem
    obtain ⟨b', hb', heq⟩ := List.mem_map.mp hmem
    obtain ⟨a', ha', hab'⟩ := exists_mem_of_forall₂ hrest hb'
    apply hnodup.1
    exact List.mem_map.mpr ⟨a', ha', hfg a' b' a b hab' hab heq⟩

/-- What belongs to two lists in a row is what belongs to each of them. -/
theorem forall₂_append_iff {R : α → β → Prop} {as more : List α} {bs : List β} :
    List.Forall₂ R (as ++ more) bs ↔
      ∃ front back, bs = front ++ back ∧ List.Forall₂ R as front ∧ List.Forall₂ R more back := by
  constructor
  · intro h
    induction as generalizing bs with
    | nil => exact ⟨[], bs, rfl, .nil, h⟩
    | cons a as ih =>
      obtain ⟨b, rest, hab, hrest, rfl⟩ := List.forall₂_cons_left_iff.mp h
      obtain ⟨front, back, rfl, hfront, hback⟩ := ih hrest
      exact ⟨b :: front, back, rfl, .cons hab hfront, hback⟩
  · rintro ⟨front, back, rfl, hfront, hback⟩
    exact List.rel_append hfront hback

/-- What is made from some members of a list has their labels, in order. -/
theorem sublist_map_filterMap {f : α → Option β} {label : β → γ} {key : α → γ}
    (h : ∀ a b, f a = some b → label b = key a) (as : List α) :
    ((as.filterMap f).map label).Sublist (as.map key) := by
  induction as with
  | nil => exact .slnil
  | cons a as ih =>
    rw [List.filterMap_cons, List.map_cons]
    split
    next => exact ih.cons _
    next b hb =>
      rw [List.map_cons, h a b hb]
      exact ih.cons_cons _

/-- What a run over a list makes of its members can be changed after it. -/
theorem mapM_map {m : Type → Type} [Monad m] [LawfulMonad m] (f : α → m β) (g : β → γ)
    (as : List α) : (as.mapM fun a => g <$> f a) = List.map g <$> as.mapM f := by
  induction as with
  | nil => simp
  | cons a as ih => simp [ih]

namespace Except

theorem bind_eq_ok_iff {x : Except ε α} {f : α → Except ε β} {b : β} :
    x >>= f = .ok b ↔ ∃ a, x = .ok a ∧ f a = .ok b := by
  cases x <;> simp [bind, Except.bind]

theorem map_eq_ok_iff {x : Except ε α} {f : α → β} {b : β} :
    f <$> x = .ok b ↔ ∃ a, x = .ok a ∧ f a = b := by
  cases x <;> simp [Functor.map, Except.map]

theorem map_eq_error_iff {x : Except ε α} {f : α → β} {e : ε} :
    f <$> x = .error e ↔ x = .error e := by
  cases x <;> simp [Functor.map, Except.map]

theorem toOption_eq_some_iff {x : Except ε α} {a : α} : x.toOption = some a ↔ x = .ok a := by
  cases x <;> simp [Except.toOption]

theorem exists_eq_ok_of_isSome {x : Except ε α} (h : x.toOption.isSome) : ∃ a, x = .ok a := by
  cases x with
  | ok a => exact ⟨a, rfl⟩
  | error e => cases h

/-- A run over a list succeeds exactly when it succeeds at every member, and then it gives the
answers in order. -/
theorem mapM_eq_ok_iff {f : α → Except ε β} {as : List α} {bs : List β} :
    as.mapM f = .ok bs ↔ List.Forall₂ (fun a b => f a = .ok b) as bs := by
  induction as generalizing bs with
  | nil => simp [pure, Except.pure, eq_comm]
  | cons a as ih =>
    simp only [List.mapM_cons, bind_eq_ok_iff, ih, List.forall₂_cons_left_iff]
    constructor
    · rintro ⟨b, hb, bs', hbs, h⟩
      exact ⟨b, bs', hb, hbs, (Except.ok.inj h).symm⟩
    · rintro ⟨b, bs', hb, hbs, rfl⟩
      exact ⟨b, hb, bs', hbs, rfl⟩

/-- Runs over two lists give the same answer if they do at their members, pair by pair. -/
theorem mapM_eq_mapM_of_forall₂ {f : α → Except ε γ} {g : β → Except ε γ} {as : List α}
    {bs : List β} (h : List.Forall₂ (fun a b => f a = g b) as bs) : as.mapM f = bs.mapM g := by
  induction h with
  | nil => rfl
  | cons hab _ ih => rw [List.mapM_cons, List.mapM_cons, hab, ih]

/-- The answers of a run over a list, where each answer is known from its member. -/
theorem eq_map_of_mapM_eq_ok {f : α → Except ε β} {g : α → β} {as : List α} {bs : List β}
    (hg : ∀ a b, f a = .ok b → b = g a) (h : as.mapM f = .ok bs) : bs = as.map g := by
  rw [mapM_eq_ok_iff] at h
  induction h with
  | nil => rfl
  | cons hb _ ih => rw [hg _ _ hb, ih, List.map_cons]

/-- A run over a list fails exactly when it fails at a member after having succeeded at all those
before it. What comes after that member makes no difference. -/
theorem mapM_eq_error_iff {f : α → Except ε β} {as : List α} {e : ε} :
    as.mapM f = .error e ↔ ∃ before a after, as = before ++ a :: after ∧
      (∀ earlier ∈ before, ∃ b, f earlier = .ok b) ∧ f a = .error e := by
  induction as with
  | nil => simp [pure, Except.pure]
  | cons a as ih =>
    rw [List.mapM_cons]
    simp only [List.cons_eq_append_iff]
    cases hf : f a with
    | error cause =>
      constructor
      · intro h
        cases h
        exact ⟨[], a, as, .inl ⟨rfl, rfl⟩, nofun, hf⟩
      · rintro ⟨before, other, after, ⟨rfl, hsplit⟩ | ⟨more, rfl, -⟩, hbefore, hother⟩
        · obtain ⟨rfl, rfl⟩ := List.cons.inj hsplit
          cases hf.symm.trans hother
          rfl
        · obtain ⟨b, hok⟩ := hbefore a List.mem_cons_self
          cases hf.symm.trans hok
    | ok b =>
      have hrest : (do let c ← Except.ok b; let bs ← as.mapM f; pure (c :: bs)) = .error e ↔
          as.mapM f = .error e := map_eq_error_iff (f := (b :: ·))
      rw [hrest, ih]
      constructor
      · rintro ⟨before, other, after, rfl, hbefore, hother⟩
        exact ⟨a :: before, other, after, .inr ⟨before, rfl, rfl⟩,
          List.forall_mem_cons.mpr ⟨⟨b, hf⟩, hbefore⟩, hother⟩
      · rintro ⟨before, other, after, ⟨rfl, hsplit⟩ | ⟨more, rfl, rfl⟩, hbefore, hother⟩
        · obtain ⟨rfl, rfl⟩ := List.cons.inj hsplit
          cases hf.symm.trans hother
        · exact ⟨more, other, after, rfl, (List.forall_mem_cons.mp hbefore).2, hother⟩

theorem exists_mapM_eq_ok_iff {f : α → Except ε β} {as : List α} :
    (∃ bs, as.mapM f = .ok bs) ↔ ∀ a ∈ as, ∃ b, f a = .ok b := by
  simp only [mapM_eq_ok_iff]
  induction as with
  | nil => simp
  | cons a as ih =>
    rw [List.forall_mem_cons, ← ih]
    constructor
    · rintro ⟨_, h⟩
      obtain ⟨b, bs, hb, hbs, -⟩ := List.forall₂_cons_left_iff.mp h
      exact ⟨⟨b, hb⟩, bs, hbs⟩
    · rintro ⟨⟨b, hb⟩, bs, hbs⟩
      exact ⟨b :: bs, .cons hb hbs⟩

end Except

namespace Traced

/-! ## Results -/

@[simp] theorem result_ofExcept (x : Except Fault α) : (ofExcept x).result = x := rfl

theorem result_bind (x : Traced α) (f : α → Traced β) :
    (x >>= f).result = x.result >>= fun a => (f a).result := by
  cases h : x.result with
  | ok a => rw [bind_of_ok f h]; rfl
  | error fault => rw [bind_of_error f h]; rfl

theorem map_eq_bind (f : α → β) (x : Traced α) : f <$> x = x >>= fun a => pure (f a) :=
  map_eq_pure_bind f x

theorem ofExcept_map (f : α → β) (x : Except Fault α) : ofExcept (f <$> x) = f <$> ofExcept x := by
  cases x <;> rfl

theorem result_map (f : α → β) (x : Traced α) : (f <$> x).result = f <$> x.result := by
  rw [map_eq_bind, result_bind, map_eq_pure_bind]
  rfl

theorem result_mapM (f : α → Traced β) (as : List α) :
    (as.mapM f).result = as.mapM fun a => (f a).result := by
  induction as with
  | nil => rfl
  | cons a as ih =>
    simp only [List.mapM_cons, result_bind, ih]
    rfl

/-! ## Events -/

/-- The warnings that a run reports, in order. -/
def warnings (run : Traced α) : List Event := run.events.filter (·.level = .warn)

theorem events_map (f : α → β) (x : Traced α) : (f <$> x).events = x.events := by
  rw [map_eq_bind]
  cases h : x.result with
  | ok a => simp [bind_of_ok _ h]
  | error fault => rw [bind_of_error _ h]

/-- A run over a list that fails reports what its members do, up to the one that it fails at. -/
theorem events_mapM_of_error {f : α → Traced β} {before after : List α} {a : α} {fault : Fault}
    (hbefore : ∀ earlier ∈ before, ∃ b, (f earlier).result = .ok b)
    (ha : (f a).result = .error fault) :
    ((before ++ a :: after).mapM f).events = (before ++ [a]).flatMap fun a => (f a).events := by
  induction before with
  | nil => simp [bind_of_error _ ha]
  | cons first before ih =>
    obtain ⟨⟨b, hb⟩, hbefore⟩ := List.forall_mem_cons.mp hbefore
    have hmap : (do let bs ← (before ++ a :: after).mapM f; pure (b :: bs)) =
        (b :: ·) <$> (before ++ a :: after).mapM f := (map_eq_bind _ _).symm
    rw [List.cons_append, List.mapM_cons, bind_of_ok _ hb, hmap, events_map, ih hbefore]
    rfl

/-- A run over a list that succeeds reports what its members do. -/
theorem events_mapM_of_ok {f : α → Traced β} {as : List α} {bs : List β}
    (h : (as.mapM f).result = .ok bs) : (as.mapM f).events = as.flatMap fun a => (f a).events := by
  rw [result_mapM, Except.mapM_eq_ok_iff] at h
  induction h with
  | nil => rfl
  | @cons a b as bs hb _ ih =>
    have hmap : (do let bs ← as.mapM f; pure (b :: bs)) = (b :: ·) <$> as.mapM f :=
      (map_eq_bind _ _).symm
    rw [List.mapM_cons, bind_of_ok _ hb, hmap, events_map, ih]
    rfl

theorem warnings_mapM_of_ok {f : α → Traced β} {as : List α} {bs : List β}
    (h : (as.mapM f).result = .ok bs) :
    (as.mapM f).warnings = as.flatMap fun a => (f a).warnings := by
  rw [warnings, events_mapM_of_ok h, List.filter_flatMap]
  rfl

theorem warnings_map (f : α → β) (x : Traced α) : (f <$> x).warnings = x.warnings := by
  rw [warnings, events_map]
  rfl

theorem warnings_bind_of_ok {x : Traced α} {a : α} (f : α → Traced β) (h : x.result = .ok a) :
    (x >>= f).warnings = x.warnings ++ (f a).warnings := by
  rw [warnings, bind_of_ok f h, List.filter_append]
  rfl

@[simp] theorem events_report (event : Event) : (report event).events = [event] := rfl

theorem mem_warnings {run : Traced α} {event : Event} :
    event ∈ run.warnings ↔ event ∈ run.events ∧ event.level = .warn := by
  simp [warnings]

end Traced

end ApiStencil

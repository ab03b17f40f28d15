import ApiStencil.Proofs.Model.Expansion

/-!
# Strict and lenient expansion

A strict expansion is the lenient one up to the first property that cannot be typed. Where the
lenient run drops that property with a warning, the strict run ends; what the lenient run goes on
to do, and whether it fails later, makes no difference.

## Main definitions

* `Log.IsDrop`: whether an event warns of a dropped property
* `EndsAtDrop lenient strict`: the strict run is the lenient one up to its first warning

## Main results

* `EndsAtDrop.bind`, `EndsAtDrop.mapM`: runs that agree so step by step agree so as a whole
* `endsAtDrop_expandModels`: the expansions of the models of a document agree so
* `spelledModels_strict_of_lenient`: the lenient run determines the strict one
-/

namespace ApiStencil

variable {α β : Type}

/-- Whether an event warns of a dropped property. -/
def Log.IsDrop (event : Event) : Prop :=
  ∃ owner cause, event = Log.droppedProperty owner cause

/-- The strict run is the lenient one up to its first warning. All warnings are of dropped
properties, and where there is one the strict run ends with the fault of that property. -/
inductive EndsAtDrop (lenient strict : Traced α) : Prop where
  | same (quiet : lenient.warnings = []) (run : strict = lenient)
  | dropped (before later : List Event) (owner : EnumOwner) (cause : TypeFault)
      (events : lenient.events = before ++ Log.droppedProperty owner cause :: later)
      (quiet : before.filter (·.level = .warn) = [])
      (drops : ∀ event ∈ later, event.level = .warn → Log.IsDrop event)
      (run : strict =
        ⟨before, .error (.unresolvedPropertyType owner.schema owner.property cause)⟩)

namespace EndsAtDrop

/-- A run without warnings is the same in both modes. -/
theorem refl {x : Traced α} (h : x.warnings = []) : EndsAtDrop x x := .same h rfl

theorem pure (a : α) : EndsAtDrop (Pure.pure a : Traced α) (Pure.pure a) := refl rfl

theorem ofExcept (x : Except Fault α) : EndsAtDrop (Traced.ofExcept x) (Traced.ofExcept x) :=
  refl rfl

theorem report {event : Event} (h : event.level ≠ .warn) :
    EndsAtDrop (Traced.report event) (Traced.report event) :=
  refl (by simp [Traced.warnings, h])

/-- Every warning of the lenient run is of a dropped property. -/
theorem isDrop {lenient strict : Traced α} (h : EndsAtDrop lenient strict) {event : Event}
    (hmem : event ∈ lenient.events) (hlevel : event.level = .warn) : Log.IsDrop event := by
  rcases h with ⟨quiet, -⟩ | ⟨before, later, owner, cause, events, quiet, drops, -⟩
  · exact absurd hlevel (by simpa using List.filter_eq_nil_iff.mp quiet event hmem)
  · rw [events, List.mem_append, List.mem_cons] at hmem
    rcases hmem with hmem | rfl | hmem
    · exact absurd hlevel (by simpa using List.filter_eq_nil_iff.mp quiet event hmem)
    · exact ⟨owner, cause, rfl⟩
    · exact drops event hmem hlevel

/-- Runs that agree up to the first warning can be continued by runs that do. -/
theorem bind {lenient strict : Traced α} {f g : α → Traced β} (h : EndsAtDrop lenient strict)
    (hfg : ∀ a, EndsAtDrop (f a) (g a)) : EndsAtDrop (lenient >>= f) (strict >>= g) := by
  rcases h with ⟨quiet, rfl⟩ | ⟨before, later, owner, cause, events, quiet, drops, rfl⟩
  · cases hr : strict.result with
    | error fault =>
      rw [Traced.bind_of_error f hr, Traced.bind_of_error g hr]
      exact refl quiet
    | ok a =>
      rw [Traced.bind_of_ok f hr, Traced.bind_of_ok g hr]
      rcases hfg a with ⟨quiet', hg⟩ | ⟨before', later', owner, cause, events, quiet', drops, hg⟩
      · refine .same ?_ (by rw [hg])
        rw [Traced.warnings, List.filter_append]
        exact List.append_eq_nil_iff.mpr ⟨quiet, quiet'⟩
      · refine .dropped (strict.events ++ before') later' owner cause ?_ ?_ drops (by rw [hg])
        · rw [events, List.append_assoc]
        · rw [List.filter_append]
          exact List.append_eq_nil_iff.mpr ⟨quiet, quiet'⟩
  · rw [Traced.bind_of_error g rfl]
    cases hr : lenient.result with
    | error fault =>
      rw [Traced.bind_of_error f hr]
      exact .dropped before later owner cause events quiet drops rfl
    | ok a =>
      rw [Traced.bind_of_ok f hr]
      refine .dropped before (later ++ (f a).events) owner cause ?_ quiet ?_ rfl
      · rw [events, List.append_assoc, List.cons_append]
      · intro event hmem hlevel
        rcases List.mem_append.mp hmem with hmem | hmem
        · exact drops event hmem hlevel
        · exact (hfg a).isDrop hmem hlevel

theorem map {lenient strict : Traced α} (h : EndsAtDrop lenient strict) (f : α → β) :
    EndsAtDrop (f <$> lenient) (f <$> strict) := by
  rw [Traced.map_eq_bind, Traced.map_eq_bind]
  exact h.bind fun a => pure (f a)

theorem mapM {f g : α → Traced β} (h : ∀ a, EndsAtDrop (f a) (g a)) (as : List α) :
    EndsAtDrop (as.mapM f) (as.mapM g) := by
  induction as with
  | nil => exact pure []
  | cons a as ih =>
    rw [List.mapM_cons, List.mapM_cons]
    exact (h a).bind fun b => ih.bind fun bs => pure (b :: bs)

/-- The strict run gives the fault of the first warning. -/
theorem result_of_warnings_eq_cons {lenient strict : Traced α} (h : EndsAtDrop lenient strict)
    {first : Event} {later : List Event} (hw : lenient.warnings = first :: later) :
    ∃ owner cause, first = Log.droppedProperty owner cause ∧
      strict.result = .error (.unresolvedPropertyType owner.schema owner.property cause) := by
  rcases h with ⟨quiet, -⟩ | ⟨before, rest, owner, cause, events, quiet, -, rfl⟩
  · rw [quiet] at hw
    cases hw
  · rw [Traced.warnings, events, List.filter_append, quiet, List.nil_append,
      List.filter_cons_of_pos (by rfl)] at hw
    exact ⟨owner, cause, (List.cons.inj hw).1.symm, rfl⟩

end EndsAtDrop

/-! ## The expansion of models -/

/-- The only step at which the two modes part. -/
theorem endsAtDrop_expandProperty (schema : String) (required : List String)
    (property : String × Descriptor) :
    EndsAtDrop (expandProperty false schema required property)
      (expandProperty true schema required property) := by
  cases h : expandType property.2 (some { schema, property := property.1 }) with
  | ok expansion =>
    rw [expandProperty_of_ok h, expandProperty_of_ok h]
    exact .same (by simp [Traced.warnings, Log.expandedProperty]) rfl
  | error cause =>
    rw [expandProperty_of_error h, expandProperty_of_error h]
    exact .dropped [] [] { schema, property := property.1 } cause rfl rfl (by simp) rfl

theorem endsAtDrop_expandObject (name : String) (schema : Schema) :
    EndsAtDrop (expandObject false name schema) (expandObject true name schema) := by
  refine (EndsAtDrop.mapM (fun property => ?_) _).bind fun typed => .pure _
  exact endsAtDrop_expandProperty name schema.required property

theorem endsAtDrop_expandSchema (components : Components) (named : String × Schema) :
    EndsAtDrop (expandSchema components false named) (expandSchema components true named) := by
  refine (EndsAtDrop.ofExcept _).bind fun effective => ?_
  split
  · refine (endsAtDrop_expandObject named.1 effective).bind fun model => ?_
    exact (EndsAtDrop.report (by simp [Log.expandedModel])).bind fun _ => .pure _
  · refine (EndsAtDrop.ofExcept _).bind fun model => ?_
    exact (EndsAtDrop.report (by simp [Log.expandedModel])).bind fun _ => .pure _
  · refine (EndsAtDrop.report ?_).bind fun _ => .pure _
    cases effective.kind <;> simp [Log.skippedSchema]

/-- A strict expansion is the lenient one up to the first dropped property. -/
theorem endsAtDrop_expandModels (components : Components) :
    EndsAtDrop (expandModels components false) (expandModels components true) := by
  refine (EndsAtDrop.mapM (endsAtDrop_expandSchema components) _).bind fun models => ?_
  exact (EndsAtDrop.ofExcept _).bind fun _ => .pure _

/-- **The lenient run determines the strict one.** Warnings are of dropped properties only. Without
one the two runs are the same, whatever they end with; otherwise the strict run fails with the
schema, the property and the cause of the first one, whatever the lenient run ends with. What a
strict run gives the lenient run gives too. -/
theorem spelledModels_strict_of_lenient (v : Vocabulary) (components : Components) :
    let lenient := spelledModels v false components
    let strict := spelledModels v true components
    (∀ warning ∈ lenient.warnings, Log.IsDrop warning) ∧
      (lenient.warnings = [] → strict = lenient) ∧
      (∀ first later, lenient.warnings = first :: later →
        ∃ owner cause, first = Log.droppedProperty owner cause ∧
          strict.result = .error (.unresolvedPropertyType owner.schema owner.property cause)) ∧
      ∀ models, strict.result = .ok models → lenient.result = .ok models := by
  intro lenient strict
  have h : EndsAtDrop lenient strict := by
    simpa only [lenient, strict, spelledModels_eq] using (endsAtDrop_expandModels components).map _
  refine ⟨fun warning hw => ?_, fun quiet => ?_, fun first later => h.result_of_warnings_eq_cons,
    fun models hok => ?_⟩
  · obtain ⟨hmem, hlevel⟩ := Traced.mem_warnings.mp hw
    exact h.isDrop hmem hlevel
  · rcases h with ⟨-, run⟩ | ⟨before, later, owner, cause, events, -⟩
    · exact run
    · have hmem : Log.droppedProperty owner cause ∈ lenient.warnings :=
        Traced.mem_warnings.mpr ⟨by simp [events], rfl⟩
      rw [quiet] at hmem
      cases hmem
  · rcases h with ⟨-, run⟩ | ⟨before, later, owner, cause, events, -, -, run⟩
    · rw [← run, hok]
    · rw [run] at hok
      cases hok

end ApiStencil

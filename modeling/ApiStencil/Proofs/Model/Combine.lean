import ApiStencil.Model.Combine
import ApiStencil.Proofs.Trace

/-!
# Effective schemas

A schema that refers to others takes the place of their combination. Every reference that it is
combined from leads to a schema of the document.

## Main definitions

* `Schema.parts`: the references that a schema is combined from
* `Schema.combined`: the schema that a model is generated from
* `Schema.GivesModel`: whether a schema gives a model

## Main results

* `effectiveSchema_eq_ok`: the three forms of an effective schema
* `effectiveSchema_eq_combined`: an effective schema is the combination of what is referred to
* `lookup_parts`: the references that a schema is combined from lead to schemas
* `kind_effectiveSchema_iff`: a schema gives a model for its form or its kind
-/

namespace ApiStencil

variable {components : Components} {name : String}

theorem resolveReference_eq_ok_iff {reference : String} {target : Schema} :
    resolveReference components name reference = .ok target ↔
      components.lookup (refName reference) = some target := by
  cases h : components.lookup (refName reference) <;> simp [resolveReference, h]

theorem resolveMember_eq_ok_iff {member : Descriptor} {target : Schema} :
    resolveMember components name member = .ok target ↔
      member.type = none ∧ ∃ reference, member.reference = some reference ∧
        components.lookup (refName reference) = some target := by
  unfold resolveMember
  cases member.reference <;> cases member.type <;> simp [resolveReference_eq_ok_iff]

/-- What a reference leads to is taken as it is written, whatever it refers to itself. -/
theorem effectiveSchema_of_reference {schema : Schema} {reference : String}
    (h : schema.reference = some reference) :
    effectiveSchema components name schema =
      match components.lookup (refName reference) with
      | some target => .ok { combine [target] with description := schema.description }
      | none => .error (.danglingReference name (refName reference)) := by
  simp only [effectiveSchema, h, resolveReference]
  cases components.lookup (refName reference) <;> rfl

/-- An effective schema is the combination of one schema, of several, or a schema as it is. -/
theorem effectiveSchema_eq_ok {schema effective : Schema}
    (h : effectiveSchema components name schema = .ok effective) :
    (∃ reference target, schema.reference = some reference ∧
      components.lookup (refName reference) = some target ∧
      effective = { combine [target] with description := schema.description }) ∨
    (∃ members targets, schema.reference = none ∧ schema.allOf = some members ∧
      List.Forall₂ (fun member target => resolveMember components name member = .ok target)
        members targets ∧
      effective = { combine targets with description := schema.description }) ∨
    (schema.reference = none ∧ schema.allOf = none ∧ effective = schema) := by
  cases href : schema.reference with
  | some reference =>
    simp only [effectiveSchema, href] at h
    obtain ⟨target, htarget, h⟩ := Except.bind_eq_ok_iff.mp h
    exact .inl ⟨reference, target, rfl, resolveReference_eq_ok_iff.mp htarget,
      (Except.ok.inj h).symm⟩
  | none =>
    cases hmembers : schema.allOf with
    | some members =>
      simp only [effectiveSchema, href, hmembers] at h
      obtain ⟨targets, htargets, h⟩ := Except.bind_eq_ok_iff.mp h
      exact .inr (.inl ⟨members, targets, rfl, rfl, Except.mapM_eq_ok_iff.mp htargets,
        (Except.ok.inj h).symm⟩)
    | none =>
      simp only [effectiveSchema, href, hmembers] at h
      exact .inr (.inr ⟨rfl, rfl, (Except.ok.inj h).symm⟩)

/-- The references that a schema is combined from. -/
def Schema.parts (schema : Schema) : List String :=
  match schema.reference, schema.allOf with
  | some reference, _ => [reference]
  | none, some members => members.filterMap (·.reference)
  | none, none => []

/-- The schemas that some references lead to. -/
def Components.targets (components : Components) (references : List String) : List Schema :=
  references.filterMap fun reference => components.lookup (refName reference)

/-- The schema that a model is generated from: a schema as it is, or the combination of what it
refers to, as far as that is there. -/
def Schema.combined (components : Components) (schema : Schema) : Schema :=
  if schema.reference.isSome ∨ schema.allOf.isSome then
    { combine (components.targets schema.parts) with description := schema.description }
  else schema

theorem targets_of_members {members : List Descriptor} {targets : List Schema}
    (h : List.Forall₂ (fun member target => resolveMember components name member = .ok target)
      members targets) : components.targets (members.filterMap (·.reference)) = targets := by
  induction h with
  | nil => rfl
  | cons hmember _ ih =>
    obtain ⟨-, reference, hreference, hlookup⟩ := resolveMember_eq_ok_iff.mp hmember
    unfold Components.targets at ih ⊢
    simp [hreference, hlookup, ih]

/-- An effective schema is the combination of what is referred to. -/
theorem effectiveSchema_eq_combined {schema effective : Schema}
    (h : effectiveSchema components name schema = .ok effective) :
    effective = schema.combined components := by
  unfold Schema.combined Schema.parts
  rcases effectiveSchema_eq_ok h with ⟨reference, target, href, htarget, rfl⟩ |
    ⟨members, targets, href, hmembers, htargets, rfl⟩ | ⟨href, hmembers, rfl⟩
  · simp [href, Components.targets, htarget]
  · simp [href, hmembers, targets_of_members htargets]
  · simp [href, hmembers]

/-- The references that a schema is combined from lead to schemas. -/
theorem lookup_parts {schema effective : Schema}
    (h : effectiveSchema components name schema = .ok effective) :
    ∀ reference ∈ schema.parts, (components.lookup (refName reference)).isSome := by
  unfold Schema.parts
  rcases effectiveSchema_eq_ok h with ⟨reference, target, href, htarget, -⟩ |
    ⟨members, targets, href, hmembers, htargets, -⟩ | ⟨href, hmembers, -⟩
  · simp [href, htarget]
  · simp only [href, hmembers]
    intro reference hmem
    obtain ⟨member, hmember, hreference⟩ := List.mem_filterMap.mp hmem
    obtain ⟨target, -, hresolve⟩ := exists_mem_of_forall₂ htargets.flip hmember
    obtain ⟨-, other, hother, hlookup⟩ := resolveMember_eq_ok_iff.mp hresolve
    rw [hreference] at hother
    rw [Option.some.inj hother, hlookup]
    rfl
  · simp [href, hmembers]

/-- Whether a schema gives a model: it refers to others, or it is an object or a string. -/
def Schema.GivesModel (schema : Schema) : Prop :=
  schema.reference.isSome ∨ schema.allOf.isSome ∨ schema.kind = some .object ∨
    schema.kind = some .string

instance (schema : Schema) : Decidable schema.GivesModel :=
  inferInstanceAs (Decidable (_ ∨ _))

theorem kind_effectiveSchema_iff {schema effective : Schema}
    (h : effectiveSchema components name schema = .ok effective) :
    effective.kind = some .object ∨ effective.kind = some .string ↔ schema.GivesModel := by
  unfold Schema.GivesModel
  rcases effectiveSchema_eq_ok h with ⟨reference, target, href, -, rfl⟩ |
    ⟨members, targets, href, hmembers, -, rfl⟩ | ⟨href, hmembers, rfl⟩
  · simp [combine, href]
  · simp [combine, hmembers]
  · simp [href, hmembers]

end ApiStencil

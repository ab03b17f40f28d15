import ApiStencil.Proofs.Trace
import ApiStencil.Typing.Expansion

/-!
# The ways to type a descriptor

A descriptor gets its type in one of three ways: from the literals of an enum, from its type word,
or from its reference. It fails to get one only for its type word, or for the lack of both.

## Main definitions

* `Expansion.mapType`: a typed descriptor with another type of literals
* `EnumOwner.enumName`: the name of the enum that is generated for a property
* `Descriptor.IsEnum`: a property gets an enum of its own
* `Descriptor.IsTypable`, `typeFaults`: whether a descriptor has a type, and the fault if not

## Main results

* `spelledExpansion_eq`: a vocabulary spells the enum of a typed descriptor
* `expandType_eq_ok`, `expandType_eq_error`: the ways to succeed and to fail
* `expandType_of_enumLiterals`, `nestedEnum_of_expandType`: which properties get an enum
* `expandType_eq_error_iff`: having a type does not depend on an owner
-/

namespace ApiStencil

variable {node : Descriptor}

/-! ## The type of literals -/

section Spelling

variable {σ τ : Type}

/-- A typed descriptor with another type of literals. -/
def Expansion.mapType (f : σ → τ) (expansion : Expansion σ) : Expansion τ where
  type := expansion.type
  nestedEnum := expansion.nestedEnum.map (·.mapType f)

/-- The type of literals decides nothing but what stands for it in an enum. -/
theorem expandTypeWith_map (f : σ → τ) (rawType : σ) (node : Descriptor)
    (owner : Option EnumOwner) :
    expandTypeWith (f rawType) node owner =
      Expansion.mapType f <$> expandTypeWith rawType node owner := by
  have hscalar : ((mapScalar node).map fun type => ({ type := type } : Expansion τ)) =
      Expansion.mapType f <$> (mapScalar node).map fun type => { type := type } := by
    cases mapScalar node <;> rfl
  unfold expandTypeWith
  cases owner <;> cases enumLiterals? node <;> cases node.type <;> cases node.reference <;>
    first | rfl | exact hscalar

/-- A vocabulary spells the enum of a typed descriptor. Types and faults are the same in all of
them. -/
theorem spelledExpansion_eq (v : Vocabulary) (node : Descriptor) (owner : Option EnumOwner) :
    spelledExpansion v node owner = Expansion.mapType v.spell <$> expandType node owner :=
  expandTypeWith_map v.spell .text node owner

end Spelling

/-! ## The ways to succeed -/

/-- The name of the enum that is generated for a property. -/
def EnumOwner.enumName (owner : EnumOwner) : String :=
  nestedEnumName owner.schema owner.property

theorem type_of_enumLiterals? {literals : List String} (h : enumLiterals? node = some literals) :
    node.type = some .string := by
  unfold enumLiterals? at h
  split at h
  next hstring => exact hstring.1
  next => cases h

/-- A property that gets an enum of its own: a string with literals, unless it is binary. -/
def Descriptor.IsEnum (node : Descriptor) : Prop :=
  node.type = some .string ∧ node.format ≠ some "binary" ∧ node.literals.isSome

instance (node : Descriptor) : Decidable node.IsEnum :=
  inferInstanceAs (Decidable (_ ∧ _))

theorem Descriptor.isEnum_iff {node : Descriptor} :
    node.IsEnum ↔ ∃ literals, node.literals = some literals ∧
      enumLiterals? node = some literals := by
  unfold Descriptor.IsEnum enumLiterals?
  rw [Option.isSome_iff_exists]
  constructor
  · rintro ⟨htype, hformat, literals, hliterals⟩
    exact ⟨literals, hliterals, by rw [if_pos ⟨htype, hformat⟩, hliterals]⟩
  · rintro ⟨literals, hliterals, henum⟩
    split at henum
    next h => exact ⟨h.1, h.2, literals, hliterals⟩
    next => cases henum

theorem Descriptor.enumLiterals?_eq_none {node : Descriptor} (h : ¬ node.IsEnum) :
    enumLiterals? node = none := by
  unfold enumLiterals?
  split
  next hstring =>
    cases hliterals : node.literals with
    | none => rfl
    | some literals => exact absurd ⟨hstring.1, hstring.2, by rw [hliterals]; rfl⟩ h
  next => rfl

/-- The literals of a property make it an enum. -/
theorem expandType_of_enumLiterals {literals : List String} (owner : EnumOwner)
    (h : enumLiterals? node = some literals) :
    expandType node (some owner) =
      .ok { type := .enum owner.enumName
            nestedEnum := some (nestedEnum .text owner node.description literals) } := by
  simp only [expandType, expandTypeWith, h]
  rfl

/-- Without an enum the type word decides, and then the reference. -/
theorem expandType_of_plain {owner : Option EnumOwner}
    (h : owner = none ∨ enumLiterals? node = none) :
    expandType node owner =
      match node.type, node.reference with
      | some _, _ => (mapScalar node).map fun type => { type := type }
      | none, some reference => .ok { type := .named (refName reference) }
      | none, none => .error .unresolvable := by
  rcases h with rfl | h
  · rfl
  · cases owner <;> cases htype : node.type <;> cases hreference : node.reference <;>
      simp only [expandType, expandTypeWith, h, htype, hreference]

theorem plain_or_enum (node : Descriptor) (owner : Option EnumOwner) :
    (owner = none ∨ enumLiterals? node = none) ∨
      ∃ o literals, owner = some o ∧ enumLiterals? node = some literals := by
  cases owner <;> cases enumLiterals? node <;> simp

/-- A type word gives a scalar type, or an array. -/
theorem mapScalar_primitive_or_array {type : TypeRef} (h : mapScalar node = .ok type) :
    (∃ kind, type = .primitive kind) ∨ ∃ element, type = .array element := by
  unfold mapScalar at h
  split at h
  · cases h
  · split at h
    · cases h
    · split at h
      · split at h
        · cases h
        · obtain ⟨element, -, rfl⟩ := Except.map_eq_ok_iff.mp h
          exact .inr ⟨element, rfl⟩
      · obtain ⟨kind, -, rfl⟩ := Except.map_eq_ok_iff.mp h
        exact .inl ⟨kind, rfl⟩

/-- A descriptor is typed by the literals of an enum, by its type word or by its reference. -/
theorem expandType_eq_ok {owner : Option EnumOwner} {expansion : Expansion TypeRef}
    (h : expandType node owner = .ok expansion) :
    (∃ o literals, owner = some o ∧ enumLiterals? node = some literals ∧
      expansion = { type := .enum o.enumName
                    nestedEnum := some (nestedEnum .text o node.description literals) }) ∨
    ((owner = none ∨ enumLiterals? node = none) ∧ expansion.nestedEnum = none ∧
      (node.type ≠ none ∧ mapScalar node = .ok expansion.type ∨
        node.type = none ∧ ∃ reference, node.reference = some reference ∧
          expansion.type = .named (refName reference))) := by
  rcases plain_or_enum node owner with hplain | ⟨o, literals, rfl, hliterals⟩
  · rw [expandType_of_plain hplain] at h
    refine .inr ⟨hplain, ?_⟩
    split at h
    next word _ hword =>
      obtain ⟨type, htype, rfl⟩ := Except.map_eq_ok_iff.mp h
      exact ⟨rfl, .inl ⟨by simp [hword], htype⟩⟩
    next reference hword href =>
      cases h
      exact ⟨rfl, .inr ⟨hword, reference, href, rfl⟩⟩
    next => cases h
  · rw [expandType_of_enumLiterals o hliterals] at h
    exact .inl ⟨o, literals, rfl, hliterals, (Except.ok.inj h).symm⟩

/-- A descriptor has no type for its type word, or for the lack of both word and reference. -/
theorem expandType_eq_error {owner : Option EnumOwner} {cause : TypeFault}
    (h : expandType node owner = .error cause) :
    node.type ≠ none ∧ mapScalar node = .error cause ∨
      node.type = none ∧ node.reference = none ∧ cause = .unresolvable := by
  rcases plain_or_enum node owner with hplain | ⟨o, literals, rfl, hliterals⟩
  · rw [expandType_of_plain hplain] at h
    split at h
    next word _ hword =>
      cases hm : mapScalar node with
      | ok type =>
        rw [hm] at h
        cases h
      | error fault =>
        rw [hm] at h
        cases h
        exact .inl ⟨by simp [hword], rfl⟩
    next => cases h
    next hword href => exact .inr ⟨hword, href, (Except.error.inj h).symm⟩
  · rw [expandType_of_enumLiterals o hliterals] at h
    cases h

/-- Outside of models it is a reference without a type word that leads to a model. -/
theorem exists_eq_named_iff {expansion : Expansion TypeRef}
    (h : expandType node none = .ok expansion) :
    (∃ name, expansion.type = .named name) ↔ node.type = none := by
  rcases expandType_eq_ok h with ⟨o, -, ho, -⟩ | ⟨-, -, ⟨hword, hscalar⟩ | ⟨hword, href⟩⟩
  · cases ho
  · refine iff_of_false (fun ⟨name, hname⟩ => ?_) hword
    rcases mapScalar_primitive_or_array hscalar with ⟨kind, hkind⟩ | ⟨element, helement⟩
    · rw [hkind] at hname
      cases hname
    · rw [helement] at hname
      cases hname
  · obtain ⟨reference, -, hname⟩ := href
    exact iff_of_true ⟨_, hname⟩ hword

/-- The enum that comes with the type of a property. -/
theorem nestedEnum_of_expandType {owner : EnumOwner} {expansion : Expansion TypeRef}
    (h : expandType node (some owner) = .ok expansion) :
    expansion.nestedEnum = (enumLiterals? node).map (nestedEnum .text owner node.description) := by
  rcases expandType_eq_ok h with ⟨o, literals, ho, hliterals, rfl⟩ | ⟨hplain, hnone, -⟩
  · rw [hliterals, Option.some.inj ho]
    rfl
  · rw [hnone, hplain.resolve_left (by simp)]
    rfl

/-! ## Descriptors without a type -/

/-- A descriptor that has a type outside of models. -/
def Descriptor.IsTypable (node : Descriptor) : Prop :=
  ∃ expansion, expandType node none = .ok expansion

/-- The fault of a descriptor that has no type outside of models. -/
def typeFaults (wrap : TypeFault → Fault) (node : Descriptor) : List Fault :=
  match expandType node none with
  | .ok _ => []
  | .error cause => [wrap cause]

theorem typeFaults_eq_nil_iff {wrap : TypeFault → Fault} {node : Descriptor} :
    typeFaults wrap node = [] ↔ node.IsTypable := by
  unfold typeFaults Descriptor.IsTypable
  cases expandType node none <;> simp

/-- An owner makes no difference to the cause for which a descriptor has no type. -/
theorem expandType_eq_error_iff {owner : Option EnumOwner} {cause : TypeFault} :
    expandType node owner = .error cause ↔ expandType node none = .error cause := by
  rcases plain_or_enum node owner with hplain | ⟨o, literals, rfl, hliterals⟩
  · rw [expandType_of_plain hplain, expandType_of_plain (.inl rfl)]
  · have htype := type_of_enumLiterals? hliterals
    have hscalar : ∃ type, mapScalar node = .ok type := by
      simp [mapScalar, htype, mapPrimitive, Except.map]
    obtain ⟨type, hscalar⟩ := hscalar
    rw [expandType_of_enumLiterals o hliterals, expandType_of_plain (.inl rfl)]
    simp [htype, hscalar, Except.map]

end ApiStencil

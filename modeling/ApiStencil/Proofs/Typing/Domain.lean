import ApiStencil.Proofs.Typing.Expansion

/-!
# The descriptors that have a type

A descriptor is typed by its type word, and by its reference only if it has no word. Some words need
more: a number lists no literals, and neither does an array, whose items are to have a type in their
turn. A descriptor of another form is at fault, for one cause. The types that come out are flat: an
array holds scalars or models, never arrays or enums.

## Main definitions

* `ItemDescriptor.IsSupported`, `Descriptor.IsSupported`: the forms that have a type
* `ItemDescriptor.IsAtFault`, `Descriptor.IsAtFault`: the forms that have none, with the cause
* `TypeRef.IsElement`, `TypeRef.IsFlat`: the types of items and of descriptors
* `spelledType`: the type of a descriptor and its enum in the words of a vocabulary

## Main results

* `Descriptor.isSupported_or_isAtFault`: every descriptor has one of the forms
* `Descriptor.isTypable_iff`: the descriptors that have a type
* `expandType_eq_error_iff_isAtFault`: the cause for which a descriptor has none
* `isFlat_of_expandType`, `exists_eq_enum_iff`: which types come out
* `spelledType_domain`: where a type is found, what it is, and what has no influence on it
-/

namespace ApiStencil

variable {node : Descriptor} {items : ItemDescriptor} {cause : TypeFault}

/-! ## The forms of a descriptor -/

/-- The words of the scalar types. -/
def ScalarType.IsScalar (word : ScalarType) : Prop :=
  word = .string ∨ word = .integer ∨ word = .boolean ∨ word = .number

/-- Items with a type: they have the word of a scalar type, or a reference and no word. -/
inductive ItemDescriptor.IsSupported (items : ItemDescriptor) : Prop
  | scalar (word : ScalarType) (htype : items.type = some word) (hscalar : word.IsScalar)
  | reference (reference : String) (htype : items.type = none)
      (href : items.reference = some reference)

/-- Items without a type, and the cause. -/
inductive ItemDescriptor.IsAtFault (items : ItemDescriptor) : TypeFault → Prop
  | nestedArray (htype : items.type = some .array) : items.IsAtFault .nestedArray
  | inlineObject (htype : items.type = some .object) : items.IsAtFault .inlineObject
  | unknownType (word : String) (htype : items.type = some (.other word)) :
      items.IsAtFault (.unknownType word)
  | bareItems (htype : items.type = none) (href : items.reference = none) :
      items.IsAtFault .bareItems

/-- Descriptors with a type. A string, an integer or a boolean has one whatever else it says, while
a number and an array must not list literals, and the items of an array need a type. -/
inductive Descriptor.IsSupported (node : Descriptor) : Prop
  | word (word : ScalarType) (htype : node.type = some word)
      (hword : word = .string ∨ word = .integer ∨ word = .boolean)
  | number (htype : node.type = some .number) (hliterals : node.literals = none)
  | array (items : ItemDescriptor) (htype : node.type = some .array)
      (hliterals : node.literals = none) (hitems : node.items = some items)
      (hsupported : items.IsSupported)
  | reference (reference : String) (htype : node.type = none)
      (href : node.reference = some reference)

/-- Descriptors without a type, and the cause. The literals of an array are looked at before its
items. -/
inductive Descriptor.IsAtFault (node : Descriptor) : TypeFault → Prop
  | literalsNotAllowed (word : ScalarType) (htype : node.type = some word)
      (hword : word = .number ∨ word = .array) (hliterals : node.literals.isSome) :
      node.IsAtFault (.literalsNotAllowed word.word)
  | noItems (htype : node.type = some .array) (hliterals : node.literals = none)
      (hitems : node.items = none) : node.IsAtFault .noItems
  | items (items : ItemDescriptor) (cause : TypeFault) (htype : node.type = some .array)
      (hliterals : node.literals = none) (hitems : node.items = some items)
      (hfault : items.IsAtFault cause) : node.IsAtFault cause
  | inlineObject (htype : node.type = some .object) : node.IsAtFault .inlineObject
  | unknownType (word : String) (htype : node.type = some (.other word)) :
      node.IsAtFault (.unknownType word)
  | unresolvable (htype : node.type = none) (href : node.reference = none) :
      node.IsAtFault .unresolvable

theorem ItemDescriptor.isSupported_or_isAtFault (items : ItemDescriptor) :
    items.IsSupported ∨ ∃ cause, items.IsAtFault cause := by
  cases htype : items.type with
  | none =>
    cases href : items.reference with
    | none => exact .inr ⟨_, .bareItems htype href⟩
    | some reference => exact .inl (.reference reference htype href)
  | some word =>
    cases word with
    | string => exact .inl (.scalar .string htype (.inl rfl))
    | integer => exact .inl (.scalar .integer htype (.inr (.inl rfl)))
    | boolean => exact .inl (.scalar .boolean htype (.inr (.inr (.inl rfl))))
    | number => exact .inl (.scalar .number htype (.inr (.inr (.inr rfl))))
    | array => exact .inr ⟨_, .nestedArray htype⟩
    | object => exact .inr ⟨_, .inlineObject htype⟩
    | other word => exact .inr ⟨_, .unknownType word htype⟩

/-- Every descriptor has one of the forms. -/
theorem Descriptor.isSupported_or_isAtFault (node : Descriptor) :
    node.IsSupported ∨ ∃ cause, node.IsAtFault cause := by
  cases htype : node.type with
  | none =>
    cases href : node.reference with
    | none => exact .inr ⟨_, .unresolvable htype href⟩
    | some reference => exact .inl (.reference reference htype href)
  | some word =>
    cases word with
    | string => exact .inl (.word .string htype (.inl rfl))
    | integer => exact .inl (.word .integer htype (.inr (.inl rfl)))
    | boolean => exact .inl (.word .boolean htype (.inr (.inr rfl)))
    | object => exact .inr ⟨_, .inlineObject htype⟩
    | other word => exact .inr ⟨_, .unknownType word htype⟩
    | number =>
      cases hliterals : node.literals with
      | none => exact .inl (.number htype hliterals)
      | some literals =>
        exact .inr ⟨_, .literalsNotAllowed .number htype (.inl rfl) (by rw [hliterals]; rfl)⟩
    | array =>
      cases hliterals : node.literals with
      | some literals =>
        exact .inr ⟨_, .literalsNotAllowed .array htype (.inr rfl) (by rw [hliterals]; rfl)⟩
      | none =>
        cases hitems : node.items with
        | none => exact .inr ⟨_, .noItems htype hliterals hitems⟩
        | some items =>
          rcases items.isSupported_or_isAtFault with hsupported | ⟨cause, hfault⟩
          · exact .inl (.array items htype hliterals hitems hsupported)
          · exact .inr ⟨cause, .items items cause htype hliterals hitems hfault⟩

/-! ## What the forms give -/

theorem ItemDescriptor.IsSupported.exists_mapItems (h : items.IsSupported) :
    ∃ type, mapItems items = .ok type := by
  cases h with
  | scalar word htype hscalar =>
    have hkind : ∃ kind, mapPrimitive word items.format = .ok kind := by
      rcases hscalar with rfl | rfl | rfl | rfl <;> exact ⟨_, rfl⟩
    obtain ⟨kind, hkind⟩ := hkind
    exact ⟨.primitive kind, by simp only [mapItems, htype, hkind, Except.map]⟩
  | reference reference htype href =>
    exact ⟨.named (refName reference), by simp only [mapItems, htype, href]⟩

theorem ItemDescriptor.IsAtFault.mapItems_eq (h : items.IsAtFault cause) :
    mapItems items = .error cause := by
  cases h with
  | bareItems htype href => simp only [mapItems, htype, href]
  | nestedArray htype => simp only [mapItems, htype, mapPrimitive, Except.map]
  | inlineObject htype => simp only [mapItems, htype, mapPrimitive, Except.map]
  | unknownType word htype => simp only [mapItems, htype, mapPrimitive, Except.map]

theorem Descriptor.IsSupported.isTypable (h : node.IsSupported) : node.IsTypable := by
  unfold Descriptor.IsTypable
  rw [expandType_of_plain (.inl rfl)]
  cases h with
  | word word htype hword =>
    rcases hword with rfl | rfl | rfl <;> simp [htype, mapScalar, mapPrimitive, Except.map]
  | number htype hliterals => simp [htype, hliterals, mapScalar, mapPrimitive, Except.map]
  | array items htype hliterals hitems hsupported =>
    obtain ⟨type, hmap⟩ := hsupported.exists_mapItems
    simp [htype, hliterals, hitems, mapScalar, hmap, Except.map]
  | reference reference htype href => simp [htype, href]

theorem Descriptor.IsAtFault.expandType_eq (h : node.IsAtFault cause) (owner : Option EnumOwner) :
    expandType node owner = .error cause := by
  rw [expandType_eq_error_iff, expandType_of_plain (.inl rfl)]
  cases h with
  | literalsNotAllowed word htype hword hliterals =>
    simp only [htype, mapScalar, if_pos (And.intro hword hliterals), Except.map]
  | noItems htype hliterals hitems => simp [htype, hliterals, hitems, mapScalar, Except.map]
  | items items cause htype hliterals hitems hfault =>
    simp [htype, hliterals, hitems, mapScalar, hfault.mapItems_eq, Except.map]
  | inlineObject htype => simp [htype, mapScalar, mapPrimitive, Except.map]
  | unknownType word htype => simp [htype, mapScalar, mapPrimitive, Except.map]
  | unresolvable htype href => simp [htype, href]

/-- The cause for which a descriptor has no type is that of its form, with an owner or without
one. -/
theorem expandType_eq_error_iff_isAtFault {owner : Option EnumOwner} :
    expandType node owner = .error cause ↔ node.IsAtFault cause := by
  constructor
  · intro h
    rcases node.isSupported_or_isAtFault with hsupported | ⟨other, hother⟩
    · obtain ⟨expansion, hx⟩ := hsupported.isTypable
      cases hx.symm.trans (expandType_eq_error_iff.mp h)
    · cases h.symm.trans (hother.expandType_eq owner)
      exact hother
  · intro h
    exact h.expandType_eq owner

theorem exists_expandType_iff {owner : Option EnumOwner} :
    (∃ expansion, expandType node owner = .ok expansion) ↔ node.IsSupported := by
  constructor
  · rintro ⟨expansion, hx⟩
    refine node.isSupported_or_isAtFault.resolve_right ?_
    rintro ⟨cause, hfault⟩
    cases hx.symm.trans (hfault.expandType_eq owner)
  · intro h
    cases hx : expandType node owner with
    | ok expansion => exact ⟨expansion, rfl⟩
    | error cause =>
      obtain ⟨expansion, hok⟩ := h.isTypable
      cases hok.symm.trans (expandType_eq_error_iff.mp hx)

/-- The descriptors that have a type outside of models are those that have one at all. -/
theorem Descriptor.isTypable_iff : node.IsTypable ↔ node.IsSupported :=
  exists_expandType_iff

/-! ## The types that come out -/

/-- What an array may hold: a scalar type or a model. -/
inductive TypeRef.IsElement : TypeRef → Prop
  | primitive (kind : Primitive) : IsElement (.primitive kind)
  | named (name : String) : IsElement (.named name)

/-- The types of descriptors: those that an array may hold, arrays of them, and enums. -/
inductive TypeRef.IsFlat : TypeRef → Prop
  | element {type : TypeRef} (h : type.IsElement) : IsFlat type
  | array {element : TypeRef} (h : element.IsElement) : IsFlat (.array element)
  | enum (name : String) : IsFlat (.enum name)

theorem isElement_of_mapItems {type : TypeRef} (h : mapItems items = .ok type) :
    type.IsElement := by
  unfold mapItems at h
  split at h
  next =>
    obtain ⟨kind, -, rfl⟩ := Except.map_eq_ok_iff.mp h
    exact .primitive kind
  next reference _ _ =>
    cases h
    exact .named (refName reference)
  next => cases h

theorem isFlat_of_mapScalar {type : TypeRef} (h : mapScalar node = .ok type) : type.IsFlat := by
  unfold mapScalar at h
  split at h
  next => cases h
  next word hword =>
    split at h
    next => cases h
    next =>
      split at h
      next harray =>
        split at h
        next => cases h
        next items hitems =>
          obtain ⟨element, helement, rfl⟩ := Except.map_eq_ok_iff.mp h
          exact .array (isElement_of_mapItems helement)
      next =>
        obtain ⟨kind, -, rfl⟩ := Except.map_eq_ok_iff.mp h
        exact .element (.primitive kind)

/-- No array of arrays comes out, and no array of enums. -/
theorem isFlat_of_expandType {owner : Option EnumOwner} {expansion : Expansion TypeRef}
    (h : expandType node owner = .ok expansion) : expansion.type.IsFlat := by
  rcases expandType_eq_ok h with ⟨o, literals, -, -, rfl⟩ | ⟨-, -, ⟨-, hscalar⟩ | ⟨-, href⟩⟩
  · exact .enum o.enumName
  · exact isFlat_of_mapScalar hscalar
  · obtain ⟨reference, -, htype⟩ := href
    rw [htype]
    exact .element (.named (refName reference))

/-- Without an enum of its own no descriptor has the type of one. -/
theorem ne_enum_of_mapScalar {type : TypeRef} (h : mapScalar node = .ok type) (name : String) :
    type ≠ .enum name := by
  rcases mapScalar_primitive_or_array h with ⟨kind, rfl⟩ | ⟨element, rfl⟩
  · exact nofun
  · exact nofun

/-- The type is an enum exactly if an enum comes with it, and it is that one. -/
theorem eq_enum_iff {owner : Option EnumOwner} {expansion : Expansion TypeRef}
    (h : expandType node owner = .ok expansion) (name : String) :
    expansion.type = .enum name ↔ ∃ nested, expansion.nestedEnum = some nested ∧
      nested.name = name := by
  rcases expandType_eq_ok h with ⟨o, literals, -, -, rfl⟩ | ⟨-, hnone, ⟨-, hscalar⟩ | ⟨-, href⟩⟩
  · have hname : (nestedEnum TypeRef.text o node.description literals).name = o.enumName := rfl
    simp [hname]
  · simp [hnone, ne_enum_of_mapScalar hscalar name]
  · obtain ⟨reference, -, htype⟩ := href
    simp [hnone, htype]

/-- The type is an enum exactly if the descriptor is that of a property with an enum of its own. -/
theorem exists_eq_enum_iff {owner : Option EnumOwner} {expansion : Expansion TypeRef}
    (h : expandType node owner = .ok expansion) :
    (∃ name, expansion.type = .enum name) ↔ owner.isSome ∧ node.IsEnum := by
  rcases expandType_eq_ok h with ⟨o, literals, rfl, hliterals, rfl⟩ | ⟨hplain, hnone, -⟩
  · refine iff_of_true ⟨o.enumName, rfl⟩ ⟨rfl, ?_⟩
    by_contra hnot
    rw [Descriptor.enumLiterals?_eq_none hnot] at hliterals
    cases hliterals
  · refine iff_of_false ?_ ?_
    · rintro ⟨name, hname⟩
      obtain ⟨nested, hnested, -⟩ := (eq_enum_iff h name).mp hname
      rw [hnone] at hnested
      cases hnested
    · rintro ⟨howner, henum⟩
      obtain ⟨literals, -, hliterals⟩ := Descriptor.isEnum_iff.mp henum
      rcases hplain with rfl | hplain
      · cases howner
      · rw [hplain] at hliterals
        cases hliterals

/-! ## What has no influence -/

theorem mapItems_reference (h : items.type ≠ none) (reference : Option String) :
    mapItems { items with reference } = mapItems items := by
  obtain ⟨word, hword⟩ := Option.ne_none_iff_exists'.mp h
  simp only [mapItems, hword]

/-- A type word wins over a reference. -/
theorem expandType_reference (h : node.type ≠ none) (reference : Option String)
    (owner : Option EnumOwner) :
    expandType { node with reference } owner = expandType node owner := by
  obtain ⟨word, hword⟩ := Option.ne_none_iff_exists'.mp h
  have hliterals : enumLiterals? { node with reference } = enumLiterals? node := rfl
  have hscalar : mapScalar { node with reference } = mapScalar node := rfl
  simp only [expandType, expandTypeWith, hliterals, hscalar]
  rw [hword]

/-- So it does in the items of an array. -/
theorem expandType_items_reference (hitems : node.items = some items) (h : items.type ≠ none)
    (reference : Option String) (owner : Option EnumOwner) :
    expandType { node with items := some { items with reference } } owner =
      expandType node owner := by
  have hliterals : enumLiterals? { node with items := some { items with reference } } =
      enumLiterals? node := rfl
  have hscalar : mapScalar { node with items := some { items with reference } } =
      mapScalar node := by
    simp only [mapScalar, hitems, mapItems_reference h]
  simp only [expandType, expandTypeWith, hliterals, hscalar]

/-! ## The types of a vocabulary -/

/-- The type of a descriptor and the enum generated for it, in the words of a vocabulary. -/
def spelledType (v : Vocabulary) (node : Descriptor) (owner : Option EnumOwner) :
    Except Fault (TypeRef × Option (EnumModel String)) :=
  match spelledExpansion v node owner with
  | .ok expansion => .ok (expansion.type, expansion.nestedEnum)
  | .error cause => .error (.unsupportedType cause)

/-- Spelling comes after typing. -/
theorem spelledType_eq (v : Vocabulary) (node : Descriptor) (owner : Option EnumOwner) :
    spelledType v node owner =
      match expandType node owner with
      | .ok expansion => .ok (expansion.type, expansion.nestedEnum.map (·.mapType v.spell))
      | .error cause => .error (.unsupportedType cause) := by
  rw [spelledType, spelledExpansion_eq]
  cases expandType node owner <;> rfl

theorem spelledType_eq_ok_iff {v : Vocabulary} {owner : Option EnumOwner} {type : TypeRef}
    {nested? : Option (EnumModel String)} :
    spelledType v node owner = .ok (type, nested?) ↔ ∃ expansion,
      expandType node owner = .ok expansion ∧ expansion.type = type ∧
        expansion.nestedEnum.map (·.mapType v.spell) = nested? := by
  rw [spelledType_eq]
  cases expandType node owner <;> simp

theorem spelledType_eq_error_iff {v : Vocabulary} {owner : Option EnumOwner} {fault : Fault} :
    spelledType v node owner = .error fault ↔ ∃ cause,
      expandType node owner = .error cause ∧ fault = .unsupportedType cause := by
  rw [spelledType_eq]
  cases expandType node owner <;> simp [eq_comm]

/-- **The domain of typing.** A descriptor has a type exactly if it has one of the supported forms,
with an owner or without one and in all vocabularies; any other one is unsupported, for the cause
that its form has. The type is a scalar, a model, an array of one of these, or an enum. It is an
enum exactly if the descriptor belongs to a property and is a string with literals that is not
binary, and exactly then an enum comes with it, which has the name that the type tells. Beside a
type word a reference has no influence, and neither has one beside the type word of the items. -/
theorem spelledType_domain (v : Vocabulary) (node : Descriptor) (owner : Option EnumOwner) :
    ((∃ type nested?, spelledType v node owner = .ok (type, nested?)) ↔ node.IsSupported) ∧
      (¬ node.IsSupported → ∃ cause, node.IsAtFault cause ∧
        spelledType v node owner = .error (.unsupportedType cause)) ∧
      (∀ type nested?, spelledType v node owner = .ok (type, nested?) →
        type.IsFlat ∧ ((∃ name, type = .enum name) ↔ owner.isSome ∧ node.IsEnum) ∧
          ∀ name, type = .enum name ↔ ∃ nested, nested? = some nested ∧ nested.name = name) ∧
      (node.type ≠ none → ∀ reference,
        spelledType v { node with reference } owner = spelledType v node owner) ∧
      ∀ items, node.items = some items → items.type ≠ none → ∀ reference,
        spelledType v { node with items := some { items with reference } } owner =
          spelledType v node owner := by
  refine ⟨?_, ?_, ?_, ?_, ?_⟩
  · have htyped : (∃ expansion, expandType node owner = .ok expansion) ↔ node.IsSupported :=
      exists_expandType_iff
    rw [← htyped]
    simp [spelledType_eq_ok_iff]
  · intro hnot
    obtain ⟨cause, hfault⟩ := node.isSupported_or_isAtFault.resolve_left hnot
    exact ⟨cause, hfault, spelledType_eq_error_iff.mpr ⟨cause, hfault.expandType_eq owner, rfl⟩⟩
  · intro type nested? h
    obtain ⟨expansion, hx, rfl, rfl⟩ := spelledType_eq_ok_iff.mp h
    refine ⟨isFlat_of_expandType hx, exists_eq_enum_iff hx, fun name => ?_⟩
    rw [eq_enum_iff hx]
    simp only [Option.map_eq_some_iff, exists_exists_and_eq_and]
    rfl
  · intro htype reference
    rw [spelledType_eq, spelledType_eq, expandType_reference htype]
  · intro items hitems htype reference
    rw [spelledType_eq, spelledType_eq, expandType_items_reference hitems htype]

/-- A property that lists literals and refers to a model besides. -/
def sizeDescriptor : Descriptor where
  type := some .string
  reference := some "#/components/schemas/Size"
  literals := some ["S", "M"]

/-- The enum of that property. -/
def sizeEnum : EnumModel String where
  name := "ShirtSize"
  description := missingDescription
  rawType := "String"
  cases := [{ name := "S", description := missingDescription },
    { name := "M", description := missingDescription }]

/-- A list of sizes, the items of which refer to a model besides. -/
def sizesDescriptor : Descriptor where
  type := some .array
  items := some { type := some .string, reference := some "#/components/schemas/Size" }

/-- A number that lists literals. -/
def numberedDescriptor : Descriptor where
  type := some .number
  literals := some []

theorem spelledType_domain_size :
    sizeDescriptor.IsSupported ∧
      spelledType {} { sizeDescriptor with reference := none }
        (some { schema := "shirt", property := "size" }) =
          .ok (.enum "ShirtSize", some sizeEnum) ∧
      (∃ nested, some sizeEnum = some nested ∧ nested.name = "ShirtSize") ∧
      spelledType {} { sizesDescriptor with
        items := some { type := some .string, reference := none } } none =
          .ok (.array .text, none) ∧
      ∃ cause, numberedDescriptor.IsAtFault cause ∧
        spelledType {} numberedDescriptor none = .error (.unsupportedType cause) := by
  have hsize : spelledType {} sizeDescriptor (some { schema := "shirt", property := "size" }) =
      .ok (.enum "ShirtSize", some sizeEnum) := by decide +kernel
  obtain ⟨hok, -, hshape, hreference, -⟩ :=
    spelledType_domain {} sizeDescriptor (some { schema := "shirt", property := "size" })
  obtain ⟨-, -, -, -, hitems⟩ := spelledType_domain {} sizesDescriptor none
  obtain ⟨-, hfault, -⟩ := spelledType_domain {} numberedDescriptor none
  refine ⟨hok.mp ⟨_, _, hsize⟩, ?_, ?_, ?_, hfault ?_⟩
  · rw [hreference (by decide) none]
    exact hsize
  · exact ((hshape _ _ hsize).2.2 "ShirtSize").mp rfl
  · rw [hitems _ rfl (by decide) none]
    rfl
  · rintro (⟨word, htype, hword⟩ | ⟨-, hliterals⟩ | ⟨-, -, hliterals, -, -⟩ | ⟨-, htype, -⟩)
    · cases htype
      rcases hword with h | h | h <;> cases h
    · cases hliterals
    · cases hliterals
    · cases htype

end ApiStencil

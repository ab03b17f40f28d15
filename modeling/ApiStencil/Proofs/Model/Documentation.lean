import ApiStencil.Proofs.EnumDescription
import ApiStencil.Proofs.Model.Cases
import ApiStencil.Proofs.Model.Copies

/-!
# Documented enums

The enum of a property has a case for each literal of the property. What the description of the
property says about a literal becomes the description of its case, where the last line that is about
the literal counts; all other lines make no difference to it. The description that the cases share
is that of the enum, and of the property in the record.

## Main definitions

* `descriptionLines`: the lines of a description
* `Describes`: the description that some lines give a literal

## Main results

* `describes_iff`: the lines give a literal what is read for it
* `cases_nestedEnum`: the cases of an enum
* `expandType_documented`: the enum of a property, and the property in the record of its schema
-/

namespace ApiStencil

open EnumDescription

variable {lines rest : List (List Char)} {shared : Option String} {literal text : String}

/-! ## Lines about a literal -/

/-- The lines of a description, none if there is no description. -/
def descriptionLines (description : Option String) : List (List Char) :=
  (description.map fun text => Text.lines text.toList).getD []

/-- The description that some lines give a literal: the text of the last line that documents the
literal, or the placeholder if no line does. -/
def Describes (lines : List (List Char)) (literal description : String) : Prop :=
  LastOf (fun line text => Documents line literal text) lines description ∨
    (∀ line ∈ lines, ∀ text, ¬ Documents line literal text) ∧ description = missingDescription

/-- The lines give a literal what the dictionary of their entries holds for it. -/
theorem describes_iff {description : String} :
    Describes lines literal description ↔
      ((Dict.ofList (lines.filterMap entryOf?)).get? literal).getD missingDescription =
        description := by
  have hlast : LastOf (fun line text => Documents line literal text) lines description ↔
      (Dict.ofList (lines.filterMap entryOf?)).get? literal = some description := by
    rw [Dict.get?_ofList_filterMap_eq_some_iff]
    simp only [entryOf?_eq_some_iff]
  have hnone : (∀ line ∈ lines, ∀ text, ¬ Documents line literal text) ↔
      (Dict.ofList (lines.filterMap entryOf?)).get? literal = none := by
    rw [Dict.get?_ofList_filterMap_eq_none_iff]
    simp only [ne_eq, entryOf?_eq_some_iff]
  rw [Describes, hlast, hnone]
  cases (Dict.ofList (lines.filterMap entryOf?)).get? literal with
  | none => simp [eq_comm]
  | some text => simp

/-- A line that does not document a literal makes no difference to its description. -/
theorem describes_append_cons_iff {front back : List (List Char)} {line : List Char}
    {description : String} (h : ∀ text, ¬ Documents line literal text) :
    Describes (front ++ line :: back) literal description ↔
      Describes (front ++ back) literal description := by
  have hall : (∀ other ∈ front ++ line :: back, ∀ text, ¬ Documents other literal text) ↔
      ∀ other ∈ front ++ back, ∀ text, ¬ Documents other literal text := by
    simp only [List.forall_mem_append, List.forall_mem_cons]
    exact and_congr_right fun _ => and_iff_right h
  rw [Describes, Describes, hall]
  exact or_congr_left (lastOf_append_cons_iff h)

/-! ## The enum of a property -/

theorem ofText_of_opening {description : Option String}
    (h : Opening (descriptionLines description) shared rest) :
    ofText description = { shared, cases := Dict.ofList (rest.filterMap entryOf?) } := by
  cases description with
  | none =>
    cases h
    rfl
  | some text => exact h.ofLines_eq

/-- An enum has a case for each literal, in order. It has the description that the lines after the
shared one give the literal, and no other one. -/
theorem cases_nestedEnum {description : Option String}
    (h : Opening (descriptionLines description) shared rest) (owner : EnumOwner)
    (literals : List String) :
    (nestedEnum TypeRef.text owner description literals).description =
        shared.getD missingDescription ∧
      List.Forall₂ (fun literal made => made.name = literal ∧
          ∀ text, Describes rest literal text ↔ text = made.description)
        literals (nestedEnum TypeRef.text owner description literals).cases := by
  unfold nestedEnum
  rw [ofText_of_opening h]
  refine ⟨rfl, ?_⟩
  rw [List.forall₂_map_right_iff, List.forall₂_same]
  intro literal _
  refine ⟨rfl, fun text => ?_⟩
  rw [describes_iff, eq_comm]

/-! ## Properties of records -/

/-- The record of an object schema whose document expands. -/
theorem mem_spelledModels_of_kind {v : Vocabulary} {strict : Bool} {components : Components}
    {spelled : List (Model String)} {name : String} {schema : Schema}
    (h : (spelledModels v strict components).result = .ok spelled)
    (hschema : components.lookup name = some schema)
    (hkind : (schema.combined components).kind = some .object) :
    .object ((objectModel name (schema.combined components)).mapType v.spell) ∈ spelled := by
  obtain ⟨models, hmodels, rfl⟩ := spelledModels_eq_ok_iff.mp h
  obtain ⟨hexpand, -, rfl⟩ := expandModels_eq_ok_iff.mp hmodels
  have hentry : (name, schema) ∈ components.schemas.entries := (Dict.get?_eq_some_iff ..).mp hschema
  obtain ⟨model?, hmodel⟩ := hexpand _ hentry
  obtain ⟨effective, heffective, -⟩ := expandSchema_eq_ok hmodel
  obtain rfl := effectiveSchema_eq_combined heffective
  have hmem : .object (objectModel name (schema.combined components)) ∈ schemaModels components :=
    mem_schemaModels_iff.mpr
      ⟨_, hentry, _, heffective, schemaModel?_eq_some_iff.mpr (.inl ⟨hkind, rfl⟩)⟩
  exact List.mem_map_of_mem (f := Model.spell v) hmem

/-- A record has the enum of each property that lists literals, and the property is described as its
enum is. -/
theorem mem_nestedEnums_objectModel {v : Vocabulary} {effective : Schema} {node : Descriptor}
    {literals : List String} {owner : EnumOwner}
    (hproperty : effective.properties.get? owner.property = some node)
    (hliterals : enumLiterals? node = some literals) :
    (nestedEnum TypeRef.text owner node.description literals).mapType v.spell ∈
        ((objectModel owner.schema effective).mapType v.spell).nestedEnums ∧
      ∃ p ∈ ((objectModel owner.schema effective).mapType v.spell).properties,
        p.name = owner.property ∧ p.type = owner.enumName ∧
          p.description =
            (nestedEnum TypeRef.text owner node.description literals).description := by
  constructor
  · apply List.mem_map_of_mem
    rw [nestedEnums_objectModel, List.mem_filterMap]
    refine ⟨(owner.property, node), (Dict.get?_eq_some_iff ..).mp hproperty, ?_⟩
    rw [hliterals]
    rfl
  · have hx := expandType_of_enumLiterals owner hliterals
    refine ⟨{ name := owner.property, type := owner.enumName
              isOptional := !effective.required.contains owner.property
              description := node.propertyDescription }, ?_, rfl, rfl, ?_⟩
    · rw [mem_properties_objectModel_iff]
      exact ⟨node, _, hproperty, hx, rfl, rfl, by simp⟩
    · simp only [Descriptor.propertyDescription, hliterals]
      rfl

/-- **Documented enums.** A property that is a string with literals, and not binary, has an enum of
its own. The first line of its description is shared if it ends in a bar. The enum has one case for
each literal in order, and the description of a case is the text of the last of the other lines that
documents the literal; a line that does not is as good as absent. In an expanded document the record
of the schema has this enum, and the property with the description of the enum. -/
theorem expandType_documented {node : Descriptor} {literals : List String}
    (htype : node.type = some .string) (hformat : node.format ≠ some "binary")
    (hliterals : node.literals = some literals) (owner : EnumOwner) :
    ∃ shared rest nested, Opening (descriptionLines node.description) shared rest ∧
      expandType node (some owner) = .ok { type := .enum nested.name, nestedEnum := some nested } ∧
      (∀ v, spelledExpansion v node (some owner) =
        .ok { type := .enum nested.name, nestedEnum := some (nested.mapType v.spell) }) ∧
      nested.name = nestedEnumName owner.schema owner.property ∧
      nested.description = shared.getD missingDescription ∧
      List.Forall₂ (fun literal made => made.name = literal ∧
          ∀ text, Describes rest literal text ↔ text = made.description) literals nested.cases ∧
      (∀ front line back literal, rest = front ++ line :: back →
        (∀ text, ¬ Documents line literal text) →
          ∀ text, Describes rest literal text ↔ Describes (front ++ back) literal text) ∧
      ∀ v strict components spelled schema,
        (spelledModels v strict components).result = .ok spelled →
          components.lookup owner.schema = some schema →
          (schema.combined components).kind = some .object →
          (schema.combined components).properties.get? owner.property = some node →
          ∃ record, .object record ∈ spelled ∧ record.name = owner.schema ∧
            nested.mapType v.spell ∈ record.nestedEnums ∧
            ∃ p ∈ record.properties, p.name = owner.property ∧ p.type = nested.name ∧
              p.description = nested.description := by
  obtain ⟨shared, rest, hopening⟩ := exists_opening (descriptionLines node.description)
  have henum : enumLiterals? node = some literals := by
    rw [enumLiterals?, if_pos ⟨htype, hformat⟩, hliterals]
  obtain ⟨hdescription, hcases⟩ := cases_nestedEnum hopening owner literals
  refine ⟨shared, rest, nestedEnum TypeRef.text owner node.description literals, hopening,
    expandType_of_enumLiterals owner henum, fun v => ?_, rfl, hdescription, hcases, ?_, ?_⟩
  · rw [spelledExpansion_eq, expandType_of_enumLiterals owner henum]
    rfl
  · rintro front line back literal rfl hline text
    exact describes_append_cons_iff hline
  · intro v strict components spelled schema hspelled hschema hkind hproperty
    obtain ⟨hnested, hrecord⟩ := mem_nestedEnums_objectModel (v := v) hproperty henum
    exact ⟨_, mem_spelledModels_of_kind hspelled hschema hkind, rfl, hnested, hrecord⟩

/-- A property with a shared description, two lines about one of its literals, and lines that are
about no literal of it. -/
def statusDescriptor : Descriptor where
  type := some .string
  description := some
    "Order status|\n- xxplaced - Waiting\n- xxplaced - a - b\n- xxlost - Gone\n`*placed - Paid"
  literals := some ["placed", "sent", "placed"]

/-- A document with that property. -/
def orderComponents : Components where
  schemas := Dict.ofList [("order", { kind := some .object,
                                      properties := Dict.ofList [("status", statusDescriptor)] })]

/-- The enum of that property. -/
def statusEnum : EnumModel TypeRef where
  name := "OrderStatus"
  description := "Order status"
  rawType := .text
  cases := [{ name := "placed", description := "Paid" },
    { name := "sent", description := missingDescription },
    { name := "placed", description := "Paid" }]

theorem expandType_documented_status :
    statusDescriptor.type = some .string ∧ statusDescriptor.format ≠ some "binary" ∧
      statusDescriptor.literals = some ["placed", "sent", "placed"] ∧
      expandType statusDescriptor (some { schema := "order", property := "status" }) =
        .ok { type := .enum "OrderStatus", nestedEnum := some statusEnum } ∧
      ∃ spelled record, (spelledModels {} false orderComponents).result = .ok spelled ∧
        .object record ∈ spelled ∧ record.name = "order" ∧
        ∃ p ∈ record.properties, p.name = "status" ∧ p.type = "OrderStatus" ∧
          p.description = "Order status" := by
  have hformat : statusDescriptor.format ≠ some "binary" := by decide
  have hx : expandType statusDescriptor (some { schema := "order", property := "status" }) =
      .ok { type := .enum "OrderStatus", nestedEnum := some statusEnum } := by decide +kernel
  have hok : (spelledModels {} false orderComponents).result.toOption.isSome := by decide +kernel
  obtain ⟨spelled, hspelled⟩ := Except.exists_eq_ok_of_isSome hok
  obtain ⟨shared, rest, nested, -, hnested, -, -, -, -, -, hrecord⟩ :=
    expandType_documented rfl hformat rfl { schema := "order", property := "status" }
  obtain rfl : nested = statusEnum := by
    have hboth := Except.ok.inj (hnested.symm.trans hx)
    exact Option.some.inj (congrArg Expansion.nestedEnum hboth)
  obtain ⟨record, hmem, hname, -, p, hp, hproperty⟩ := hrecord {} false orderComponents spelled _
    hspelled rfl (by decide +kernel) (by decide +kernel)
  exact ⟨rfl, hformat, rfl, hx, spelled, record, hspelled, hmem, hname, p, hp, hproperty⟩

end ApiStencil

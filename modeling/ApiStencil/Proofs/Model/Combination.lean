import ApiStencil.Proofs.Model.Composition

/-!
# Combinations of combinations

Schemas can be combined all at once, or in groups whose combinations are then combined. A property
keeps the place where it is declared first and has the definition that comes last, and grouping
changes neither; the required names are strung together either way.

## Main definitions

* `Schema.IsCombination`: what a combination of schemas has of them, and what it has not

## Main results

* `Schema.isCombination_iff`: a schema has all that exactly if it is the combination
* `combine_flatten`: schemas can be combined group by group
* `combine_append`: the combination of two lists of schemas
-/

namespace ApiStencil

variable {schemas : List Schema} {combined : Schema}

/-! ## What a combination has -/

/-- A record of the properties of some schemas. Their names come in the order of their first
declarations, and the last declaration of a name defines it. The required names are those of the
schemas one after the other. Nothing else of the schemas is carried over. -/
structure Schema.IsCombination (schemas : List Schema) (combined : Schema) : Prop where
  kind : combined.kind = some .object
  reference : combined.reference = none
  allOf : combined.allOf = none
  literals : combined.literals = none
  description : combined.description = none
  required : combined.required = schemas.flatMap (·.required)
  names : combined.properties.keys = (schemas.flatMap (·.properties.keys)).eraseDups
  definitions : ∀ p node, combined.properties.get? p = some node ↔ LastDefines schemas p node

theorem keys_properties_combine (schemas : List Schema) :
    (combine schemas).properties.keys = (schemas.flatMap (·.properties.keys)).eraseDups := by
  have hkeys : (schemas.flatMap (·.properties.entries)).map Prod.fst =
      schemas.flatMap (·.properties.keys) := List.map_flatMap
  rw [combine, Dict.keys_ofList, hkeys]

theorem Schema.isCombination_combine (schemas : List Schema) :
    Schema.IsCombination schemas (combine schemas) where
  kind := rfl
  reference := rfl
  allOf := rfl
  literals := rfl
  description := rfl
  required := rfl
  names := keys_properties_combine schemas
  definitions _ _ := get?_properties_combine

/-- No two schemas have all that. -/
theorem Schema.IsCombination.unique {other : Schema} (h : Schema.IsCombination schemas combined)
    (hother : Schema.IsCombination schemas other) : combined = other := by
  have hproperties : combined.properties = other.properties := by
    apply Dict.eq_of_get?
    · rw [h.names, hother.names]
    · intro p
      apply Option.ext
      intro node
      exact (h.definitions p node).trans (hother.definitions p node).symm
  cases combined
  cases other
  rw [Schema.mk.injEq]
  exact ⟨h.kind.trans hother.kind.symm, h.reference.trans hother.reference.symm,
    h.allOf.trans hother.allOf.symm, h.literals.trans hother.literals.symm,
    h.description.trans hother.description.symm, h.required.trans hother.required.symm,
    hproperties⟩

/-- A schema has all that exactly if it is the combination. -/
theorem Schema.isCombination_iff :
    Schema.IsCombination schemas combined ↔ combined = combine schemas := by
  constructor
  · intro h
    exact h.unique (Schema.isCombination_combine schemas)
  · rintro rfl
    exact Schema.isCombination_combine schemas

/-! ## Groups of schemas -/

/-- The properties of a combination can take the place of those of its schemas, whatever has been
written before. -/
theorem insertAll_properties_map_combine (d : Dict String Descriptor)
    (groups : List (List Schema)) :
    d.insertAll ((groups.map combine).flatMap (·.properties.entries)) =
      d.insertAll (groups.flatten.flatMap (·.properties.entries)) := by
  induction groups generalizing d with
  | nil => rfl
  | cons group groups ih =>
    have hgroup : d.insertAll (combine group).properties.entries =
        d.insertAll (group.flatMap (·.properties.entries)) :=
      Dict.insertAll_entries_ofList d _
    rw [List.map_cons, List.flatMap_cons, List.flatten_cons, List.flatMap_append,
      Dict.insertAll_append, Dict.insertAll_append, hgroup, ih]

theorem required_map_combine (groups : List (List Schema)) :
    (groups.map combine).flatMap (·.required) = groups.flatten.flatMap (·.required) := by
  induction groups with
  | nil => rfl
  | cons group groups ih =>
    rw [List.map_cons, List.flatMap_cons, List.flatten_cons, List.flatMap_append, ih]
    rfl

/-- Schemas can be combined group by group. -/
theorem combine_flatten (groups : List (List Schema)) :
    combine groups.flatten = combine (groups.map combine) := by
  have hproperties := insertAll_properties_map_combine Dict.empty groups
  have hrequired := required_map_combine groups
  rw [combine, combine, hrequired, Dict.ofList, Dict.ofList, hproperties]

/-- **Combination takes lists of schemas apart.** The combination of two lists in a row is that of
their two combinations, with all properties in their order and all required names with their
repetitions. A combination is the record whose required names are those of the schemas one after the
other, whose properties come in the order of their first declarations with the definitions of the
last ones, and which takes over no reference, no members, no literals and no description. -/
theorem combine_append (xs ys : List Schema) :
    combine (xs ++ ys) = combine [combine xs, combine ys] ∧
      ∀ schemas combined, Schema.IsCombination schemas combined ↔ combined = combine schemas := by
  constructor
  · have hgroups := combine_flatten [xs, ys]
    rwa [List.flatten_cons, List.flatten_singleton] at hgroups
  · intro schemas combined
    exact Schema.isCombination_iff

end ApiStencil

import ApiStencil.Fault
import ApiStencil.Reference

/-!
# Combined schemas

A schema that refers to others, by a reference or by the members of an `allOf`, gives the model of
their combination: all their properties, where the last definition of a name counts, and all their
required names.

## Main definitions

* `combine` - the combination of some schemas.
* `effectiveSchema` - the schema that a model is generated from.
-/

namespace ApiStencil

/-- The combination of some schemas: a record of all their properties. A later definition of a
property replaces an earlier one and keeps its place; the required names are strung together. -/
def combine (schemas : List Schema) : Schema where
  kind := some .object
  required := schemas.flatMap (·.required)
  properties := Dict.ofList (schemas.flatMap (·.properties.entries))

/-- The schema that a reference in the schema `name` names. -/
def resolveReference (components : Components) (name reference : String) :
    Except Fault Schema :=
  let target := refName reference
  match components.lookup target with
  | some schema => .ok schema
  | none => .error (.danglingReference name target)

/-- The schema that a member of an `allOf` names. A member is a plain reference. -/
def resolveMember (components : Components) (name : String) (member : Descriptor) :
    Except Fault Schema :=
  match member.reference, member.type with
  | some reference, none => resolveReference components name reference
  | _, _ => .error (.unsupportedAllOf name)

/-- The schema that the model of `name` is generated from: what a reference or the members of an
`allOf` combine to, under the schema's own description, or else the schema itself. -/
def effectiveSchema (components : Components) (name : String) (schema : Schema) :
    Except Fault Schema :=
  match schema.reference, schema.allOf with
  | some reference, _ => do
    let target ← resolveReference components name reference
    return { combine [target] with description := schema.description }
  | none, some members => do
    let targets ← members.mapM (resolveMember components name)
    return { combine targets with description := schema.description }
  | none, none => .ok schema

end ApiStencil

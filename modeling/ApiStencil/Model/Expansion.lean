import ApiStencil.Model.Combine
import ApiStencil.Trace
import ApiStencil.Typing.Expansion

/-!
# Models of named schemas

Every named schema whose effective schema is an object or a string gives a model. A property that
cannot be typed is dropped with a warning, or stops a strict run. Types are written in the words of
a vocabulary as soon as they are known.

## Main definitions

* `spelledProperty`, `spelledObject`, `expandEnum`, `spelledSchema` - the model of one schema.
* `checkEnumNames` - no generated enum shares its name with another generated type.
* `spelledModels` - the models of all schemas, in document order.
-/

namespace ApiStencil

variable {τ : Type}

namespace Log

/-- The log target of the model expansion. -/
def models : String := "tamplier_core::oas::schemas"

/-- A property that is left out of its model. -/
def droppedProperty (owner : EnumOwner) (cause : TypeFault) : Event where
  level := .warn
  target := models
  message := "dropping property: " ++ cause.summary
  fields := [("schema", owner.schema), ("property", owner.property)]

/-- A property that has been typed. -/
def expandedProperty (owner : EnumOwner) (type : TypeRef) : Event where
  level := .trace
  target := models
  message := "expanded property"
  fields := [("schema", owner.schema), ("property", owner.property), ("ty", type.describe)]

/-- A model that has been built. -/
def expandedModel : Model τ → Event
  | .object model =>
    { level := .debug, target := models, message := "expanded object model"
      fields := [("schema", model.name), ("properties", toString model.properties.length),
        ("enums", toString model.nestedEnums.length)] }
  | .enum model =>
    { level := .debug, target := models, message := "expanded enum model"
      fields := [("schema", model.name), ("cases", toString model.cases.length)] }

/-- A schema that gives no model. -/
def skippedSchema (name : String) : Option SchemaKind → Event
  | some kind =>
    { level := .debug, target := models, message := "skipping schema without a model kind"
      fields := [("schema", name), ("kind", kind.word)] }
  | none =>
    { level := .debug, target := models, message := "skipping schema without a type"
      fields := [("schema", name)] }

end Log

/-- What a property says about itself. A generated enum lends it its description. -/
def Descriptor.describe (node : Descriptor) : Option (EnumModel τ) → String
  | some nested => nested.description
  | none => node.description.getD missingDescription

/-- A property in the words of a vocabulary, with the enum generated for it. What cannot be typed is
dropped with a warning. A strict run stops instead. -/
def spelledProperty (v : Vocabulary) (strict : Bool) (schema : String) (required : List String)
    (property : String × Descriptor) :
    Traced (Option (ModelProperty String × Option (EnumModel String))) :=
  let owner : EnumOwner := { schema, property := property.1 }
  match spelledExpansion v property.2 (some owner) with
  | .ok expansion => do
    Traced.report (Log.expandedProperty owner expansion.type)
    let made : ModelProperty String := {
      name := property.1
      type := v.spell expansion.type
      isOptional := !required.contains property.1
      description := property.2.describe expansion.nestedEnum }
    return some (made, expansion.nestedEnum)
  | .error cause =>
    if strict then Traced.fail (.unresolvedPropertyType schema property.1 cause)
    else do
      Traced.report (Log.droppedProperty owner cause)
      return none

/-- The description of a schema, or what stands for it. -/
def Schema.describe (schema : Schema) : String :=
  schema.description.getD missingDescription

/-- The record of an effective schema. -/
def spelledObject (v : Vocabulary) (strict : Bool) (name : String) (schema : Schema) :
    Traced (ObjectModel String) := do
  let made ← schema.properties.entries.mapM (spelledProperty v strict name schema.required)
  let kept := made.reduceOption
  return {
    name
    description := schema.describe
    properties := sortProperties (kept.map (·.1))
    nestedEnums := kept.filterMap (·.2) }

/-- The enum of an effective schema, which must list literals. -/
def expandEnum (rawType : τ) (name : String) (schema : Schema) : Except Fault (EnumModel τ) :=
  match schema.literals.getD [] with
  | [] => .error (.missingEnumValues name)
  | literals => .ok {
      name
      description := schema.describe
      rawType
      cases := literals.map fun literal =>
        { name := literal, description := missingDescription } }

/-- The model of a named schema, if it gives one. -/
def spelledSchema (v : Vocabulary) (strict : Bool) (components : Components)
    (named : String × Schema) : Traced (Option (Model String)) := do
  let effective ← Traced.ofExcept (effectiveSchema components named.1 named.2)
  match effective.kind with
  | some .object => do
    let model ← spelledObject v strict named.1 effective
    Traced.report (Log.expandedModel (.object model))
    return some (.object model)
  | some .string => do
    let model ← Traced.ofExcept (expandEnum v.text named.1 effective)
    Traced.report (Log.expandedModel (.enum model))
    return some (.enum model)
  | kind => do
    Traced.report (Log.skippedSchema named.1 kind)
    return none

/-- The names of the generated enums of properties, each with the schema that owns it. -/
def nestedEnumNames (models : List (Model τ)) : List (String × String) :=
  models.flatMap fun model => model.nestedEnums.map fun nested => (model.name, nested.name)

/-- Checks that no enum of the list has the name of an origin or of an earlier enum. -/
def checkNamesFrom (origins : Dict String NameOrigin) :
    List (String × String) → Except Fault Unit
  | [] => .ok ()
  | (schema, name) :: rest =>
    match origins.get? name with
    | some first => .error (.duplicateEnumName name first (.propertyOf schema))
    | none => checkNamesFrom (origins.insert name (.propertyOf schema)) rest

/-- Checks that no generated enum of a property shares its name with a model or with another such
enum. -/
def checkEnumNames (models : List (Model τ)) : Except Fault Unit :=
  checkNamesFrom (Dict.ofList (models.map fun model => (model.name, .schemaNamed model.name)))
    (nestedEnumNames models)

/-- The models of all named schemas, in document order. -/
def spelledModels (v : Vocabulary) (strict : Bool) (components : Components) :
    Traced (List (Model String)) := do
  let models ← components.schemas.entries.mapM (spelledSchema v strict components)
  -- Names are compared only once every schema has given its model.
  let models := models.reduceOption
  Traced.ofExcept (checkEnumNames models)
  return models

end ApiStencil

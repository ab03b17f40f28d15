/-!
# Models

What is generated from a named schema: a record with its properties and their enums, or an enum. The
types in a model are of a kind `τ`. A run writes them in the words of a vocabulary, as texts; before
they are spelled they are of the kind `TypeRef`.

## Main definitions

* `EnumModel`, `ModelProperty`, `ObjectModel`, `Model` - the models.
* `ObjectModel.init` - the parameter list of an initializer.
* `Model.mapType` - a model with other types.
-/

namespace ApiStencil

/-- What stands where the document has no description. -/
def missingDescription : String := "Description not provided"

/-- One case of an enum. -/
structure EnumCase where
  /-- The literal. -/
  name : String
  description : String
  deriving DecidableEq, Repr

/-- A closed set of literals. -/
structure EnumModel (τ : Type) where
  name : String
  description : String
  /-- The type of the literals. -/
  rawType : τ
  /-- The cases in the order of the document. -/
  cases : List EnumCase
  deriving DecidableEq, Repr

/-- A property of a record. -/
structure ModelProperty (τ : Type) where
  name : String
  type : τ
  /-- Whether a value may lack the property. -/
  isOptional : Bool
  description : String
  deriving DecidableEq, Repr

/-- A record. -/
structure ObjectModel (τ : Type) where
  name : String
  description : String
  /-- The properties, ascending by name. -/
  properties : List (ModelProperty τ)
  /-- The enums generated for properties, in the order of the document. -/
  nestedEnums : List (EnumModel τ)
  deriving DecidableEq, Repr

/-- What is generated from a named schema. -/
inductive Model (τ : Type) where
  | object (model : ObjectModel τ)
  | enum (model : EnumModel τ)
  deriving DecidableEq, Repr

variable {σ τ : Type}

/-- The name of the generated type. -/
def Model.name : Model τ → String
  | object model => model.name
  | enum model => model.name

/-- The enums that a model brings along. -/
def Model.nestedEnums : Model τ → List (EnumModel τ)
  | object model => model.nestedEnums
  | enum _ => []

/-- Names with their types, as the parameters of a signature. -/
def joinInit (pairs : List (String × String)) : String :=
  ", ".intercalate (pairs.map fun (name, type) => name ++ ": " ++ type)

/-- The parameter list of an initializer. -/
def ObjectModel.init (model : ObjectModel String) : String :=
  joinInit (model.properties.map fun p => (p.name, p.type))

theorem ObjectModel.init_eq (model : ObjectModel String) :
    model.init = ", ".intercalate (model.properties.map fun p => p.name ++ ": " ++ p.type) := by
  rw [init, joinInit, List.map_map]
  rfl

/-- Changes the types of an enum. -/
def EnumModel.mapType (f : σ → τ) (model : EnumModel σ) : EnumModel τ :=
  { model with rawType := f model.rawType }

/-- Changes the type of a property. -/
def ModelProperty.mapType (f : σ → τ) (p : ModelProperty σ) : ModelProperty τ :=
  { p with type := f p.type }

/-- Changes the types of a record. -/
def ObjectModel.mapType (f : σ → τ) (model : ObjectModel σ) : ObjectModel τ :=
  { model with
    properties := model.properties.map (·.mapType f)
    nestedEnums := model.nestedEnums.map (·.mapType f) }

/-- Changes the types of a model. -/
def Model.mapType (f : σ → τ) : Model σ → Model τ
  | object model => object (model.mapType f)
  | enum model => enum (model.mapType f)

/-- Sorts properties ascending by name, keeping the order of equal names. -/
def sortProperties (properties : List (ModelProperty τ)) : List (ModelProperty τ) :=
  properties.mergeSort fun a b => a.name ≤ b.name

end ApiStencil

import ApiStencil.Dict

/-!
# API descriptions

The part of an OpenAPI document that code is generated from: its metadata, its servers, its named
schemas and the operations on its paths. Collections keep the order of the document.

## Main definitions

* `Descriptor` - how a property, parameter, body or response is typed.
* `Schema` - a named definition.
* `PathItem`, `Operation`, `Parameter`, `Response` - the operations on a path.
* `Document` - a whole description.
-/

namespace ApiStencil

/-- The `type` word of a descriptor. -/
inductive ScalarType where
  | string
  | integer
  | boolean
  | number
  | array
  | object
  /-- Any other word. -/
  | other (word : String)
  deriving DecidableEq, Repr

namespace ScalarType

/-- The type that a word names. -/
def ofWord (word : String) : ScalarType :=
  if word = "string" then string
  else if word = "integer" then integer
  else if word = "boolean" then boolean
  else if word = "number" then number
  else if word = "array" then array
  else if word = "object" then object
  else other word

/-- The word that names a type. -/
def word : ScalarType → String
  | string => "string"
  | integer => "integer"
  | boolean => "boolean"
  | number => "number"
  | array => "array"
  | object => "object"
  | other word => word

end ScalarType

/-- How the items of an array are typed. -/
structure ItemDescriptor where
  type : Option ScalarType := none
  format : Option String := none
  reference : Option String := none
  deriving DecidableEq, Repr, Inhabited

/-- How a property, parameter, body or response is typed. -/
structure Descriptor where
  type : Option ScalarType := none
  format : Option String := none
  reference : Option String := none
  description : Option String := none
  items : Option ItemDescriptor := none
  /-- The literals of an `enum`. -/
  literals : Option (List String) := none
  deriving DecidableEq, Repr, Inhabited

/-- The `type` word of a schema. -/
inductive SchemaKind where
  | object
  | string
  /-- Any other word; such a schema gives no model. -/
  | other (word : String)
  deriving DecidableEq, Repr

namespace SchemaKind

/-- The kind that a word names. -/
def ofWord (word : String) : SchemaKind :=
  if word = "object" then object else if word = "string" then string else other word

/-- The word that names a kind. -/
def word : SchemaKind → String
  | object => "object"
  | string => "string"
  | other word => word

end SchemaKind

/-- A named definition. -/
structure Schema where
  kind : Option SchemaKind := none
  reference : Option String := none
  /-- The members of an `allOf`. -/
  allOf : Option (List Descriptor) := none
  /-- The literals of an `enum`. -/
  literals : Option (List String) := none
  description : Option String := none
  /-- The names of the properties that must be present. -/
  required : List String := []
  properties : Dict String Descriptor := Dict.empty
  deriving DecidableEq, Inhabited

/-- The named definitions of a document. -/
structure Components where
  schemas : Dict String Schema := Dict.empty
  deriving DecidableEq, Inhabited

/-- The metadata of a document. -/
structure Info where
  title : String := ""
  description : Option String := none
  version : String := ""
  deriving DecidableEq, Repr, Inhabited

/-- A server of the API. -/
structure Server where
  name : Option String := none
  url : String := ""
  description : Option String := none
  deriving DecidableEq, Repr, Inhabited

/-- A declared parameter. -/
structure Parameter where
  name : String := ""
  /-- Where the parameter travels, as written. -/
  location : String := ""
  required : Bool := false
  description : Option String := none
  schema : Descriptor := {}
  deriving DecidableEq, Repr, Inhabited

/-- The payloads of a body or response by media type. -/
abbrev Content := Dict String Descriptor

/-- A response. -/
structure Response where
  description : Option String := none
  content : Option Content := none
  deriving DecidableEq, Inhabited

/-- A request body. -/
structure RequestBody where
  content : Option Content := none
  deriving DecidableEq, Inhabited

/-- An operation on a path. -/
structure Operation where
  summary : Option String := none
  description : Option String := none
  parameters : List Parameter := []
  requestBody : Option RequestBody := none
  /-- The responses by status code. -/
  responses : Dict String Response := Dict.empty
  deriving DecidableEq, Inhabited

/-- The methods that name an operation. -/
inductive Method where
  | get
  | put
  | post
  | delete
  | options
  | head
  | patch
  | trace
  deriving DecidableEq, Repr, Inhabited

namespace Method

/-- The key of a method in a path item. -/
def name : Method → String
  | get => "get"
  | put => "put"
  | post => "post"
  | delete => "delete"
  | options => "options"
  | head => "head"
  | patch => "patch"
  | trace => "trace"

/-- The name of a method in messages. -/
def upperName : Method → String
  | get => "GET"
  | put => "PUT"
  | post => "POST"
  | delete => "DELETE"
  | options => "OPTIONS"
  | head => "HEAD"
  | patch => "PATCH"
  | trace => "TRACE"

/-- Every method. -/
def all : List Method := [get, put, post, delete, options, head, patch, trace]

/-- The method with a given key. -/
def ofName? (key : String) : Option Method := all.find? (·.name = key)

end Method

/-- The operations on one path. -/
structure PathItem where
  summary : Option String := none
  description : Option String := none
  /-- The parameters that every operation shares. -/
  parameters : List Parameter := []
  operations : Dict Method Operation := Dict.empty
  /-- The keys that are no part of a path item, in order and with repetitions. -/
  unsupportedKeys : List String := []
  deriving DecidableEq, Inhabited

/-- A whole description. -/
structure Document where
  info : Info := {}
  servers : List Server := []
  components : Components := {}
  /-- The path items by raw path. -/
  paths : Dict String PathItem := Dict.empty
  deriving DecidableEq, Inhabited

end ApiStencil

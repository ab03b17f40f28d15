import ApiStencil.Decoding.Reader
import ApiStencil.Document.Basic

/-!
# Shapes of API descriptions

How the types of a description are read from the nodes of a text. A record takes its fields from the
entries of a mapping, each at most once, and passes over keys that it does not know; a path item
takes the last of several entries instead and remembers the keys that it does not know.

## Main definitions

* `Document.read` - reads a whole description.
* `Schema.read`, `Components.read`, `Descriptor.read`, `ItemDescriptor.read` - read its parts.
* `readStatusCode` - reads the key of a response.
-/

namespace ApiStencil

variable {σ : Type} [ScalarForm σ]

/-- Reads a `type` word. -/
def ScalarType.read : Reader σ ScalarType := fun site node =>
  ScalarType.ofWord <$> readText site node

/-- Reads the `type` word of a schema. -/
def SchemaKind.read : Reader σ SchemaKind := fun site node =>
  SchemaKind.ofWord <$> readText site node

/-- Reads how the items of an array are typed. -/
def ItemDescriptor.read : Reader σ ItemDescriptor :=
  readRecord "ItemsNode" [
    .optional "type" (readOptional ScalarType.read) fun items type => { items with type },
    .optional "format" (readOptional readText) fun items format => { items with format },
    .optional "$ref" (readOptional readText) fun items reference => { items with reference }] {}

/-- Reads how a property, parameter, body or response is typed. -/
def Descriptor.read : Reader σ Descriptor :=
  readRecord "PropertyNode" [
    .optional "type" (readOptional ScalarType.read) fun node type => { node with type },
    .optional "format" (readOptional readText) fun node format => { node with format },
    .optional "$ref" (readOptional readText) fun node reference => { node with reference },
    .optional "description" (readOptional readText) fun node description =>
      { node with description },
    .optional "items" (readOptional ItemDescriptor.read) fun node items => { node with items },
    .optional "enum" (readOptional (readList readText)) fun node literals =>
      { node with literals }] {}

/-- Reads a named definition. -/
def Schema.read : Reader σ Schema :=
  readRecord "SchemaNode" [
    .optional "type" (readOptional SchemaKind.read) fun schema kind => { schema with kind },
    .optional "$ref" (readOptional readText) fun schema reference => { schema with reference },
    .optional "allOf" (readOptional (readList Descriptor.read)) fun schema allOf =>
      { schema with allOf },
    .optional "enum" (readOptional (readList readText)) fun schema literals =>
      { schema with literals },
    .optional "description" (readOptional readText) fun schema description =>
      { schema with description },
    .optional "required" (readList readText) fun schema required => { schema with required },
    .optional "properties" (readDict readText Descriptor.read) fun schema properties =>
      { schema with properties }] {}

/-- Reads the named definitions. -/
def Components.read : Reader σ Components :=
  readRecord "Components" [
    .optional "schemas" (readDict readText Schema.read) fun components schemas =>
      { components with schemas }] {}

/-- Reads the metadata. -/
def Info.read : Reader σ Info :=
  readRecord "Info" [
    .mandatory "title" readText fun info title => { info with title },
    .optional "description" (readOptional readText) fun info description =>
      { info with description },
    .mandatory "version" readText fun info version => { info with version }] {}

/-- Reads a server. -/
def Server.read : Reader σ Server :=
  readRecord "Server" [
    .optional "name" (readOptional readText) fun server name => { server with name },
    .mandatory "url" readText fun server url => { server with url },
    .optional "description" (readOptional readText) fun server description =>
      { server with description }] {}

/-- Reads a declared parameter. -/
def Parameter.read : Reader σ Parameter :=
  readRecord "Parameter" [
    .mandatory "name" readText fun parameter name => { parameter with name },
    .mandatory "in" readText fun parameter location => { parameter with location },
    .optional "required" readFlag fun parameter required => { parameter with required },
    .optional "description" (readOptional readText) fun parameter description =>
      { parameter with description },
    .mandatory "schema" Descriptor.read fun parameter schema => { parameter with schema }] {}

/-- Reads a payload of a media type, which is a record around its descriptor. -/
def readPayload : Reader σ Descriptor :=
  readRecord "MediaType" [.mandatory "schema" Descriptor.read fun _ schema => schema] {}

/-- Reads the payloads by media type. -/
def readContent : Reader σ (Option Content) :=
  readOptional (readDict readText readPayload)

/-- Reads a request body. -/
def RequestBody.read : Reader σ RequestBody :=
  readRecord "RequestBody" [
    .optional "content" readContent fun body content => { body with content }] {}

/-- Reads a response. -/
def Response.read : Reader σ Response :=
  readRecord "Response" [
    .optional "description" (readOptional readText) fun response description =>
      { response with description },
    .optional "content" readContent fun response content => { response with content }] {}

/-- Reads the key of a response: a text as it is, a whole number as its decimal digits. -/
def readStatusCode : Reader σ String := fun site key => do
  let node ← follow site key
  checkFree site.roomForKey site node
  match node with
  | .scalar s =>
    match ScalarForm.free s with
    | .text code => return code
    | .natural code => return toString code
    | .refused _ | .other | .flawed => complain site (.noVariant "StatusKey")
  | _ => complain site (.noVariant "StatusKey")

/-- Reads an operation. -/
def Operation.read : Reader σ Operation :=
  readRecord "Operation" [
    .optional "summary" (readOptional readText) fun operation summary =>
      { operation with summary },
    .optional "description" (readOptional readText) fun operation description =>
      { operation with description },
    .optional "parameters" (readList Parameter.read) fun operation parameters =>
      { operation with parameters },
    .optional "requestBody" (readOptional RequestBody.read) fun operation requestBody =>
      { operation with requestBody },
    .optional "responses" (readDict readStatusCode Response.read) fun operation responses =>
      { operation with responses }] {}

/-- Whether a path item may have a key that means nothing to it: a list of servers or an
extension. -/
def PathItem.tolerates (key : String) : Bool :=
  key = "servers" || "x-".isPrefixOf key

/-- Reads one entry of a path item. -/
def PathItem.absorb (site : Site σ) (item : PathItem) (key value : Node σ) : Reading PathItem := do
  let name ← readText site key
  let inner := site.step (keyStep key)
  match Method.ofName? name with
  | some method =>
    let operation ← Operation.read inner value
    return { item with operations := item.operations.insert method operation }
  | none =>
    if name = "summary" then
      return { item with summary := ← readOptional readText inner value }
    else if name = "description" then
      return { item with description := ← readOptional readText inner value }
    else if name = "parameters" then
      return { item with parameters := ← readList Parameter.read inner value }
    else
      ignoreValue value
      if PathItem.tolerates name then return item
      else return { item with unsupportedKeys := item.unsupportedKeys ++ [name] }

/-- Reads the operations on a path. -/
def PathItem.read : Reader σ PathItem :=
  readMapping "a path item mapping" PathItem.absorb {}

/-- Reads a whole description. -/
def Document.read : Reader σ Document :=
  readRecord "ApiDocument" [
    .mandatory "info" Info.read fun document info => { document with info },
    .optional "servers" (readList Server.read) fun document servers =>
      { document with servers },
    .optional "components" Components.read fun document components =>
      { document with components },
    .optional "paths" (readDict readText PathItem.read) fun document paths =>
      { document with paths }] {}

end ApiStencil

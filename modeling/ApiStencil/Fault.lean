import ApiStencil.Fault.Read

/-!
# Faults

Every way in which a run can fail, as a cause with the names that a reader of the message needs. The
wording of a cause is in one place, `Fault.message`, and its exact form for the last line of a
failed run in another, `Fault.inspect`.

## Main definitions

* `TypeFault` - why a type descriptor has no type.
* `DiskFault` - why an operation on a file or directory fails.
* `WorkspaceFault` - why a command cannot use a file or directory that it was given.
* `Fault` - every way in which a run can fail.
-/

namespace ApiStencil

/-- Why a type descriptor has no type. -/
inductive TypeFault where
  /-- The descriptor of a scalar has no `type`. -/
  | untyped
  /-- The descriptor has neither a `type` nor a reference. -/
  | unresolvable
  /-- A `number` or an `array` lists literals. -/
  | literalsNotAllowed (type : String)
  /-- An array does not describe its items. -/
  | noItems
  /-- The items of an array are arrays. -/
  | nestedArray
  /-- The items of an array have neither a `type` nor a reference. -/
  | bareItems
  /-- The type is `object`. -/
  | inlineObject
  /-- The type is a word outside the table of scalars. -/
  | unknownType (type : String)
  deriving DecidableEq, Repr

namespace TypeFault

/-- The type, or the part of the descriptor, that is at fault. -/
def subject : TypeFault → String
  | untyped | unresolvable => "<none>"
  | literalsNotAllowed type => type
  | noItems | nestedArray => "array"
  | bareItems => "items"
  | inlineObject => "object"
  | unknownType type => type

/-- What is wrong with the subject. -/
def reason : TypeFault → String
  | untyped => "has no `type`"
  | unresolvable | bareItems => "has neither `type` nor `$ref`"
  | literalsNotAllowed _ => "does not support `enum`; enums are only allowed on `string`"
  | noItems => "has no `items`"
  | nestedArray => "nested arrays in `items` are not supported"
  | inlineObject => "inline objects are not supported, use `$ref`"
  | unknownType _ => "is not a known scalar type"

/-- The cause in one phrase, for a fault that wraps it. -/
def summary (fault : TypeFault) : String :=
  "`" ++ fault.subject ++ "` " ++ fault.reason

end TypeFault

/-- Why an operation on a file or directory fails. -/
inductive DiskFault where
  | notFound
  | alreadyExists
  | notADirectory
  | isADirectory
  | directoryNotEmpty
  | invalidArgument
  | nameTooLong
  /-- The path holds a NUL character. -/
  | nulInPath
  /-- The contents of a file are no text. -/
  | notText
  /-- Any other failure that the system reports. -/
  | other (code : Nat) (kind description : String)
  deriving DecidableEq, Repr

namespace DiskFault

/-- The system's code, kind and wording of a fault, or its kind and wording alone. -/
def report : DiskFault → Option Nat × String × String
  | notFound => (some 2, "NotFound", "No such file or directory")
  | alreadyExists => (some 17, "AlreadyExists", "File exists")
  | notADirectory => (some 20, "NotADirectory", "Not a directory")
  | isADirectory => (some 21, "IsADirectory", "Is a directory")
  | invalidArgument => (some 22, "InvalidInput", "Invalid argument")
  | nameTooLong => (some 36, "InvalidFilename", "File name too long")
  | directoryNotEmpty => (some 39, "DirectoryNotEmpty", "Directory not empty")
  | nulInPath => (none, "InvalidInput", "file name contained an unexpected NUL byte")
  | notText => (none, "InvalidData", "stream did not contain valid UTF-8")
  | other code kind description => (some code, kind, description)

/-- The wording of a fault, with the system's code where there is one. -/
def message (fault : DiskFault) : String :=
  match fault.report with
  | (some code, _, wording) => wording ++ " (os error " ++ toString code ++ ")"
  | (none, _, wording) => wording

/-- The exact form of a fault. -/
def inspect (fault : DiskFault) : String :=
  match fault.report with
  | (some code, kind, wording) =>
    "Os \x7b code: " ++ toString code ++ ", kind: " ++ kind ++ ", message: " ++
      Text.quoted wording ++ " \x7d"
  | (none, kind, wording) =>
    "Error \x7b kind: " ++ kind ++ ", message: " ++ Text.quoted wording ++ " \x7d"

end DiskFault

/-- Why a command cannot use a file or directory that it was given. -/
inductive WorkspaceFault where
  | unreadableConfig (path : String) (cause : DiskFault)
  | noDocument
  | documentNotFound (path : String)
  | unreadableDocument (cause : DiskFault)
  | noTemplateDirectory (path : String)
  | outputNotADirectory (path : String)
  | outputNotEmpty (path : String)
  | cannotCreate (path : String) (cause : DiskFault)
  | cannotWrite (path : String) (cause : DiskFault)
  deriving DecidableEq, Repr

/-- The wording of a fault. -/
def WorkspaceFault.message : WorkspaceFault → String
  | unreadableConfig path cause =>
    "Failed to read config " ++ Text.quoted path ++ ": " ++ cause.message
  | noDocument => "No OpenAPI document given: pass --schema or set `schema` in the config"
  | documentNotFound path => "OpenAPI file not found: " ++ Text.quoted path
  | unreadableDocument cause => "Failed to read OpenAPI: " ++ cause.message
  | noTemplateDirectory path => "Template directory not found: " ++ Text.quoted path
  | outputNotADirectory path => "Output path " ++ Text.quoted path ++ " is not a directory"
  | outputNotEmpty path =>
    "Output directory " ++ Text.quoted path ++ " is not empty; pass --force to overwrite it"
  | cannotCreate path cause =>
    "Failed to create " ++ Text.quoted path ++ ": " ++ cause.message
  | cannotWrite path cause => "Failed to write " ++ Text.quoted path ++ ": " ++ cause.message

/-- Where a generated enum name comes from. -/
inductive NameOrigin where
  /-- A schema of that name. -/
  | schemaNamed (name : String)
  /-- A property of a schema. -/
  | propertyOf (schema : String)
  deriving DecidableEq, Repr

/-- The wording of an origin. -/
def NameOrigin.describe : NameOrigin → String
  | schemaNamed name => "schema `" ++ name ++ "`"
  | propertyOf schema => "a property of schema `" ++ schema ++ "`"

/-- Every way in which a run can fail. -/
inductive Fault where
  | io (cause : DiskFault)
  | yaml (cause : ReadFault)
  | json (cause : ReadFault)
  | unsupportedType (cause : TypeFault)
  /-- A member of `allOf` is no plain reference. -/
  | unsupportedAllOf (schema : String)
  /-- A `string` schema lists no literals. -/
  | missingEnumValues (schema : String)
  /-- A reference names no schema. -/
  | danglingReference (schema target : String)
  /-- A property has no type, and no property may be dropped. -/
  | unresolvedPropertyType (schema property : String) (cause : TypeFault)
  | duplicateEnumName (name : String) (first second : NameOrigin)
  | duplicateGroupName (name first second : String)
  | unsupportedParameterType (parameter method path : String) (cause : TypeFault)
  | unsupportedPathItemKey (key path : String)
  | unsupportedParameterLocation (parameter location method path : String)
  | multipleContentTypes (method path : String)
  | unsupportedBodyType (method path : String) (cause : TypeFault)
  | unsupportedResponseContentType (contentType method path : String)
  | unsupportedResponseType (method path : String) (cause : TypeFault)
  /-- A template cannot be loaded or rendered. -/
  | template (name : String)
  | workspace (cause : WorkspaceFault)
  deriving DecidableEq, Repr

namespace Fault

/-- The name of the kind of fault. -/
def label : Fault → String
  | io _ => "Io"
  | yaml _ => "Yaml"
  | json _ => "Json"
  | unsupportedType _ => "UnsupportedType"
  | unsupportedAllOf _ => "UnsupportedAllOf"
  | missingEnumValues _ => "MissingEnumValues"
  | danglingReference _ _ => "DanglingReference"
  | unresolvedPropertyType _ _ _ => "UnresolvedPropertyType"
  | duplicateEnumName _ _ _ => "DuplicateEnumName"
  | duplicateGroupName _ _ _ => "DuplicateGroupName"
  | unsupportedParameterType _ _ _ _ => "UnsupportedParameterType"
  | unsupportedPathItemKey _ _ => "UnsupportedPathItemKey"
  | unsupportedParameterLocation _ _ _ _ => "UnsupportedParameterLocation"
  | multipleContentTypes _ _ => "MultipleContentTypes"
  | unsupportedBodyType _ _ _ => "UnsupportedBodyType"
  | unsupportedResponseContentType _ _ _ => "UnsupportedResponseContentType"
  | unsupportedResponseType _ _ _ => "UnsupportedResponseType"
  | template _ => "Template"
  | workspace _ => "General"

/-- The wording of a fault. A malformed text and a failed template have none of their own. -/
def message? : Fault → Option String
  | io cause => some ("IO Error: " ++ cause.message)
  | yaml cause => cause.describe?.map ("YAML Error: " ++ ·)
  | json cause => cause.describe?.map ("JSON Error: " ++ ·)
  | unsupportedType cause =>
    some ("Unsupported type `" ++ cause.subject ++ "`: " ++ cause.reason)
  | unsupportedAllOf schema =>
    some ("Schema `" ++ schema ++ "`: only `$ref` elements are supported inside `allOf`")
  | missingEnumValues schema =>
    some ("Schema `" ++ schema ++
      "` has type `string` but does not declare any `enum` values")
  | danglingReference schema target =>
    some ("Schema `" ++ schema ++ "` references `" ++ target ++
      "`, which is not defined in components/schemas")
  | unresolvedPropertyType schema property cause =>
    some ("Property `" ++ property ++ "` of schema `" ++ schema ++
      "` has no supported type: " ++ cause.summary)
  | duplicateEnumName name first second =>
    some ("Enum name `" ++ name ++ "` is generated by both `" ++ first.describe ++ "` and `" ++
      second.describe ++ "`")
  | duplicateGroupName name first second =>
    some ("Paths `" ++ first ++ "` and `" ++ second ++ "` both map to endpoint group `" ++ name ++
      "`")
  | unsupportedParameterType parameter method path cause =>
    some ("Unsupported type of parameter `" ++ parameter ++ "` for " ++ method ++ " in " ++ path ++
      ": " ++ cause.summary)
  | unsupportedPathItemKey key path =>
    some ("Unsupported key `" ++ key ++ "` in path item " ++ path)
  | unsupportedParameterLocation parameter location method path =>
    some ("Unsupported location `" ++ location ++ "` of parameter `" ++ parameter ++ "` for " ++
      method ++ " in " ++ path)
  | multipleContentTypes method path =>
    some ("Multiple content types in request body are not supported for " ++ method ++ " in " ++
      path)
  | unsupportedBodyType method path cause =>
    some ("Unsupported type of body parameter for " ++ method ++ " in " ++ path ++ ": " ++
      cause.summary)
  | unsupportedResponseContentType contentType method path =>
    some ("Unsupported response content type `" ++ contentType ++ "` for " ++ method ++ " in " ++
      path)
  | unsupportedResponseType method path cause =>
    some ("Unsupported type of response for " ++ method ++ " in " ++ path ++ ": " ++
      cause.summary)
  | template _ => none
  | workspace cause => some ("General Error: " ++ cause.message)

/-- A field of the exact form: its name and its quoted value. -/
def inspectField (field : String × String) : String :=
  field.1 ++ ": " ++ Text.quoted field.2

/-- The exact form of a fault with named fields. -/
def inspectRecord (label : String) (fields : List (String × String)) : String :=
  label ++ " \x7b " ++ ", ".intercalate (fields.map inspectField) ++ " \x7d"

/-- The exact form of a fault: its kind with every field quoted. The kinds whose wording is not
fixed show the kind alone. -/
def inspect (fault : Fault) : String :=
  match fault with
  | io cause => fault.label ++ "(" ++ cause.inspect ++ ")"
  | yaml _ | json _ | template _ => fault.label
  | unsupportedType cause =>
    inspectRecord fault.label [("ty", cause.subject), ("reason", cause.reason)]
  | unsupportedAllOf schema => inspectRecord fault.label [("schema", schema)]
  | missingEnumValues schema => inspectRecord fault.label [("schema", schema)]
  | danglingReference schema target =>
    inspectRecord fault.label [("schema", schema), ("target", target)]
  | unresolvedPropertyType schema property cause =>
    inspectRecord fault.label
      [("schema", schema), ("property", property), ("reason", cause.summary)]
  | duplicateEnumName name first second =>
    inspectRecord fault.label
      [("name", name), ("first", first.describe), ("second", second.describe)]
  | duplicateGroupName name first second =>
    inspectRecord fault.label [("name", name), ("first", first), ("second", second)]
  | unsupportedParameterType parameter method path cause =>
    inspectRecord fault.label
      [("parameter", parameter), ("method", method), ("path", path), ("reason", cause.summary)]
  | unsupportedPathItemKey key path => inspectRecord fault.label [("key", key), ("path", path)]
  | unsupportedParameterLocation parameter location method path =>
    inspectRecord fault.label
      [("parameter", parameter), ("location", location), ("method", method), ("path", path)]
  | multipleContentTypes method path =>
    inspectRecord fault.label [("method", method), ("path", path)]
  | unsupportedBodyType method path cause =>
    inspectRecord fault.label [("method", method), ("path", path), ("reason", cause.summary)]
  | unsupportedResponseContentType contentType method path =>
    inspectRecord fault.label
      [("content_type", contentType), ("method", method), ("path", path)]
  | unsupportedResponseType method path cause =>
    inspectRecord fault.label [("method", method), ("path", path), ("reason", cause.summary)]
  | workspace cause => fault.label ++ "(" ++ Text.quoted cause.message ++ ")"

end Fault

end ApiStencil

import ApiStencil.Api.Basic
import ApiStencil.Json.Basic

/-!
# Dumps of APIs

An API and its parts as JSON values: what templates see and what an inspection shows. The order of
the members is that of the dumps.

## Main definitions

* `Model.dump`, `EndpointGroup.dump`, `Api.dump` - the dumps.
* `Model.context` - what the template of a model sees.
-/

namespace ApiStencil

/-- The dump of a case. -/
def EnumCase.dump (c : EnumCase) : Json :=
  .object [("name", .text c.name), ("description", .text c.description)]

/-- The members of the dump of an enum. -/
def EnumModel.members (model : EnumModel String) : List (String × Json) :=
  [("name", .text model.name), ("description", .text model.description),
    ("raw_type", .text model.rawType), ("cases", .array (model.cases.map (·.dump)))]

/-- The dump of an enum. -/
def EnumModel.dump (model : EnumModel String) : Json := .object model.members

/-- The dump of a property. -/
def ModelProperty.dump (p : ModelProperty String) : Json :=
  .object [("name", .text p.name), ("type", .text p.type), ("optional", .flag p.isOptional),
    ("description", .text p.description)]

/-- The members of the dump of a record. -/
def ObjectModel.members (model : ObjectModel String) : List (String × Json) :=
  [("name", .text model.name), ("description", .text model.description),
    ("properties", .array (model.properties.map (·.dump))),
    ("nested_enums", .array (model.nestedEnums.map (·.dump))), ("init", .text model.init)]

/-- The members that a template of a model sees. -/
def Model.members : Model String → List (String × Json)
  | object model => model.members
  | enum model => model.members

/-- What the template of a model sees. -/
def Model.context (model : Model String) : Json := .object model.members

/-- The word for the kind of a model. -/
def Model.kindName : Model String → String
  | object _ => "object"
  | enum _ => "enum"

/-- The dump of a model, which starts with its kind. -/
def Model.dump (model : Model String) : Json :=
  .object (("kind", .text model.kindName) :: model.members)

/-- The dump of an argument. -/
def Argument.dump (a : Argument String) : Json :=
  .object [("name", .text a.name), ("type", .text a.type), ("optional", .flag a.isOptional),
    ("location", .text a.location.name)]

/-- The dump of some arguments. -/
def dumpArguments (arguments : List (Argument String)) : Json :=
  .array (arguments.map (·.dump))

/-- The dump of an endpoint, in which the views of its arguments stand as members. -/
def Endpoint.dump (e : Endpoint String String) : Json :=
  .object [("group_name", .text e.group), ("method", .text e.method),
    ("description", .text e.description), ("path", .text e.path),
    ("path_parameters", dumpArguments e.pathArguments),
    ("query_parameters", dumpArguments e.queryArguments),
    ("parameters", dumpArguments e.arguments),
    ("body_type", .ofText? (e.body.map (·.type))), ("content_type", .text e.contentType),
    ("response_type", .text e.response), ("init", .text e.init)]

/-- The dump of a group, which is also what its template sees. -/
def EndpointGroup.dump (group : EndpointGroup String String) : Json :=
  .object [("name", .text group.name), ("path", .text group.path),
    ("endpoints", .array (group.endpoints.map (·.dump)))]

/-- The dump of the metadata. -/
def Info.dump (info : Info) : Json :=
  .object [("title", .text info.title), ("description", .ofText? info.description),
    ("version", .text info.version)]

/-- The dump of a server. -/
def NamedServer.dump (server : NamedServer) : Json :=
  .object [("name", .text server.name), ("url", .text server.url),
    ("description", .ofText? server.description)]

/-- The dump of an API. -/
def Api.dump (api : SpelledApi) : Json :=
  .object [("info", api.info.dump), ("servers", .array (api.servers.map (·.dump))),
    ("models", .array (api.models.map (·.dump))), ("groups", .array (api.groups.map (·.dump)))]

end ApiStencil

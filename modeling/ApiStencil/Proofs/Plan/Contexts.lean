import ApiStencil.Plan.Basic
import ApiStencil.Proofs.Trace

/-!
# What templates see

A template sees an object, of which it asks the members by their names. The templates of the project
see the metadata with the names of all models and groups, the template of a model sees the model
with all its parts, and that of a group sees the group with its endpoints.

## Main definitions

* `Json.Lists`: a member that lists what shows some things
* `Model.ShownBy`, `EndpointGroup.ShownBy`, `Api.ShownBy`: the members that show a model, a group
  and a whole API

## Main results

* `Model.shownBy_context`, `EndpointGroup.shownBy_dump`, `shownBy_projectContext`: templates see
  what they are made for
-/

namespace ApiStencil

section Lists

variable {α : Type} {value : Json} {key : String} {shows : α → Json → Prop} {as : List α}

/-- A member of a value lists what shows some things, one for each and in their order. -/
def Json.Lists (value : Json) (key : String) (shows : α → Json → Prop) (as : List α) : Prop :=
  ∃ items, value.get? key = some (.array items) ∧ List.Forall₂ shows as items

theorem Json.lists_of_map {f : α → Json} (h : value.get? key = some (.array (as.map f)))
    (hshows : ∀ a, shows a (f a)) : value.Lists key shows as :=
  ⟨_, h, List.forall₂_map_right_iff.mpr (List.forall₂_same.mpr fun a _ => hshows a)⟩

end Lists

/-! ## Models -/

/-- A value shows a case of an enum. -/
structure EnumCase.ShownBy (case : EnumCase) (value : Json) : Prop where
  name : value.get? "name" = some (.text case.name)
  description : value.get? "description" = some (.text case.description)

/-- A value shows an enum. -/
structure EnumModel.ShownBy (model : EnumModel String) (value : Json) : Prop where
  name : value.get? "name" = some (.text model.name)
  description : value.get? "description" = some (.text model.description)
  rawType : value.get? "raw_type" = some (.text model.rawType)
  cases : value.Lists "cases" EnumCase.ShownBy model.cases

/-- A value shows a property. -/
structure ModelProperty.ShownBy (property : ModelProperty String) (value : Json) : Prop where
  name : value.get? "name" = some (.text property.name)
  type : value.get? "type" = some (.text property.type)
  optional : value.get? "optional" = some (.flag property.isOptional)
  description : value.get? "description" = some (.text property.description)

/-- A value shows a record. -/
structure ObjectModel.ShownBy (model : ObjectModel String) (value : Json) : Prop where
  name : value.get? "name" = some (.text model.name)
  description : value.get? "description" = some (.text model.description)
  properties : value.Lists "properties" ModelProperty.ShownBy model.properties
  nestedEnums : value.Lists "nested_enums" EnumModel.ShownBy model.nestedEnums
  init : value.get? "init" = some (.text (", ".intercalate
    (model.properties.map fun property => property.name ++ ": " ++ property.type)))

/-- A value shows a model of either kind. -/
def Model.ShownBy : Model String → Json → Prop
  | object model => model.ShownBy
  | enum model => model.ShownBy

theorem EnumCase.shownBy_dump (case : EnumCase) : case.ShownBy case.dump := ⟨rfl, rfl⟩

theorem EnumModel.shownBy_dump (model : EnumModel String) : model.ShownBy model.dump :=
  ⟨rfl, rfl, rfl, Json.lists_of_map rfl EnumCase.shownBy_dump⟩

theorem ModelProperty.shownBy_dump (property : ModelProperty String) :
    property.ShownBy property.dump :=
  ⟨rfl, rfl, rfl, rfl⟩

/-- The template of a model sees the model. -/
theorem Model.shownBy_context (model : Model String) : model.ShownBy model.context := by
  cases model with
  | object model =>
    have hproperties : (Model.object model).context.Lists "properties" ModelProperty.ShownBy
        model.properties := Json.lists_of_map rfl ModelProperty.shownBy_dump
    have henums : (Model.object model).context.Lists "nested_enums" EnumModel.ShownBy
        model.nestedEnums := Json.lists_of_map rfl EnumModel.shownBy_dump
    refine ⟨rfl, rfl, hproperties, henums, ?_⟩
    rw [← model.init_eq]
    rfl
  | enum model => exact model.shownBy_dump

/-! ## Groups -/

/-- A value shows an argument. -/
structure Argument.ShownBy (argument : Argument String) (value : Json) : Prop where
  name : value.get? "name" = some (.text argument.name)
  type : value.get? "type" = some (.text argument.type)
  optional : value.get? "optional" = some (.flag argument.isOptional)
  location : value.get? "location" = some (.text argument.location.name)

/-- A value shows an endpoint, with the views of its arguments. -/
structure Endpoint.ShownBy (e : Endpoint String String) (value : Json) : Prop where
  group : value.get? "group_name" = some (.text e.group)
  method : value.get? "method" = some (.text e.method)
  description : value.get? "description" = some (.text e.description)
  path : value.get? "path" = some (.text e.path)
  pathArguments : value.Lists "path_parameters" Argument.ShownBy e.pathArguments
  queryArguments : value.Lists "query_parameters" Argument.ShownBy e.queryArguments
  arguments : value.Lists "parameters" Argument.ShownBy e.arguments
  body : value.get? "body_type" = some (match e.body with
    | some payload => .text payload.type
    | none => .null)
  contentType : value.get? "content_type" = some (.text e.contentType)
  response : value.get? "response_type" = some (.text e.response)
  init : value.get? "init" = some (.text (", ".intercalate
    (e.signature.map fun argument => argument.name ++ ": " ++ argument.type)))

/-- A value shows a group. -/
structure EndpointGroup.ShownBy (group : EndpointGroup String String) (value : Json) : Prop where
  name : value.get? "name" = some (.text group.name)
  path : value.get? "path" = some (.text group.path)
  endpoints : value.Lists "endpoints" Endpoint.ShownBy group.endpoints

theorem Argument.shownBy_dump (argument : Argument String) : argument.ShownBy argument.dump :=
  ⟨rfl, rfl, rfl, rfl⟩

theorem Endpoint.shownBy_dump (e : Endpoint String String) : e.ShownBy e.dump where
  group := rfl
  method := rfl
  description := rfl
  path := rfl
  pathArguments := Json.lists_of_map rfl Argument.shownBy_dump
  queryArguments := Json.lists_of_map rfl Argument.shownBy_dump
  arguments := Json.lists_of_map rfl Argument.shownBy_dump
  body := by
    have hget : e.dump.get? "body_type" = some (.ofText? (e.body.map (·.type))) := rfl
    rw [hget]
    cases e.body <;> rfl
  contentType := rfl
  response := rfl
  init := by
    rw [← e.init_eq]
    rfl

/-- The template of a group sees the group. -/
theorem EndpointGroup.shownBy_dump (group : EndpointGroup String String) :
    group.ShownBy group.dump :=
  ⟨rfl, rfl, Json.lists_of_map rfl Endpoint.shownBy_dump⟩

/-! ## The whole API -/

/-- A value shows a server. -/
structure NamedServer.ShownBy (server : NamedServer) (value : Json) : Prop where
  name : value.get? "name" = some (.text server.name)
  url : value.get? "url" = some (.text server.url)
  description : value.get? "description" = some (match server.description with
    | some description => .text description
    | none => .null)

/-- A value shows a whole API: its metadata, its servers, and the names of its models and groups. -/
structure Api.ShownBy (api : SpelledApi) (value : Json) : Prop where
  name : value.get? "name" = some (.text (capitalize api.info.title))
  title : value.get? "title" = some (.text api.info.title)
  description : value.get? "description" = some (.text (api.info.description.getD ""))
  version : value.get? "version" = some (.text api.info.version)
  servers : value.Lists "servers" NamedServer.ShownBy api.servers
  models : value.Lists "models" (fun model name => name = .text model.name) api.models
  groups : value.Lists "groups" (fun group name => name = .text group.name) api.groups

theorem NamedServer.shownBy_dump (server : NamedServer) : server.ShownBy server.dump where
  name := rfl
  url := rfl
  description := by
    have hget : server.dump.get? "description" = some (.ofText? server.description) := rfl
    rw [hget]
    cases server.description <;> rfl

/-- The templates of the project see the whole API. -/
theorem shownBy_projectContext (api : SpelledApi) : api.ShownBy (projectContext api) where
  name := rfl
  title := rfl
  description := rfl
  version := rfl
  servers := Json.lists_of_map rfl NamedServer.shownBy_dump
  models := by
    have hget : (projectContext api).get? "models" = some (.texts (api.models.map (·.name))) := rfl
    rw [Json.texts, List.map_map] at hget
    exact Json.lists_of_map hget fun _ => rfl
  groups := by
    have hget : (projectContext api).get? "groups" = some (.texts (api.groups.map (·.name))) := rfl
    rw [Json.texts, List.map_map] at hget
    exact Json.lists_of_map hget fun _ => rfl

end ApiStencil

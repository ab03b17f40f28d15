import ApiStencil.Proofs.Endpoint.Arguments
import ApiStencil.Proofs.Typing.Expansion

/-!
# The types in an endpoint

Every type in the texts of an endpoint comes from a descriptor of its operation. The body and the
response are spelled as endpoint code sees them, where the name of a model carries its namespace.
Declared parameters are spelled as model code sees them, and this is not the same for a parameter
whose schema is a reference: it has the bare name of the model, in the lists and in calls.

## Main definitions

* `Operation.GivesTypes`: the types of an endpoint and the descriptors they come from
* `Argument.spelled`: an argument with the spelling of its place
* `Endpoint.SpelledBy`: all type texts of an endpoint with one spelling of the parameters

## Main results

* `Vocabulary.spell_eq_spellQualified_iff`: where the two spellings of a type agree
* `Endpoint.SpelledBy.iff_forall`: two spellings of the parameters with the same texts
* `spelledEndpoint_spelling`: the texts of an endpoint, and when all types are spelled for it
-/

namespace ApiStencil

variable {v : Vocabulary} {group path : String}

/-! ## The two spellings -/

/-- The two spellings of a type differ only where it is a model itself. -/
theorem Vocabulary.spell_eq_spellQualified_iff {type : TypeRef} :
    v.spell type = v.spellQualified type ↔
      v.modelNamespace = "" ∨ ¬ ∃ name, type = .named name := by
  cases type with
  | named name =>
    have hspell : v.spell (.named name) = "" ++ name := String.empty_append.symm
    have hqualified : v.spellQualified (.named name) = v.modelNamespace ++ name := rfl
    rw [hspell, hqualified, String.append_left_inj, eq_comm]
    simp
  | primitive kind => exact iff_of_true rfl (.inr (by simp))
  | array element => exact iff_of_true rfl (.inr (by simp))
  | enum name => exact iff_of_true rfl (.inr (by simp))

/-- An argument in the words of a vocabulary: a body as endpoint code sees it, and any other one
with a spelling of its own. -/
def Argument.spelled (v : Vocabulary) (parameters : TypeRef → String)
    (argument : Argument TypeRef) : Argument String :=
  { argument with
    type := if argument.location = .body then v.spellQualified argument.type
      else parameters argument.type }

/-! ## The types of an endpoint -/

/-- The types of an endpoint are those of the descriptors of its operation, which shares some
parameters with its path: one for each parameter in the order of declaration, and one for the body
and the response if they have content. -/
structure Operation.GivesTypes (operation : Operation) (shared : List Parameter)
    (typed : TypedEndpoint) : Prop where
  declared : List.Forall₂ (fun parameter argument => argument.name = parameter.name ∧
      ∃ expansion, expandType parameter.schema none = .ok expansion ∧
        argument.type = expansion.type)
    (mergeParameters shared operation.parameters) typed.declared
  body : TypedBy (RequestBody.descriptors operation.requestBody) (typed.body.map (·.type))
  response : TypedBy operation.successDescriptors typed.response

theorem givesTypes_of_expandEndpoint {item : PathItem} {key : Method} {operation : Operation}
    {endpoint : TypedEndpoint} (h : expandEndpoint group path item key operation = .ok endpoint) :
    operation.GivesTypes item.parameters endpoint := by
  obtain ⟨hdeclared, hbody, hresponse⟩ := expandEndpoint_eq_ok h
  exact ⟨hdeclared.imp fun _ _ => expandParameter_eq_ok, expandBody_eq_ok hbody,
    expandResponse_eq_ok hresponse⟩

theorem location_ne_body_of_expandEndpoint {item : PathItem} {key : Method} {operation : Operation}
    {endpoint : TypedEndpoint} (h : expandEndpoint group path item key operation = .ok endpoint) :
    ∀ argument ∈ endpoint.declared, argument.location ≠ .body := by
  intro argument hargument
  obtain ⟨parameter, -, hexpand⟩ := exists_mem_of_forall₂ (expandEndpoint_eq_ok h).1 hargument
  rcases (gives_of_expandParameter (v := {}) hexpand).location with ⟨hpath, -⟩ | ⟨hquery, -⟩
  · rw [show argument.location = .path from hpath]
    decide
  · rw [show argument.location = .query from hquery]
    decide

/-! ## The texts of an endpoint -/

/-- Every type text of an endpoint spells the type at its place. Where a parameter is declared this
is by the given spelling; the body and the response are as endpoint code sees them. -/
structure Endpoint.SpelledBy (typed : TypedEndpoint) (v : Vocabulary)
    (parameters : TypeRef → String) (e : Endpoint String String) : Prop where
  pathArguments : e.pathArguments = typed.pathArguments.map (Argument.spelled v parameters)
  queryArguments : e.queryArguments = typed.queryArguments.map (Argument.spelled v parameters)
  arguments : e.arguments = typed.arguments.map (Argument.spelled v parameters)
  init : e.init = ", ".intercalate (typed.signature.map fun argument =>
    argument.name ++ ": " ++ (argument.spelled v parameters).type)
  body : e.body.map (·.type) = typed.body.map fun payload => v.spellQualified payload.type
  response : e.response = (typed.response.map v.spellQualified).getD v.void

namespace Endpoint

variable {typed : TypedEndpoint} {e : Endpoint String String}
  {parameters parameters' : TypeRef → String}

/-- Spelling leaves the signature in its order. -/
theorem signature_spell (h : ∀ argument ∈ typed.declared, argument.location ≠ .body) :
    (typed.spell v).signature = typed.signature.map (Argument.spelled v v.spell) := by
  have hdeclared : (typed.spell v).declared = typed.declared.map (Argument.spelled v v.spell) := by
    refine List.map_congr_left fun argument hargument => ?_
    rw [Argument.spelled, if_neg (h argument hargument)]
  have hbody : (typed.spell v).body.map bodyArgument =
      (typed.body.map bodyArgument).map (Argument.spelled v v.spell) := by
    rw [spell, Option.map_map, Option.map_map]
    rfl
  rw [signature, signature, hdeclared, hbody, List.map_append, Option.toList_map]

/-- What is spelled by the vocabulary has its texts in the places of the types. -/
theorem spelledBy_spell (h : ∀ argument ∈ typed.declared, argument.location ≠ .body) :
    typed.SpelledBy v v.spell (typed.spell v) := by
  have hsignature := signature_spell (v := v) h
  have hfilter {location : ArgumentLocation} (hne : location ≠ .body) :
      (typed.spell v).declared.filter (·.location = location) =
        (typed.declared.filter (·.location = location)).map (Argument.spelled v v.spell) := by
    rw [← filter_signature hne, ← filter_signature hne, hsignature, List.filter_map]
    rfl
  constructor
  case pathArguments => exact hfilter (by decide)
  case queryArguments =>
    rw [Endpoint.queryArguments, hfilter (by decide)]
    exact sortDescending_map (f := Argument.spelled v v.spell) (fun _ => rfl) _
  case arguments =>
    rw [Endpoint.arguments, hsignature]
    exact sortDescending_map (f := Argument.spelled v v.spell) (fun _ => rfl) _
  case init =>
    rw [Endpoint.init_eq, hsignature, List.map_map]
    rfl
  case body =>
    rw [spell, Option.map_map]
    rfl
  case response => rfl

theorem mem_arguments_iff {argument : Argument TypeRef} :
    argument ∈ typed.arguments ↔ argument ∈ typed.signature :=
  (isStableSort_sortDescending typed.signature).perm.mem_iff

/-- Two spellings of the parameters give the same texts if and only if they agree on the types of
the declared parameters. -/
theorem SpelledBy.iff_forall (h : typed.SpelledBy v parameters e)
    (hlocation : ∀ argument ∈ typed.declared, argument.location ≠ .body) :
    typed.SpelledBy v parameters' e ↔
      ∀ argument ∈ typed.declared, parameters argument.type = parameters' argument.type := by
  constructor
  · intro h' argument hdeclared
    have hmap := List.map_inj_left.mp (h.arguments.symm.trans h'.arguments)
    have hspelled := hmap argument (mem_arguments_iff.mpr (List.mem_append_left _ hdeclared))
    have htype := congrArg Argument.type hspelled
    rwa [Argument.spelled, Argument.spelled, if_neg (hlocation argument hdeclared),
      if_neg (hlocation argument hdeclared)] at htype
  · intro hsame
    have hdeclared : ∀ argument ∈ typed.declared,
        argument.spelled v parameters = argument.spelled v parameters' := by
      intro argument hargument
      rw [Argument.spelled, Argument.spelled, hsame argument hargument]
    have hsignature : ∀ argument ∈ typed.signature,
        argument.spelled v parameters = argument.spelled v parameters' := by
      intro argument hargument
      rcases List.mem_append.mp hargument with hargument | hbody
      · exact hdeclared argument hargument
      · obtain ⟨payload, -, rfl⟩ := Option.map_eq_some_iff.mp (Option.mem_toList.mp hbody)
        rfl
    have hquery : ∀ argument ∈ typed.queryArguments, argument ∈ typed.declared := fun _ hargument =>
      List.mem_of_mem_filter ((isStableSort_sortDescending _).perm.mem_iff.mp hargument)
    constructor
    case pathArguments =>
      exact h.pathArguments.trans (List.map_congr_left fun argument hargument =>
        hdeclared argument (List.mem_of_mem_filter hargument))
    case queryArguments =>
      exact h.queryArguments.trans (List.map_congr_left fun argument hargument =>
        hdeclared argument (hquery argument hargument))
    case arguments =>
      exact h.arguments.trans (List.map_congr_left fun argument hargument =>
        hsignature argument (mem_arguments_iff.mp hargument))
    case init =>
      refine h.init.trans (congrArg (", ".intercalate ·) ?_)
      exact List.map_congr_left fun argument hargument => by rw [hsignature argument hargument]
    case body => exact h.body
    case response => exact h.response

end Endpoint

/-- The declared arguments that are models are those of parameters without a type word. -/
theorem Operation.GivesTypes.forall_ne_named_iff {operation : Operation} {shared : List Parameter}
    {typed : TypedEndpoint} (h : operation.GivesTypes shared typed) :
    (∀ argument ∈ typed.declared, ¬ ∃ name, argument.type = .named name) ↔
      ∀ parameter ∈ mergeParameters shared operation.parameters, parameter.schema.type ≠ none := by
  have hdeclared := h.declared
  generalize mergeParameters shared operation.parameters = parameters at hdeclared
  generalize typed.declared = declared at hdeclared
  induction hdeclared with
  | nil => simp
  | @cons parameter argument _ _ hfirst _ ih =>
    obtain ⟨-, expansion, hx, htype⟩ := hfirst
    rw [List.forall_mem_cons, List.forall_mem_cons, htype]
    exact and_congr (not_congr (exists_eq_named_iff hx)) ih

/-- **The types in an endpoint.** The types of an endpoint are those of the descriptors of its
operation, and every type text spells the type at its place: body and response as endpoint code sees
them, and parameters as model code does. So all texts are as endpoint code sees them if and only if
there is no namespace or every parameter has a type word. -/
theorem spelledEndpoint_spelling (v : Vocabulary) {item : PathItem} {key : Method}
    {operation : Operation} {endpoint : Endpoint String String}
    (h : spelledEndpoint v group path item key operation = .ok endpoint) :
    ∃ typed, expandEndpoint group path item key operation = .ok typed ∧
      operation.GivesTypes item.parameters typed ∧
      typed.SpelledBy v v.spell endpoint ∧
      (typed.SpelledBy v v.spellQualified endpoint ↔
        v.modelNamespace = "" ∨ ∀ parameter ∈
          mergeParameters item.parameters operation.parameters, parameter.schema.type ≠ none) := by
  obtain ⟨typed, htyped, rfl⟩ := spelledEndpoint_eq_ok_iff.mp h
  have htypes := givesTypes_of_expandEndpoint htyped
  have hlocation := location_ne_body_of_expandEndpoint htyped
  have hspelled := Endpoint.spelledBy_spell (v := v) hlocation
  refine ⟨typed, htyped, htypes, hspelled, ?_⟩
  rw [hspelled.iff_forall hlocation, ← htypes.forall_ne_named_iff]
  simp only [Vocabulary.spell_eq_spellQualified_iff, forall_or_left]

/-- An operation with models in its types wherever one can be. -/
def taggedOperation : Operation where
  parameters := [
    { name := "id", location := "path"
      schema := { type := some .integer, format := some "int64" } },
    { name := "tags", location := "query"
      schema := { type := some .array
                  items := some { reference := some "#/components/schemas/Tag" } } }]
  requestBody := some { content := some <| Dict.ofList [
    (jsonMediaType, { reference := some "#/components/schemas/Pet" })] }
  responses := Dict.ofList [("200", { content := some <| Dict.ofList [
    (jsonMediaType, { type := some .array
                      items := some { reference := some "#/components/schemas/Pet" } })] })]

/-- The endpoint of that operation. -/
def taggedEndpoint : TypedEndpoint where
  group := "PetsByID"
  method := "put"
  description := missingDescription
  path := "/pets/\x7bid\x7d"
  declared := [
    { name := "id", type := .primitive .int64, isOptional := false, location := .path },
    { name := "tags", type := .array (.named "Tag"), isOptional := true, location := .query }]
  body := some { mediaType := jsonMediaType, type := .named "Pet" }
  response := some (.array (.named "Pet"))

theorem spelledEndpoint_spelling_tagged :
    spelledEndpoint {} "PetsByID" "/pets/\x7bid\x7d" {} .put taggedOperation =
        .ok (taggedEndpoint.spell {}) ∧
      taggedOperation.GivesTypes [] taggedEndpoint ∧
      taggedEndpoint.SpelledBy {} (Vocabulary.spellQualified {}) (taggedEndpoint.spell {}) ∧
      (taggedEndpoint.spell {}).init = "id: i64, tags: Vec<models::Tag>, body: models::Pet" ∧
      (taggedEndpoint.spell {}).response = "Vec<models::Pet>" := by
  have htyped : expandEndpoint "PetsByID" "/pets/\x7bid\x7d" {} .put taggedOperation =
      .ok taggedEndpoint := by decide +kernel
  have hok : spelledEndpoint {} "PetsByID" "/pets/\x7bid\x7d" {} .put taggedOperation =
      .ok (taggedEndpoint.spell {}) := spelledEndpoint_eq_ok_iff.mpr ⟨_, htyped, rfl⟩
  obtain ⟨typed, hsame, htypes, -, hqualified⟩ := spelledEndpoint_spelling {} hok
  obtain rfl : taggedEndpoint = typed := Except.ok.inj (htyped.symm.trans hsame)
  exact ⟨hok, htypes, hqualified.mpr (.inr (by decide +kernel)), by decide +kernel,
    by decide +kernel⟩

/-- An operation with one model in a parameter and in its body. -/
def filterOperation : Operation where
  parameters := [
    { name := "filter", location := "query"
      schema := { reference := some "#/components/schemas/Filter" } }]
  requestBody := some { content := some <| Dict.ofList [
    (jsonMediaType, { reference := some "#/components/schemas/Filter" })] }

/-- The endpoint of that operation. -/
def filterEndpoint : TypedEndpoint where
  group := "Pets"
  method := "post"
  description := missingDescription
  path := "/pets"
  declared := [
    { name := "filter", type := .named "Filter", isOptional := true, location := .query }]
  body := some { mediaType := jsonMediaType, type := .named "Filter" }
  response := none

/-- The parameter has the bare name of the model, and the body has it with the namespace. -/
theorem spelledEndpoint_spelling_filter :
    spelledEndpoint {} "Pets" "/pets" {} .post filterOperation = .ok (filterEndpoint.spell {}) ∧
      expandEndpoint "Pets" "/pets" {} .post filterOperation = .ok filterEndpoint ∧
      Vocabulary.spellQualified {} (.named "Filter") = "models::Filter" ∧
      (filterEndpoint.spell {}).queryArguments.map (·.type) = ["Filter"] ∧
      (filterEndpoint.spell {}).body.map (·.type) = some "models::Filter" ∧
      (filterEndpoint.spell {}).init = "filter: Filter, body: models::Filter" ∧
      ¬ filterEndpoint.SpelledBy {} (Vocabulary.spellQualified {}) (filterEndpoint.spell {}) := by
  refine ⟨by decide +kernel, by decide +kernel, by decide +kernel, by cbv, by decide +kernel,
    by decide +kernel, fun hqualified => ?_⟩
  exact absurd hqualified.init (by decide +kernel)

end ApiStencil

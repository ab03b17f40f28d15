import ApiStencil.Proofs.Endpoint.Faults
import ApiStencil.Proofs.Sorting
import Mathlib.Data.List.Permutation

/-!
# The argument lists of an endpoint

An operation has one signature: an argument for each of its parameters in the order of their
declaration, and then one for its body. The lists that templates see are the signature in another
order or a part of it. They agree, also where a name occurs twice: sorting keeps the order of equal
names, so the part of the sorted list is the sorted part.

## Main definitions

* `Parameter.Gives`: the argument of a declared parameter
* `Operation.HasSignature`: the arguments of an operation in the order of their declaration

## Main results

* `hasSignature_of_expandEndpoint`: the signature of an endpoint is that of its operation
* `Endpoint.queryArguments_eq_filter`, `Endpoint.isStableSort_pathArguments`: the lists of one
  location are parts of the sorted list
* `spelledEndpoint_views`: all lists of an endpoint as views of its signature
-/

namespace ApiStencil

variable {v : Vocabulary} {group method path : String}

/-! ## What a parameter and a body give -/

/-- The argument that a declared parameter gives in the words of a vocabulary. It may be left out
only if it travels in the query and is not required. -/
structure Parameter.Gives (v : Vocabulary) (parameter : Parameter) (argument : Argument String) :
    Prop where
  name : argument.name = parameter.name
  type : ∃ expansion, expandType parameter.schema none = .ok expansion ∧
    argument.type = v.spell expansion.type
  location : argument.location = .path ∧ parameter.location = "path" ∨
    argument.location = .query ∧ parameter.location = "query"
  optional : argument.isOptional = true ↔
    argument.location = .query ∧ parameter.required = false

theorem Parameter.Gives.location_eq_path_iff {parameter : Parameter} {argument : Argument String}
    (h : parameter.Gives v argument) : argument.location = .path ↔ parameter.location = "path" := by
  rcases h.location with ⟨hargument, hparameter⟩ | ⟨hargument, hparameter⟩
  · simp [hargument, hparameter]
  · simp [hargument, hparameter]

/-- The arguments of an operation, which shares some parameters with its path: one for each
parameter in the order of declaration, and then one for the payload of its body, if there is one. -/
def Operation.HasSignature (v : Vocabulary) (shared : List Parameter) (operation : Operation)
    (signature : List (Argument String)) : Prop :=
  ∃ declared bodies, signature = declared ++ bodies ∧
    List.Forall₂ (Parameter.Gives v) (mergeParameters shared operation.parameters) declared ∧
    List.Forall₂ (fun payload argument => ∃ expansion,
        expandType payload.2 none = .ok expansion ∧ argument = Endpoint.bodyArgument
          { mediaType := payload.1, type := v.spellQualified expansion.type })
      (RequestBody.payloads operation.requestBody) bodies

theorem gives_of_expandParameter {parameter : Parameter} {argument : Argument TypeRef}
    (h : expandParameter method path parameter = .ok argument) :
    parameter.Gives v { argument with type := v.spell argument.type } := by
  unfold expandParameter at h
  split at h
  · cases h
  · next expansion hx =>
    split at h
    next hpath =>
      cases h
      exact ⟨rfl, ⟨expansion, hx, rfl⟩, .inl ⟨rfl, hpath⟩, by simp⟩
    next hpath =>
      split at h
      next hquery =>
        cases h
        exact ⟨rfl, ⟨expansion, hx, rfl⟩, .inr ⟨rfl, hquery⟩, by simp⟩
      next => cases h

/-- A body has the payload that its type comes from, and no other. -/
theorem payloads_of_expandBody {body : Option RequestBody} {payload : Option (Payload TypeRef)}
    (h : expandBody method path body = .ok payload) :
    List.Forall₂ (fun entry payload => ∃ expansion,
        expandType entry.2 none = .ok expansion ∧
          payload = { mediaType := entry.1, type := expansion.type })
      (RequestBody.payloads body) payload.toList := by
  unfold expandBody at h
  unfold RequestBody.payloads
  generalize (body.bind (·.content)).map (·.entries) = payloads at h ⊢
  split at h
  next =>
    cases h
    exact .nil
  next =>
    cases h
    exact .nil
  next mediaType node =>
    split at h
    next expansion hx =>
      cases h
      exact .cons ⟨expansion, hx, rfl⟩ .nil
    next => cases h
  next => cases h

/-- The declared arguments of an endpoint are those of the parameters of its operation. -/
theorem gives_of_expandEndpoint {item : PathItem} {key : Method} {operation : Operation}
    {endpoint : TypedEndpoint} (h : expandEndpoint group path item key operation = .ok endpoint) :
    List.Forall₂ (Parameter.Gives v) (mergeParameters item.parameters operation.parameters)
      (endpoint.spell v).declared :=
  List.forall₂_map_right_iff.mpr
    ((expandEndpoint_eq_ok h).1.imp fun _ _ => gives_of_expandParameter)

/-- The signature of an endpoint is that of its operation. -/
theorem hasSignature_of_expandEndpoint {item : PathItem} {key : Method} {operation : Operation}
    {endpoint : TypedEndpoint} (h : expandEndpoint group path item key operation = .ok endpoint) :
    operation.HasSignature v item.parameters (endpoint.spell v).signature := by
  obtain ⟨-, hbody, -⟩ := expandEndpoint_eq_ok h
  refine ⟨_, _, rfl, gives_of_expandEndpoint h, ?_⟩
  have hspell : (endpoint.spell v).body.map Endpoint.bodyArgument =
      endpoint.body.map fun payload => Endpoint.bodyArgument
        { payload with type := v.spellQualified payload.type } := by
    rw [Endpoint.spell, Option.map_map]
    rfl
  rw [hspell, Option.toList_map, List.forall₂_map_right_iff]
  refine (payloads_of_expandBody hbody).imp fun entry payload hentry => ?_
  obtain ⟨expansion, hx, rfl⟩ := hentry
  exact ⟨expansion, hx, rfl⟩

/-! ## The lists of one location -/

namespace Endpoint

theorem filter_signature {τ ρ : Type} {e : Endpoint τ ρ} {location : ArgumentLocation}
    (h : location ≠ .body) :
    e.signature.filter (·.location = location) = e.declared.filter (·.location = location) := by
  rw [signature, List.filter_append]
  cases e.body with
  | none => simp
  | some payload => simp [bodyArgument, h.symm]

variable {e : Endpoint String String}

/-- The arguments in the query are those of the sorted list. -/
theorem queryArguments_eq_filter : e.queryArguments = e.arguments.filter (·.location = .query) := by
  rw [queryArguments, arguments, ← sortDescending_filter, filter_signature (by decide)]

/-- The arguments in the path are in the order of declaration. Sorted, they are those of the sorted
list. -/
theorem isStableSort_pathArguments :
    IsStableSort (· ≥ ·) (·.name) e.pathArguments (e.arguments.filter (·.location = .path)) := by
  rw [pathArguments, ← filter_signature (by decide)]
  exact (isStableSort_sortDescending e.signature).filter _

/-- The type of the body is that of the last argument, if that is a body. -/
theorem body_type_eq_some_iff (h : ∀ argument ∈ e.declared, argument.location ≠ .body)
    {type : String} :
    e.body.map (·.type) = some type ↔ ∃ last, e.signature.getLast? = some last ∧
      last.location = .body ∧ last.type = type := by
  unfold signature
  cases e.body with
  | none =>
    refine iff_of_false (by simp) ?_
    rintro ⟨last, hlast, hbody, -⟩
    rw [Option.map_none, Option.toList_none, List.append_nil] at hlast
    exact h last (List.mem_of_getLast? hlast) hbody
  | some payload => simp [bodyArgument]

end Endpoint

/-- **The lists of an endpoint agree.** The signature of an operation has its parameters in the
order of their declaration and then its body. The arguments are the signature, stably sorted
descending by name; those in the query are a part of this list, and those in the path are a part of
the signature, which when sorted is a part of the list, too. Calls take the signature as it is. An
endpoint has a body type exactly if its signature ends in a body, and then it is the type of that.
-/
theorem spelledEndpoint_views (v : Vocabulary) {item : PathItem} {key : Method}
    {operation : Operation} {endpoint : Endpoint String String}
    (h : spelledEndpoint v group path item key operation = .ok endpoint) :
    ∃ signature, operation.HasSignature v item.parameters signature ∧
      IsStableSort (· ≥ ·) (·.name) signature endpoint.arguments ∧
      endpoint.queryArguments = endpoint.arguments.filter (·.location = .query) ∧
      endpoint.pathArguments = signature.filter (·.location = .path) ∧
      IsStableSort (· ≥ ·) (·.name) endpoint.pathArguments
        (endpoint.arguments.filter (·.location = .path)) ∧
      endpoint.init = ", ".intercalate (signature.map fun a => a.name ++ ": " ++ a.type) ∧
      ∀ type, endpoint.body.map (·.type) = some type ↔
        ∃ last, signature.getLast? = some last ∧ last.location = .body ∧ last.type = type := by
  obtain ⟨typed, htyped, rfl⟩ := spelledEndpoint_eq_ok_iff.mp h
  have hdeclared : ∀ argument ∈ (typed.spell v).declared, argument.location ≠ .body := by
    intro argument hargument
    obtain ⟨parameter, -, hgives⟩ :=
      exists_mem_of_forall₂ (gives_of_expandEndpoint htyped) hargument
    rcases hgives.location with ⟨hpath, -⟩ | ⟨hquery, -⟩
    · simp [hpath]
    · simp [hquery]
  refine ⟨(typed.spell v).signature, hasSignature_of_expandEndpoint htyped,
    isStableSort_sortDescending _, Endpoint.queryArguments_eq_filter, ?_,
    Endpoint.isStableSort_pathArguments, Endpoint.init_eq _,
    fun type => Endpoint.body_type_eq_some_iff hdeclared⟩
  rw [Endpoint.filter_signature (by decide), Endpoint.pathArguments]

/-- An operation with two parameters of one name, and with one that has the name of the body. -/
def searchOperation : Operation where
  parameters := [
    { name := "id", location := "path", schema := { type := some .integer } },
    { name := "body", location := "query", schema := { type := some .string } },
    { name := "id", location := "query", required := true, schema := { type := some .boolean } }]
  requestBody := some { content := some <| Dict.ofList [
    (jsonMediaType, { reference := some "#/components/schemas/Pet" })] }

/-- The endpoint of that operation. -/
def searchEndpoint : Endpoint String String where
  group := "PetsByID"
  method := "post"
  description := missingDescription
  path := "pets/\x7bid\x7d"
  declared := [
    { name := "id", type := "isize", isOptional := false, location := .path },
    { name := "body", type := "String", isOptional := true, location := .query },
    { name := "id", type := "bool", isOptional := false, location := .query }]
  body := some { mediaType := jsonMediaType, type := "models::Pet" }
  response := "()"

theorem spelledEndpoint_views_search :
    spelledEndpoint {} "PetsByID" "/pets/\x7bid\x7d" {} .post searchOperation =
        .ok searchEndpoint ∧
      searchEndpoint.arguments.map (fun a => (a.name, a.location)) =
        [("id", .path), ("id", .query), ("body", .query), ("body", .body)] ∧
      searchEndpoint.queryArguments = searchEndpoint.arguments.filter (·.location = .query) ∧
      searchEndpoint.init = "id: isize, body: String, id: bool, body: models::Pet" ∧
      ∃ signature, searchOperation.HasSignature {} [] signature ∧
        IsStableSort (· ≥ ·) (·.name) signature searchEndpoint.arguments ∧
        ∃ last, signature.getLast? = some last ∧ last.location = .body ∧
          last.type = "models::Pet" := by
  have hok : spelledEndpoint {} "PetsByID" "/pets/\x7bid\x7d" {} .post searchOperation =
      .ok searchEndpoint := by decide +kernel
  obtain ⟨signature, hsignature, hsorted, hquery, -, -, -, hbody⟩ := spelledEndpoint_views {} hok
  exact ⟨hok, by cbv, hquery, by decide +kernel, signature, hsignature, hsorted,
    (hbody _).mp (by decide +kernel)⟩

end ApiStencil

import ApiStencil.Proofs.Endpoint.Spelling
import Mathlib.Data.List.Nodup

/-!
# The names of arguments

Parameters are told apart by their names and locations, and so are the arguments that they give. A
call tells its arguments apart by their names alone. One name in the path and in the query gives two
arguments of that name, and so do a parameter with the name of the body and the body itself.

## Main definitions

* `Parameter.key`: what parameters are told apart by
* `NamesClash`: the ways in which two arguments of an operation come to have one name

## Main results

* `names_arguments_perm`, `nodup_keys_arguments`: the names and the locations of the arguments
* `spelledEndpoint_argumentNames`: when the names of the arguments differ
* `spelledEndpoint_argumentNames_search`: an operation with two arguments of one name
-/

namespace ApiStencil

/-- What parameters are told apart by. -/
def Parameter.key (parameter : Parameter) : String × String :=
  (parameter.name, parameter.location)

/-- Two arguments of an operation have one name: a parameter in the path and one in the query, or a
parameter and the body. -/
inductive NamesClash (parameters : List Parameter) (payloads : List (String × Descriptor)) :
    Prop where
  | locations (inPath inQuery : Parameter) (hpath : inPath ∈ parameters)
      (hquery : inQuery ∈ parameters) (path : inPath.location = "path")
      (query : inQuery.location = "query") (name : inPath.name = inQuery.name)
  | body (parameter : Parameter) (hparameter : parameter ∈ parameters)
      (payload : payloads ≠ []) (name : parameter.name = "body")

/-! ## Parameters with one name -/

/-- Parameters in the path and in the query that are told apart by their keys differ in their names
unless one of them is in the path and another one in the query. -/
theorem nodup_names_iff {parameters : List Parameter}
    (hkeys : (parameters.map Parameter.key).Nodup)
    (hlocation : ∀ parameter ∈ parameters,
      parameter.location = "path" ∨ parameter.location = "query") :
    (parameters.map (·.name)).Nodup ↔
      ∀ a ∈ parameters, ∀ b ∈ parameters, a.location = "path" → b.location = "query" →
        a.name ≠ b.name := by
  constructor
  · intro hnodup a ha b hb hpath hquery hname
    obtain rfl : a = b := List.inj_on_of_nodup_map hnodup ha hb hname
    rw [hpath] at hquery
    exact absurd hquery (by decide)
  · intro h
    apply List.pairwise_map.mpr
    refine (List.pairwise_map.mp hkeys).imp_of_mem ?_
    intro a b ha hb hne hname
    apply hne
    rcases hlocation a ha with hpath | hquery
    · rcases hlocation b hb with hpath' | hquery'
      · rw [Parameter.key, Parameter.key, hname, hpath, hpath']
      · exact absurd hname (h a ha b hb hpath hquery')
    · rcases hlocation b hb with hpath' | hquery'
      · exact absurd hname.symm (h b hb a ha hpath' hquery)
      · rw [Parameter.key, Parameter.key, hname, hquery, hquery']

/-! ## The arguments of an operation -/

variable {v : Vocabulary} {group path : String} {item : PathItem} {key : Method}
  {operation : Operation} {endpoint : TypedEndpoint}

theorem Operation.HasSignature.names {shared : List Parameter} {signature : List (Argument String)}
    (h : operation.HasSignature v shared signature) :
    signature.map (·.name) = (mergeParameters shared operation.parameters).map (·.name) ++
      (RequestBody.payloads operation.requestBody).map fun _ => "body" := by
  obtain ⟨declared, bodies, rfl, hdeclared, hbodies⟩ := h
  rw [List.map_append, map_eq_map_of_forall₂ hdeclared fun _ _ hgives => hgives.name.symm]
  congr 1
  refine (map_eq_map_of_forall₂ hbodies ?_).symm
  rintro payload argument ⟨expansion, -, rfl⟩
  rfl

/-- An operation that gives an endpoint has no fault. -/
theorem isSupported_of_expandEndpoint
    (h : expandEndpoint group path item key operation = .ok endpoint) :
    operation.IsSupported item.parameters := by
  have hstops : StopsAtFirst (operationFaults path item (key, operation))
      (expandEndpoint group path item key operation) :=
    stopsAtFirst_expandEndpoint group item (key, operation)
  exact operationFaults_eq_nil_iff.mp (hstops.exists_ok_iff.mp ⟨endpoint, h⟩)

theorem names_arguments_perm (h : expandEndpoint group path item key operation = .ok endpoint) :
    ((endpoint.spell v).arguments.map (·.name)).Perm
      ((mergeParameters item.parameters operation.parameters).map (·.name) ++
        (RequestBody.payloads operation.requestBody).map fun _ => "body") := by
  rw [← (hasSignature_of_expandEndpoint (v := v) h).names]
  exact (isStableSort_sortDescending _).perm.map _

/-- The names of the arguments differ unless there is a reason for two of them to agree. -/
theorem nodup_names_arguments_iff (h : expandEndpoint group path item key operation = .ok endpoint)
    (hkeys : ((mergeParameters item.parameters operation.parameters).map Parameter.key).Nodup) :
    ((endpoint.spell v).arguments.map (·.name)).Nodup ↔
      ¬ NamesClash (mergeParameters item.parameters operation.parameters)
        (RequestBody.payloads operation.requestBody) := by
  have hsupported := isSupported_of_expandEndpoint h
  rw [(names_arguments_perm h).nodup_iff, List.nodup_append, nodup_names_iff hkeys
    fun parameter hparameter => (hsupported.parameters parameter hparameter).location]
  constructor
  · rintro ⟨hnames, -, hdisjoint⟩ (⟨a, b, ha, hb, hpath, hquery, hname⟩ | ⟨a, ha, hpayload, hname⟩)
    · exact hnames a ha b hb hpath hquery hname
    · obtain ⟨payload, hpayload⟩ := List.exists_mem_of_ne_nil _ hpayload
      have hbody : "body" ∈ (RequestBody.payloads operation.requestBody).map fun _ => "body" :=
        List.mem_map.mpr ⟨payload, hpayload, rfl⟩
      exact hdisjoint _ (List.mem_map_of_mem ha) _ hbody hname
  · intro hclash
    refine ⟨?_, ?_, ?_⟩
    · intro a ha b hb hpath hquery hname
      exact hclash (.locations a b ha hb hpath hquery hname)
    · rcases hsupported.body with hnil | ⟨mediaType, node, hone, -⟩
      · rw [hnil]
        exact List.nodup_nil
      · rw [hone]
        exact List.nodup_singleton _
    · intro name hname other hother heq
      obtain ⟨a, ha, rfl⟩ := List.mem_map.mp hname
      obtain ⟨payload, hpayload, rfl⟩ := List.mem_map.mp hother
      exact hclash (.body a ha (List.ne_nil_of_mem hpayload) heq)

/-- Arguments are told apart by name and location if parameters are. -/
theorem nodup_keys_arguments (h : expandEndpoint group path item key operation = .ok endpoint)
    (hkeys : ((mergeParameters item.parameters operation.parameters).map Parameter.key).Nodup) :
    ((endpoint.spell v).arguments.map fun a => (a.name, a.location)).Nodup := by
  have hdeclared : ((endpoint.spell v).declared.map fun a => (a.name, a.location)).Nodup := by
    refine nodup_map_of_forall₂ (gives_of_expandEndpoint h) ?_ hkeys
    intro parameter argument other otherArgument hgives hother heq
    obtain ⟨hname, hlocation⟩ := Prod.mk.inj heq
    rw [Parameter.key, Parameter.key, ← hgives.name, ← hother.name, hname]
    rcases hgives.location with ⟨hpath, hparameter⟩ | ⟨hquery, hparameter⟩
    · rw [hparameter, hother.location_eq_path_iff.mp (hlocation ▸ hpath)]
    · rcases hother.location with ⟨hpath, -⟩ | ⟨-, hparameter'⟩
      · rw [hlocation, hpath] at hquery
        cases hquery
      · rw [hparameter, hparameter']
  have hperm : (endpoint.spell v).arguments.Perm (endpoint.spell v).signature :=
    (isStableSort_sortDescending _).perm
  rw [(hperm.map _).nodup_iff, Endpoint.signature, List.map_append, List.nodup_append]
  refine ⟨hdeclared, ?_, ?_⟩
  · cases (endpoint.spell v).body with
    | none => exact List.nodup_nil
    | some payload => exact List.nodup_singleton _
  · intro first hfirst second hsecond heq
    obtain ⟨argument, hargument, rfl⟩ := List.mem_map.mp hfirst
    obtain ⟨body, hbody, rfl⟩ := List.mem_map.mp hsecond
    obtain ⟨payload, -, rfl⟩ := Option.map_eq_some_iff.mp (Option.mem_toList.mp hbody)
    obtain ⟨parameter, -, hgives⟩ := exists_mem_of_forall₂ (gives_of_expandEndpoint h) hargument
    have hlocation : argument.location = .body := (Prod.mk.inj heq).2
    rcases hgives.location with ⟨hpath, -⟩ | ⟨hquery, -⟩
    · rw [hlocation] at hpath
      cases hpath
    · rw [hlocation] at hquery
      cases hquery

/-- **The names of the arguments of a call.** Where no two of the parameters of an operation have
one name and one location, no two of its arguments do, the body being one of them. Their names alone
differ too, both in the list of all arguments and in calls, exactly if no name is declared both in
the path and in the query, and none that of the body if there is one. -/
theorem spelledEndpoint_argumentNames (v : Vocabulary) {endpoint : Endpoint String String}
    (h : spelledEndpoint v group path item key operation = .ok endpoint)
    (hkeys : ((mergeParameters item.parameters operation.parameters).map Parameter.key).Nodup) :
    (endpoint.arguments.map fun a => (a.name, a.location)).Nodup ∧
      ((endpoint.arguments.map (·.name)).Nodup ↔
        ¬ NamesClash (mergeParameters item.parameters operation.parameters)
          (RequestBody.payloads operation.requestBody)) ∧
      ∃ signature : List (Argument String), signature.Perm endpoint.arguments ∧
        endpoint.init = ", ".intercalate (signature.map fun a => a.name ++ ": " ++ a.type) := by
  obtain ⟨typed, htyped, rfl⟩ := spelledEndpoint_eq_ok_iff.mp h
  refine ⟨nodup_keys_arguments htyped hkeys, nodup_names_arguments_iff htyped hkeys,
    (typed.spell v).signature, ?_, Endpoint.init_eq _⟩
  exact (isStableSort_sortDescending _).perm.symm

theorem spelledEndpoint_argumentNames_tagged :
    spelledEndpoint {} "PetsByID" "/pets/\x7bid\x7d" {} .put taggedOperation =
        .ok (taggedEndpoint.spell {}) ∧
      ((mergeParameters [] taggedOperation.parameters).map Parameter.key).Nodup ∧
      ((taggedEndpoint.spell {}).arguments.map fun a => (a.name, a.location)).Nodup ∧
      ((taggedEndpoint.spell {}).arguments.map (·.name)).Nodup := by
  have hok : spelledEndpoint {} "PetsByID" "/pets/\x7bid\x7d" {} .put taggedOperation =
      .ok (taggedEndpoint.spell {}) := by decide +kernel
  have hkeys : ((mergeParameters [] taggedOperation.parameters).map Parameter.key).Nodup := by
    decide
  obtain ⟨hboth, hnames, -⟩ := spelledEndpoint_argumentNames {} hok hkeys
  refine ⟨hok, hkeys, hboth, hnames.mpr ?_⟩
  have hall : ∀ a ∈ taggedOperation.parameters, a.name ≠ "body" ∧
      ∀ b ∈ taggedOperation.parameters, a.location ≠ b.location → a.name ≠ b.name := by decide
  rintro (⟨a, b, ha, hb, hpath, hquery, hname⟩ | ⟨a, ha, -, hname⟩)
  · refine (hall a ha).2 b hb ?_ hname
    rw [hpath, hquery]
    decide
  · exact (hall a ha).1 hname

/-- The parameters differ in name and location, and of the four arguments two are called `id` and
two are called `body`. -/
theorem spelledEndpoint_argumentNames_search :
    ((mergeParameters [] searchOperation.parameters).map Parameter.key).Nodup ∧
      spelledEndpoint {} "PetsByID" "/pets/\x7bid\x7d" {} .post searchOperation =
        .ok searchEndpoint ∧
      searchEndpoint.arguments.map (·.name) = ["id", "id", "body", "body"] ∧
      searchEndpoint.init = "id: isize, body: String, id: bool, body: models::Pet" ∧
      ¬ (searchEndpoint.arguments.map (·.name)).Nodup := by
  have hnames : searchEndpoint.arguments.map (·.name) = ["id", "id", "body", "body"] := by cbv
  refine ⟨by decide, by decide +kernel, hnames, by decide +kernel, ?_⟩
  rw [hnames]
  decide

end ApiStencil

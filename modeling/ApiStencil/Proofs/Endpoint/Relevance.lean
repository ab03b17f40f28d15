import ApiStencil.Proofs.Endpoint.ArgumentNames

/-!
# What endpoints depend on

Much of what a document says about its paths leaves no trace in the endpoints: the responses under
all codes but one, what responses and path items say about themselves, and the descriptions of
parameters and schemas. Two documents that agree on the rest give the same endpoints or the same
fault, and report the same events on the way.

## Main definitions

* `EntriesAgree`: two lists of entries with the same keys, and values that agree pair by pair
* `Descriptor.Agrees`, `Parameter.Agrees`, `Operation.Agrees`, `PathItem.Agrees`: the same but for
  what leaves no trace
* `Operation.answering`: an operation with one more response

## Main results

* `expandType_congr`, `expandEndpoint_congr`, `expandGroup_congr`: what agrees gives the same answer
* `Operation.agrees_answering`: a response under another code is not looked at
* `spelledEndpoints_congr`: the endpoints of two documents that agree
-/

namespace ApiStencil

variable {group path : String} {method : Method}

/-! ## Documents that agree -/

/-- Two lists have the same keys in order, and at each key values that are related. -/
def EntriesAgree {κ α : Type} (R : α → α → Prop) (es fs : List (κ × α)) : Prop :=
  List.Forall₂ (fun e f => e.1 = f.1 ∧ R e.2 f.2) es fs

/-- Two descriptors are the same but for their descriptions. -/
structure Descriptor.Agrees (node other : Descriptor) : Prop where
  type : node.type = other.type
  format : node.format = other.format
  reference : node.reference = other.reference
  items : node.items = other.items
  literals : node.literals = other.literals

/-- Two parameters are the same but for the descriptions in them. -/
structure Parameter.Agrees (parameter other : Parameter) : Prop where
  name : parameter.name = other.name
  location : parameter.location = other.location
  required : parameter.required = other.required
  schema : parameter.schema.Agrees other.schema

/-- Two operations say the same about themselves, and their parameters, the payloads of their bodies
and those of their success responses agree. -/
structure Operation.Agrees (operation other : Operation) : Prop where
  summary : operation.summary = other.summary
  description : operation.description = other.description
  parameters : List.Forall₂ Parameter.Agrees operation.parameters other.parameters
  body : EntriesAgree Descriptor.Agrees (RequestBody.payloads operation.requestBody)
    (RequestBody.payloads other.requestBody)
  response : EntriesAgree Descriptor.Agrees operation.successPayloads other.successPayloads

/-- Two path items have the same summary, the same unsupported keys and the same methods, and their
parameters and operations agree. -/
structure PathItem.Agrees (item other : PathItem) : Prop where
  summary : item.summary = other.summary
  unsupportedKeys : item.unsupportedKeys = other.unsupportedKeys
  parameters : List.Forall₂ Parameter.Agrees item.parameters other.parameters
  operations : EntriesAgree Operation.Agrees item.operations.entries other.operations.entries

section Refl

variable {κ α : Type} {R : α → α → Prop}

theorem EntriesAgree.refl (h : ∀ a, R a a) (es : List (κ × α)) : EntriesAgree R es es :=
  List.forall₂_same.mpr fun e _ => ⟨rfl, h e.2⟩

/-- A new value for a key that is there agrees if it agrees with the old one. -/
theorem Dict.entriesAgree_insert [DecidableEq κ] {d : Dict κ α} {k : κ} {old new : α}
    (hget : d.get? k = some old) (hnew : R new old) (hrefl : ∀ a, R a a) :
    EntriesAgree R (d.insert k new).entries d.entries := by
  have h : ∀ es : List (κ × α), (∀ a, (k, a) ∈ es → R new a) → k ∈ es.map Prod.fst →
      EntriesAgree R (Dict.putEntry k new es) es := by
    intro es
    induction es with
    | nil =>
      intro _ hmem
      cases hmem
    | cons e es ih =>
      intro hvalue hmem
      rw [Dict.putEntry]
      split
      next hkey =>
        subst hkey
        exact .cons ⟨rfl, hvalue _ List.mem_cons_self⟩ (EntriesAgree.refl hrefl es)
      next hkey =>
        have hrest : k ∈ es.map Prod.fst :=
          (List.mem_cons.mp hmem).resolve_left fun heq => hkey heq.symm
        have hvalue' : ∀ a, (k, a) ∈ es → R new a :=
          fun a ha => hvalue a (List.mem_cons_of_mem e ha)
        exact .cons ⟨rfl, hrefl e.2⟩ (ih hvalue' hrest)
  apply h
  · intro a ha
    rw [← d.get?_eq_some_iff, hget] at ha
    cases ha
    exact hnew
  · exact d.mem_keys_iff.mpr ⟨old, hget⟩

theorem Descriptor.Agrees.refl (node : Descriptor) : node.Agrees node :=
  ⟨rfl, rfl, rfl, rfl, rfl⟩

theorem Parameter.Agrees.refl (parameter : Parameter) : parameter.Agrees parameter :=
  ⟨rfl, rfl, rfl, .refl _⟩

theorem Operation.Agrees.refl (operation : Operation) : operation.Agrees operation :=
  ⟨rfl, rfl, List.forall₂_same.mpr fun parameter _ => .refl parameter, .refl .refl _, .refl .refl _⟩

theorem PathItem.Agrees.refl (item : PathItem) : item.Agrees item :=
  ⟨rfl, rfl, List.forall₂_same.mpr fun parameter _ => .refl parameter, .refl .refl _⟩

end Refl

/-! ## What agrees gives the same answer -/

/-- Outside of models a type does not depend on a description. -/
theorem expandType_congr {node other : Descriptor} (h : node.Agrees other) :
    expandType node none = expandType other none := by
  have hscalar : mapScalar node = mapScalar other := by
    unfold mapScalar
    rw [h.type, h.format, h.items, h.literals]
  rw [expandType_of_plain (.inl rfl), expandType_of_plain (.inl rfl), hscalar, h.type, h.reference]

theorem expandParameter_congr {parameter other : Parameter} (h : parameter.Agrees other)
    (method path : String) :
    expandParameter method path parameter = expandParameter method path other := by
  unfold expandParameter
  rw [expandType_congr h.schema, h.name, h.location, h.required]

/-- Which parameters are declared anew depends on their keys alone. -/
theorem mergeParameters_eq (shared own : List Parameter) :
    mergeParameters shared own =
      (shared.filter fun parameter => parameter.key ∉ own.map Parameter.key) ++ own := by
  unfold mergeParameters
  congr 1
  apply List.filter_congr
  intro parameter _
  have hany : (own.any fun o => o.name = parameter.name ∧ o.location = parameter.location) =
      decide (parameter.key ∈ own.map Parameter.key) := by
    rw [Bool.eq_iff_iff]
    simp [Parameter.key]
  rw [hany, decide_not]

theorem mergeParameters_agree {shared own shared' own' : List Parameter}
    (hshared : List.Forall₂ Parameter.Agrees shared shared')
    (hown : List.Forall₂ Parameter.Agrees own own') :
    List.Forall₂ Parameter.Agrees (mergeParameters shared own) (mergeParameters shared' own') := by
  have hkey : ∀ {parameter other : Parameter}, parameter.Agrees other →
      parameter.key = other.key := fun h => by rw [Parameter.key, Parameter.key, h.name, h.location]
  have hkeys : own.map Parameter.key = own'.map Parameter.key :=
    map_eq_map_of_forall₂ hown fun _ _ => hkey
  rw [mergeParameters_eq, mergeParameters_eq, hkeys]
  refine List.rel_append (List.rel_filter ?_ hshared) hown
  intro parameter other h
  show decide _ = true ↔ decide _ = true
  rw [hkey h]

/-- No content is as good as content without payloads. -/
theorem expandBody_eq (method path : String) (body : Option RequestBody) :
    expandBody method path body = match RequestBody.payloads body with
      | [] => .ok none
      | [(mediaType, node)] =>
        match expandType node none with
        | .ok expansion => .ok (some { mediaType, type := expansion.type })
        | .error cause => .error (.unsupportedBodyType method path cause)
      | _ :: _ :: _ => .error (.multipleContentTypes method path) := by
  unfold RequestBody.payloads expandBody
  generalize (body.bind (·.content)).map (·.entries) = payloads
  rcases payloads with _ | _ | ⟨⟨mediaType, node⟩, _ | ⟨second, rest⟩⟩ <;> rfl

theorem expandBody_congr {body other : Option RequestBody}
    (h : EntriesAgree Descriptor.Agrees (RequestBody.payloads body) (RequestBody.payloads other))
    (method path : String) : expandBody method path body = expandBody method path other := by
  rw [expandBody_eq, expandBody_eq]
  generalize RequestBody.payloads body = payloads at h ⊢
  generalize RequestBody.payloads other = payloads' at h ⊢
  cases h with
  | nil => rfl
  | @cons first first' rest rest' hfirst hrest =>
    obtain ⟨mediaType, node⟩ := first
    obtain ⟨mediaType', node'⟩ := first'
    obtain ⟨rfl, hnode⟩ : mediaType = mediaType' ∧ node.Agrees node' := hfirst
    cases hrest with
    | nil => simp only [expandType_congr hnode]
    | cons _ _ => rfl

/-- The response of an operation is its last success payload, if there is one. -/
theorem expandResponse_eq (method path : String) (operation : Operation) :
    expandResponse method path operation.responses =
      List.getLast? <$> operation.successPayloads.mapM (expandPayload method path) := by
  unfold Operation.successPayloads expandResponse
  generalize (operation.responses.get? "200").bind (·.content) = content
  cases content with
  | none => rfl
  | some content => exact (map_eq_pure_bind _ _).symm

theorem expandResponse_congr {operation other : Operation}
    (h : EntriesAgree Descriptor.Agrees operation.successPayloads other.successPayloads)
    (method path : String) :
    expandResponse method path operation.responses =
      expandResponse method path other.responses := by
  rw [expandResponse_eq, expandResponse_eq]
  congr 1
  apply Except.mapM_eq_mapM_of_forall₂
  refine h.imp ?_
  rintro ⟨mediaType, node⟩ ⟨mediaType', node'⟩ ⟨hmediaType, hnode⟩
  unfold expandPayload
  rw [show mediaType = mediaType' from hmediaType, expandType_congr hnode]

theorem expandEndpoint_congr {item other : PathItem} {operation operation' : Operation}
    (hsummary : item.summary = other.summary)
    (hparameters : List.Forall₂ Parameter.Agrees item.parameters other.parameters)
    (h : operation.Agrees operation') :
    expandEndpoint group path item method operation =
      expandEndpoint group path other method operation' := by
  have hdeclared : (mergeParameters item.parameters operation.parameters).mapM
        (expandParameter method.upperName path) =
      (mergeParameters other.parameters operation'.parameters).mapM
        (expandParameter method.upperName path) := by
    apply Except.mapM_eq_mapM_of_forall₂
    refine (mergeParameters_agree hparameters h.parameters).imp ?_
    intro parameter parameter' hagrees
    exact expandParameter_congr hagrees _ path
  have hdescription : describeOperation item operation = describeOperation other operation' := by
    unfold describeOperation
    rw [h.summary, h.description, hsummary]
  unfold expandEndpoint
  rw [hdeclared, expandBody_congr h.body, expandResponse_congr h.response, hdescription]

theorem expandGroup_congr {item other : PathItem} (h : item.Agrees other)
    (seen : Dict String String) (path : String) :
    expandGroup seen path item = expandGroup seen path other := by
  unfold expandGroup
  rw [h.unsupportedKeys]
  cases other.unsupportedKeys with
  | cons key keys => rfl
  | nil =>
    dsimp only
    cases seen.get? (groupName path) with
    | some first => rfl
    | none =>
      show (_ >>= _) = (_ >>= _)
      congr 1
      apply Except.mapM_eq_mapM_of_forall₂
      refine h.operations.imp ?_
      rintro ⟨method, operation⟩ ⟨method', operation'⟩ ⟨rfl, hoperation⟩
      exact expandEndpoint_congr h.summary h.parameters hoperation

/-- The groups of two lists of path items that agree, whichever groups come before them. -/
theorem expandGroupsFrom_congr {entries others : List (String × PathItem)}
    (h : EntriesAgree PathItem.Agrees entries others) (seen : Dict String String) :
    expandGroupsFrom seen entries = expandGroupsFrom seen others := by
  -- The first groups agree in full, so the names that are taken for the rest agree too.
  induction h generalizing seen with
  | nil => rfl
  | @cons entry other entries others hfirst _ ih =>
    obtain ⟨path, item⟩ := entry
    obtain ⟨path', item'⟩ := other
    obtain ⟨rfl, hitem⟩ : path = path' ∧ item.Agrees item' := hfirst
    rw [expandGroupsFrom, expandGroupsFrom, expandGroup_congr hitem]
    simp only [ih]

/-! ## Responses under other codes -/

/-- An operation with a response of one's choice under a code. -/
def Operation.answering (operation : Operation) (code : String) (response : Response) : Operation :=
  { operation with responses := operation.responses.insert code response }

/-- A path item with a response of one's choice under a code of one of its operations. -/
def PathItem.answering (item : PathItem) (method : Method) (operation : Operation) (code : String)
    (response : Response) : PathItem :=
  { item with operations := item.operations.insert method (operation.answering code response) }

/-- The payloads of a response under another code than that of success are not looked at, whatever
they are. -/
theorem Operation.agrees_answering (operation : Operation) {code : String} (response : Response)
    (hcode : code ≠ "200") : (operation.answering code response).Agrees operation := by
  have hpayloads : (operation.answering code response).successPayloads =
      operation.successPayloads := by
    unfold Operation.successPayloads Operation.answering
    rw [Dict.get?_insert, if_neg hcode.symm]
  exact { Agrees.refl operation with response := by rw [hpayloads]; exact .refl .refl _ }

theorem PathItem.agrees_answering {item : PathItem} {operation : Operation} {code : String}
    (response : Response) (hoperation : item.operations.get? method = some operation)
    (hcode : code ≠ "200") : (item.answering method operation code response).Agrees item :=
  { Agrees.refl item with
    operations := Dict.entriesAgree_insert hoperation (operation.agrees_answering response hcode)
      .refl }

/-- **What endpoints depend on.** Two maps of paths give the same endpoints or the same fault, and
report the same events, in the words of any vocabulary if they have the same paths in order and
their items agree: these have the same summaries, unsupported keys and methods, their operations the
same summaries and descriptions, and parameters, bodies and success responses are the same but for
descriptions. Any response under another code than that of success can be added to any operation, or
put in the place of one that is there, and makes no difference. -/
theorem spelledEndpoints_congr (v : Vocabulary) (paths : Dict String PathItem) :
    (∀ others : Dict String PathItem, EntriesAgree PathItem.Agrees paths.entries others.entries →
      spelledEndpoints v paths = spelledEndpoints v others) ∧
      ∀ path item method operation code response, paths.get? path = some item →
        item.operations.get? method = some operation → code ≠ "200" →
        spelledEndpoints v (paths.insert path (item.answering method operation code response)) =
          spelledEndpoints v paths := by
  have hcongr : ∀ entries others : Dict String PathItem,
      EntriesAgree PathItem.Agrees entries.entries others.entries →
        spelledEndpoints v entries = spelledEndpoints v others := by
    intro entries others h
    rw [spelledEndpoints_eq, spelledEndpoints_eq, expandEndpoints, expandEndpoints,
      expandGroupsFrom_congr h]
  refine ⟨hcongr paths, ?_⟩
  intro path item method operation code response hitem hoperation hcode
  apply hcongr
  exact Dict.entriesAgree_insert hitem (PathItem.agrees_answering response hoperation hcode) .refl

/-- The only path of a document, with a note wherever there can be one that leaves no trace. -/
def notedPaths (note : Option String) : Dict String PathItem :=
  Dict.ofList [("/pets/\x7bid\x7d", {
    description := note
    operations := Dict.ofList [(.put, { taggedOperation with
      parameters := taggedOperation.parameters.map fun parameter =>
        { parameter with
          description := note
          schema := { parameter.schema with description := note } } })] })]

/-- A response that could not be one of success: it is no JSON, and what it holds has no type. -/
def plainResponse : Response where
  content := some <| Dict.ofList [("text/plain", {})]

theorem spelledEndpoints_congr_noted :
    ∃ groups item operation, (notedPaths none).get? "/pets/\x7bid\x7d" = some item ∧
      item.operations.get? .put = some operation ∧
      (spelledEndpoints {} (notedPaths none)).result = .ok groups ∧
      EntriesAgree PathItem.Agrees (notedPaths none).entries (notedPaths (some "a note")).entries ∧
      (spelledEndpoints {} (notedPaths (some "a note"))).result = .ok groups ∧
      (spelledEndpoints {} ((notedPaths none).insert "/pets/\x7bid\x7d"
        (item.answering .put operation "500" plainResponse))).result = .ok groups := by
  have hok : (spelledEndpoints {} (notedPaths none)).result.toOption.isSome := by decide +kernel
  obtain ⟨groups, hgroups⟩ := Except.exists_eq_ok_of_isSome hok
  obtain ⟨hnoted, hplain⟩ := spelledEndpoints_congr {} (notedPaths none)
  have hagrees : EntriesAgree PathItem.Agrees (notedPaths none).entries
      (notedPaths (some "a note")).entries := by
    refine .cons ⟨rfl, rfl, rfl, .nil, .cons ⟨rfl, rfl, rfl, ?_, .refl .refl _, .refl .refl _⟩ .nil⟩
      .nil
    exact .cons ⟨rfl, rfl, rfl, rfl, rfl, rfl, rfl, rfl⟩
      (.cons ⟨rfl, rfl, rfl, rfl, rfl, rfl, rfl, rfl⟩ .nil)
  refine ⟨groups, _, _, rfl, rfl, hgroups, hagrees, ?_, ?_⟩
  · rw [← hnoted _ hagrees]
    exact hgroups
  · rw [hplain "/pets/\x7bid\x7d" _ .put _ "500" plainResponse rfl rfl (by decide)]
    exact hgroups

end ApiStencil

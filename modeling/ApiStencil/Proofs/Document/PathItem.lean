import ApiStencil.Document.Shape
import ApiStencil.Proofs.Decoding.Mapping
import ApiStencil.Proofs.Dict
import ApiStencil.Proofs.Endpoint.Groups
import ApiStencil.Yaml.Scalar

/-!
# The keys of path items

A path item is read entry by entry, and a key may come more than once. The lower-case names of the
methods give operations, and three more keys are read. Every other key is passed over with its
value; unless it is tolerated it is remembered, and then its path gives no endpoints.

## Main definitions

* `PathEntry`: what an entry of a path item is read as
* `PathItem.IsKnownKey`: a key that is read or tolerated
* `PathItem.Collects`: what a path item has from some entries

## Main results

* `PathItem.absorb_eq_ok_iff`: what one entry is read as
* `PathItem.read_eq_ok_iff`: a path item is read from its entries
* `PathItem.read_congr`: values that are passed over make no difference
* `PathItem.read_classifies`: the keys of a path item, and the endpoints that depend on them
-/

namespace ApiStencil

variable {σ : Type} [ScalarForm σ] {site : Site σ} {v : Vocabulary}

namespace PathItem

/-- The keys of operations. -/
def methodKeys : List String :=
  ["get", "put", "post", "delete", "options", "head", "patch", "trace"]

/-- The keys whose values are read. -/
def readKeys : List String := methodKeys ++ ["summary", "description", "parameters"]

/-- A key that a path item may have: it is read, or it is one of those that mean nothing. -/
def IsKnownKey (key : String) : Prop :=
  key ∈ readKeys ∨ key = "servers" ∨ ['x', '-'] <+: key.toList

instance (key : String) : Decidable (IsKnownKey key) :=
  inferInstanceAs (Decidable (_ ∨ _))

theorem tolerates_iff {key : String} (h : key ∉ readKeys) :
    tolerates key = true ↔ IsKnownKey key := by
  have hextension : "x-".isPrefixOf key = true ↔ ['x', '-'] <+: key.toList :=
    String.startsWith_string_iff
  simp [tolerates, IsKnownKey, h, hextension]

end PathItem

theorem Method.name_of_ofName? {key : String} {method : Method}
    (h : Method.ofName? key = some method) : method.name = key :=
  of_decide_eq_true (List.find?_some h :)

theorem Method.name_mem_methodKeys (method : Method) : method.name ∈ PathItem.methodKeys := by
  cases method <;> decide

theorem Method.ofName?_eq_none_iff {key : String} :
    Method.ofName? key = none ↔ key ∉ PathItem.methodKeys := by
  constructor
  · intro h hmem
    have hall : ∀ key ∈ PathItem.methodKeys, Method.ofName? key ≠ none := by decide +kernel
    exact hall key hmem h
  · rw [Option.eq_none_iff_forall_ne_some]
    intro h method hmethod
    exact h (name_of_ofName? hmethod ▸ name_mem_methodKeys method)

/-! ## Entries -/

/-- What an entry of a path item is read as: its key, and its value unless that is passed over. -/
inductive PathEntry where
  | operation (method : Method) (operation : Operation)
  | summary (text : Option String)
  | description (text : Option String)
  | parameters (parameters : List Parameter)
  | other (key : String) (h : key ∉ PathItem.readKeys)

namespace PathEntry

def key : PathEntry → String
  | operation method _ => method.name
  | summary _ => "summary"
  | description _ => "description"
  | parameters _ => "parameters"
  | other key _ => key

def operation? (method : Method) : PathEntry → Option Operation
  | operation m made => if m = method then some made else none
  | _ => none

def summary? : PathEntry → Option (Option String)
  | summary text => some text
  | _ => none

def description? : PathEntry → Option (Option String)
  | description text => some text
  | _ => none

def parameters? : PathEntry → Option (List Parameter)
  | parameters made => some made
  | _ => none

/-- The value of an entry is read, or passed over and then not cut short. -/
def ValueRead (site : Site σ) (value : Node σ) (before : Nat) (entry : PathEntry) (after : Nat) :
    Prop :=
  match entry with
  | operation _ made => (Operation.read site value).run before = .ok (made, after)
  | summary text | description text =>
    (readOptional readText site value).run before = .ok (text, after)
  | parameters made => (readList Parameter.read site value).run before = .ok (made, after)
  | other _ _ => value.isWhole = true ∧ before = after

/-- A key and a value are read as an entry of a path item. -/
def IsReadFrom (site : Site σ) (key value : Node σ) (before : Nat) (entry : PathEntry)
    (after : Nat) : Prop :=
  ∃ mid, (readText site key).run before = .ok (entry.key, mid) ∧
    entry.ValueRead (site.step (keyStep key)) value mid after

end PathEntry

namespace PathItem

/-- A path item with one more entry. -/
def add (item : PathItem) : PathEntry → PathItem
  | .operation method made => { item with operations := item.operations.insert method made }
  | .summary text => { item with summary := text }
  | .description text => { item with description := text }
  | .parameters made => { item with parameters := made }
  | .other key _ =>
    { item with
      unsupportedKeys := item.unsupportedKeys ++ [key].filter fun key => ¬ IsKnownKey key }

/-- Reads the value of a key into a path item. -/
def absorbNamed (site : Site σ) (item : PathItem) (name : String) (value : Node σ) :
    Reading PathItem :=
  match Method.ofName? name with
  | some method => do
    let operation ← Operation.read site value
    return { item with operations := item.operations.insert method operation }
  | none =>
    if name = "summary" then
      return { item with summary := ← readOptional readText site value }
    else if name = "description" then
      return { item with description := ← readOptional readText site value }
    else if name = "parameters" then
      return { item with parameters := ← readList Parameter.read site value }
    else do
      ignoreValue value
      if PathItem.tolerates name then return item
      else return { item with unsupportedKeys := item.unsupportedKeys ++ [name] }

theorem absorb_eq (site : Site σ) (item : PathItem) (key value : Node σ) :
    absorb site item key value =
      readText site key >>= fun name => absorbNamed (site.step (keyStep key)) item name value :=
  rfl

section Named

variable (site : Site σ) (item : PathItem) (value : Node σ)

theorem absorbNamed_method {name : String} {method : Method}
    (h : Method.ofName? name = some method) : absorbNamed site item name value =
      (fun made => item.add (.operation method made)) <$> Operation.read site value := by
  simp only [absorbNamed, h, map_eq_pure_bind]
  rfl

theorem absorbNamed_summary : absorbNamed site item "summary" value =
    (fun text => item.add (.summary text)) <$> readOptional readText site value := by
  rw [map_eq_pure_bind]
  rfl

theorem absorbNamed_description : absorbNamed site item "description" value =
    (fun text => item.add (.description text)) <$> readOptional readText site value := by
  rw [map_eq_pure_bind]
  rfl

theorem absorbNamed_parameters : absorbNamed site item "parameters" value =
    (fun made => item.add (.parameters made)) <$> readList Parameter.read site value := by
  rw [map_eq_pure_bind]
  rfl

theorem absorbNamed_other {name : String} (h : name ∉ readKeys) :
    absorbNamed site item name value =
      (fun _ => item.add (.other name h)) <$> ignoreValue value := by
  have hmethod : Method.ofName? name = none :=
    Method.ofName?_eq_none_iff.mpr fun hmem => h (List.mem_append_left _ hmem)
  have hsummary : name ≠ "summary" := fun heq => h (heq ▸ by decide)
  have hdescription : name ≠ "description" := fun heq => h (heq ▸ by decide)
  have hparameters : name ≠ "parameters" := fun heq => h (heq ▸ by decide)
  rw [absorbNamed, hmethod, map_eq_pure_bind]
  simp only [hsummary, hdescription, hparameters, if_false, add]
  congr 1
  funext _
  by_cases hknown : IsKnownKey name
  · rw [if_pos ((tolerates_iff h).mpr hknown), List.filter_cons_of_neg (by simpa using hknown)]
    simp
  · rw [if_neg fun htolerated => hknown ((tolerates_iff h).mp htolerated),
      List.filter_cons_of_pos (by simpa using hknown)]
    rfl

end Named

/-- What one entry is read as. -/
theorem absorb_eq_ok_iff {item made : PathItem} {key value : Node σ} {before after : Nat} :
    (absorb site item key value).run before = .ok (made, after) ↔
      ∃ entry, PathEntry.IsReadFrom site key value before entry after ∧ item.add entry = made := by
  rw [absorb_eq, Reading.bind_eq_ok_iff]
  constructor
  · rintro ⟨name, mid, hname, h⟩
    by_cases hother : name ∉ readKeys
    · rw [absorbNamed_other _ _ _ hother, Reading.map_eq_ok_iff] at h
      obtain ⟨_, hvalue, hmade⟩ := h
      exact ⟨.other name hother, ⟨mid, hname, run_ignoreValue_eq_ok_iff.mp hvalue⟩, hmade⟩
    rcases List.mem_append.mp (not_not.mp hother) with hmethod | hfield
    · obtain ⟨method, hmethod⟩ : ∃ method, Method.ofName? name = some method := by
        rw [← Option.ne_none_iff_exists', ne_eq, Method.ofName?_eq_none_iff]
        exact not_not.mpr hmethod
      rw [absorbNamed_method _ _ _ hmethod, Reading.map_eq_ok_iff] at h
      obtain ⟨operation, hvalue, hmade⟩ := h
      rw [← Method.name_of_ofName? hmethod] at hname
      exact ⟨.operation method operation, ⟨mid, hname, hvalue⟩, hmade⟩
    · simp only [List.mem_cons, List.not_mem_nil, or_false] at hfield
      rcases hfield with rfl | rfl | rfl
      · rw [absorbNamed_summary, Reading.map_eq_ok_iff] at h
        obtain ⟨text, hvalue, hmade⟩ := h
        exact ⟨.summary text, ⟨mid, hname, hvalue⟩, hmade⟩
      · rw [absorbNamed_description, Reading.map_eq_ok_iff] at h
        obtain ⟨text, hvalue, hmade⟩ := h
        exact ⟨.description text, ⟨mid, hname, hvalue⟩, hmade⟩
      · rw [absorbNamed_parameters, Reading.map_eq_ok_iff] at h
        obtain ⟨made, hvalue, hmade⟩ := h
        exact ⟨.parameters made, ⟨mid, hname, hvalue⟩, hmade⟩
  · rintro ⟨entry, ⟨mid, hname, hvalue⟩, rfl⟩
    refine ⟨entry.key, mid, hname, ?_⟩
    cases entry with
    | operation method made =>
      rw [PathEntry.key, absorbNamed_method _ _ _ (Method.ofName?_name method)]
      exact Reading.map_eq_ok_iff.mpr ⟨made, hvalue, rfl⟩
    | summary text =>
      rw [PathEntry.key, absorbNamed_summary]
      exact Reading.map_eq_ok_iff.mpr ⟨text, hvalue, rfl⟩
    | description text =>
      rw [PathEntry.key, absorbNamed_description]
      exact Reading.map_eq_ok_iff.mpr ⟨text, hvalue, rfl⟩
    | parameters made =>
      rw [PathEntry.key, absorbNamed_parameters]
      exact Reading.map_eq_ok_iff.mpr ⟨made, hvalue, rfl⟩
    | other key h =>
      rw [PathEntry.key, absorbNamed_other _ _ _ h]
      exact Reading.map_eq_ok_iff.mpr ⟨(), run_ignoreValue_eq_ok_iff.mpr hvalue, rfl⟩

/-! ## What is collected -/

theorem getLast?_filterMap_concat {α β : Type} (f : α → Option β) (as : List α) (a : α) :
    ((as ++ [a]).filterMap f).getLast? = (f a).or (as.filterMap f).getLast? := by
  rw [List.filterMap_append, List.getLast?_append]
  cases h : f a <;> simp [h]

/-- What a path item has from some entries: an operation for each key of a method, in the order of
their first entries, and each value from the last entry with its key. The keys that are neither read
nor tolerated are kept as they come. -/
structure Collects (item : PathItem) (entries : List PathEntry) : Prop where
  methods : item.operations.keys.map Method.name =
    ((entries.map PathEntry.key).filter (· ∈ methodKeys)).eraseDups
  operations : ∀ method, item.operations.get? method =
    (entries.filterMap (PathEntry.operation? method)).getLast?
  summary : item.summary = (entries.filterMap PathEntry.summary?).getLast?.getD none
  description : item.description = (entries.filterMap PathEntry.description?).getLast?.getD none
  parameters : item.parameters = (entries.filterMap PathEntry.parameters?).getLast?.getD []
  unsupportedKeys : item.unsupportedKeys =
    (entries.map PathEntry.key).filter fun key => ¬ IsKnownKey key

section Add

variable (item : PathItem) (entry : PathEntry)

theorem operations_add_of_notMem (h : entry.key ∉ methodKeys) :
    (item.add entry).operations = item.operations := by
  cases entry with
  | operation method made => exact absurd (Method.name_mem_methodKeys method) h
  | _ => rfl

theorem get?_operations_add (method : Method) :
    (item.add entry).operations.get? method =
      (entry.operation? method).or (item.operations.get? method) := by
  cases entry with
  | operation m made =>
    rw [add, Dict.get?_insert, PathEntry.operation?]
    by_cases hm : method = m
    · rw [if_pos hm, if_pos hm.symm]
      rfl
    · rw [if_neg hm, if_neg fun heq => hm heq.symm]
      rfl
  | _ => rfl

theorem summary_add : (item.add entry).summary = entry.summary?.getD item.summary := by
  cases entry <;> rfl

theorem description_add :
    (item.add entry).description = entry.description?.getD item.description := by
  cases entry <;> rfl

theorem parameters_add : (item.add entry).parameters = entry.parameters?.getD item.parameters := by
  cases entry <;> rfl

theorem unsupportedKeys_add : (item.add entry).unsupportedKeys =
    item.unsupportedKeys ++ [entry.key].filter fun key => ¬ IsKnownKey key := by
  have hread : ∀ key ∈ readKeys, [key].filter (fun key => ¬ IsKnownKey key) = [] := by
    intro key hkey
    exact List.filter_cons_of_neg (by simp [IsKnownKey, hkey])
  cases entry with
  | operation method made =>
    rw [PathEntry.key, hread _ (List.mem_append_left _ (Method.name_mem_methodKeys method)),
      List.append_nil]
    rfl
  | other key _ => rfl
  | _ =>
    rw [PathEntry.key, hread _ (by decide), List.append_nil]
    rfl

end Add

/-- A path item with one more entry has what that entry gives. -/
theorem Collects.add {item : PathItem} {entries : List PathEntry} (h : item.Collects entries)
    (last : PathEntry) : (item.add last).Collects (entries ++ [last]) where
  methods := by
    rw [List.map_append, List.filter_append]
    by_cases hkey : last.key ∈ methodKeys
    · obtain ⟨method, made, rfl⟩ : ∃ method made, last = .operation method made := by
        cases last with
        | operation method made => exact ⟨method, made, rfl⟩
        | other key hother => exact absurd (List.mem_append_left _ hkey) hother
        | summary _ => exact absurd hkey (show "summary" ∉ methodKeys by decide)
        | description _ => exact absurd hkey (show "description" ∉ methodKeys by decide)
        | parameters _ => exact absurd hkey (show "parameters" ∉ methodKeys by decide)
      have hmem : method ∈ item.operations.keys ↔
          method.name ∈ (entries.map PathEntry.key).filter (· ∈ methodKeys) := by
        rw [← List.mem_map_of_injective Method.name_injective, h.methods, List.mem_eraseDups]
      rw [List.map_singleton, List.filter_cons_of_pos (by simpa using hkey), List.filter_nil,
        PathItem.add, PathEntry.key, eraseDups_concat, Dict.keys_insert, ← h.methods]
      by_cases hold : method ∈ item.operations.keys
      · rw [if_pos hold, if_pos (hmem.mp hold)]
      · rw [if_neg hold, if_neg (hold ∘ hmem.mpr), List.map_append]
        rfl
    · rw [operations_add_of_notMem _ _ hkey, List.map_singleton,
        List.filter_cons_of_neg (by simpa using hkey), List.filter_nil, List.append_nil, h.methods]
  operations method := by
    rw [get?_operations_add, h.operations, getLast?_filterMap_concat]
  summary := by
    rw [summary_add, h.summary, getLast?_filterMap_concat, Option.getD_or]
  description := by
    rw [description_add, h.description, getLast?_filterMap_concat, Option.getD_or]
  parameters := by
    rw [parameters_add, h.parameters, getLast?_filterMap_concat, Option.getD_or]
  unsupportedKeys := by
    rw [unsupportedKeys_add, h.unsupportedKeys, List.map_append, List.filter_append]
    rfl

theorem collects_foldl (entries : List PathEntry) : (entries.foldl add {}).Collects entries := by
  induction entries using List.reverseRecOn with
  | nil => exact ⟨rfl, fun _ => rfl, rfl, rfl, rfl, rfl⟩
  | append_singleton entries last ih =>
    rw [List.foldl_concat]
    exact ih.add last

/-- There is only one path item that has what some entries give. -/
theorem Collects.unique {item other : PathItem} {entries : List PathEntry}
    (h : item.Collects entries) (h' : other.Collects entries) : item = other := by
  have hkeys : item.operations.keys = other.operations.keys :=
    List.map_injective_iff.mpr Method.name_injective (h.methods.trans h'.methods.symm)
  have hoperations : item.operations = other.operations :=
    Dict.eq_of_get? hkeys fun method => (h.operations method).trans (h'.operations method).symm
  cases item
  cases other
  congr
  · exact h.summary.trans h'.summary.symm
  · exact h.description.trans h'.description.symm
  · exact h.parameters.trans h'.parameters.symm
  · exact h.unsupportedKeys.trans h'.unsupportedKeys.symm

theorem read_eq_ok_iff {node : Node σ} {count last : Nat} {item : PathItem} :
    (PathItem.read site node).run count = .ok (item, last) ↔ ∃ entries,
      MappingRead (PathEntry.IsReadFrom site) site node count entries last ∧
        item.Collects entries := by
  rw [PathItem.read, readMapping_eq_ok_iff fun _ _ _ _ _ _ => absorb_eq_ok_iff]
  refine exists_congr fun entries => and_congr_right fun _ => ?_
  constructor
  · rintro rfl
    exact collects_foldl entries
  · exact (collects_foldl entries).unique

/-! ## Values that are passed over -/

/-- Whenever the key is read at all, its value is not. -/
def PassesOver (site : Site σ) (key : Node σ) : Prop :=
  ∀ count name last, (readText site key).run count = .ok (name, last) → name ∉ readKeys

/-- Entries with the same keys, and with the same values unless these are passed over. A value that
is passed over may be any other one that is not cut short. -/
def AgreeOnRead (site : Site σ) (nodes others : List (Node σ × Node σ)) : Prop :=
  List.Forall₂ (fun entry other => entry.1 = other.1 ∧
    (entry.2 = other.2 ∨ PassesOver site entry.1 ∧ entry.2.isWhole = other.2.isWhole)) nodes others

theorem absorb_congr {item : PathItem} {key value other : Node σ} (hkey : PassesOver site key)
    (hwhole : value.isWhole = other.isWhole) :
    absorb site item key value = absorb site item key other := by
  rw [absorb_eq, absorb_eq]
  apply StateT.ext
  intro count
  rw [StateT.run_bind, StateT.run_bind]
  cases hname : (readText site key).run count with
  | error fault => rfl
  | ok found =>
    obtain ⟨name, mid⟩ := found
    have hignored : (ignoreValue value : Reading Unit) = ignoreValue other := by
      rw [ignoreValue, hwhole]
      rfl
    show StateT.run (absorbNamed _ _ name value) mid = StateT.run (absorbNamed _ _ name other) mid
    rw [absorbNamed_other _ _ _ (hkey _ _ _ hname), absorbNamed_other _ _ _ (hkey _ _ _ hname),
      hignored]

theorem read_congr {tag : Option String} {nodes others : List (Node σ × Node σ)}
    (h : AgreeOnRead site nodes others) :
    PathItem.read site (.mapping tag nodes) = PathItem.read site (.mapping tag others) := by
  refine readMapping_congr (h.imp ?_)
  rintro ⟨key, value⟩ ⟨key', value'⟩ ⟨rfl, hvalue⟩
  refine ⟨rfl, fun built => ?_⟩
  rcases hvalue with rfl | ⟨hkey, hwhole⟩
  · rfl
  · exact absorb_congr hkey hwhole

/-! ## Endpoints -/

/-- Paths that give endpoints have known keys only. -/
theorem isKnownKey_of_spelledEndpoints {paths : Dict String PathItem}
    {groups : List (EndpointGroup String String)} {item : PathItem} {entries : List PathEntry}
    (h : (spelledEndpoints v paths).result = .ok groups) (hitem : item ∈ paths.values)
    (hentries : item.Collects entries) : ∀ entry ∈ entries, IsKnownKey entry.key := by
  have hsupported := ((spelledEndpoints_result v paths).1.mp ⟨groups, h⟩)
  obtain ⟨⟨path, item⟩, hmem, rfl⟩ := List.mem_map.mp hitem
  have hkeys := hsupported.keys _ hmem
  rw [hentries.unsupportedKeys, List.filter_eq_nil_iff] at hkeys
  intro entry hentry
  have hkey := hkeys entry.key (List.mem_map_of_mem hentry)
  simpa using hkey

/-- The first key that a path may not have ends the run, unless an earlier path did. -/
theorem spelledEndpoints_of_collects {paths earlier : Dict String PathItem} {path : String}
    {item : PathItem} {later : List (String × PathItem)} {before after : List PathEntry}
    {entry : PathEntry} (hpaths : paths.entries = earlier.entries ++ (path, item) :: later)
    (hitem : item.Collects (before ++ entry :: after))
    (hbefore : ∀ other ∈ before, IsKnownKey other.key) (hentry : ¬ IsKnownKey entry.key) :
    (∀ groups, (spelledEndpoints v earlier).result = .ok groups →
      (spelledEndpoints v paths).result = .error (.unsupportedPathItemKey entry.key path)) ∧
    ∀ fault, (spelledEndpoints v earlier).result = .error fault →
      (spelledEndpoints v paths).result = .error fault := by
  have hfaults : endpointFaults paths =
      endpointFaults earlier ++ endpointFaultsFrom earlier.keys ((path, item) :: later) := by
    unfold endpointFaults
    rw [hpaths, endpointFaultsFrom_append]
    rfl
  have hstops := stopsAtFirst_spelledEndpoints v paths
  have hearlier := stopsAtFirst_spelledEndpoints v earlier
  constructor
  · intro groups hgroups
    have hnone : endpointFaults earlier = [] := hearlier.exists_ok_iff.mp ⟨groups, hgroups⟩
    have hknown : (before.map PathEntry.key).filter (fun key => ¬ IsKnownKey key) = [] := by
      rw [List.filter_eq_nil_iff]
      intro key hkey
      obtain ⟨other, hother, rfl⟩ := List.mem_map.mp hkey
      simpa using hbefore other hother
    have hkeys : item.unsupportedKeys.head? = some entry.key := by
      rw [hitem.unsupportedKeys, List.map_append, List.filter_append, hknown, List.map_cons,
        List.filter_cons_of_pos (by simpa using hentry)]
      rfl
    obtain ⟨more, hmore⟩ := List.head?_eq_some_iff.mp hkeys
    rw [hstops.eq_error_iff, hfaults, hnone, endpointFaultsFrom, pathFaults, hmore]
    rfl
  · intro fault hfault
    rw [hstops.eq_error_iff, hfaults, List.head?_append, hearlier.eq_error_iff.mp hfault]
    rfl

/-- **The keys of path items.** A node is read as a path item exactly if its entries are read one
after the other, and then the path item has what they give: operations for the keys of methods in
the order of their first entries, the value of the last entry with a key, and all keys that are
neither read nor tolerated. Values under other keys than those that are read make no difference. The
paths of a document are read so, member by member. They give endpoints only if all keys are known;
otherwise the run ends with the first key that is not of the first path that has one, unless it ends
before that path. -/
theorem read_classifies (v : Vocabulary) (site : Site σ) :
    (∀ node count item last, (PathItem.read site node).run count = .ok (item, last) ↔
      ∃ entries, MappingRead (PathEntry.IsReadFrom site) site node count entries last ∧
        item.Collects entries) ∧
    (∀ tag nodes others, AgreeOnRead site nodes others →
      PathItem.read site (.mapping tag nodes) = PathItem.read site (.mapping tag others)) ∧
    (∀ node count paths last,
      (readDict readText PathItem.read site node).run count = .ok (paths, last) ↔
        ∃ members, MappingRead (MemberRead readText PathItem.read site) site node count members
          last ∧ Dict.ofList members = paths) ∧
    ∀ paths : Dict String PathItem,
      (∀ groups, (spelledEndpoints v paths).result = .ok groups →
        ∀ item ∈ paths.values, ∀ entries, item.Collects entries →
          ∀ entry ∈ entries, IsKnownKey entry.key) ∧
      ∀ (earlier : Dict String PathItem) path item later before entry after,
        paths.entries = earlier.entries ++ (path, item) :: later →
        item.Collects (before ++ entry :: after) →
        (∀ other ∈ before, IsKnownKey other.key) → ¬ IsKnownKey entry.key →
        (∀ groups, (spelledEndpoints v earlier).result = .ok groups →
          (spelledEndpoints v paths).result = .error (.unsupportedPathItemKey entry.key path)) ∧
        ∀ fault, (spelledEndpoints v earlier).result = .error fault →
          (spelledEndpoints v paths).result = .error fault := by
  refine ⟨fun _ _ _ _ => read_eq_ok_iff, fun _ _ _ => read_congr,
    fun _ _ _ _ => readDict_eq_ok_iff, fun paths => ⟨?_, ?_⟩⟩
  · intro groups hgroups item hitem entries hentries
    exact isKnownKey_of_spelledEndpoints hgroups hitem hentries
  · intro earlier path item later before entry after hpaths hitem hbefore hentry
    exact spelledEndpoints_of_collects hpaths hitem hbefore hentry

/-- A word of a text in YAML. -/
def wordNode (word : String) : Node Yaml.Scalar := .scalar { text := word, style := .plain }

/-- The nodes of a path item that gives a method twice and has a note in three places. -/
def healthNodes (note : String) (more : List String) : List (Node Yaml.Scalar × Node Yaml.Scalar) :=
  [(wordNode "get", .mapping none [(wordNode "summary", wordNode "Old")]),
    (wordNode "x-note", wordNode note),
    (wordNode "servers", wordNode note),
    (wordNode "get", .mapping none [(wordNode "summary", wordNode "New")])] ++
    more.map fun key => (wordNode key, wordNode note)

/-- The entries of that path item. -/
def healthEntries (more : List PathEntry) : List PathEntry :=
  [.operation .get { summary := some "Old" }, .other "x-note" (by decide),
    .other "servers" (by decide), .operation .get { summary := some "New" }] ++ more

/-- That path item on the only path of a document. -/
def healthPaths (more : List PathEntry) : Dict String PathItem :=
  Dict.ofList [("/health", (healthEntries more).foldl add {})]

theorem passesOver_wordNode {word : String} (h : word ∉ readKeys) :
    PassesOver {} (wordNode word) := by
  intro count name last hread
  have hword : Except.ok (word, count) = Except.ok (name, last) := hread
  cases hword
  exact h

/-- The method in upper case is no method, and a reference is no part of a path item. -/
theorem read_classifies_health :
    ∃ item entries, (PathItem.read {} (.mapping none (healthNodes "a" ["GET", "$ref"]))).run 0 =
        .ok (item, 0) ∧ item.Collects entries ∧
      (item.operations.get? .get).map (·.summary) = some (some "New") ∧
      item.unsupportedKeys = ["GET", "$ref"] ∧
      PathItem.read {} (.mapping none (healthNodes "a" ["GET", "$ref"])) =
        PathItem.read {} (.mapping none (healthNodes "b" ["GET", "$ref"])) ∧
      (∃ groups, (spelledEndpoints {} (healthPaths [])).result = .ok groups ∧
        ∀ entry ∈ healthEntries [], IsKnownKey entry.key) ∧
      (spelledEndpoints {} (healthPaths
        [.other "GET" (by decide), .other "$ref" (by decide)])).result =
        .error (.unsupportedPathItemKey "GET" "/health") := by
  obtain ⟨hread, hcongr, -, hendpoints⟩ := read_classifies {} ({} : Site Yaml.Scalar)
  have hitem : (PathItem.read {} (.mapping none (healthNodes "a" ["GET", "$ref"]))).run 0 =
      .ok ((healthEntries [.other "GET" (by decide), .other "$ref" (by decide)]).foldl add {},
        0) := by decide +kernel
  obtain ⟨entries, -, hcollects⟩ := (hread _ _ _ _).mp hitem
  have hagree : AgreeOnRead {} (healthNodes "a" ["GET", "$ref"])
      (healthNodes "b" ["GET", "$ref"]) := by
    have hpassed : ∀ word, word ∉ readKeys → PassesOver {} (wordNode word) :=
      fun _ => passesOver_wordNode
    exact .cons ⟨rfl, .inl rfl⟩ (.cons ⟨rfl, .inr ⟨hpassed _ (by decide), rfl⟩⟩
      (.cons ⟨rfl, .inr ⟨hpassed _ (by decide), rfl⟩⟩ (.cons ⟨rfl, .inl rfl⟩
        (.cons ⟨rfl, .inr ⟨hpassed _ (by decide), rfl⟩⟩
          (.cons ⟨rfl, .inr ⟨hpassed _ (by decide), rfl⟩⟩ .nil)))))
  have hok : (spelledEndpoints {} (healthPaths [])).result.toOption.isSome := by decide +kernel
  obtain ⟨groups, hgroups⟩ := Except.exists_eq_ok_of_isSome hok
  refine ⟨_, entries, hitem, hcollects, by decide +kernel, by decide +kernel, hcongr _ _ _ hagree,
    ⟨groups, hgroups, ?_⟩, ?_⟩
  · exact (hendpoints (healthPaths [])).1 groups hgroups _ (List.mem_singleton.mpr rfl) _
      (collects_foldl _)
  · have hfirst := (hendpoints (healthPaths
      [.other "GET" (by decide), .other "$ref" (by decide)])).2 Dict.empty "/health" _ []
      (healthEntries []) (.other "GET" (by decide)) [.other "$ref" (by decide)] rfl
      (collects_foldl _) (by decide) (by decide)
    exact hfirst.1 [] (by decide +kernel)

end PathItem

end ApiStencil

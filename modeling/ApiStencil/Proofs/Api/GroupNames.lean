import ApiStencil.Proofs.Api.Expansion
import ApiStencil.Proofs.Endpoint.Faults
import ApiStencil.Proofs.Model.Faults
import ApiStencil.Proofs.Naming
import Mathlib.Data.List.Nodup
import Mathlib.Logic.Relation

/-!
# Paths with one group name

The group name of a path is put together from its segments, and an empty segment adds nothing to it.
So two paths with a slash between them have the name of the one and then that of the other, and
slashes at the start or the end of a path, or next to another slash, make no difference to its name.
A document can still have two paths that differ only in such slashes. Then the second of them ends
the run, if nothing else has ended it before.

## Main definitions

* `Path.AddsSlash`, `Path.DifferInSlashes`: paths that differ only in slashes that separate nothing
* `documentFaults`: what is wrong with a document, in order
* `faultsBeforeName`: what a run comes to before it looks at the name of a path

## Main results

* `groupName_append_slash`: the name of two paths with a slash between them
* `Path.differInSlashes_iff`: such paths have the same names between their slashes
* `stopsAtFirst_expandDocument`: where the expansion of a document stops
* `groupName_joined`: the names of joined paths, and what comes of a document with two such paths
-/

namespace ApiStencil

/-! ## Paths that differ in slashes -/

namespace Path

/-- The second path is the first one with one more slash that separates nothing: before it, after
it, or next to one of its slashes. -/
inductive AddsSlash : String → String → Prop where
  | leading (path : String) : AddsSlash path ("/" ++ path)
  | trailing (path : String) : AddsSlash path (path ++ "/")
  | repeated (front back : String) : AddsSlash (front ++ "/" ++ back) (front ++ "//" ++ back)

/-- Two paths differ only in leading, trailing and repeated slashes. -/
def DifferInSlashes : String → String → Prop := Relation.EqvGen AddsSlash

theorem append_slash_slash (front back : String) :
    front ++ "//" ++ back = front ++ "/" ++ ("/" ++ back) := by
  apply String.toList_injective
  simp

namespace DifferInSlashes

variable {path other : String}

theorem leading (path : String) : DifferInSlashes ("/" ++ path) path :=
  (Relation.EqvGen.rel _ _ (.leading path)).symm

theorem trailing (path : String) : DifferInSlashes (path ++ "/") path :=
  (Relation.EqvGen.rel _ _ (.trailing path)).symm

/-- What is put together over slashes is the same for paths that differ in slashes. One equation
tells it all: the empty path, which stands between a slash and the next one, adds nothing. -/
theorem map_eq {β : Type} {f : String → β} {join : β → β → β}
    (hjoin : ∀ front back, f (front ++ "/" ++ back) = join (f front) (f back))
    (hleft : ∀ b, join (f "") b = b) (hright : ∀ b, join b (f "") = b)
    (h : DifferInSlashes path other) : f path = f other := by
  have hleading : ∀ path, f ("/" ++ path) = f path := by
    intro path
    have hempty := hjoin "" path
    rwa [String.empty_append, hleft] at hempty
  induction h with
  | rel path other hadds =>
    cases hadds with
    | leading => exact (hleading path).symm
    | trailing =>
      have hempty := hjoin path ""
      rw [String.append_empty, hright] at hempty
      exact hempty.symm
    | repeated front back =>
      rw [append_slash_slash, hjoin, hjoin, hleading]
  | refl => rfl
  | symm _ _ _ ih => exact ih.symm
  | trans _ _ _ _ _ ih ih' => exact ih.trans ih'

/-- Paths still differ in slashes only once they come after the same path. -/
theorem append_left (front : String) (h : DifferInSlashes path other) :
    DifferInSlashes (front ++ "/" ++ path) (front ++ "/" ++ other) := by
  induction h with
  | rel path other hadds =>
    refine .rel _ _ ?_
    cases hadds with
    | leading =>
      exact append_slash_slash front path ▸ AddsSlash.repeated front path
    | trailing =>
      rw [← String.append_assoc]
      exact .trailing _
    | repeated middle back =>
      have hadd := AddsSlash.repeated (front ++ "/" ++ middle) back
      simpa only [String.append_assoc] using hadd
  | refl => exact .refl _
  | symm _ _ _ ih => exact ih.symm
  | trans _ _ _ _ _ ih ih' => exact ih.trans _ _ _ ih'

end DifferInSlashes

/-- The names of joined paths are those of the one and then those of the other. -/
theorem names_append_slash (front back : String) :
    names (front ++ "/" ++ back) = names front ++ names back := by
  have hsegments := segments_append_slash front.toList back.toList
  have hjoined : String.ofList (front.toList ++ '/' :: back.toList) = front ++ "/" ++ back := by
    apply String.toList_injective
    simp
  rw [hjoined, String.ofList_toList, String.ofList_toList] at hsegments
  rw [names, hsegments, List.filter_append, names, names]

theorem ofNames_cons (name : String) {names : List String} (h : names ≠ []) :
    ofNames (name :: names) = name ++ "/" ++ ofNames names :=
  String.intercalate_cons_of_ne_nil h

/-- Segments with and without the empty ones give paths that differ in slashes. -/
theorem differInSlashes_ofNames (segments : List String) :
    DifferInSlashes (ofNames segments) (ofNames (segments.filter (· ≠ ""))) := by
  induction segments with
  | nil => exact .refl _
  | cons segment rest ih =>
    rcases eq_or_ne rest [] with rfl | hrest
    · by_cases hsegment : segment = ""
      · subst hsegment
        exact .refl _
      · rw [List.filter_cons_of_pos (by simpa using hsegment)]
        exact .refl _
    rw [ofNames_cons segment hrest]
    by_cases hsegment : segment = ""
    · rw [List.filter_cons_of_neg (by simpa using hsegment), hsegment, String.empty_append]
      exact (DifferInSlashes.leading _).trans _ _ _ ih
    · rw [List.filter_cons_of_pos (by simpa using hsegment)]
      have hjoined := ih.append_left segment
      rcases eq_or_ne (rest.filter (· ≠ "")) [] with hnone | hsome
      · rw [hnone, show ofNames [] = "" from rfl, String.append_empty] at hjoined
        rw [hnone, show ofNames [segment] = segment from String.intercalate_singleton]
        exact hjoined.trans _ _ _ (DifferInSlashes.trailing segment)
      · rwa [ofNames_cons segment hsome]

/-- Paths differ in slashes only exactly if they have the same names between their slashes. -/
theorem differInSlashes_iff {path other : String} :
    DifferInSlashes path other ↔ names path = names other := by
  constructor
  · exact fun h => h.map_eq names_append_slash (fun _ => by simp) (fun _ => by simp)
  · intro h
    have hnames (path : String) : DifferInSlashes path (ofNames (names path)) := by
      have hsegments : ofNames (segments path) = path := by
        apply String.toList_injective
        rw [ofNames, String.toList_intercalate, segments, List.map_map]
        simp [Function.comp_def]
      have hfilter := differInSlashes_ofNames (segments path)
      rwa [hsegments] at hfilter
    exact (hnames path).trans _ _ _ (h ▸ (hnames other).symm)

instance (path other : String) : Decidable (DifferInSlashes path other) :=
  decidable_of_iff _ differInSlashes_iff.symm

end Path

/-! ## Group names -/

/-- The name of two paths with a slash between them is the name of the one and then the name of the
other. -/
theorem groupName_append_slash (front back : String) :
    groupName (front ++ "/" ++ back) = groupName front ++ groupName back := by
  apply String.toList_injective
  simp [groupName, GroupName.ofPath, List.splitOn_append_cons_self]

@[simp] theorem groupName_empty : groupName "" = "" := by decide

theorem Path.DifferInSlashes.groupName_eq {path other : String}
    (h : Path.DifferInSlashes path other) : groupName path = groupName other :=
  h.map_eq groupName_append_slash (fun _ => by simp) (fun _ => by simp)

/-! ## What is wrong with a document -/

variable {strict : Bool} {document : Document}

/-- What is wrong with a document: with its schemas, and then with its paths. -/
def documentFaults (strict : Bool) (document : Document) : List Fault :=
  modelFaults document.components strict ++ endpointFaults document.paths

/-- The schemas are looked at before the paths, and spelling never fails. -/
theorem stopsAtFirst_expandDocument (v : Vocabulary) (strict : Bool) (document : Document) :
    StopsAtFirst (documentFaults strict document) (expandDocument v strict document).result := by
  rw [expandDocument_eq, Traced.result_map, typeDocument, Traced.result_bind]
  refine StopsAtFirst.map (stopsAtFirst_expandModels.bind fun models _ => ?_)
  rw [Traced.result_bind]
  have hgroups := stopsAtFirst_expandEndpoints document.paths
  exact (List.append_nil (endpointFaults document.paths)) ▸
    hgroups.bind fun groups _ => StopsAtFirst.ok _

/-- What a run comes to before it looks at the name of a path: what is wrong with the schemas, with
the paths before it, and with its own keys. -/
def faultsBeforeName (strict : Bool) (components : Components)
    (before : List (String × PathItem)) (entry : String × PathItem) : List Fault :=
  modelFaults components strict ++
    (endpointFaultsFrom [] before ++
      entry.2.unsupportedKeys.map (.unsupportedPathItemKey · entry.1))

/-- `second` is a path of a document, with an item, and `first` is one of the paths before it. -/
structure Document.Lists (document : Document) (first second : String)
    (before : List (String × PathItem)) (item : PathItem) : Prop where
  entries : ∃ after, document.paths.entries = before ++ (second, item) :: after
  first : first ∈ before.map Prod.fst

/-- One of two paths of a document comes before the other. -/
theorem Document.exists_lists {path other : String} (hpath : path ∈ document.paths.keys)
    (hother : other ∈ document.paths.keys) (hne : path ≠ other) :
    ∃ first second before item, (first = path ∧ second = other ∨ first = other ∧ second = path) ∧
      document.Lists first second before item := by
  obtain ⟨⟨path, item⟩, hmem, rfl⟩ := List.mem_map.mp hpath
  obtain ⟨front, back, hentries⟩ := List.append_of_mem hmem
  rw [Dict.keys, hentries, List.map_append, List.mem_append, List.map_cons, List.mem_cons] at hother
  rcases hother with hfront | rfl | hback
  · exact ⟨other, path, front, item, .inr ⟨rfl, rfl⟩, ⟨back, hentries⟩, hfront⟩
  · exact absurd rfl hne
  · obtain ⟨⟨other, item'⟩, hmem', rfl⟩ := List.mem_map.mp hback
    obtain ⟨middle, after, rfl⟩ := List.append_of_mem hmem'
    refine ⟨path, other, front ++ (path, item) :: middle, item', .inl ⟨rfl, rfl⟩, ⟨after, ?_⟩, ?_⟩
    · rw [hentries, List.append_assoc, List.cons_append]
    · exact List.mem_map_of_mem (List.mem_append_right front (List.mem_cons_self ..))

/-- The name of a path comes after what a run comes to before, and before what is wrong with the
operations of the path and with the paths after it. -/
theorem Document.Lists.exists_documentFaults_eq {first second : String}
    {before : List (String × PathItem)} {item : PathItem}
    (h : document.Lists first second before item) (strict : Bool) :
    ∃ later, documentFaults strict document =
      faultsBeforeName strict document.components before (second, item) ++
        (nameFaults (before.map Prod.fst) second ++ later) := by
  obtain ⟨after, hentries⟩ := h.entries
  refine ⟨item.operations.entries.flatMap (operationFaults second item) ++
    endpointFaultsFrom (before.map Prod.fst ++ [second]) after, ?_⟩
  rw [documentFaults, endpointFaults, hentries, endpointFaultsFrom_append, endpointFaultsFrom,
    pathFaults, List.nil_append, faultsBeforeName]
  simp only [List.append_assoc]

/-- Among paths with different names, one that has the name of another path is the first that has
it. -/
theorem nameFaults_of_mem {before : List String} {first second : String}
    (hnames : (before.map groupName).Nodup) (hfirst : first ∈ before)
    (hname : groupName first = groupName second) :
    nameFaults before second = [.duplicateGroupName (groupName second) first second] := by
  cases hfind : before.find? (groupName · = groupName second) with
  | none => exact absurd hname (by simpa using List.find?_eq_none.mp hfind first hfirst)
  | some found =>
    have hfound : groupName found = groupName first := by
      rw [hname]
      simpa using List.find?_some hfind
    have hmem := List.mem_of_find?_eq_some hfind
    obtain rfl := List.inj_on_of_nodup_map hnames hmem hfirst hfound
    rw [nameFaults, hfind]

/-- A document with two paths of one group name is rejected. The run ends in what it comes to before
the name of the second one, or else it ends at this name. -/
theorem Document.Lists.result_expandDocument {first second : String}
    {before : List (String × PathItem)} {item : PathItem}
    (h : document.Lists first second before item) (hname : groupName first = groupName second)
    (v : Vocabulary) (strict : Bool) :
    (expandDocument v strict document).result = .error
      ((faultsBeforeName strict document.components before (second, item)).head?.getD
        (.duplicateGroupName (groupName second) first second)) := by
  obtain ⟨later, hfaults⟩ := h.exists_documentFaults_eq strict
  apply (stopsAtFirst_expandDocument v strict document).eq_error_iff.mpr
  rw [hfaults, List.head?_append]
  cases hbefore : faultsBeforeName strict document.components before (second, item) with
  | cons fault rest => rfl
  | nil =>
    have hpaths : endpointFaultsFrom [] before = [] :=
      (List.append_eq_nil_iff.mp (List.append_eq_nil_iff.mp hbefore).2).1
    have hnames := (endpointFaultsFrom_eq_nil_iff.mp hpaths).1.names
    rw [nameFaults_of_mem (by rwa [List.map_map]) h.first hname]
    rfl

/-- **Group names and slashes.** Two paths with a slash between them have the name of the one and
then the name of the other, and no name has a slash itself. So paths that differ only in leading,
trailing and repeated slashes have one name. A document with two of them is rejected: the run ends
in the first fault that it comes to before the name of the second one, and if there is none, the two
paths are the fault. -/
theorem groupName_joined :
    (∀ front back, groupName (front ++ "/" ++ back) = groupName front ++ groupName back) ∧
    (∀ path, '/' ∉ (groupName path).toList) ∧
    (∀ path other, Path.DifferInSlashes path other → groupName path = groupName other) ∧
    ∀ (v : Vocabulary) (strict : Bool) (document : Document) (path other : String),
      path ∈ document.paths.keys → other ∈ document.paths.keys → path ≠ other →
      Path.DifferInSlashes path other →
      ∃ first second before item,
        (first = path ∧ second = other ∨ first = other ∧ second = path) ∧
        document.Lists first second before item ∧
        (expandDocument v strict document).result = .error
          ((faultsBeforeName strict document.components before (second, item)).head?.getD
            (.duplicateGroupName (groupName second) first second)) := by
  refine ⟨groupName_append_slash, slash_notMem_groupName, fun _ _ h => h.groupName_eq, ?_⟩
  intro v strict document path other hpath hother hne hslashes
  obtain ⟨first, second, before, item, horder, hlists⟩ := document.exists_lists hpath hother hne
  refine ⟨first, second, before, item, horder, hlists, hlists.result_expandDocument ?_ v strict⟩
  rcases horder with ⟨rfl, rfl⟩ | ⟨rfl, rfl⟩
  · exact hslashes.groupName_eq
  · exact hslashes.groupName_eq.symm

/-- A document with a path that is written in two ways. -/
def twicePetsDocument : Document where
  info := { title := "Pets", version := "1" }
  paths := Dict.ofList [("/pets", {}), ("/pets/\x7bpet_id\x7d", {}), ("//pets/", {})]

/-- Nothing else is wrong with the document, so the path that comes again is its fault. -/
theorem groupName_joined_pets :
    "//pets/" ∈ twicePetsDocument.paths.keys ∧ "/pets" ∈ twicePetsDocument.paths.keys ∧
    Path.DifferInSlashes "//pets/" "/pets" ∧ groupName "//pets/" = groupName "/pets" ∧
    (∃ first second before item,
      (first = "//pets/" ∧ second = "/pets" ∨ first = "/pets" ∧ second = "//pets/") ∧
      twicePetsDocument.Lists first second before item ∧
      (expandDocument {} false twicePetsDocument).result = .error
        ((faultsBeforeName false twicePetsDocument.components before (second, item)).head?.getD
          (.duplicateGroupName (groupName second) first second))) ∧
    (expandDocument {} false twicePetsDocument).result =
      .error (.duplicateGroupName "Pets" "/pets" "//pets/") := by
  have hfirst : "//pets/" ∈ twicePetsDocument.paths.keys := by decide +kernel
  have hsecond : "/pets" ∈ twicePetsDocument.paths.keys := by decide +kernel
  have hslashes : Path.DifferInSlashes "//pets/" "/pets" := by decide +kernel
  obtain ⟨-, -, hnames, hrejected⟩ := groupName_joined
  exact ⟨hfirst, hsecond, hslashes, hnames _ _ hslashes,
    hrejected {} false _ _ _ hfirst hsecond (by decide) hslashes, by decide +kernel⟩

end ApiStencil

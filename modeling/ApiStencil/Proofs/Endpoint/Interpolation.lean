import ApiStencil.Proofs.Endpoint.Arguments
import ApiStencil.Proofs.Text.Replacement

/-!
# Interpolated paths

The placeholders of a path are replaced for one parameter after the other, each time in the whole
path as it is then. Where the path, the names and the delimiters use braces for nothing but
placeholders, this is the same as replacing all placeholders at once. A delimiter that brings braces
along leaves behind the placeholder that it replaces, so then no name may come twice.

## Main definitions

* `PathPart`, `rawPath`, `interpolatedPath`: a path by its parts, as it is and with placeholders
  replaced
* `Vocabulary.HidesBraces`, `Vocabulary.KeepsBraces`: how delimiters may hold braces
* `Operation.pathNames`: the names of the parameters in the path

## Main results

* `replaceString_interpolatedPath`: one replacement
* `interpolatePath_interpolatedPath`: all replacements
* `spelledEndpoint_path`: the path of an endpoint, whatever the order of its parameters
-/

namespace ApiStencil

variable {v : Vocabulary} {name other : String}

/-! ## Paths by their parts -/

/-- A text without braces. -/
def BraceFree (s : String) : Prop :=
  '\x7b' ∉ s.toList ∧ '\x7d' ∉ s.toList

instance (s : String) : Decidable (BraceFree s) :=
  inferInstanceAs (Decidable (_ ∧ _))

/-- A part of a raw path. -/
inductive PathPart where
  | literal (text : String)
  /-- A name between braces. -/
  | placeholder (name : String)

namespace PathPart

/-- What a part says: its text, or its name. -/
def content : PathPart → String
  | literal text => text
  | placeholder name => name

/-- A part as it stands in a raw path. -/
def raw : PathPart → String
  | literal text => text
  | placeholder name => Endpoint.placeholder name

/-- A part in which the placeholders of some names are interpolated. -/
def interpolated (v : Vocabulary) (names : List String) : PathPart → String
  | literal text => text
  | placeholder name => if name ∈ names then v.interpolate name else Endpoint.placeholder name

end PathPart

/-- The raw path of some parts. -/
def rawPath (parts : List PathPart) : String :=
  String.join (parts.map (·.raw))

/-- The path of some parts in which the placeholders of some names are interpolated, each of them
once. -/
def interpolatedPath (v : Vocabulary) (names : List String) (parts : List PathPart) : String :=
  String.join (parts.map (·.interpolated v names))

theorem interpolatedPath_nil (v : Vocabulary) (parts : List PathPart) :
    interpolatedPath v [] parts = rawPath parts := by
  have hpart : ∀ part : PathPart, part.interpolated v [] = part.raw := by
    rintro (text | name)
    · rfl
    · simp [PathPart.interpolated, PathPart.raw]
  simp [interpolatedPath, rawPath, hpart]

/-- Which names are interpolated matters, and not their order. -/
theorem interpolatedPath_congr {names others : List String}
    (h : ∀ name, name ∈ names ↔ name ∈ others) (parts : List PathPart) :
    interpolatedPath v names parts = interpolatedPath v others parts := by
  have hpart : ∀ part : PathPart, part.interpolated v names = part.interpolated v others := by
    rintro (text | name)
    · rfl
    · simp [PathPart.interpolated, h]
  simp [interpolatedPath, hpart]

namespace Vocabulary

/-- No delimiter has a brace. -/
def HidesBraces (v : Vocabulary) : Prop :=
  BraceFree v.interpolationOpen ∧ BraceFree v.interpolationClose

/-- The delimiters have two braces, which come right before and right after a name. -/
def KeepsBraces (v : Vocabulary) : Prop :=
  ∃ before after, BraceFree before ∧ BraceFree after ∧
    v.interpolationOpen = before ++ "\x7b" ∧ v.interpolationClose = "\x7d" ++ after

end Vocabulary

/-! ## One replacement -/

theorem toList_placeholder (name : String) :
    (Endpoint.placeholder name).toList = '\x7b' :: (name.toList ++ ['\x7d']) := by
  simp [Endpoint.placeholder]

theorem rewrites_of_braceFree {new : List Char} {text : String} (h : BraceFree text) :
    Text.Rewrites (Endpoint.placeholder name).toList new text.toList text.toList := by
  rw [toList_placeholder]
  exact Text.rewrites_self_of_notMem h.1

theorem rewrites_placeholder {new : List Char} (name : String) :
    Text.Rewrites (Endpoint.placeholder name).toList new (Endpoint.placeholder name).toList new :=
  Text.rewrites_old (by simp [toList_placeholder])

/-- The placeholder of another name stays. -/
theorem rewrites_placeholder_of_ne {new : List Char} (hname : BraceFree name)
    (hother : BraceFree other) (hne : name ≠ other) :
    Text.Rewrites (Endpoint.placeholder name).toList new (Endpoint.placeholder other).toList
      (Endpoint.placeholder other).toList := by
  rw [toList_placeholder, toList_placeholder]
  -- An occurrence would start at the only opening brace, and end at the closing one.
  refine Text.rewrites_cons (fun rest hprefix => hne ?_)
    (Text.rewrites_self_of_notMem (by simp [hother.1]))
  rw [List.cons_append, List.cons_prefix_cons, List.append_assoc] at hprefix
  exact String.toList_injective (Text.eq_of_append_isPrefix hname.2 hother.2 hprefix.2)

/-- What has been interpolated stays. -/
theorem rewrites_interpolate {new : List Char} {done : List String} (hname : BraceFree name)
    (hother : BraceFree other) (hdone : other ∈ done)
    (hv : v.HidesBraces ∨ v.KeepsBraces ∧ name ∉ done) :
    Text.Rewrites (Endpoint.placeholder name).toList new (v.interpolate other).toList
      (v.interpolate other).toList := by
  rcases hv with ⟨hopen, hclose⟩ | ⟨⟨before, after, hbefore, hafter, hopen, hclose⟩, hnew⟩
  · simp only [Vocabulary.interpolate, String.toList_append]
    exact ((rewrites_of_braceFree hopen).append (rewrites_of_braceFree hother)).append
      (rewrites_of_braceFree hclose)
  · have hne : name ≠ other := fun h => hnew (h ▸ hdone)
    have hplaceholder : v.interpolate other = before ++ Endpoint.placeholder other ++ after := by
      simp [Vocabulary.interpolate, Endpoint.placeholder, hopen, hclose, String.append_assoc]
    simp only [hplaceholder, String.toList_append]
    exact ((rewrites_of_braceFree hbefore).append
      (rewrites_placeholder_of_ne hname hother hne)).append (rewrites_of_braceFree hafter)

theorem rewrites_part {part : PathPart} {done : List String} (hpart : BraceFree part.content)
    (hname : BraceFree name) (hv : v.HidesBraces ∨ v.KeepsBraces ∧ name ∉ done) :
    Text.Rewrites (Endpoint.placeholder name).toList (v.interpolate name).toList
      (part.interpolated v done).toList (part.interpolated v (done ++ [name])).toList := by
  cases part with
  | literal text => exact rewrites_of_braceFree hpart
  | placeholder other =>
    simp only [PathPart.interpolated, List.mem_append, List.mem_singleton]
    by_cases hdone : other ∈ done
    · simp only [hdone, true_or, if_true]
      exact rewrites_interpolate hname hpart hdone hv
    · by_cases hother : other = name
      · subst hother
        simp only [hdone, or_true, if_true, if_false]
        exact rewrites_placeholder other
      · simp only [hdone, hother, or_self, if_false]
        exact rewrites_placeholder_of_ne hname hpart (Ne.symm hother)

/-- Replacing the placeholder of one more name in a path in which some are replaced already. -/
theorem replaceString_interpolatedPath {parts : List PathPart} {done : List String}
    (hparts : ∀ part ∈ parts, BraceFree part.content) (hname : BraceFree name)
    (hv : v.HidesBraces ∨ v.KeepsBraces ∧ name ∉ done) :
    Text.replaceString (Endpoint.placeholder name) (v.interpolate name)
      (interpolatedPath v done parts) = interpolatedPath v (done ++ [name]) parts := by
  have hrewrites := Text.Rewrites.flatMap fun part hpart =>
    rewrites_part (hparts part hpart) hname hv
  have hne : (Endpoint.placeholder name).toList ≠ [] := by simp [toList_placeholder]
  refine String.toList_injective ?_
  simp only [Text.replaceString, interpolatedPath, String.toList_ofList, String.toList_join,
    List.flatMap_map]
  exact hrewrites.replaceText_eq hne

/-! ## All replacements -/

/-- Replacing the placeholders of some names one after the other is replacing them all at once. -/
theorem interpolatePath_interpolatedPath {parts : List PathPart} {done names : List String}
    (hparts : ∀ part ∈ parts, BraceFree part.content) (hnames : ∀ name ∈ names, BraceFree name)
    (hv : v.HidesBraces ∨ v.KeepsBraces ∧ (done ++ names).Nodup) :
    Endpoint.interpolatePath v (interpolatedPath v done parts) names =
      interpolatedPath v (done ++ names) parts := by
  -- After each step the path is the one with one more name in `done`.
  induction names generalizing done with
  | nil => rw [List.append_nil]; rfl
  | cons name names ih =>
    obtain ⟨hname, hnames⟩ := List.forall_mem_cons.mp hnames
    have hstep : v.HidesBraces ∨ v.KeepsBraces ∧ name ∉ done := by
      refine hv.imp_right (And.imp_right fun hnodup hdone => ?_)
      exact (List.nodup_append.mp hnodup).2.2 name hdone name List.mem_cons_self rfl
    have hrest : done ++ name :: names = done ++ [name] ++ names := by simp
    rw [hrest] at hv ⊢
    rw [← ih hnames hv, ← replaceString_interpolatedPath hparts hname hstep]
    rfl

/-! ## The path of an endpoint -/

/-- The names of the parameters of an operation that travel in the path, in the order of their
declaration. The operation shares some parameters with its path. -/
def Operation.pathNames (shared : List Parameter) (operation : Operation) : List String :=
  ((mergeParameters shared operation.parameters).filter (·.location = "path")).map (·.name)

/-- The arguments in the path are those of the parameters in the path. -/
theorem names_pathArguments {group path : String} {item : PathItem} {key : Method}
    {operation : Operation} {endpoint : TypedEndpoint}
    (h : expandEndpoint group path item key operation = .ok endpoint) :
    endpoint.pathArguments.map (·.name) = operation.pathNames item.parameters := by
  have hgives := gives_of_expandEndpoint (v := {}) h
  have hpicked := List.rel_filter (p := fun parameter => parameter.location = "path")
    (q := fun argument => argument.location = .path)
    (fun _ _ hgiven => by simpa using hgiven.location_eq_path_iff.symm) hgives
  have hnames := map_eq_map_of_forall₂ hpicked fun parameter argument hgiven => hgiven.name.symm
  rw [Operation.pathNames, hnames, Endpoint.spell, List.filter_map, List.map_map]
  rfl

/-- The path of an endpoint has the placeholders of the parameters in the path replaced at once. -/
theorem path_of_spelledEndpoint {parts : List PathPart} {group : String} {item : PathItem}
    {key : Method} {operation : Operation} {endpoint : Endpoint String String}
    (h : spelledEndpoint v group (rawPath parts) item key operation = .ok endpoint)
    (hparts : ∀ part ∈ parts, BraceFree part.content)
    (hnames : ∀ name ∈ operation.pathNames item.parameters, BraceFree name)
    (hv : v.HidesBraces ∨ v.KeepsBraces ∧ (operation.pathNames item.parameters).Nodup) :
    endpoint.path =
      Endpoint.dropSlash (interpolatedPath v (operation.pathNames item.parameters) parts) := by
  obtain ⟨typed, htyped, rfl⟩ := spelledEndpoint_eq_ok_iff.mp h
  have hpath := (origin_of_expandEndpoint htyped).2.2
  rw [Endpoint.spell, hpath, names_pathArguments htyped, ← interpolatedPath_nil v,
    interpolatePath_interpolatedPath hparts hnames hv, List.nil_append]

/-- **Interpolation is one substitution.** Let a path consist of literals and of placeholders, all
without braces of their own, and let the names of the parameters in the path have no braces. Let the
delimiters have no braces either, or let them have braces only around a name, in which case the
names differ. Then the path of an endpoint has each placeholder of a parameter in the path replaced
by the name between the delimiters, and everything else as it is, but for one slash at its start.
So the path is the same for any other operation whose parameters in the path have these names, in
whatever order they are declared. -/
theorem spelledEndpoint_path {parts : List PathPart} {group : String} {item : PathItem}
    {key : Method} {operation : Operation} {endpoint : Endpoint String String}
    (h : spelledEndpoint v group (rawPath parts) item key operation = .ok endpoint)
    (hparts : ∀ part ∈ parts, BraceFree part.content)
    (hnames : ∀ name ∈ operation.pathNames item.parameters, BraceFree name)
    (hv : v.HidesBraces ∨ v.KeepsBraces ∧ (operation.pathNames item.parameters).Nodup) :
    endpoint.path =
        Endpoint.dropSlash (interpolatedPath v (operation.pathNames item.parameters) parts) ∧
      ∀ otherGroup otherItem otherKey otherOperation otherEndpoint,
        spelledEndpoint v otherGroup (rawPath parts) otherItem otherKey otherOperation =
            .ok otherEndpoint →
          (otherOperation.pathNames otherItem.parameters).Perm
              (operation.pathNames item.parameters) →
            otherEndpoint.path = endpoint.path := by
  have hpath := path_of_spelledEndpoint h hparts hnames hv
  refine ⟨hpath, ?_⟩
  intro otherGroup otherItem otherKey otherOperation otherEndpoint hother hperm
  have hotherNames : ∀ name ∈ otherOperation.pathNames otherItem.parameters, BraceFree name :=
    fun name hname => hnames name (hperm.mem_iff.mp hname)
  have hotherPath := path_of_spelledEndpoint hother hparts hotherNames
    (hv.imp_right (And.imp_right hperm.nodup_iff.mpr))
  rw [hpath, hotherPath, interpolatedPath_congr (fun name => hperm.mem_iff) parts]

/-- The parts of a path with three placeholders, one of them twice. -/
def petParts : List PathPart :=
  [.literal "/pets/", .placeholder "id", .literal "/", .placeholder "tag", .literal "/",
    .placeholder "page", .literal "/", .placeholder "id"]

/-- An operation with some parameters in the path and one in the query. -/
def petOperation (names : List String) : Operation where
  parameters := { name := "page", location := "query", schema := { type := some .integer } } ::
    names.map fun name => { name, location := "path", schema := { type := some .string } }

/-- Delimiters that keep the placeholder that they replace. -/
def dollarVocabulary : Vocabulary where
  interpolationOpen := "$\x7b"

theorem spelledEndpoint_path_pets :
    ∃ endpoint other,
      spelledEndpoint dollarVocabulary "Pets" (rawPath petParts) {} .get
        (petOperation ["id", "tag"]) = .ok endpoint ∧
      spelledEndpoint dollarVocabulary "Pets" (rawPath petParts) {} .get
        (petOperation ["tag", "id"]) = .ok other ∧
      endpoint.path = "pets/$\x7bid\x7d/$\x7btag\x7d/\x7bpage\x7d/$\x7bid\x7d" ∧
      other.path = endpoint.path := by
  have hok : (spelledEndpoint dollarVocabulary "Pets" (rawPath petParts) {} .get
      (petOperation ["id", "tag"])).toOption.isSome := by decide +kernel
  have hswapped : (spelledEndpoint dollarVocabulary "Pets" (rawPath petParts) {} .get
      (petOperation ["tag", "id"])).toOption.isSome := by decide +kernel
  obtain ⟨endpoint, hendpoint⟩ := Except.exists_eq_ok_of_isSome hok
  obtain ⟨other, hother⟩ := Except.exists_eq_ok_of_isSome hswapped
  have hkeeps : dollarVocabulary.KeepsBraces :=
    ⟨"$", "", by decide, by decide, by decide, by decide⟩
  obtain ⟨hpath, hsame⟩ := spelledEndpoint_path hendpoint (by decide +kernel) (by decide +kernel)
    (.inr ⟨hkeeps, by decide +kernel⟩)
  refine ⟨endpoint, other, hendpoint, hother, ?_, hsame _ _ _ _ _ hother (by decide +kernel)⟩
  rw [hpath]
  decide +kernel

end ApiStencil

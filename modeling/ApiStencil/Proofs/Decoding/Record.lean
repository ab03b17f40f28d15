import ApiStencil.Proofs.Decoding.Mapping
import Mathlib.Data.List.Nodup

/-!
# Reading records

A record is read from the entries of a mapping, which go by the names of its fields, or from the
items of a sequence, which stand in the places of the fields. Where no field touches what another
one fills, the record is known part by part: each part is what is given for its field, and what is
not given keeps its default. A field is never given twice.

## Main definitions

* `Reads`: what a reader makes of a node where no aliases are followed
* `Node.givenFor`, `GivenOr`: what is given for a field, and what comes of it
* `Field.Fills`, `Field.Keeps`, `OwnsPart`: a field that alone decides a part of a record
* `TextPart`, `TextPart.Independent`: the texts of a record

## Main results

* `OwnsPart.of_entryAbsorbed`, `OwnsPart.of_foldEntries`: one entry of a mapping, and all of them
* `OwnsPart.of_readPositional`: the items of a sequence
* `OwnsPart.of_readRecord`: a part of a record that has been read
* `TextPart.Independent.of_readRecord`: each text of a record that has been read
-/

namespace ApiStencil

variable {σ α ρ : Type} {site : Site σ} {count last : Nat} {node : Node σ}

/-! ## Reading without aliases -/

/-- What a reader makes of a node where no aliases are followed. -/
def Reads (read : Reader σ α) (node : Node σ) (value : α) : Prop :=
  ∃ (site : Site σ) (before after : Nat), site.aliasLimit = 0 ∧
    (read site node).run before = .ok (value, after)

/-- Where no aliases are followed, a node stands for itself. -/
theorem eq_of_follow (hsite : site.aliasLimit = 0) {found : Node σ}
    (h : (follow site node).run count = .ok (found, last)) : found = node := by
  cases node with
  | link anchor => simp [follow, hsite, StateT.run_bind, Except.bind_eq_ok_iff] at h
  | scalar | sequence | mapping | cut => exact (Reading.pure_eq_ok_iff.mp h).1.symm

/-! ## Fields and parts of a record -/

/-- The names that a field goes by. -/
def Field.names (field : Field σ ρ) : List String := field.name :: field.otherName.toList

theorem Field.goesBy_iff {field : Field σ ρ} {name : String} :
    field.goesBy name = true ↔ name ∈ field.names := by
  rw [goesBy, Bool.or_eq_true, decide_eq_true_eq, decide_eq_true_eq, names, List.mem_cons,
    Option.mem_toList]
  exact or_congr_left eq_comm

/-- A field fills a part of a record with what a reader makes of its node. -/
def Field.Fills (field : Field σ ρ) (read : Reader σ α) (part : ρ → α) : Prop :=
  ∀ (site : Site σ) (record : ρ) (node : Node σ) (before : Nat) (made : ρ) (after : Nat),
    (field.read site record node).run before = .ok (made, after) →
      (read site node).run before = .ok (part made, after)

/-- A field leaves a part of a record as it is. -/
def Field.Keeps (field : Field σ ρ) (part : ρ → α) : Prop :=
  ∀ (site : Site σ) (record : ρ) (node : Node σ) (before : Nat) (made : ρ) (after : Nat),
    (field.read site record node).run before = .ok (made, after) → part made = part record

/-- A field that is read by a reader and then set fills what it sets. -/
theorem Field.fills_of_map {field : Field σ ρ} {read : Reader σ α} {set : ρ → α → ρ} {part : ρ → α}
    (hread : field.read = fun site record node => set record <$> read site node)
    (hset : ∀ record value, part (set record value) = value) : field.Fills read part := by
  intro site record node before made after h
  rw [hread] at h
  obtain ⟨value, hvalue, rfl⟩ := Reading.map_eq_ok_iff.mp h
  rwa [hset]

/-- Such a field keeps what it does not set. -/
theorem Field.keeps_of_map {β : Type} {field : Field σ ρ} {read : Reader σ β} {set : ρ → β → ρ}
    {part : ρ → α} (hread : field.read = fun site record node => set record <$> read site node)
    (hset : ∀ record value, part (set record value) = part record) : field.Keeps part := by
  intro site record node before made after h
  rw [hread] at h
  obtain ⟨value, -, rfl⟩ := Reading.map_eq_ok_iff.mp h
  exact hset record value

theorem Field.keeps_optional {β : Type} {name : String} {read : Reader σ β} {set : ρ → β → ρ}
    {part : ρ → α} (hset : ∀ record value, part (set record value) = part record) :
    (Field.optional name read set).Keeps part :=
  keeps_of_map rfl hset

/-- The field in a place fills a part of the record, and all others leave it as it is. -/
structure OwnsPart (fields : List (Field σ ρ)) (place : Nat) (field : Field σ ρ)
    (read : Reader σ α) (part : ρ → α) : Prop where
  inPlace : fields[place]? = some field
  fills : field.Fills read part
  keeps : ∀ (i : Nat) (other : Field σ ρ), fields[i]? = some other → i ≠ place → other.Keeps part

/-- Fields in different places have different names. -/
theorem place_eq_of_mem_names {fields : List (Field σ ρ)}
    (hnames : (fields.flatMap Field.names).Nodup) {i j : Nat} {field other : Field σ ρ}
    (hfield : fields[i]? = some field) (hother : fields[j]? = some other) {name : String}
    (hname : name ∈ field.names) (hname' : name ∈ other.names) : i = j := by
  have hdisjoint := List.pairwise_iff_getElem.mp (List.nodup_flatMap.mp hnames).2
  obtain ⟨hi, rfl⟩ := List.getElem?_eq_some_iff.mp hfield
  obtain ⟨hj, rfl⟩ := List.getElem?_eq_some_iff.mp hother
  rcases Nat.lt_trichotomy i j with hlt | heq | hlt
  · exact absurd hname' (hdisjoint i j hi hj hlt hname)
  · exact heq
  · exact absurd hname (hdisjoint j i hj hi hlt hname')

/-- A value is that of the one node that is given for it, or the default if none is. -/
inductive GivenOr (P : Node σ → α → Prop) (default : α) : List (Node σ) → α → Prop where
  | given {node : Node σ} {value : α} (h : P node value) : GivenOr P default [node] value
  | absent : GivenOr P default [] default

/-! ## Items of a sequence -/

section Positional

variable {fields : List (Field σ ρ)} {record made : ρ} {items : List (Node σ)} {index place : Nat}
  {field : Field σ ρ} {read : Reader σ α} {part : ρ → α}

/-- No more items are left, or the next one is read by the next field. -/
theorem readPositional_eq_ok
    (h : (readPositional site index fields record items).run count = .ok (made, last)) :
    (items = [] ∧ record = made) ∨
      ∃ first rest item more next mid, fields = first :: rest ∧ items = item :: more ∧
        (first.read (site.step (.item index)) record item).run count = .ok (next, mid) ∧
        (readPositional site (index + 1) rest next more).run mid = .ok (made, last) := by
  cases items with
  | nil =>
    rw [readPositional.eq_2] at h
    split_ifs at h
    · exact absurd h (Reading.throw_ne_ok _ made)
    · exact .inl ⟨rfl, (Reading.pure_eq_ok_iff.mp h).1⟩
  | cons item more =>
    by_cases hcut : item = .cut
    · subst hcut
      rw [readPositional.eq_1] at h
      exact absurd h (Reading.throw_ne_ok _ made)
    cases fields with
    | nil =>
      rw [readPositional.eq_3 _ _ _ _ _ hcut] at h
      exact absurd h (Reading.throw_ne_ok _ made)
    | cons first rest =>
      rw [readPositional.eq_4 _ _ _ _ _ _ _ hcut, Reading.bind_eq_ok_iff] at h
      obtain ⟨next, mid, hread, hrest⟩ := h
      exact .inr ⟨first, rest, item, more, next, mid, rfl, rfl, hread, hrest⟩

/-- Fields that leave a part of a record as it is do so one after the other. -/
theorem part_of_readPositional (hkeeps : ∀ other ∈ fields, other.Keeps part)
    (h : (readPositional site index fields record items).run count = .ok (made, last)) :
    part made = part record := by
  induction fields generalizing index record items count with
  | nil =>
    rcases readPositional_eq_ok h with ⟨-, rfl⟩ | ⟨_, _, _, _, _, _, hnil, -⟩
    · rfl
    · cases hnil
  | cons first rest ih =>
    rcases readPositional_eq_ok h with
      ⟨-, rfl⟩ | ⟨_, _, item, more, next, mid, hcons, rfl, hread, hrest⟩
    · rfl
    obtain ⟨rfl, rfl⟩ := List.cons.inj hcons
    obtain ⟨hfirst, hkeeps⟩ := List.forall_mem_cons.mp hkeeps
    exact (ih hkeeps hrest).trans (hfirst _ _ _ _ _ _ hread)

/-- A part of a record that is read from a sequence is that of the item in the place of its
field. -/
theorem OwnsPart.of_readPositional (howns : OwnsPart fields place field read part)
    (hsite : site.aliasLimit = 0)
    (h : (readPositional site index fields record items).run count = .ok (made, last)) :
    GivenOr (Reads read) (part record) items[place]?.toList (part made) := by
  -- Fields and items are used up together, so the place counts down to the item of the field.
  induction fields generalizing place index record items count with
  | nil => cases howns.inPlace
  | cons first rest ih =>
    rcases readPositional_eq_ok h with
      ⟨rfl, rfl⟩ | ⟨_, _, item, more, next, mid, hcons, rfl, hread, hrest⟩
    · exact .absent
    obtain ⟨rfl, rfl⟩ := List.cons.inj hcons
    cases place with
    | zero =>
      obtain rfl := Option.some.inj howns.inPlace
      have hkeeps : ∀ other ∈ rest, other.Keeps part := by
        intro other hother
        obtain ⟨i, hi⟩ := List.mem_iff_getElem?.mp hother
        exact howns.keeps (i + 1) other hi (Nat.succ_ne_zero i)
      have hmade := part_of_readPositional hkeeps hrest
      exact .given ⟨site.step (.item index), _, _, hsite, hmade ▸ howns.fills _ _ _ _ _ _ hread⟩
    | succ place =>
      have hkept := howns.keeps 0 _ rfl (Nat.succ_ne_zero place).symm _ _ _ _ _ _ hread
      have hrest' : OwnsPart rest place field read part :=
        ⟨howns.inPlace, howns.fills, fun i other hi hne =>
          howns.keeps (i + 1) other hi fun heq => hne (Nat.succ.inj heq)⟩
      have hgiven := ih hrest' hrest
      rwa [hkept] at hgiven

end Positional

/-! ## Entries of a mapping -/

variable [ScalarForm σ]

/-- The text that a node is, if it is one. -/
def Node.text? : Node σ → Option String
  | .scalar s => ScalarForm.text? s
  | _ => none

theorem text?_of_readTextAs {expected text : String} (hsite : site.aliasLimit = 0)
    (h : (readTextAs expected site node).run count = .ok (text, last)) :
    node.text? = some text := by
  rw [readTextAs, Reading.bind_eq_ok_iff] at h
  obtain ⟨found, mid, hfound, h⟩ := h
  obtain rfl := eq_of_follow hsite hfound
  cases found with
  | scalar s =>
    simp only at h
    split at h
    next text' htext =>
      obtain ⟨rfl, -⟩ := Reading.pure_eq_ok_iff.mp h
      exact htext
    next => exact absurd h (refuse_ne_ok expected _ text)
  | link | sequence | mapping | cut => exact absurd h (refuse_ne_ok expected _ text)

/-- The values of some entries that go by some names. -/
def valuesUnder (names : List String) (entries : List (Node σ × Node σ)) : List (Node σ) :=
  (entries.filter fun entry => entry.1.text?.any (· ∈ names)).map Prod.snd

section Mapping

variable {fields : List (Field σ ρ)} {place : Nat} {field : Field σ ρ} {read : Reader σ α}
  {part : ρ → α} {record made : ρ} {seen seen' : List String} {key value : Node σ}

/-- What an entry does to a record and to the fields given so far: its key is a name that no field
goes by, or that of a field that has not been given before and that reads its value. -/
inductive EntryAbsorbed (fields : List (Field σ ρ)) (site : Site σ) (key value : Node σ) :
    List String × ρ → List String × ρ → Prop where
  | passed {seen : List String} {record : ρ} {name : String} (hkey : key.text? = some name)
      (hnone : ∀ other ∈ fields, name ∉ other.names) :
      EntryAbsorbed fields site key value (seen, record) (seen, record)
  | absorbed {seen : List String} {record made : ρ} {name : String} {i : Nat} {other : Field σ ρ}
      {before after : Nat} (hkey : key.text? = some name) (hother : fields[i]? = some other)
      (hname : name ∈ other.names) (hseen : other.name ∉ seen)
      (hread : (other.read (site.step (keyStep key)) record value).run before = .ok (made, after)) :
      EntryAbsorbed fields site key value (seen, record) (other.name :: seen, made)

theorem entryAbsorbed_of_absorbField (hsite : site.aliasLimit = 0)
    {state next : List String × ρ}
    (h : (absorbField fields site state key value).run count = .ok (next, last)) :
    EntryAbsorbed fields site key value state next := by
  obtain ⟨seen, record⟩ := state
  rw [absorbField, Reading.bind_eq_ok_iff] at h
  obtain ⟨name, mid, hkey, h⟩ := h
  have hkey := text?_of_readTextAs hsite hkey
  cases hfind : fields.find? (·.goesBy name) with
  | none =>
    rw [hfind] at h
    simp only at h
    obtain ⟨_, _, -, h⟩ := Reading.bind_eq_ok_iff.mp h
    obtain ⟨rfl, -⟩ := Reading.pure_eq_ok_iff.mp h
    refine .passed hkey fun other hother hname => ?_
    exact List.find?_eq_none.mp hfind other hother (Field.goesBy_iff.mpr hname)
  | some other =>
    rw [hfind] at h
    simp only at h
    split_ifs at h with hseen
    · exact absurd h (Reading.throw_ne_ok _ _)
    obtain ⟨made, mid', hread, h⟩ := Reading.bind_eq_ok_iff.mp h
    obtain ⟨rfl, -⟩ := Reading.pure_eq_ok_iff.mp h
    obtain ⟨i, hi⟩ := List.mem_iff_getElem?.mp (List.mem_of_find?_eq_some hfind)
    have hname := Field.goesBy_iff.mp (List.find?_some hfind :)
    exact .absorbed hkey hi hname (by simpa using hseen) hread

/-- An entry is given for a field, which then counts as given, or it leaves the part of the field as
it is. -/
theorem OwnsPart.of_entryAbsorbed (howns : OwnsPart fields place field read part)
    (hnames : (fields.flatMap Field.names).Nodup) (hsite : site.aliasLimit = 0)
    (h : EntryAbsorbed fields site key value (seen, record) (seen', made)) :
    (valuesUnder field.names [(key, value)] = [value] ∧ field.name ∉ seen ∧ field.name ∈ seen' ∧
        Reads read value (part made)) ∨
      (valuesUnder field.names [(key, value)] = [] ∧ (field.name ∈ seen' ↔ field.name ∈ seen) ∧
        part made = part record) := by
  have hfield : field ∈ fields := List.mem_of_getElem? howns.inPlace
  cases h with
  | passed hkey hnone =>
    exact .inr ⟨by simp [valuesUnder, hkey, hnone field hfield], Iff.rfl, rfl⟩
  | @absorbed _ _ _ name i other before after hkey hother hname hseen hread =>
    by_cases hplace : i = place
    · subst hplace
      obtain rfl := Option.some.inj (howns.inPlace.symm.trans hother)
      refine .inl ⟨by simp [valuesUnder, hkey, hname], hseen, List.mem_cons_self .., ?_⟩
      exact ⟨site.step (keyStep key), before, after, hsite, howns.fills _ _ _ _ _ _ hread⟩
    · have hname' : name ∉ field.names := fun hmem =>
        hplace (place_eq_of_mem_names hnames hother howns.inPlace hname hmem)
      have hne : field.name ≠ other.name := fun heq =>
        hplace (place_eq_of_mem_names hnames hother howns.inPlace (List.mem_cons_self ..)
          (heq ▸ List.mem_cons_self ..))
      refine .inr ⟨by simp [valuesUnder, hkey, hname'], by simp [hne], ?_⟩
      exact howns.keeps i other hother hplace _ _ _ _ _ _ hread

theorem valuesUnder_cons (names : List String) (entry : Node σ × Node σ)
    (entries : List (Node σ × Node σ)) :
    valuesUnder names (entry :: entries) =
      valuesUnder names [entry] ++ valuesUnder names entries := by
  simp [valuesUnder, List.filter_cons]
  split_ifs <;> simp

/-- A part of a record that is read from a mapping is that of the entry that is given for its field.
A field that counts as given is not given again. -/
theorem OwnsPart.of_foldEntries (howns : OwnsPart fields place field read part)
    (hnames : (fields.flatMap Field.names).Nodup) (hsite : site.aliasLimit = 0)
    {entries : List (Node σ × Node σ)}
    (h : (foldEntries (absorbField fields) site (seen, record) entries).run count =
      .ok ((seen', made), last)) :
    (field.name ∈ seen → valuesUnder field.names entries = [] ∧ part made = part record) ∧
      (field.name ∉ seen →
        GivenOr (Reads read) (part record) (valuesUnder field.names entries) (part made)) := by
  -- Both halves go through the induction together: once an entry has given the field, the entries
  -- after it are those of a field that counts as given.
  induction entries generalizing seen record count with
  | nil =>
    obtain ⟨heq, -⟩ := Reading.pure_eq_ok_iff.mp h
    cases heq
    exact ⟨fun _ => ⟨rfl, rfl⟩, fun _ => .absent⟩
  | cons entry entries ih =>
    obtain ⟨key, value⟩ := entry
    by_cases hcut : key = .cut
    · subst hcut
      exact absurd h (Reading.throw_ne_ok _ _)
    rw [foldEntries.eq_3 _ _ _ _ _ _ hcut, Reading.bind_eq_ok_iff] at h
    obtain ⟨⟨seen₁, record₁⟩, mid, hentry, hrest⟩ := h
    obtain ⟨hgiven, hfresh⟩ := ih hrest
    rw [valuesUnder_cons]
    rcases howns.of_entryAbsorbed hnames hsite (entryAbsorbed_of_absorbField hsite hentry) with
      ⟨hvalue, hseen, hseen₁, hreads⟩ | ⟨hvalue, hseen, hpart⟩
    · obtain ⟨hnone, hmade⟩ := hgiven hseen₁
      refine ⟨fun hmem => absurd hmem hseen, fun _ => ?_⟩
      rw [hvalue, hnone, hmade]
      exact .given hreads
    · rw [hvalue, List.nil_append, ← hpart, ← hseen]
      exact ⟨hgiven, hfresh⟩

end Mapping

/-! ## Records -/

/-- What a node gives for a field of a record: the values under the names of the field in a mapping,
and the item in its place in a sequence. -/
def Node.givenFor (names : List String) (place : Nat) : Node σ → List (Node σ)
  | .mapping _ entries => valuesUnder names entries
  | .sequence _ items => items[place]?.toList
  | _ => []

/-- A part of a record that has been read is that of the node that is given for its field, and the
default if there is none. -/
theorem OwnsPart.of_readRecord {fields : List (Field σ ρ)} {place : Nat} {field : Field σ ρ}
    {read : Reader σ α} {part : ρ → α} {start record : ρ} {type : String}
    (howns : OwnsPart fields place field read part)
    (hnames : (fields.flatMap Field.names).Nodup) (hsite : site.aliasLimit = 0)
    (h : (readRecord type fields start site node).run count = .ok (record, last)) :
    GivenOr (Reads read) (part start) (node.givenFor field.names place) (part record) := by
  rw [readRecord, Reading.bind_eq_ok_iff] at h
  obtain ⟨found, mid, hfound, h⟩ := h
  obtain rfl := eq_of_follow hsite hfound
  split at h
  · exact howns.of_readPositional hsite h
  · obtain ⟨⟨seen, made⟩, mid', hmapping, h⟩ := Reading.bind_eq_ok_iff.mp h
    obtain ⟨_, _, -, h⟩ := Reading.bind_eq_ok_iff.mp h
    obtain ⟨rfl, -⟩ := Reading.pure_eq_ok_iff.mp h
    rw [readMapping, Reading.bind_eq_ok_iff] at hmapping
    obtain ⟨again, mid'', hagain, hmapping⟩ := hmapping
    obtain rfl := eq_of_follow hsite hagain
    cases again with
    | mapping tag entries => exact (howns.of_foldEntries hnames hsite hmapping).2 (List.not_mem_nil)
    | scalar s =>
      simp only at hmapping
      split_ifs at hmapping
      · obtain ⟨heq, -⟩ := Reading.pure_eq_ok_iff.mp hmapping
        cases heq
        exact .absent
      · exact absurd hmapping (refuse_ne_ok _ _ _)
    | sequence tag items => exact absurd hmapping (refuse_ne_ok _ _ _)
    | link anchor => exact absurd hmapping (refuse_ne_ok _ _ _)
    | cut => exact absurd hmapping (refuse_ne_ok _ _ _)

/-- A field that is read by a reader and then set is known if no other field sets its part. -/
theorem givenOr_of_readRecord {fields : List (Field σ ρ)} {field : Field σ ρ} {read : Reader σ α}
    {set : ρ → α → ρ} {start record : ρ} {type : String} (hsite : site.aliasLimit = 0)
    (h : (readRecord type fields start site node).run count = .ok (record, last))
    (hnames : (fields.flatMap Field.names).Nodup) (part : ρ → α) (place : Nat)
    (hplace : fields[place]? = some field)
    (hread : field.read = fun site record node => set record <$> read site node)
    (hset : ∀ record value, part (set record value) = value)
    (hkeeps : ∀ other ∈ fields.eraseIdx place, other.Keeps part) :
    GivenOr (Reads read) (part start) (node.givenFor field.names place) (part record) := by
  have howns : OwnsPart fields place field read part :=
    ⟨hplace, Field.fills_of_map hread hset, fun i other hother hne =>
      hkeeps other (List.mem_eraseIdx_iff_getElem?.mpr ⟨i, hne, hother⟩)⟩
  exact howns.of_readRecord hnames hsite h

/-! ## Records of texts -/

/-- A text that is a part of a record. -/
structure TextPart (ρ : Type) where
  name : String
  get : ρ → String
  set : ρ → String → ρ

namespace TextPart

variable {parts : List (TextPart ρ)}

/-- The field of a text. -/
def field (part : TextPart ρ) : Field σ ρ := .optional part.name readText part.set

/-- Texts of one record that are set each on its own. -/
structure Independent (parts : List (TextPart ρ)) : Prop where
  names : (parts.map name).Nodup
  get_set : ∀ part ∈ parts, ∀ record text, part.get (part.set record text) = text
  get_set_of_ne : parts.Pairwise fun part other => ∀ record text,
    part.get (other.set record text) = part.get record ∧
      other.get (part.set record text) = other.get record

theorem Independent.get_set_of_place_ne (h : Independent parts) {i j : Nat}
    {part other : TextPart ρ} (hpart : parts[i]? = some part) (hother : parts[j]? = some other)
    (hne : i ≠ j) (record : ρ) (text : String) :
    part.get (other.set record text) = part.get record := by
  have hpairwise := List.pairwise_iff_getElem.mp h.get_set_of_ne
  obtain ⟨hi, rfl⟩ := List.getElem?_eq_some_iff.mp hpart
  obtain ⟨hj, rfl⟩ := List.getElem?_eq_some_iff.mp hother
  rcases Nat.lt_or_gt_of_ne hne with hlt | hlt
  · exact (hpairwise i j hi hj hlt record text).1
  · exact (hpairwise j i hj hi hlt record text).2

/-- Each text of a record that has been read is the one that is given for it, and the default if
there is none. -/
theorem Independent.of_readRecord (hparts : Independent parts) {start record : ρ} {type : String}
    (hsite : site.aliasLimit = 0)
    (h : (readRecord type (parts.map field) start site node).run count = .ok (record, last))
    {place : Nat} {part : TextPart ρ} (hpart : parts[place]? = some part) :
    GivenOr (Reads readText) (part.get start) (node.givenFor [part.name] place)
      (part.get record) := by
  have hnames : (parts.map field).flatMap (@Field.names σ ρ) = parts.map name := by
    rw [List.flatMap_map]
    exact List.flatMap_pure_eq_map name parts
  have howns : OwnsPart (parts.map field) place part.field (readText : Reader σ String)
      part.get := by
    refine ⟨by rw [List.getElem?_map, hpart]; rfl, ?_, fun i other hother hne => ?_⟩
    · exact Field.fills_of_map rfl (hparts.get_set part (List.mem_of_getElem? hpart))
    · rw [List.getElem?_map, Option.map_eq_some_iff] at hother
      obtain ⟨part', hpart', rfl⟩ := hother
      exact Field.keeps_optional (hparts.get_set_of_place_ne hpart hpart' hne.symm)
  exact howns.of_readRecord (hnames ▸ hparts.names) hsite h

end TextPart

end ApiStencil

import ApiStencil.Decoding.Reader
import ApiStencil.Proofs.Dict
import ApiStencil.Proofs.Trace

/-!
# Reading mappings

A mapping is read entry by entry, and the aliases that are followed are counted on the way. What is
built from it is known from what its entries are read as, one after the other.

## Main definitions

* `EntriesRead`: the entries of a mapping are read as the members of a list
* `MappingRead`: a node is read as a mapping with those entries

## Main results

* `Reading.bind_eq_ok_iff`: the steps of a reading
* `foldEntries_eq_ok_iff`, `readMapping_eq_ok_iff`, `readDict_eq_ok_iff`: what is built from a
  mapping
* `readMapping_congr`: mappings whose entries act alike are read alike
-/

namespace ApiStencil

variable {σ α β γ : Type} {site : Site σ} {count last : Nat}

theorem Reading.bind_eq_ok_iff {x : Reading α} {f : α → Reading β} {b : β} :
    (x >>= f).run count = .ok (b, last) ↔
      ∃ a mid, x.run count = .ok (a, mid) ∧ (f a).run mid = .ok (b, last) := by
  rw [StateT.run_bind, Except.bind_eq_ok_iff, Prod.exists]

theorem Reading.pure_eq_ok_iff {a b : α} :
    (pure a : Reading α).run count = .ok (b, last) ↔ a = b ∧ count = last := by
  rw [StateT.run_pure]
  show Except.ok (a, count) = .ok (b, last) ↔ _
  rw [Except.ok.injEq, Prod.mk.injEq]

theorem Reading.map_eq_ok_iff {f : α → β} {x : Reading α} {b : β} :
    (f <$> x).run count = .ok (b, last) ↔ ∃ a, x.run count = .ok (a, last) ∧ f a = b := by
  rw [map_eq_pure_bind, Reading.bind_eq_ok_iff]
  simp only [Reading.pure_eq_ok_iff]
  constructor
  · rintro ⟨a, mid, ha, rfl, rfl⟩
    exact ⟨a, ha, rfl⟩
  · rintro ⟨a, ha, rfl⟩
    exact ⟨a, last, ha, rfl, rfl⟩

theorem Reading.throw_ne_ok (fault : ReadFault) (b : β) :
    (throw fault : Reading β).run count ≠ .ok (b, last) := nofun

theorem refuse_ne_ok [ScalarForm σ] (expected : String) (node : Node σ) (b : β) :
    (refuse site expected node : Reading β).run count ≠ .ok (b, last) := by
  cases node with
  | scalar s =>
    simp only [refuse]
    cases ScalarForm.reject s expected with
    | some complaint => exact Reading.throw_ne_ok _ b
    | none => exact Reading.throw_ne_ok _ b
  | link anchor => exact Reading.throw_ne_ok _ b
  | sequence tag items => exact Reading.throw_ne_ok _ b
  | mapping tag entries => exact Reading.throw_ne_ok _ b
  | cut => exact Reading.throw_ne_ok _ b

theorem run_ignoreValue_eq_ok_iff {value : Node σ} :
    (ignoreValue value).run count = .ok ((), last) ↔ value.isWhole = true ∧ count = last := by
  unfold ignoreValue
  split
  next hwhole => exact Reading.pure_eq_ok_iff.trans (by simp [hwhole])
  next hwhole => exact iff_of_false (Reading.throw_ne_ok _ ()) fun h => hwhole h.1

/-! ## Entries -/

/-- The entries of a mapping are read as the members of a list, in order. `R key value before b
after` says that an entry is read as `b`, where `before` aliases have been followed, and `after`
then. -/
inductive EntriesRead (R : Node σ → Node σ → Nat → β → Nat → Prop) :
    List (Node σ × Node σ) → Nat → List β → Nat → Prop where
  | nil (count : Nat) : EntriesRead R [] count [] count
  | cons {key value : Node σ} {nodes : List (Node σ × Node σ)} {b : β} {bs : List β}
      {before mid after : Nat} (hcut : key ≠ .cut) (hentry : R key value before b mid)
      (hrest : EntriesRead R nodes mid bs after) :
      EntriesRead R ((key, value) :: nodes) before (b :: bs) after

/-- What is built from some entries is built from what they are read as, if this holds of each. -/
theorem foldEntries_eq_ok_iff {R : Node σ → Node σ → Nat → β → Nat → Prop}
    {absorb : Site σ → α → Node σ → Node σ → Reading α} {step : α → β → α}
    (habsorb : ∀ built key value before made after,
      (absorb site built key value).run before = .ok (made, after) ↔
        ∃ b, R key value before b after ∧ step built b = made)
    {nodes : List (Node σ × Node σ)} {built made : α} :
    (foldEntries absorb site built nodes).run count = .ok (made, last) ↔
      ∃ bs, EntriesRead R nodes count bs last ∧ bs.foldl step built = made := by
  -- An entry starts from what the entries before it have built and from their count of aliases.
  induction nodes generalizing built count with
  | nil =>
    rw [foldEntries]
    constructor
    · intro h
      obtain ⟨rfl, rfl⟩ := Reading.pure_eq_ok_iff.mp h
      exact ⟨[], .nil count, rfl⟩
    · rintro ⟨bs, hread, rfl⟩
      cases hread
      rfl
  | cons entry nodes ih =>
    obtain ⟨key, value⟩ := entry
    by_cases hcut : key = .cut
    · subst hcut
      rw [foldEntries]
      refine iff_of_false (Reading.throw_ne_ok _ made) ?_
      rintro ⟨bs, hread, -⟩
      cases hread with
      | cons hcut => exact hcut rfl
    · rw [foldEntries.eq_3 _ _ _ _ _ _ hcut, Reading.bind_eq_ok_iff]
      simp only [habsorb, ih]
      constructor
      · rintro ⟨_, mid, ⟨b, hentry, rfl⟩, bs, hrest, rfl⟩
        exact ⟨b :: bs, .cons hcut hentry hrest, rfl⟩
      · rintro ⟨bs, hread, rfl⟩
        cases hread with
        | cons _ hentry hrest => exact ⟨_, _, ⟨_, hentry, rfl⟩, _, hrest, rfl⟩

/-! ## Mappings -/

variable [ScalarForm σ]

/-- A node is read as a mapping whose entries are read as the members of a list. It is a mapping, or
it stands for one, or it is a scalar that stands for one without entries. -/
inductive MappingRead (R : Node σ → Node σ → Nat → β → Nat → Prop) (site : Site σ) (node : Node σ)
    (count : Nat) : List β → Nat → Prop where
  | entries {tag : Option String} {nodes : List (Node σ × Node σ)} {bs : List β} {mid last : Nat}
      (hnode : (follow site node).run count = .ok (.mapping tag nodes, mid))
      (hread : EntriesRead R nodes mid bs last) : MappingRead R site node count bs last
  | empty {s : σ} {last : Nat} (hnode : (follow site node).run count = .ok (.scalar s, last))
      (hempty : ScalarForm.standsForEmpty s = true) : MappingRead R site node count [] last

theorem readMapping_eq_ok_iff {R : Node σ → Node σ → Nat → β → Nat → Prop} {expected : String}
    {absorb : Site σ → α → Node σ → Node σ → Reading α} {step : α → β → α}
    (habsorb : ∀ built key value before made after,
      (absorb site built key value).run before = .ok (made, after) ↔
        ∃ b, R key value before b after ∧ step built b = made)
    {start made : α} {node : Node σ} :
    (readMapping expected absorb start site node).run count = .ok (made, last) ↔
      ∃ bs, MappingRead R site node count bs last ∧ bs.foldl step start = made := by
  rw [readMapping, Reading.bind_eq_ok_iff]
  constructor
  · rintro ⟨found, mid, hfound, h⟩
    cases found with
    | mapping tag nodes =>
      obtain ⟨bs, hread, hmade⟩ := (foldEntries_eq_ok_iff habsorb).mp h
      exact ⟨bs, .entries hfound hread, hmade⟩
    | scalar s =>
      simp only at h
      split at h
      next hempty =>
        obtain ⟨rfl, rfl⟩ := Reading.pure_eq_ok_iff.mp h
        exact ⟨[], .empty hfound hempty, rfl⟩
      next => exact absurd h (refuse_ne_ok expected _ made)
    | link anchor => exact absurd h (refuse_ne_ok expected _ made)
    | sequence tag items => exact absurd h (refuse_ne_ok expected _ made)
    | cut => exact absurd h (refuse_ne_ok expected _ made)
  · rintro ⟨bs, hread, hmade⟩
    cases hread with
    | entries hfound hentries =>
      exact ⟨_, _, hfound, (foldEntries_eq_ok_iff habsorb).mpr ⟨bs, hentries, hmade⟩⟩
    | empty hfound hempty =>
      refine ⟨_, _, hfound, ?_⟩
      simp only [hempty, if_true]
      exact Reading.pure_eq_ok_iff.mpr ⟨hmade, rfl⟩

/-- A key and a value are read as a member of a dictionary. -/
def MemberRead {κ : Type} (readKey : Reader σ κ) (read : Reader σ α) (site : Site σ)
    (key value : Node σ) (before : Nat) (member : κ × α) (after : Nat) : Prop :=
  ∃ mid, (readKey site key).run before = .ok (member.1, mid) ∧
    (read (site.step (keyStep key)) value).run mid = .ok (member.2, after)

/-- A dictionary is read from its members, where the last one with a key counts. -/
theorem readDict_eq_ok_iff {κ : Type} [DecidableEq κ] {readKey : Reader σ κ} {read : Reader σ α}
    {dict : Dict κ α} {node : Node σ} :
    (readDict readKey read site node).run count = .ok (dict, last) ↔
      ∃ members, MappingRead (MemberRead readKey read site) site node count members last ∧
        Dict.ofList members = dict := by
  apply readMapping_eq_ok_iff
  intro built key value before made after
  simp only [Reading.bind_eq_ok_iff, Reading.pure_eq_ok_iff]
  constructor
  · rintro ⟨k, mid, hkey, a, after', hvalue, rfl, rfl⟩
    exact ⟨(k, a), ⟨mid, hkey, hvalue⟩, rfl⟩
  · rintro ⟨⟨k, a⟩, ⟨mid, hkey, hvalue⟩, rfl⟩
    exact ⟨k, mid, hkey, a, after, hvalue, rfl, rfl⟩

/-- Mappings are read alike if each entry of one acts like the entry of the other. -/
theorem readMapping_congr {expected : String} {start : α}
    {absorb : Site σ → α → Node σ → Node σ → Reading α} {tag : Option String}
    {nodes others : List (Node σ × Node σ)}
    (h : List.Forall₂ (fun entry other => entry.1 = other.1 ∧ ∀ built,
      absorb site built entry.1 entry.2 = absorb site built other.1 other.2) nodes others) :
    readMapping expected absorb start site (.mapping tag nodes) =
      readMapping expected absorb start site (.mapping tag others) := by
  have hfold : ∀ built, foldEntries absorb site built nodes =
      foldEntries absorb site built others := by
    induction h with
    | nil => exact fun _ => rfl
    | @cons entry other nodes others hentry _ ih =>
      obtain ⟨key, value⟩ := entry
      obtain ⟨key', value'⟩ := other
      obtain ⟨rfl, habsorb⟩ := hentry
      intro built
      by_cases hcut : key = .cut
      · subst hcut
        rfl
      · rw [foldEntries.eq_3 _ _ _ _ _ _ hcut, foldEntries.eq_3 _ _ _ _ _ _ hcut]
        simp only [habsorb, ih]
  show (pure (Node.mapping tag nodes) >>= _ : Reading α) =
    (pure (Node.mapping tag others) >>= _ : Reading α)
  rw [pure_bind, pure_bind]
  exact hfold start

end ApiStencil

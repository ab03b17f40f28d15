import ApiStencil.Dict
import Mathlib.Data.List.Basic
import Mathlib.Data.List.Induction

/-!
# Dictionaries of lists

What a dictionary holds that is built from a list of entries. Place and value of a key follow
opposite rules: its place is that of its first entry, and its value is that of its last one.

## Main definitions

* `LastOf`: the value that the last of some members has, among those that have one

## Main results

* `Dict.keys_ofList`: the keys in the order of their first entries
* `Dict.get?_ofList_eq_some_iff`, `Dict.get?_ofList_filterMap_eq_some_iff`: the value of the last
  entry
* `Dict.insertAll_entries_ofList`: entries that are collected first are written as they are
-/

namespace ApiStencil

variable {κ α β : Type}

/-- The last of some members that has a value by `P` has the value `a`. -/
def LastOf (P : β → α → Prop) (bs : List β) (a : α) : Prop :=
  ∃ before b after, bs = before ++ b :: after ∧ P b a ∧
    ∀ later ∈ after, ∀ other, ¬ P later other

theorem not_lastOf_nil {P : β → α → Prop} {a : α} : ¬ LastOf P [] a := by
  rintro ⟨before, b, after, h, -⟩
  exact List.append_ne_nil_of_right_ne_nil before (List.cons_ne_nil b after) h.symm

/-- One more member at the end decides, unless it has no value. -/
theorem lastOf_concat_iff {P : β → α → Prop} {bs : List β} {last : β} {a : α} :
    LastOf P (bs ++ [last]) a ↔ P last a ∨ (∀ other, ¬ P last other) ∧ LastOf P bs a := by
  constructor
  · rintro ⟨before, b, after, hsplit, hb, hafter⟩
    rcases after.eq_nil_or_concat with rfl | ⟨after, final, rfl⟩
    · obtain ⟨-, hlast⟩ := List.append_inj' hsplit rfl
      obtain ⟨rfl, -⟩ := List.cons.inj hlast
      exact .inl hb
    · rw [List.concat_eq_append, ← List.cons_append, ← List.append_assoc] at hsplit
      obtain ⟨hbs, hlast⟩ := List.append_inj' hsplit rfl
      obtain ⟨rfl, -⟩ := List.cons.inj hlast
      refine .inr ⟨hafter last (by simp), before, b, after, hbs, hb, ?_⟩
      intro later hlater
      exact hafter later (by simp [hlater])
  · rintro (hlast | ⟨hlast, before, b, after, rfl, hb, hafter⟩)
    · exact ⟨bs, last, [], rfl, hlast, by simp⟩
    · refine ⟨before, b, after ++ [last], by simp, hb, ?_⟩
      intro later hlater
      rcases List.mem_append.mp hlater with hlater | hlater
      · exact hafter later hlater
      · rwa [List.mem_singleton.mp hlater]

/-- A member without a value makes no difference. -/
theorem lastOf_append_cons_iff {P : β → α → Prop} {front back : List β} {b : β} {a : α}
    (h : ∀ other, ¬ P b other) : LastOf P (front ++ b :: back) a ↔ LastOf P (front ++ back) a := by
  induction back using List.reverseRecOn generalizing a with
  | nil =>
    rw [lastOf_concat_iff, List.append_nil]
    exact ⟨fun hlast => (hlast.resolve_left (h a)).2, fun hfront => .inr ⟨h, hfront⟩⟩
  | append_singleton back last ih =>
    rw [← List.cons_append, ← List.append_assoc, ← List.append_assoc, lastOf_concat_iff,
      lastOf_concat_iff, ih]

/-- One more member at the end counts if it is new. -/
theorem eraseDups_concat [DecidableEq α] (as : List α) (a : α) :
    (as ++ [a]).eraseDups = if a ∈ as then as.eraseDups else as.eraseDups ++ [a] := by
  rw [List.eraseDups_append]
  by_cases ha : a ∈ as <;> simp [List.removeAll, ha, List.eraseDups_cons]

theorem eraseDups_eraseDups [DecidableEq α] (as : List α) :
    as.eraseDups.eraseDups = as.eraseDups := by
  induction as using List.reverseRecOn with
  | nil => rfl
  | append_singleton as a ih =>
    rw [eraseDups_concat]
    split
    next => exact ih
    next ha => rw [eraseDups_concat, if_neg (by rwa [List.mem_eraseDups]), ih]

/-- Members can be left out before or after it is looked for the first ones. -/
theorem eraseDups_filter [DecidableEq α] (p : α → Bool) (as : List α) :
    (as.filter p).eraseDups = as.eraseDups.filter p := by
  induction as using List.reverseRecOn with
  | nil => rfl
  | append_singleton as a ih =>
    rw [List.filter_append, eraseDups_concat]
    by_cases hp : p a
    · have hlast : [a].filter p = [a] := List.filter_cons_of_pos hp
      have hmem : a ∈ as.filter p ↔ a ∈ as := by simp [hp]
      rw [hlast, eraseDups_concat]
      by_cases ha : a ∈ as
      · rw [if_pos (hmem.mpr ha), if_pos ha, ih]
      · rw [if_neg (mt hmem.mp ha), if_neg ha, ih, List.filter_append, hlast]
    · have hlast : [a].filter p = [] := List.filter_cons_of_neg hp
      rw [hlast, List.append_nil, ih]
      split
      next => rfl
      next => rw [List.filter_append, hlast, List.append_nil]

namespace Dict

variable [DecidableEq κ]

/-- A dictionary is its keys in order with their values. -/
theorem entries_eq_filterMap_keys (d : Dict κ α) :
    d.entries = d.keys.filterMap fun k => (d.get? k).map (k, ·) := by
  have hsome : ∀ e ∈ d.entries, (d.get? e.1).map (e.1, ·) = some e := by
    intro e he
    rw [(d.get?_eq_some_iff e.1 e.2).mpr he]
    rfl
  rw [keys, List.filterMap_map]
  exact List.filterMap_some.symm.trans (List.filterMap_congr hsome).symm

/-- Dictionaries with the same keys in order and the same values are the same. -/
theorem eq_of_get? {d e : Dict κ α} (hkeys : d.keys = e.keys) (hget : ∀ k, d.get? k = e.get? k) :
    d = e := by
  apply Dict.ext
  rw [entries_eq_filterMap_keys, entries_eq_filterMap_keys, hkeys]
  simp only [hget]

/-- New keys come after those that are there, in the order of their first entries. -/
theorem keys_insertAll (d : Dict κ α) (es : List (κ × α)) :
    (d.insertAll es).keys = d.keys ++ ((es.map Prod.fst).filter (· ∉ d.keys)).eraseDups := by
  induction es generalizing d with
  | nil => simp [insertAll]
  | cons e es ih =>
    show ((d.insert e.1 e.2).insertAll es).keys = _
    rw [ih, keys_insert, List.map_cons]
    by_cases he : e.1 ∈ d.keys
    · rw [if_pos he, List.filter_cons_of_neg (by simpa using he)]
    · rw [if_neg he, List.filter_cons_of_pos (by simpa using he), List.eraseDups_cons,
        List.filter_filter, List.append_assoc, List.singleton_append]
      congr 3
      apply List.filter_congr
      intro k _
      by_cases hk : k = e.1 <;> simp [hk]

/-- The keys of a dictionary, in the order of their first entries. -/
theorem keys_ofList (es : List (κ × α)) : (ofList es).keys = (es.map Prod.fst).eraseDups := by
  rw [ofList, keys_insertAll, keys_empty, List.nil_append, List.filter_eq_self.mpr (by simp)]

theorem get?_ofList_concat (es : List (κ × α)) (e : κ × α) (k : κ) :
    (ofList (es ++ [e])).get? k = if k = e.1 then some e.2 else (ofList es).get? k := by
  rw [ofList, insertAll_append]
  exact get?_insert ..

/-- Entries that are written over a dictionary decide wherever they have a value. -/
theorem get?_insertAll_eq_or (d : Dict κ α) (es : List (κ × α)) (k : κ) :
    (d.insertAll es).get? k = ((ofList es).get? k).or (d.get? k) := by
  induction es using List.reverseRecOn with
  | nil => rfl
  | append_singleton es e ih =>
    have hstep : d.insertAll (es ++ [e]) = (d.insertAll es).insert e.1 e.2 :=
      insertAll_append d es [e]
    rw [hstep, get?_insert, get?_ofList_concat, ih]
    split <;> rfl

/-- Entries can be collected in a dictionary before they are written over another one: their keys
keep the order of the first entries, and their values are those of the last ones. -/
theorem insertAll_entries_ofList (d : Dict κ α) (es : List (κ × α)) :
    d.insertAll (ofList es).entries = d.insertAll es := by
  apply eq_of_get?
  · have hkeys : (ofList es).entries.map Prod.fst = (es.map Prod.fst).eraseDups := keys_ofList es
    rw [keys_insertAll, keys_insertAll, hkeys, ← eraseDups_filter, eraseDups_eraseDups]
  · intro k
    rw [get?_insertAll, get?_insertAll_eq_or]

/-- The value of a key is that of the last entry with this key that the members give. -/
theorem get?_ofList_filterMap_eq_some_iff {f : β → Option (κ × α)} {bs : List β} {k : κ} {a : α} :
    (ofList (bs.filterMap f)).get? k = some a ↔ LastOf (fun b a => f b = some (k, a)) bs a := by
  induction bs using List.reverseRecOn with
  | nil => exact iff_of_false nofun not_lastOf_nil
  | append_singleton bs last ih =>
    rw [lastOf_concat_iff, ← ih, List.filterMap_append]
    cases hlast : f last with
    | none => simp [hlast]
    | some e =>
      rw [List.filterMap_cons_some hlast, List.filterMap_nil, get?_ofList_concat]
      by_cases hk : k = e.1
      · simp [hk, Prod.ext_iff]
      · have hne : ∀ a, ¬ e = (k, a) := fun a heq => hk (congrArg Prod.fst heq).symm
        simp [hk, hne]

theorem get?_ofList_filterMap_eq_none_iff {f : β → Option (κ × α)} {bs : List β} {k : κ} :
    (ofList (bs.filterMap f)).get? k = none ↔ ∀ b ∈ bs, ∀ a, f b ≠ some (k, a) := by
  rw [get?_eq_none_iff, keys_ofList, List.mem_eraseDups]
  constructor
  · intro h b hb a hf
    exact h (List.mem_map.mpr ⟨(k, a), List.mem_filterMap.mpr ⟨b, hb, hf⟩, rfl⟩)
  · intro h hk
    obtain ⟨e, he, rfl⟩ := List.mem_map.mp hk
    obtain ⟨b, hb, hf⟩ := List.mem_filterMap.mp he
    exact h b hb e.2 hf

/-- The value of a key is that of its last entry. -/
theorem get?_ofList_eq_some_iff {es : List (κ × α)} {k : κ} {a : α} :
    (ofList es).get? k = some a ↔ LastOf (fun e a => e = (k, a)) es a := by
  have h : (ofList (es.filterMap some)).get? k = some a ↔ _ := get?_ofList_filterMap_eq_some_iff
  simpa only [List.filterMap_some, Option.some.injEq] using h

end Dict

end ApiStencil

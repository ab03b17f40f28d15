/-!
# Ordered dictionaries

A dictionary that remembers the order of its keys. A new key goes to the end; a key that is already
there keeps its place and takes the new value.

## Main definitions

* `Dict` - the entries of a dictionary, with no key twice.
* `Dict.insert`, `Dict.get?`, `Dict.keys`, `Dict.ofList` - writing, reading and building.

## Main results

* `Dict.keys_insert` - the keys after a write.
* `Dict.get?_insert` - the values after a write.
* `Dict.entries_ofList` - the dictionary of entries whose keys differ.
* `Dict.get?_eq_some_iff` - reading a key is finding its entry.
* `Dict.get?_insertAll` - one dictionary written over another.
-/

namespace ApiStencil

/-- A dictionary from `κ` to `α` in the order of its keys. -/
structure Dict (κ α : Type) where
  /-- The entries, in the order of the keys. -/
  entries : List (κ × α)
  /-- No key has two entries. -/
  nodup_keys : (entries.map Prod.fst).Nodup

namespace Dict

variable {κ α β : Type}

@[ext] theorem ext {d e : Dict κ α} (h : d.entries = e.entries) : d = e := by
  cases d; cases e; cases h; rfl

instance [DecidableEq κ] [DecidableEq α] : DecidableEq (Dict κ α) := fun d e =>
  decidable_of_iff (d.entries = e.entries) ⟨ext, fun h => h ▸ rfl⟩

/-- The dictionary without entries. -/
def empty : Dict κ α where
  entries := []
  nodup_keys := List.nodup_nil

instance : Inhabited (Dict κ α) := ⟨empty⟩

/-- The keys in order. -/
def keys (d : Dict κ α) : List κ := d.entries.map Prod.fst

/-- The values in the order of their keys. -/
def values (d : Dict κ α) : List α := d.entries.map Prod.snd

/-- The number of entries. -/
def size (d : Dict κ α) : Nat := d.entries.length

@[simp] theorem keys_empty : (empty : Dict κ α).keys = [] := rfl

theorem keys_nodup (d : Dict κ α) : d.keys.Nodup := d.nodup_keys

/-- Applies a function to every value. -/
def mapValues (f : α → β) (d : Dict κ α) : Dict κ β where
  entries := d.entries.map fun (k, v) => (k, f v)
  nodup_keys := by
    have h : (d.entries.map fun (k, v) => (k, f v)).map Prod.fst = d.keys := by
      simp [keys, Function.comp_def]
    exact h ▸ d.nodup_keys

variable [DecidableEq κ]

/-- Writes one entry into a list of entries. -/
def putEntry (k : κ) (v : α) : List (κ × α) → List (κ × α)
  | [] => [(k, v)]
  | e :: es => if e.1 = k then (k, v) :: es else e :: putEntry k v es

theorem map_fst_putEntry (k : κ) (v : α) (es : List (κ × α)) :
    (putEntry k v es).map Prod.fst =
      if k ∈ es.map Prod.fst then es.map Prod.fst else es.map Prod.fst ++ [k] := by
  induction es with
  | nil => simp [putEntry]
  | cons e es ih =>
    by_cases h : e.1 = k
    · simp [putEntry, h]
    · have h' : ¬ k = e.1 := fun hk => h hk.symm
      by_cases hm : k ∈ es.map Prod.fst <;> simp_all [putEntry]

/-- Gives `k` the value `v`. -/
def insert (d : Dict κ α) (k : κ) (v : α) : Dict κ α where
  entries := putEntry k v d.entries
  nodup_keys := by
    rw [map_fst_putEntry]
    split
    · exact d.nodup_keys
    · rename_i h
      refine List.nodup_append.mpr ⟨d.nodup_keys, by simp, ?_⟩
      intro a ha b hb hab
      simp only [List.mem_singleton] at hb
      exact h (hb ▸ hab ▸ ha)

/-- The value of `k`, if it has one. -/
def get? (d : Dict κ α) (k : κ) : Option α :=
  (d.entries.find? (·.1 = k)).map Prod.snd

/-- Whether `k` has a value. -/
def contains (d : Dict κ α) (k : κ) : Bool := (d.get? k).isSome

/-- Writes the entries of a list one after the other. -/
def insertAll (d : Dict κ α) (es : List (κ × α)) : Dict κ α :=
  es.foldl (fun d e => d.insert e.1 e.2) d

/-- The dictionary of a list of entries, in which the last value of a key counts. -/
def ofList (es : List (κ × α)) : Dict κ α := empty.insertAll es

/-- The entries whose keys satisfy `p`. -/
def filterKeys (p : κ → Bool) (d : Dict κ α) : Dict κ α where
  entries := d.entries.filter fun e => p e.1
  nodup_keys := d.nodup_keys.sublist ((List.filter_sublist).map _)

theorem keys_insert (d : Dict κ α) (k : κ) (v : α) :
    (d.insert k v).keys = if k ∈ d.keys then d.keys else d.keys ++ [k] :=
  map_fst_putEntry k v d.entries

theorem get?_insert (d : Dict κ α) (k j : κ) (v : α) :
    (d.insert k v).get? j = if j = k then some v else d.get? j := by
  have h : ∀ es : List (κ × α),
      ((putEntry k v es).find? (·.1 = j)).map Prod.snd =
        if j = k then some v else (es.find? (·.1 = j)).map Prod.snd := by
    intro es
    induction es with
    | nil => by_cases hj : k = j <;> simp [putEntry, hj, eq_comm]
    | cons e es ih =>
      by_cases he : e.1 = k
      · by_cases hj : k = j
        · simp [putEntry, he, hj]
        · have hj' : ¬ j = k := fun h => hj h.symm
          simp [putEntry, he, hj, hj']
      · by_cases hej : e.1 = j
        · have hj' : ¬ j = k := fun h => he (hej.trans h)
          simp [putEntry, hej, hj']
        · simp only [putEntry, if_neg he, List.find?_cons, decide_eq_false hej]
          exact ih
  exact h d.entries

theorem putEntry_of_notMem {k : κ} {es : List (κ × α)} (v : α) (h : k ∉ es.map Prod.fst) :
    putEntry k v es = es ++ [(k, v)] := by
  induction es with
  | nil => rfl
  | cons e es ih =>
    rw [List.map_cons, List.mem_cons, not_or] at h
    rw [putEntry, if_neg fun he => h.1 he.symm, ih h.2, List.cons_append]

theorem entries_insertAll (d : Dict κ α) {es : List (κ × α)}
    (h : ((d.entries ++ es).map Prod.fst).Nodup) : (d.insertAll es).entries = d.entries ++ es := by
  induction es generalizing d with
  | nil => simp [insertAll]
  | cons e es ih =>
    have hnew : e.1 ∉ d.entries.map Prod.fst := by
      rw [List.map_append, List.map_cons, List.nodup_append] at h
      exact fun hmem => h.2.2 _ hmem _ (List.mem_cons_self ..) rfl
    have hinsert : (d.insert e.1 e.2).entries = d.entries ++ [e] := putEntry_of_notMem e.2 hnew
    have hrest : (d.insertAll (e :: es)).entries = (d.insert e.1 e.2).entries ++ es :=
      ih (d.insert e.1 e.2) (by rw [hinsert]; simpa using h)
    rw [hrest, hinsert, List.append_assoc, List.singleton_append]

/-- Entries whose keys differ make the dictionary that holds them. -/
theorem entries_ofList {es : List (κ × α)} (h : (es.map Prod.fst).Nodup) :
    (ofList es).entries = es :=
  entries_insertAll empty h

/-- Reading a key is finding its entry. -/
theorem get?_eq_some_iff (d : Dict κ α) (k : κ) (v : α) :
    d.get? k = some v ↔ (k, v) ∈ d.entries := by
  have h : ∀ es : List (κ × α), (es.map Prod.fst).Nodup →
      ((es.find? (·.1 = k)).map Prod.snd = some v ↔ (k, v) ∈ es) := by
    intro es
    induction es with
    | nil => simp
    | cons e es ih =>
      intro hn
      obtain ⟨hne, hn'⟩ := List.nodup_cons.mp hn
      by_cases he : e.1 = k
      · have hk : (k, v) ∉ es := fun hm =>
          hne (by rw [he]; exact List.mem_map.mpr ⟨_, hm, rfl⟩)
        simp [he, hk, Prod.ext_iff, eq_comm]
      · have hk : (k, v) ≠ e := fun hm => he (hm ▸ rfl)
        simp [he, hk, ih hn']
  exact h d.entries d.nodup_keys

/-- A key has the entry that is read for it, and no other. -/
theorem filter_entries (d : Dict κ α) (k : κ) :
    d.entries.filter (·.1 = k) = ((d.get? k).map (k, ·)).toList := by
  have h : ∀ es : List (κ × α), (es.map Prod.fst).Nodup →
      es.filter (·.1 = k) = (((es.find? (·.1 = k)).map Prod.snd).map (k, ·)).toList := by
    intro es
    induction es with
    | nil => simp
    | cons e es ih =>
      intro hnodup
      obtain ⟨hnew, hnodup⟩ := List.nodup_cons.mp hnodup
      by_cases he : e.1 = k
      · have hrest : es.filter (·.1 = k) = [] := by
          rw [List.filter_eq_nil_iff]
          intro other hother hkey
          exact hnew (List.mem_map.mpr ⟨other, hother, (of_decide_eq_true hkey).trans he.symm⟩)
        simp [he, hrest, Prod.ext_iff]
      · simpa [he] using ih hnodup
  exact h d.entries d.nodup_keys

/-- Writing all entries of a dictionary puts it over the one that is there. -/
theorem get?_insertAll (d e : Dict κ α) (k : κ) :
    (d.insertAll e.entries).get? k = (e.get? k).or (d.get? k) := by
  have h : ∀ (es : List (κ × α)) (d : Dict κ α), (es.map Prod.fst).Nodup →
      (d.insertAll es).get? k = ((es.find? (·.1 = k)).map Prod.snd).or (d.get? k) := by
    intro es
    induction es with
    | nil => simp [insertAll]
    | cons e es ih =>
      intro d hnodup
      obtain ⟨hnew, hnodup⟩ := List.nodup_cons.mp hnodup
      have hstep : d.insertAll (e :: es) = (d.insert e.1 e.2).insertAll es := rfl
      rw [hstep, ih _ hnodup, get?_insert]
      by_cases he : e.1 = k
      · have hrest : es.find? (·.1 = k) = none := by
          rw [List.find?_eq_none]
          intro other hother hkey
          exact hnew (List.mem_map.mpr ⟨other, hother, (of_decide_eq_true hkey).trans he.symm⟩)
        simp [he, hrest]
      · have hk : ¬ k = e.1 := fun h => he h.symm
        simp [he, hk]
  exact h e.entries d e.nodup_keys

theorem insertAll_append (d : Dict κ α) (es more : List (κ × α)) :
    d.insertAll (es ++ more) = (d.insertAll es).insertAll more :=
  List.foldl_append

theorem mem_keys_iff (d : Dict κ α) {k : κ} : k ∈ d.keys ↔ ∃ v, d.get? k = some v := by
  simp only [get?_eq_some_iff, keys, List.mem_map, Prod.exists]
  constructor
  · rintro ⟨_, v, hmem, rfl⟩
    exact ⟨v, hmem⟩
  · rintro ⟨v, hmem⟩
    exact ⟨k, v, hmem, rfl⟩

theorem get?_eq_none_iff (d : Dict κ α) {k : κ} : d.get? k = none ↔ k ∉ d.keys := by
  rw [mem_keys_iff]
  cases d.get? k <;> simp

omit [DecidableEq κ] in
theorem keys_filterKeys (p : κ → Bool) (d : Dict κ α) :
    (d.filterKeys p).keys = d.keys.filter p := by
  simp [keys, filterKeys, List.filter_map, Function.comp_def]

theorem get?_filterKeys (p : κ → Bool) (d : Dict κ α) (k : κ) :
    (d.filterKeys p).get? k = if p k then d.get? k else none := by
  have h : ∀ es : List (κ × α),
      (es.filter fun e => p e.1).find? (·.1 = k) =
        if p k then es.find? (·.1 = k) else none := by
    intro es
    induction es with
    | nil => simp
    | cons e es ih =>
      by_cases he : e.1 = k
      · cases hp : p k <;> simp [he, hp, ih]
      · cases hp : p e.1 <;> simp [he, hp, ih]
  simp only [get?, filterKeys, h]
  cases p k <;> rfl

end Dict

end ApiStencil

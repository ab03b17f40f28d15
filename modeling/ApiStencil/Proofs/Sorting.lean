import ApiStencil.Endpoint.Basic
import Mathlib.Data.String.Basic

/-!
# Sorting by names

Properties, arguments and endpoints are sorted by a name of theirs, and those of one name keep their
order. There is only one such list, so what is picked from a sorted list is the sorted list of what
is picked.

## Main definitions

* `IsStableSort`: a list in the order of its names that keeps the order within each name

## Main results

* `isStableSort_sortDescending`, `isStableSort_sortProperties`, `isStableSort_sortEndpoints`: how
  arguments, properties and endpoints are sorted
* `IsStableSort.unique`: a list has only one sorted list
* `IsStableSort.filter`, `sortDescending_filter`: what is picked from a sorted list
* `IsStableSort.pairwise_lt`: names that differ are in strict order
-/

namespace ApiStencil

variable {α τ ρ : Type} {r : String → String → Prop} {key : α → String}
  {list sorted other : List α}

/-- `sorted` has the members of `list`. Their names are in the order `r`, and members of one name
are in the order that they have in `list`. -/
structure IsStableSort (r : String → String → Prop) (key : α → String) (list sorted : List α) :
    Prop where
  perm : sorted.Perm list
  ordered : sorted.Pairwise fun a b => r (key a) (key b)
  stable : ∀ name, sorted.filter (key · = name) = list.filter (key · = name)

/-! ## There is a sorted list, and only one -/

theorem isStableSort_mergeSort [DecidableRel r] (key : α → String) (list : List α)
    (htrans : ∀ a b c, r a b → r b c → r a c) (htotal : ∀ a b, r a b ∨ r b a) :
    IsStableSort r key list (list.mergeSort fun a b => r (key a) (key b)) := by
  have hle : ∀ a b c : α, decide (r (key a) (key b)) = true →
      decide (r (key b) (key c)) = true → decide (r (key a) (key c)) = true := by
    intro a b c hab hbc
    exact decide_eq_true (htrans _ _ _ (of_decide_eq_true hab) (of_decide_eq_true hbc))
  have hor : ∀ a b : α, (decide (r (key a) (key b)) || decide (r (key b) (key a))) = true := by
    intro a b
    simpa using htotal (key a) (key b)
  have hperm := List.mergeSort_perm list fun a b => decide (r (key a) (key b))
  refine ⟨hperm, (List.pairwise_mergeSort hle hor list).imp of_decide_eq_true, fun name => ?_⟩
  have hname : (list.filter (key · = name)).Pairwise
      fun a b => decide (r (key a) (key b)) = true := by
    refine List.pairwise_of_forall_mem_list fun a ha b hb => decide_eq_true ?_
    rw [of_decide_eq_true (List.mem_filter.mp ha).2, of_decide_eq_true (List.mem_filter.mp hb).2]
    exact (htotal name name).elim id id
  have hsublist := (List.sublist_mergeSort hle hor hname List.filter_sublist).filter (key · = name)
  simp only [List.filter_filter, Bool.and_self] at hsublist
  exact (hsublist.eq_of_length (hperm.filter _).length_eq.symm).symm

/-- Two lists in order are the same if they have the same members of each name in the same order. -/
theorem eq_of_ordered (hanti : ∀ a b, r a b → r b a → a = b)
    (h : sorted.Pairwise fun a b => r (key a) (key b))
    (h' : other.Pairwise fun a b => r (key a) (key b))
    (hstable : ∀ name, sorted.filter (key · = name) = other.filter (key · = name)) :
    sorted = other := by
  induction sorted generalizing other with
  | nil =>
    refine (List.eq_nil_iff_forall_not_mem.mpr fun b hb => ?_).symm
    have hmem : b ∈ ([] : List α).filter (key · = key b) := by
      rw [hstable]
      exact List.mem_filter.mpr ⟨hb, decide_eq_true rfl⟩
    cases hmem
  | cons a sorted ih =>
    have hmem : ∀ c, c ∈ a :: sorted ↔ c ∈ other := by
      intro c
      have hfilter := congrArg (c ∈ ·) (hstable (key c))
      simpa only [List.mem_filter, decide_true, and_true, eq_iff_iff] using hfilter
    cases other with
    | nil => cases (hmem a).mp List.mem_cons_self
    | cons b other =>
      rw [List.pairwise_cons] at h h'
      have hkey : key a = key b := by
        rcases List.mem_cons.mp ((hmem a).mp List.mem_cons_self) with rfl | ha
        · rfl
        rcases List.mem_cons.mp ((hmem b).mpr List.mem_cons_self) with rfl | hb
        · rfl
        exact hanti _ _ (h.1 b hb) (h'.1 a ha)
      have hfirst := hstable (key a)
      rw [List.filter_cons_of_pos (by simp), List.filter_cons_of_pos (by simp [hkey])] at hfirst
      obtain rfl := (List.cons.inj hfirst).1
      refine congrArg (a :: ·) (ih h.2 h'.2 fun name => ?_)
      by_cases hname : key a = name
      · subst hname
        exact (List.cons.inj hfirst).2
      · have hrest := hstable name
        rwa [List.filter_cons_of_neg (by simpa using hname),
          List.filter_cons_of_neg (by simpa using hname)] at hrest

namespace IsStableSort

theorem unique (hanti : ∀ a b, r a b → r b a → a = b) (h : IsStableSort r key list sorted)
    (h' : IsStableSort r key list other) : sorted = other :=
  eq_of_ordered hanti h.ordered h'.ordered fun name => (h.stable name).trans (h'.stable name).symm

theorem filter (h : IsStableSort r key list sorted) (p : α → Bool) :
    IsStableSort r key (list.filter p) (sorted.filter p) where
  perm := h.perm.filter p
  ordered := h.ordered.filter p
  stable name := by
    rw [List.filter_comm, h.stable, List.filter_comm]

/-- Names that differ are in strict order. -/
theorem pairwise_lt (h : IsStableSort (· ≤ ·) key list sorted) (hnodup : (list.map key).Nodup) :
    sorted.Pairwise fun a b => key a < key b := by
  have hne : sorted.Pairwise fun a b => key a ≠ key b :=
    List.pairwise_map.mp ((h.perm.map key).nodup_iff.mpr hnodup)
  exact (h.ordered.and hne).imp fun hab => lt_of_le_of_ne hab.1 hab.2

end IsStableSort

/-! ## Properties, arguments and endpoints -/

theorem isStableSort_sortProperties (properties : List (ModelProperty τ)) :
    IsStableSort (· ≤ ·) (·.name) properties (sortProperties properties) :=
  isStableSort_mergeSort _ _ (fun _ _ _ => String.le_trans) String.le_total

theorem isStableSort_sortEndpoints (endpoints : List (Endpoint τ ρ)) :
    IsStableSort (· ≤ ·) (·.method) endpoints (sortEndpoints endpoints) :=
  isStableSort_mergeSort _ _ (fun _ _ _ => String.le_trans) String.le_total

theorem isStableSort_sortDescending (arguments : List (Argument τ)) :
    IsStableSort (· ≥ ·) (·.name) arguments (sortDescending arguments) :=
  isStableSort_mergeSort _ _ (fun _ _ _ hab hbc => String.le_trans hbc hab)
    fun a b => String.le_total b a

/-- What is picked from the sorted arguments is what is picked from the arguments, sorted. -/
theorem sortDescending_filter (p : Argument τ → Bool) (arguments : List (Argument τ)) :
    sortDescending (arguments.filter p) = (sortDescending arguments).filter p :=
  (isStableSort_sortDescending _).unique (fun _ _ hab hba => String.le_antisymm hba hab)
    ((isStableSort_sortDescending arguments).filter p)

/-- Properties are sorted by their names alone. -/
theorem sortProperties_map {σ τ : Type} {f : ModelProperty σ → ModelProperty τ}
    (h : ∀ p, (f p).name = p.name) (properties : List (ModelProperty σ)) :
    sortProperties (properties.map f) = (sortProperties properties).map f := by
  refine (List.map_mergeSort fun a _ b _ => ?_).symm
  rw [h, h]

/-- Endpoints are sorted by their methods alone. -/
theorem sortEndpoints_map {σ : Type} {π : Type} {f : Endpoint σ π → Endpoint τ ρ}
    (h : ∀ e, (f e).method = e.method) (endpoints : List (Endpoint σ π)) :
    sortEndpoints (endpoints.map f) = (sortEndpoints endpoints).map f := by
  refine (List.map_mergeSort fun a _ b _ => ?_).symm
  rw [h, h]

/-- Arguments are sorted by their names alone. -/
theorem sortDescending_map {σ τ : Type} {f : Argument σ → Argument τ} (h : ∀ a, (f a).name = a.name)
    (arguments : List (Argument σ)) :
    sortDescending (arguments.map f) = (sortDescending arguments).map f := by
  refine (List.map_mergeSort fun a _ b _ => ?_).symm
  rw [h, h]

end ApiStencil

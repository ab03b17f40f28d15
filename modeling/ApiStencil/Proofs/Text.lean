import ApiStencil.Text.Split
import Mathlib.Data.List.Infix
import Mathlib.Data.List.TakeWhile

/-!
# Cutting texts

What is left of a list without its end, and the parts of a text between separators.

## Main definitions

* `Text.WithoutEnding`: a text without an ending

## Main results

* `Text.dropWhileEnd_eq_append`, `Text.exists_dropWhileEnd_append`: a list without its end
* `Text.dropEnding_eq_iff`, `Text.dropEnding_append_cons`: a text without an ending
* `Text.notMem_of_mem_splitOn`, `Text.splitOn_append`: the parts of a text
-/

namespace ApiStencil.Text

/-! ## Lists without their end -/

theorem dropWhileEnd_isPrefix {α : Type} (p : α → Bool) (s : List α) :
    dropWhileEnd p s <+: s := by
  obtain ⟨taken, h⟩ := List.dropWhile_suffix p (l := s.reverse)
  exact ⟨taken.reverse, by rw [dropWhileEnd, ← List.reverse_append, h, List.reverse_reverse]⟩

/-- What is left of a list ends in the last member that does not satisfy `p`. -/
theorem dropWhileEnd_eq_append {α : Type} (p : α → Bool) {s init : List α} {last : α}
    (h : s.filter (!p ·) = init ++ [last]) :
    ∃ before, dropWhileEnd p s = before ++ [last] ∧ before.filter (!p ·) = init := by
  induction s using List.reverseRecOn with
  | nil => simp at h
  | append_singleton s a ih =>
    by_cases ha : p a = true
    · have hs : s.filter (!p ·) = init ++ [last] := by simpa [List.filter_append, ha] using h
      simpa [dropWhileEnd, ha] using ih hs
    · have hs := h
      rw [List.filter_append] at hs
      obtain ⟨hinit, hlast⟩ := List.append_inj' hs (by simp [ha])
      obtain rfl : a = last := by simpa [ha] using hlast
      exact ⟨s, by simp [dropWhileEnd, ha], hinit⟩

theorem filter_dropWhileEnd {α : Type} (p : α → Bool) (s : List α) :
    (dropWhileEnd p s).filter (!p ·) = s.filter (!p ·) := by
  induction s using List.reverseRecOn with
  | nil => rfl
  | append_singleton s a ih =>
    by_cases ha : p a = true
    · simpa [dropWhileEnd, List.filter_append, ha] using ih
    · simp [dropWhileEnd, ha]

theorem dropWhileEnd_concat_of_neg {α : Type} {p : α → Bool} (s : List α) {a : α}
    (h : p a = false) : dropWhileEnd p (s ++ [a]) = s ++ [a] := by
  simp [dropWhileEnd, h]

/-- What is left of a list does not end in a member that satisfies `p`. -/
theorem not_of_dropWhileEnd_eq_append {α : Type} {p : α → Bool} {s init : List α} {last : α}
    (h : dropWhileEnd p s = init ++ [last]) : p last = false := by
  induction s using List.reverseRecOn with
  | nil => simp [dropWhileEnd] at h
  | append_singleton s a ih =>
    cases ha : p a with
    | true => exact ih (by simpa [dropWhileEnd, ha] using h)
    | false =>
      rw [dropWhileEnd_concat_of_neg s ha] at h
      cases (List.append_inj' h rfl).2
      exact ha

/-- What is dropped from the end of a list satisfies `p`. -/
theorem exists_dropWhileEnd_append {α : Type} (p : α → Bool) (s : List α) :
    ∃ dropped, s = dropWhileEnd p s ++ dropped ∧ ∀ a ∈ dropped, p a = true := by
  refine ⟨(s.reverse.takeWhile p).reverse, ?_, fun a ha => ?_⟩
  · rw [dropWhileEnd, ← List.reverse_append, List.takeWhile_append_dropWhile, List.reverse_reverse]
  · exact List.mem_takeWhile_imp (List.mem_reverse.mp ha)

/-! ## Endings -/

theorem dropEnding_isPrefix (ending s : List Char) : dropEnding ending s <+: s := by
  rw [dropEnding]
  cases h : ending.isSuffixOf? s with
  | none => exact List.prefix_rfl
  | some rest => exact ⟨ending, List.isSuffixOf?_eq_some_iff_append_eq.mp h⟩

/-- `out` is `s` without one ending, or `s` itself if it does not end so. -/
def WithoutEnding (ending s out : List Char) : Prop :=
  s = out ++ ending ∨ s = out ∧ ¬ending <:+ s

theorem dropEnding_eq_iff {ending s out : List Char} :
    dropEnding ending s = out ↔ WithoutEnding ending s out := by
  rw [dropEnding, WithoutEnding]
  cases h : ending.isSuffixOf? s with
  | some rest =>
    have hrest := List.isSuffixOf?_eq_some_iff_append_eq.mp h
    have hsuffix : ending <:+ s := ⟨rest, hrest⟩
    rw [Option.getD_some, ← hrest, List.append_left_inj, hrest]
    simp [hsuffix]
  | none =>
    have hsuffix : ¬ending <:+ s := by
      rintro ⟨rest, hrest⟩
      rw [List.isSuffixOf?_eq_some_iff_append_eq.mpr hrest] at h
      cases h
    have hlonger : s ≠ out ++ ending := fun heq => hsuffix ⟨out, heq.symm⟩
    rw [Option.getD_none]
    simp [hsuffix, hlonger]

/-- An ending does not reach over a character that it does not have. -/
theorem dropEnding_append_cons {ending : List Char} {c : Char} (h : c ∉ ending)
    (front rest : List Char) :
    dropEnding ending (front ++ c :: rest) = front ++ c :: dropEnding ending rest := by
  rw [dropEnding, dropEnding]
  cases hrest : ending.isSuffixOf? rest with
  | some out =>
    have hout := List.isSuffixOf?_eq_some_iff_append_eq.mp hrest
    have hwhole : ending.isSuffixOf? (front ++ c :: rest) = some (front ++ c :: out) :=
      List.isSuffixOf?_eq_some_iff_append_eq.mpr (by simp [hout])
    rw [hwhole, Option.getD_some, Option.getD_some]
  | none =>
    have hwhole : ending.isSuffixOf? (front ++ c :: rest) = none := by
      refine Option.eq_none_iff_forall_ne_some.mpr fun out hout => ?_
      have hending : ending <:+ front ++ c :: rest :=
        ⟨out, List.isSuffixOf?_eq_some_iff_append_eq.mp hout⟩
      rcases List.suffix_or_suffix_of_suffix hending (List.suffix_append front (c :: rest)) with
        hshort | hlong
      · rcases List.suffix_cons_iff.mp hshort with rfl | ⟨before, hbefore⟩
        · exact h List.mem_cons_self
        · rw [List.isSuffixOf?_eq_some_iff_append_eq.mpr hbefore] at hrest
          cases hrest
      · exact h (hlong.subset List.mem_cons_self)
    rw [hwhole, Option.getD_none, Option.getD_none]

theorem dropEnding_replicate_append {ending : List Char} {c : Char} (h : c ∉ ending) (n : Nat)
    (rest : List Char) :
    dropEnding ending (List.replicate n c ++ rest) =
      List.replicate n c ++ dropEnding ending rest := by
  cases n with
  | zero => rfl
  | succ n =>
    rw [List.replicate_succ', List.append_assoc, List.append_assoc, List.singleton_append,
      List.singleton_append, dropEnding_append_cons h]

/-- A text is what it has of a character at its start, and the rest. -/
theorem exists_replicate_append_dropWhile (c : Char) (s : List Char) :
    ∃ n, s = List.replicate n c ++ s.dropWhile (· = c) := by
  refine ⟨(s.takeWhile (· = c)).length, ?_⟩
  have hall : s.takeWhile (· = c) = List.replicate (s.takeWhile (· = c)).length c := by
    refine List.eq_replicate_iff.mpr ⟨rfl, fun d hd => ?_⟩
    simpa using List.mem_takeWhile_imp hd
  rw [← hall, List.takeWhile_append_dropWhile]

/-! ## Parts of texts -/

/-- A text made of the first parts is the start of the text made of all. -/
theorem intercalate_isPrefix {α : Type} {sep : List α} {parts all : List (List α)}
    (h : parts <+: all) : sep.intercalate parts <+: sep.intercalate all := by
  obtain ⟨more, rfl⟩ := h
  induction parts with
  | nil => simp
  | cons part parts ih =>
    cases parts with
    | nil =>
      cases more with
      | nil => simp
      | cons next more => simp [List.intercalate_cons_cons]
    | cons next parts =>
      simpa [List.intercalate_cons_cons, List.prefix_append_right_inj] using ih

theorem notMem_of_mem_splitOn {sep : Char} {s part : List Char} (h : part ∈ s.splitOn sep) :
    sep ∉ part := by
  induction s generalizing part with
  | nil =>
    obtain rfl : part = [] := by simpa using h
    exact List.not_mem_nil
  | cons c s ih =>
    rw [List.splitOn_cons_eq_if_modifyHead] at h
    by_cases hc : c = sep
    · rw [if_pos (by simpa using hc), List.mem_cons] at h
      rcases h with rfl | h
      · exact List.not_mem_nil
      · exact ih h
    · rw [if_neg (by simpa using hc)] at h
      obtain ⟨first, more, hmore⟩ := List.exists_cons_of_ne_nil (List.splitOn_ne_nil sep s)
      rw [hmore, List.modifyHead_cons, List.mem_cons] at h
      rcases h with rfl | h
      · have hfirst : sep ∉ first := ih (by simp [hmore])
        exact List.not_mem_cons_of_ne_of_not_mem (Ne.symm hc) hfirst
      · exact ih (by simp [hmore, h])

theorem subset_of_mem_splitOn {sep : Char} {s part : List Char} (h : part ∈ s.splitOn sep) :
    part ⊆ s := by
  induction s generalizing part with
  | nil =>
    obtain rfl : part = [] := by simpa using h
    exact List.nil_subset _
  | cons c s ih =>
    rw [List.splitOn_cons_eq_if_modifyHead] at h
    by_cases hc : c = sep
    · rw [if_pos (by simpa using hc), List.mem_cons] at h
      rcases h with rfl | h
      · exact List.nil_subset _
      · exact List.subset_cons_of_subset c (ih h)
    · rw [if_neg (by simpa using hc)] at h
      obtain ⟨first, more, hmore⟩ := List.exists_cons_of_ne_nil (List.splitOn_ne_nil sep s)
      rw [hmore, List.modifyHead_cons, List.mem_cons] at h
      rcases h with rfl | h
      · exact List.cons_subset_cons c (ih (by simp [hmore]))
      · exact List.subset_cons_of_subset c (ih (by simp [hmore, h]))

/-- Only the last part of a text is longer once something without separators is added. -/
theorem splitOn_append {sep : Char} {s t : List Char} (h : sep ∉ t) :
    ∃ init last, s.splitOn sep = init ++ [last] ∧ (s ++ t).splitOn sep = init ++ [last ++ t] := by
  induction s with
  | nil => exact ⟨[], [], rfl, List.splitOn_eq_singleton h⟩
  | cons c s ih =>
    obtain ⟨init, last, hs, hst⟩ := ih
    rw [List.cons_append, List.splitOn_cons_eq_if_modifyHead, List.splitOn_cons_eq_if_modifyHead,
      hs, hst]
    by_cases hc : c = sep
    · exact ⟨[] :: init, last, by simp [hc], by simp [hc]⟩
    · cases init with
      | nil => exact ⟨[], c :: last, by simp [hc], by simp [hc]⟩
      | cons first init => exact ⟨(c :: first) :: init, last, by simp [hc], by simp [hc]⟩

/-- A text is no longer than one that it comes first in. -/
theorem utf8ByteSize_le_of_isPrefix {start path : String} (h : start.toList <+: path.toList) :
    start.utf8ByteSize ≤ path.utf8ByteSize := by
  obtain ⟨rest, hrest⟩ := h
  have hpath : path = start ++ String.ofList rest := String.toList_injective (by simp [hrest])
  rw [hpath, String.utf8ByteSize_append]
  omega

end ApiStencil.Text

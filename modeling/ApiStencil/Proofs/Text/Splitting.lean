import ApiStencil.Text.Split
import Mathlib.Data.List.Infix

/-!
# Texts that split into two parts

Where a text splits in two, stated without the splitting itself: at the first occurrence of a
separator, which is also the last one that does not overlap it. Lines that are joined are found
again as the lines of the text.

## Main definitions

* `Text.Cut`: the first occurrence of a separator, by what comes before and after it
* `Text.Halves`: a separator has exactly one occurrence from the left

## Main results

* `Text.splitText_eq_pair_iff`: which texts split into exactly two parts
* `Text.cut_of_absent`: a text is cut at a separator if none reaches into it from the left
* `Text.lines_intercalate`: the lines of joined lines
-/

namespace ApiStencil.Text

variable {sep s front back : List Char} {c : Char}

/-! ## The first occurrence of a separator -/

/-- The first occurrence of a separator in `s` comes after `front` and before `back`. -/
structure Cut (sep s front back : List Char) : Prop where
  eq : s = front ++ sep ++ back
  first : ∀ start rest, s = start ++ sep ++ rest → front.length ≤ start.length

/-- A text in which a separator occurs is cut at some place. -/
theorem exists_cut (h : sep <:+: s) : ∃ front back, Cut sep s front back := by
  induction s with
  | nil =>
    obtain rfl := List.infix_nil.mp h
    exact ⟨[], [], rfl, fun _ _ _ => Nat.zero_le _⟩
  | cons c s ih =>
    by_cases hfirst : sep <+: c :: s
    · obtain ⟨back, hback⟩ := hfirst
      exact ⟨[], back, hback.symm, fun _ _ _ => Nat.zero_le _⟩
    · obtain ⟨front, back, hcut⟩ := ih ((List.infix_cons_iff.mp h).resolve_left hfirst)
      refine ⟨c :: front, back, congrArg (c :: ·) hcut.eq, fun start rest hstart => ?_⟩
      cases start with
      | nil => exact absurd ⟨rest, hstart.symm⟩ hfirst
      | cons d start =>
        have hrest : s = start ++ sep ++ rest := (List.cons.inj hstart).2
        exact Nat.succ_le_succ (hcut.first start rest hrest)

/-- The occurrence before which no other one begins: one that did would lie within what comes before
the last character of the separator. -/
theorem cut_of_absent (h : ¬ sep <:+: front ++ sep.dropLast) (back : List Char) :
    Cut sep (front ++ sep ++ back) front back where
  eq := rfl
  first start rest hstart := by
    apply Nat.le_of_not_lt
    intro hlt
    have hsep : sep ≠ [] := by
      rintro rfl
      exact h (List.nil_infix)
    have hlength : 0 < sep.length := List.length_pos_iff.mpr hsep
    have hshort : start ++ sep <+: front ++ sep ++ back := ⟨rest, hstart.symm⟩
    have hlong : front ++ sep.dropLast <+: front ++ sep ++ back := by
      rw [List.append_assoc, List.prefix_append_right_inj]
      exact (List.dropLast_prefix sep).trans (List.prefix_append sep back)
    have hwithin : start ++ sep <+: front ++ sep.dropLast := by
      refine List.prefix_of_prefix_length_le hshort hlong ?_
      simp only [List.length_append, List.length_dropLast]
      omega
    exact h ((List.suffix_append start sep).isInfix.trans hwithin.isInfix)

/-! ## Splitting -/

theorem splitText_of_absent (h : ¬ sep <:+: s) : splitText sep s = [s] := by
  induction s with
  | nil => rfl
  | cons c s ih =>
    rw [List.infix_cons_iff, not_or] at h
    have hfirst : ¬ sep.isPrefixOf (c :: s) = true := by
      rw [List.isPrefixOf_iff_prefix]
      exact h.1
    rw [splitText, splitTextFrom, if_neg hfirst, ← splitText, ih h.2]
    rfl

theorem splitTextFrom_append_of_length (s rest : List Char) :
    splitTextFrom sep s.length (s ++ rest) = splitTextFrom sep 0 rest := by
  induction s with
  | nil => rfl
  | cons c s ih => exact ih

/-- A text that is cut splits into what comes first and the parts of the rest. -/
theorem Cut.splitText_eq (h : Cut sep s front back) (hsep : sep ≠ []) :
    splitText sep s = front :: splitText sep back := by
  obtain ⟨rfl, hfirst⟩ := h
  induction front with
  | nil =>
    obtain ⟨c, rest, rfl⟩ := List.exists_cons_of_ne_nil hsep
    rw [splitText, List.nil_append, List.cons_append, splitTextFrom, if_pos (by simp),
      List.length_cons, Nat.add_sub_cancel, splitTextFrom_append_of_length]
    rfl
  | cons c front ih =>
    have hskip : ¬ sep.isPrefixOf (c :: (front ++ sep ++ back)) = true := by
      rw [List.isPrefixOf_iff_prefix]
      rintro ⟨rest, hrest⟩
      exact absurd (hfirst [] rest hrest.symm) (by simp)
    have hrest : splitText sep (front ++ sep ++ back) = front :: splitText sep back := by
      apply ih
      intro start rest hstart
      exact Nat.le_of_succ_le_succ (hfirst (c :: start) rest (congrArg (c :: ·) hstart))
    show splitTextFrom sep 0 (c :: (front ++ sep ++ back)) = _
    rw [splitTextFrom, if_neg hskip, ← splitText, hrest]
    rfl

theorem splitText_ne_nil (hsep : sep ≠ []) (s : List Char) : splitText sep s ≠ [] := by
  by_cases h : sep <:+: s
  · obtain ⟨front, back, hcut⟩ := exists_cut h
    rw [hcut.splitText_eq hsep]
    exact List.cons_ne_nil _ _
  · rw [splitText_of_absent h]
    exact List.cons_ne_nil _ _

/-- A text is a single part exactly if the separator does not occur in it. -/
theorem splitText_eq_singleton_iff (hsep : sep ≠ []) :
    splitText sep s = [front] ↔ front = s ∧ ¬ sep <:+: s := by
  by_cases h : sep <:+: s
  · obtain ⟨before, after, hcut⟩ := exists_cut h
    rw [hcut.splitText_eq hsep]
    simp [h, splitText_ne_nil hsep]
  · rw [splitText_of_absent h]
    simp [h, eq_comm]

/-- A separator occurs once in a text if the text is read from the left: what comes after the first
occurrence has no other one. -/
structure Halves (sep s front back : List Char) : Prop extends Cut sep s front back where
  last : ¬ sep <:+: back

/-- **A text splits into exactly two parts** if the separator occurs once in it. -/
theorem splitText_eq_pair_iff (hsep : sep ≠ []) :
    splitText sep s = [front, back] ↔ Halves sep s front back := by
  constructor
  · intro h
    by_cases hoccurs : sep <:+: s
    · obtain ⟨before, after, hcut⟩ := exists_cut hoccurs
      rw [hcut.splitText_eq hsep] at h
      obtain ⟨rfl, hrest⟩ := List.cons.inj h
      obtain ⟨rfl, hlast⟩ := (splitText_eq_singleton_iff hsep).mp hrest
      exact ⟨hcut, hlast⟩
    · rw [splitText_of_absent hoccurs] at h
      cases h
  · intro h
    rw [h.toCut.splitText_eq hsep, splitText_of_absent h.last]

/-! ## Lines -/

theorem stripReturn_of_getLast? (h : s.getLast? ≠ some '\r') : stripReturn s = s := by
  unfold stripReturn
  split
  next rest hrest =>
    have hs : rest ++ ['\r'] = s := List.isSuffixOf?_eq_some_iff_append_eq.mp hrest
    rw [← hs, List.getLast?_concat] at h
    exact absurd rfl h
  next => rfl

/-- Lines stay as they are if none is empty or ends in a carriage return. -/
theorem trimLines_of_forall {all : List (List Char)}
    (h : ∀ line ∈ all, line ≠ [] ∧ line.getLast? ≠ some '\r') : trimLines all = all := by
  induction all with
  | nil => rfl
  | cons line all ih =>
    obtain ⟨⟨hline, hreturn⟩, hall⟩ := List.forall_mem_cons.mp h
    cases all with
    | nil => simp [trimLines, hline]
    | cons next all => rw [trimLines, stripReturn_of_getLast? hreturn, ih hall]; simp

/-- Joined lines are the lines of the text. -/
theorem lines_intercalate {all : List (List Char)} (hfeed : ∀ line ∈ all, '\n' ∉ line)
    (h : ∀ line ∈ all, line ≠ [] ∧ line.getLast? ≠ some '\r') :
    lines (['\n'].intercalate all) = all := by
  rcases eq_or_ne all [] with rfl | hall
  · rfl
  · rw [lines, List.splitOn_intercalate _ hfeed hall, trimLines_of_forall h]

end ApiStencil.Text

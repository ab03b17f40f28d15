import ApiStencil.Text.Split
import Mathlib.Data.List.Infix

/-!
# Replaced texts

A text is replaced piece by piece where no occurrence of the old text crosses the end of a piece.
`Rewrites` says so of a piece, whatever comes after it, so the pieces of a text can be looked at one
by one.

## Main definitions

* `Text.Rewrites`: replacing one text by another makes a piece into another one, in any text that
  starts with this piece

## Main results

* `Text.Rewrites.append`, `Text.Rewrites.flatMap`: the pieces of a text one after the other
* `Text.rewrites_old`, `Text.rewrites_self_of_notMem`, `Text.rewrites_cons`: an occurrence, a piece
  that no occurrence starts in, and a first character that none starts at
* `Text.exists_of_replaceTextFrom_eq_cons`: a character that has not been put in
* `Text.Rewrites.replaceText_eq`: the whole text
-/

namespace ApiStencil.Text

variable {α : Type} {old new s s' t t' : List Char} {c : Char}

/-- Replacing `old` by `new` from the left makes `s` into `t`, whatever comes after `s`. -/
def Rewrites (old new s t : List Char) : Prop :=
  ∀ rest, replaceTextFrom old new 0 (s ++ rest) = t ++ replaceTextFrom old new 0 rest

theorem Rewrites.nil : Rewrites old new [] [] := fun _ => rfl

theorem Rewrites.append (h : Rewrites old new s t) (h' : Rewrites old new s' t') :
    Rewrites old new (s ++ s') (t ++ t') := by
  intro rest
  rw [List.append_assoc, h, h', List.append_assoc]

theorem Rewrites.flatMap {as : List α} {f g : α → List Char}
    (h : ∀ a ∈ as, Rewrites old new (f a) (g a)) :
    Rewrites old new (as.flatMap f) (as.flatMap g) := by
  induction as with
  | nil => exact Rewrites.nil
  | cons a as ih =>
    obtain ⟨ha, has⟩ := List.forall_mem_cons.mp h
    rw [List.flatMap_cons, List.flatMap_cons]
    exact ha.append (ih has)

theorem replaceTextFrom_append_of_length (s rest : List Char) :
    replaceTextFrom old new s.length (s ++ rest) = replaceTextFrom old new 0 rest := by
  induction s with
  | nil => rfl
  | cons c s ih => exact ih

/-- An occurrence of the old text becomes the new one. -/
theorem rewrites_old (h : old ≠ []) : Rewrites old new old new := by
  intro rest
  obtain ⟨c, s, rfl⟩ := List.exists_cons_of_ne_nil h
  rw [List.cons_append, replaceTextFrom, if_pos (by simp), List.length_cons,
    Nat.add_sub_cancel, replaceTextFrom_append_of_length]

/-- A character stays if no occurrence of the old text starts there. -/
theorem rewrites_cons (h : ∀ rest, ¬ old <+: c :: s ++ rest) (hs : Rewrites old new s t) :
    Rewrites old new (c :: s) (c :: t) := by
  intro rest
  have hc : ¬ old.isPrefixOf (c :: (s ++ rest)) = true := by
    rw [List.isPrefixOf_iff_prefix]
    exact h rest
  rw [List.cons_append, replaceTextFrom, if_neg hc, hs, List.cons_append]

/-- A piece stays if the first character of the old text does not occur in it. -/
theorem rewrites_self_of_notMem (h : c ∉ s) : Rewrites (c :: old) new s s := by
  induction s with
  | nil => exact Rewrites.nil
  | cons d s ih =>
    rw [List.mem_cons, not_or] at h
    refine rewrites_cons (fun rest hprefix => h.1 ?_) (ih h.2)
    exact (List.cons_prefix_cons.mp hprefix).1

/-- A first character that no occurrence of the old text gives was there before. -/
theorem exists_of_replaceTextFrom_eq_cons {d : Char} (hd : c ≠ d)
    (h : replaceTextFrom old (d :: new) 0 s = c :: t) :
    ∃ rest, s = c :: rest ∧ replaceTextFrom old (d :: new) 0 rest = t := by
  cases s with
  | nil => cases h
  | cons a rest =>
    rw [replaceTextFrom] at h
    split at h
    · exact absurd (List.cons.inj h).1.symm hd
    · obtain ⟨rfl, hrest⟩ := List.cons.inj h
      exact ⟨rest, rfl, hrest⟩

/-- A text that is rewritten as a whole. -/
theorem Rewrites.replaceText_eq (hold : old ≠ []) (h : Rewrites old new s t) :
    replaceText old new s = t := by
  have hwhole := h []
  rw [List.append_nil] at hwhole
  rw [replaceText, if_neg (by simpa using hold), hwhole]
  exact List.append_nil t

/-- Up to the first occurrence of a character a text is known. -/
theorem eq_of_append_isPrefix {rest : List Char} (hs : c ∉ s) (ht : c ∉ t)
    (h : s ++ [c] <+: t ++ c :: rest) : s = t := by
  induction s generalizing t with
  | nil =>
    cases t with
    | nil => rfl
    | cons d t =>
      obtain ⟨rfl, -⟩ := List.cons_prefix_cons.mp h
      exact absurd List.mem_cons_self ht
  | cons a s ih =>
    cases t with
    | nil =>
      obtain ⟨rfl, -⟩ := List.cons_prefix_cons.mp h
      exact absurd List.mem_cons_self hs
    | cons d t =>
      obtain ⟨rfl, hrest⟩ := List.cons_prefix_cons.mp h
      rw [ih (List.not_mem_of_not_mem_cons hs) (List.not_mem_of_not_mem_cons ht) hrest]

end ApiStencil.Text

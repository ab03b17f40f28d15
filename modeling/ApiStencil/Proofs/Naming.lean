import ApiStencil.Naming
import ApiStencil.Proofs.Disk.Path

/-!
# Slashes in generated names

Slashes separate the segments of a raw path, and none of them is left in the name of its group: the
segments have none, and no character has an upper case with one.

## Main results

* `Text.slash_notMem_capitalizeFirst`: capitalizing brings no slash
* `slash_notMem_groupName`: the name of a group has no slash
-/

namespace ApiStencil

namespace Text

theorem toNat_of_ofNat_eq_slash {n : Nat} (h : Char.ofNat n = '/') : n = 0x2F := by
  by_cases hvalid : n.isValidChar
  · rw [Char.ofNat, dif_pos hvalid] at h
    exact congrArg Char.toNat h
  · rw [Char.ofNat, dif_neg hvalid] at h
    cases h

/-- The characters that a span maps go to characters after the slash. -/
theorem slash_lt_of_mem_upperSpans :
    ∀ span ∈ upperSpans, (0x2F : Int) < span.first + span.shift := by
  decide +kernel

theorem slash_notMem_upperExpansions :
    ∀ expansion ∈ upperExpansions, (0x2F : Nat) ∉ expansion.2 := by
  decide +kernel

theorem slash_notMem_upperChar {c : Char} (hc : c ≠ '/') : '/' ∉ upperChar c := by
  unfold upperChar
  split
  · rename_i codes hlookup
    intro hmem
    obtain ⟨code, hcode, hslash⟩ := List.mem_map.mp hmem
    obtain ⟨before, after, htable, -⟩ := List.lookup_eq_some_iff.mp hlookup
    have hentry : (c.toNat, codes) ∈ upperExpansions := by simp [htable]
    rw [toNat_of_ofNat_eq_slash hslash] at hcode
    exact slash_notMem_upperExpansions _ hentry hcode
  · rw [List.mem_singleton, mapChar]
    split
    · rename_i span hfind
      intro hslash
      have hcovers := List.find?_some hfind
      have hlt := slash_lt_of_mem_upperSpans span (List.mem_of_find?_eq_some hfind)
      have hcode := toNat_of_ofNat_eq_slash hslash.symm
      simp only [CaseSpan.covers, Bool.and_eq_true, decide_eq_true_eq] at hcovers
      omega
    · exact hc.symm

theorem slash_notMem_capitalizeFirst {s : List Char} (h : '/' ∉ s) : '/' ∉ capitalizeFirst s := by
  cases s with
  | nil => exact h
  | cons c s =>
    rw [List.mem_cons, not_or] at h
    rw [capitalizeFirst, List.mem_append, not_or]
    exact ⟨slash_notMem_upperChar (Ne.symm h.1), h.2⟩

end Text

namespace GroupName

theorem slash_notMem_word {letters : List Char} (h : '/' ∉ letters) : '/' ∉ word letters := by
  simp only [word]
  split_ifs
  · decide
  · exact Text.slash_notMem_capitalizeFirst h

theorem slash_notMem_words {name : List Char} (h : '/' ∉ name) : '/' ∉ words name := by
  rw [words, List.mem_flatMap]
  rintro ⟨letters, hletters, hmem⟩
  have hslash : '/' ∉ letters := fun hslash => h (Text.subset_of_mem_splitOn hletters hslash)
  exact slash_notMem_word hslash hmem

theorem subset_of_parameter? {letters name : List Char} (h : parameter? letters = some name) :
    name ⊆ letters := by
  unfold parameter? at h
  split at h
  · rename_i rest
    obtain rfl := List.isSuffixOf?_eq_some_iff_append_eq.mp h
    exact fun c hc => List.mem_cons_of_mem _ (List.mem_append_left _ hc)
  · cases h

theorem slash_notMem_segment {letters : List Char} (h : '/' ∉ letters) : '/' ∉ segment letters := by
  unfold segment
  split
  · rename_i name hname
    have hwords := slash_notMem_words fun hmem => h (subset_of_parameter? hname hmem)
    rw [List.mem_append, not_or]
    exact ⟨by decide, hwords⟩
  · exact Text.slash_notMem_capitalizeFirst h

end GroupName

/-- The name of a group has no slash. -/
theorem slash_notMem_groupName (path : String) : '/' ∉ (groupName path).toList := by
  rw [groupName, String.toList_ofList, GroupName.ofPath, List.mem_flatMap]
  rintro ⟨letters, hletters, hmem⟩
  exact GroupName.slash_notMem_segment (Text.notMem_of_mem_splitOn hletters) hmem

end ApiStencil

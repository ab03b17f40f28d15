import ApiStencil.Command.Output
import ApiStencil.Proofs.Disk.Directories

/-!
# The tree that some files make

What lies below an output directory once some files have been written there: the files, each with
the contents that came last, and the directories that they need. One more file can be added unless
its path goes through another file or ends at a directory, and that is so in whatever order the
files come.

## Main definitions

* `RenderedFile.names`: the names on the path of a file
* `NoneNested`: no file lies in the place of a directory of another one
* `outputAt?`: what some files put at a location
* `Disk.writtenAt?`: what is on a disk once some files have been written below a directory

## Main results

* `noneNested_concat_iff`: whether one more file can be added
* `Disk.writtenAt?_concat`: what one more file changes
-/

namespace ApiStencil

/-- The names on the path of a file. -/
def RenderedFile.names (file : RenderedFile) : Location := Path.names file.path

/-- No file lies above another. The same path may be given to several files. -/
def NoneNested (files : List RenderedFile) : Prop :=
  ∀ upper ∈ files, ∀ lower ∈ files, upper.names <+: lower.names → upper.names = lower.names

instance (files : List RenderedFile) : Decidable (NoneNested files) :=
  inferInstanceAs (Decidable (∀ upper ∈ files, ∀ lower ∈ files, _))

theorem NoneNested.of_subset {few files : List RenderedFile} (h : NoneNested files)
    (hsubset : few ⊆ files) : NoneNested few :=
  fun upper hupper lower hlower => h upper (hsubset hupper) lower (hsubset hlower)

/-- What some files put at a location below the directory that they go to: the last file of that
path, or a directory that a file needs. -/
def outputAt? (files : List RenderedFile) (rest : Location) : Option Entry :=
  match files.reverse.find? (·.names = rest) with
  | some file => some (.file (.text file.contents))
  | none =>
    if rest = [] ∨ ∃ file ∈ files, rest <+: file.names then some .directory else none

/-- What is on a disk once some files have been written below `base`. Nothing else is left there,
and all above it are directories. -/
def Disk.writtenAt? (disk : Disk) (base : Location) (files : List RenderedFile)
    (location : Location) : Option Entry :=
  match base.isPrefixOf? location with
  | some rest => outputAt? files rest
  | none => if location <+: base then some .directory else disk.at? location

section Output

variable {files : List RenderedFile} {file : RenderedFile} {outer rest : Location} {name : String}

theorem outputAt?_of_mem (h : file ∈ files) :
    ∃ contents, outputAt? files file.names = some (.file contents) := by
  cases hfind : files.reverse.find? (·.names = file.names) with
  | none =>
    have hnone := List.find?_eq_none.mp hfind file (List.mem_reverse.mpr h)
    simp at hnone
  | some last => exact ⟨_, by rw [outputAt?, hfind]⟩

theorem outputAt?_of_ne (h : ∀ file ∈ files, file.names ≠ rest) :
    outputAt? files rest =
      if rest = [] ∨ ∃ file ∈ files, rest <+: file.names then some .directory else none := by
  have hfind : files.reverse.find? (·.names = rest) = none :=
    List.find?_eq_none.mpr fun file hfile => by simpa using h file (List.mem_reverse.mp hfile)
  rw [outputAt?, hfind]

theorem exists_outputAt?_iff :
    (∃ contents, outputAt? files rest = some (.file contents)) ↔
      ∃ file ∈ files, file.names = rest := by
  constructor
  · rintro ⟨contents, h⟩
    by_contra hnone
    rw [outputAt?_of_ne fun file hfile heq => hnone ⟨file, hfile, heq⟩] at h
    split at h <;> simp at h
  · rintro ⟨file, hfile, rfl⟩
    exact outputAt?_of_mem hfile

theorem outputAt?_eq_directory_iff (hne : rest ≠ []) :
    outputAt? files rest = some .directory ↔
      (∀ file ∈ files, file.names ≠ rest) ∧ ∃ file ∈ files, rest <+: file.names := by
  by_cases h : ∀ file ∈ files, file.names ≠ rest
  · rw [outputAt?_of_ne h, and_iff_right h]
    simp [hne]
  · push Not at h
    obtain ⟨file, hfile, rfl⟩ := h
    obtain ⟨contents, hat⟩ := outputAt?_of_mem hfile
    rw [hat]
    exact iff_of_false (by simp) fun hb => hb.1 file hfile rfl

/-- One more file fits with others if its path does not go through any of them and does not end at
a directory that they need. -/
theorem noneNested_concat_iff (hnames : file.names = outer ++ [name]) :
    NoneNested (files ++ [file]) ↔ NoneNested files ∧
      (∀ rest, rest <+: outer → ∀ contents, outputAt? files rest ≠ some (.file contents)) ∧
      outputAt? files file.names ≠ some .directory := by
  have hne : file.names ≠ [] := by simp [hnames]
  constructor
  · intro h
    refine ⟨h.of_subset (List.subset_append_left _ _), ?_, ?_⟩
    · intro rest hrest contents hat
      obtain ⟨upper, hupper, rfl⟩ := exists_outputAt?_iff.mp ⟨contents, hat⟩
      have hpre : upper.names <+: file.names :=
        hrest.trans (hnames ▸ List.prefix_append outer [name])
      have heq := h upper (List.mem_append_left _ hupper) file (by simp) hpre
      have hlength := hrest.length_le
      rw [heq, hnames, List.length_append, List.length_singleton] at hlength
      omega
    · rw [Ne, outputAt?_eq_directory_iff hne]
      rintro ⟨hother, lower, hlower, hpre⟩
      exact hother lower hlower
        (h file (by simp) lower (List.mem_append_left _ hlower) hpre).symm
  · rintro ⟨h, hthrough, hend⟩ upper hupper lower hlower hpre
    rw [List.mem_append, List.mem_singleton] at hupper hlower
    rcases hupper with hupper | rfl <;> rcases hlower with hlower | rfl
    · exact h upper hupper lower hlower hpre
    · rw [hnames] at hpre ⊢
      rcases List.prefix_concat_iff.mp hpre with heq | hpre
      · exact heq
      · obtain ⟨contents, hat⟩ := outputAt?_of_mem hupper
        exact absurd hat (hthrough _ hpre contents)
    · rw [Ne, outputAt?_eq_directory_iff hne] at hend
      push Not at hend
      by_cases hsame : ∀ other ∈ files, other.names ≠ upper.names
      · exact absurd hpre (hend hsame lower hlower)
      · push Not at hsame
        obtain ⟨other, hother, heq⟩ := hsame
        rw [← heq]
        exact h other hother lower hlower (heq ▸ hpre)
    · rfl

/-- What one more file changes. -/
theorem outputAt?_concat (h : NoneNested (files ++ [file])) (hnames : file.names = outer ++ [name])
    (rest : Location) :
    outputAt? (files ++ [file]) rest =
      if rest = file.names then some (.file (.text file.contents))
      else if rest <+: outer then some .directory
      else outputAt? files rest := by
  by_cases hrest : rest = file.names
  · rw [if_pos hrest, outputAt?]
    simp [hrest]
  rw [if_neg hrest]
  have hpre : rest <+: file.names ↔ rest <+: outer := by
    rw [hnames] at hrest ⊢
    rw [List.prefix_concat_iff]
    exact or_iff_right hrest
  split_ifs with houter
  · rw [outputAt?_of_ne, if_pos]
    · exact Or.inr ⟨file, by simp, hpre.mpr houter⟩
    · rintro upper hupper rfl
      exact hrest (h upper hupper file (by simp) (hpre.mpr houter))
  · rw [outputAt?, outputAt?]
    have hfile : ¬rest <+: file.names := fun hp => houter (hpre.mp hp)
    simp [Ne.symm hrest, or_and_right, exists_or, hfile]

end Output

namespace Disk

variable {disk : Disk} {base outer rest location : Location} {files : List RenderedFile}
  {file : RenderedFile} {name : String}

@[simp] theorem writtenAt?_append :
    disk.writtenAt? base files (base ++ rest) = outputAt? files rest := by
  have hpre : base.isPrefixOf? (base ++ rest) = some rest :=
    List.isPrefixOf?_eq_some_iff_append_eq.mpr rfl
  rw [writtenAt?, hpre]

theorem writtenAt?_outside (h : ¬base <+: location) :
    disk.writtenAt? base files location =
      if location <+: base then some .directory else disk.at? location := by
  have hnone : base.isPrefixOf? location = none := by
    rw [Option.eq_none_iff_forall_ne_some]
    intro rest hrest
    exact h ⟨rest, List.isPrefixOf?_eq_some_iff_append_eq.mp hrest⟩
  rw [writtenAt?, hnone]

theorem writtenAt?_above (hfiles : ∀ file ∈ files, file.names ≠ []) (h : location <+: base) :
    disk.writtenAt? base files location = some .directory := by
  by_cases hbase : base <+: location
  · obtain rfl : location = base := h.eq_of_length_le hbase.length_le
    have hroot : disk.writtenAt? location files (location ++ []) = outputAt? files [] :=
      writtenAt?_append
    rw [List.append_nil, outputAt?_of_ne hfiles] at hroot
    simpa using hroot
  · rw [writtenAt?_outside hbase, if_pos h]

/-- The next disk holds some files below `base`, nothing else there, and all else as it was. -/
structure Written (disk : Disk) (base : Location) (files : List RenderedFile) (next : Disk) :
    Prop where
  home : next.home = disk.home
  at? : ∀ location, next.at? location = disk.writtenAt? base files location

/-- Only a file that has been written can be in the way of another one. -/
theorem Written.unblocked_iff {next : Disk} (h : disk.Written base files next)
    (hfiles : ∀ file ∈ files, file.names ≠ []) :
    next.Unblocked (base ++ outer) ↔
      ∀ rest, rest <+: outer → ∀ contents, outputAt? files rest ≠ some (.file contents) := by
  constructor
  · intro hfree rest hrest contents
    have hat : next.at? (base ++ rest) = outputAt? files rest := by
      rw [h.at?, writtenAt?_append]
    rw [← hat]
    exact hfree _ ((List.prefix_append_right_inj base).mpr hrest) contents
  · intro hfree above habove contents
    rw [h.at?]
    rcases List.prefix_or_prefix_of_prefix habove (List.prefix_append base outer) with hup | hdown
    · rw [writtenAt?_above hfiles hup]
      simp
    · obtain ⟨rest, rfl⟩ := hdown
      rw [writtenAt?_append]
      exact hfree rest ((List.prefix_append_right_inj base).mp habove) contents

/-- What is on the disk after one more file and the directories that it lies in. -/
theorem Written.concat {middle next : Disk} (h : disk.Written base files middle)
    (hnest : NoneNested (files ++ [file])) (hnames : file.names = outer ++ [name])
    (hhome : next.home = middle.home)
    (hat : ∀ location, next.at? location =
      if location = base ++ file.names then some (.file (.text file.contents))
      else if location <+: base ++ outer then some .directory
      else middle.at? location) :
    disk.Written base (files ++ [file]) next := by
  refine ⟨hhome.trans h.home, fun location => ?_⟩
  rw [hat, h.at?]
  by_cases hbase : base <+: location
  · obtain ⟨rest, rfl⟩ := hbase
    rw [writtenAt?_append, writtenAt?_append, outputAt?_concat hnest hnames]
    simp only [List.prefix_append_right_inj, List.append_cancel_left_eq]
  · have hne : location ≠ base ++ file.names := by
      rintro rfl
      exact hbase (List.prefix_append _ _)
    rw [if_neg hne, writtenAt?_outside hbase, writtenAt?_outside hbase]
    by_cases hup : location <+: base
    · rw [if_pos (hup.trans (List.prefix_append _ _)), if_pos hup]
    · rw [if_neg hup, if_neg fun hp => ?_]
      rcases List.prefix_or_prefix_of_prefix hp (List.prefix_append base outer) with h | h
      · exact hup h
      · exact hbase h

end Disk

end ApiStencil

import ApiStencil.Proofs.Disk.Growth
import Mathlib.Data.List.Nodup

/-!
# Reading past a directory that is rewritten

All that lies below a directory is replaced, and nothing else is touched. A path leads past that
directory if it goes through nothing below it and does not end in it. What is read under such a path
is the same before and after, and so are the files below a directory that lies apart.

## Main definitions

* `Disk.Rewritten`: a disk in which all below a directory has been replaced
* `Disk.LiesOutside`, `Disk.LiesApart`: a path to a place outside or apart from a directory
* `Disk.LeadsPast`, `Disk.LeadsApart`: the same if the directory is empty, so a path that does not
  depend on what lies below it
* `Disk.WellFormed`: what every system grants

## Main results

* `Disk.LeadsPast.find_eq_ok`, `Disk.LeadsPast.readText_eq_ok`: what is found is found again
* `Disk.LeadsApart.filesBelow_eq`, `Disk.LeadsApart.readText_join_eq`: the files of a directory that
  lies apart are the same
-/

namespace ApiStencil.Disk

variable {disk next : Disk} {base location there rest : Location} {path dir name : String}
  {segments : List String} {entry : Entry}

/-! ## Rewriting -/

/-- What lies below a directory has been replaced. The directory and all above it is there, and all
else is as it was. -/
structure Rewritten (base : Location) (disk next : Disk) : Prop where
  home : next.home = disk.home
  unblocked : disk.Unblocked base
  above : ∀ location, location <+: base → next.at? location = some .directory
  outside : ∀ location, ¬base <+: location → ¬location <+: base →
    next.at? location = disk.at? location

/-- A path leads to a place that is not in a directory. -/
def LiesOutside (disk : Disk) (base : Location) (path : String) : Prop :=
  ∃ location, disk.locate path = .ok location ∧ ¬base <+: location

/-- A path leads to a place apart from a directory: neither of them lies in the other. -/
def LiesApart (disk : Disk) (base : Location) (path : String) : Prop :=
  ∃ location, disk.locate path = .ok location ∧ ¬base <+: location ∧ ¬location <+: base

/-- A path leads past a directory: it would lead to a place outside if the directory were empty. -/
def LeadsPast (disk : Disk) (base : Location) (path : String) : Prop :=
  (disk.prune base).LiesOutside base path

/-- A path would lead to a place apart from a directory if that were empty. -/
def LeadsApart (disk : Disk) (base : Location) (path : String) : Prop :=
  (disk.prune base).LiesApart base path

theorem LeadsApart.leadsPast (h : disk.LeadsApart base path) : disk.LeadsPast base path := by
  obtain ⟨location, hlocate, hout, -⟩ := h
  exact ⟨location, hlocate, hout⟩

/-- All that does not lie in the directory is still there. -/
theorem Rewritten.at?_eq_some (h : disk.Rewritten base next) (hout : ¬base <+: location)
    (hat : disk.at? location = some entry) : next.at? location = some entry := by
  by_cases hup : location <+: base
  · cases entry with
    | file contents => exact absurd hat (h.unblocked location hup contents)
    | directory => exact h.above location hup
  · rwa [h.outside location hout hup]

theorem Rewritten.directory_of_prune (h : disk.Rewritten base next)
    (hdir : (disk.prune base).at? location = some .directory) :
    next.at? location = some .directory := by
  rw [at?_prune] at hdir
  split_ifs at hdir with hbelow
  by_cases hbase : base <+: location
  · obtain rfl : location = base := not_not.mp fun hne => hbelow ⟨hbase, hne⟩
    exact h.above location (List.prefix_refl _)
  · exact h.at?_eq_some hbase hdir

/-- What is pruned has only fewer directories. -/
theorem locate_of_prune (hlocate : (disk.prune base).locate path = .ok location) :
    disk.locate path = .ok location := by
  have hkept : ∀ other, (disk.prune base).at? other = some .directory →
      disk.at? other = some .directory := by
    intro other hdir
    rw [at?_prune] at hdir
    split_ifs at hdir
    exact hdir
  have hhome : disk.home = (disk.prune base).home := rfl
  exact locate_of_directories hhome hkept hlocate

theorem Rewritten.locate_of_prune (h : disk.Rewritten base next)
    (hlocate : (disk.prune base).locate path = .ok location) :
    next.locate path = .ok location := by
  have hhome : next.home = (disk.prune base).home := h.home
  exact locate_of_directories hhome (fun _ hdir => h.directory_of_prune hdir) hlocate

/-! ## Single files -/

section LeadsPast

variable (hpast : disk.LeadsPast base path) (h : disk.Rewritten base next)
include hpast h

theorem LeadsPast.find_eq_ok (hfind : disk.find path = .ok entry) :
    next.find path = .ok entry := by
  obtain ⟨location, hlocate, hout⟩ := hpast
  obtain ⟨found, hfound, hat⟩ := find_eq_ok_iff.mp hfind
  obtain rfl : found = location :=
    Except.ok.inj (hfound.symm.trans (Disk.locate_of_prune hlocate))
  exact find_eq_ok_iff.mpr ⟨found, h.locate_of_prune hlocate, h.at?_eq_some hout hat⟩

theorem LeadsPast.kind?_eq_some {kind : EntryKind} (hkind : disk.kind? path = some kind) :
    next.kind? path = some kind := by
  obtain ⟨entry, hfind, rfl⟩ := kind?_eq_some_iff.mp hkind
  exact kind?_eq_some_iff.mpr ⟨entry, hpast.find_eq_ok h hfind, rfl⟩

theorem LeadsPast.readText_eq_ok {text : String} (hread : disk.readText path = .ok text) :
    next.readText path = .ok text := by
  rw [readText, Except.bind_eq_ok_iff] at hread ⊢
  obtain ⟨entry, hfind, hread⟩ := hread
  exact ⟨entry, hpast.find_eq_ok h hfind, hread⟩

end LeadsPast

/-! ## The files of a directory -/

theorem Rewritten.at?_append (h : disk.Rewritten base next) (hout : ¬base <+: there)
    (hup : ¬there <+: base) (rest : Location) :
    next.at? (there ++ rest) = disk.at? (there ++ rest) := by
  refine h.outside _ (fun hbase => ?_) fun habove => hup ((List.prefix_append _ _).trans habove)
  rcases List.prefix_or_prefix_of_prefix hbase (List.prefix_append there rest) with hp | hp
  · exact hout hp
  · exact hup hp

theorem nodup_below (disk : Disk) (directory : Location) : (disk.below directory).Nodup := by
  refine disk.entries.nodup_keys.of_map.filterMap ?_
  rintro ⟨location, entry⟩ ⟨other, entry'⟩ ⟨rest, found⟩ hfirst hsecond
  simp only [Option.mem_def] at hfirst hsecond
  split at hfirst
  · cases hfirst
  · cases hfirst
  next hpre =>
    cases hfirst
    split at hsecond
    · cases hsecond
    · cases hsecond
    next hpre' =>
      cases hsecond
      obtain rfl := List.isPrefixOf?_eq_some_iff_append_eq.mp hpre
      obtain rfl := List.isPrefixOf?_eq_some_iff_append_eq.mp hpre'
      rfl

section Below

variable (hat : ∀ rest, next.at? (there ++ rest) = disk.at? (there ++ rest))
include hat

/-- The same is below a directory, in whatever order it is listed. -/
theorem perm_below : (next.below there).Perm (disk.below there) := by
  rw [List.perm_ext_iff_of_nodup (nodup_below next there) (nodup_below disk there)]
  rintro ⟨rest, entry⟩
  rw [mem_below_iff, mem_below_iff, hat]

/-- Segments that do not go up stay below a directory. -/
theorem foldlM_step_below (hup : ".." ∉ segments) :
    segments.foldlM next.step (there ++ rest) = segments.foldlM disk.step (there ++ rest) := by
  induction segments generalizing rest with
  | nil => rfl
  | cons segment segments ih =>
    rw [List.mem_cons, not_or] at hup
    have hstep : next.step (there ++ rest) segment = disk.step (there ++ rest) segment := by
      rw [step, hat, step]
    rw [List.foldlM_cons, List.foldlM_cons, hstep]
    cases hmiddle : disk.step (there ++ rest) segment with
    | error fault => rfl
    | ok middle =>
      obtain ⟨more, rfl⟩ := isPrefix_of_step (Ne.symm hup.1) hmiddle
      rw [List.append_assoc]
      exact ih hup.2

end Below

/-- A path below a directory is followed from where that leads. -/
theorem foldlM_step_join (hlocate : disk.locate dir = .ok there)
    (hrel : Path.isAbsolute path = false) :
    (Path.segments (Path.join dir path)).foldlM disk.step (disk.startOf (Path.join dir path)) =
      (Path.segments path).foldlM disk.step there := by
  obtain ⟨front, hfront, hjoin⟩ := exists_front_of_locate hlocate hrel
  have hempty := (follow_eq_ok_iff.mp hlocate).1
  rw [startOf, Path.isAbsolute_join hrel hempty, ← startOf, hjoin, List.foldlM_append, hfront]
  rfl

/-- Sorted texts do not depend on the order in which they are listed. -/
theorem mergeSort_eq_of_perm {texts others : List String} (h : texts.Perm others) :
    (texts.mergeSort fun a b => a ≤ b) = others.mergeSort fun a b => a ≤ b := by
  have hsorted (list : List String) :
      (list.mergeSort fun a b => a ≤ b).Pairwise fun a b => decide (a ≤ b) = true := by
    refine List.pairwise_mergeSort (fun a b c hab hbc => ?_) (fun a b => ?_) list
    · rw [decide_eq_true_eq] at hab hbc ⊢
      exact String.le_trans hab hbc
    · rw [Bool.or_eq_true, decide_eq_true_eq, decide_eq_true_eq]
      exact String.le_total a b
  refine List.Perm.eq_of_pairwise (fun a b _ _ hab hba => ?_) (hsorted texts) (hsorted others) ?_
  · exact String.le_antisymm (of_decide_eq_true hab) (of_decide_eq_true hba)
  · exact (List.mergeSort_perm ..).trans (h.trans (List.mergeSort_perm ..).symm)

section LeadsApart

variable (hapart : disk.LeadsApart base dir) (h : disk.Rewritten base next)
include hapart h

theorem LeadsApart.filesBelow_eq (hdir : disk.find dir = .ok .directory) :
    next.filesBelow dir = disk.filesBelow dir := by
  have hnext := hapart.leadsPast.find_eq_ok h hdir
  obtain ⟨there, hlocate, hout, hup⟩ := hapart
  rw [filesBelow, locateDirectory_of_find hnext, h.locate_of_prune hlocate, filesBelow,
    locateDirectory_of_find hdir, Disk.locate_of_prune hlocate]
  exact mergeSort_eq_of_perm (((perm_below (h.at?_append hout hup)).filter _).map _)

/-- A path that descends from the directory leads to the same place as before, and the same is
there. -/
theorem LeadsApart.find_join_eq (hpath : Path.Descends path) :
    next.find (Path.join dir path) = disk.find (Path.join dir path) := by
  obtain ⟨there, hlocate, hout, hup⟩ := hapart
  have hat := h.at?_append hout hup
  have hdisk := foldlM_step_join (Disk.locate_of_prune hlocate) hpath.relative
  have hnext := foldlM_step_join (h.locate_of_prune hlocate) hpath.relative
  have hfold : (Path.segments path).foldlM next.step there =
      (Path.segments path).foldlM disk.step there := by
    simpa using @foldlM_step_below _ _ _ [] _ hat hpath.noParent
  have hsame : next.locate (Path.join dir path) = disk.locate (Path.join dir path) := by
    rw [locate, follow, hnext, hfold, ← hdisk, locate, follow]
  rw [find, hsame, find]
  cases hfound : disk.locate (Path.join dir path) with
  | error fault => rfl
  | ok location =>
    obtain ⟨-, -, -, hdown⟩ := follow_eq_ok_iff.mp hfound
    rw [hdisk] at hdown
    obtain ⟨rest, rfl⟩ := isPrefix_of_foldlM_step hpath.noParent hdown
    simp only [bind, Except.bind, hat]

theorem LeadsApart.readText_join_eq (hpath : Path.Descends path) :
    next.readText (Path.join dir path) = disk.readText (Path.join dir path) := by
  rw [readText, hapart.find_join_eq h hpath, readText]

end LeadsApart

/-! ## Well-formed disks -/

/-- What every system grants: programs work in a directory, and the names on the disk are names. -/
structure WellFormed (disk : Disk) : Prop where
  home : disk.at? disk.home = some .directory
  names : ∀ location ∈ disk.entries.keys, ∀ name ∈ location, Path.IsComponent name

instance (disk : Disk) : Decidable disk.WellFormed :=
  decidable_of_iff (disk.at? disk.home = some .directory ∧
      ∀ location ∈ disk.entries.keys, ∀ name ∈ location, Path.IsComponent name)
    ⟨fun h => ⟨h.1, h.2⟩, fun h => ⟨h.home, h.names⟩⟩

/-- The files below a directory are listed by paths that descend from it. -/
theorem WellFormed.descends_of_mem_filesBelow (hwell : disk.WellFormed)
    (h : path ∈ disk.filesBelow dir) : Path.Descends path := by
  rw [filesBelow] at h
  split at h
  · cases h
  next there _ =>
    rw [List.mem_mergeSort, List.mem_map] at h
    obtain ⟨⟨rest, entry⟩, hmem, rfl⟩ := h
    obtain ⟨hne, hat⟩ := mem_below_iff.mp (List.mem_of_mem_filter hmem)
    have hkey : there ++ rest ∈ disk.entries.keys := by
      rw [at?, entryAt?_of_ne_nil _ (List.append_ne_nil_of_right_ne_nil _ hne)] at hat
      exact disk.entries.mem_keys_iff.mpr ⟨entry, hat⟩
    exact Path.descends_ofNames hne fun name hname =>
      hwell.names _ hkey name (List.mem_append_right _ hname)

end ApiStencil.Disk

import ApiStencil.Proofs.Disk.Directories
import Mathlib.Order.Defs.Unbundled

/-!
# Where paths lead on a disk that grows

Where a path leads depends on the directories of a disk alone, so it still leads there as long as
they are kept. This goes for every path, also for one with `.` and `..` in it. Making directories
keeps all that is on a disk and adds nothing but directories.

## Main definitions

* `Path.Descends`, `Path.IsComponent`: a relative path without `..`, and a segment of one
* `Path.LeadsDown`, `Disk.targetOf`: such a path that ends in a name, and the location that it names
* `Disk.baseOf`: the location that the files of a directory lie below
* `Disk.Grows`: a disk with more directories and no other change

## Main results

* `Disk.targets_of_leadsDown`: a path that leads down targets the location that it names
* `Disk.locate_of_directories`: a path still leads where it did
* `Disk.isPrefix_of_place_join`: a path that descends from a directory leads to a place below it
* `Session.grows_createDirectories`: making directories only adds to a disk
* `Disk.Grows.at?_base_eq_none`: nothing was at a directory that a path leads to only afterwards
-/

namespace ApiStencil

namespace Path

/-- A relative path that never goes up. -/
structure Descends (path : String) : Prop where
  relative : isAbsolute path = false
  noParent : ".." ∉ segments path

instance (path : String) : Decidable (Descends path) :=
  decidable_of_iff (isAbsolute path = false ∧ ".." ∉ segments path)
    ⟨fun h => ⟨h.1, h.2⟩, fun h => ⟨h.relative, h.noParent⟩⟩

theorem Descends.ne_parent {path : String} (h : Descends path) :
    ∀ move ∈ moves path, move ≠ ".." := by
  rintro move hmove rfl
  exact h.noParent (List.mem_of_mem_filter hmove)

/-- A relative path that never goes up and ends in a name. -/
structure LeadsDown (path : String) : Prop extends Descends path where
  ends : EndsInMove path

instance (path : String) : Decidable (LeadsDown path) :=
  decidable_of_iff (Descends path ∧ EndsInMove path) ⟨fun h => ⟨h.1, h.2⟩, fun h => ⟨h.1, h.2⟩⟩

/-- A segment of a path that does not lead up. -/
structure IsComponent (name : String) : Prop where
  ne_empty : name ≠ ""
  ne_parent : name ≠ ".."
  noSlash : '/' ∉ name.toList

instance (name : String) : Decidable (IsComponent name) :=
  decidable_of_iff (name ≠ "" ∧ name ≠ ".." ∧ '/' ∉ name.toList)
    ⟨fun h => ⟨h.1, h.2.1, h.2.2⟩, fun h => ⟨h.ne_empty, h.ne_parent, h.noSlash⟩⟩

/-- Names that do not lead up make a path that descends. -/
theorem descends_ofNames {names : List String} (hne : names ≠ [])
    (h : ∀ name ∈ names, IsComponent name) : Descends (ofNames names) := by
  have hsegments : segments (ofNames names) = names :=
    segments_ofNames hne fun name hname => (h name hname).noSlash
  refine ⟨?_, fun hmem => ?_⟩
  · obtain ⟨first, rest, rfl⟩ := List.exists_cons_of_ne_nil hne
    exact isAbsolute_of_segments hsegments (h first List.mem_cons_self).ne_empty
  · rw [hsegments] at hmem
    exact (h ".." hmem).ne_parent rfl

theorem chain_eq_cons (path : String) : ∃ outer, chain path = path :: outer := by
  unfold chain
  cases path.length with
  | zero => exact ⟨[], rfl⟩
  | succ steps => exact ⟨_, rfl⟩

end Path

namespace Disk

variable {disk next : Disk} {location base : Location} {path segment dir : String}
  {segments : List String}

/-! ## Paths that lead down -/

/-- The location that the moves of a relative path give. -/
def targetOf (disk : Disk) (path : String) : Location := disk.home ++ Path.moves path

theorem targets_of_leadsDown (hhome : disk.at? disk.home = some .directory)
    (h : Path.LeadsDown path) : disk.Targets path (disk.targetOf path) :=
  targets_of_relative hhome h.relative h.ne_parent h.ends

/-- A path that leads down from a directory leads below where that aims at. -/
theorem Aims.join_of_leadsDown (h : disk.Aims dir base) (hpath : Path.LeadsDown path) :
    disk.Aims (Path.join dir path) (base ++ Path.moves path) :=
  h.join_of_relative hpath.relative hpath.ne_parent hpath.ends

/-! ## Steps -/

theorem step_eq_of_directory (h : disk.at? location = some .directory)
    (h' : next.at? location = some .directory) :
    next.step location segment = disk.step location segment := by
  simp only [step, h, h']

/-- A step that does not go up leads to the same place or below it. -/
theorem isPrefix_of_step {location' : Location} (hup : segment ≠ "..")
    (h : disk.step location segment = .ok location') : location <+: location' := by
  have hdir := directory_of_step h
  simp only [step, hdir, if_neg hup] at h
  split_ifs at h
  · cases h
    exact List.prefix_refl _
  · cases h
    exact List.prefix_append _ _

theorem isPrefix_of_foldlM_step {location' : Location} (hup : ".." ∉ segments)
    (h : segments.foldlM disk.step location = .ok location') : location <+: location' := by
  induction segments generalizing location with
  | nil =>
    cases h
    exact List.prefix_refl _
  | cons segment segments ih =>
    rw [List.mem_cons, not_or] at hup
    rw [List.foldlM_cons, Except.bind_eq_ok_iff] at h
    obtain ⟨middle, hstep, hrest⟩ := h
    exact (isPrefix_of_step (Ne.symm hup.1) hstep).trans (ih hup.2 hrest)

/-- Empty segments lead on from a directory only, and nowhere else. -/
theorem foldlM_step_idle (hdir : disk.at? location = some .directory)
    (hidle : ∀ segment ∈ segments, segment = "") :
    segments.foldlM disk.step location = .ok location := by
  induction segments with
  | nil => rfl
  | cons segment segments ih =>
    obtain ⟨rfl, hrest⟩ := List.forall_mem_cons.mp hidle
    have hstep : disk.step location "" = .ok location := by simp [step, hdir]
    rw [List.foldlM_cons, hstep]
    exact ih hrest

theorem eq_of_foldlM_step_idle {location' : Location} (hidle : ∀ segment ∈ segments, segment = "")
    (h : segments.foldlM disk.step location = .ok location') : location' = location := by
  induction segments generalizing location with
  | nil =>
    cases h
    rfl
  | cons segment segments ih =>
    obtain ⟨rfl, hrest⟩ := List.forall_mem_cons.mp hidle
    rw [List.foldlM_cons, Except.bind_eq_ok_iff] at h
    obtain ⟨middle, hstep, h⟩ := h
    have hdir := directory_of_step hstep
    simp only [step, hdir, true_or, if_true] at hstep
    cases hstep
    exact ih hrest h

/-- Segments lead to a directory, or to something new in a directory. -/
theorem directory_of_foldlM_step {location' : Location}
    (hstart : disk.at? location = some .directory)
    (h : segments.foldlM disk.step location = .ok location') :
    disk.at? location' = some .directory ∨
      location' ≠ [] ∧ disk.at? location'.dropLast = some .directory := by
  rcases List.eq_nil_or_concat segments with rfl | ⟨before, segment, rfl⟩
  · cases h
    exact Or.inl hstart
  · rw [List.concat_eq_append, List.foldlM_append, Except.bind_eq_ok_iff] at h
    obtain ⟨middle, -, h⟩ := h
    rw [List.foldlM_cons, Except.bind_eq_ok_iff] at h
    obtain ⟨last, hstep, hlast⟩ := h
    cases hlast
    have hdir := directory_of_step hstep
    simp only [step, hdir] at hstep
    split_ifs at hstep
    · cases hstep
      exact Or.inl hdir
    · cases hstep
      exact Or.inl (directory_above hdir (List.dropLast_prefix _))
    · cases hstep
      exact Or.inr ⟨by simp, by rwa [List.dropLast_concat]⟩

/-! ## Directories that are kept -/

section Kept

variable (hhome : next.home = disk.home)
  (hkept : ∀ location, disk.at? location = some .directory → next.at? location = some .directory)

include hkept in
theorem foldlM_step_of_directories {location' : Location}
    (h : segments.foldlM disk.step location = .ok location') :
    segments.foldlM next.step location = .ok location' := by
  induction segments generalizing location with
  | nil => exact h
  | cons segment segments ih =>
    rw [List.foldlM_cons, Except.bind_eq_ok_iff] at h
    obtain ⟨middle, hstep, hrest⟩ := h
    have hdir := directory_of_step hstep
    rw [List.foldlM_cons, step_eq_of_directory hdir (hkept _ hdir), hstep]
    exact ih hrest

include hhome hkept

theorem follow_of_directories (h : disk.follow path segments = .ok location) :
    next.follow path segments = .ok location := by
  rw [follow_eq_ok_iff] at h ⊢
  obtain ⟨hempty, hnul, hsize, h⟩ := h
  have hstart : next.startOf path = disk.startOf path := by rw [startOf, hhome, startOf]
  rw [hstart]
  exact ⟨hempty, hnul, hsize, foldlM_step_of_directories hkept h⟩

/-- A path still leads where it did, as long as the directories are kept. -/
theorem locate_of_directories (h : disk.locate path = .ok location) :
    next.locate path = .ok location :=
  follow_of_directories hhome hkept h

end Kept

/-! ## Something new -/

section New

variable (h : disk.place path = .ok location) (hne : disk.at? location ≠ some .directory)
include h hne

theorem trimmedSegments_ne_nil_of_place : Path.trimmedSegments path ≠ [] := by
  intro hsegments
  obtain ⟨hempty, -, -, hfold⟩ := follow_eq_ok_iff.mp h
  have hnames : Path.names path = [] := by
    rw [← Path.filter_trimmedSegments, hsegments]
    rfl
  have habsolute : Path.isAbsolute path = true := by
    by_contra hrel
    exact Path.names_ne_nil (Bool.eq_false_iff.mpr hrel) hempty hnames
  rw [hsegments, startOf, if_pos habsolute] at hfold
  cases hfold
  exact absurd rfl hne

/-- A place that is not that of a directory can take something new. -/
theorem accepts_of_place : disk.Accepts location := by
  obtain ⟨-, -, -, hfold⟩ := follow_eq_ok_iff.mp h
  have hsegments := trimmedSegments_ne_nil_of_place h hne
  have hstart : disk.at? (disk.startOf path) = some .directory := by
    obtain ⟨first, rest, hcons⟩ := List.exists_cons_of_ne_nil hsegments
    rw [hcons, List.foldlM_cons, Except.bind_eq_ok_iff] at hfold
    obtain ⟨middle, hstep, -⟩ := hfold
    exact directory_of_step hstep
  exact ⟨hne, ((directory_of_foldlM_step hstart hfold).resolve_left hne).2⟩

/-- Only a path that ends in a move leads to a place that is not that of a directory. -/
theorem endsInMove_of_place : Path.EndsInMove path := by
  obtain ⟨-, -, -, hfold⟩ := follow_eq_ok_iff.mp h
  obtain ⟨before, segment, hconcat⟩ :=
    (List.eq_nil_or_concat _).resolve_left (trimmedSegments_ne_nil_of_place h hne)
  rw [List.concat_eq_append] at hconcat
  rw [hconcat, List.foldlM_append, Except.bind_eq_ok_iff] at hfold
  obtain ⟨middle, -, hfold⟩ := hfold
  rw [List.foldlM_cons, Except.bind_eq_ok_iff] at hfold
  obtain ⟨last, hstep, hlast⟩ := hfold
  cases hlast
  refine ⟨segment, by simp [hconcat], ?_⟩
  by_contra hmove
  have hdir := directory_of_step hstep
  cases (step_of_not_isMove hdir hmove).symm.trans hstep
  exact hne hdir

end New

/-- A directory is found at the place of its path. -/
theorem find_of_place (h : disk.place path = .ok location)
    (hdir : disk.at? location = some .directory) : disk.find path = .ok .directory := by
  obtain ⟨hempty, hnul, hsize, hfold⟩ := follow_eq_ok_iff.mp h
  obtain ⟨idle, hsegments, hidle⟩ := Path.segments_eq_append path
  refine find_eq_ok_iff.mpr ⟨location, ?_, hdir⟩
  rw [locate, follow_eq_ok_iff, hsegments, List.foldlM_append, hfold]
  exact ⟨hempty, hnul, hsize, foldlM_step_idle hdir hidle⟩

/-! ## Growth -/

/-- The next disk holds all that was there, and what is new are directories. -/
structure Grows (disk next : Disk) : Prop where
  home : next.home = disk.home
  kept : ∀ location entry, disk.at? location = some entry → next.at? location = some entry
  noFile : ∀ location contents, next.at? location = some (.file contents) →
    disk.at? location = some (.file contents)

theorem Grows.refl (disk : Disk) : disk.Grows disk :=
  ⟨rfl, fun _ _ h => h, fun _ _ h => h⟩

theorem Grows.trans {middle : Disk} (h : disk.Grows middle) (h' : middle.Grows next) :
    disk.Grows next where
  home := h'.home.trans h.home
  kept location entry hat := h'.kept location entry (h.kept location entry hat)
  noFile location contents hat := h.noFile location contents (h'.noFile location contents hat)

instance : IsPreorder Disk Grows where
  refl := Grows.refl
  trans _ _ _ := Grows.trans

theorem Grows.locate (h : disk.Grows next) (hlocate : disk.locate path = .ok location) :
    next.locate path = .ok location :=
  locate_of_directories h.home (fun location hdir => h.kept location _ hdir) hlocate

theorem grows_put (hnone : disk.at? location = none) (haccepts : disk.Accepts location) :
    disk.Grows (disk.put location .directory) := by
  refine ⟨home_put _ _, fun other entry hat => ?_, fun other contents hat => ?_⟩
  · rw [at?_put _ haccepts, if_neg]
    · exact hat
    · rintro rfl
      simp [hnone] at hat
  · rw [at?_put _ haccepts] at hat
    split_ifs at hat
    · cases hat
    · exact hat

/-- A directory that is made is found under its path. -/
theorem grows_makeDirectory (h : disk.makeDirectory path = .ok next) :
    disk.Grows next ∧ next.find path = .ok .directory := by
  obtain ⟨location, hplace, hnone, rfl⟩ := makeDirectory_eq_ok_iff_place.mp h
  have haccepts : disk.Accepts location := accepts_of_place hplace (by simp [hnone])
  have hgrows := grows_put hnone haccepts
  have hplaced : (disk.put location .directory).place path = .ok location :=
    follow_of_directories hgrows.home (fun other hdir => hgrows.kept other _ hdir) hplace
  have hdir : (disk.put location .directory).at? location = some .directory := by
    rw [at?_put _ haccepts, if_pos rfl]
  exact ⟨hgrows, find_of_place hplaced hdir⟩

/-- A path that does not go up led nowhere before only if nothing was where it leads now. -/
theorem Grows.at?_base_eq_none (h : disk.Grows next) (hup : ".." ∉ Path.segments path)
    (hkind : disk.kind? path = none) (hlocate : next.locate path = .ok base)
    (hdir : next.at? base = some .directory) : disk.at? base = none := by
  by_contra hne
  obtain ⟨entry, hentry⟩ := Option.ne_none_iff_exists'.mp hne
  have hbase : disk.at? base = some .directory := by
    rw [hentry, ← h.kept base entry hentry, hdir]
  have hfold : ∀ {segments : List String} {location : Location}, ".." ∉ segments →
      segments.foldlM next.step location = .ok base →
      segments.foldlM disk.step location = .ok base := by
    intro segments location hup hfold
    induction segments generalizing location with
    | nil => exact hfold
    | cons segment segments ih =>
      have habove := isPrefix_of_foldlM_step hup hfold
      rw [List.foldlM_cons, Except.bind_eq_ok_iff] at hfold
      obtain ⟨middle, hstep, hrest⟩ := hfold
      rw [List.foldlM_cons, ← step_eq_of_directory (directory_above hbase habove)
        (directory_of_step hstep), hstep]
      exact ih (fun hmem => hup (List.mem_cons_of_mem _ hmem)) hrest
  obtain ⟨hempty, hnul, hsize, hnext⟩ := follow_eq_ok_iff.mp hlocate
  rw [startOf, h.home] at hnext
  have hfind : disk.find path = .ok .directory :=
    find_eq_ok_iff.mpr ⟨base, follow_eq_ok_iff.mpr ⟨hempty, hnul, hsize, hfold hup hnext⟩, hbase⟩
  rw [kind?_eq_directory_iff.mpr hfind] at hkind
  cases hkind

/-! ## Below a directory -/

/-- The location that the files of a directory lie below. Nothing is found under the empty path, and
the files of it lie below the working directory. -/
def baseOf (disk : Disk) (dir : String) : Except DiskFault Location :=
  if dir = "" then .ok disk.home else disk.locate dir

theorem baseOf_of_directories (hhome : next.home = disk.home)
    (hkept : ∀ location, disk.at? location = some .directory → next.at? location = some .directory)
    (h : disk.baseOf dir = .ok base) : next.baseOf dir = .ok base := by
  unfold baseOf at h ⊢
  split_ifs at h ⊢ with hempty
  · rw [hhome]
    exact h
  · exact locate_of_directories hhome hkept h

/-- A path below a directory goes on from where that leads: without the empty segments at its end
the directory has the same location. -/
theorem exists_front_of_locate (hdir : disk.locate dir = .ok base)
    (hrel : Path.isAbsolute path = false) :
    ∃ front, front.foldlM disk.step (disk.startOf dir) = .ok base ∧
      Path.segments (Path.join dir path) = front ++ Path.segments path := by
  obtain ⟨hempty, -, -, hbase⟩ := follow_eq_ok_iff.mp hdir
  obtain ⟨front, rest, hsegments, hrest, hjoin⟩ := Path.segments_join hrel hempty
  rw [hsegments, List.foldlM_append, Except.bind_eq_ok_iff] at hbase
  obtain ⟨middle, hfront, hrest'⟩ := hbase
  exact ⟨front, by rw [hfront, eq_of_foldlM_step_idle hrest hrest'], hjoin⟩

/-- A path that descends from a directory leads to a place that lies below it. -/
theorem isPrefix_of_place_join (hdir : disk.baseOf dir = .ok base) (hpath : Path.Descends path)
    (h : disk.place (Path.join dir path) = .ok location) : base <+: location := by
  obtain ⟨-, -, -, hfold⟩ := follow_eq_ok_iff.mp h
  obtain ⟨idle, hsegments, hidle⟩ := Path.segments_eq_append (Path.join dir path)
  by_cases hempty : dir = ""
  · subst hempty
    rw [Path.join_empty] at hfold hsegments
    rw [startOf_of_relative hpath.relative] at hfold
    cases hdir
    refine isPrefix_of_foldlM_step (fun hmem => hpath.noParent ?_) hfold
    rw [hsegments]
    exact List.mem_append_left _ hmem
  · rw [baseOf, if_neg hempty] at hdir
    obtain ⟨front, hfront, hjoin⟩ := exists_front_of_locate hdir hpath.relative
    rw [startOf, Path.isAbsolute_join hpath.relative hempty, ← startOf] at hfold
    have htrimmed : Path.trimmedSegments (Path.join dir path) <+: front ++ Path.segments path := by
      rw [← hjoin, hsegments]
      exact List.prefix_append _ _
    rcases List.prefix_or_prefix_of_prefix (List.prefix_append front _) htrimmed with hp | hp
    · obtain ⟨down, hdown⟩ := hp
      rw [← hdown, List.foldlM_append, hfront] at hfold
      refine isPrefix_of_foldlM_step (fun hmem => hpath.noParent ?_) hfold
      rw [hjoin, ← hdown, List.append_assoc, List.append_cancel_left_eq] at hsegments
      rw [hsegments]
      exact List.mem_append_left _ hmem
    · obtain ⟨up, hup⟩ := hp
      rw [hjoin, ← hup, List.append_assoc, List.append_cancel_left_eq] at hsegments
      rw [← hup, List.foldlM_append, hfold] at hfront
      have hidle' : ∀ segment ∈ up, segment = "" := fun segment hsegment =>
        hidle segment (hsegments ▸ List.mem_append_left _ hsegment)
      rw [eq_of_foldlM_step_idle hidle' hfront]

end Disk

namespace Session

variable {session : Session} {path : String}

/-- A directory that is made or found only adds to the disk. -/
theorem grows_settled (session : Session) (path : String) :
    ∃ outcome next,
      session.run (makeDirectory path >>= settleDirectory path) = (.ok outcome, next) ∧
      session.disk.Grows next.disk ∧
      (outcome = .ok () → next.disk.find path = .ok .directory) := by
  rw [run_bind, run_makeDirectory]
  cases hmake : session.disk.makeDirectory path with
  | ok disk =>
    obtain ⟨hgrows, hfind⟩ := Disk.grows_makeDirectory hmake
    exact ⟨.ok (), _, run_settleDirectory_ok _ path, hgrows, fun _ => hfind⟩
  | error fault =>
    refine ⟨_, _, run_settleDirectory_error _ path fault, .refl _, fun h => ?_⟩
    split_ifs at h with hkind
    exact Disk.kind?_eq_directory_iff.mp hkind

/-- Making the directories of a chain only adds to the disk. -/
theorem grows_createChain (session : Session) (chain : List String) :
    ∃ outcome next, session.run (createChain chain) = (.ok outcome, next) ∧
      session.disk.Grows next.disk ∧
      (outcome = .ok () → ∀ path outer, chain = path :: outer → path ≠ "" →
        next.disk.find path = .ok .directory) := by
  induction chain generalizing session with
  | nil => exact ⟨.error .notFound, session, rfl, .refl _, by simp⟩
  | cons path outer ih =>
    by_cases hempty : path = ""
    · subst hempty
      exact ⟨.ok (), session, rfl, .refl _, by simp⟩
    by_cases hmake : session.disk.makeDirectory path = .error .notFound
    · rw [run_createChain_of_notFound hempty outer hmake]
      obtain ⟨outcome, middle, hrun, hgrows, -⟩ := ih session
      rw [hrun]
      cases outcome with
      | error fault => exact ⟨.error fault, middle, rfl, hgrows, by simp⟩
      | ok made =>
        obtain ⟨outcome, next, hsettled, hgrows', hfind⟩ := grows_settled middle path
        refine ⟨outcome, next, hsettled, hgrows.trans hgrows', fun hok other rest heq _ => ?_⟩
        cases heq
        exact hfind hok
    · rw [run_createChain_of_ne hempty outer hmake]
      obtain ⟨outcome, next, hsettled, hgrows, hfind⟩ := grows_settled session path
      refine ⟨outcome, next, hsettled, hgrows, fun hok other rest heq _ => ?_⟩
      cases heq
      exact hfind hok

/-- Making a directory and those above it only adds to the disk. -/
theorem grows_createDirectories (session : Session) (path : String) :
    ∃ outcome next, session.run (createDirectories path) = (.ok outcome, next) ∧
      session.disk.Grows next.disk ∧
      (outcome = .ok () → path ≠ "" → next.disk.find path = .ok .directory) := by
  obtain ⟨outcome, next, hrun, hgrows, hfind⟩ := grows_createChain session (Path.chain path)
  obtain ⟨outer, hchain⟩ := Path.chain_eq_cons path
  exact ⟨outcome, next, hrun, hgrows, fun hok hempty => hfind hok path outer hchain hempty⟩

end Session

end ApiStencil

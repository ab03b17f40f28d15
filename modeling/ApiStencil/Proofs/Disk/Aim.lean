import ApiStencil.Proofs.Disk.Walk

/-!
# Aiming at a location

Where a path would lead is known from its moves, also when directories are missing on the way: it
aims at the location that is reached once they have been made. Going up leads somewhere only from a
directory that is there, so all that can be missing lies above that location.

## Main definitions

* `Disk.aimStep`: where a move leads, whether or not anything is there
* `Disk.Aims`: a path that aims at a location
* `Disk.IsDirectoryOf`: a path to the directory that another path leads into

## Main results

* `Disk.aims_of_isNormal`: a normal path aims at the location that its names give
* `Disk.Aims.of_directories`: a path still aims where it did, as long as the directories are kept
* `Disk.Aims.place_eq_ok_iff`: when something new can go where its path aims at
* `Disk.Aims.find_eq_directory_iff`: when a path leads to a directory
* `Disk.Aims.parent`: where the parent of a path aims
* `Disk.exists_isDirectoryOf`: the parent of a path to a file
-/

namespace ApiStencil.Disk

variable {disk next : Disk} {location target : Location} {path move name : String}
  {moves segments : List String}

/-- Where a move leads, whether or not anything is there. It goes up from a directory only. -/
def aimStep (disk : Disk) (location : Location) (move : String) : Option Location :=
  if move ≠ ".." then some (location ++ [move])
  else if disk.at? location = some .directory then some location.dropLast
  else none

theorem aimStep_of_ne (hne : move ≠ "..") :
    disk.aimStep location move = some (location ++ [move]) :=
  if_pos hne

theorem step_of_not_isMove (hdir : disk.at? location = some .directory)
    (hmove : ¬Path.IsMove move) : disk.step location move = .ok location := by
  have hidle : move = "" ∨ move = "." := by
    by_contra h
    exact hmove (not_or.mp h)
  simp only [step, hdir, hidle, if_true]

/-- From a directory a move leads where it aims at, if its name fits. -/
theorem step_eq_ok_iff_aimStep (hdir : disk.at? location = some .directory)
    (hmove : Path.IsMove move) {next : Location} :
    disk.step location move = .ok next ↔
      move.utf8ByteSize ≤ nameLimit ∧ disk.aimStep location move = some next := by
  simp only [step, hdir, aimStep, if_neg (not_or.mpr hmove), if_true]
  by_cases hup : move = ".."
  · subst hup
    rw [if_pos rfl, if_neg (not_not.mpr rfl), Except.ok.injEq, Option.some.injEq]
    exact (and_iff_right (by decide)).symm
  · rw [if_neg hup, if_pos hup]
    by_cases hlong : nameLimit < move.utf8ByteSize
    · simp [hlong, Nat.not_le.mpr hlong]
    · simp [hlong, Nat.not_lt.mp hlong]

/-- Aiming goes up from directories only, so what it passes otherwise lies above its target. -/
theorem isPrefix_of_aim (haim : moves.foldlM disk.aimStep location = some target)
    (hne : disk.at? location ≠ some .directory) : location <+: target := by
  induction moves generalizing location with
  | nil =>
    cases haim
    exact List.prefix_refl _
  | cons move moves ih =>
    rw [List.foldlM_cons, Option.bind_eq_bind, Option.bind_eq_some_iff] at haim
    obtain ⟨middle, hstep, hrest⟩ := haim
    unfold aimStep at hstep
    split_ifs at hstep
    cases hstep
    have hbelow : disk.at? (location ++ [move]) ≠ some .directory :=
      fun hdir => hne (directory_above hdir (List.prefix_append _ _))
    exact (List.prefix_append _ _).trans (ih hrest hbelow)

/-- Segments lead to a directory that they aim at, if their names fit. -/
theorem foldlM_step_of_directory
    (haim : (Path.movesOf segments).foldlM disk.aimStep location = some target)
    (hfit : ∀ move ∈ Path.movesOf segments, move.utf8ByteSize ≤ nameLimit)
    (hdir : disk.at? target = some .directory) :
    segments.foldlM disk.step location = .ok target := by
  induction segments generalizing location with
  | nil =>
    cases haim
    rfl
  | cons segment segments ih =>
    have hhere : disk.at? location = some .directory := by
      by_contra hne
      exact hne (directory_above hdir (isPrefix_of_aim haim hne))
    rw [List.foldlM_cons]
    by_cases hmove : Path.IsMove segment
    · rw [Path.movesOf_cons_of_isMove hmove] at haim hfit
      rw [List.foldlM_cons, Option.bind_eq_bind, Option.bind_eq_some_iff] at haim
      obtain ⟨middle, hstep, hrest⟩ := haim
      obtain ⟨hsegment, hfit⟩ := List.forall_mem_cons.mp hfit
      rw [(step_eq_ok_iff_aimStep hhere hmove).mpr ⟨hsegment, hstep⟩]
      exact ih hrest hfit
    · rw [Path.movesOf_cons_of_not_isMove hmove] at haim hfit
      rw [step_of_not_isMove hhere hmove]
      exact ih haim hfit

/-- Segments lead where they aim at, or nowhere. -/
theorem aim_of_foldlM_step (h : segments.foldlM disk.step location = .ok target) :
    (Path.movesOf segments).foldlM disk.aimStep location = some target ∧
      ∀ move ∈ Path.movesOf segments, move.utf8ByteSize ≤ nameLimit := by
  induction segments generalizing location with
  | nil =>
    cases h
    exact ⟨rfl, by simp [Path.movesOf]⟩
  | cons segment segments ih =>
    rw [List.foldlM_cons, Except.bind_eq_ok_iff] at h
    obtain ⟨middle, hstep, hrest⟩ := h
    have hdir := directory_of_step hstep
    obtain ⟨haim, hfit⟩ := ih hrest
    by_cases hmove : Path.IsMove segment
    · obtain ⟨hsegment, hstep⟩ := (step_eq_ok_iff_aimStep hdir hmove).mp hstep
      rw [Path.movesOf_cons_of_isMove hmove, List.foldlM_cons, hstep]
      exact ⟨haim, List.forall_mem_cons.mpr ⟨hsegment, hfit⟩⟩
    · obtain rfl : location = middle :=
        Except.ok.inj ((step_of_not_isMove hdir hmove).symm.trans hstep)
      rw [Path.movesOf_cons_of_not_isMove hmove]
      exact ⟨haim, hfit⟩

/-- Unless a file is in the way, segments with names that fit lead where they aim at or nowhere. -/
theorem foldlM_step_notFound_of_aim
    (haim : (Path.movesOf segments).foldlM disk.aimStep location = some target)
    (hfit : ∀ move ∈ Path.movesOf segments, move.utf8ByteSize ≤ nameLimit)
    (hfree : disk.Unblocked target)
    (hfail : ∀ next, segments.foldlM disk.step location ≠ .ok next) :
    segments.foldlM disk.step location = .error .notFound := by
  -- The induction is from the start: the first place that is missing ends the run.
  induction segments generalizing location with
  | nil => exact absurd rfl (hfail location)
  | cons segment segments ih =>
    rw [List.foldlM_cons] at hfail ⊢
    cases hat : disk.at? location with
    | none =>
      have hstep : disk.step location segment = .error .notFound := by simp [step, hat]
      rw [hstep]
      rfl
    | some entry =>
      have hhere : disk.at? location = some .directory := by
        cases entry with
        | directory => exact hat
        | file contents =>
          have habove := isPrefix_of_aim haim (by simp [hat])
          exact absurd hat (hfree location habove contents)
      by_cases hmove : Path.IsMove segment
      · rw [Path.movesOf_cons_of_isMove hmove] at haim hfit
        rw [List.foldlM_cons, Option.bind_eq_bind, Option.bind_eq_some_iff] at haim
        obtain ⟨middle, hstep, hrest⟩ := haim
        obtain ⟨hsegment, hfit⟩ := List.forall_mem_cons.mp hfit
        rw [(step_eq_ok_iff_aimStep hhere hmove).mpr ⟨hsegment, hstep⟩] at hfail ⊢
        exact ih hrest hfit hfail
      · rw [Path.movesOf_cons_of_not_isMove hmove] at haim hfit
        rw [step_of_not_isMove hhere hmove] at hfail ⊢
        exact ih haim hfit hfail

/-- Segments lead nowhere for want of a directory only if there is nothing where they aim at. -/
theorem at?_eq_none_of_foldlM_step
    (haim : (Path.movesOf segments).foldlM disk.aimStep location = some target)
    (h : segments.foldlM disk.step location = .error .notFound) : disk.at? target = none := by
  induction segments generalizing location with
  | nil => cases h
  | cons segment segments ih =>
    rw [List.foldlM_cons] at h
    cases hat : disk.at? location with
    | none => exact at?_eq_none_below hat (isPrefix_of_aim haim (by simp [hat]))
    | some entry =>
      cases hstep : disk.step location segment with
      | error fault =>
        rw [hstep] at h
        cases h
        cases entry with
        | file contents => simp [step, hat] at hstep
        | directory =>
          simp only [step, hat] at hstep
          split_ifs at hstep
          cases hstep
      | ok middle =>
        have hhere := directory_of_step hstep
        rw [hstep] at h
        by_cases hmove : Path.IsMove segment
        · obtain ⟨-, haimed⟩ := (step_eq_ok_iff_aimStep hhere hmove).mp hstep
          rw [Path.movesOf_cons_of_isMove hmove, List.foldlM_cons, haimed] at haim
          exact ih haim h
        · cases (step_of_not_isMove hhere hmove).symm.trans hstep
          rw [Path.movesOf_cons_of_not_isMove hmove] at haim
          exact ih haim h

/-! ## Paths that aim -/

/-- A path aims at a location: it leads there once the directories that are missing have been made.
It goes up only from directories that are there, and it ends in a move unless it leads to a
directory already. -/
structure Aims (disk : Disk) (path : String) (location : Location) : Prop where
  start : disk.at? (disk.startOf path) = some .directory
  moves : (Path.moves path).foldlM disk.aimStep (disk.startOf path) = some location
  ends : Path.EndsInMove path ∨ disk.at? location = some .directory

instance (disk : Disk) (path : String) (location : Location) :
    Decidable (disk.Aims path location) :=
  decidable_of_iff (disk.at? (disk.startOf path) = some .directory ∧
      (Path.moves path).foldlM disk.aimStep (disk.startOf path) = some location ∧
      (Path.EndsInMove path ∨ disk.at? location = some .directory))
    ⟨fun h => ⟨h.1, h.2.1, h.2.2⟩, fun h => ⟨h.start, h.moves, h.ends⟩⟩

theorem aim_of_directories
    (hkept : ∀ location, disk.at? location = some .directory → next.at? location = some .directory)
    (h : moves.foldlM disk.aimStep location = some target) :
    moves.foldlM next.aimStep location = some target := by
  induction moves generalizing location with
  | nil => exact h
  | cons move moves ih =>
    rw [List.foldlM_cons, Option.bind_eq_bind, Option.bind_eq_some_iff] at h
    obtain ⟨middle, hstep, hrest⟩ := h
    have hstep : next.aimStep location move = some middle := by
      unfold aimStep at hstep ⊢
      split_ifs at hstep with hup hdir
      · rwa [if_pos hup]
      · rwa [if_neg hup, if_pos (hkept _ hdir)]
    rw [List.foldlM_cons, hstep]
    exact ih hrest

/-- A path still aims where it did, as long as the directories are kept. -/
theorem Aims.of_directories (h : disk.Aims path location) (hhome : next.home = disk.home)
    (hkept : ∀ location, disk.at? location = some .directory →
      next.at? location = some .directory) : next.Aims path location := by
  have hstart : next.startOf path = disk.startOf path := by rw [startOf, hhome, startOf]
  refine ⟨?_, ?_, h.ends.imp_right (hkept _)⟩
  · rw [hstart]
    exact hkept _ h.start
  · rw [hstart]
    exact aim_of_directories hkept h.moves

theorem aim_of_ne (h : ∀ move ∈ moves, move ≠ "..") :
    moves.foldlM disk.aimStep location = some (location ++ moves) := by
  induction moves generalizing location with
  | nil => simp
  | cons move moves ih =>
    obtain ⟨hmove, hmoves⟩ := List.forall_mem_cons.mp h
    rw [List.foldlM_cons, aimStep_of_ne hmove]
    exact (ih hmoves).trans (by rw [List.append_assoc, List.singleton_append])

section Relative

variable (hrel : Path.isAbsolute path = false) (hdown : ∀ move ∈ Path.moves path, move ≠ "..")
include hrel hdown

/-- A relative path that never goes up aims below the working directory. -/
theorem aims_of_relative (hhome : disk.at? disk.home = some .directory)
    (hends : Path.EndsInMove path ∨ Path.moves path = []) :
    disk.Aims path (disk.home ++ Path.moves path) := by
  have hstart : disk.startOf path = disk.home := startOf_of_relative hrel
  refine ⟨by rwa [hstart], ?_, hends.imp_right fun hnil => by simpa [hnil] using hhome⟩
  rw [hstart]
  exact aim_of_ne hdown

/-- Below a directory such a path leads down from where that aims at. -/
theorem Aims.join_of_relative {dir : String} {base : Location} (h : disk.Aims dir base)
    (hends : Path.EndsInMove path) : disk.Aims (Path.join dir path) (base ++ Path.moves path) := by
  have hstart : disk.startOf (Path.join dir path) = disk.startOf dir := by
    by_cases hempty : dir = ""
    · rw [hempty, Path.join_empty, startOf_of_relative hrel]
      rfl
    · rw [startOf, Path.isAbsolute_join hrel hempty, ← startOf]
  refine ⟨hstart ▸ h.start, ?_, Or.inl (hends.join hrel)⟩
  rw [hstart, Path.moves_join hrel, List.foldlM_append, h.moves]
  exact aim_of_ne hdown

end Relative

theorem aims_of_isNormal (hhome : disk.at? disk.home = some .directory)
    (hnormal : Path.IsNormal path) : disk.Aims path (disk.locationOf path) := by
  rw [locationOf, ← hnormal.moves_eq]
  refine aims_of_relative hnormal.relative hnormal.ne_parent hhome ?_
  by_cases hempty : path = ""
  · exact Or.inr (by simp [hempty])
  · exact Or.inl (hnormal.endsInMove hempty)

/-- A normal path below a directory leads down from where that aims at. -/
theorem Aims.join {dir : String} {base : Location} (h : disk.Aims dir base)
    (hnormal : Path.IsNormal path) (hempty : path ≠ "") :
    disk.Aims (Path.join dir path) (base ++ Path.names path) := by
  rw [← hnormal.moves_eq]
  exact h.join_of_relative hnormal.relative hnormal.ne_parent (hnormal.endsInMove hempty)

section Aims

variable (haims : disk.Aims path location)
include haims

/-- Unless a directory is there already, a path ends in the name of what it aims at. -/
theorem Aims.exists_concat (hne : disk.at? location ≠ some .directory) :
    ∃ before name outer, Path.trimmedSegments path = before ++ [name] ∧ Path.IsMove name ∧
      name ≠ ".." ∧ (Path.movesOf before).foldlM disk.aimStep (disk.startOf path) = some outer ∧
      location = outer ++ [name] := by
  obtain ⟨name, hlast, hmove⟩ := haims.ends.resolve_right hne
  obtain ⟨before, hbefore⟩ := List.getLast?_eq_some_iff.mp hlast
  have hmoves := haims.moves
  rw [← Path.movesOf_trimmedSegments, hbefore, Path.movesOf_append,
    Path.movesOf_cons_of_isMove hmove, List.foldlM_append, Option.bind_eq_bind,
    Option.bind_eq_some_iff] at hmoves
  obtain ⟨outer, houter, hname⟩ := hmoves
  rw [Path.movesOf, List.filter_nil, List.foldlM_cons, Option.bind_eq_bind,
    Option.bind_eq_some_iff] at hname
  obtain ⟨last, hname, hend⟩ := hname
  cases hend
  unfold aimStep at hname
  split_ifs at hname with hup hdir
  · cases hname
    exact ⟨before, name, outer, hbefore, hmove, hup, houter, rfl⟩
  · cases hname
    exact absurd (directory_above hdir (List.dropLast_prefix outer)) hne

/-- Unless a directory is there already, the last move of a path goes down. -/
theorem Aims.exists_moves (hne : disk.at? location ≠ some .directory) :
    ∃ name outer, Path.moves path = outer ++ [name] ∧ name ≠ ".." := by
  obtain ⟨before, name, -, hbefore, hmove, hup, -, -⟩ := haims.exists_concat hne
  refine ⟨name, Path.movesOf before, ?_, hup⟩
  rw [← Path.movesOf_trimmedSegments, hbefore, Path.movesOf_append,
    Path.movesOf_cons_of_isMove hmove]
  rfl

theorem Aims.place_eq_ok {next : Location} (h : disk.place path = .ok next) :
    Fits path ∧ next = location := by
  obtain ⟨-, hnul, hsize, hfold⟩ := follow_eq_ok_iff.mp h
  obtain ⟨haim, hfit⟩ := aim_of_foldlM_step hfold
  rw [Path.movesOf_trimmedSegments] at haim hfit
  exact ⟨fits_iff_moves.mpr ⟨hnul, hsize, hfit⟩, Option.some.inj (haim.symm.trans haims.moves)⟩

theorem Aims.place_of_directory (hempty : path ≠ "") (hfits : Fits path)
    (hdir : disk.at? location = some .directory) : disk.place path = .ok location := by
  obtain ⟨hnul, hsize, hfit⟩ := fits_iff_moves.mp hfits
  refine follow_eq_ok_iff.mpr ⟨hempty, hnul, hsize, foldlM_step_of_directory ?_ ?_ hdir⟩
  · rw [Path.movesOf_trimmedSegments]
    exact haims.moves
  · rw [Path.movesOf_trimmedSegments]
    exact hfit

/-- Something new goes where its path aims at, if that is in a directory. -/
theorem Aims.place_eq_ok_iff (hempty : path ≠ "") {next : Location} :
    disk.place path = .ok next ↔
      Fits path ∧ next = location ∧ disk.at? location.dropLast = some .directory := by
  by_cases hdir : disk.at? location = some .directory
  · have houter := directory_above hdir (List.dropLast_prefix location)
    constructor
    · intro h
      obtain ⟨hfits, rfl⟩ := haims.place_eq_ok h
      exact ⟨hfits, rfl, houter⟩
    · rintro ⟨hfits, rfl, -⟩
      exact haims.place_of_directory hempty hfits hdir
  · obtain ⟨before, name, outer, hbefore, hmove, hup, houter, rfl⟩ := haims.exists_concat hdir
    rw [List.dropLast_concat]
    have hstep : disk.aimStep outer name = some (outer ++ [name]) := aimStep_of_ne hup
    constructor
    · intro h
      obtain ⟨hfits, rfl⟩ := haims.place_eq_ok h
      obtain ⟨-, -, -, hfold⟩ := follow_eq_ok_iff.mp h
      rw [hbefore, List.foldlM_append, Except.bind_eq_ok_iff] at hfold
      obtain ⟨middle, hfold, hlast⟩ := hfold
      obtain rfl : middle = outer :=
        Option.some.inj ((aim_of_foldlM_step hfold).1.symm.trans houter)
      rw [List.foldlM_cons, Except.bind_eq_ok_iff] at hlast
      obtain ⟨last, hlast, -⟩ := hlast
      exact ⟨hfits, rfl, directory_of_step hlast⟩
    · rintro ⟨hfits, rfl, hthere⟩
      obtain ⟨hnul, hsize, hfit⟩ := fits_iff_moves.mp hfits
      rw [← Path.movesOf_trimmedSegments, hbefore, Path.movesOf_append,
        Path.movesOf_cons_of_isMove hmove] at hfit
      have hfold := foldlM_step_of_directory houter
        (fun move hmem => hfit move (List.mem_append_left _ hmem)) hthere
      refine follow_eq_ok_iff.mpr ⟨hempty, hnul, hsize, ?_⟩
      rw [hbefore, List.foldlM_append, hfold]
      have hlast := (step_eq_ok_iff_aimStep hthere hmove).mpr ⟨hfit name (by simp), hstep⟩
      simp only [bind, Except.bind, List.foldlM_cons, hlast, List.foldlM_nil]
      rfl

/-- Unless a file is in the way, something new cannot go anywhere just if a directory is missing. -/
theorem Aims.place_eq_notFound (hempty : path ≠ "") (hfits : Fits path)
    (hfree : disk.Unblocked location)
    (houter : disk.at? location.dropLast ≠ some .directory) :
    disk.place path = .error .notFound := by
  have hfail : ∀ next, disk.place path ≠ .ok next := fun next hok =>
    houter ((haims.place_eq_ok_iff hempty).mp hok).2.2
  have hfollow : disk.place path =
      (Path.trimmedSegments path).foldlM disk.step (disk.startOf path) := by
    rw [place, follow, if_neg hempty, if_neg (by simpa using hfits.noNul),
      if_neg (Nat.not_lt.mpr hfits.size)]
  obtain ⟨-, -, hfit⟩ := fits_iff_moves.mp hfits
  rw [hfollow] at hfail ⊢
  refine foldlM_step_notFound_of_aim ?_ ?_ hfree hfail
  · rw [Path.movesOf_trimmedSegments]
    exact haims.moves
  · rw [Path.movesOf_trimmedSegments]
    exact hfit

/-- Something new cannot go anywhere for want of a directory only if it is not there yet. -/
theorem Aims.at?_eq_none_of_place (h : disk.place path = .error .notFound) (hempty : path ≠ "") :
    disk.at? location = none := by
  rw [place, follow, if_neg hempty] at h
  split_ifs at h
  · cases h
  · cases h
  · refine at?_eq_none_of_foldlM_step ?_ h
    rw [Path.movesOf_trimmedSegments]
    exact haims.moves

theorem Aims.locate_of_directory (hempty : path ≠ "") (hfits : Fits path)
    (hdir : disk.at? location = some .directory) : disk.locate path = .ok location := by
  obtain ⟨hnul, hsize, hfit⟩ := fits_iff_moves.mp hfits
  exact follow_eq_ok_iff.mpr
    ⟨hempty, hnul, hsize, foldlM_step_of_directory haims.moves hfit hdir⟩

theorem Aims.find_eq_ok {entry : Entry} (h : disk.find path = .ok entry) :
    Fits path ∧ disk.at? location = some entry := by
  obtain ⟨found, hlocate, hat⟩ := find_eq_ok_iff.mp h
  obtain ⟨-, hnul, hsize, hfold⟩ := follow_eq_ok_iff.mp hlocate
  obtain ⟨haim, hfit⟩ := aim_of_foldlM_step hfold
  obtain rfl := Option.some.inj (haim.symm.trans haims.moves)
  exact ⟨fits_iff_moves.mpr ⟨hnul, hsize, hfit⟩, hat⟩

/-- A path leads to a directory if it aims at one and fits. -/
theorem Aims.find_eq_directory_iff (hempty : path ≠ "") :
    disk.find path = .ok .directory ↔ Fits path ∧ disk.at? location = some .directory := by
  refine ⟨haims.find_eq_ok, fun ⟨hfits, hdir⟩ => find_eq_ok_iff.mpr ?_⟩
  exact ⟨location, haims.locate_of_directory hempty hfits hdir, hdir⟩

/-- The parent of a path aims at the directory that the path aims into. -/
theorem Aims.parent {outer : List String} (hmoves : Path.moves path = outer ++ [name])
    (hname : name ≠ "..") :
    ∃ parent base, Path.parent? path = some parent ∧ parent.length < path.length ∧
      disk.Aims parent base ∧ location = base ++ [name] ∧ (Fits path → Fits parent) := by
  obtain ⟨parent, hparent, hpre, habsolute, hpmoves, hends⟩ := Path.parent?_of_moves hmoves
  have hstart : disk.startOf parent = disk.startOf path := by rw [startOf, habsolute, startOf]
  have haim := haims.moves
  rw [hmoves, List.foldlM_append, Option.bind_eq_bind, Option.bind_eq_some_iff] at haim
  obtain ⟨base, hbase, hlast⟩ := haim
  rw [List.foldlM_cons, aimStep_of_ne hname] at hlast
  cases hlast
  refine ⟨parent, base, hparent, ?_, ⟨hstart ▸ haims.start, ?_, ?_⟩, rfl, fun hfits => ?_⟩
  · exact Path.length_lt_of_moves_ne hpre (by simp [hpmoves, hmoves])
  · rw [hstart, hpmoves]
    exact hbase
  · by_cases houter : outer = []
    · rw [houter] at hbase
      cases hbase
      exact Or.inr haims.start
    · exact Or.inl (hends houter)
  · obtain ⟨hnul, hsize, hfit⟩ := fits_iff_moves.mp hfits
    refine fits_iff_moves.mpr ⟨fun hmem => hnul (hpre.subset hmem), ?_, fun move hmem => ?_⟩
    · exact (Text.utf8ByteSize_le_of_isPrefix hpre).trans hsize
    · rw [hpmoves] at hmem
      exact hfit move (hmoves ▸ List.mem_append_left _ hmem)

end Aims

/-! ## The directory of a file -/

/-- A path leads to the directory that another path leads into. The empty path stands for the
working directory. -/
def IsDirectoryOf (disk : Disk) (base path : String) : Prop :=
  Path.parent? path = some base ∧ ∃ directory name, disk.locate path = .ok (directory ++ [name]) ∧
    (base = "" ∧ directory = disk.home ∨ base ≠ "" ∧ disk.locate base = .ok directory)

section File

variable {contents : Contents} (hfile : disk.find path = .ok (.file contents))
include hfile

/-- A path to a file ends in the name of the file. -/
theorem exists_segments_of_file :
    ∃ outer name directory, Path.segments path = outer ++ [name] ∧ Path.IsMove name ∧
      name ≠ ".." ∧ outer.foldlM disk.step (disk.startOf path) = .ok directory ∧
      disk.at? directory = some .directory ∧ disk.locate path = .ok (directory ++ [name]) := by
  obtain ⟨location, hlocate, hat⟩ := find_eq_ok_iff.mp hfile
  obtain ⟨-, -, -, hfold⟩ := follow_eq_ok_iff.mp hlocate
  rcases List.eq_nil_or_concat (Path.segments path) with hnil | ⟨outer, name, hsegments⟩
  · simp [Path.segments] at hnil
  rw [List.concat_eq_append] at hsegments
  rw [hsegments, List.foldlM_append, Except.bind_eq_ok_iff] at hfold
  obtain ⟨directory, houter, hlast⟩ := hfold
  rw [List.foldlM_cons, Except.bind_eq_ok_iff] at hlast
  obtain ⟨found, hstep, hend⟩ := hlast
  cases hend
  have hdir := directory_of_step hstep
  have hmove : Path.IsMove name := by
    by_contra hidle
    cases (step_of_not_isMove hdir hidle).symm.trans hstep
    exact absurd (hdir.symm.trans hat) (by simp)
  obtain ⟨-, haim⟩ := (step_eq_ok_iff_aimStep hdir hmove).mp hstep
  unfold aimStep at haim
  split_ifs at haim with hup
  · cases haim
    exact ⟨outer, name, directory, hsegments, hmove, hup, houter, hdir, hlocate⟩
  · cases haim
    have habove := directory_above hdir (List.dropLast_prefix directory)
    exact absurd (habove.symm.trans hat) (by simp)

/-- A path to a file aims at it. -/
theorem exists_aims_of_file :
    ∃ outer name directory, Path.moves path = outer ++ [name] ∧ name ≠ ".." ∧
      disk.at? directory = some .directory ∧ disk.locate path = .ok (directory ++ [name]) ∧
      disk.Aims path (directory ++ [name]) := by
  obtain ⟨outer, name, directory, hsegments, hmove, hup, houter, hdir, hlocate⟩ :=
    exists_segments_of_file hfile
  obtain ⟨haim, -⟩ := aim_of_foldlM_step houter
  have hmoves : Path.moves path = Path.movesOf outer ++ [name] := by
    rw [Path.moves, hsegments, Path.movesOf_append, Path.movesOf_cons_of_isMove hmove]
    rfl
  refine ⟨Path.movesOf outer, name, directory, hmoves, hup, hdir, hlocate, ?_, ?_, .inl ?_⟩
  · by_contra hne
    exact hne (directory_above hdir (isPrefix_of_aim haim hne))
  · rw [hmoves, List.foldlM_append, haim]
    simp [aimStep_of_ne hup]
  · refine @Path.endsInMove_of_names path (outer.filter (· ≠ "")) name ?_ hmove.2
    rw [Path.names, hsegments, List.filter_append, List.filter_cons_of_pos (by simpa using hmove.1),
      List.filter_nil]

/-- The parent of a path to a file leads to the directory of the file. -/
theorem exists_isDirectoryOf : ∃ base, disk.IsDirectoryOf base path := by
  obtain ⟨outer, name, directory, hmoves, hup, hdir, hlocate, haims⟩ := exists_aims_of_file hfile
  obtain ⟨base, location, hparent, -, hbase, hlocation, hfits⟩ := haims.parent hmoves hup
  obtain ⟨rfl, -⟩ := List.append_inj' hlocation rfl
  refine ⟨base, hparent, directory, name, hlocate, ?_⟩
  by_cases hempty : base = ""
  · subst hempty
    have hhome := hbase.moves
    rw [Path.moves_empty] at hhome
    exact .inl ⟨rfl, (Option.some.inj hhome).symm⟩
  · exact .inr ⟨hempty, hbase.locate_of_directory hempty (hfits (haims.find_eq_ok hfile).1) hdir⟩

end File

end ApiStencil.Disk

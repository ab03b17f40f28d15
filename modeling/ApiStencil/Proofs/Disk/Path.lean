import ApiStencil.Disk.Path
import ApiStencil.Proofs.Text

/-!
# The names and moves on a path

A path is followed segment by segment, and slashes that are doubled or at its end change nothing
about where it leads. Neither does `.`, so what is left of its segments are the moves. The parent of
a path has all its moves but the last, and joining paths appends them. On a relative path without
`.` and `..` the moves are its names, and it leads straight down.

## Main definitions

* `Path.names`: the segments of a path that are not empty
* `Path.IsNormal`: a path that leads straight down from where it starts
* `Path.moves`: the segments of a path that lead somewhere

## Main results

* `Path.parent?_of_moves`: the parent of a path has all its moves but the last
* `Path.names_join`, `Path.moves_join`: a path below another has the names and moves of both
-/

namespace ApiStencil

namespace Path

/-- The names on a path: its segments that are not empty. -/
def names (path : String) : List String := (segments path).filter (· ≠ "")

/-- A path that leads straight down from the directory that it starts from. -/
structure IsNormal (path : String) : Prop where
  relative : isAbsolute path = false
  ne_dot : ∀ name ∈ names path, name ≠ "." ∧ name ≠ ".."

instance (path : String) : Decidable (IsNormal path) :=
  decidable_of_iff (isAbsolute path = false ∧ ∀ name ∈ names path, name ≠ "." ∧ name ≠ "..")
    ⟨fun h => ⟨h.1, h.2⟩, fun h => ⟨h.1, h.2⟩⟩

variable {path base : String}

@[simp] theorem names_empty : names "" = [] := by decide

/-- Only the empty one of the relative paths has no names. -/
theorem names_ne_nil (hrel : isAbsolute path = false) (hne : path ≠ "") : names path ≠ [] := by
  cases hpath : path.toList with
  | nil => exact absurd (String.toList_eq_nil_iff.mp hpath) hne
  | cons c rest =>
    have hc : c ≠ '/' := by simpa [isAbsolute, hpath] using hrel
    obtain ⟨first, more, hmore⟩ := List.exists_cons_of_ne_nil (List.splitOn_ne_nil '/' rest)
    have hsegments : segments path = String.ofList (c :: first) :: more.map String.ofList := by
      simp [segments, hpath, List.splitOn_cons_eq_if_modifyHead, hc, hmore]
    simp [names, hsegments]

theorem exists_names_eq_append (hrel : isAbsolute path = false) (hne : path ≠ "") :
    ∃ outer name, names path = outer ++ [name] :=
  ⟨_, _, (List.dropLast_append_getLast (names_ne_nil hrel hne)).symm⟩

theorem names_ofList (cs : List Char) :
    names (String.ofList cs) = ((cs.splitOn '/').filter (· ≠ [])).map String.ofList := by
  rw [names, segments, String.toList_ofList, List.filter_map]
  congr 1
  exact List.filter_congr fun part _ => by simp

/-- A text without slashes is the only name on its path. -/
theorem names_of_notMem {cs : List Char} (h : '/' ∉ cs) (hne : cs ≠ []) :
    names (String.ofList cs) = [String.ofList cs] := by
  rw [names_ofList, List.splitOn_eq_singleton h]
  simp [hne]

theorem relative_start {start : String} (h : isAbsolute path = false)
    (hstart : start.toList <+: path.toList) : isAbsolute start = false := by
  obtain ⟨rest, hrest⟩ := hstart
  cases hs : start.toList with
  | nil => simp [isAbsolute, hs]
  | cons c cs => simpa [isAbsolute, hs, ← hrest] using h

/-- The segments of a path are those without the empty ones at its end, and those. -/
theorem segments_eq_append (path : String) :
    ∃ idle, segments path = trimmedSegments path ++ idle ∧ ∀ segment ∈ idle, segment = "" := by
  obtain ⟨idle, happend, hidle⟩ :=
    Text.exists_dropWhileEnd_append (fun segment => decide (segment = "")) (segments path)
  exact ⟨idle, happend, fun segment hsegment => by simpa using hidle segment hsegment⟩

/-- A path that does not end in a slash has no empty segment at its end. -/
theorem trimmedSegments_of_not_endsInSlash (hne : path ≠ "") (h : endsInSlash path = false) :
    trimmedSegments path = segments path := by
  obtain ⟨front, c, hconcat⟩ : ∃ front c, path.toList = front ++ [c] :=
    ⟨_, _, (List.dropLast_append_getLast (by simpa using hne)).symm⟩
  have hc : '/' ∉ [c] := by simpa [endsInSlash, hconcat, eq_comm] using h
  obtain ⟨init, last, -, hsplit⟩ := Text.splitOn_append (s := front) hc
  have hsegments : segments path = init.map String.ofList ++ [String.ofList (last ++ [c])] := by
    rw [segments, hconcat, hsplit, List.map_append, List.map_singleton]
  rw [trimmedSegments, hsegments, Text.dropWhileEnd_concat_of_neg _ (by simp)]

theorem filter_trimmedSegments (path : String) :
    (trimmedSegments path).filter (· ≠ "") = names path := by
  have hfilter := Text.filter_dropWhileEnd (fun segment => decide (segment = "")) (segments path)
  simpa [trimmedSegments, names] using hfilter

/-! ## Moves -/

/-- A segment that leads somewhere. -/
def IsMove (segment : String) : Prop := segment ≠ "" ∧ segment ≠ "."

instance : DecidablePred IsMove := fun _ => inferInstanceAs (Decidable (_ ∧ _))

/-- Those of some segments that lead somewhere. -/
def movesOf (segments : List String) : List String := segments.filter (IsMove ·)

/-- The moves on a path: its segments that lead somewhere. -/
def moves (path : String) : List String := movesOf (segments path)

/-- Apart from slashes at its end, a path ends in a move. -/
def EndsInMove (path : String) : Prop := ∃ move ∈ (trimmedSegments path).getLast?, IsMove move

instance (path : String) : Decidable (EndsInMove path) :=
  inferInstanceAs (Decidable (∃ move ∈ (trimmedSegments path).getLast?, IsMove move))

@[simp] theorem moves_empty : moves "" = [] := by decide

@[simp] theorem movesOf_append (front rest : List String) :
    movesOf (front ++ rest) = movesOf front ++ movesOf rest :=
  List.filter_append _ _

@[simp] theorem movesOf_cons_of_isMove {segment : String} (h : IsMove segment)
    (segments : List String) : movesOf (segment :: segments) = segment :: movesOf segments :=
  List.filter_cons_of_pos (by simpa using h)

@[simp] theorem movesOf_cons_of_not_isMove {segment : String} (h : ¬IsMove segment)
    (segments : List String) : movesOf (segment :: segments) = movesOf segments :=
  List.filter_cons_of_neg (by simpa using h)

theorem isMove_ofList (part : List Char) : IsMove (String.ofList part) ↔ isIdle part = false := by
  have hdot : String.ofList part = "." ↔ part = ['.'] :=
    ⟨fun h => String.ofList_injective h, fun h => h ▸ rfl⟩
  simp [IsMove, isIdle, hdot]

theorem movesOf_map_ofList (parts : List (List Char)) :
    movesOf (parts.map String.ofList) = (parts.filter (!isIdle ·)).map String.ofList := by
  rw [movesOf, List.filter_map]
  congr 1
  exact List.filter_congr fun part _ => by simp [isMove_ofList]

theorem movesOf_eq_nil {segments : List String} (h : ∀ segment ∈ segments, ¬IsMove segment) :
    movesOf segments = [] :=
  List.filter_eq_nil_iff.mpr fun segment hsegment => by simpa using h segment hsegment

theorem movesOf_trimmedSegments (path : String) : movesOf (trimmedSegments path) = moves path := by
  obtain ⟨idle, hsegments, hidle⟩ := segments_eq_append path
  have hnone : movesOf idle = [] :=
    movesOf_eq_nil fun segment hsegment hmove => hmove.1 (hidle segment hsegment)
  rw [moves, hsegments, movesOf_append, hnone, List.append_nil]

theorem moves_eq_filter_names (path : String) : moves path = (names path).filter (· ≠ ".") := by
  rw [moves, movesOf, names, List.filter_filter]
  exact List.filter_congr fun segment _ => by
    by_cases h : segment = "" <;> simp [IsMove, h]

theorem IsNormal.moves_eq (h : IsNormal path) : moves path = names path := by
  rw [moves_eq_filter_names, List.filter_eq_self]
  exact fun name hname => by simpa using (h.ne_dot name hname).1

/-- A path whose last name is a move ends in it. -/
theorem endsInMove_of_names {outer : List String} {name : String}
    (hnames : names path = outer ++ [name]) (hname : name ≠ ".") : EndsInMove path := by
  have hfilter : (segments path).filter (fun segment => !decide (segment = "")) =
      outer ++ [name] := by simpa [names] using hnames
  obtain ⟨before, hbefore, -⟩ := Text.dropWhileEnd_eq_append _ hfilter
  have hne : name ≠ "" := by
    have hmem : name ∈ names path := by simp [hnames]
    simpa using (List.mem_filter.mp hmem).2
  exact ⟨name, by simp [trimmedSegments, hbefore], hne, hname⟩

theorem IsNormal.endsInMove (h : IsNormal path) (hne : path ≠ "") : EndsInMove path := by
  obtain ⟨outer, name, hnames⟩ := exists_names_eq_append h.relative hne
  exact endsInMove_of_names hnames (h.ne_dot name (by simp [hnames])).1

theorem IsNormal.ne_parent (h : IsNormal path) : ∀ move ∈ moves path, move ≠ ".." := by
  rw [h.moves_eq]
  exact fun name hname => (h.ne_dot name hname).2

/-- A path ends in a move if its last name is one. -/
theorem EndsInMove.exists_names (h : EndsInMove path) :
    ∃ outer name, names path = outer ++ [name] ∧ IsMove name := by
  obtain ⟨name, hlast, hmove⟩ := h
  obtain ⟨before, hbefore⟩ := List.getLast?_eq_some_iff.mp hlast
  refine ⟨before.filter (· ≠ ""), name, ?_, hmove⟩
  rw [← filter_trimmedSegments, hbefore, List.filter_append]
  simp [hmove.1]

theorem EndsInMove.ne_empty (h : EndsInMove path) : path ≠ "" := by
  rintro rfl
  obtain ⟨outer, name, hnames, -⟩ := h.exists_names
  simp at hnames

theorem EndsInMove.exists_moves (h : EndsInMove path) :
    ∃ outer name, moves path = outer ++ [name] := by
  obtain ⟨outer, name, hnames, hmove⟩ := h.exists_names
  refine ⟨outer.filter (· ≠ "."), name, ?_⟩
  rw [moves_eq_filter_names, hnames, List.filter_append]
  simp [hmove.2]

theorem EndsInMove.moves_ne_nil (h : EndsInMove path) : moves path ≠ [] := by
  obtain ⟨outer, name, hmoves⟩ := h.exists_moves
  simp [hmoves]

/-! ## The parent of a path -/

/-- What a path starts with leads nowhere, and after it come its segments. -/
theorem splitOn_splitStart (path : List Char) {parts : List (List Char)}
    (hparts : parts <+: (splitStart path).2.splitOn '/') (hmove : parts.filter (!isIdle ·) ≠ []) :
    ∃ front idle rest,
      ((splitStart path).1 ++ ['/'].intercalate parts).splitOn '/' = front ++ rest ∧
      parts = idle ++ rest ∧ front.filter (!isIdle ·) = [] ∧ idle.filter (!isIdle ·) = [] := by
  have hne : parts ≠ [] := by rintro rfl; exact hmove rfl
  have hsplit : (['/'].intercalate parts).splitOn '/' = parts :=
    List.splitOn_intercalate '/'
      (fun part hpart => Text.notMem_of_mem_splitOn (hparts.subset hpart)) hne
  revert hparts
  unfold splitStart
  split
  · rename_i rest
    intro hparts
    exact ⟨[[]], [], parts, by simp [List.splitOn_cons_eq_if_modifyHead, hsplit], rfl, rfl, rfl⟩
  · intro hparts
    have hall : ∀ part ∈ parts, (!isIdle part) = false := by
      intro part hpart
      obtain rfl : part = [] := by simpa using hparts.subset hpart
      rfl
    exact absurd (List.filter_eq_nil_iff.mpr fun part hpart => by simp [hall part hpart]) hmove
  · rename_i rest
    intro hparts
    obtain ⟨first, more, rfl⟩ := List.exists_cons_of_ne_nil hne
    rw [List.splitOn_cons_eq_if_modifyHead, if_pos (by simp)] at hparts
    obtain ⟨rfl, hmore⟩ := List.cons_prefix_cons.mp hparts
    refine ⟨[['.']], [[]], more, ?_, rfl, rfl, rfl⟩
    simp [List.splitOn_cons_eq_if_modifyHead, hsplit]
  · intro hparts
    exact ⟨[], [], parts, by simpa using hsplit, rfl, rfl, rfl⟩

theorem splitStart_append (path : List Char) :
    (splitStart path).1 ++ (splitStart path).2 = path := by
  unfold splitStart
  split <;> rfl

theorem filter_splitOn_splitStart (path : List Char) :
    ((splitStart path).2.splitOn '/').filter (!isIdle ·) =
      (path.splitOn '/').filter (!isIdle ·) := by
  unfold splitStart
  split
  · rfl
  · rfl
  · simp [List.splitOn_cons_eq_if_modifyHead, isIdle]
  · rfl

theorem moves_ofList (path : List Char) :
    moves (String.ofList path) = ((path.splitOn '/').filter (!isIdle ·)).map String.ofList := by
  rw [moves, segments, String.toList_ofList, movesOf_map_ofList]

theorem moves_splitStart (path : List Char) : moves (String.ofList (splitStart path).1) = [] := by
  have hslash : moves (String.ofList ['/']) = [] := by decide
  have hdot : moves (String.ofList ['.']) = [] := by decide
  have hnil : moves (String.ofList []) = [] := by decide
  unfold splitStart
  split
  · exact hslash
  · exact hdot
  · exact hdot
  · exact hnil

theorem splitStart_of_isAbsolute (h : isAbsolute path = true) :
    (splitStart path.toList).1 = ['/'] := by
  cases hpath : path.toList with
  | nil => simp [isAbsolute, hpath] at h
  | cons c rest =>
    obtain rfl : c = '/' := by simpa [isAbsolute, hpath] using h
    rfl

/-- What is left of a path with some of its first segments comes first on the path. -/
theorem splitStart_isPrefix {path : List Char} {parts : List (List Char)}
    (hparts : parts <+: (splitStart path).2.splitOn '/') :
    (splitStart path).1 ++ ['/'].intercalate parts <+: path := by
  have hall : ['/'].intercalate ((splitStart path).2.splitOn '/') = (splitStart path).2 :=
    List.intercalate_splitOn '/'
  have hbody : ['/'].intercalate parts <+: (splitStart path).2 :=
    hall ▸ Text.intercalate_isPrefix hparts
  have hwhole := (List.prefix_append_right_inj (splitStart path).1).mpr hbody
  rwa [splitStart_append] at hwhole

/-- A path is left with its first segments up to some move. -/
theorem moves_splitStart_append {path part : List Char} {above : List (List Char)}
    (hparts : above ++ [part] <+: (splitStart path).2.splitOn '/') (hpart : isIdle part = false) :
    moves (String.ofList ((splitStart path).1 ++ ['/'].intercalate (above ++ [part]))) =
        ((above ++ [part]).filter (!isIdle ·)).map String.ofList ∧
      EndsInMove (String.ofList ((splitStart path).1 ++ ['/'].intercalate (above ++ [part]))) := by
  have hmove : (above ++ [part]).filter (!isIdle ·) ≠ [] := by simp [hpart]
  obtain ⟨front, idle, rest, hsplit, hrest, hfront, hidle⟩ := splitOn_splitStart path hparts hmove
  have hmoves : (above ++ [part]).filter (!isIdle ·) = rest.filter (!isIdle ·) := by
    rw [hrest, List.filter_append, hidle, List.nil_append]
  refine ⟨by rw [moves_ofList, hsplit, List.filter_append, hfront, List.nil_append, hmoves], ?_⟩
  have hne : rest ≠ [] := fun hnil => hmove (by simp [hmoves, hnil])
  obtain ⟨init, last, rfl⟩ : ∃ init last, rest = init ++ [last] :=
    ⟨_, _, (List.dropLast_append_getLast hne).symm⟩
  rw [← List.append_assoc] at hrest
  cases (List.append_inj' hrest rfl).2
  have hlast : IsMove (String.ofList part) := (isMove_ofList part).mpr hpart
  refine ⟨String.ofList part, ?_, hlast⟩
  simp [trimmedSegments, segments, hsplit, ← List.append_assoc, Text.dropWhileEnd_concat_of_neg,
    hlast.1]

/-- The parent of a path is what is left of it with its first segments, up to the move before the
last. -/
theorem parentOf?_eq {path last : List Char} {init : List (List Char)}
    (h : (path.splitOn '/').filter (!isIdle ·) = init ++ [last]) :
    ∃ up, parentOf? path = some ((splitStart path).1 ++ ['/'].intercalate up) ∧
      up <+: (splitStart path).2.splitOn '/' ∧ up.filter (!isIdle ·) = init ∧
      ∀ above part, up = above ++ [part] → isIdle part = false := by
  rw [← filter_splitOn_splitStart] at h
  obtain ⟨before, hbefore, hinit⟩ := Text.dropWhileEnd_eq_append isIdle h
  refine ⟨Text.dropWhileEnd isIdle before, ?_, ?_, ?_, ?_⟩
  · simp only [parentOf?, hbefore]
    cases before with
    | nil => simp
    | cons part parts => simp [List.dropLast_cons_of_ne_nil]
  · exact ((Text.dropWhileEnd_isPrefix isIdle before).trans (List.prefix_append before _)).trans
      (hbefore ▸ Text.dropWhileEnd_isPrefix isIdle _)
  · rw [Text.filter_dropWhileEnd, hinit]
  · exact fun _ _ => Text.not_of_dropWhileEnd_eq_append

/-- A path with a move has a parent, which comes first on the path and has all its moves but the
last. -/
theorem parent?_of_moves {outer : List String} {move : String}
    (hmoves : moves path = outer ++ [move]) :
    ∃ parent, parent? path = some parent ∧ parent.toList <+: path.toList ∧
      isAbsolute parent = isAbsolute path ∧ moves parent = outer ∧
      (outer ≠ [] → EndsInMove parent) := by
  rw [← String.ofList_toList (s := path), moves_ofList] at hmoves
  obtain ⟨init, last, hfilter, rfl, hlast⟩ := List.map_eq_append_iff.mp hmoves
  obtain ⟨moveChars, rfl, -⟩ := List.map_eq_singleton_iff.mp hlast
  obtain ⟨up, hchars, hpre, rfl, hends⟩ := parentOf?_eq hfilter
  have hstart := splitStart_isPrefix hpre
  refine ⟨_, by rw [parent?, hchars]; rfl, by rwa [String.toList_ofList], ?_, ?_⟩
  · cases habsolute : isAbsolute path with
    | true => simp [isAbsolute, splitStart_of_isAbsolute habsolute]
    | false => exact relative_start habsolute (by rwa [String.toList_ofList])
  rcases List.eq_nil_or_concat up with rfl | ⟨above, part, hconcat⟩
  · simp [moves_splitStart]
  · rw [List.concat_eq_append] at hconcat
    subst hconcat
    obtain ⟨hmoves, hend⟩ := moves_splitStart_append hpre (hends above part rfl)
    exact ⟨hmoves, fun _ => hend⟩

/-- A path that comes first on another one is shorter, unless it has the same moves. -/
theorem length_lt_of_moves_ne {start : String} (hstart : start.toList <+: path.toList)
    (hne : moves start ≠ moves path) : start.length < path.length := by
  rw [← String.length_toList, ← String.length_toList]
  refine lt_of_le_of_ne hstart.length_le fun hlength => hne ?_
  rw [String.toList_injective (hstart.eq_of_length hlength)]

/-! ## Segments -/

/-- What is added to a path without slashes is added to its last segment. -/
theorem segments_append (path : String) {ending : String} (h : '/' ∉ ending.toList) :
    ∃ init last, segments path = init ++ [last] ∧
      segments (path ++ ending) = init ++ [last ++ ending] := by
  obtain ⟨init, last, hpath, happend⟩ := Text.splitOn_append (s := path.toList) h
  refine ⟨init.map String.ofList, String.ofList last, by simp [segments, hpath], ?_⟩
  simp [segments, happend]

/-- The segments of a path of names are the names. -/
theorem segments_ofNames {names : List String} (hne : names ≠ [])
    (h : ∀ name ∈ names, '/' ∉ name.toList) : segments (ofNames names) = names := by
  have hparts : ∀ part ∈ names.map String.toList, '/' ∉ part := by simpa using h
  rw [segments, ofNames, String.toList_intercalate]
  rw [show "/".toList = ['/'] from rfl, List.splitOn_intercalate '/' hparts (by simpa using hne)]
  simp

/-- An absolute path starts with an empty segment. -/
theorem isAbsolute_of_segments {first : String} {rest : List String}
    (h : segments path = first :: rest) (hfirst : first ≠ "") : isAbsolute path = false := by
  by_contra habsolute
  obtain ⟨tail, htail⟩ : ∃ tail, path.toList = '/' :: tail := by
    cases hpath : path.toList with
    | nil => simp [isAbsolute, hpath] at habsolute
    | cons c tail => exact ⟨tail, by simpa [isAbsolute, hpath] using habsolute⟩
  have hempty : segments path = "" :: (tail.splitOn '/').map String.ofList := by
    simp [segments, htail, List.splitOn_cons_eq_if_modifyHead]
  exact hfirst (List.cons.inj (h.symm.trans hempty)).1

/-! ## A path below another -/

theorem segments_append_slash (front rest : List Char) :
    segments (String.ofList (front ++ '/' :: rest)) =
      segments (String.ofList front) ++ segments (String.ofList rest) := by
  simp [segments, List.splitOn_append_cons_self]

theorem join_empty (path : String) : join "" path = path := by
  simp [join, needsSlash]

/-- Exactly one slash is added to a path before another, if it does not end in one. -/
theorem join_of_relative (h : isAbsolute path = false) (hbase : base ≠ "") :
    ∃ front, (base = String.ofList front ∨ base = String.ofList (front ++ ['/'])) ∧
      join base path = String.ofList (front ++ '/' :: path.toList) := by
  rw [join, if_neg (by simp [h])]
  have hne : base.toList ≠ [] := by simpa using hbase
  obtain ⟨front, c, hconcat⟩ : ∃ front c, base.toList = front ++ [c] :=
    ⟨_, _, (List.dropLast_append_getLast hne).symm⟩
  have hbase : base = String.ofList (front ++ [c]) := by rw [← hconcat, String.ofList_toList]
  by_cases hc : c = '/'
  · refine ⟨front, Or.inr (by rw [hbase, hc]), ?_⟩
    rw [if_neg (by simp [needsSlash, hconcat, hc])]
    exact String.toList_injective (by simp [hbase, hc])
  · refine ⟨front ++ [c], Or.inl hbase, ?_⟩
    rw [if_pos (by simp [needsSlash, hconcat, hc])]
    exact String.toList_injective (by simp [hbase])

/-- The segments of a path below another are those of the other, but for empty ones at its end, and
its own. -/
theorem segments_join (h : isAbsolute path = false) (hbase : base ≠ "") :
    ∃ front idle, segments base = front ++ idle ∧ (∀ segment ∈ idle, segment = "") ∧
      segments (join base path) = front ++ segments path := by
  obtain ⟨front, hfront, hjoin⟩ := join_of_relative h hbase
  rw [hjoin, segments_append_slash, String.ofList_toList]
  rcases hfront with rfl | rfl
  · exact ⟨_, [], by simp, by simp, rfl⟩
  · exact ⟨_, [""], segments_append_slash front [], by simp, rfl⟩

/-- The names on a path below another are those of the other and its own. -/
theorem names_join (h : isAbsolute path = false) :
    names (join base path) = names base ++ names path := by
  by_cases hempty : base = ""
  · simp [hempty, join_empty]
  obtain ⟨front, idle, hbase, hidle, hjoin⟩ := segments_join h hempty
  have hnone : idle.filter (· ≠ "") = [] :=
    List.filter_eq_nil_iff.mpr fun segment hsegment => by simp [hidle segment hsegment]
  simp only [names]
  rw [hjoin, hbase, List.filter_append, List.filter_append, hnone, List.append_nil]

/-- The moves on a path below another are those of the other and its own. -/
theorem moves_join (h : isAbsolute path = false) :
    moves (join base path) = moves base ++ moves path := by
  simp only [moves_eq_filter_names, names_join h, List.filter_append]

theorem isAbsolute_join (h : isAbsolute path = false) (hbase : base ≠ "") :
    isAbsolute (join base path) = isAbsolute base := by
  obtain ⟨c, cs, hchars⟩ := List.exists_cons_of_ne_nil (l := base.toList) (by simpa using hbase)
  rw [join, if_neg (by simp [h])]
  split <;> simp [isAbsolute, hchars]

theorem relative_join (hbase : isAbsolute base = false) (h : isAbsolute path = false) :
    isAbsolute (join base path) = false := by
  by_cases hempty : base = ""
  · rwa [hempty, join_empty]
  · rwa [isAbsolute_join h hempty]

/-- Nothing below a directory is that directory, with a slash at its end. -/
theorem endsInSlash_join_empty (hbase : base ≠ "") : endsInSlash (join base "") = true := by
  have hrel : isAbsolute "" = false := by decide
  obtain ⟨front, -, hjoin⟩ := join_of_relative hrel hbase
  simp [hjoin, endsInSlash]

theorem endsInSlash_join (h : isAbsolute path = false) (hne : path ≠ "") :
    endsInSlash (join base path) = endsInSlash path := by
  by_cases hempty : base = ""
  · rw [hempty, join_empty]
  obtain ⟨front, -, hjoin⟩ := join_of_relative h hempty
  obtain ⟨c, cs, hchars⟩ := List.exists_cons_of_ne_nil (l := path.toList) (by simpa using hne)
  simp [hjoin, endsInSlash, List.getLast?_append, List.getLast?_cons_cons, hchars]

theorem EndsInMove.join (h : EndsInMove path) (hrel : isAbsolute path = false) :
    EndsInMove (join base path) := by
  obtain ⟨outer, name, hnames, hmove⟩ := h.exists_names
  have hjoin : names (Path.join base path) = names base ++ outer ++ [name] := by
    rw [names_join hrel, hnames, List.append_assoc]
  exact endsInMove_of_names hjoin hmove.2

/-- Only a path that ends in a move makes one that ends in a move below a directory. -/
theorem EndsInMove.of_join (h : EndsInMove (Path.join base path)) (hrel : isAbsolute path = false)
    (hslash : endsInSlash (Path.join base path) = false) : EndsInMove path := by
  by_cases hempty : path = ""
  · subst hempty
    by_cases hbase : base = ""
    · subst hbase
      exact absurd rfl h.ne_empty
    · rw [endsInSlash_join_empty hbase] at hslash
      cases hslash
  · obtain ⟨outer, name, hnames, hmove⟩ := h.exists_names
    obtain ⟨before, last, hlast⟩ := exists_names_eq_append hrel hempty
    rw [names_join hrel, hlast, ← List.append_assoc] at hnames
    obtain ⟨-, heq⟩ := List.append_inj' hnames rfl
    obtain rfl := List.singleton_inj.mp heq
    exact endsInMove_of_names hlast hmove.2

end Path
end ApiStencil

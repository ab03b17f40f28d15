import ApiStencil.EnumDescription
import ApiStencil.Proofs.Dict
import ApiStencil.Proofs.Text.Splitting

/-!
# Written descriptions of enums

The description of an enum can be written from the shared description and a text for each literal,
and it is read back without loss. Literals and texts may hold dashes and bars of their own: what
matters is that no separator occurs in a line but the one that has been written, not even over the
end of the literal.

## Main definitions

* `EnumDescription.Documents`: a line gives a literal a text
* `EnumDescription.Opening`: whether the first of some lines is the shared description
* `EnumDescription.write`, `EnumDescription.IsWritable`: how a description is written, and when

## Main results

* `EnumDescription.entryOf?_eq_some_iff`: the entry of a line
* `EnumDescription.Opening.ofLines_eq`: what some lines say
* `EnumDescription.ofText_write`: a written description is read back
-/

namespace ApiStencil.EnumDescription

variable {line marked : List Char} {lines rest : List (List Char)} {shared : Option String}
  {literal text : String} {entries : List (String × String)}

/-! ## Reading a line -/

/-- A literal stands behind two characters of a marker, and a list dash may stand before these. -/
def Marks (marked literal : List Char) : Prop :=
  (∃ bare, marked = ['-', ' '] ++ bare ∧ literal = bare.drop 2) ∨
    ¬ ['-', ' '] <+: marked ∧ literal = marked.drop 2

theorem literal_eq_iff {l : List Char} : EnumDescription.literal marked = l ↔ Marks marked l := by
  unfold EnumDescription.literal Marks
  cases h : ['-', ' '].isPrefixOf? marked with
  | some bare =>
    obtain rfl : ['-', ' '] ++ bare = marked := List.isPrefixOf?_eq_some_iff_append_eq.mp h
    simp [eq_comm]
  | none =>
    have hdash : ¬ ['-', ' '] <+: marked := by
      rintro ⟨bare, hbare⟩
      rw [List.isPrefixOf?_eq_some_iff_append_eq.mpr hbare] at h
      cases h
    have hbare : ¬ ∃ bare, marked = ['-', ' '] ++ bare ∧ l = bare.drop 2 := by
      rintro ⟨bare, hmarked, -⟩
      exact hdash ⟨bare, hmarked.symm⟩
    rw [Option.getD_none, or_iff_right hbare, and_iff_right hdash, eq_comm]

/-- A line gives a literal a text: it splits in two at the separator, into the marked literal and
the text. -/
def Documents (line : List Char) (literal text : String) : Prop :=
  ∃ marked, Text.Halves separator line marked text.toList ∧ Marks marked literal.toList

theorem entryOf?_eq_some_iff :
    entryOf? line = some (literal, text) ↔ Documents line literal text := by
  have hsep : separator ≠ [] := List.cons_ne_nil _ _
  constructor
  · intro h
    unfold entryOf? at h
    split at h
    next marked found hsplit =>
      rw [Option.some.injEq, Prod.mk.injEq] at h
      obtain ⟨rfl, rfl⟩ := h
      refine ⟨marked, ?_, ?_⟩
      · rw [String.toList_ofList]
        exact (Text.splitText_eq_pair_iff hsep).mp hsplit
      · rw [String.toList_ofList]
        exact literal_eq_iff.mp rfl
    next => cases h
  · rintro ⟨marked, hhalves, hmarks⟩
    rw [entryOf?, (Text.splitText_eq_pair_iff hsep).mpr hhalves]
    simp only [literal_eq_iff.mpr hmarks, String.ofList_toList]

/-! ## Reading lines -/

/-- The first of some lines is the shared description if it ends in a bar, and its bars are no part
of that. The other lines may document literals. -/
inductive Opening : List (List Char) → Option String → List (List Char) → Prop
  | shared {first : List Char} {rest : List (List Char)} (h : first.getLast? = some '|') :
    Opening (first :: rest) (some (String.ofList (first.filter (· ≠ '|')))) rest
  | plain {lines : List (List Char)} (h : ∀ first ∈ lines.head?, first.getLast? ≠ some '|') :
    Opening lines none lines

theorem exists_opening (lines : List (List Char)) : ∃ shared rest, Opening lines shared rest := by
  cases lines with
  | nil => exact ⟨none, [], .plain nofun⟩
  | cons first rest =>
    by_cases h : first.getLast? = some '|'
    · exact ⟨_, rest, .shared h⟩
    · exact ⟨none, first :: rest, .plain (by simpa using h)⟩

/-- Lines say what the first one shares, and what the others document. -/
theorem Opening.ofLines_eq (h : Opening lines shared rest) :
    ofLines lines = { shared, cases := Dict.ofList (rest.filterMap entryOf?) } := by
  cases h with
  | @shared first _ h =>
    have hfirst : shared? first = some (String.ofList (first.filter (· ≠ '|'))) := if_pos h
    simp only [ofLines, hfirst]
  | plain h =>
    cases lines with
    | nil => rfl
    | cons first rest =>
      have hfirst : shared? first = none := if_neg (h first rfl)
      simp only [ofLines, hfirst]

/-! ## Writing -/

/-- The line of a literal and its text. -/
def writeEntry (entry : String × String) : String :=
  "- xx" ++ entry.1 ++ " - " ++ entry.2

/-- A description with a line for what is shared, if there is anything, and one for each entry. -/
def write (shared : Option String) (entries : List (String × String)) : String :=
  "\n".intercalate ((shared.map (· ++ "|")).toList ++ entries.map writeEntry)

/-- What can be written so that it is read back: everything is on one line, no separator is found
where none has been written, and only what is shared ends the first line with a bar. -/
structure IsWritable (shared : Option String) (entries : List (String × String)) : Prop where
  plain : ∀ text ∈ shared, '|' ∉ text.toList ∧ '\n' ∉ text.toList
  feeds : ∀ entry ∈ entries, '\n' ∉ entry.1.toList ∧ '\n' ∉ entry.2.toList
  separators : ∀ entry ∈ entries,
    ¬ separator <:+: entry.1.toList ∧ ¬ separator <:+: entry.2.toList
  dashes : ∀ entry ∈ entries, ¬ [' ', '-'] <:+ entry.1.toList
  returns : ∀ entry ∈ entries, entry.2.toList.getLast? ≠ some '\r'
  bar : shared = none → ∀ entry ∈ entries.head?, entry.2.toList.getLast? ≠ some '|'

theorem toList_writeEntry (entry : String × String) :
    (writeEntry entry).toList =
      (['-', ' ', 'x', 'x'] ++ entry.1.toList) ++ separator ++ entry.2.toList := by
  simp [writeEntry, separator]

/-- What comes before the text of an entry ends in a blank, so the line ends as the text does. -/
theorem getLast?_writeEntry (entry : String × String) :
    (writeEntry entry).toList.getLast? = entry.2.toList.getLast?.or (some ' ') := by
  have hfront : (['-', ' ', 'x', 'x'] ++ entry.1.toList ++ separator).getLast? = some ' ' := by
    rw [List.getLast?_append]
    rfl
  rw [toList_writeEntry, List.getLast?_append, hfront]

/-- A separator that begins within the marked literal would have to end there, or leave a blank and
a dash at its end. -/
theorem separator_absent {literal : List Char} (h : ¬ separator <:+: literal)
    (hdash : ¬ [' ', '-'] <:+ literal) :
    ¬ separator <:+: ['-', ' ', 'x', 'x'] ++ literal ++ separator.dropLast := by
  have hend : ¬ separator <:+: literal ++ [' '] ++ ['-'] := by
    intro hoccurs
    rcases List.infix_concat_iff.mp hoccurs with hsuffix | hoccurs
    · obtain ⟨start, hstart⟩ := hsuffix
      have hlast := congrArg List.getLast? hstart
      simp [separator] at hlast
    · rcases List.infix_concat_iff.mp hoccurs with hsuffix | hoccurs
      · obtain ⟨start, hstart⟩ := hsuffix
        have hfront : start ++ [' ', '-'] ++ [' '] = literal ++ [' '] := by
          rw [← hstart]
          simp [separator]
        exact hdash ⟨start, (List.append_inj' hfront rfl).1⟩
      · exact h hoccurs
  intro hoccurs
  have hline : ['-', ' ', 'x', 'x'] ++ literal ++ separator.dropLast =
      '-' :: ' ' :: 'x' :: 'x' :: (literal ++ [' '] ++ ['-']) := by
    simp [separator]
  -- No separator begins at one of the four characters before the literal.
  rw [hline, List.infix_cons_iff, List.infix_cons_iff, List.infix_cons_iff,
    List.infix_cons_iff] at hoccurs
  simp only [hend, or_false] at hoccurs
  simp [separator] at hoccurs

/-- The line of an entry documents this entry and no other one. -/
theorem entryOf?_writeEntry {entry : String × String} (hliteral : ¬ separator <:+: entry.1.toList)
    (htext : ¬ separator <:+: entry.2.toList) (hdash : ¬ [' ', '-'] <:+ entry.1.toList) :
    entryOf? (writeEntry entry).toList = some entry := by
  have hcut := Text.cut_of_absent (separator_absent hliteral hdash) entry.2.toList
  rw [← toList_writeEntry] at hcut
  apply entryOf?_eq_some_iff.mpr
  exact ⟨_, ⟨hcut, htext⟩, .inl ⟨['x', 'x'] ++ entry.1.toList, by simp, rfl⟩⟩

/-- The written lines are the lines of the description. -/
theorem lines_write (h : IsWritable shared entries) :
    Text.lines (write shared entries).toList =
      (shared.map (·.toList ++ ['|'])).toList ++ entries.map fun e => (writeEntry e).toList := by
  have hlines : ((shared.map (· ++ "|")).toList ++ entries.map writeEntry).map String.toList =
      (shared.map (·.toList ++ ['|'])).toList ++ entries.map fun e => (writeEntry e).toList := by
    cases shared <;> simp
  rw [write, String.toList_intercalate, hlines]
  apply Text.lines_intercalate
  · intro line hline
    rcases List.mem_append.mp hline with hline | hline
    · obtain ⟨text, htext, rfl⟩ := Option.map_eq_some_iff.mp (Option.mem_toList.mp hline)
      simp [(h.plain text htext).2]
    · obtain ⟨entry, hentry, rfl⟩ := List.mem_map.mp hline
      rw [toList_writeEntry]
      simp [h.feeds entry hentry, separator]
  · intro line hline
    rcases List.mem_append.mp hline with hline | hline
    · obtain ⟨text, htext, rfl⟩ := Option.map_eq_some_iff.mp (Option.mem_toList.mp hline)
      simp
    · obtain ⟨entry, hentry, rfl⟩ := List.mem_map.mp hline
      refine ⟨by simp [toList_writeEntry], ?_⟩
      rw [getLast?_writeEntry]
      have hreturn := h.returns entry hentry
      cases hlast : entry.2.toList.getLast? with
      | none => decide
      | some c => rwa [hlast] at hreturn

theorem opening_write (h : IsWritable shared entries) :
    Opening ((shared.map (·.toList ++ ['|'])).toList ++ entries.map fun e => (writeEntry e).toList)
      shared (entries.map fun e => (writeEntry e).toList) := by
  cases shared with
  | some text =>
    have hfilter : text.toList.filter (· ≠ '|') = text.toList := by
      rw [List.filter_eq_self]
      intro c hc
      have hne : c ≠ '|' := fun heq => (h.plain text rfl).1 (heq ▸ hc)
      simpa using hne
    have hshared : String.ofList ((text.toList ++ ['|']).filter (· ≠ '|')) = text := by
      rw [List.filter_append, hfilter]
      simp
    have hopening : Opening ((text.toList ++ ['|']) :: entries.map fun e => (writeEntry e).toList)
        _ (entries.map fun e => (writeEntry e).toList) := .shared List.getLast?_concat
    rwa [hshared] at hopening
  | none =>
    refine .plain fun first hfirst => ?_
    cases entries with
    | nil => cases hfirst
    | cons entry entries =>
      obtain rfl : (writeEntry entry).toList = first := by simpa using hfirst
      rw [getLast?_writeEntry]
      have hbar := h.bar rfl entry rfl
      cases hlast : entry.2.toList.getLast? with
      | none => decide
      | some c => rwa [hlast] at hbar

/-- **A written description is read back.** What is shared comes back as it was, and the literals
come back in the order in which they occur first, each with the text of its last entry. -/
theorem ofText_write (h : IsWritable shared entries) :
    ofText (some (write shared entries)) = { shared, cases := Dict.ofList entries } ∧
      (Dict.ofList entries).keys = (entries.map Prod.fst).eraseDups ∧
      ∀ literal text, (Dict.ofList entries).get? literal = some text ↔
        LastOf (fun entry text => entry = (literal, text)) entries text := by
  refine ⟨?_, Dict.keys_ofList entries, fun literal text => Dict.get?_ofList_eq_some_iff⟩
  have hentries : (entries.map fun e => (writeEntry e).toList).filterMap entryOf? = entries := by
    rw [List.filterMap_map]
    calc entries.filterMap (entryOf? ∘ fun e => (writeEntry e).toList)
        = entries.filterMap some := List.filterMap_congr fun entry hentry =>
          entryOf?_writeEntry (h.separators entry hentry).1 (h.separators entry hentry).2
            (h.dashes entry hentry)
      _ = entries := List.filterMap_some
  rw [ofText, lines_write h, (opening_write h).ofLines_eq, hentries]

/-- Entries with dashes and bars at the ends of literals and texts, with a literal that occurs twice
and with one that is empty. -/
def sizeEntries : List (String × String) :=
  [("klein", "- small -"), ("", ""), ("-", "| größer |"), ("klein", "S\r|")]

theorem ofText_write_sizes :
    IsWritable (some "Größe - x") sizeEntries ∧
      write (some "Größe - x") sizeEntries =
        "Größe - x|\n- xxklein - - small -\n- xx - \n- xx- - | größer |\n- xxklein - S\r|" ∧
      ofText (some (write (some "Größe - x") sizeEntries)) =
        { shared := some "Größe - x", cases := Dict.ofList sizeEntries } ∧
      (Dict.ofList sizeEntries).keys = ["klein", "", "-"] ∧
      (Dict.ofList sizeEntries).get? "klein" = some "S\r|" := by
  have h : IsWritable (some "Größe - x") sizeEntries :=
    { plain := by decide +kernel
      feeds := by decide +kernel
      separators := by decide +kernel
      dashes := by decide +kernel
      returns := by decide +kernel
      bar := nofun }
  obtain ⟨hread, hkeys, hlast⟩ := ofText_write h
  refine ⟨h, by decide +kernel, hread, hkeys.trans (by decide +kernel), ?_⟩
  exact (hlast "klein" "S\r|").mpr ⟨sizeEntries.dropLast, ("klein", "S\r|"), [], rfl, rfl, nofun⟩

end ApiStencil.EnumDescription

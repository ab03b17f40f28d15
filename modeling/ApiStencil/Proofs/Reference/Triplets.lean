import ApiStencil.Proofs.Reference
import ApiStencil.Proofs.Text

/-!
# Triplets in references

An unreserved character of a reference may also be written as a percent triplet. Such a triplet is
read as the character, but only after the escapes have been replaced. So it makes a difference where
the character belongs to an escape, `~%31` being a tilde and a digit, and it makes none anywhere
else.

The segment is read piece by piece. An escape or a triplet is a token, which becomes one byte, and
every character outside the tokens becomes its own bytes. No character but the first of a token can
start one, so tokens do not overlap, and two parts of a segment can be read on their own unless a
token lies across the cut.

## Main definitions

* `Reference.Escape`, `Reference.Triplet`, `Reference.Token`: what is read as one byte
* `Reference.PartOf`: a character of a text belongs to such a piece
* `Reference.segmentBytes`: the bytes that a segment stands for

## Main results

* `Reference.segmentBytes_token`, `Reference.segmentBytes_cons`: one token, or one character that
  none starts at
* `Reference.segmentBytes_append`: two parts that no token joins
* `refName_triplet_iff`: a triplet in place of an unreserved character
-/

namespace ApiStencil

namespace Reference

/-! ## Tokens -/

/-- An escape and the byte it is read as. -/
inductive Escape : List Char → UInt8 → Prop
  | slash : Escape ['~', '1'] 0x2F
  | tilde : Escape ['~', '0'] 0x7E

/-- A percent sign with two digits in either case, and the byte of their value. -/
inductive Triplet : List Char → UInt8 → Prop
  | digits {high low : Char} {m n : Nat} (hhigh : Text.hexValue? high = some m)
      (hlow : Text.hexValue? low = some n) : Triplet ['%', high, low] (UInt8.ofNat (16 * m + n))

/-- The pieces of a segment that are read as one byte. -/
def Token (piece : List Char) (b : UInt8) : Prop :=
  Escape piece b ∨ Triplet piece b

/-- The character `c` between `front` and `back` belongs to a piece that `P` describes. -/
def PartOf (P : List Char → UInt8 → Prop) (front : List Char) (c : Char) (back : List Char) :
    Prop :=
  ∃ start rest b, P (start ++ c :: rest) b ∧ start <:+ front ∧ rest <+: back

variable {piece front back s t : List Char} {b : UInt8} {c : Char}

/-- A token is a sign and digits. -/
theorem Token.exists_digits (h : Token piece b) :
    ∃ sign digits, piece = sign :: digits ∧ (sign = '~' ∨ sign = '%') ∧
      ∀ d ∈ digits, (Text.hexValue? d).isSome = true := by
  rcases h with h | h
  · cases h with
    | slash => exact ⟨'~', ['1'], rfl, .inl rfl, List.forall_mem_singleton.mpr rfl⟩
    | tilde => exact ⟨'~', ['0'], rfl, .inl rfl, List.forall_mem_singleton.mpr rfl⟩
  · cases h with
    | @digits high low _ _ hhigh hlow =>
      refine ⟨'%', [high, low], rfl, .inr rfl, fun d hd => ?_⟩
      rcases List.mem_pair.mp hd with rfl | rfl
      · exact Option.isSome_of_mem hhigh
      · exact Option.isSome_of_mem hlow

theorem Token.ne_nil (h : Token piece b) : piece ≠ [] := by
  obtain ⟨sign, digits, rfl, -⟩ := h.exists_digits
  exact List.cons_ne_nil sign digits

/-- A character that comes later in a token is a digit, and starts none. -/
theorem Token.isSome_hexValue? {start rest : List Char} (h : Token (start ++ c :: rest) b)
    (hstart : start ≠ []) : (Text.hexValue? c).isSome = true := by
  obtain ⟨sign, digits, hpiece, -, hdigits⟩ := h.exists_digits
  obtain ⟨a, start, rfl⟩ := List.exists_cons_of_ne_nil hstart
  obtain ⟨-, rfl⟩ := List.cons.inj hpiece
  exact hdigits c (List.mem_append_right start List.mem_cons_self)

theorem Token.slash_notMem (h : Token piece b) : '/' ∉ piece := by
  obtain ⟨sign, digits, rfl, hsign, hdigits⟩ := h.exists_digits
  intro hslash
  rcases List.mem_cons.mp hslash with rfl | hslash
  · exact absurd hsign (by decide)
  · exact absurd (hdigits '/' hslash) (by decide)

theorem partOf_token_iff :
    PartOf Token front c back ↔ PartOf Escape front c back ∨ PartOf Triplet front c back := by
  simp only [PartOf, Token, or_and_right, exists_or]

/-- A triplet has its percent sign in front. -/
theorem not_partOf_triplet (hfront : '%' ∉ front) (hc : c ≠ '%') :
    ¬ PartOf Triplet front c back := by
  rintro ⟨start, rest, b, htriplet, hsuffix, -⟩
  generalize hpiece : start ++ c :: rest = piece at htriplet
  cases htriplet with
  | digits _ _ =>
    cases start with
    | nil => exact hc (List.cons.inj hpiece).1
    | cons sign start =>
      rw [(List.cons.inj hpiece).1] at hsuffix
      exact hfront (hsuffix.subset List.mem_cons_self)

/-! ## The bytes of a segment -/

/-- A segment with its escapes replaced. -/
def unescape (s : List Char) : List Char :=
  Text.replaceText ['~', '0'] ['~'] (Text.replaceText ['~', '1'] ['/'] s)

/-- The bytes that a segment stands for. -/
def segmentBytes (s : List Char) : List UInt8 :=
  percentDecode (Text.encodeText (unescape s))

theorem decodeSegment_eq_decodeLossy (s : List Char) :
    decodeSegment s = Text.decodeLossy (segmentBytes s) :=
  rfl

theorem unescape_eq (s : List Char) :
    unescape s = Text.replaceTextFrom ['~', '0'] ['~'] 0
      (Text.replaceTextFrom ['~', '1'] ['/'] 0 s) :=
  rfl

/-- A first character that is not put in by the escapes was there before. -/
theorem exists_of_unescape_eq_cons (hslash : c ≠ '/') (htilde : c ≠ '~')
    (h : unescape s = c :: t) : ∃ rest, s = c :: rest ∧ unescape rest = t := by
  rw [unescape_eq] at h
  obtain ⟨slashes, hslashes, ht⟩ := Text.exists_of_replaceTextFrom_eq_cons htilde h
  obtain ⟨rest, rfl, rfl⟩ := Text.exists_of_replaceTextFrom_eq_cons hslash hslashes
  exact ⟨rest, rfl, ht⟩

/-- A first character that no escape starts at stays. -/
theorem unescape_cons (hslash : ¬ ['~', '1'] <+: c :: s) (htilde : ¬ ['~', '0'] <+: c :: s) :
    unescape (c :: s) = c :: unescape s := by
  rw [unescape_eq, unescape_eq, Text.replaceTextFrom, if_neg (by rwa [List.isPrefixOf_iff_prefix]),
    Text.replaceTextFrom, if_neg]
  -- A zero has not been put in, so what would be an escape now was one before.
  rw [List.isPrefixOf_iff_prefix]
  intro hfirst
  obtain ⟨rfl, t, ht⟩ := List.cons_prefix_cons.mp hfirst
  obtain ⟨rest, rfl, -⟩ := Text.exists_of_replaceTextFrom_eq_cons (by decide) ht.symm
  exact htilde ⟨rest, rfl⟩

/-- A piece of a segment stands for some bytes, whatever comes after it. -/
theorem segmentBytes_append_of_rewrites {piece slashes unescaped : List Char} {bytes : List UInt8}
    (hslashes : Text.Rewrites ['~', '1'] ['/'] piece slashes)
    (hunescaped : Text.Rewrites ['~', '0'] ['~'] slashes unescaped)
    (hbytes : Decodes (Text.encodeText unescaped) bytes) (rest : List Char) :
    segmentBytes (piece ++ rest) = bytes ++ segmentBytes rest := by
  rw [segmentBytes, segmentBytes, unescape_eq, unescape_eq, hslashes, hunescaped,
    Text.encodeText_append]
  exact hbytes _

/-- A token stands for its byte. -/
theorem segmentBytes_token (h : Token piece b) (rest : List Char) :
    segmentBytes (piece ++ rest) = b :: segmentBytes rest := by
  rcases h with h | h
  · cases h with
    | slash =>
      obtain ⟨_, _, hslashes, hunescaped, hbytes⟩ := standsFor_slash.reads
      exact segmentBytes_append_of_rewrites hslashes hunescaped hbytes rest
    | tilde =>
      obtain ⟨_, _, hslashes, hunescaped, hbytes⟩ := standsFor_tilde.reads
      exact segmentBytes_append_of_rewrites hslashes hunescaped hbytes rest
  · cases h with
    | @digits high low _ _ hhigh hlow =>
      have htilde : '~' ∉ ['%', high, low] := by
        intro hmem
        rcases List.mem_cons.mp hmem with h | hmem
        · exact absurd h (by decide)
        rcases List.mem_pair.mp hmem with rfl | rfl
        · exact absurd hhigh (by simp [Text.hexValue?])
        · exact absurd hlow (by simp [Text.hexValue?])
      exact segmentBytes_append_of_rewrites (Text.rewrites_self_of_notMem htilde)
        (Text.rewrites_self_of_notMem htilde) (decodes_triplet hhigh hlow) rest

/-- A number of two digits is made of their values. -/
theorem exists_of_hexNumber?_pair {high low : Char} {number : Nat}
    (h : Text.hexNumber? [high, low] = some number) :
    ∃ m n, Text.hexValue? high = some m ∧ Text.hexValue? low = some n ∧ number = 16 * m + n := by
  rw [Text.hexNumber?, Option.map_eq_some_iff] at h
  obtain ⟨values, hvalues, rfl⟩ := h
  cases hhigh : Text.hexValue? high with
  | none => simp [hhigh] at hvalues
  | some m =>
    cases hlow : Text.hexValue? low with
    | none => simp [hhigh, hlow] at hvalues
    | some n =>
      obtain rfl : values = [m, n] := by simpa [hhigh, hlow] using hvalues.symm
      exact ⟨m, n, rfl, rfl, by simp⟩

/-- Two bytes of a text that are digits are two characters of it. -/
theorem exists_of_triplet?_encodeText {value : UInt8}
    (h : triplet? (Text.encodeText s) = some value) :
    ∃ high low rest, s = high :: low :: rest ∧ Triplet ['%', high, low] value := by
  have hdigit {b : UInt8} {n : Nat} (h : Text.hexValue? (Char.ofNat b.toNat) = some n) :
      b.toNat < 0x80 := by
    have hbounds := bounds_of_hexValue? h
    rw [toNat_charOfNat] at hbounds
    omega
  unfold triplet? at h
  split at h
  · next highByte lowByte bytes hbytes =>
    obtain ⟨number, hnumber, rfl⟩ := Option.map_eq_some_iff.mp h
    obtain ⟨m, n, hhigh, hlow, rfl⟩ := exists_of_hexNumber?_pair hnumber
    obtain ⟨rest, rfl, hrest⟩ := Text.exists_of_encodeText_eq_cons (hdigit hhigh) hbytes
    obtain ⟨rest, rfl, -⟩ := Text.exists_of_encodeText_eq_cons (hdigit hlow) hrest
    exact ⟨_, _, rest, rfl, .digits hhigh hlow⟩
  · cases h

theorem decodes_self_of_notMem {bytes : List UInt8} (h : 0x25 ∉ bytes) : Decodes bytes bytes := by
  induction bytes with
  | nil => exact Decodes.nil
  | cons b bytes ih =>
    rw [List.mem_cons, not_or] at h
    exact (decodes_of_ne (Ne.symm h.1)).append (ih h.2)

/-- A digit is neither of the signs, and no slash. -/
theorem ne_of_hexValue? {n : Nat} (h : Text.hexValue? c = some n) :
    c ≠ '~' ∧ c ≠ '%' ∧ c ≠ '/' := by
  refine ⟨?_, ?_, ?_⟩
  all_goals
    rintro rfl
    cases h

/-- A percent sign that no triplet starts at is left as it is, whatever the escapes put in. -/
theorem triplet?_encodeText_unescape (h : ∀ piece b, Token piece b → ¬ piece <+: '%' :: s) :
    triplet? (Text.encodeText (unescape s)) = none := by
  refine Option.eq_none_iff_forall_ne_some.mpr fun value hvalue => ?_
  obtain ⟨high, low, t, ht, htriplet⟩ := exists_of_triplet?_encodeText hvalue
  cases id htriplet with
  | digits hhigh hlow =>
    obtain ⟨htilde, -, hslash⟩ := ne_of_hexValue? hhigh
    obtain ⟨rest, rfl, hrest⟩ := exists_of_unescape_eq_cons hslash htilde ht
    obtain ⟨htilde, -, hslash⟩ := ne_of_hexValue? hlow
    obtain ⟨rest, rfl, -⟩ := exists_of_unescape_eq_cons hslash htilde hrest
    exact h _ _ (.inr htriplet) ⟨rest, rfl⟩

/-- A character that no token starts at stands for its own bytes. -/
theorem segmentBytes_cons (h : ∀ piece b, Token piece b → ¬ piece <+: c :: s) :
    segmentBytes (c :: s) = Text.encodeChar c ++ segmentBytes s := by
  rw [segmentBytes, segmentBytes, unescape_cons (h _ _ (.inl .slash)) (h _ _ (.inl .tilde)),
    Text.encodeText, List.flatMap_cons, ← Text.encodeText]
  by_cases hc : c = '%'
  · subst hc
    have hbyte : Text.encodeChar '%' = [0x25] := rfl
    rw [hbyte, percentDecode, percentDecode, List.singleton_append, percentDecodeFrom,
      triplet?_encodeText_unescape h]
    rfl
  · refine decodes_self_of_notMem (fun hmem => ?_) _
    exact Text.ne_of_mem_encodeChar (d := '%') (by decide) hc hmem rfl

/-- A token that starts in `front` ends in `back`. -/
def Crosses (front back : List Char) : Prop :=
  ∃ start rest b, Token (start ++ rest) b ∧ start ≠ [] ∧ rest ≠ [] ∧ start <:+ front ∧
    rest <+: back

/-- A token at the start of two parts is at the start of the first one unless it joins them. -/
theorem isPrefix_of_not_crosses (h : ¬ Crosses front back) (hfront : front ≠ [])
    (htoken : Token piece b) (hfirst : piece <+: front ++ back) : piece <+: front := by
  obtain ⟨more, hmore⟩ := hfirst
  rcases List.append_eq_append_iff.mp hmore with ⟨tail, hfront, -⟩ | ⟨tail, rfl, hback⟩
  · exact ⟨tail, hfront.symm⟩
  · by_cases htail : tail = []
    · rw [htail, List.append_nil]
    · exact absurd ⟨front, tail, b, htoken, hfront, htail, List.suffix_rfl, more, hback.symm⟩ h

/-- **Parts of a segment.** Two parts that no token joins are read on their own. -/
theorem segmentBytes_append (h : ¬ Crosses front back) :
    segmentBytes (front ++ back) = segmentBytes front ++ segmentBytes back := by
  -- The induction is on the length of the first part, which loses a token or a character.
  induction hlength : front.length using Nat.strong_induction_on generalizing front with
  | _ length ih =>
    have hrest {piece rest : List Char} (hpiece : piece ≠ []) (hfront : front = piece ++ rest) :
        segmentBytes (rest ++ back) = segmentBytes rest ++ segmentBytes back := by
      subst hfront
      refine ih rest.length ?_ (fun hcrosses => h ?_) rfl
      · have hpositive := List.length_pos_iff.mpr hpiece
        rw [List.length_append] at hlength
        omega
      · obtain ⟨start, tail, b, htoken, hstart, htail, hsuffix, hfirst⟩ := hcrosses
        exact ⟨start, tail, b, htoken, hstart, htail,
          hsuffix.trans (List.suffix_append piece rest), hfirst⟩
    cases front with
    | nil => rfl
    | cons c s =>
      by_cases htoken : ∃ piece b, Token piece b ∧ piece <+: c :: s ++ back
      · obtain ⟨piece, b, htoken, hfirst⟩ := htoken
        obtain ⟨rest, hfront⟩ := isPrefix_of_not_crosses h (List.cons_ne_nil c s) htoken hfirst
        rw [← hfront, List.append_assoc, segmentBytes_token htoken, segmentBytes_token htoken,
          hrest htoken.ne_nil hfront.symm, List.cons_append]
      · have hnone : ∀ piece b, Token piece b → ¬ piece <+: c :: (s ++ back) :=
          fun piece b hpiece hfirst => htoken ⟨piece, b, hpiece, hfirst⟩
        have hnone' : ∀ piece b, Token piece b → ¬ piece <+: c :: s := fun piece b hpiece hfirst =>
          hnone piece b hpiece (hfirst.trans (List.prefix_append (c :: s) back))
        rw [List.cons_append, segmentBytes_cons hnone, segmentBytes_cons hnone',
          hrest (List.cons_ne_nil c []) rfl, List.append_assoc]

/-- A sign does not come later in a token, so none ends in what starts with it. -/
theorem not_crosses_cons (hc : Text.hexValue? c = none) : ¬ Crosses front (c :: back) := by
  rintro ⟨start, rest, b, htoken, hstart, hrest, -, hfirst⟩
  obtain ⟨d, rest, rfl⟩ := List.exists_cons_of_ne_nil hrest
  obtain ⟨rfl, -⟩ := List.cons_prefix_cons.mp hfirst
  have hdigit := htoken.isSome_hexValue? hstart
  rw [hc] at hdigit
  cases hdigit

/-! ## One character of a segment -/

theorem encodeChar_of_isUnreserved (hb : isUnreserved b = true) :
    Text.encodeChar (Char.ofNat b.toNat) = [b] := by
  have hbounds := bounds_of_isUnreserved b.toNat b.toNat_lt (by rwa [UInt8.ofNat_toNat])
  rw [Text.encodeChar_of_lt (by rw [toNat_charOfNat]; exact hbounds.1), toNat_charOfNat,
    UInt8.ofNat_toNat]

/-- A token is read as its byte wherever it stands. -/
theorem segmentBytes_append_token (h : Token piece b) (front back : List Char) :
    segmentBytes (front ++ piece ++ back) = segmentBytes front ++ b :: segmentBytes back := by
  have hcrosses : ¬ Crosses front (piece ++ back) := by
    obtain ⟨sign, digits, rfl, rfl | rfl, -⟩ := h.exists_digits
    · exact not_crosses_cons rfl
    · exact not_crosses_cons rfl
  rw [List.append_assoc, segmentBytes_append hcrosses, segmentBytes_token h]

/-- A character outside the tokens is read as it is. -/
theorem segmentBytes_of_not_partOf (h : ¬ PartOf Token front c back) :
    segmentBytes (front ++ c :: back) =
      segmentBytes front ++ (Text.encodeChar c ++ segmentBytes back) := by
  have hcrosses : ¬ Crosses front (c :: back) := by
    rintro ⟨start, rest, b, htoken, -, hrest, hsuffix, hfirst⟩
    obtain ⟨d, rest, rfl⟩ := List.exists_cons_of_ne_nil hrest
    obtain ⟨rfl, hback⟩ := List.cons_prefix_cons.mp hfirst
    exact h ⟨start, rest, b, htoken, hsuffix, hback⟩
  rw [segmentBytes_append hcrosses, segmentBytes_cons]
  intro piece b htoken hfirst
  obtain ⟨d, rest, rfl⟩ := List.exists_cons_of_ne_nil htoken.ne_nil
  obtain ⟨rfl, hback⟩ := List.cons_prefix_cons.mp hfirst
  exact h ⟨[], rest, b, htoken, List.nil_suffix, hback⟩

/-- At the end of a segment a tilde is no part of a token. -/
theorem not_partOf_tilde_nil : ¬ PartOf Token front '~' [] := by
  rintro ⟨start, rest, b, htoken, -, hfirst⟩
  obtain rfl := List.prefix_nil.mp hfirst
  cases start with
  | cons d start => exact absurd (htoken.isSome_hexValue? (List.cons_ne_nil d start)) (by decide)
  | nil => rcases htoken with h | h <;> cases h

/-- At the start of a segment a character that is no sign is no part of a token. -/
theorem segmentBytes_cons_of_ne (htilde : c ≠ '~') (hpercent : c ≠ '%') (s : List Char) :
    segmentBytes (c :: s) = Text.encodeChar c ++ segmentBytes s := by
  refine segmentBytes_cons fun piece b htoken hfirst => ?_
  obtain ⟨sign, digits, rfl, hsign, -⟩ := htoken.exists_digits
  obtain ⟨rfl, -⟩ := List.cons_prefix_cons.mp hfirst
  exact hsign.elim htilde hpercent

theorem Escape.exists_digit (h : Escape piece b) :
    ∃ d, piece = ['~', d] ∧ (d = '0' ∨ d = '1') := by
  cases h with
  | slash => exact ⟨'1', rfl, .inr rfl⟩
  | tilde => exact ⟨'0', rfl, .inl rfl⟩

/-- A character of an escape is the tilde before its digit, or the digit after its tilde. -/
theorem exists_of_partOf_escape (h : PartOf Escape front c back) :
    ∃ d escaped before after, Escape ['~', d] escaped ∧ (d = '0' ∨ d = '1') ∧
      ((c = '~' ∧ front = before ∧ back = d :: after) ∨
        (c = d ∧ front = before ++ ['~'] ∧ back = after)) := by
  obtain ⟨start, rest, escaped, hescape, ⟨before, rfl⟩, ⟨after, rfl⟩⟩ := h
  obtain ⟨d, hchars, hdigit⟩ := hescape.exists_digit
  refine ⟨d, escaped, before, after, hchars ▸ hescape, hdigit, ?_⟩
  rcases start with _ | ⟨a, _ | ⟨a', start⟩⟩
  · obtain ⟨rfl, rfl⟩ := List.cons.inj hchars
    exact .inl ⟨rfl, List.append_nil before, rfl⟩
  · obtain ⟨rfl, hdigits⟩ := List.cons.inj hchars
    obtain ⟨hc, hrest⟩ := List.cons.inj (show c :: rest = [d] from hdigits)
    exact .inr ⟨hc, rfl, by rw [hrest, List.nil_append]⟩
  · simp at hchars

/-- An escape with a triplet in place of either character is read as the two characters. -/
theorem segmentBytes_of_partOf_escape (hpiece : Triplet piece b) (hbyte : Text.encodeChar c = [b])
    (h : PartOf Escape front c back) :
    ∃ before after escaped digit, escaped.toNat < 0x80 ∧ digit.toNat < 0x80 ∧
      segmentBytes (front ++ c :: back) = before ++ escaped :: after ∧
      segmentBytes (front ++ piece ++ back) = before ++ 0x7E :: digit :: after := by
  obtain ⟨d, escaped, before, after, hescape, hdigit, hpart⟩ := exists_of_partOf_escape h
  have hd : Text.encodeChar d = [UInt8.ofNat d.toNat] := by
    rcases hdigit with rfl | rfl <;> rfl
  have hsmall : escaped.toNat < 0x80 ∧ (UInt8.ofNat d.toNat).toNat < 0x80 := by
    cases hescape <;> decide
  refine ⟨segmentBytes before, segmentBytes after, escaped, UInt8.ofNat d.toNat, hsmall.1, hsmall.2,
    ?_⟩
  rw [segmentBytes_append_token (.inr hpiece)]
  rcases hpart with ⟨rfl, rfl, rfl⟩ | ⟨rfl, rfl, rfl⟩
  · obtain rfl : 0x7E = b := (List.cons.inj hbyte).1
    constructor
    · rw [← segmentBytes_append_token (.inl hescape), List.append_assoc]
      rfl
    · rw [segmentBytes_cons_of_ne, hd, List.singleton_append]
      · rcases hdigit with rfl | rfl <;> decide
      · rcases hdigit with rfl | rfl <;> decide
  · obtain rfl : UInt8.ofNat c.toNat = b := (List.cons.inj (hd.symm.trans hbyte)).1
    constructor
    · rw [← segmentBytes_append_token (.inl hescape), List.append_assoc, List.append_assoc]
      rfl
    · rw [segmentBytes_of_not_partOf not_partOf_tilde_nil, List.append_assoc]
      rfl

/-! ## The trailing segment -/

/-- What has no slash goes to the trailing segment. -/
theorem lastSegment_append (s : List Char) (h : '/' ∉ t) :
    lastSegment (s ++ t) = lastSegment s ++ t := by
  obtain ⟨init, last, hs, hst⟩ := Text.splitOn_append (s := s) h
  rw [lastSegment, lastSegment, hs, hst, List.getLast?_concat, List.getLast?_concat,
    Option.getD_some, Option.getD_some]

theorem lastSegment_suffix (s : List Char) : lastSegment s <:+ s := by
  induction s using List.reverseRecOn with
  | nil => exact List.suffix_rfl
  | append_singleton s c ih =>
    by_cases hc : c = '/'
    · rw [hc, lastSegment_append_slash s List.not_mem_nil]
      exact List.nil_suffix
    · rw [lastSegment_append s (by simpa using Ne.symm hc)]
      obtain ⟨start, hstart⟩ := ih
      exact ⟨start, by rw [← List.append_assoc, hstart]⟩

/-- A token of a reference is one of its trailing segment, if its later part is. -/
theorem partOf_lastSegment_iff {P : List Char → UInt8 → Prop}
    (hP : ∀ piece b, P piece b → Token piece b) :
    PartOf P (lastSegment front) c back ↔ PartOf P front c back := by
  constructor
  · rintro ⟨start, rest, b, hpiece, hsuffix, hfirst⟩
    exact ⟨start, rest, b, hpiece, hsuffix.trans (lastSegment_suffix front), hfirst⟩
  · rintro ⟨start, rest, b, hpiece, ⟨before, rfl⟩, hfirst⟩
    have hslash : '/' ∉ start := fun hmem =>
      (hP _ _ hpiece).slash_notMem (List.mem_append_left _ hmem)
    rw [lastSegment_append before hslash]
    exact ⟨start, rest, b, hpiece, List.suffix_append _ _, hfirst⟩

end Reference

open Reference

/-- **Triplets for unreserved characters.** An unreserved character of the trailing segment that is
not part of a triplet may be written as a triplet, and the name stays the same, if and only if the
character is not part of an escape. -/
theorem refName_triplet_iff {b : UInt8} {front back piece : List Char}
    (hb : isUnreserved b = true) (hpiece : Triplet piece b) (hback : '/' ∉ back)
    (houtside : ¬ PartOf Triplet front (Char.ofNat b.toNat) back) :
    refName (String.ofList (front ++ piece ++ back)) =
        refName (String.ofList (front ++ Char.ofNat b.toNat :: back)) ↔
      ¬ PartOf Escape front (Char.ofNat b.toNat) back := by
  have hbounds := bounds_of_isUnreserved b.toNat b.toNat_lt (by rwa [UInt8.ofNat_toNat])
  have hchar : '/' ∉ Char.ofNat b.toNat :: back := by
    rw [List.mem_cons, not_or]
    refine ⟨fun heq => hbounds.2.1 ?_, hback⟩
    rw [← toNat_charOfNat b, ← heq]
    rfl
  have htriplet : '/' ∉ piece ++ back := by
    rw [List.mem_append, not_or]
    exact ⟨Token.slash_notMem (.inr hpiece), hback⟩
  rw [refName, refName, String.toList_ofList, String.toList_ofList, List.append_assoc,
    lastSegment_append front hchar, lastSegment_append front htriplet, ← List.append_assoc,
    String.ofList_inj, ← partOf_lastSegment_iff fun _ _ => Or.inl]
  rw [← partOf_lastSegment_iff fun _ _ => Or.inr] at houtside
  generalize lastSegment front = front at houtside ⊢
  rw [decodeSegment_eq_decodeLossy, decodeSegment_eq_decodeLossy]
  by_cases hescape : PartOf Escape front (Char.ofNat b.toNat) back
  · obtain ⟨before, after, escaped, digit, hescaped, hdigit, hchars, htriplets⟩ :=
      segmentBytes_of_partOf_escape hpiece (encodeChar_of_isUnreserved hb) hescape
    rw [hchars, htriplets, Text.decodeLossy_append_of_lt hescaped,
      Text.decodeLossy_append_of_lt (by decide), Text.decodeLossy_one hdigit]
    refine iff_of_false (fun heq => ?_) (not_not_intro hescape)
    have hlength := congrArg List.length heq
    simp at hlength
  · have htoken : ¬ PartOf Token front (Char.ofNat b.toNat) back := fun h =>
      (partOf_token_iff.mp h).elim hescape houtside
    rw [segmentBytes_append_token (.inr hpiece), segmentBytes_of_not_partOf htoken,
      encodeChar_of_isUnreserved hb]
    exact iff_of_true rfl hescape

/-- The digit after `~1` is not part of this escape, nor of the triplet that comes later. -/
theorem refName_triplet_iff_digit :
    refName "#/components/schemas/a~1%31~0%41" = refName "#/components/schemas/a~11~0%41" ∧
      refName "#/components/schemas/a~11~0%41" = "a/1~A" := by
  have hescape : ¬ PartOf Escape "#/components/schemas/a~1".toList '1' "~0%41".toList := by
    intro h
    obtain ⟨d, escaped, before, after, -, -, hpart⟩ := exists_of_partOf_escape h
    rcases hpart with ⟨hc, -, -⟩ | ⟨-, hfront, -⟩
    · exact absurd hc (by decide)
    · have hlast := congrArg List.getLast? hfront
      rw [List.getLast?_concat] at hlast
      exact absurd hlast (by decide +kernel)
  have htriplet : ¬ PartOf Triplet "#/components/schemas/a~1".toList '1' "~0%41".toList :=
    not_partOf_triplet (by decide +kernel) (by decide)
  have hback : '/' ∉ "~0%41".toList := by decide +kernel
  have hpiece : Triplet ['%', '3', '1'] 0x31 := .digits (m := 3) (n := 1) rfl rfl
  have hsame := (refName_triplet_iff (by decide +kernel) hpiece hback htriplet).mpr hescape
  exact ⟨hsame, by decide +kernel⟩

/-- The digit of an escape is not part of a triplet, and the name is not the same. -/
theorem refName_triplet_ne :
    isUnreserved 0x31 = true ∧ Triplet ['%', '3', '1'] 0x31 ∧
      ¬ PartOf Triplet "#/components/schemas/User~".toList '1' "details".toList ∧
      '/' ∉ "details".toList ∧
      refName "#/components/schemas/User~1details" = "User/details" ∧
      refName "#/components/schemas/User~%31details" = "User~1details" := by
  refine ⟨by decide +kernel, .digits (m := 3) (n := 1) rfl rfl,
    not_partOf_triplet (by decide +kernel) (by decide), by decide +kernel, by decide +kernel,
    by decide +kernel⟩

end ApiStencil

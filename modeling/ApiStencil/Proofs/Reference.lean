import ApiStencil.Proofs.Model.Combine
import ApiStencil.Proofs.Text.Replacement
import ApiStencil.Proofs.Text.Utf8
import ApiStencil.Proofs.Trace

/-!
# Names in references

A name is written into a reference in two steps: tildes and slashes are escaped, and then every byte
that is not unreserved becomes a percent sign with two digits. Reading takes the steps back in
another order, the escapes first. Nothing is lost by that, since a tilde is unreserved: so every
tilde of the segment is one of an escape, and no triplet stands for one.

## Main definitions

* `Reference.escape`, `Reference.EncodesByte`, `Reference.Encodes`: how a name is written
* `Reference.encodeSegment`: one way to write it
* `Reference.StandsFor`: what a piece of a segment is read as, whatever comes after it

## Main results

* `Reference.standsFor_of_encodes`: an encoded name stands for the name
* `refName_of_encodes`: a reference that ends in an encoded name leads to that name
-/

namespace ApiStencil

namespace Reference

/-! ## Writing a name -/

/-- What stands for a character of a name: `~0` for a tilde and `~1` for a slash. -/
def escapeChar (c : Char) : List Char :=
  if c = '~' then ['~', '0'] else if c = '/' then ['~', '1'] else [c]

/-- A name with its tildes and slashes escaped. -/
def escape (name : List Char) : List Char :=
  name.flatMap escapeChar

/-- Whether a byte may stand for itself in a reference. -/
def isUnreserved (b : UInt8) : Bool :=
  let c := Char.ofNat b.toNat
  c.isAlphanum || c = '-' || c = '.' || c = '_' || c = '~'

/-- How a byte is written: as it is if it is unreserved, or else as a percent sign with two digits
in either case. -/
inductive EncodesByte : UInt8 → List Char → Prop
  | plain {b : UInt8} (h : isUnreserved b = true) : EncodesByte b [Char.ofNat b.toNat]
  | triplet {b : UInt8} {high low : Char} (h : isUnreserved b = false)
      (hhigh : Text.hexValue? high = some (b.toNat / 16))
      (hlow : Text.hexValue? low = some (b.toNat % 16)) : EncodesByte b ['%', high, low]

/-- How a name is written as the segment of a reference. -/
def Encodes (name segment : List Char) : Prop :=
  ∃ pieces, List.Forall₂ EncodesByte (Text.encodeText (escape name)) pieces ∧
    pieces.flatten = segment

/-- The digit of a value below sixteen. -/
def upperDigit (n : Nat) : Char := Char.ofNat (if n < 10 then 0x30 + n else 0x37 + n)

/-- A byte with upper case digits, if it needs any. -/
def encodeByte (b : UInt8) : List Char :=
  if isUnreserved b then [Char.ofNat b.toNat]
  else ['%', upperDigit (b.toNat / 16), upperDigit (b.toNat % 16)]

/-- A name as the segment of a reference, with upper case digits. -/
def encodeSegment (name : List Char) : List Char :=
  (Text.encodeText (escape name)).flatMap encodeByte

theorem hexValue?_upperDigit : ∀ n < 16, Text.hexValue? (upperDigit n) = some n := by decide

theorem encodesByte_encodeByte (b : UInt8) : EncodesByte b (encodeByte b) := by
  have hb : b.toNat < 256 := b.toNat_lt
  unfold encodeByte
  split
  · next h => exact .plain h
  · next h =>
    exact .triplet (by simpa using h) (hexValue?_upperDigit _ (by omega))
      (hexValue?_upperDigit _ (by omega))

/-- Every name can be written. -/
theorem encodes_encodeSegment (name : List Char) : Encodes name (encodeSegment name) := by
  refine ⟨(Text.encodeText (escape name)).map encodeByte, ?_, rfl⟩
  rw [List.forall₂_map_right_iff, List.forall₂_same]
  exact fun b _ => encodesByte_encodeByte b

/-! ## The characters of a written byte -/

theorem bounds_of_hexValue? {c : Char} {n : Nat} (h : Text.hexValue? c = some n) :
    0x30 ≤ c.toNat ∧ c.toNat ≤ 0x66 := by
  unfold Text.hexValue? at h
  split_ifs at h with hdigit hlower hupper
  · rw [Char.isDigit, Bool.and_eq_true, decide_eq_true_eq, decide_eq_true_eq] at hdigit
    have hlow : 0x30 ≤ c.toNat := hdigit.1
    have hhigh : c.toNat ≤ 0x39 := hdigit.2
    omega
  · have hlow : 0x61 ≤ c.toNat := hlower.1
    have hhigh : c.toNat ≤ 0x66 := hlower.2
    omega
  · have hlow : 0x41 ≤ c.toNat := hupper.1
    have hhigh : c.toNat ≤ 0x46 := hupper.2
    omega

/-- An unreserved byte is an ASCII character, and neither a slash nor a percent sign. -/
theorem bounds_of_isUnreserved : ∀ n < 256, isUnreserved (UInt8.ofNat n) = true →
    n < 0x80 ∧ n ≠ 0x2F ∧ n ≠ 0x25 := by
  decide +kernel

/-! ## Reading a written byte -/

/-- Percent triplets make the bytes `s` into `t`, whatever comes after `s`. -/
def Decodes (s t : List UInt8) : Prop :=
  ∀ rest, percentDecodeFrom 0 (s ++ rest) = t ++ percentDecodeFrom 0 rest

theorem Decodes.nil : Decodes [] [] := fun _ => rfl

theorem Decodes.append {s s' t t' : List UInt8} (h : Decodes s t) (h' : Decodes s' t') :
    Decodes (s ++ s') (t ++ t') := by
  intro rest
  rw [List.append_assoc, h, h', List.append_assoc]

theorem decodes_of_ne {b : UInt8} (h : b ≠ 0x25) : Decodes [b] [b] := by
  intro rest
  have hb : (b == 0x25) = false := by simpa using h
  simp [percentDecodeFrom, hb]

theorem triplet?_of_hexValue? {high low : Char} {m n : Nat} (hhigh : Text.hexValue? high = some m)
    (hlow : Text.hexValue? low = some n) (rest : List UInt8) :
    triplet? (UInt8.ofNat high.toNat :: UInt8.ofNat low.toNat :: rest) =
      some (UInt8.ofNat (16 * m + n)) := by
  have hh := bounds_of_hexValue? hhigh
  have hl := bounds_of_hexValue? hlow
  rw [triplet?, Text.toNat_ofNat_of_lt (by omega), Text.toNat_ofNat_of_lt (by omega),
    Char.ofNat_toNat, Char.ofNat_toNat]
  simp [Text.hexNumber?, hhigh, hlow]

/-- Whatever follows, a percent sign with two digits is read as the byte of that value. -/
theorem decodes_triplet {high low : Char} {m n : Nat} (hhigh : Text.hexValue? high = some m)
    (hlow : Text.hexValue? low = some n) :
    Decodes (Text.encodeText ['%', high, low]) [UInt8.ofNat (16 * m + n)] := by
  have hh := bounds_of_hexValue? hhigh
  have hl := bounds_of_hexValue? hlow
  intro rest
  rw [Text.encodeText_cons_of_lt (by decide), Text.encodeText_cons_of_lt (by omega),
    Text.encodeText_cons_of_lt (by omega)]
  show percentDecodeFrom 0 (0x25 :: _ :: _ :: rest) = _ :: percentDecodeFrom 0 rest
  rw [percentDecodeFrom]
  simp only [beq_self_eq_true, if_true, triplet?_of_hexValue? hhigh hlow]
  rfl

theorem toNat_charOfNat (b : UInt8) : (Char.ofNat b.toNat).toNat = b.toNat := by
  have hb : b.toNat < 256 := b.toNat_lt
  rw [Char.ofNat, dif_pos (.inl (by omega))]
  rfl

/-- Whatever follows, a written byte is read as that byte. -/
theorem EncodesByte.decodes {b : UInt8} {piece : List Char} (h : EncodesByte b piece) :
    Decodes (Text.encodeText piece) [b] := by
  cases h with
  | plain h =>
    have hb := bounds_of_isUnreserved b.toNat b.toNat_lt (by rwa [UInt8.ofNat_toNat])
    rw [Text.encodeText_cons_of_lt (by rw [toNat_charOfNat]; omega),
      toNat_charOfNat, UInt8.ofNat_toNat]
    exact decodes_of_ne fun heq => hb.2.2 (congrArg UInt8.toNat heq)
  | @triplet high low _ hhigh hlow =>
    have hdecodes := decodes_triplet hhigh hlow
    rwa [Nat.div_add_mod, UInt8.ofNat_toNat] at hdecodes

theorem decodes_of_forall₂ {bytes : List UInt8} {pieces : List (List Char)}
    (h : List.Forall₂ EncodesByte bytes pieces) :
    Decodes (Text.encodeText pieces.flatten) bytes := by
  induction h with
  | nil => exact Decodes.nil
  | cons hpiece _ ih =>
    rw [List.flatten_cons, Text.encodeText_append]
    exact hpiece.decodes.append ih

/-! ## Reading a segment -/

/-- A piece of a segment stands for a part of a name: the escapes in it are replaced, and then the
triplets, whatever comes after it. It holds no slash, so it does not end the segment. -/
structure StandsFor (piece part : List Char) : Prop where
  slash : '/' ∉ piece
  reads : ∃ slashes unescaped, Text.Rewrites ['~', '1'] ['/'] piece slashes ∧
    Text.Rewrites ['~', '0'] ['~'] slashes unescaped ∧
    Decodes (Text.encodeText unescaped) (Text.encodeText part)

theorem StandsFor.nil : StandsFor [] [] where
  slash := List.not_mem_nil
  reads := ⟨[], [], .nil, .nil, .nil⟩

theorem StandsFor.append {piece piece' part part' : List Char} (h : StandsFor piece part)
    (h' : StandsFor piece' part') : StandsFor (piece ++ piece') (part ++ part') := by
  obtain ⟨slashes, unescaped, hslashes, hunescaped, hdecodes⟩ := h.reads
  obtain ⟨slashes', unescaped', hslashes', hunescaped', hdecodes'⟩ := h'.reads
  refine ⟨by simp [h.slash, h'.slash], slashes ++ slashes', unescaped ++ unescaped',
    hslashes.append hslashes', hunescaped.append hunescaped', ?_⟩
  rw [Text.encodeText_append, Text.encodeText_append]
  exact hdecodes.append hdecodes'

/-- A segment is read as what it stands for. -/
theorem StandsFor.decodeSegment_eq {segment name : List Char} (h : StandsFor segment name) :
    decodeSegment segment = name := by
  obtain ⟨slashes, unescaped, hslashes, hunescaped, hdecodes⟩ := h.reads
  have hbytes : percentDecode (Text.encodeText unescaped) = Text.encodeText name := by
    simpa [percentDecode, percentDecodeFrom] using hdecodes []
  rw [decodeSegment, hslashes.replaceText_eq (by simp), hunescaped.replaceText_eq (by simp),
    hbytes, Text.decodeLossy_encodeText]

theorem standsFor_tilde : StandsFor ['~', '0'] ['~'] where
  slash := by decide
  reads := by
    refine ⟨['~', '0'], ['~'], ?_, Text.rewrites_old (by simp), decodes_of_ne (by decide)⟩
    apply Text.rewrites_cons
    · intro rest hprefix
      have hdigit := (List.cons_prefix_cons.mp (List.cons_prefix_cons.mp hprefix).2).1
      exact absurd hdigit (by decide)
    · exact Text.rewrites_self_of_notMem (by decide)

theorem standsFor_slash : StandsFor ['~', '1'] ['/'] where
  slash := by decide
  reads := ⟨['/'], ['/'], Text.rewrites_old (by simp), Text.rewrites_self_of_notMem (by decide),
    decodes_of_ne (by decide)⟩

/-- A piece without tildes and slashes is left as it is by the escapes. -/
theorem standsFor_of_decodes {piece part : List Char} (htilde : '~' ∉ piece) (hslash : '/' ∉ piece)
    (h : Decodes (Text.encodeText piece) (Text.encodeText part)) : StandsFor piece part where
  slash := hslash
  reads := ⟨piece, piece, Text.rewrites_self_of_notMem htilde, Text.rewrites_self_of_notMem htilde,
    h⟩

/-- Unreserved bytes stand for themselves. -/
theorem flatten_of_isUnreserved {bytes : List UInt8} {pieces : List (List Char)}
    (h : List.Forall₂ EncodesByte bytes pieces) (hbytes : ∀ b ∈ bytes, isUnreserved b = true) :
    pieces.flatten = bytes.map fun b => Char.ofNat b.toNat := by
  induction h with
  | nil => rfl
  | cons hpiece _ ih =>
    obtain ⟨hb, hbytes⟩ := List.forall_mem_cons.mp hbytes
    rw [List.flatten_cons, ih hbytes, List.map_cons]
    cases hpiece with
    | plain _ => rfl
    | triplet h _ _ =>
      rw [hb] at h
      cases h

/-- No byte but that of a tilde is written with a tilde, and none with a slash. -/
theorem EncodesByte.notMem {b : UInt8} {piece : List Char} (h : EncodesByte b piece)
    (hb : b ≠ 0x7E) : '~' ∉ piece ∧ '/' ∉ piece := by
  have hne {c d : Char} (h : c.toNat ≠ d.toNat) : c ≠ d := fun heq => h (congrArg Char.toNat heq)
  cases h with
  | plain h =>
    have hbounds := bounds_of_isUnreserved b.toNat b.toNat_lt (by rwa [UInt8.ofNat_toNat])
    have htilde : b.toNat ≠ 0x7E := fun heq => hb (UInt8.toNat_inj.mp heq)
    have hcode := toNat_charOfNat b
    rw [List.mem_singleton, List.mem_singleton]
    exact ⟨hne (by rw [hcode]; exact htilde.symm), hne (by rw [hcode]; exact hbounds.2.1.symm)⟩
  | @triplet high low _ hhigh hlow =>
    have hh := bounds_of_hexValue? hhigh
    have hl := bounds_of_hexValue? hlow
    have htilde : '~'.toNat = 0x7E := rfl
    have hslash : '/'.toNat = 0x2F := rfl
    simp only [List.mem_cons, List.not_mem_nil, or_false, not_or]
    exact ⟨⟨by decide, hne (by omega), hne (by omega)⟩, by decide, hne (by omega), hne (by omega)⟩

/-- A written character stands for the character. -/
theorem standsFor_of_forall₂ {c : Char} {pieces : List (List Char)}
    (h : List.Forall₂ EncodesByte (Text.encodeText (escapeChar c)) pieces) :
    StandsFor pieces.flatten [c] := by
  unfold escapeChar at h
  split_ifs at h with htilde hslash
  · have hbytes : (Text.encodeText ['~', '0']).map (fun b => Char.ofNat b.toNat) = ['~', '0'] := by
      decide
    rw [flatten_of_isUnreserved h (by decide +kernel), hbytes, htilde]
    exact standsFor_tilde
  · have hbytes : (Text.encodeText ['~', '1']).map (fun b => Char.ofNat b.toNat) = ['~', '1'] := by
      decide
    rw [flatten_of_isUnreserved h (by decide +kernel), hbytes, hslash]
    exact standsFor_slash
  · have hpieces : ∀ piece ∈ pieces, '~' ∉ piece ∧ '/' ∉ piece := by
      intro piece hpiece
      obtain ⟨b, hb, hbyte⟩ := exists_mem_of_forall₂ h hpiece
      rw [Text.encodeText, List.flatMap_singleton] at hb
      exact hbyte.notMem (Text.ne_of_mem_encodeChar (by decide) htilde hb)
    refine standsFor_of_decodes ?_ ?_ (decodes_of_forall₂ h)
    · rw [List.mem_flatten]
      rintro ⟨piece, hpiece, hmem⟩
      exact (hpieces piece hpiece).1 hmem
    · rw [List.mem_flatten]
      rintro ⟨piece, hpiece, hmem⟩
      exact (hpieces piece hpiece).2 hmem

/-- An encoded name stands for the name. -/
theorem standsFor_of_encodes {name segment : List Char} (h : Encodes name segment) :
    StandsFor segment name := by
  obtain ⟨pieces, hpieces, rfl⟩ := h
  induction name generalizing pieces with
  | nil =>
    obtain rfl := List.forall₂_nil_left_iff.mp hpieces
    exact StandsFor.nil
  | cons c name ih =>
    rw [escape, List.flatMap_cons, Text.encodeText, List.flatMap_append,
      forall₂_append_iff] at hpieces
    obtain ⟨front, back, rfl, hfront, hback⟩ := hpieces
    rw [List.flatten_append]
    exact (standsFor_of_forall₂ hfront).append (ih back hback)

/-- Only what comes after the last slash is looked at. -/
theorem lastSegment_append_slash (start : List Char) {segment : List Char} (h : '/' ∉ segment) :
    lastSegment (start ++ '/' :: segment) = segment := by
  rw [lastSegment, List.splitOn_append_cons_self, List.splitOn_eq_singleton h,
    List.getLast?_concat, Option.getD_some]

theorem lastSegment_of_notMem {segment : List Char} (h : '/' ∉ segment) :
    lastSegment segment = segment := by
  rw [lastSegment, List.splitOn_eq_singleton h, List.getLast?_singleton, Option.getD_some]

end Reference

open Reference

/-- **Names in references.** Every name can be encoded, and however it is, a reference that is the
encoded name or ends in a slash and the encoded name has it for its name. So a schema with such a
reference is the copy of the schema of that name, or it leads nowhere if there is none. -/
theorem refName_of_encodes (name : String) :
    Encodes name.toList (encodeSegment name.toList) ∧
    ∀ segment : String, Encodes name.toList segment.toList →
      refName segment = name ∧ (∀ start, refName (start ++ "/" ++ segment) = name) ∧
      ∀ components owner schema,
        (schema.reference = some segment ∨
          ∃ start, schema.reference = some (start ++ "/" ++ segment)) →
        effectiveSchema components owner schema =
          match components.lookup name with
          | some target => .ok { combine [target] with description := schema.description }
          | none => .error (.danglingReference owner name) := by
  refine ⟨encodes_encodeSegment name.toList, fun segment h => ?_⟩
  have hstands := standsFor_of_encodes h
  have hsegment : refName segment = name := by
    rw [refName, lastSegment_of_notMem hstands.slash, hstands.decodeSegment_eq,
      String.ofList_toList]
  have hstart : ∀ start, refName (start ++ "/" ++ segment) = name := by
    intro start
    have hchars : (start ++ "/" ++ segment).toList = start.toList ++ '/' :: segment.toList := by
      simp
    rw [refName, hchars, lastSegment_append_slash _ hstands.slash, hstands.decodeSegment_eq,
      String.ofList_toList]
  refine ⟨hsegment, hstart, fun components owner schema hreference => ?_⟩
  rcases hreference with hreference | ⟨start, hreference⟩
  · have heffective : effectiveSchema components owner schema = _ :=
      effectiveSchema_of_reference hreference
    rw [hsegment] at heffective
    exact heffective
  · have heffective : effectiveSchema components owner schema = _ :=
      effectiveSchema_of_reference hreference
    rw [hstart] at heffective
    exact heffective

/-- A name with what looks like escapes and triplets, and with characters of up to four bytes. -/
def markedName : String := "~01%41/é~0😀"

/-- The schemas of a document with that name, and with what it would be read as in another order. -/
def markedComponents : Components where
  schemas := Dict.ofList [("~1A/é~😀", { kind := some .object }),
    (markedName, { kind := some .object, required := ["id"] })]

/-- That name with its escapes and triplets. -/
def markedSegment : String := "~001%2541~1%C3%A9~00%F0%9F%98%80"

theorem refName_of_encodes_marked :
    Encodes markedName.toList markedSegment.toList ∧
      refName "#/components/schemas/~001%2541~1%C3%A9~00%F0%9F%98%80" = "~01%41/é~0😀" ∧
      effectiveSchema markedComponents "Alias"
          { reference := some "#/components/schemas/~001%2541~1%C3%A9~00%F0%9F%98%80" } =
        .ok (combine [{ kind := some .object, required := ["id"] }]) := by
  have hsegment : encodeSegment markedName.toList = markedSegment.toList := by decide +kernel
  have hencodes : Encodes markedName.toList markedSegment.toList := by
    rw [← hsegment]
    exact (refName_of_encodes markedName).1
  obtain ⟨-, hstart, hcopy⟩ := (refName_of_encodes markedName).2 markedSegment hencodes
  have hreference : "#/components/schemas" ++ "/" ++ markedSegment =
      "#/components/schemas/~001%2541~1%C3%A9~00%F0%9F%98%80" := by decide +kernel
  have hlookup : markedComponents.lookup markedName =
      some { kind := some .object, required := ["id"] } := by decide +kernel
  refine ⟨hencodes, ?_, ?_⟩
  · rw [← hreference]
    exact hstart "#/components/schemas"
  · rw [← hreference, hcopy markedComponents "Alias" _ (.inr ⟨"#/components/schemas", rfl⟩),
      hlookup]
    rfl

end ApiStencil

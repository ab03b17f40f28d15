import ApiStencil.Text.Utf8
import Mathlib.Data.List.Lex

/-!
# Encoded characters

The decoder for any bytes gives back every text that has been encoded, and the order of the bytes is
the order of the characters. The encoding of a character is a lead byte, whose range tells how many
bytes follow, and bytes with six bits each.

## Main definitions

* `Text.leadByte`, `Text.tailByte`, `Text.tailBytes`: the bytes of a character by its code

## Main results

* `Text.decodeLossy_encodeText`: an encoded text is decoded to itself
* `Text.decodeLossy_append_of_lt`: any bytes are decoded up to an ASCII character, and after it
* `Text.encodeText_lt_encodeText`: the byte order of texts is the order of their characters
-/

namespace ApiStencil.Text

variable {c d : Char} {b b₂ b₃ b₄ : UInt8} {rest : List UInt8} {m n : Nat}

/-! ## The bytes of a character -/

/-- The byte that carries the last six of some bits. -/
def tailByte (bits : Nat) : UInt8 := UInt8.ofNat (0x80 + bits % 0x40)

/-- The value of the first byte for a code. -/
def leadByte (code : Nat) : Nat :=
  if code < 0x80 then code
  else if code < 0x800 then 0xC0 + code / 0x40
  else if code < 0x10000 then 0xE0 + code / 0x1000
  else 0xF0 + code / 0x40000

/-- The bytes after the first one for a code. -/
def tailBytes (code : Nat) : List UInt8 :=
  if code < 0x80 then []
  else if code < 0x800 then [tailByte code]
  else if code < 0x10000 then [tailByte (code / 0x40), tailByte code]
  else [tailByte (code / 0x1000), tailByte (code / 0x40), tailByte code]

theorem encodeChar_eq_cons (c : Char) :
    encodeChar c = UInt8.ofNat (leadByte c.toNat) :: tailBytes c.toNat := by
  unfold encodeChar leadByte tailBytes tailByte
  dsimp only
  split_ifs <;> rfl

/-- The codes of characters leave out the surrogates, and they end. -/
theorem toNat_lt_or (c : Char) : c.toNat < 0xD800 ∨ 0xDFFF < c.toNat ∧ c.toNat < 0x110000 :=
  c.valid

theorem toNat_lt_end (c : Char) : c.toNat < 0x110000 := by
  have := toNat_lt_or c
  omega

theorem toNat_ofNat_of_lt (h : n < 0x100) : (UInt8.ofNat n).toNat = n := by
  rw [UInt8.toNat_ofNat', Nat.mod_eq_of_lt h]

theorem toNat_tailByte (bits : Nat) : (tailByte bits).toNat = 0x80 + bits % 0x40 :=
  toNat_ofNat_of_lt (by omega)

theorem toNat_leadByte (h : n < 0x110000) : (UInt8.ofNat (leadByte n)).toNat = leadByte n := by
  apply toNat_ofNat_of_lt
  unfold leadByte
  split_ifs <;> omega

/-- A character of one byte is that byte. -/
theorem encodeChar_of_lt (h : c.toNat < 0x80) : encodeChar c = [UInt8.ofNat c.toNat] := by
  rw [encodeChar_eq_cons, leadByte, tailBytes, if_pos h, if_pos h]

theorem exists_of_mem_tailBytes (h : b ∈ tailBytes n) : ∃ bits, b = tailByte bits := by
  unfold tailBytes at h
  split_ifs at h <;> simp only [List.mem_cons, List.not_mem_nil, or_false] at h
  · exact ⟨n, h⟩
  · rcases h with h | h
    · exact ⟨_, h⟩
    · exact ⟨_, h⟩
  · rcases h with h | h | h
    · exact ⟨_, h⟩
    · exact ⟨_, h⟩
    · exact ⟨_, h⟩

/-- The bytes of all other characters are beyond those. -/
theorem le_toNat_of_mem_encodeChar (h : 0x80 ≤ c.toNat) (hb : b ∈ encodeChar c) :
    0x80 ≤ b.toNat := by
  rw [encodeChar_eq_cons, List.mem_cons] at hb
  rcases hb with rfl | hb
  · rw [toNat_leadByte (toNat_lt_end c), leadByte]
    split_ifs <;> omega
  · obtain ⟨bits, rfl⟩ := exists_of_mem_tailBytes hb
    rw [toNat_tailByte]
    omega

/-- A character below those has a byte that no other character has. -/
theorem ne_of_mem_encodeChar (hd : d.toNat < 0x80) (hc : c ≠ d) (hb : b ∈ encodeChar c) :
    b ≠ UInt8.ofNat d.toNat := by
  rintro rfl
  have hcode : (UInt8.ofNat d.toNat).toNat = d.toNat := toNat_ofNat_of_lt (by omega)
  rcases Nat.lt_or_ge c.toNat 0x80 with hlt | hge
  · rw [encodeChar_of_lt hlt, List.mem_singleton] at hb
    have heq := congrArg UInt8.toNat hb
    rw [hcode, toNat_ofNat_of_lt (by omega)] at heq
    exact hc (Char.toNat_inj.mp heq.symm)
  · have hle := le_toNat_of_mem_encodeChar hge hb
    omega

theorem encodeText_append (s t : List Char) : encodeText (s ++ t) = encodeText s ++ encodeText t :=
  List.flatMap_append

theorem encodeText_cons_of_lt (h : c.toNat < 0x80) (s : List Char) :
    encodeText (c :: s) = UInt8.ofNat c.toNat :: encodeText s := by
  rw [encodeText, List.flatMap_cons, encodeChar_of_lt h]
  rfl

/-- A text whose first byte is a character of its own starts with this character. -/
theorem exists_of_encodeText_eq_cons {s : List Char} (hb : b.toNat < 0x80)
    (h : encodeText s = b :: rest) :
    ∃ t, s = Char.ofNat b.toNat :: t ∧ encodeText t = rest := by
  cases s with
  | nil => cases h
  | cons c s =>
    rcases Nat.lt_or_ge c.toNat 0x80 with hlt | hge
    · rw [encodeText_cons_of_lt hlt] at h
      obtain ⟨rfl, hrest⟩ := List.cons.inj h
      rw [toNat_ofNat_of_lt (by omega), Char.ofNat_toNat]
      exact ⟨s, rfl, hrest⟩
    · rw [encodeText, List.flatMap_cons, encodeChar_eq_cons, List.cons_append] at h
      have hmem : b ∈ encodeChar c := by
        rw [encodeChar_eq_cons, (List.cons.inj h).1]
        exact List.mem_cons_self
      have hle := le_toNat_of_mem_encodeChar hge hmem
      omega

/-! ## Decoding what has been encoded -/

theorem byteIn_iff {low high : Nat} :
    byteIn low high b = true ↔ low ≤ b.toNat ∧ b.toNat ≤ high := by
  simp [byteIn]

theorem isTail_tailByte (bits : Nat) : isTail (tailByte bits) = true := by
  rw [isTail, byteIn_iff, toNat_tailByte]
  omega

theorem decodeLossy_one (h : b.toNat < 0x80) :
    decodeLossy (b :: rest) = Char.ofNat b.toNat :: decodeLossy rest := by
  rw [decodeLossy.eq_2]
  simp only [if_pos h]

theorem decodeLossy_two (h : 0xC2 ≤ b.toNat) (h' : b.toNat < 0xE0) (h₂ : isTail b₂ = true) :
    decodeLossy (b :: b₂ :: rest) = joinBits (b.toNat - 0xC0) [b₂] :: decodeLossy rest := by
  have hbounds : secondBounds b.toNat = (0x80, 0xBF) := by
    unfold secondBounds
    simp only [beq_iff_eq]
    split_ifs <;> first | omega | rfl
  rw [isTail] at h₂
  rw [decodeLossy.eq_2]
  simp only [hbounds, h₂]
  rw [if_neg (by omega), if_neg (by simp; omega), if_neg (by simp), if_pos h']

theorem decodeLossy_three (h : 0xE0 ≤ b.toNat) (h' : b.toNat < 0xF0)
    (h₂ : byteIn (secondBounds b.toNat).1 (secondBounds b.toNat).2 b₂ = true)
    (h₃ : isTail b₃ = true) :
    decodeLossy (b :: b₂ :: b₃ :: rest) =
      joinBits (b.toNat - 0xE0) [b₂, b₃] :: decodeLossy rest := by
  rw [decodeLossy.eq_2]
  simp only [h₂, h₃]
  rw [if_neg (by omega), if_neg (by simp; omega), if_neg (by simp), if_neg (by omega),
    if_neg (by simp), if_pos h']

theorem decodeLossy_four (h : 0xF0 ≤ b.toNat) (h' : b.toNat < 0xF5)
    (h₂ : byteIn (secondBounds b.toNat).1 (secondBounds b.toNat).2 b₂ = true)
    (h₃ : isTail b₃ = true) (h₄ : isTail b₄ = true) :
    decodeLossy (b :: b₂ :: b₃ :: b₄ :: rest) =
      joinBits (b.toNat - 0xF0) [b₂, b₃, b₄] :: decodeLossy rest := by
  rw [decodeLossy.eq_2]
  simp only [h₂, h₃, h₄]
  rw [if_neg (by omega), if_neg (by simp; omega), if_neg (by simp), if_neg (by omega),
    if_neg (by simp), if_neg (by omega), if_neg (by simp)]

/-- No sequence goes on with a byte below those of its second bytes. -/
theorem byteIn_of_lt {lead low high : Nat} (h : b.toNat < 0x80)
    (hbounds : secondBounds lead = (low, high)) : byteIn low high b = false := by
  have hlow : 0x80 ≤ (secondBounds lead).1 := by
    unfold secondBounds
    split_ifs <;> decide
  rw [hbounds] at hlow
  rw [← Bool.not_eq_true, byteIn_iff]
  omega

theorem isTail_of_lt (h : b.toNat < 0x80) : isTail b = false := by
  rw [isTail, ← Bool.not_eq_true, byteIn_iff]
  omega

/-- A byte that is a character of its own ends what comes before it, whatever that is. -/
theorem decodeLossy_append_of_lt (h : b.toNat < 0x80) (front back : List UInt8) :
    decodeLossy (front ++ b :: back) =
      decodeLossy front ++ Char.ofNat b.toNat :: decodeLossy back := by
  rw [← decodeLossy_one h]
  have htail := isTail_of_lt h
  fun_induction decodeLossy front with
  | case1 => rfl
  | case4 lead n low high hbounds | case7 lead n low high hbounds
  | case10 lead n low high hbounds =>
    have hsecond := byteIn_of_lt h hbounds
    simp only [List.cons_append, List.nil_append]
    rw [decodeLossy.eq_2 lead]
    grind
  | _ =>
    simp only [List.cons_append]
    rw [decodeLossy.eq_2]
    grind

/-- The bounds of the second byte, in terms of its bits: overlong forms, surrogates and codes beyond
the end are left out. -/
theorem byteIn_secondBounds (lead bits : Nat) (hE0 : lead = 0xE0 → 0x20 ≤ bits % 0x40)
    (hED : lead = 0xED → bits % 0x40 < 0x20) (hF0 : lead = 0xF0 → 0x10 ≤ bits % 0x40)
    (hF4 : lead = 0xF4 → bits % 0x40 < 0x10) :
    byteIn (secondBounds lead).1 (secondBounds lead).2 (tailByte bits) = true := by
  rw [byteIn_iff, toNat_tailByte]
  unfold secondBounds
  simp only [beq_iff_eq]
  split_ifs <;> dsimp only <;> omega

theorem joinBits_eq {lead : Nat} {tails : List UInt8}
    (h : tails.foldl (fun n b => n * 0x40 + b.toNat % 0x40) lead = c.toNat) :
    joinBits lead tails = c := by
  rw [joinBits, h, Char.ofNat_toNat]

/-- Whatever follows, an encoded character is decoded to itself. -/
theorem decodeLossy_encodeChar_append (c : Char) (rest : List UInt8) :
    decodeLossy (encodeChar c ++ rest) = c :: decodeLossy rest := by
  have hcode := toNat_lt_or c
  have hlead := toNat_leadByte (toNat_lt_end c)
  rw [encodeChar_eq_cons]
  unfold leadByte at hlead ⊢
  unfold tailBytes
  split_ifs at hlead ⊢ with h₁ h₂ h₃
  · show decodeLossy (_ :: rest) = _
    rw [decodeLossy_one (by omega), hlead, Char.ofNat_toNat]
  · show decodeLossy (_ :: _ :: rest) = _
    rw [decodeLossy_two (by omega) (by omega) (isTail_tailByte _), joinBits_eq (c := c)]
    simp only [List.foldl_cons, List.foldl_nil, hlead, toNat_tailByte]
    omega
  · show decodeLossy (_ :: _ :: _ :: rest) = _
    have hsecond := byteIn_secondBounds (0xE0 + c.toNat / 0x1000) (c.toNat / 0x40)
      (by omega) (by omega) (by omega) (by omega)
    rw [decodeLossy_three (by omega) (by omega) (by rwa [hlead]) (isTail_tailByte _),
      joinBits_eq (c := c)]
    simp only [List.foldl_cons, List.foldl_nil, hlead, toNat_tailByte]
    omega
  · show decodeLossy (_ :: _ :: _ :: _ :: rest) = _
    have hsecond := byteIn_secondBounds (0xF0 + c.toNat / 0x40000)
      (c.toNat / 0x1000) (by omega) (by omega) (by omega) (by omega)
    rw [decodeLossy_four (by omega) (by omega) (by rwa [hlead]) (isTail_tailByte _)
      (isTail_tailByte _), joinBits_eq (c := c)]
    simp only [List.foldl_cons, List.foldl_nil, hlead, toNat_tailByte]
    omega

/-- **An encoded text is decoded to itself.** -/
theorem decodeLossy_encodeText (s : List Char) : decodeLossy (encodeText s) = s := by
  induction s with
  | nil => rfl
  | cons c s ih =>
    rw [encodeText, List.flatMap_cons, decodeLossy_encodeChar_append]
    exact congrArg (c :: ·) ih

/-! ## The order of texts -/

theorem cons_lt_cons_of_toNat {s t : List UInt8}
    (h : b.toNat < b₂.toNat ∨ b.toNat = b₂.toNat ∧ s < t) : b :: s < b₂ :: t := by
  rw [List.cons_lt_cons_iff, UInt8.lt_iff_toNat_lt, ← UInt8.toNat_inj]
  exact h

theorem cons_tailByte_lt {s t : List UInt8}
    (h : m % 0x40 < n % 0x40 ∨ m % 0x40 = n % 0x40 ∧ s < t) :
    tailByte m :: s < tailByte n :: t := by
  apply cons_lt_cons_of_toNat
  rw [toNat_tailByte, toNat_tailByte]
  exact h.imp (Nat.add_lt_add_left · _) (And.imp_left (congrArg (0x80 + ·)))

theorem leadByte_le_leadByte (h : m < n) (hn : n < 0x110000) : leadByte m ≤ leadByte n := by
  unfold leadByte
  split_ifs <;> omega

/-- Codes with one lead byte have the same number of bytes, and the first bits that differ decide.
-/
theorem tailBytes_append_lt (h : m < n) (hn : n < 0x110000) (hlead : leadByte m = leadByte n)
    (s t : List UInt8) : tailBytes m ++ s < tailBytes n ++ t := by
  unfold leadByte at hlead
  unfold tailBytes
  split_ifs at hlead ⊢ <;> try omega
  · exact cons_tailByte_lt (.inl (by omega))
  · refine cons_tailByte_lt ?_
    rcases Nat.lt_or_ge (m / 0x40) (n / 0x40) with hlt | hge
    · exact .inl (by omega)
    · exact .inr ⟨by omega, cons_tailByte_lt (.inl (by omega))⟩
  · refine cons_tailByte_lt ?_
    rcases Nat.lt_or_ge (m / 0x1000) (n / 0x1000) with hlt | hge
    · exact .inl (by omega)
    refine .inr ⟨by omega, cons_tailByte_lt ?_⟩
    rcases Nat.lt_or_ge (m / 0x40) (n / 0x40) with hlt' | hge'
    · exact .inl (by omega)
    · exact .inr ⟨by omega, cons_tailByte_lt (.inl (by omega))⟩

theorem encodeChar_append_lt (h : c < d) (s t : List UInt8) :
    encodeChar c ++ s < encodeChar d ++ t := by
  have hlt : c.toNat < d.toNat := h
  have hlead := leadByte_le_leadByte hlt (toNat_lt_end d)
  rw [encodeChar_eq_cons, encodeChar_eq_cons, List.cons_append, List.cons_append]
  apply cons_lt_cons_of_toNat
  rw [toNat_leadByte (toNat_lt_end c), toNat_leadByte (toNat_lt_end d)]
  rcases Nat.lt_or_eq_of_le hlead with hless | heq
  · exact .inl hless
  · exact .inr ⟨heq, tailBytes_append_lt hlt (toNat_lt_end d) heq s t⟩

/-- **The byte order of texts** is the order of their characters. -/
theorem encodeText_lt_encodeText {s t : List Char} (h : s < t) : encodeText s < encodeText t := by
  induction h with
  | nil =>
    rw [encodeText, encodeText, List.flatMap_cons, encodeChar_eq_cons]
    exact List.nil_lt_cons _ _
  | rel h => exact encodeChar_append_lt h _ _
  | cons _ ih => exact List.append_left_lt ih

end ApiStencil.Text

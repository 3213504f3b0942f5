import RtsProxy.Text.Basic

/-!
# UTF-8

The texts that are UTF-8, told by their bytes.

* `IsUtf8`: the encodings of some characters, one behind the other;
* `Encoded`: the bytes of one code point, by their ranges;
* `encoded_iff`: they are what `String.utf8EncodeChar` makes of a character.
-/

namespace Text

/-- The text is the encoding of some characters. -/
def IsUtf8 (s : Bytes) : Prop := ∃ cs : List Char, s = cs.flatMap String.utf8EncodeChar

/-- A byte behind the first one of a character. -/
def IsTail (b : UInt8) : Prop := 128 ≤ b.toNat ∧ b.toNat < 192

/-- The bytes of a code point: the shortest ones, and none for surrogates. -/
inductive Encoded : Bytes → Nat → Prop
  | one {a : UInt8} (ha : a.toNat < 128) : Encoded [a] a.toNat
  | two {a b : UInt8} (ha : 194 ≤ a.toNat ∧ a.toNat < 224) (hb : IsTail b) :
    Encoded [a, b] ((a.toNat - 192) * 64 + (b.toNat - 128))
  | three {a b c : UInt8} {n : Nat} (ha : 224 ≤ a.toNat ∧ a.toNat < 240) (hb : IsTail b)
    (hc : IsTail c)
    (hn : n = ((a.toNat - 224) * 64 + (b.toNat - 128)) * 64 + (c.toNat - 128))
    (hlong : 0x800 ≤ n) (hvalid : n < 0xD800 ∨ 0xDFFF < n) : Encoded [a, b, c] n
  | four {a b c d : UInt8} {n : Nat} (ha : 240 ≤ a.toNat ∧ a.toNat < 248) (hb : IsTail b)
    (hc : IsTail c) (hd : IsTail d)
    (hn : n = (((a.toNat - 240) * 64 + (b.toNat - 128)) * 64 + (c.toNat - 128)) * 64 +
      (d.toNat - 128))
    (hlong : 0x10000 ≤ n) (hvalid : n < 0x110000) : Encoded [a, b, c, d] n

variable {s t : Bytes} {n : Nat}

theorem Encoded.ne_nil (h : Encoded s n) : s ≠ [] := by
  cases h <;> exact List.cons_ne_nil _ _

/-- A character that is not ASCII has no bytes of ASCII. -/
theorem Encoded.le_of_mem (h : Encoded s n) (hn : 128 ≤ n) : ∀ b ∈ s, 128 ≤ b.toNat := by
  cases h with
  | one ha => exact absurd hn (not_le.2 ha)
  | two ha hb => simpa using ⟨by omega, hb.1⟩
  | three ha hb hc => simpa using ⟨by omega, hb.1, hc.1⟩
  | four ha hb hc hd => simpa using ⟨by omega, hb.1, hc.1, hd.1⟩

theorem Encoded.eq_singleton (h : Encoded s n) (hn : n < 128) :
    ∃ b : UInt8, s = [b] ∧ b.toNat = n := by
  cases h with
  | @one a ha => exact ⟨a, rfl, rfl⟩
  | two ha hb =>
    unfold IsTail at hb
    omega
  | three => omega
  | four => omega

/-- What is encoded is a character. -/
theorem Encoded.isValidChar (h : Encoded s n) : n.isValidChar := by
  cases h with
  | one ha => exact .inl (by omega)
  | two ha hb => exact .inl (by unfold IsTail at hb; omega)
  | three ha hb hc hn hlong hvalid =>
    unfold IsTail at hb hc
    exact hvalid.imp id fun h => ⟨h, by omega⟩
  | four ha hb hc hd hn hlong hvalid => exact .inr ⟨by omega, hvalid⟩

theorem ofNat_eq {k : Nat} {b : UInt8} (h : k = b.toNat) : UInt8.ofNat k = b := by
  rw [h, UInt8.ofNat_toNat]

theorem Encoded.eq_utf8EncodeChar (h : Encoded s n) {c : Char} (hc : c.val.toNat = n) :
    s = String.utf8EncodeChar c := by
  rw [String.utf8EncodeChar, hc]
  cases h with
  | one ha => rw [if_pos (by omega), ofNat_eq rfl]
  | @two a b ha hb =>
    unfold IsTail at hb
    rw [if_neg (by omega), if_pos (by omega), @ofNat_eq _ a (by omega), @ofNat_eq _ b (by omega)]
  | @three a b c _ ha hb hc hn hlong hvalid =>
    unfold IsTail at hb hc
    rw [if_neg (by omega), if_neg (by omega), if_pos (by omega), @ofNat_eq _ a (by omega),
      @ofNat_eq _ b (by omega), @ofNat_eq _ c (by omega)]
  | @four a b c d _ ha hb hc hd hn hlong hvalid =>
    unfold IsTail at hb hc hd
    rw [if_neg (by omega), if_neg (by omega), if_neg (by omega), @ofNat_eq _ a (by omega),
      @ofNat_eq _ b (by omega), @ofNat_eq _ c (by omega), @ofNat_eq _ d (by omega)]

/-- Every character is encoded by the bytes that these ranges allow. -/
theorem encoded_utf8EncodeChar (c : Char) : Encoded (String.utf8EncodeChar c) c.val.toNat := by
  have hvalid : c.val.toNat < 0xD800 ∨ 0xDFFF < c.val.toNat ∧ c.val.toNat < 0x110000 := c.valid
  have hbyte : ∀ k : Nat, (UInt8.ofNat k).toNat = k % 256 := fun k => UInt8.toNat_ofNat'
  rw [String.utf8EncodeChar]
  generalize c.val.toNat = v at hvalid
  split
  · have h := @Encoded.one (UInt8.ofNat v) (by rw [hbyte]; omega)
    rwa [show (UInt8.ofNat v).toNat = v by rw [hbyte]; omega] at h
  split
  · have h := @Encoded.two (UInt8.ofNat (v / 64 % 32 + 192)) (UInt8.ofNat (v % 64 + 128))
      (by rw [hbyte]; omega) (by rw [IsTail, hbyte]; omega)
    rwa [hbyte, hbyte, show (_ - 192) * 64 + (_ - 128) = v by omega] at h
  split
  · refine .three ?_ ?_ ?_ ?_ (by omega) (by omega)
    · rw [hbyte]; omega
    · rw [IsTail, hbyte]; omega
    · rw [IsTail, hbyte]; omega
    · rw [hbyte, hbyte, hbyte]; omega
  · refine .four ?_ ?_ ?_ ?_ ?_ (by omega) (by omega)
    · rw [hbyte]; omega
    · rw [IsTail, hbyte]; omega
    · rw [IsTail, hbyte]; omega
    · rw [IsTail, hbyte]; omega
    · rw [hbyte, hbyte, hbyte, hbyte]; omega

theorem encoded_iff : Encoded s n ↔ ∃ c : Char, c.val.toNat = n ∧ s = String.utf8EncodeChar c := by
  constructor
  · intro h
    have hval : (Char.ofNatAux n h.isValidChar).val.toNat = n := rfl
    exact ⟨_, hval, h.eq_utf8EncodeChar hval⟩
  · rintro ⟨c, rfl, rfl⟩
    exact encoded_utf8EncodeChar c

theorem isUtf8_nil : IsUtf8 [] := ⟨[], rfl⟩

theorem Encoded.isUtf8_append (h : Encoded s n) (ht : IsUtf8 t) : IsUtf8 (s ++ t) := by
  obtain ⟨c, -, rfl⟩ := encoded_iff.1 h
  obtain ⟨cs, rfl⟩ := ht
  exact ⟨c :: cs, rfl⟩

theorem isUtf8_append (hs : IsUtf8 s) (ht : IsUtf8 t) : IsUtf8 (s ++ t) := by
  obtain ⟨cs, rfl⟩ := hs
  obtain ⟨ds, rfl⟩ := ht
  exact ⟨cs ++ ds, List.flatMap_append.symm⟩

/-- A text of bytes of ASCII is UTF-8. -/
theorem isUtf8_of_ascii (h : ∀ b ∈ s, b.toNat < 128) : IsUtf8 s := by
  induction s with
  | nil => exact isUtf8_nil
  | cons b s ih =>
    obtain ⟨hb, hs⟩ := List.forall_mem_cons.1 h
    exact (Encoded.one hb).isUtf8_append (ih hs)

/-- A text is taken apart character by character. -/
theorem isUtf8_induction {P : Bytes → Prop} (hnil : P [])
    (hcons : ∀ s t n, Encoded s n → IsUtf8 t → P t → P (s ++ t)) (h : IsUtf8 s) : P s := by
  obtain ⟨cs, rfl⟩ := h
  induction cs with
  | nil => exact hnil
  | cons c cs ih => exact hcons _ _ _ (encoded_utf8EncodeChar c) ⟨cs, rfl⟩ ih

end Text

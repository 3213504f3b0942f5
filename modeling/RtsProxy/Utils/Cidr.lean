import RtsProxy.Utils.BlacklistChecker

/-!
# Networks in the blacklist

A pattern with a slash is an address and the length of a prefix. `match_cidr` compares the words of
two addresses under a mask that is shifted into place, and swapped to network order as the words
are. The length is whatever number `std::stoi` reads behind the slash.

* `sameNetwork_eq`: under the mask the words are equal exactly if their quotients are;
* `matchCidr_rightful_iff`: which numbers are right.
-/

open Text

/-- The word of an address, in host order. -/
def Ipv4.word (i : Ipv4) : BitVec 32 :=
  i.a.toBitVec ++ i.b.toBitVec ++ i.c.toBitVec ++ i.d.toBitVec

namespace BlacklistChecker

/-! ## Words -/

/-- `htonl` of a little-endian host: the bytes the other way round. -/
def htonl (x : BitVec 32) : BitVec 32 :=
  x.extractLsb' 0 8 ++ x.extractLsb' 8 8 ++ x.extractLsb' 16 8 ++ x.extractLsb' 24 8

/-- The count of the shift, where one is evaluated. -/
def shiftCount (bits : Int) : Option Int := if bits = 0 then none else some (32 - bits)

/-- The mask of a prefix, in host order. A shift out of range, which the language leaves undefined,
    is taken modulo 32. -/
def mask (bits : Int) : BitVec 32 :=
  match shiftCount bits with
  | none => 0
  | some count => 0xFFFFFFFF#32 <<< (count % 32).toNat

/-- The comparison of `match_cidr`: the words of the addresses are in network order, and so is the
    mask. -/
def equalMasked (bits : Int) (base target : Ipv4) : Bool :=
  htonl target.word &&& htonl (mask bits) = htonl base.word &&& htonl (mask bits)

variable {x y : BitVec 32} {bits : Int} {base target : Ipv4}

theorem htonl_and (x y : BitVec 32) : htonl x &&& htonl y = htonl (x &&& y) := by
  rw [htonl, htonl, htonl, BitVec.and_append, BitVec.and_append, BitVec.and_append]
  simp only [BitVec.extractLsb'_and]

/-- Two words that are put together are equal only if their parts are. -/
theorem eq_of_append_eq {m n : Nat} {a a' : BitVec m} {b b' : BitVec n} (h : a ++ b = a' ++ b') :
    a = a' ∧ b = b' := by
  have ha := congrArg (BitVec.extractLsb' n m) h
  have hb := congrArg (BitVec.extractLsb' 0 n) h
  rw [BitVec.extractLsb'_append_eq_left, BitVec.extractLsb'_append_eq_left] at ha
  rw [BitVec.extractLsb'_append_eq_right, BitVec.extractLsb'_append_eq_right] at hb
  exact ⟨ha, hb⟩

/-- A word has the bits of its bytes. -/
theorem getLsbD_of_extractLsb' {start i : Nat} (h : x.extractLsb' start 8 = y.extractLsb' start 8)
    (hi : start ≤ i ∧ i < start + 8) : x.getLsbD i = y.getLsbD i := by
  have hbit := congrArg (BitVec.getLsbD · (i - start)) h
  have hlt : i - start < 8 := by omega
  simpa only [BitVec.getLsbD_extractLsb', hlt, decide_true, Bool.true_and,
    Nat.add_sub_of_le hi.1] using hbit

theorem htonl_inj : htonl x = htonl y ↔ x = y := by
  refine ⟨fun h => ?_, congrArg htonl⟩
  obtain ⟨habc, hd⟩ := eq_of_append_eq h
  obtain ⟨hab, hc⟩ := eq_of_append_eq habc
  obtain ⟨ha, hb⟩ := eq_of_append_eq hab
  refine BitVec.eq_of_getLsbD_eq fun i hi => ?_
  have hcases : i < 8 ∨ 8 ≤ i ∧ i < 16 ∨ 16 ≤ i ∧ i < 24 ∨ 24 ≤ i := by omega
  rcases hcases with hi | hi | hi | hi
  · exact getLsbD_of_extractLsb' ha ⟨Nat.zero_le i, hi⟩
  · exact getLsbD_of_extractLsb' hb hi
  · exact getLsbD_of_extractLsb' hc hi
  · exact getLsbD_of_extractLsb' hd ⟨hi, by omega⟩

theorem toNat_word (i : Ipv4) : i.word.toNat = i.toNat := by
  have hb := i.b.toNat_lt
  have hc := i.c.toNat_lt
  have hd := i.d.toNat_lt
  simp only [Ipv4.word, Ipv4.toNat, BitVec.toNat_append, UInt8.toNat_toBitVec]
  rw [← Nat.shiftLeft_add_eq_or_of_lt hb, ← Nat.shiftLeft_add_eq_or_of_lt hc,
    ← Nat.shiftLeft_add_eq_or_of_lt hd]
  simp only [Nat.shiftLeft_eq]
  omega

/-- Words are equal under a mask of high bits exactly if they are without the low ones. -/
theorem and_mask_iff (s : Nat) :
    x &&& 0xFFFFFFFF#32 <<< s = y &&& 0xFFFFFFFF#32 <<< s ↔ x.toNat / 2 ^ s = y.toNat / 2 ^ s := by
  have hmask : ∀ z : BitVec 32, (z &&& 0xFFFFFFFF#32 <<< s).toNat = z.toNat / 2 ^ s * 2 ^ s := by
    intro z
    have hle := Nat.div_mul_le_self z.toNat (2 ^ s)
    rw [show 0xFFFFFFFF#32 = BitVec.allOnes 32 from rfl, ← BitVec.shiftLeft_ushiftRight,
      BitVec.toNat_shiftLeft, BitVec.toNat_ushiftRight, Nat.shiftLeft_eq,
      Nat.shiftRight_eq_div_pow, Nat.mod_eq_of_lt (Nat.lt_of_le_of_lt hle z.isLt)]
  rw [← BitVec.toNat_inj, hmask, hmask]
  exact Nat.mul_left_inj (Nat.pos_iff_ne_zero.1 (Nat.two_pow_pos s))

/-- The comparison of the words is that of the quotients. -/
theorem sameNetwork_eq (bits : Int) (base target : Ipv4) :
    sameNetwork bits base target = equalMasked bits base target := by
  rw [sameNetwork, equalMasked, mask, shiftCount]
  by_cases hbits : bits = 0
  · simp [hbits, htonl]
  · rw [if_neg hbits]
    simp only [hbits, decide_false, Bool.false_or]
    rw [htonl_and, htonl_and, decide_eq_decide, htonl_inj, and_mask_iff, toNat_word, toNat_word]
    exact eq_comm

/-! ## Calls -/

/-- `match_cidr`, on the words. -/
def matchCidrWords (ip cidr : Bytes) : Except Exn Bool :=
  match find (ascii "/") cidr with
  | none => .ok (ip = cidr)
  | some slash => do
    let bits ← stoi (cidr.drop (slash + 1))
    return match inetPton (cidr.take slash), inetPton ip with
      | some base, some target => equalMasked bits base target
      | _, _ => false

theorem matchCidr_eq (ip cidr : Bytes) : matchCidr ip cidr = matchCidrWords ip cidr := by
  have hsame : sameNetwork = equalMasked := by
    funext bits base target
    exact sameNetwork_eq bits base target
  rw [matchCidr, hsame]
  rfl

/-- The count of the shift that a call evaluates, if it comes to it. -/
def shiftOf (ip cidr : Bytes) : Option Int := do
  let slash ← find (ascii "/") cidr
  let bits ← (stoi (cidr.drop (slash + 1))).toOption
  let _ ← inetPton (cidr.take slash)
  let _ ← inetPton ip
  shiftCount bits

/-- A text is a numeral as a whole: digits, behind at most a sign. -/
def IsWhole (text : Bytes) : Prop :=
  text ∈ [[], ascii "+", ascii "-"].map (· ++ (readNumeral text).digits)

instance (text : Bytes) : Decidable (IsWhole text) := inferInstanceAs (Decidable (_ ∈ _))

/-- Two addresses are in one network of a prefix of so many bits. -/
def SharePrefix (n : Nat) (base target : Ipv4) : Prop :=
  base.toNat / 2 ^ (32 - n) = target.toNat / 2 ^ (32 - n)

instance (n : Nat) (base target : Ipv4) : Decidable (SharePrefix n base target) :=
  inferInstanceAs (Decidable (_ = _))

/-- A text is the length of a prefix that two addresses share. -/
def NamesShared (text : Bytes) (base target : Ipv4) : Prop :=
  IsWhole text ∧ (readNumeral text).digits ≠ [] ∧
    ∃ n : Nat, n ≤ 32 ∧ (readNumeral text).value = n ∧ SharePrefix n base target

/-- A call tells whether an address is in a network: its shift is in range, and it returns true
    exactly if the text behind the slash is the length of a prefix that the addresses share. -/
structure TellsMembership (ip base text : Bytes) (b t : Ipv4) : Prop where
  shift : ∀ count ∈ shiftOf ip (base ++ 47 :: text), 0 ≤ count ∧ count ≤ 31
  result : ∃ r, matchCidrWords ip (base ++ 47 :: text) = .ok r ∧ (r = true ↔ NamesShared text b t)

variable {ip text : Bytes} {s : Bytes} {n : Int}

/-- The number that is read is that of the numeral. -/
theorem value_of_stoi (h : stoi s = .ok n) :
    (readNumeral s).digits ≠ [] ∧ (readNumeral s).value = n := by
  rw [stoi, readSigned] at h
  split at h
  case isTrue => cases h
  case isFalse hne =>
    split at h
    case isTrue => exact ⟨hne, Except.ok.inj h⟩
    case isFalse => cases h

/-- What a call returns and which shift it evaluates, when there are addresses. -/
theorem matchCidrWords_append {base : Bytes} {b t : Ipv4} (hslash : 47 ∉ base)
    (hbase : inetPton base = some b) (hip : inetPton ip = some t) (text : Bytes) :
    matchCidrWords ip (base ++ 47 :: text) = (stoi text).map (equalMasked · b t) ∧
      shiftOf ip (base ++ 47 :: text) = (stoi text).toOption.bind shiftCount := by
  have hfind : find (ascii "/") (base ++ 47 :: text) = some base.length := find_byte hslash
  have htake : (base ++ 47 :: text).take base.length = base := List.take_left
  have hdrop : (base ++ 47 :: text).drop (base.length + 1) = text := by
    rw [← List.drop_drop, List.drop_left]
    rfl
  constructor
  · rw [matchCidrWords, hfind]
    dsimp only
    rw [hdrop, htake, hbase, hip]
    cases stoi text <;> rfl
  · rw [shiftOf, hfind, Option.bind_eq_bind, Option.bind_some, hdrop, htake, hbase, hip]
    cases stoi text <;> rfl

/-- In the range of a prefix length the shift is in range. -/
theorem shiftCount_mem_range_iff :
    (∀ count ∈ shiftCount n, 0 ≤ count ∧ count ≤ 31) ↔ 0 ≤ n ∧ n ≤ 32 := by
  rw [shiftCount]
  split
  case isTrue h => exact iff_of_true (fun _ => nofun) (by omega)
  case isFalse h =>
    simp only [Option.mem_some, forall_eq']
    omega

/-- There it is the prefixes that are compared. -/
theorem equalMasked_iff {n : Nat} (h : n ≤ 32) (b t : Ipv4) :
    equalMasked n b t = true ↔ SharePrefix n b t := by
  rw [← sameNetwork_eq, sameNetwork, SharePrefix]
  by_cases hzero : n = 0
  · -- The words are smaller than the divisor.
    have hb : b.toNat < 2 ^ 32 := toNat_word b ▸ b.word.isLt
    have ht : t.toNat < 2 ^ 32 := toNat_word t ▸ t.word.isLt
    rw [hzero, Nat.sub_zero, Nat.div_eq_of_lt hb, Nat.div_eq_of_lt ht]
    simp
  · have hshift : ((32 - (n : Int)) % 32).toNat = 32 - n := by omega
    rw [hshift]
    simp [hzero]

/-- A call tells whether an address is in a network exactly if the number that is read behind the
    slash is between 0 and 32, and is all that stands there or no prefix that the addresses
    share. -/
theorem tellsMembership_iff {base : Bytes} {b t : Ipv4} (hslash : 47 ∉ base)
    (hbase : inetPton base = some b) (hip : inetPton ip = some t) (text : Bytes) :
    TellsMembership ip base text b t ↔
      ∃ n : Nat, n ≤ 32 ∧ stoi text = .ok (n : Int) ∧ (IsWhole text ∨ ¬SharePrefix n b t) := by
  obtain ⟨hresult, hshift⟩ := matchCidrWords_append hslash hbase hip text
  rcases hread : stoi text with e | n
  · rw [hread] at hresult
    refine iff_of_false (fun h => ?_) (by rintro ⟨n, -, h, -⟩; cases h)
    obtain ⟨r, hr, -⟩ := h.result
    cases hresult.symm.trans hr
  rw [hread] at hresult hshift
  obtain ⟨hne, hvalue⟩ := value_of_stoi hread
  constructor
  · rintro ⟨hcount, r, hr, hiff⟩
    rw [hshift] at hcount
    obtain ⟨hlow, hhigh⟩ := shiftCount_mem_range_iff.1 hcount
    lift n to Nat using hlow
    have hle : n ≤ 32 := by omega
    obtain rfl := Except.ok.inj (hresult.symm.trans hr)
    refine ⟨n, hle, rfl, or_iff_not_imp_right.2 fun hshared => ?_⟩
    exact (hiff.1 ((equalMasked_iff hle b t).2 (not_not.1 hshared))).1
  · rintro ⟨m, hle, hm, hwhole⟩
    obtain rfl := Except.ok.inj hm
    refine ⟨?_, equalMasked m b t, hresult, ?_⟩
    · rw [hshift]
      exact shiftCount_mem_range_iff.2 (by omega)
    · rw [equalMasked_iff hle]
      constructor
      · exact fun hshared => ⟨hwhole.resolve_right (not_not.2 hshared), hne, m, hle, hvalue, hshared⟩
      · rintro ⟨-, -, k, -, hk, hshared⟩
        obtain rfl : m = k := by omega
        exact hshared

/-- The whole of a network, and an address at the end of it. -/
theorem tellsMembership_iff_network : TellsMembership (ascii "10.1.255.255") (ascii "10.1.0.0")
    (ascii "16") ⟨10, 1, 0, 0⟩ ⟨10, 1, 255, 255⟩ :=
  (tellsMembership_iff (by decide) (by decide +kernel) (by decide +kernel) (ascii "16")).2
    ⟨16, by decide, by decide +kernel, .inl (by decide +kernel)⟩

/-- Behind the slash of a pattern may be 33. -/
theorem not_tellsMembership : ¬∀ ip base text b t, inetPton base = some b → inetPton ip = some t →
    47 ∉ base → TellsMembership ip base text b t := by
  intro h
  have hcount : shiftOf (ascii "8.8.8.8") (ascii "10.0.0.0" ++ 47 :: ascii "33") = some (-1) := by
    decide +kernel
  have htells := h (ascii "8.8.8.8") (ascii "10.0.0.0") (ascii "33") ⟨10, 0, 0, 0⟩ ⟨8, 8, 8, 8⟩
    (by decide +kernel) (by decide +kernel) (by decide)
  exact absurd (htells.shift (-1) hcount).1 (by decide)

end BlacklistChecker

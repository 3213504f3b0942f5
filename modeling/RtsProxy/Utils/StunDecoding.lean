import RtsProxy.Protocol.PipelineBuffer
import RtsProxy.Utils.StunClient

/-!
# Decoding replies of a STUN server

`extract_stun_mapping_from_response` as it goes over the buffer of a reply, and the messages it is
meant for: a header and a list of attributes.

* `decode_run`: nothing outside a reply is read, and the mapping found is that of the model;
* `extractMapping_encode`: of a message that fits into a datagram, it is that of the first attribute
  that has one;
* `decode_message`: both, for the outputs of the function.

The offset of a value is a 16-bit number, and wraps in messages that no datagram can hold
(`decode_wraps`).
-/

open Text Buffer RtpPipeline RtpPipeline.InBuffer

namespace StunClient

/-! ## The function on its buffer -/

/-- What is returned: the status, and the two outputs. -/
structure Decoded where
  status : Int
  ip : Bytes
  port : Nat
  deriving DecidableEq, Repr

/-- The outputs as they are left, without a mapping or with one. -/
def Decoded.of (ip : Bytes) (port : Nat) : Option SockAddr → Decoded
  | none => ⟨-1, ip, port⟩
  | some mapped => ⟨0, inetNtoa mapped.addr, mapped.port⟩

/-- The address and the port of a value whose family is that of IPv4, behind a mask. -/
def readIpv4 (val : Nat) (mask : Bytes) : Prog UInt8 (Option SockAddr) := do
  if (← read (val + 1)) ≠ 1 then return none
  let p ← read (val + 2)
  let q ← read (val + 3)
  let a ← read (val + 4)
  let b ← read (val + 5)
  let c ← read (val + 6)
  let d ← read (val + 7)
  let m := fun i => byteAt mask i
  return some
    { addr := ⟨a ^^^ m 0, b ^^^ m 1, c ^^^ m 2, d ^^^ m 3⟩
      port := 256 * (p ^^^ m 0).toNat + (q ^^^ m 1).toNat }

/-- What an attribute says, of which the type and the length are known. -/
def readAttribute (type len val : Nat) : Prog UInt8 (Option SockAddr) :=
  if type = 0x0020 ∧ 8 ≤ len then readIpv4 val magicCookie
  else if type = 0x0001 ∧ 8 ≤ len then readIpv4 val [0, 0, 0, 0]
  else return none

/-- The length of a value with its padding. -/
def padded (len : Nat) : Nat := if len % 4 = 0 then len else len + (4 - len % 4)

/-- One turn of the loop over the attributes, at an offset. -/
def attributeTurn (rspLen msgLen offset : Nat) : Prog UInt8 (Nat ⊕ Option SockAddr) := do
  if offset + 4 ≤ 20 + msgLen ∧ offset + 4 ≤ rspLen then
    let type ← readWord offset
    let len ← readWord (offset + 2)
    let val := (offset + 4) % 65536
    if rspLen < val + len then return .inr none
    match ← readAttribute type len val with
    | some mapped => return .inr (some mapped)
    | none => return .inl (offset + 4 + padded len)
  else return .inr none

/-- The mapping in a reply whose header is long enough and has the cookie. -/
def decodeAttributes (rspLen : Nat) : Prog UInt8 (Option SockAddr) := do
  let msgLen ← readWord 2
  let cookie ← readMany 4 4
  if cookie ≠ magicCookie then return none
  let _tid ← readMany 8 12
  loop (attributeTurn rspLen msgLen) (rspLen + 1) 20

/-- `extract_stun_mapping_from_response`; the outputs are passed in as well. -/
def decode (rspLen : Nat) (ip : Bytes) (port : Nat) : Prog UInt8 Decoded := do
  if rspLen < 20 then return .of ip port none
  let mapped ← decodeAttributes rspLen
  return .of ip port mapped

/-! ## Safety -/

variable {rsp : Bytes} {type len val msgLen offset : Nat} {mask : Bytes}

theorem readIpv4_run (h : val + 8 ≤ rsp.length) : readIpv4 val mask rsp =
    some (if byteAt rsp (val + 1) = 1 then some (mappedAddress rsp val mask) else none, rsp) := by
  rw [readIpv4, bind_of_eq (read_byteAt (by omega))]
  by_cases hfamily : byteAt rsp (val + 1) = 1
  · rw [if_neg (not_not_intro hfamily), if_pos hfamily, bind_of_eq (read_byteAt (by omega)),
      bind_of_eq (read_byteAt (by omega)), bind_of_eq (read_byteAt (by omega)),
      bind_of_eq (read_byteAt (by omega)), bind_of_eq (read_byteAt (by omega)),
      bind_of_eq (read_byteAt (by omega))]
    rfl
  · rw [if_pos hfamily, if_neg hfamily]
    rfl

/-- What the model reads in an attribute: the mapping of its value, if it has one. -/
def attributeAt (rsp : Bytes) (type len val : Nat) : Option SockAddr :=
  if type = 0x0020 ∧ 8 ≤ len ∧ byteAt rsp (val + 1) = 1 then
    some (mappedAddress rsp val magicCookie)
  else if type = 0x0001 ∧ 8 ≤ len ∧ byteAt rsp (val + 1) = 1 then
    some (mappedAddress rsp val [0, 0, 0, 0])
  else none

theorem readAttribute_run (h : val + len ≤ rsp.length) :
    readAttribute type len val rsp = some (attributeAt rsp type len val, rsp) := by
  rw [readAttribute, attributeAt]
  by_cases hlong : 8 ≤ len
  · have hfits : val + 8 ≤ rsp.length := by omega
    by_cases hxor : type = 0x0020
    · rw [if_pos ⟨hxor, hlong⟩, readIpv4_run hfits]
      simp [hxor, hlong]
    · rw [if_neg fun h => hxor h.1, if_neg (c := type = 0x0020 ∧ _) fun h => hxor h.1]
      by_cases hplain : type = 0x0001
      · rw [if_pos ⟨hplain, hlong⟩, readIpv4_run hfits]
        simp [hplain, hlong]
      · rw [if_neg fun h => hplain h.1, if_neg fun h => hplain h.1]
        rfl
  · rw [if_neg fun h => hlong h.2, if_neg fun h => hlong h.2, if_neg fun h => hlong h.2.1,
      if_neg fun h => hlong h.2.1]
    rfl

/-- One turn of the loop of the model. -/
theorem attributesFrom_succ {fuel : Nat} : attributesFrom rsp msgLen (fuel + 1) offset =
    if offset + 4 ≤ 20 + msgLen ∧ offset + 4 ≤ rsp.length then
      if rsp.length < (offset + 4) % 65536 + word16 rsp (offset + 2) then none
      else (attributeAt rsp (word16 rsp offset) (word16 rsp (offset + 2)) ((offset + 4) % 65536)).or
        (attributesFrom rsp msgLen fuel (offset + 4 + padded (word16 rsp (offset + 2))))
    else none := by
  rw [attributesFrom]
  refine if_congr Iff.rfl (if_congr Iff.rfl rfl ?_) rfl
  rw [attributeAt]
  split
  · rfl
  · split <;> rfl

/-- The loop over the attributes stays inside, ends, and finds what the model finds. -/
theorem attributes_run :
    loop (attributeTurn rsp.length msgLen) (rsp.length + 1) 20 rsp =
      some (attributesFrom rsp msgLen (rsp.length + 1) 20, rsp) := by
  refine Ensures.eq ?_
  -- What the model still has to do, from an offset on, leads to the same end.
  refine @loop_ensures _ _ _ _ _ _ (fun offset b => b = rsp ∧ ∃ fuel, rsp.length < offset + fuel ∧
    attributesFrom rsp msgLen fuel offset = attributesFrom rsp msgLen (rsp.length + 1) 20)
    (fun offset => rsp.length - offset) ?_ _ _ ⟨rfl, rsp.length + 1, by omega, rfl⟩ (by omega)
  rintro offset b ⟨rfl, fuel, hfuel, hend⟩
  rw [attributeTurn]
  by_cases hin : offset + 4 ≤ 20 + msgLen ∧ offset + 4 ≤ b.length
  swap
  · have hnone : attributesFrom b msgLen fuel offset = none := by
      rcases fuel with _ | fuel
      · rfl
      · rw [attributesFrom_succ, if_neg hin]
    rw [if_neg hin]
    exact ensures_pure ⟨hnone.symm.trans hend, rfl⟩
  obtain ⟨fuel, rfl⟩ : ∃ n, fuel = n + 1 := ⟨fuel - 1, by omega⟩
  rw [attributesFrom_succ, if_pos hin] at hend
  rw [if_pos hin, ensures_bind (readWord_run (by omega)), ensures_bind (readWord_run (by omega))]
  dsimp only
  by_cases hpast : b.length < (offset + 4) % 65536 + word16 b (offset + 2)
  · rw [if_pos hpast] at hend ⊢
    exact ensures_pure ⟨hend, rfl⟩
  rw [if_neg hpast] at hend ⊢
  rw [ensures_bind (readAttribute_run (Nat.le_of_not_lt hpast))]
  rcases hatt : attributeAt b (word16 b offset) (word16 b (offset + 2)) ((offset + 4) % 65536) with
    _ | mapped <;> rw [hatt] at hend
  · exact ensures_pure ⟨⟨rfl, fuel, by omega, hend⟩, by omega⟩
  · exact ensures_pure ⟨hend, rfl⟩

/-- Nothing outside a reply is read, and the outputs are those of the mapping that the model
    finds. -/
theorem decode_run (ip : Bytes) (port : Nat) :
    decode rsp.length ip port rsp = some (.of ip port (extractMapping rsp), rsp) := by
  rw [decode, extractMapping]
  by_cases hshort : rsp.length < 20
  · rw [if_pos hshort, if_pos hshort]
    rfl
  rw [if_neg hshort, if_neg hshort]
  refine bind_of_eq ?_
  rw [decodeAttributes, bind_of_eq (readWord_run (by omega)),
    bind_of_eq (readMany_eq (by omega))]
  by_cases hcookie : (rsp.drop 4).take 4 = magicCookie
  · rw [if_neg (not_not_intro hcookie), if_neg (not_not_intro hcookie),
      bind_of_eq (readMany_eq (by omega))]
    exact attributes_run
  · rw [if_pos hcookie, if_pos hcookie]
    rfl

/-! ## Messages -/

/-- An attribute of a message: a type, a value, and what fills it up to four bytes. -/
structure Attribute where
  type : Nat
  value : Bytes
  padding : Bytes
  type_lt : type < 65536
  value_lt : value.length < 65536
  length_padding : padding.length = (4 - value.length % 4) % 4

/-- The bytes of an attribute. -/
def Attribute.encode (a : Attribute) : Bytes :=
  be16 a.type ++ be16 a.value.length ++ a.value ++ a.padding

/-- What an attribute says: the address and the port of a value of at least 8 bytes that has the
    family of IPv4, as they are in `MAPPED-ADDRESS`, behind the cookie in `XOR-MAPPED-ADDRESS`. -/
def Attribute.mapping (a : Attribute) : Option SockAddr :=
  if 8 ≤ a.value.length ∧ byteAt a.value 1 = 1 then
    if a.type = 0x0020 then some (mappedAddress a.value 0 magicCookie)
    else if a.type = 0x0001 then some (mappedAddress a.value 0 [0, 0, 0, 0])
    else none
  else none

/-- A message: a type, an identifier of its transaction, and attributes, whose length fits into
    its field. -/
structure Message where
  type : Bytes
  transaction : Bytes
  attributes : List Attribute
  length_type : type.length = 2
  length_transaction : transaction.length = 12
  length_lt : (attributes.flatMap Attribute.encode).length < 65536

namespace Message

/-- The bytes of the attributes. -/
def body (m : Message) : Bytes := m.attributes.flatMap Attribute.encode

/-- The bytes of a message. -/
def encode (m : Message) : Bytes :=
  m.type ++ be16 m.body.length ++ magicCookie ++ m.transaction ++ m.body

/-- What a message says: what the first of its attributes says that says anything. -/
def mapping (m : Message) : Option SockAddr := m.attributes.findSome? Attribute.mapping

end Message

variable {a : Attribute} {m : Message} {rest : Bytes} {i s : Nat}

theorem word16_drop : word16 (rsp.drop s) i = word16 rsp (s + i) := by
  rw [word16, word16, byteAt_drop, byteAt_drop, Nat.add_assoc]

theorem mappedAddress_drop : mappedAddress (rsp.drop s) i mask = mappedAddress rsp (s + i) mask := by
  simp only [mappedAddress, byteAt_drop, Nat.add_assoc]

theorem attributeAt_drop :
    attributeAt (rsp.drop s) type len i = attributeAt rsp type len (s + i) := by
  simp only [attributeAt, mappedAddress_drop, byteAt_drop, Nat.add_assoc]

theorem word16_be16 {n : Nat} (h : n < 65536) : word16 (be16 n ++ rest) 0 = n := by
  have hhigh : (n / 256).toUInt8.toNat = n / 256 := by
    exact UInt8.toNat_ofNat_of_lt' (Nat.div_lt_of_lt_mul h)
  have hlow : n.toUInt8.toNat = n % 256 := rfl
  change 256 * (n / 256).toUInt8.toNat + n.toUInt8.toNat = n
  omega

theorem padded_eq (n : Nat) : padded n = n + (4 - n % 4) % 4 := by
  unfold padded
  split <;> omega

theorem length_encode (a : Attribute) : a.encode.length = 4 + padded a.value.length := by
  rw [Attribute.encode, List.length_append, List.length_append, List.length_append,
    a.length_padding, padded_eq, be16, be16]
  simp only [List.length_cons, List.length_nil]
  omega

theorem drop_encode (a : Attribute) (rest : Bytes) :
    (a.encode ++ rest).drop 4 = a.value ++ (a.padding ++ rest) := by
  rw [Attribute.encode, List.append_assoc, List.append_assoc]
  rfl

theorem word16_encode_type (a : Attribute) (rest : Bytes) :
    word16 (a.encode ++ rest) 0 = a.type := by
  rw [Attribute.encode, List.append_assoc, List.append_assoc, List.append_assoc]
  exact word16_be16 a.type_lt

theorem word16_encode_length (a : Attribute) (rest : Bytes) :
    word16 (a.encode ++ rest) 2 = a.value.length := by
  have hdrop : (a.encode ++ rest).drop 2 =
      be16 a.value.length ++ (a.value ++ (a.padding ++ rest)) := by
    rw [Attribute.encode, List.append_assoc, List.append_assoc, List.append_assoc]
    rfl
  rw [show 2 = 2 + 0 from rfl, ← word16_drop, hdrop]
  exact word16_be16 a.value_lt

/-- In front of anything else, an attribute is read as what it says. -/
theorem attributeAt_encode (a : Attribute) (rest : Bytes) :
    attributeAt (a.encode ++ rest) a.type a.value.length 4 = a.mapping := by
  rw [show 4 = 4 + 0 from rfl, ← attributeAt_drop, drop_encode, attributeAt, Attribute.mapping]
  by_cases hlong : 8 ≤ a.value.length
  · have hbyte : ∀ i < 8, byteAt (a.value ++ (a.padding ++ rest)) (0 + i) = byteAt a.value (0 + i) :=
      fun i hi => byteAt_append_left (by omega)
    have hmap : ∀ mask, mappedAddress (a.value ++ (a.padding ++ rest)) 0 mask =
        mappedAddress a.value 0 mask := by
      intro mask
      simp only [mappedAddress, hbyte 2 (by decide), hbyte 3 (by decide), hbyte 4 (by decide),
        hbyte 5 (by decide), hbyte 6 (by decide), hbyte 7 (by decide)]
    rw [hmap, hmap, hbyte 1 (by decide)]
    by_cases hfamily : byteAt a.value (0 + 1) = 1
    · simp only [hlong, hfamily, and_true, if_true, Nat.zero_add] at *
    · rw [if_neg fun h => hfamily h.2.2, if_neg fun h => hfamily h.2.2,
        if_neg fun h => hfamily h.2]
  · rw [if_neg fun h => hlong h.2.1, if_neg fun h => hlong h.2.1, if_neg fun h => hlong h.1]

/-- The loop over the attributes of a message finds what the first one says that says anything. -/
theorem attributesFrom_encode {as : List Attribute} {fuel : Nat}
    (hdrop : rsp.drop offset = as.flatMap Attribute.encode) (hoffset : offset ≤ rsp.length)
    (hmsg : 20 + msgLen = rsp.length) (hsize : rsp.length ≤ 65507)
    (hfuel : rsp.length < offset + fuel) :
    attributesFrom rsp msgLen fuel offset = as.findSome? Attribute.mapping := by
  induction as generalizing offset fuel with
  | nil =>
    have hend : rsp.length ≤ offset := List.drop_eq_nil_iff.1 hdrop
    rcases fuel with _ | fuel
    · rfl
    · rw [attributesFrom_succ, if_neg fun h => by omega]
      rfl
  | cons a as ih =>
    obtain ⟨fuel, rfl⟩ : ∃ n, fuel = n + 1 := ⟨fuel - 1, by omega⟩
    rw [List.flatMap_cons] at hdrop
    have hlen : rsp.length - offset = 4 + padded a.value.length + (as.flatMap Attribute.encode).length := by
      rw [← length_encode, ← List.length_append, ← hdrop, List.length_drop]
    have hvalue : a.value.length ≤ padded a.value.length := by
      rw [padded_eq]
      exact Nat.le_add_right _ _
    have htype : word16 rsp offset = a.type := by
      rw [← Nat.add_zero offset, ← word16_drop, hdrop, word16_encode_type]
    have hvlen : word16 rsp (offset + 2) = a.value.length := by
      rw [← word16_drop, hdrop, word16_encode_length]
    have hval : (offset + 4) % 65536 = offset + 4 := Nat.mod_eq_of_lt (by omega)
    have hread : attributeAt rsp a.type a.value.length (offset + 4) = a.mapping := by
      rw [← attributeAt_drop, hdrop, attributeAt_encode]
    have hnext : rsp.drop (offset + 4 + padded a.value.length) = as.flatMap Attribute.encode := by
      rw [Nat.add_assoc, ← List.drop_drop, hdrop, ← length_encode]
      exact List.drop_left
    rw [attributesFrom_succ, if_pos ⟨by omega, by omega⟩, htype, hvlen, hval, if_neg (by omega), hread,
      ih hnext (by omega) (by omega), List.findSome?_cons]
    rcases a.mapping with _ | mapped <;> rfl

theorem drop_encode_message (m : Message) : m.encode.drop 20 = m.body := by
  have hlen : (m.type ++ be16 m.body.length ++ magicCookie ++ m.transaction).length = 20 := by
    rw [List.length_append, List.length_append, List.length_append, m.length_type,
      m.length_transaction]
    rfl
  rw [Message.encode, ← hlen]
  exact List.drop_left

theorem length_encode_message (m : Message) : m.encode.length = 20 + m.body.length := by
  rw [Message.encode, List.length_append, List.length_append, List.length_append,
    List.length_append, m.length_type, m.length_transaction]
  rfl

/-- The length in the header of a message, and its cookie. -/
theorem header_encode (m : Message) :
    word16 m.encode 2 = m.body.length ∧ (m.encode.drop 4).take 4 = magicCookie := by
  have hshape : m.encode.drop 2 =
      be16 m.body.length ++ (magicCookie ++ (m.transaction ++ m.body)) := by
    rw [Message.encode, List.append_assoc, List.append_assoc, List.append_assoc,
      ← m.length_type]
    exact List.drop_left
  constructor
  · rw [← Nat.add_zero 2, ← word16_drop, hshape]
    exact word16_be16 m.length_lt
  · rw [show 4 = 2 + 2 from rfl, ← List.drop_drop, hshape]
    rfl

/-- Of a message that fits into a datagram, the mapping found is the one it says. -/
theorem extractMapping_encode (h : m.encode.length ≤ 65507) :
    extractMapping m.encode = m.mapping := by
  obtain ⟨hlen, hcookie⟩ := header_encode m
  have hsize := length_encode_message m
  rw [extractMapping, if_neg (by omega), if_neg (not_not_intro hcookie), hlen]
  exact attributesFrom_encode (drop_encode_message m) (by omega) hsize.symm h (by omega)

/-- Whatever the reply, nothing outside it is read; and of a message that fits into a datagram the
    outputs are what it says, or left as they are when it says nothing. -/
theorem decode_message :
    (∀ rsp ip port, ∃ out, decode rsp.length ip port rsp = some (out, rsp)) ∧
      ∀ m : Message, m.encode.length ≤ 65507 → ∀ ip port,
        decode m.encode.length ip port m.encode = some (.of ip port m.mapping, m.encode) := by
  constructor
  · intro rsp ip port
    exact ⟨_, decode_run ip port⟩
  · intro m hm ip port
    rw [decode_run, extractMapping_encode hm]

/-- An attribute that no datagram has room for. -/
def bulky : Attribute where
  type := 0x8022
  value := List.replicate 65508 0
  padding := []
  type_lt := by decide
  value_lt := by rw [List.length_replicate]; decide
  length_padding := by rw [List.length_replicate]; rfl

/-- An attribute with an address. -/
def plain : Attribute where
  type := 0x0001
  value := [0, 1, 0x1F, 0x90, 10, 0, 0, 1]
  padding := []
  type_lt := by decide
  value_lt := by decide
  length_padding := rfl

theorem length_bulky : bulky.encode.length = 65512 := by
  have hvalue : bulky.value.length = 65508 := List.length_replicate
  rw [length_encode, hvalue, padded_eq]

/-- A message in which the second attribute stands 4 bytes in front of the place 65536. -/
def wrapping : Message where
  type := [0x01, 0x01]
  transaction := List.replicate 12 0
  attributes := [bulky, plain]
  length_type := rfl
  length_transaction := rfl
  length_lt := by
    rw [List.flatMap_cons, List.length_append, length_bulky]
    decide

/-- The header is taken for its value, and the cookie for the address. -/
theorem extractMapping_wrapping :
    extractMapping wrapping.encode = some (mappedAddress wrapping.encode 0 [0, 0, 0, 0]) := by
  have hbody : wrapping.body.length = 65524 := by
    rw [Message.body, wrapping, List.flatMap_cons, List.length_append, length_bulky]
    rfl
  have hlen : wrapping.encode.length = 65544 := by rw [length_encode_message, hbody]
  obtain ⟨hsize, hcookie⟩ := header_encode wrapping
  have hfirst : wrapping.encode.drop 20 = bulky.encode ++ (plain.encode ++ []) :=
    drop_encode_message wrapping
  have hsecond : wrapping.encode.drop 65532 = plain.encode ++ [] := by
    rw [show 65532 = 20 + 65512 from rfl, ← List.drop_drop, hfirst, ← length_bulky]
    exact List.drop_left
  have htype : word16 wrapping.encode 20 = 0x8022 := by
    rw [show 20 = 20 + 0 from rfl, ← word16_drop, hfirst, word16_encode_type]
    rfl
  have hvlen : word16 wrapping.encode (20 + 2) = 65508 := by
    rw [← word16_drop, hfirst, word16_encode_length, bulky, List.length_replicate]
  have htype' : word16 wrapping.encode 65532 = 1 := by
    rw [show 65532 = 65532 + 0 from rfl, ← word16_drop, hsecond, word16_encode_type]
    rfl
  have hvlen' : word16 wrapping.encode (65532 + 2) = 8 := by
    rw [← word16_drop, hsecond, word16_encode_length]
    rfl
  have hnone : attributeAt wrapping.encode 0x8022 65508 24 = none := by
    rw [attributeAt, if_neg (by omega), if_neg (by omega)]
  have hfound : attributeAt wrapping.encode 1 8 0 =
      some (mappedAddress wrapping.encode 0 [0, 0, 0, 0]) := by
    rw [attributeAt, if_neg (by omega), if_pos ⟨rfl, Nat.le_refl 8, rfl⟩]
  have hstep : ∀ fuel, attributesFrom wrapping.encode 65524 (fuel + 1) 20 =
      attributesFrom wrapping.encode 65524 fuel 65532 := by
    intro fuel
    refine attributesFrom_succ.trans ?_
    rw [hlen, if_pos (by omega), htype, hvlen, if_neg (by omega)]
    exact congrArg (Option.or · _) hnone
  have hlast : ∀ fuel, attributesFrom wrapping.encode 65524 (fuel + 1) 65532 =
      some (mappedAddress wrapping.encode 0 [0, 0, 0, 0]) := by
    intro fuel
    refine attributesFrom_succ.trans ?_
    rw [hlen, if_pos (by omega), htype', hvlen', if_neg (by omega)]
    exact congrArg (Option.or · _) hfound
  obtain ⟨fuel, hfuel⟩ : ∃ n, wrapping.encode.length = n + 1 := ⟨65543, hlen⟩
  rw [extractMapping, if_neg (by omega), if_neg (not_not_intro hcookie), hsize, hbody, hstep, hfuel]
  exact hlast fuel

/-- So what a message says is not found in all of them. -/
theorem decode_wraps :
    ¬∀ (m : Message) (ip : Bytes) (port : Nat),
      decode m.encode.length ip port m.encode = some (.of ip port m.mapping, m.encode) := by
  intro h
  have hall := h wrapping [] 0
  rw [decode_run, extractMapping_wrapping] at hall
  have hip := congrArg Decoded.ip (Prod.mk.inj (Option.some.inj hall)).1
  have hsaid : wrapping.mapping = some ⟨⟨10, 0, 0, 1⟩, 8080⟩ := by
    rw [Message.mapping, wrapping, List.findSome?_cons, List.findSome?_cons]
    have hbulky : bulky.mapping = none := by
      have hxor : bulky.type ≠ 0x0020 := by decide
      have hplain : bulky.type ≠ 0x0001 := by decide
      rw [Attribute.mapping, if_neg hxor, if_neg hplain, ite_self]
    rw [hbulky]
    rfl
  rw [hsaid] at hip
  have hcookie : (mappedAddress wrapping.encode 0 [0, 0, 0, 0]).addr = ⟨0x21, 0x12, 0xA4, 0x42⟩ := rfl
  rw [Decoded.of, Decoded.of, hcookie] at hip
  exact absurd hip (by decide)

end StunClient

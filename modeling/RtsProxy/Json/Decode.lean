import RtsProxy.Text.Number
import RtsProxy.Text.Utf8
import Mathlib.Data.List.GetD

/-!
# The decoder of the JSON library

`decode`, the automaton by which the serializer tells what is UTF-8: one table for the types of the
bytes, and one for the next states.

* `accepts_iff`: it accepts UTF-8, and nothing else;
* `decodes_of_encoded`: the code points that it finds;
* `viable_iff`: it rejects at the first byte with which no text of UTF-8 goes on.
-/

open Text

namespace Json

/-! ## The decoder -/

/-- The types of the bytes, the first part of `utf8d`. -/
def byteTypes : List UInt8 :=
  List.replicate 128 0 ++ List.replicate 16 1 ++ List.replicate 16 9 ++ List.replicate 32 7 ++
  [8, 8] ++ List.replicate 30 2 ++
  [0xA, 3, 3, 3, 3, 3, 3, 3, 3, 3, 3, 3, 3, 4, 3, 3] ++
  [0xB, 6, 6, 6, 5, 8, 8, 8, 8, 8, 8, 8, 8, 8, 8, 8]

/-- The next states, for each state by the types: the second part of `utf8d`. -/
def transitions : List UInt8 :=
  [0, 1, 2, 3, 5, 8, 7, 1, 1, 1, 4, 6, 1, 1, 1, 1] ++
  [1, 1, 1, 1, 1, 1, 1, 1, 1, 1, 1, 1, 1, 1, 1, 1, 1, 0, 1, 1, 1, 1, 1, 0, 1, 0, 1, 1, 1, 1, 1, 1] ++
  [1, 2, 1, 1, 1, 1, 1, 2, 1, 2, 1, 1, 1, 1, 1, 1, 1, 1, 1, 1, 1, 1, 1, 2, 1, 1, 1, 1, 1, 1, 1, 1] ++
  [1, 2, 1, 1, 1, 1, 1, 1, 1, 2, 1, 1, 1, 1, 1, 1, 1, 1, 1, 1, 1, 1, 1, 3, 1, 3, 1, 1, 1, 1, 1, 1] ++
  [1, 3, 1, 1, 1, 1, 1, 3, 1, 3, 1, 1, 1, 1, 1, 1, 1, 3, 1, 1, 1, 1, 1, 1, 1, 1, 1, 1, 1, 1, 1, 1]

@[inherit_doc byteTypes]
def utf8d : List UInt8 := byteTypes ++ transitions

/-- The state of the decoder: `UTF8_ACCEPT` is 0, `UTF8_REJECT` is 1. -/
structure Decoder where
  state : UInt8 := 0
  codepoint : UInt32 := 0
  deriving DecidableEq, Repr

/-- The class of a byte. -/
def byteType (byte : UInt8) : UInt8 := utf8d.getD byte.toNat 0

/-- The state behind a byte. -/
def nextState (state byte : UInt8) : UInt8 :=
  utf8d.getD (256 + state.toNat * 16 + (byteType byte).toNat) 0

/-- `decode` -/
def decode (d : Decoder) (byte : UInt8) : Decoder where
  codepoint :=
    if d.state ≠ 0 then (byte.toUInt32 &&& (0x3F : UInt32)) ||| (d.codepoint <<< (6 : UInt32))
    else ((0xFF : UInt32) >>> (byteType byte).toUInt32) &&& byte.toUInt32
  state := nextState d.state byte

/-! ### What the table says -/

/-- The type of a byte, by its range. -/
def typeOf (byte : UInt8) : UInt8 :=
  if byte < 128 then 0
  else if byte < 144 then 1
  else if byte < 160 then 9
  else if byte < 192 then 7
  else if byte < 194 then 8
  else if byte < 224 then 2
  else if byte = 224 then 10
  else if byte = 237 then 4
  else if byte < 240 then 3
  else if byte = 240 then 11
  else if byte < 244 then 6
  else if byte = 244 then 5
  else 8

theorem byteTypes_eq : byteTypes = (List.range 256).map fun n => typeOf (UInt8.ofNat n) := by
  decide +kernel

theorem byteType_eq (byte : UInt8) : byteType byte = typeOf byte := by
  have hlt : byte.toNat < 256 := byte.toNat_lt
  rw [byteType, utf8d, List.getD_append _ _ _ _ (by rw [byteTypes_eq]; simpa using hlt), byteTypes_eq,
    List.getD_eq_getElem _ _ (by simpa using hlt)]
  simp

theorem nextState_eq (state byte : UInt8) :
    nextState state byte = transitions.getD (state.toNat * 16 + (typeOf byte).toNat) 0 := by
  have hlen : byteTypes.length = 256 := by rw [byteTypes_eq, List.length_map, List.length_range]
  rw [nextState, utf8d, byteType_eq, Nat.add_assoc]
  generalize state.toNat * 16 + (typeOf byte).toNat = i
  rw [List.getD_append_right _ _ _ _ (hlen.trans_le (Nat.le_add_right 256 i)), hlen,
    Nat.add_sub_cancel_left]

theorem forall_byte {P : UInt8 → Prop} (h : ∀ n < 256, P (UInt8.ofNat n)) (byte : UInt8) :
    P byte := by
  simpa using h byte.toNat byte.toNat_lt

/-- The state behind the first byte of a character. -/
def firstState (byte : UInt8) : UInt8 :=
  if byte.toNat < 128 then 0
  else if byte.toNat < 194 then 1
  else if byte.toNat < 224 then 2
  else if byte.toNat = 224 then 4
  else if byte.toNat = 237 then 5
  else if byte.toNat < 240 then 3
  else if byte.toNat = 240 then 6
  else if byte.toNat < 244 then 7
  else if byte.toNat = 244 then 8
  else 1

theorem nextState_accept (byte : UInt8) : nextState 0 byte = firstState byte := by
  rw [nextState_eq]
  revert byte
  exact forall_byte (by decide +kernel)

theorem nextState_reject (byte : UInt8) : nextState 1 byte = 1 := by
  rw [nextState_eq]
  revert byte
  exact forall_byte (by decide +kernel)

/-- The bytes that go on from a state inside a character, and the state behind them. -/
def tailRules : List (UInt8 × Nat × Nat × UInt8) :=
  [(2, 128, 192, 0), (3, 128, 192, 2), (4, 160, 192, 2), (5, 128, 160, 2), (6, 144, 192, 3),
    (7, 128, 192, 3), (8, 128, 144, 3)]

theorem nextState_tail : ∀ rule ∈ tailRules, ∀ byte : UInt8, nextState rule.1 byte =
    if rule.2.1 ≤ byte.toNat ∧ byte.toNat < rule.2.2.1 then rule.2.2.2 else 1 := by
  have hrows : ∀ rule ∈ tailRules, ∀ n < 256,
      transitions.getD (rule.1.toNat * 16 + (typeOf (UInt8.ofNat n)).toNat) 0 =
        if rule.2.1 ≤ (UInt8.ofNat n).toNat ∧ (UInt8.ofNat n).toNat < rule.2.2.1 then rule.2.2.2
        else 1 := by
    decide +kernel
  intro rule hrule byte
  rw [nextState_eq]
  revert byte
  exact forall_byte (hrows rule hrule)

/-! ### What the automaton accepts -/

/-- The bytes take the automaton from a state to `UTF8_ACCEPT`. -/
def Accepts (state : UInt8) (s : Bytes) : Prop := s.foldl nextState state = 0

variable {s t : Bytes} {n : Nat} {d : Decoder}

theorem state_foldl_decode (s : Bytes) (d : Decoder) :
    (s.foldl decode d).state = s.foldl nextState d.state := by
  induction s generalizing d with
  | nil => rfl
  | cons b s ih => exact ih (decode d b)

theorem foldl_reject (s : Bytes) : s.foldl nextState 1 = 1 := by
  induction s with
  | nil => rfl
  | cons b s ih => rw [List.foldl_cons, nextState_reject, ih]

theorem not_accepts_reject : ¬Accepts 1 s := by
  rw [Accepts, foldl_reject]
  decide

theorem accepts_tail {state next : UInt8} {low high : Nat}
    (h : (state, low, high, next) ∈ tailRules) : Accepts state s ↔
      ∃ b t, s = b :: t ∧ (low ≤ b.toNat ∧ b.toNat < high) ∧ Accepts next t := by
  rcases s with _ | ⟨b, t⟩
  · have hne : ∀ rule ∈ tailRules, rule.1 ≠ 0 := by decide
    simpa [Accepts] using hne _ h
  · rw [Accepts, List.foldl_cons, nextState_tail _ h]
    constructor
    · intro haccept
      split at haccept
      · rename_i hb
        exact ⟨b, t, rfl, hb, haccept⟩
      · exact absurd haccept not_accepts_reject
    · rintro ⟨b, t, hs, hb, haccept⟩
      obtain ⟨rfl, rfl⟩ := List.cons.inj hs
      rw [if_pos hb]
      exact haccept

/-- The second byte of three is in the range that keeps the code point long enough, and away from
    the surrogates. -/
theorem encoded_three_iff {a b c : UInt8} (ha : 224 ≤ a.toNat ∧ a.toNat < 240) :
    (∃ n, Encoded [a, b, c] n) ↔ (IsTail b ∧ (a.toNat = 224 → 160 ≤ b.toNat) ∧
      (a.toNat = 237 → b.toNat < 160)) ∧ IsTail c := by
  constructor
  · rintro ⟨n, h⟩
    cases h with
    | three ha hb hc hn hlong hvalid =>
      refine ⟨⟨hb, ?_, ?_⟩, hc⟩
      all_goals
        unfold IsTail at hb hc
        omega
  · rintro ⟨⟨hb, hlow, hhigh⟩, hc⟩
    refine ⟨_, .three ha hb hc rfl ?_ ?_⟩
    all_goals
      unfold IsTail at hb hc
      omega

/-- The second byte of four keeps the code point long enough, and in range. -/
theorem encoded_four_iff {a b c d : UInt8} (ha : 240 ≤ a.toNat ∧ a.toNat < 248) :
    (∃ n, Encoded [a, b, c, d] n) ↔ a.toNat < 245 ∧ (IsTail b ∧ (a.toNat = 240 → 144 ≤ b.toNat) ∧
      (a.toNat = 244 → b.toNat < 144)) ∧ IsTail c ∧ IsTail d := by
  constructor
  · rintro ⟨n, h⟩
    cases h with
    | four ha hb hc hd hn hlong hvalid =>
      refine ⟨?_, ⟨hb, ?_, ?_⟩, hc, hd⟩
      all_goals
        unfold IsTail at hb hc hd
        omega
  · rintro ⟨ha', ⟨hb, hlow, hhigh⟩, hc, hd⟩
    refine ⟨_, .four ha hb hc hd rfl ?_ ?_⟩
    all_goals
      unfold IsTail at hb hc hd
      omega

/-- One byte, or two, are still to come. -/
theorem accepts_two : Accepts 2 s ↔ ∃ b t, s = b :: t ∧ IsTail b ∧ Accepts 0 t :=
  accepts_tail (by decide : (2, 128, 192, 0) ∈ tailRules)

theorem accepts_three : Accepts 3 s ↔ ∃ b c t, s = b :: c :: t ∧ IsTail b ∧ IsTail c ∧
    Accepts 0 t := by
  rw [accepts_tail (by decide : (3, 128, 192, 2) ∈ tailRules)]
  constructor
  · rintro ⟨b, t, rfl, hb, ht⟩
    obtain ⟨c, t, rfl, hc, ht⟩ := accepts_two.1 ht
    exact ⟨b, c, t, rfl, hb, hc, ht⟩
  · rintro ⟨b, c, t, rfl, hb, hc, ht⟩
    exact ⟨b, c :: t, rfl, hb, accepts_two.2 ⟨c, t, rfl, hc, ht⟩⟩

theorem firstState_two {a : UInt8} (ha : 194 ≤ a.toNat ∧ a.toNat < 224) : firstState a = 2 := by
  rw [firstState, if_neg (by omega), if_neg (by omega), if_pos ha.2]

/-- What may follow the first byte of two, three or four. -/
theorem accepts_firstState_two {a : UInt8} (ha : 194 ≤ a.toNat ∧ a.toNat < 224) :
    Accepts (firstState a) s ↔ ∃ b t, s = b :: t ∧ (∃ n, Encoded [a, b] n) ∧ Accepts 0 t := by
  rw [firstState_two ha, accepts_two]
  refine exists_congr fun b => exists_congr fun t => and_congr_right fun _ => and_congr_left fun _ => ?_
  constructor
  · exact fun hb => ⟨_, .two ha hb⟩
  · rintro ⟨n, h⟩
    cases h
    assumption

theorem firstState_three {a : UInt8} (ha : 224 ≤ a.toNat ∧ a.toNat < 240) :
    ∃ low high, (firstState a, low, high, 2) ∈ tailRules ∧
      ∀ b : UInt8, low ≤ b.toNat ∧ b.toNat < high ↔ IsTail b ∧ (a.toNat = 224 → 160 ≤ b.toNat) ∧
        (a.toNat = 237 → b.toNat < 160) := by
  simp only [IsTail]
  rw [firstState, if_neg (by omega), if_neg (by omega), if_neg (by omega)]
  by_cases hlow : a.toNat = 224
  · exact ⟨160, 192, by rw [if_pos hlow]; decide, fun b => by omega⟩
  by_cases hhigh : a.toNat = 237
  · exact ⟨128, 160, by rw [if_neg hlow, if_pos hhigh]; decide, fun b => by omega⟩
  · exact ⟨128, 192, by rw [if_neg hlow, if_neg hhigh, if_pos ha.2]; decide, fun b => by omega⟩

theorem accepts_firstState_three {a : UInt8} (ha : 224 ≤ a.toNat ∧ a.toNat < 240) :
    Accepts (firstState a) s ↔
      ∃ b c t, s = b :: c :: t ∧ (∃ n, Encoded [a, b, c] n) ∧ Accepts 0 t := by
  obtain ⟨low, high, hrule, hrange⟩ := firstState_three ha
  rw [accepts_tail hrule]
  constructor
  · rintro ⟨b, t, rfl, hb, ht⟩
    obtain ⟨c, t, rfl, hc, ht⟩ := accepts_two.1 ht
    exact ⟨b, c, t, rfl, (encoded_three_iff ha).2 ⟨(hrange b).1 hb, hc⟩, ht⟩
  · rintro ⟨b, c, t, rfl, h, ht⟩
    obtain ⟨hb, hc⟩ := (encoded_three_iff ha).1 h
    exact ⟨b, c :: t, rfl, (hrange b).2 hb, accepts_two.2 ⟨c, t, rfl, hc, ht⟩⟩

theorem firstState_four {a : UInt8} (ha : 240 ≤ a.toNat ∧ a.toNat < 245) :
    ∃ low high, (firstState a, low, high, 3) ∈ tailRules ∧
      ∀ b : UInt8, low ≤ b.toNat ∧ b.toNat < high ↔ IsTail b ∧ (a.toNat = 240 → 144 ≤ b.toNat) ∧
        (a.toNat = 244 → b.toNat < 144) := by
  simp only [IsTail]
  rw [firstState, if_neg (by omega), if_neg (by omega), if_neg (by omega), if_neg (by omega),
    if_neg (by omega), if_neg (by omega)]
  by_cases hlow : a.toNat = 240
  · exact ⟨144, 192, by rw [if_pos hlow]; decide, fun b => by omega⟩
  by_cases hhigh : a.toNat < 244
  · exact ⟨128, 192, by rw [if_neg hlow, if_pos hhigh]; decide, fun b => by omega⟩
  · exact ⟨128, 144, by rw [if_neg hlow, if_neg hhigh, if_pos (by omega)]; decide,
      fun b => by omega⟩

theorem accepts_firstState_four {a : UInt8} (ha : 240 ≤ a.toNat ∧ a.toNat < 245) :
    Accepts (firstState a) s ↔
      ∃ b c d t, s = b :: c :: d :: t ∧ (∃ n, Encoded [a, b, c, d] n) ∧ Accepts 0 t := by
  obtain ⟨low, high, hrule, hrange⟩ := firstState_four ha
  rw [accepts_tail hrule]
  constructor
  · rintro ⟨b, t, rfl, hb, ht⟩
    obtain ⟨c, d, t, rfl, hc, hd, ht⟩ := accepts_three.1 ht
    exact ⟨b, c, d, t, rfl,
      (encoded_four_iff ⟨ha.1, by omega⟩).2 ⟨ha.2, (hrange b).1 hb, hc, hd⟩, ht⟩
  · rintro ⟨b, c, d, t, rfl, h, ht⟩
    obtain ⟨-, hb, hc, hd⟩ := (encoded_four_iff ⟨ha.1, by omega⟩).1 h
    exact ⟨b, c :: d :: t, rfl, (hrange b).2 hb, accepts_three.2 ⟨c, d, t, rfl, hc, hd, ht⟩⟩

/-- The state behind the first byte of a character, and what may follow it. -/
theorem accepts_cons (a : UInt8) : Accepts 0 (a :: s) ↔ Accepts (firstState a) s := by
  rw [Accepts, List.foldl_cons, nextState_accept, Accepts]

/-- The automaton is back at its start behind a character. -/
theorem accepts_append (h : Encoded s n) (ht : Accepts 0 t) : Accepts 0 (s ++ t) := by
  have hn : ∃ n, Encoded s n := ⟨n, h⟩
  cases h with
  | one ha =>
    rw [List.singleton_append, accepts_cons, firstState, if_pos ha]
    exact ht
  | two ha hb => exact (accepts_cons _).2 ((accepts_firstState_two ha).2 ⟨_, _, rfl, hn, ht⟩)
  | three ha hb hc =>
    exact (accepts_cons _).2 ((accepts_firstState_three ha).2 ⟨_, _, _, rfl, hn, ht⟩)
  | four ha hb hc hd =>
    have ha' := ((encoded_four_iff ha).1 hn).1
    exact (accepts_cons _).2 ((accepts_firstState_four ⟨ha.1, ha'⟩).2 ⟨_, _, _, _, rfl, hn, ht⟩)

/-- A text that is accepted starts with a character. -/
theorem exists_encoded_of_accepts (hs : s ≠ []) (h : Accepts 0 s) :
    ∃ first t n, s = first ++ t ∧ Encoded first n ∧ Accepts 0 t := by
  obtain ⟨a, s, rfl⟩ := List.exists_cons_of_ne_nil hs
  rw [accepts_cons] at h
  have hlt : a.toNat < 256 := a.toNat_lt
  rcases (by omega : a.toNat < 128 ∨ (194 ≤ a.toNat ∧ a.toNat < 224) ∨
    (224 ≤ a.toNat ∧ a.toNat < 240) ∨ (240 ≤ a.toNat ∧ a.toNat < 245) ∨
    ((128 ≤ a.toNat ∧ a.toNat < 194) ∨ 245 ≤ a.toNat)) with ha | ha | ha | ha | ha
  · rw [firstState, if_pos ha] at h
    exact ⟨[a], s, _, rfl, .one ha, h⟩
  · obtain ⟨b, t, rfl, ⟨n, hn⟩, ht⟩ := (accepts_firstState_two ha).1 h
    exact ⟨[a, b], t, n, rfl, hn, ht⟩
  · obtain ⟨b, c, t, rfl, ⟨n, hn⟩, ht⟩ := (accepts_firstState_three ha).1 h
    exact ⟨[a, b, c], t, n, rfl, hn, ht⟩
  · obtain ⟨b, c, d, t, rfl, ⟨n, hn⟩, ht⟩ := (accepts_firstState_four ha).1 h
    exact ⟨[a, b, c, d], t, n, rfl, hn, ht⟩
  · have hfirst : firstState a = 1 := by
      rw [firstState, if_neg (by omega)]
      rcases ha with ha | ha
      · rw [if_pos ha.2]
      · rw [if_neg (by omega), if_neg (by omega), if_neg (by omega), if_neg (by omega),
          if_neg (by omega), if_neg (by omega), if_neg (by omega), if_neg (by omega)]
    rw [hfirst] at h
    exact absurd h not_accepts_reject

/-- The automaton accepts UTF-8, and nothing else. -/
theorem accepts_iff : Accepts 0 s ↔ IsUtf8 s := by
  constructor
  · intro h
    induction hlen : s.length using Nat.strong_induction_on generalizing s with
    | _ k ih =>
      by_cases hs : s = []
      · exact hs ▸ isUtf8_nil
      · obtain ⟨first, t, n, rfl, hfirst, ht⟩ := exists_encoded_of_accepts hs h
        have hpos := List.length_pos_iff.2 hfirst.ne_nil
        rw [List.length_append] at hlen
        exact hfirst.isUtf8_append (ih t.length (by omega) ht rfl)
  · exact isUtf8_induction rfl fun s t n hs _ ht => accepts_append hs ht

instance (s : Bytes) : Decidable (IsUtf8 s) :=
  decidable_of_iff (s.foldl nextState 0 = 0) accepts_iff

/-! ### Where it rejects -/

theorem nextState_le (state byte : UInt8) : nextState state byte ≤ 8 := by
  have hall : ∀ x ∈ transitions, x ≤ 8 := by decide +kernel
  rw [nextState_eq]
  generalize state.toNat * 16 + (typeOf byte).toNat = i
  by_cases hi : i < transitions.length
  · rw [List.getD_eq_getElem _ _ hi]
    exact hall _ (List.getElem_mem hi)
  · rw [List.getD_eq_default _ _ (not_lt.1 hi)]
    decide

theorem foldl_nextState_le (s : Bytes) {state : UInt8} (h : state ≤ 8) :
    s.foldl nextState state ≤ 8 := by
  induction s generalizing state with
  | nil => exact h
  | cons b s ih => exact ih (nextState_le state b)

/-- From every state but that of rejection some bytes lead to acceptance. -/
theorem exists_accepts {state : UInt8} (hle : state ≤ 8) (hne : state ≠ 1) :
    ∃ more, Accepts state more := by
  have hall : ∀ k < 9, k ≠ 1 → ∃ more ∈ ([[], [128], [128, 128], [160, 128], [144, 128, 128],
      [128, 128, 128]] : List Bytes), more.foldl nextState (UInt8.ofNat k) = 0 := by
    decide +kernel
  have hlt : state.toNat < 9 := Nat.lt_succ_of_le hle
  obtain ⟨more, -, hmore⟩ := hall state.toNat hlt fun h => hne (UInt8.toNat_inj.1 h)
  rw [UInt8.ofNat_toNat] at hmore
  exact ⟨more, hmore⟩

/-- The automaton has not rejected exactly as long as the text may still become UTF-8. -/
theorem viable_iff (s : Bytes) : s.foldl nextState 0 ≠ 1 ↔ ∃ more, IsUtf8 (s ++ more) := by
  constructor
  · intro h
    obtain ⟨more, hmore⟩ := exists_accepts (foldl_nextState_le s (by decide)) h
    refine ⟨more, accepts_iff.1 ?_⟩
    rwa [Accepts, List.foldl_append]
  · rintro ⟨more, hmore⟩ hreject
    have haccept := accepts_iff.2 hmore
    rw [Accepts, List.foldl_append, hreject] at haccept
    exact not_accepts_reject haccept

/-! ### Texts put together -/

/-- What stands behind a text of UTF-8 decides. -/
theorem isUtf8_append_iff (hs : IsUtf8 s) : IsUtf8 (s ++ t) ↔ IsUtf8 t := by
  have haccept : s.foldl nextState 0 = 0 := accepts_iff.2 hs
  rw [← accepts_iff, ← accepts_iff, Accepts, List.foldl_append, haccept, Accepts]

/-- A byte of ASCII stands between two characters. -/
theorem isUtf8_append_cons_iff {b : UInt8} (hb : b.toNat < 128) :
    IsUtf8 (s ++ b :: t) ↔ IsUtf8 s ∧ IsUtf8 t := by
  constructor
  · intro h
    suffices hs : IsUtf8 s from ⟨hs, by
      rw [isUtf8_append_iff hs] at h
      exact (isUtf8_append_iff (isUtf8_of_ascii (by simpa using hb)) (s := [b])).1 h⟩
    -- inside a character the byte would be rejected
    have hrules : ∀ k < 9, k ≠ 0 → k ≠ 1 →
        ∃ rule ∈ tailRules, rule.1 = UInt8.ofNat k ∧ 128 ≤ rule.2.1 := by decide
    have haccept := accepts_iff.2 h
    rw [Accepts, List.foldl_append, List.foldl_cons] at haccept
    have hle := foldl_nextState_le s (by decide : (0 : UInt8) ≤ 8)
    rw [← accepts_iff, Accepts]
    generalize s.foldl nextState 0 = state at haccept hle
    by_contra hzero
    by_cases hone : state = 1
    · rw [hone, nextState_reject] at haccept
      exact not_accepts_reject haccept
    · obtain ⟨rule, hrule, hstate, hlow⟩ := hrules state.toNat (Nat.lt_succ_of_le hle)
        (fun h => hzero (UInt8.toNat_inj.1 h)) fun h => hone (UInt8.toNat_inj.1 h)
      rw [UInt8.ofNat_toNat] at hstate
      rw [← hstate, nextState_tail rule hrule, if_neg (by omega)] at haccept
      exact not_accepts_reject haccept
  · rintro ⟨hs, ht⟩
    exact isUtf8_append hs ((Encoded.one hb).isUtf8_append ht)

/-! ### Code points -/

/-- None of the bytes ends a character or is rejected. -/
def Inside (d : Decoder) : Bytes → Prop
  | [] => True
  | b :: s => ((decode d b).state ≠ 0 ∧ (decode d b).state ≠ 1) ∧ Inside (decode d b) s

/-- What the first byte of a character says of its code point. -/
theorem codepoint_first (a : UInt8) (hd : d.state = 0) :
    (a.toNat < 128 → (decode d a).codepoint.toNat = a.toNat) ∧
    (194 ≤ a.toNat ∧ a.toNat < 224 → (decode d a).codepoint.toNat = a.toNat - 192) ∧
    (224 ≤ a.toNat ∧ a.toNat < 240 → (decode d a).codepoint.toNat = a.toNat - 224) ∧
    (240 ≤ a.toNat ∧ a.toNat < 245 → (decode d a).codepoint.toNat = a.toNat - 240) := by
  have hcode : (decode d a).codepoint =
      ((0xFF : UInt32) >>> (typeOf a).toUInt32) &&& a.toUInt32 := by
    rw [← byteType_eq]
    exact if_neg (not_not_intro hd)
  rw [hcode]
  clear hcode
  revert a
  exact forall_byte (by decide +kernel)

/-- Every other byte adds six bits. -/
theorem codepoint_tail {b : UInt8} (hb : IsTail b) (hd : d.state ≠ 0)
    (hlt : d.codepoint.toNat < 2 ^ 26) :
    (decode d b).codepoint.toNat = d.codepoint.toNat * 64 + (b.toNat - 128) := by
  have hcode : (decode d b).codepoint =
      (b.toUInt32 &&& (0x3F : UInt32)) ||| (d.codepoint <<< (6 : UInt32)) := if_pos hd
  have hmask : b.toNat &&& 63 = b.toNat - 128 := by
    rw [Nat.and_two_pow_sub_one_eq_mod b.toNat 6]
    unfold IsTail at hb
    omega
  have hsix : b.toNat - 128 < 2 ^ 6 := by
    unfold IsTail at hb
    omega
  rw [hcode, UInt32.toNat_or, UInt32.toNat_and, UInt32.toNat_shiftLeft, UInt8.toNat_toUInt32]
  change (b.toNat &&& 63) ||| (d.codepoint.toNat <<< 6) % 2 ^ 32 = _
  rw [hmask, Nat.shiftLeft_eq, Nat.mod_eq_of_lt (by omega), Nat.or_comm, Nat.mul_comm,
    ← Nat.two_pow_add_eq_or_of_lt hsix]

/-- What becomes of the bytes of a character: none but the last one ends it, and then the code point
    is known. -/
structure Decodes (d : Decoder) (init : Bytes) (last : UInt8) (n : Nat) : Prop where
  inside : Inside d init
  state : (decode (init.foldl decode d) last).state = 0
  codepoint : (decode (init.foldl decode d) last).codepoint.toNat = n

theorem decode_tail {state next : UInt8} {low high : Nat} {b : UInt8}
    (hrule : (state, low, high, next) ∈ tailRules) (hd : d.state = state)
    (hb : low ≤ b.toNat ∧ b.toNat < high) : (decode d b).state = next := by
  change nextState d.state b = next
  rw [hd, nextState_tail _ hrule b, if_pos hb]

theorem decodes_of_encoded (h : Encoded s n) (hd : d.state = 0) :
    ∃ init last, s = init ++ [last] ∧ Decodes d init last n ∧ (128 ≤ n ∨ init = []) := by
  have hfirst : ∀ a, (decode d a).state = firstState a := fun a => by
    rw [← nextState_accept, ← hd]
    rfl
  have hrules : ∀ rule ∈ tailRules, rule.1 ≠ 0 ∧ rule.1 ≠ 1 := by decide
  have hex : ∃ n, Encoded s n := ⟨n, h⟩
  cases h with
  | @one a ha =>
    refine ⟨[], a, rfl, ⟨trivial, ?_, (codepoint_first a hd).1 ha⟩, .inr rfl⟩
    exact (hfirst a).trans (by rw [firstState, if_pos ha])
  | @two a b ha hb =>
    have hrule : ((2 : UInt8), 128, 192, (0 : UInt8)) ∈ tailRules := by decide
    have hstate : (decode d a).state = 2 := (hfirst a).trans (firstState_two ha)
    have hcode := (codepoint_first a hd).2.1 ha
    refine ⟨[a], b, rfl, ⟨⟨by rw [hstate]; decide, trivial⟩, decode_tail hrule hstate hb, ?_⟩,
      .inl ?_⟩
    · exact (codepoint_tail (d := decode d a) hb (by rw [hstate]; decide) (by omega)).trans
        (by rw [hcode])
    · omega
  | @three a b c n ha hb hc hn hlong =>
    obtain ⟨low, high, hrule, hrange⟩ := firstState_three ha
    have hb' := (hrange b).2 ((encoded_three_iff ha).1 hex).1
    have hstate := hfirst a
    have hstate' := decode_tail hrule hstate hb'
    have hrule' : ((2 : UInt8), 128, 192, (0 : UInt8)) ∈ tailRules := by decide
    have hcode := (codepoint_first a hd).2.2.1 ha
    have hcode' := codepoint_tail hb (hstate ▸ (hrules _ hrule).1) (by omega)
    unfold IsTail at hb
    refine ⟨[a, b], c, rfl, ⟨⟨hstate ▸ hrules _ hrule, by rw [hstate']; decide, trivial⟩,
      decode_tail hrule' hstate' hc, ?_⟩, .inl (by omega)⟩
    exact (codepoint_tail (d := decode (decode d a) b) hc (by rw [hstate']; decide) (by omega)).trans
      (by rw [hcode', hcode, hn])
  | @four a b c e n ha hb hc he hn hlong =>
    obtain ⟨ha', hbrange, -⟩ := (encoded_four_iff ha).1 hex
    obtain ⟨low, high, hrule, hrange⟩ := firstState_four ⟨ha.1, ha'⟩
    have hb' := (hrange b).2 hbrange
    have hrule₃ : ((3 : UInt8), 128, 192, (2 : UInt8)) ∈ tailRules := by decide
    have hrule₂ : ((2 : UInt8), 128, 192, (0 : UInt8)) ∈ tailRules := by decide
    have hstate := hfirst a
    have hstate₃ := decode_tail hrule hstate hb'
    have hstate₂ := decode_tail hrule₃ hstate₃ hc
    have hcode := (codepoint_first a hd).2.2.2 ⟨ha.1, ha'⟩
    have hcode₃ := codepoint_tail hb (hstate ▸ (hrules _ hrule).1) (by omega)
    unfold IsTail at hb
    have hcode₂ := codepoint_tail hc (by rw [hstate₃]; decide) (by omega)
    unfold IsTail at hc
    refine ⟨[a, b, c], e, rfl, ⟨⟨hstate ▸ hrules _ hrule, by rw [hstate₃]; decide,
      by rw [hstate₂]; decide, trivial⟩, decode_tail hrule₂ hstate₂ he, ?_⟩, .inl (by omega)⟩
    exact (codepoint_tail (d := decode (decode (decode d a) b) c) he (by rw [hstate₂]; decide)
      (by omega)).trans
      (by rw [hcode₂, hcode₃, hcode, hn])

end Json

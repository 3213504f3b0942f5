import RtsProxy.Clients.Deframing

/-!
# What both kinds of sessions take off the same bytes

The loops over the bytes of the upstream differ in how they read the length of a body: one looks for
two spellings of the name of the field and reads an `int`, the other looks for the name in any case
and reads an `unsigned long`.

* `FramedAlike`: both find the same frames and messages in a stream, however it arrives;
* `LengthsAgree`: as far as messages are complete, both read the same length;
* `lengths_eq_iff`: they do so of header blocks in which one line announces a length;
* `framedAlike_iff`: both find the same exactly if the lengths agree, and then their loops take the
  same off.
-/

open Text Interleaved Connection

theorem Text.neg_le_stoi {text : Bytes} {n : Int} (h : stoi text = .ok n) :
    -(intLimit : Int) ≤ n := by
  rw [stoi, readSigned] at h
  split at h
  · cases h
  · split at h
    case isTrue hrange =>
      cases h
      exact hrange.1
    case isFalse => cases h

theorem Text.stoul_lt {text : Bytes} {n : Nat} (h : stoul text = .ok n) : n < wordSize := by
  rw [stoul] at h
  split at h
  · cases h
  · split at h
    case isTrue hlt =>
      cases h
      split
      · exact Nat.mod_lt _ (by decide)
      · exact hlt
    case isFalse => cases h

theorem RtspParser.neg_le_getContentLength (header : Bytes) :
    -(intLimit : Int) ≤ RtspParser.getContentLength header := by
  have hneg : -(intLimit : Int) ≤ 0 := by decide
  rw [RtspParser.getContentLength]
  split
  · exact hneg
  · extract_lets value
    split
    · exact hneg
    · split
      case h_1 n hn => exact neg_le_stoi hn
      case h_2 => exact hneg

variable {buf header more stream : Bytes} {x : Content} {k n : Nat} {parts parts' : List Bytes}

/-- No frame is complete at the start of a buffer, and no message of the size that the code
    computes. -/
def NoneComplete (wholeSize : Bytes → Nat) (buf : Bytes) : Prop :=
  frontFrame buf = none ∧ ∀ header ∈ frontHeader buf, buf.length < wholeSize header

/-! ## A session over HTTP -/

namespace RtspToHttpClient

/-- The size of a message, as the loop computes it. -/
def wholeSize (header : Bytes) : Nat :=
  (header.length + toSize (RtspParser.getContentLength header)) % wordSize

theorem frontContent_of_frame {channel : UInt8} {payload : Bytes}
    (h : frontFrame buf = some (channel, payload)) :
    frontContent buf = some (.frame channel payload, 4 + payload.length) := by
  rw [frontContent, h]

theorem frontContent_of_header (h : frontHeader buf = some header) : frontContent buf =
    if buf.length < wholeSize header then none
    else some (.message header
      ((buf.drop header.length).take (toSize (RtspParser.getContentLength header))),
      wholeSize header) := by
  rw [frontContent, (prefix_of_frontHeader h).2.1, frontMessage_eq, h, Option.bind_some]
  by_cases hshort : buf.length < wholeSize header
  · rw [if_pos hshort]
    exact if_pos hshort ▸ rfl
  · rw [if_neg hshort]
    exact if_neg hshort ▸ rfl

theorem frontContent_eq_none_iff : frontContent buf = none ↔ NoneComplete wholeSize buf := by
  rw [NoneComplete]
  rcases hframe : frontFrame buf with _ | ⟨channel, payload⟩
  · rcases hheader : frontHeader buf with _ | header
    · rw [frontContent, hframe, frontMessage_eq, hheader]
      exact iff_of_true rfl ⟨rfl, fun _ h => by cases h⟩
    · rw [frontContent_of_header hheader]
      by_cases hshort : buf.length < wholeSize header
      · rw [if_pos hshort]
        exact iff_of_true rfl ⟨rfl, fun _ h => by cases h; exact hshort⟩
      · rw [if_neg hshort]
        exact iff_of_false (fun h => by cases h) fun h => hshort (h.2 header rfl)
  · rw [frontContent_of_frame hframe]
    exact iff_of_false (fun h => by cases h) fun h => by cases h.1

theorem le_of_frontContent (h : frontContent buf = some (x, k)) : k ≤ buf.length := by
  rcases hframe : frontFrame buf with _ | ⟨channel, payload⟩
  · rcases hheader : frontHeader buf with _ | header
    · rw [frontContent, hframe, frontMessage_eq, hheader] at h
      cases h
    · rw [frontContent_of_header hheader] at h
      split at h
      case isTrue => cases h
      case isFalse hle =>
        cases h
        exact Nat.not_lt.1 hle
  · obtain ⟨-, hle⟩ := frontFrame_append hframe []
    rw [frontContent_of_frame hframe] at h
    cases h
    exact hle

/-- A length that is not negative is the length of the body. -/
theorem wholeSize_of_nonneg (hlen : header.length ≤ maxSize)
    (h : 0 ≤ RtspParser.getContentLength header) :
    toSize (RtspParser.getContentLength header) = (RtspParser.getContentLength header).toNat ∧
    wholeSize header = header.length + (RtspParser.getContentLength header).toNat := by
  have hlt := RtspParser.getContentLength_lt header
  have hmax : maxSize = 2 ^ 63 - 1 := rfl
  have hint : intLimit = 2 ^ 31 := rfl
  have hword : wordSize = 2 ^ 64 := rfl
  have hsize : toSize (RtspParser.getContentLength header) =
      (RtspParser.getContentLength header).toNat := by
    rw [toSize, Int.emod_eq_of_lt h (hlt.trans (by decide))]
  exact ⟨hsize, by rw [wholeSize, hsize, Nat.mod_eq_of_lt (by omega)]⟩

/-- A negative length makes the body all that is there, and the message shorter than its header
    block, or longer than any buffer. -/
theorem wholeSize_of_neg (hlen : header.length ≤ maxSize)
    (h : RtspParser.getContentLength header < 0) :
    maxSize < toSize (RtspParser.getContentLength header) ∧
    (wholeSize header < header.length ∨ maxSize < wholeSize header) := by
  have hle := RtspParser.neg_le_getContentLength header
  have hmax : maxSize = 2 ^ 63 - 1 := rfl
  have hint : intLimit = 2 ^ 31 := rfl
  have hword : wordSize = 2 ^ 64 := rfl
  have hsize : (toSize (RtspParser.getContentLength header) : Int) =
      wordSize + RtspParser.getContentLength header := by
    rw [toSize, ← Int.add_emod_left, Int.emod_eq_of_lt (by omega) (by omega), Int.toNat_of_nonneg]
    omega
  refine ⟨by omega, ?_⟩
  rw [wholeSize, hword]
  omega

end RtspToHttpClient

/-! ## A relayed session -/

namespace RtspToRtspClient

/-- The size of a message, as the loop computes it. -/
def wholeSize (header : Bytes) : Nat := (header.length + bodyLength header) % wordSize

theorem bodyLength_lt (header : Bytes) : bodyLength header < wordSize := by
  rw [bodyLength]
  split
  case h_1 n hn => exact stoul_lt hn
  case h_2 => decide

theorem frontContent_of_frame {channel : UInt8} {payload : Bytes}
    (h : frontFrame buf = some (channel, payload)) :
    frontContent buf = some (.frame channel payload, 4 + payload.length) := by
  rw [frontContent, h]

theorem frontContent_of_header (h : frontHeader buf = some header) : frontContent buf =
    if buf.length < wholeSize header then none
    else some (.message ((buf.take (wholeSize header)).take header.length)
      ((buf.take (wholeSize header)).drop header.length), wholeSize header) := by
  rw [frontContent, (prefix_of_frontHeader h).2.1, frontMessage_eq, h, Option.bind_some]
  by_cases hshort : buf.length < wholeSize header
  · rw [if_pos hshort]
    exact if_pos hshort ▸ rfl
  · have hlen : (buf.take (wholeSize header)).length = wholeSize header := by
      rw [List.length_take, Nat.min_eq_left (Nat.not_lt.1 hshort)]
    rw [if_neg hshort, ← wholeSize, if_neg hshort]
    dsimp only [Option.getD_some]
    rw [hlen]

theorem frontContent_eq_none_iff : frontContent buf = none ↔ NoneComplete wholeSize buf := by
  rw [NoneComplete]
  rcases hframe : frontFrame buf with _ | ⟨channel, payload⟩
  · rcases hheader : frontHeader buf with _ | header
    · rw [frontContent, hframe, frontMessage_eq, hheader]
      exact iff_of_true rfl ⟨rfl, fun _ h => by cases h⟩
    · rw [frontContent_of_header hheader]
      by_cases hshort : buf.length < wholeSize header
      · rw [if_pos hshort]
        exact iff_of_true rfl ⟨rfl, fun _ h => by cases h; exact hshort⟩
      · rw [if_neg hshort]
        exact iff_of_false (fun h => by cases h) fun h => hshort (h.2 header rfl)
  · rw [frontContent_of_frame hframe]
    exact iff_of_false (fun h => by cases h) fun h => by cases h.1

/-- What is complete stays what it is, whatever the lengths are. -/
theorem stable_frontContent : frontContent.Stable fun _ => True where
  append := by
    rintro buf more x k - h
    rcases hframe : frontFrame buf with _ | ⟨channel, payload⟩
    · rcases hheader : frontHeader buf with _ | header
      · rw [frontContent, hframe, frontMessage_eq, hheader] at h
        cases h
      · rw [frontContent_of_header hheader] at h
        rw [frontContent_of_header (frontHeader_append hheader more)]
        split at h
        case isTrue => cases h
        case isFalse hle =>
          cases h
          have hle := Nat.not_lt.1 hle
          refine ⟨?_, hle⟩
          rw [if_neg, List.take_append_of_le_length hle]
          rw [List.length_append]
          omega
    · obtain ⟨hframe', hle⟩ := frontFrame_append hframe more
      rw [frontContent_of_frame hframe] at h
      rw [frontContent_of_frame hframe']
      cases h
      exact ⟨rfl, hle⟩
  next _ _ := trivial

end RtspToRtspClient

/-! ## Both -/

/-- Both kinds of sessions find the same frames and messages in a stream, however it arrives at
    each. -/
def FramedAlike (stream : Bytes) : Prop :=
  ∀ parts parts' : List Bytes, parts.flatten = stream → parts'.flatten = stream →
    ∀ n, RtspToHttpClient.frontContent.items n [] parts =
      RtspToRtspClient.frontContent.items n [] parts'

/-- As far as messages are complete, both kinds of sessions read the same lengths. Only a length in
    the last of all header blocks may be negative for the one, and `0` for the other. -/
inductive LengthsAgree : Bytes → Prop
  | frame {buf : Bytes} {channel : UInt8} {payload : Bytes} :
    frontFrame buf = some (channel, payload) → LengthsAgree (buf.drop (4 + payload.length)) →
    LengthsAgree buf
  | message {buf header : Bytes} : frontHeader buf = some header →
    RtspParser.getContentLength header = RtspToRtspClient.bodyLength header →
    header.length + RtspToRtspClient.bodyLength header ≤ buf.length →
    LengthsAgree (buf.drop (header.length + RtspToRtspClient.bodyLength header)) →
    LengthsAgree buf
  | rest {buf : Bytes} : NoneComplete RtspToHttpClient.wholeSize buf →
    NoneComplete RtspToRtspClient.wholeSize buf → LengthsAgree buf
  | last {buf : Bytes} : frontHeader buf = some buf →
    RtspParser.getContentLength buf < 0 → RtspToRtspClient.bodyLength buf = 0 →
    RtspToHttpClient.wholeSize buf < buf.length →
    NoneComplete RtspToHttpClient.wholeSize (buf.drop (RtspToHttpClient.wholeSize buf)) →
    LengthsAgree buf

/-! ### The condition is enough -/

theorem length_drop_le_maxSize (h : buf.length ≤ maxSize) : (buf.drop k).length ≤ maxSize :=
  ((List.drop_suffix k buf).length_le).trans h

/-- Where a message of a session over HTTP is complete, either nothing is behind it, or its length is
    not negative. -/
theorem LengthsAgree.nonneg (h : LengthsAgree (buf ++ more)) (hheader : frontHeader buf = some header)
    (hle : RtspToHttpClient.wholeSize header ≤ buf.length) :
    more = [] ∨ 0 ≤ RtspParser.getContentLength header := by
  have hwhole := frontHeader_append hheader more
  rcases h with ⟨hframe, -⟩ | ⟨hheader', heq, -, -⟩ | ⟨⟨-, hshort⟩, -⟩ | ⟨hheader', -, -, -, -⟩
  · rw [frontHeader_of_frontFrame hframe] at hwhole
    cases hwhole
  · rw [hwhole] at hheader'
    cases hheader'
    exact .inr (heq ▸ Int.natCast_nonneg _)
  · have hlt := hshort header hwhole
    rw [List.length_append] at hlt
    omega
  · rw [hwhole] at hheader'
    cases hheader'
    have hlen := (prefix_of_frontHeader hheader).1.length_le
    rw [List.length_append] at hlen
    exact .inl (List.length_eq_zero_iff.1 (by omega))

/-- Where the lengths agree, both find the message with the body of this length. -/
theorem frontContent_of_lengths (hlen : buf.length ≤ maxSize) (hheader : frontHeader buf = some header)
    (heq : RtspParser.getContentLength header = RtspToRtspClient.bodyLength header)
    (hle : header.length + RtspToRtspClient.bodyLength header ≤ buf.length) :
    RtspToHttpClient.frontContent buf = some (.message header
      ((buf.drop header.length).take (RtspToRtspClient.bodyLength header)),
      header.length + RtspToRtspClient.bodyLength header) ∧
    RtspToRtspClient.frontContent buf = some (.message header
      ((buf.drop header.length).take (RtspToRtspClient.bodyLength header)),
      header.length + RtspToRtspClient.bodyLength header) := by
  have hnonneg : 0 ≤ RtspParser.getContentLength header := heq ▸ Int.natCast_nonneg _
  have hfit : header.length + RtspToRtspClient.bodyLength header < wordSize := by
    have hmax : maxSize = 2 ^ 63 - 1 := rfl
    have hword : wordSize = 2 ^ 64 := rfl
    omega
  have hnat : (RtspParser.getContentLength header).toNat = RtspToRtspClient.bodyLength header :=
    congrArg Int.toNat heq
  constructor
  · rw [RtspToHttpClient.frontContent_eq_cutter hlen fun header' h' => ?_, cutter_of_header hheader,
      hnat, if_neg (Nat.not_lt.2 hle)]
    rw [hheader] at h'
    cases h'
    exact hnonneg
  · rw [RtspToRtspClient.frontContent_eq_cutter fun header' h' => ?_, cutter_of_header hheader,
      if_neg (Nat.not_lt.2 hle)]
    rw [hheader] at h'
    cases h'
    exact hfit

/-- What is left of a stream whose lengths agree: such a stream, or nothing that is ever complete. -/
def Agreeing (stream : Bytes) : Prop :=
  stream.length ≤ maxSize ∧ (LengthsAgree stream ∨ NoneComplete RtspToHttpClient.wholeSize stream)

theorem RtspToHttpClient.stable_frontContent : RtspToHttpClient.frontContent.Stable Agreeing where
  append := by
    rintro buf more x k ⟨hlen, hgood⟩ h
    have hle := le_of_frontContent h
    refine ⟨?_, hle⟩
    rcases hframe : frontFrame buf with _ | ⟨channel, payload⟩
    · rcases hheader : frontHeader buf with _ | header
      · rw [frontContent, hframe, frontMessage_eq, hheader] at h
        cases h
      · rw [frontContent_of_header hheader] at h
        split at h
        case isTrue => cases h
        case isFalse hshort =>
          cases h
          have hnonneg : more = [] ∨ 0 ≤ RtspParser.getContentLength header := by
            rcases hgood with hagree | ⟨-, hnone⟩
            · exact hagree.nonneg hheader hle
            · have hlt := hnone header (frontHeader_append hheader more)
              rw [List.length_append] at hlt
              omega
          rcases hnonneg with rfl | hnonneg
          · rw [List.append_nil, frontContent_of_header hheader, if_neg hshort]
          · have hpre := (prefix_of_frontHeader hheader).1.length_le
            rw [List.length_append] at hlen
            obtain ⟨hsize, hwhole⟩ := wholeSize_of_nonneg (by omega) hnonneg
            rw [frontContent_of_header (frontHeader_append hheader more), if_neg, hsize,
              List.drop_append_of_le_length hpre, List.take_append_of_le_length]
            · rw [List.length_drop]
              omega
            · rw [List.length_append]
              omega
    · rw [frontContent_of_frame hframe] at h
      rw [frontContent_of_frame (frontFrame_append hframe more).1, h]
  next := by
    rintro buf x k ⟨hlen, hgood⟩ h
    refine ⟨length_drop_le_maxSize hlen, ?_⟩
    have hsome : ¬NoneComplete wholeSize buf := fun hnone => by
      rw [frontContent_eq_none_iff.2 hnone] at h
      cases h
    rcases hgood with hagree | hnone
    · rcases hagree with ⟨hframe, hrest⟩ | ⟨hheader, heq, hle, hrest⟩ | ⟨hnone, -⟩ |
        ⟨hheader, -, -, -, hrest⟩
      · rw [frontContent_of_frame hframe] at h
        cases h
        exact .inl hrest
      · rw [(frontContent_of_lengths hlen hheader heq hle).1] at h
        cases h
        exact .inl hrest
      · exact absurd hnone hsome
      · rw [frontContent_of_header hheader] at h
        split at h
        case isTrue => cases h
        case isFalse =>
          cases h
          exact .inr hrest
    · exact absurd hnone hsome

/-- Both take the same off the whole stream. -/
theorem LengthsAgree.items_eq (h : LengthsAgree stream) (hlen : stream.length ≤ maxSize) (n : Nat) :
    RtspToHttpClient.frontContent.items n stream [] =
      RtspToRtspClient.frontContent.items n stream [] := by
  induction h generalizing n with
  | frame hframe _ ih =>
    rcases n with _ | n
    · rfl
    · rw [Cutter.items_of_some (RtspToHttpClient.frontContent_of_frame hframe),
        Cutter.items_of_some (RtspToRtspClient.frontContent_of_frame hframe),
        ih (length_drop_le_maxSize hlen)]
  | message hheader heq hle _ ih =>
    rcases n with _ | n
    · rfl
    · obtain ⟨hfirst, hsecond⟩ := frontContent_of_lengths hlen hheader heq hle
      rw [Cutter.items_of_some hfirst, Cutter.items_of_some hsecond,
        ih (length_drop_le_maxSize hlen)]
  | rest hnone hnone' =>
    rw [Cutter.items_nil_of_none (RtspToHttpClient.frontContent_eq_none_iff.2 hnone),
      Cutter.items_nil_of_none (RtspToRtspClient.frontContent_eq_none_iff.2 hnone')]
  | @last buf hheader hneg hzero hlt hnone =>
    rcases n with _ | n
    · rfl
    · have hmax : maxSize = 2 ^ 63 - 1 := rfl
      have hword : wordSize = 2 ^ 64 := rfl
      have hwhole : RtspToRtspClient.wholeSize buf = buf.length := by
        rw [RtspToRtspClient.wholeSize, hzero, Nat.add_zero, Nat.mod_eq_of_lt (by omega)]
      -- for the one the header block is not quite erased, but nothing more is found in it
      have hfirst : RtspToHttpClient.frontContent buf =
          some (.message buf [], RtspToHttpClient.wholeSize buf) := by
        rw [RtspToHttpClient.frontContent_of_header hheader, if_neg (Nat.not_lt.2 hlt.le),
          List.drop_length, List.take_nil]
      have hsecond : RtspToRtspClient.frontContent buf = some (.message buf [], buf.length) := by
        rw [RtspToRtspClient.frontContent_of_header hheader, hwhole, if_neg (Nat.lt_irrefl _),
          List.take_length, List.take_length, List.drop_length]
      rw [Cutter.items_of_some hfirst, Cutter.items_of_some hsecond, List.drop_length,
        Cutter.items_nil_of_none (RtspToHttpClient.frontContent_eq_none_iff.2 hnone),
        Cutter.items_nil_of_none (RtspToRtspClient.frontContent_eq_none_iff.2 ⟨rfl, fun _ h => by
          cases h⟩)]

theorem LengthsAgree.framedAlike (h : LengthsAgree stream) (hlen : stream.length ≤ maxSize) :
    FramedAlike stream := by
  rintro parts parts' rfl hparts' n
  rw [Cutter.items_parts RtspToHttpClient.stable_frontContent ⟨hlen, .inl h⟩,
    Cutter.items_parts RtspToRtspClient.stable_frontContent trivial, List.nil_append, List.nil_append,
    hparts', h.items_eq hlen]

/-! ### The condition is necessary -/

/-- If what comes first is found by both alike, what is behind it is, too. -/
theorem FramedAlike.drop (h : FramedAlike stream) (hk : k ≤ stream.length)
    (hfirst : RtspToHttpClient.frontContent (stream.take k) = some (x, k))
    (hsecond : RtspToRtspClient.frontContent (stream.take k) = some (x, k)) :
    FramedAlike (stream.drop k) := by
  have htake : k = (stream.take k).length := by rw [List.length_take, Nat.min_eq_left hk]
  have hwhole : ∀ {parts : List Bytes}, parts.flatten = stream.drop k →
      (stream.take k :: parts).flatten = stream := by
    intro parts hparts
    rw [List.flatten_cons, hparts, List.take_append_drop]
  intro parts parts' hparts hparts' n
  have hitems := h _ _ (hwhole hparts) (hwhole hparts') (n + 1)
  have hat : some (x, k) = some (x, (stream.take k).length) := congrArg (fun k => some (x, k)) htake
  rw [Cutter.items_first rfl (hfirst.trans hat), Cutter.items_first rfl (hsecond.trans hat)] at hitems
  exact List.tail_eq_of_cons_eq hitems

/-- The stream may arrive at once. -/
theorem FramedAlike.items (h : FramedAlike stream) (n : Nat) :
    RtspToHttpClient.frontContent.items n stream [] =
      RtspToRtspClient.frontContent.items n stream [] := by
  have hitems := h [stream] [stream] List.flatten_singleton List.flatten_singleton n
  rwa [Cutter.items_cons_of_none rfl, Cutter.items_cons_of_none rfl, List.nil_append] at hitems

theorem FramedAlike.items_parts (h : FramedAlike parts.flatten) (n : Nat) :
    RtspToHttpClient.frontContent.items n [] parts =
      RtspToHttpClient.frontContent.items n parts.flatten [] := by
  have hitems := h parts [parts.flatten] rfl List.flatten_singleton n
  rwa [@Cutter.items_cons_of_none _ _ RtspToRtspClient.frontContent [] rfl, List.nil_append,
    ← h.items] at hitems

/-- Where a message is complete for both, it is the same: for the relayed session its size is no
    less than that of its header block. -/
theorem FramedAlike.bodies (h : FramedAlike stream) (hlen : stream.length ≤ maxSize)
    (hheader : frontHeader stream = some header)
    (hle : RtspToHttpClient.wholeSize header ≤ stream.length)
    (hle' : RtspToRtspClient.wholeSize header ≤ stream.length) :
    header.length + RtspToRtspClient.bodyLength header ≤ stream.length ∧
    (stream.drop header.length).take (RtspToHttpClient.toSize (RtspParser.getContentLength header)) =
      (stream.drop header.length).take (RtspToRtspClient.bodyLength header) := by
  have hfirst := h.items 1
  rw [Cutter.items_of_some ((RtspToHttpClient.frontContent_of_header hheader).trans
    (if_neg (Nat.not_lt.2 hle))), Cutter.items_of_some
    ((RtspToRtspClient.frontContent_of_header hheader).trans (if_neg (Nat.not_lt.2 hle')))] at hfirst
  obtain ⟨hsame, hbody⟩ := Content.message.inj (List.head_eq_of_cons_eq hfirst)
  have hword : wordSize = 2 ^ 64 := rfl
  have hmax : maxSize = 2 ^ 63 - 1 := rfl
  have hpre := (prefix_of_frontHeader hheader).1.length_le
  have hlt := RtspToRtspClient.bodyLength_lt header
  have hlong : header.length ≤ RtspToRtspClient.wholeSize header := by
    have hlength := congrArg List.length hsame
    rw [List.length_take, List.length_take] at hlength
    omega
  have hsize : RtspToRtspClient.wholeSize header =
      header.length + RtspToRtspClient.bodyLength header := by
    rw [RtspToRtspClient.wholeSize, hword] at hlong ⊢
    omega
  refine ⟨hsize ▸ hle', ?_⟩
  rw [hbody, hsize, List.drop_take, Nat.add_sub_cancel_left]

/-- A negative length is nowhere but at the end of the stream: with the body of such a message
    comes all that has arrived. -/
theorem FramedAlike.last (h : FramedAlike stream) (hlen : stream.length ≤ maxSize)
    (hheader : frontHeader stream = some header)
    (hneg : RtspParser.getContentLength header < 0)
    (hle : RtspToHttpClient.wholeSize header ≤ stream.length)
    (hle' : RtspToRtspClient.wholeSize header ≤ stream.length) : LengthsAgree stream := by
  obtain ⟨hfit, hbody⟩ := h.bodies hlen hheader hle hle'
  obtain ⟨hpre, -, -⟩ := prefix_of_frontHeader hheader
  obtain ⟨hbig, hsmall | hlong⟩ :=
    RtspToHttpClient.wholeSize_of_neg (hpre.length_le.trans hlen) hneg
  · have hself : frontHeader header = some header := by
      rw [List.prefix_iff_eq_take.1 hpre]
      exact List.prefix_iff_eq_take.1 hpre ▸ frontHeader_take hheader le_rfl
    have hwhole := (RtspToHttpClient.frontContent_of_header hheader).trans
      (if_neg (Nat.not_lt.2 hle))
    have hpart := (RtspToHttpClient.frontContent_of_header hself).trans
      (if_neg (Nat.not_lt.2 hsmall.le))
    obtain ⟨rest, rfl⟩ := hpre
    -- the header block may arrive first, or everything at once
    have hflatten : [header, rest].flatten = header ++ rest := by
      rw [List.flatten_cons, List.flatten_singleton]
    have hitems := (hflatten ▸ h).items_parts 1
    rw [hflatten, Cutter.items_cons_of_none rfl, List.nil_append, Cutter.items_of_some hpart,
      Cutter.items_of_some hwhole, List.drop_left, List.drop_length, List.take_nil] at hitems
    obtain ⟨-, hnil⟩ := Content.message.inj (List.head_eq_of_cons_eq hitems)
    rw [List.length_append] at hlen
    rw [List.take_of_length_le (by omega)] at hnil
    subst hnil
    rw [List.append_nil] at h hheader hfit hle' hwhole
    have hzero : RtspToRtspClient.bodyLength header = 0 := by omega
    have hsize : RtspToRtspClient.wholeSize header = header.length := by
      rw [RtspToRtspClient.wholeSize, hzero, Nat.add_zero, Nat.mod_eq_of_lt]
      have hmax : maxSize = 2 ^ 63 - 1 := rfl
      have hword : wordSize = 2 ^ 64 := rfl
      omega
    have hnone := h.items 2
    rw [Cutter.items_of_some hwhole, Cutter.items_of_some
      ((RtspToRtspClient.frontContent_of_header hheader).trans (if_neg (Nat.not_lt.2 hle'))), hsize,
      List.drop_length, Cutter.items_one, Cutter.items_one] at hnone
    have htail := List.tail_eq_of_cons_eq hnone
    rw [List.append_nil]
    refine .last hheader hneg hzero hsmall (RtspToHttpClient.frontContent_eq_none_iff.1 ?_)
    rcases hrest : RtspToHttpClient.frontContent (header.drop (RtspToHttpClient.wholeSize header))
      with _ | ⟨y, k⟩
    · rfl
    · rw [hrest] at htail
      cases htail
  · omega

theorem FramedAlike.lengthsAgree (h : FramedAlike stream) (hlen : stream.length ≤ maxSize) :
    LengthsAgree stream := by
  induction hn : stream.length using Nat.strong_induction_on generalizing stream with
  | _ n ih =>
    rcases hframe : frontFrame stream with _ | ⟨channel, payload⟩
    · rcases hheader : frontHeader stream with _ | header
      · have hno : ∀ size : Bytes → Nat, NoneComplete size stream := fun size =>
          ⟨hframe, fun header h => by rw [hheader] at h; cases h⟩
        exact .rest (hno _) (hno _)
      · have hone := h.items 1
        rw [Cutter.items_one, Cutter.items_one, RtspToHttpClient.frontContent_of_header hheader,
          RtspToRtspClient.frontContent_of_header hheader] at hone
        have hnone : ∀ {size : Bytes → Nat}, stream.length < size header →
            NoneComplete size stream := fun hlt =>
          ⟨hframe, fun header' h' => by rw [hheader] at h'; cases h'; exact hlt⟩
        by_cases hlt : stream.length < RtspToHttpClient.wholeSize header
        · by_cases hlt' : stream.length < RtspToRtspClient.wholeSize header
          · exact .rest (hnone hlt) (hnone hlt')
          · rw [if_pos hlt, if_neg hlt'] at hone
            cases hone
        · by_cases hlt' : stream.length < RtspToRtspClient.wholeSize header
          · rw [if_neg hlt, if_pos hlt'] at hone
            cases hone
          · rcases lt_or_ge (RtspParser.getContentLength header) 0 with hneg | hnonneg
            · exact h.last hlen hheader hneg (Nat.not_lt.1 hlt) (Nat.not_lt.1 hlt')
            · obtain ⟨hfit, hbody⟩ :=
                h.bodies hlen hheader (Nat.not_lt.1 hlt) (Nat.not_lt.1 hlt')
              obtain ⟨hpre, -, i, -, hpos⟩ := prefix_of_frontHeader hheader
              obtain ⟨hsize, hwhole⟩ :=
                RtspToHttpClient.wholeSize_of_nonneg (hpre.length_le.trans hlen) hnonneg
              have heq : RtspParser.getContentLength header =
                  RtspToRtspClient.bodyLength header := by
                have hlength := congrArg List.length hbody
                rw [hsize, List.length_take, List.length_take, List.length_drop] at hlength
                omega
              have htake := frontHeader_take hheader
                (Nat.le_add_right header.length (RtspToRtspClient.bodyLength header))
              obtain ⟨hfirst, hsecond⟩ := frontContent_of_lengths
                ((List.length_take_le _ _).trans (hfit.trans hlen)) htake heq
                (by rw [List.length_take, Nat.min_eq_left hfit])
              refine .message hheader heq hfit
                (ih _ ?_ (h.drop hfit hfirst hsecond) (length_drop_le_maxSize hlen) rfl)
              rw [List.length_drop]
              omega
    · obtain ⟨-, hle⟩ := frontFrame_append hframe []
      have htake := frontFrame_take hframe le_rfl
      refine .frame hframe (ih _ ?_ (h.drop hle (RtspToHttpClient.frontContent_of_frame htake)
        (RtspToRtspClient.frontContent_of_frame htake)) (length_drop_le_maxSize hlen) rfl)
      rw [List.length_drop]
      omega

/-! ### The loops -/

/-- What the loops take off are the first items of the stream, and all of them if they do not stop
    before. -/
theorem items_of_reads {σ ε : Type} {R : Reader σ ε UInt8 Content} {s : σ}
    {parts : List (Bytes × (σ → σ))} {turns : Nat} {xs : List Content} {r : Except ε σ}
    (hs : R.buffer s = []) (hempty : R.front [] = none)
    (hother : ∀ p ∈ parts, ∀ t, R.buffer (p.2 t) = R.buffer t)
    (h : R.reads turns parts s = some (xs, r)) :
    R.front.items xs.length [] (parts.map Prod.fst) = xs ∧
    ∀ t, r = .ok t → ∀ m, R.front.items (xs.length + m) [] (parts.map Prod.fst) = xs := by
  obtain ⟨hok, herror⟩ := Reader.reads_spec hother (hs ▸ hempty) h
  rw [hs] at hok herror
  refine ⟨?_, fun t ht => (hok t ht).2⟩
  rcases r with e | t
  · exact (herror e rfl).2
  · exact (hok t rfl).2 0

/-- The loops of two sessions that read the stream take the same off: one as much as the other, if
    none of them stops before. -/
def TakenAlike (stream : Bytes) : Prop :=
  ∀ (cfg cfg' : ServerConfig) (calls : UpstreamCalls) (s : RtspToHttpClient) (s' : RtspToRtspClient)
    (parts : List (Bytes × (RtspToHttpClient → RtspToHttpClient)))
    (parts' : List (Bytes × (RtspToRtspClient → RtspToRtspClient))) (turns turns' : Nat)
    (xs xs' : List Content) (r : Except RtspToHttpClient RtspToHttpClient)
    (r' : Except Exn RtspToRtspClient),
    s.respBuf = [] → s'.upstreamRecvBuf = [] →
    (parts.map Prod.fst).flatten = stream → (parts'.map Prod.fst).flatten = stream →
    (∀ p ∈ parts, ∀ t, (p.2 t).respBuf = t.respBuf) →
    (∀ p ∈ parts', ∀ t, (p.2 t).upstreamRecvBuf = t.upstreamRecvBuf) →
    (RtspToHttpClient.reader cfg).reads turns parts s = some (xs, r) →
    (RtspToRtspClient.reader cfg' calls).reads turns' parts' s' = some (xs', r') →
    (xs <+: xs' ∨ xs' <+: xs) ∧ ∀ t t', r = .ok t → r' = .ok t' → xs = xs'

theorem FramedAlike.takenAlike (h : FramedAlike stream) : TakenAlike stream := by
  intro cfg cfg' calls s s' parts parts' turns turns' xs xs' r r' hs hs' hparts hparts' hother hother'
    hreads hreads'
  obtain ⟨hxs, hok⟩ := items_of_reads hs rfl hother hreads
  obtain ⟨hxs', hok'⟩ := items_of_reads hs' rfl hother' hreads'
  have halike : ∀ n, (RtspToHttpClient.reader cfg).front.items n [] (parts.map Prod.fst) =
      (RtspToRtspClient.reader cfg' calls).front.items n [] (parts'.map Prod.fst) :=
    h _ _ hparts hparts'
  refine ⟨?_, fun t t' ht ht' => ?_⟩
  · rcases le_total xs.length xs'.length with hle | hle
    · rw [halike, Cutter.items_take hle, hxs'] at hxs
      exact .inl (hxs ▸ List.take_prefix _ _)
    · rw [← halike, Cutter.items_take hle, hxs] at hxs'
      exact .inr (hxs' ▸ List.take_prefix _ _)
  · rw [← hok t ht xs'.length, halike, Nat.add_comm, hok' t' ht']

/-- Where one header line announces a length, both read the same if it fits into an `int` and the
    name of the field is written in one of two ways, or if it is `0`, or too large for both. -/
theorem lengths_eq_iff {name : Bytes} (h : AnnouncedAs name n header) :
    RtspParser.getContentLength header = RtspToRtspClient.bodyLength header ↔
      ((name = ascii "Content-Length" ∨ name = ascii "Content-length") ∧ n < intLimit) ∨ n = 0 ∨
        wordSize ≤ n := by
  have hint : intLimit = 2 ^ 31 := rfl
  have hword : wordSize = 2 ^ 64 := rfl
  have hbody : RtspToRtspClient.bodyLength header = if n < wordSize then n else 0 := by
    rw [RtspToRtspClient.bodyLength, stoul_of_announcedAs h]
    by_cases hlt : n < wordSize
    · rw [if_pos hlt, if_pos hlt]
    · rw [if_neg hlt, if_neg hlt]
  rw [getContentLength_of_announcedAs h, hbody]
  by_cases hread : (name = ascii "Content-Length" ∨ name = ascii "Content-length") ∧ n < intLimit
  · rw [if_pos hread, if_pos (by omega)]
    exact iff_of_true rfl (.inl hread)
  · rw [if_neg hread, or_iff_right hread]
    by_cases hlt : n < wordSize
    · rw [if_pos hlt]
      omega
    · rw [if_neg hlt]
      exact iff_of_true rfl (.inr (Nat.not_lt.1 hlt))

/-- Both kinds of sessions find the same frames and messages in a stream exactly if they read the
    same lengths. Then their loops take the same off. Of a header block that announces its length in
    one line they read the same unless the name is written differently, or the length is larger than
    an `int`. -/
theorem framedAlike_iff (hlen : stream.length ≤ maxSize) :
    (FramedAlike stream ↔ LengthsAgree stream) ∧ (LengthsAgree stream → TakenAlike stream) ∧
    ∀ name n header, AnnouncedAs name n header →
      (RtspParser.getContentLength header = RtspToRtspClient.bodyLength header ↔
        ((name = ascii "Content-Length" ∨ name = ascii "Content-length") ∧ n < intLimit) ∨ n = 0 ∨
          wordSize ≤ n) :=
  ⟨⟨fun h => h.lengthsAgree hlen, fun h => h.framedAlike hlen⟩,
    fun h => (h.framedAlike hlen).takenAlike, fun _ _ _ h => lengths_eq_iff h⟩

/-! ### Streams -/

/-- Both read the length of the session description alike. -/
theorem framedAlike_described : FramedAlike (describedContents.flatMap Content.text) ∧
    TakenAlike (describedContents.flatMap Content.text) := by
  have hlengths : LengthsAgree (describedContents.flatMap Content.text) := by
    refine @LengthsAgree.message _ describedHeader (by decide +kernel) (by decide +kernel)
      (by decide +kernel) ?_
    refine @LengthsAgree.frame _ 0 [36, 13, 10, 13, 10] (by decide +kernel) ?_
    have hnone : ∀ size, NoneComplete size [] := fun size => ⟨rfl, fun _ h => by cases h⟩
    exact .rest (hnone _) (hnone _)
  have hlen : (describedContents.flatMap Content.text).length ≤ maxSize := by decide +kernel
  exact ⟨(framedAlike_iff hlen).1.2 hlengths, (framedAlike_iff hlen).2.1 hlengths⟩

/-- A reply in which the name of the field is written in lower case. -/
def lowerReply : Bytes :=
  ascii "RTSP/1.0 200 OK\r\nCSeq: 2\r\ncontent-length: 5\r\n\r\nv=0\r\n"

/-- Only a relayed session takes the body off with it. -/
theorem not_framedAlike_lower : ¬FramedAlike lowerReply ∧ ¬TakenAlike lowerReply := by
  constructor
  · intro h
    have hitems := h [lowerReply] [lowerReply] List.flatten_singleton List.flatten_singleton 1
    have hne : RtspToHttpClient.frontContent.items 1 [] [lowerReply] ≠
        RtspToRtspClient.frontContent.items 1 [] [lowerReply] := by
      decide +kernel
    exact hne hitems
  · intro h
    have hfirst : ((RtspToHttpClient.reader {}).reads 100 [(lowerReply, id)]
        RtspToHttpClient.connectedSession).map Prod.fst =
          some [.message (lowerReply.take 47) []] := by
      decide +kernel
    have hsecond : ((RtspToRtspClient.reader {} {}).reads 100 [(lowerReply, id)]
        RtspToRtspClient.liveSession).map Prod.fst =
          some [.message (lowerReply.take 47) (ascii "v=0\r\n")] := by
      decide +kernel
    obtain ⟨⟨xs, r⟩, hreads, hxs⟩ := Option.map_eq_some_iff.1 hfirst
    obtain ⟨⟨xs', r'⟩, hreads', hxs'⟩ := Option.map_eq_some_iff.1 hsecond
    dsimp only at hxs hxs'
    subst hxs hxs'
    obtain ⟨hpre, -⟩ := h {} {} {} _ _ _ _ 100 100 _ _ r r' rfl (by decide +kernel) rfl rfl
      (by simp) (by simp) hreads hreads'
    revert hpre
    decide +kernel

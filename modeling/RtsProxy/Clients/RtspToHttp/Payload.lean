import RtsProxy.Clients.RtspToHttp.Runs
import RtsProxy.Protocol.Stripping

/-!
# The payloads of an HTTP session

What is queued for the client of a packet whose padding bit is set. Where the payload starts is
read from the header, but its end is only moved by stripping, which also drops what is left over
behind the cells of a transport stream. So the payload alone is queued exactly when padding is
stripped and nothing is left over (`payloadOnly_iff`).
-/

open Text Interleaved Chunks

namespace RtspToHttpClient

open RtpPipeline

variable {cfg : ServerConfig} {s : RtspToHttpClient} {data : Bytes} {off : Nat}

/-- A packet with padding, of a count that is possible, and a payload that starts at `off`. -/
structure ValidPadding (data : Bytes) (off : Nat) : Prop where
  offset : payloadOffset data = some off
  padded : padded data
  pos : 0 < paddingCount data
  le : paddingCount data ≤ data.length - off

/-- What should be sent of the packet: its payload without the padding, and without the null cells
    when these are stripped. -/
def payloadToSend (cfg : ServerConfig) (off : Nat) (data : Bytes) : Bytes :=
  let payload := unpadded off data
  if cfg.stripPadding ∧ isTransportStream payload then
    (keptCells payload).flatten ++ leftover cellSize payload
  else payload

theorem payloadToSend_of_stream (hon : cfg.stripPadding)
    (hstream : isTransportStream (unpadded off data)) :
    payloadToSend cfg off data =
      (keptCells (unpadded off data)).flatten ++ leftover cellSize (unpadded off data) := by
  rw [payloadToSend, if_pos ⟨hon, hstream⟩]

theorem payloadToSend_of_not
    (h : ¬(cfg.stripPadding ∧ isTransportStream (unpadded off data))) :
    payloadToSend cfg off data = unpadded off data := by
  rw [payloadToSend, if_neg h]

/-- What a step has pushed into the queue. -/
def queuedBy (s t : RtspToHttpClient) : List Item :=
  t.sendQueue.pushed.drop s.sendQueue.pushed.length

/-- Of what is queued, the payload alone is to be sent. -/
def PayloadOnly (cfg : ServerConfig) (off : Nat) (data : Bytes) (items : List Item) : Prop :=
  ∀ i ∈ items, i.body = payloadToSend cfg off data

/-- The packet is held back in front of a key frame, or its padding is stripped and, when it carries
    a transport stream, it has only null cells or nothing is left over behind its cells. -/
def DelimitsPayload (cfg : ServerConfig) (wait : Bool) (off : Nat) (data : Bytes) : Prop :=
  (wait ∧ ¬checkKeyframe data) ∨
    (cfg.stripPadding ∧ (isTransportStream (unpadded off data) →
      keptCells (unpadded off data) = [] ∨ leftover cellSize (unpadded off data) = []))

/-- Without its padding the payload is shorter. -/
theorem ValidPadding.unpadded_ne (h : ValidPadding data off) : unpadded off data ≠ data.drop off := by
  intro heq
  have hlen := congrArg List.length heq
  have hpos := h.pos
  have hle := h.le
  rw [unpadded, if_pos ⟨h.padded, hpos, by rwa [List.length_drop]⟩, List.length_take,
    List.length_drop] at hlen
  omega

/-- What is pushed for a packet that has been stripped to its header and some bytes. -/
theorem mediaItem_strippedHeader (h : payloadOffset data = some off) (q : Bytes) :
    mediaItem (strippedHeader off data ++ q) =
      some { kind := .media, data := strippedHeader off data ++ q, start := off } := by
  rw [mediaItem, payloadOffset_strippedHeader h]
  rfl

theorem body_strippedHeader (h : payloadOffset data = some off) (q : Bytes) :
    Item.body { kind := .media, data := strippedHeader off data ++ q, start := off } = q := by
  have hlen := length_strippedHeader (payloadOffset_le h)
  show (strippedHeader off data ++ q).drop off = q
  rw [List.drop_append_of_le_length hlen.ge, List.drop_of_length_le hlen.le]
  rfl

/-- There is a header left. -/
theorem strippedHeader_append_ne (h : payloadOffset data = some off) (q : Bytes) :
    strippedHeader off data ++ q ≠ [] := by
  intro hnil
  have hpos := le_payloadOffset h
  rw [← length_strippedHeader (payloadOffset_le h), (List.append_eq_nil_iff.1 hnil).1] at hpos
  exact absurd hpos (by decide)

/-- What passes the gate is stripped, and queued unless nothing is left. -/
theorem acceptedItem_eq {packet : Bytes} (hrtp : isRtp (s.received packet)) :
    s.acceptedItem cfg packet =
      if (s.waitForKeyframe ∧ ¬checkKeyframe (s.received packet)) ∨
        strip cfg (s.received packet) = [] then none
      else mediaItem (strip cfg (s.received packet)) := by
  rw [acceptedItem, process, hrtp]
  cases s.waitForKeyframe <;> cases checkKeyframe (s.received packet) <;>
    cases strip cfg (s.received packet) <;> rfl

/-- The payload alone is queued exactly when the code delimits it. -/
theorem body_acceptedItem_iff {packet : Bytes} (h : ValidPadding (s.received packet) off) :
    (∀ i ∈ s.acceptedItem cfg packet, i.body = payloadToSend cfg off (s.received packet)) ↔
      DelimitsPayload cfg s.waitForKeyframe off (s.received packet) := by
  have hoff := h.offset
  have hrtp : isRtp (s.received packet) := by
    by_contra hnot
    rw [payloadOffset, if_neg hnot] at hoff
    cases hoff
  rw [acceptedItem_eq hrtp, DelimitsPayload]
  by_cases hheld : s.waitForKeyframe ∧ ¬checkKeyframe (s.received packet)
  · rw [if_pos (.inl hheld)]
    exact iff_of_true (fun _ hi => by cases hi) (.inl hheld)
  simp only [or_iff_right hheld]
  generalize s.received packet = data at *
  by_cases hon : cfg.stripPadding
  · rw [strip_eq hon hoff, stripped, and_iff_right hon]
    by_cases hstream : isTransportStream (unpadded off data)
    · rw [if_pos hstream]
      by_cases hnone : keptCells (unpadded off data) = []
      · -- nothing is left of the packet
        rw [if_pos hnone, if_pos rfl]
        exact iff_of_true (fun _ hi => by cases hi) fun _ => .inl hnone
      · rw [if_neg hnone, if_neg (strippedHeader_append_ne hoff _), mediaItem_strippedHeader hoff]
        simp only [Option.mem_some_iff, forall_eq', body_strippedHeader hoff,
          payloadToSend_of_stream hon hstream, List.self_eq_append_right, hstream, hnone,
          true_imp_iff, false_or]
    · rw [if_neg hstream, if_neg (strippedHeader_append_ne hoff _), mediaItem_strippedHeader hoff,
        payloadToSend_of_not fun hboth => hstream hboth.2]
      refine iff_of_true (fun i hi => ?_) fun hts => absurd hts hstream
      obtain rfl := Option.some.inj hi
      exact body_strippedHeader hoff _
  · -- without stripping, the padding is queued too
    have hstrip : strip cfg data = data := by
      rw [strip, hoff]
      exact if_neg hon
    have hne : data ≠ [] := by
      rintro rfl
      exact absurd h.pos (by decide)
    rw [hstrip, if_neg hne, mediaItem, hoff]
    refine iff_of_false (fun hall => ?_) fun hboth => hon hboth.1
    have hbody := hall _ rfl
    rw [payloadToSend_of_not fun hboth => hon hboth.1] at hbody
    exact h.unpadded_ne hbody.symm

/-- What is queued when a packet is received. -/
theorem queuedBy_of_outlet {t : RtspToHttpClient} {n : Nat} {item : Option Item}
    (h : t.outlet = s.outlet.receive n item) : queuedBy s t = item.toList := by
  have hqueue : t.sendQueue = (s.outlet.receive n item).queue := congrArg Outlet.queue h
  rw [queuedBy, hqueue]
  cases item with
  | none => exact List.drop_length
  | some i =>
    show (s.sendQueue.pushBounded sendLimit i).pushed.drop _ = _
    rw [SendQueue.pushed_pushBounded, List.drop_left]
    rfl

/-- The payload alone is queued, of a datagram or of a frame of the media channel, exactly when the
    code delimits it. -/
theorem payloadOnly_iff (opened : Bool) (packet : Bytes) (h : ValidPadding (s.received packet) off) :
    (PayloadOnly cfg off (s.received packet) (queuedBy s (s.onRtpReadable cfg opened packet)) ↔
      DelimitsPayload cfg s.waitForKeyframe off (s.received packet)) ∧
    (PayloadOnly cfg off (s.received packet)
        (queuedBy s (s.handleInterleavedPacket cfg s.interleavedRtpChannel packet)) ↔
      DelimitsPayload cfg s.waitForKeyframe off (s.received packet)) := by
  have hframe := @outlet_handleInterleavedPacket cfg s s.interleavedRtpChannel packet
  rw [if_pos rfl] at hframe
  have hiff := @body_acceptedItem_iff cfg s off packet h
  simp only [PayloadOnly, queuedBy_of_outlet (outlet_onRtpReadable opened packet),
    queuedBy_of_outlet hframe, Option.mem_toList]
  exact ⟨hiff, hiff⟩

/-- A packet with four bytes of payload and two of padding. -/
def paddedPacket : Bytes := 0xA0 :: List.replicate 11 0 ++ [1, 2, 3, 4, 0, 2]

theorem validPadding_paddedPacket : ValidPadding (liveSession.received paddedPacket) 12 :=
  ⟨by decide +kernel, by decide +kernel, by decide +kernel, by decide +kernel⟩

/-- When padding is stripped, the payload alone is queued. -/
theorem payloadOnly_stripped :
    PayloadOnly { stripPadding := true } 12 (liveSession.received paddedPacket)
      (queuedBy liveSession (liveSession.onRtpReadable { stripPadding := true } true paddedPacket)) :=
  (payloadOnly_iff true paddedPacket validPadding_paddedPacket).1.2 (.inr ⟨rfl, by decide +kernel⟩)

/-- When it is not, the padding is queued too. -/
theorem not_payloadOnly_padded :
    ¬∀ cfg s off opened packet, ValidPadding (s.received packet) off →
      PayloadOnly cfg off (s.received packet)
        (queuedBy s (s.onRtpReadable cfg opened packet)) := by
  intro hall
  have hpadded := hall {} liveSession 12 true paddedPacket validPadding_paddedPacket
    { kind := .media, data := paddedPacket, start := 12 } (by decide +kernel)
  exact absurd hpadded (by decide +kernel)

end RtspToHttpClient

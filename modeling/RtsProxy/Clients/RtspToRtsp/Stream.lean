import RtsProxy.Clients.RtspToRtsp.Changes

/-!
# The stream to the client of a relayed session

What is written to the client is made of whole replies and whole frames, in the order they
were queued, as long as the front of a full queue is dropped only while it is a frame of which
nothing has been sent (`KeepsStream`).

* `isUnit_frameItem`: what `send_interleaved_downstream` queues is a whole frame;
* `intact_of_run`: runs of steps that keep to this keep the stream intact.
-/

open Text Interleaved

namespace RtspToRtspClient

/-! ## What is queued -/

/-- A whole reply, patched, or a whole frame. -/
inductive IsUnit (cfg : ServerConfig) : Item → Prop
  | reply (u : RtspToRtspClient) (resp patched : Bytes) : u.Patches cfg resp patched →
      IsUnit cfg { kind := .response, data := patched }
  | frame (bytes : Bytes) : IsFrame bytes → IsUnit cfg { kind := .frame, data := bytes }

variable {s t : RtspToRtspClient} {cfg : ServerConfig} {e : Event} {channel channel' : UInt8}
  {data : Bytes}

theorem frameLength_le {blockSize : Nat} (h : 4 ≤ blockSize) (len : Nat) :
    frameLength blockSize len ≤ len := by
  unfold frameLength
  split
  · have hsub : blockSize + wordSize - 4 = (blockSize - 4) + wordSize := by omega
    rw [hsub, Nat.add_mod_right]
    have := Nat.mod_le (blockSize - 4) wordSize
    omega
  · exact Nat.le_refl _

/-- In a block of four bytes or more, a packet is queued as a whole frame. -/
theorem isUnit_frameItem {blockSize : Nat} (h : 4 ≤ blockSize) (hdata : data.length < 65536) :
    IsUnit cfg (frameItem blockSize channel data) := by
  have hle := frameLength_le h data.length
  have hpacket : (data.take (frameLength blockSize data.length)).length =
      frameLength blockSize data.length := by
    rw [List.length_take]
    exact Nat.min_eq_left hle
  unfold frameItem
  dsimp only
  generalize frameLength blockSize data.length = len at *
  have hmod : (len + 4) % wordSize = len + 4 :=
    Nat.mod_eq_of_lt (by show len + 4 < 2 ^ 64; omega)
  rw [hmod, List.take_of_length_le]
  · refine .frame _ ⟨channel, data.take len, by omega, ?_⟩
    rw [hpacket]
  · rw [List.length_append, hpacket]
    show 4 + len ≤ len + 4
    omega

theorem length_of_mediaFrame {packet : Bytes}
    (h : s.mediaFrame channel packet = some (channel', data)) : data = packet := by
  unfold mediaFrame at h
  split at h
  · cases h
    rfl
  · cases h

/-- What the pipeline leaves of a packet is no longer than the packet. -/
theorem length_of_rtpFrame {packet : Bytes} (h : s.rtpFrame cfg packet = some (channel, data)) :
    data.length ≤ packet.length := by
  unfold rtpFrame at h
  dsimp only at h
  split at h
  · rw [length_of_mediaFrame h]
    exact RtpPipeline.length_process_le cfg s.waitForKeyframe packet
  · cases h

/-- A packet that is framed is no longer than the length field of a frame can say. -/
theorem length_of_frameOf (hen : Enabled cfg s e) (h : s.frameOf cfg e = some (channel, data)) :
    data.length < 65536 := by
  have hreceived : ∀ d : Incoming, d.payload.length ≤ datagramLimit →
      (s.received d).length < 65536 := by
    intro d hd
    have hlimit : datagramLimit < 65536 := by decide
    rw [received, List.length_take]
    omega
  cases e with
  | upstreamTurn calls =>
    obtain ⟨⟨ch, packet⟩, hfront, hframe⟩ := Option.bind_eq_some_iff.1 h
    have hpacket := length_of_frontFrame hfront
    unfold interleavedFrame at hframe
    dsimp only at hframe
    split at hframe
    · have hle := length_of_rtpFrame hframe
      rw [List.length_take] at hle
      omega
    · split at hframe
      · rw [length_of_mediaFrame hframe]
        exact hpacket
      · cases hframe
  | rtpFromUpstream d =>
    rw [frameOf] at h
    split at h
    · cases h
    · exact (length_of_rtpFrame h).trans_lt (hreceived d hen.2.1)
  | rtcpFromUpstream d =>
    rw [frameOf] at h
    split at h
    · cases h
    · rw [length_of_mediaFrame h]
      exact hreceived d hen.2
  | _ => cases h

/-! ## Runs -/

/-- When a packet is framed, the block has room for the header, and the front of a full queue
    may be dropped. -/
def KeepsStream (cfg : ServerConfig) (s : RtspToRtspClient) (e : Event) : Prop :=
  s.frameOf cfg e ≠ none → 4 ≤ s.pool.bufSize ∧
    (downstreamLimit < s.toDownstreamQ.packets.length → s.toDownstreamQ.FrontFresh)

instance (cfg : ServerConfig) (s : RtspToRtspClient) (e : Event) :
    Decidable (KeepsStream cfg s e) :=
  inferInstanceAs (Decidable (_ → _ ∧ (_ → _)))

/-- What has been written is the beginning of whole replies and frames, in the order they
    were queued; only frames have been dropped, of which nothing had been sent. -/
structure Intact (cfg : ServerConfig) (q : SendQueue) : Prop where
  whole : ∃ items : List Item, items.Sublist q.pushed ∧ (∀ i ∈ items, IsUnit cfg i) ∧
    q.written <+: items.flatMap Item.body
  dropped : ∀ p ∈ q.dropped, p.kind ≠ .response ∧ p.offset = p.start

/-- The queue does not depend on the block that is held. -/
theorem queue_holding (c : Core) (n : Option Nat) (frame : Option (UInt8 × Bytes))
    (pushes : List Pushed) :
    (c.holding n fun c => (c.sendFrame? frame).pushAll pushes).queue =
      (c.sendFrame? frame).queue := by
  cases n with
  | none => rfl
  | some n =>
    cases frame with
    | none => rfl
    | some f =>
      show c.queue.pushBounded downstreamLimit (frameItem (c.fill n).pool.bufSize f.1 f.2) = _
      rw [Core.bufSize_fill]
      rfl

/-- A change keeps the stream whole, and only whole units are queued. -/
theorem Change.whole {c c' : Core} {frame : Option (UInt8 × Bytes)} {replies : Bytes → Prop}
    {pushes : List Pushed} (h : Change frame replies pushes c c')
    (hc : c.queue.Whole ∧ ∀ i ∈ c.queue.pushed, IsUnit cfg i)
    (hframe : ∀ channel data, frame = some (channel, data) → data.length < 65536 ∧
      4 ≤ c.pool.bufSize ∧ (downstreamLimit < c.queue.packets.length → c.queue.FrontFresh))
    (hreplies : ∀ patched, replies patched → ∃ u resp, Patches cfg u resp patched) :
    c'.queue.Whole ∧ ∀ i ∈ c'.queue.pushed, IsUnit cfg i := by
  obtain ⟨hwhole, hunits⟩ := hc
  cases h with
  | relayed n _ =>
    rw [queue_holding]
    cases frame with
    | none => exact ⟨hwhole, hunits⟩
    | some f =>
      obtain ⟨hlen, h4, hfresh⟩ := hframe f.1 f.2 rfl
      refine ⟨hwhole.pushBounded (Nat.zero_le _) hfresh, fun i hi => ?_⟩
      have hi' : i ∈ c.queue.pushed ++ [frameItem c.pool.bufSize f.1 f.2] :=
        SendQueue.pushed_pushBounded downstreamLimit c.queue _ ▸ hi
      rcases List.mem_append.1 hi' with hi | hi
      · exact hunits i hi
      · rw [List.mem_singleton.1 hi]
        exact isUnit_frameItem h4 hlen
  | replied patched hpatched _ =>
    obtain ⟨u, resp, hu⟩ := hreplies patched hpatched
    refine ⟨hwhole.push (Nat.zero_le _), fun i hi => ?_⟩
    rcases List.mem_append.1 hi with hi | hi
    · exact hunits i hi
    · rw [List.mem_singleton.1 hi]
      exact .reply u resp patched hu
  | sent n hn _ =>
    have hqueue : (c.advance n).queue = c.queue.advance n := by
      unfold Core.advance SendQueue.advance
      cases c.queue.packets with
      | nil => rfl
      | cons p ps => rfl
    rw [hqueue, SendQueue.pushed_advance]
    exact ⟨hwhole.advance hn, hunits⟩

/-- A step that may drop what it drops keeps the stream whole. -/
theorem whole_of_step (hkeeps : s.KeepsStream cfg e)
    (hs : s.toDownstreamQ.Whole ∧ ∀ i ∈ s.toDownstreamQ.pushed, IsUnit cfg i)
    (hen : Enabled cfg s e) (h : step cfg s e = .ok t) :
    t.toDownstreamQ.Whole ∧ ∀ i ∈ t.toDownstreamQ.pushed, IsUnit cfg i := by
  refine (change_of_step h).whole hs (fun channel data hframe => ?_) fun patched hpatched => ?_
  · exact ⟨length_of_frameOf hen hframe, hkeeps (hframe ▸ Option.some_ne_none _)⟩
  · obtain ⟨resp, _, hpatches⟩ := hpatched
    exact ⟨_, resp, hpatches⟩

theorem intact_of_whole {q : SendQueue} (hwhole : q.Whole) (hunits : ∀ i ∈ q.pushed, IsUnit cfg i) :
    Intact cfg q := by
  obtain ⟨items, hsub, -, hpre⟩ := hwhole.exists_items
  refine ⟨⟨items, hsub, fun i hi => hunits i (hsub.subset hi), hpre⟩, fun p hp => ?_⟩
  obtain ⟨hkind, hoff⟩ := hwhole.droppedFresh p hp
  refine ⟨fun hresponse => ?_, hoff⟩
  rw [hresponse] at hkind
  cases hkind

/-- In a run whose steps may drop what they drop, from an empty queue, the stream is intact. -/
theorem intact_of_run (hs : s.toDownstreamQ = {}) (h : Run cfg (KeepsStream cfg) s t) :
    Intact cfg t.toDownstreamQ := by
  have hstart : s.toDownstreamQ.Whole ∧ ∀ i ∈ s.toDownstreamQ.pushed, IsUnit cfg i := by
    rw [hs]
    exact ⟨SendQueue.whole_empty, by simp⟩
  obtain ⟨hwhole, hunits⟩ := run_invariant
    (P := fun u => u.toDownstreamQ.Whole ∧ ∀ i ∈ u.toDownstreamQ.pushed, IsUnit cfg i)
    (fun _ _ _ hP hen hkeeps hst => whole_of_step hkeeps hP hen hst) h hstart
  exact intact_of_whole hwhole hunits

/-! ## Streams of the session for `live` -/

/-- The client asks for channels once the upstream is connected. -/
def setupEvents : List Event :=
  [.upstreamWritable { localName := some ⟨⟨10, 0, 0, 1⟩, 40000⟩, sends := [⟨1000, true⟩] },
    .receiveDownstream (ascii "SETUP rtsp://10.0.0.1:8554/rtp/10.0.0.9:554/live RTSP/1.0\r\n" ++
      ascii "CSeq: 2\r\nTransport: RTP/AVP/TCP;unicast;interleaved=0-1\r\n\r\n"),
    .downstreamTurn ⟨.bound 30000, .bound 30002⟩]

/-- A control packet of one byte from the server. -/
def packetEvent : Event := .rtcpFromUpstream ⟨⟨⟨10, 0, 0, 9⟩, 5001⟩, [7]⟩

/-- The frame it is queued in. -/
def packetItem : Item := { kind := .frame, data := [36, 1, 0, 1, 7] }

/-- A run in which frames are queued and partly sent. -/
theorem intact_of_run_live : ∃ t,
    runEvents {} (KeepsStream {}) liveSession
      (setupEvents ++ [packetEvent, .sendDownstream ⟨3, true⟩, packetEvent]) = some t ∧
    t.toDownstreamQ.written = [36, 1, 0] ∧ Intact {} t.toDownstreamQ := by
  have hrun : (runEvents {} (KeepsStream {}) liveSession
      (setupEvents ++ [packetEvent, .sendDownstream ⟨3, true⟩, packetEvent])).map
        (fun t => t.toDownstreamQ.written) = some [36, 1, 0] := by
    decide +kernel
  obtain ⟨t, ht, hwritten⟩ := Option.map_eq_some_iff.1 hrun
  exact ⟨t, ht, hwritten, intact_of_run rfl (run_of_runEvents ht)⟩

/-- A session that relays packets of the server in frames. -/
structure Relaying (s : RtspToRtspClient) : Prop where
  ready : s.relayReady = true
  tcp : s.isDownstreamTcp = true
  opened : s.closed = false
  channel : s.dsInterleavedRtcp = 1
  bufSize : s.pool.bufSize = 2048

theorem relaying_live : ∃ t, Run {} anyStep liveSession t ∧ Relaying t ∧ t.toDownstreamQ = {} := by
  have hrun : (runEvents {} anyStep liveSession setupEvents).map (fun t =>
      (t.relayReady, t.isDownstreamTcp, t.closed, t.dsInterleavedRtcp, t.pool.bufSize,
        t.toDownstreamQ)) = some (true, true, false, 1, 2048, {}) := by
    decide +kernel
  obtain ⟨t, ht, hfields⟩ := Option.map_eq_some_iff.1 hrun
  simp only [Prod.mk.injEq] at hfields
  obtain ⟨hready, htcp, hopen, hchannel, hsize, hqueue⟩ := hfields
  exact ⟨t, run_of_runEvents ht, ⟨hready, htcp, hopen, hchannel, hsize⟩, hqueue⟩

/-- What one of the packets does to such a session. -/
theorem Relaying.packet (h : Relaying s) : ∃ t, Next {} anyStep s t ∧ Relaying t ∧
    t.toDownstreamQ = s.toDownstreamQ.pushBounded downstreamLimit packetItem := by
  obtain ⟨hready, htcp, hopen, hchannel, hsize⟩ := h
  have henabled : Enabled {} s packetEvent := ⟨hready, by decide⟩
  refine ⟨_, ⟨packetEvent, henabled, trivial, rfl⟩, ?_⟩
  have hitem : frameItem 2048 1 [7] = packetItem := by decide
  have hdata : ([7] : Bytes).take 2048 = [7] := rfl
  simp only [receiveTurn, hsize, hdata, List.cons_ne_nil, if_false, Turn.state,
    handleRtcpFromUpstream, countReceived, relayToClient, htcp, if_true,
    sendInterleavedDownstream, hopen, Bool.false_eq_true]
  refine ⟨⟨hready, rfl, rfl, hchannel, ?_⟩, ?_⟩
  · dsimp only
    split <;> simp [hsize]
  · rw [← hitem]
    simp [hsize, hchannel]

/-- The client takes one byte. -/
def byteEvent : Event := .sendDownstream ⟨1, false⟩

theorem Relaying.byte {p : Packet} {r : List Packet} (h : Relaying s)
    (hq : s.toDownstreamQ.packets = p :: r) (hp : 0 < p.rest.length) :
    ∃ t, Next {} anyStep s t ∧ Relaying t ∧ t.toDownstreamQ = s.toDownstreamQ.advance 1 := by
  obtain ⟨hready, htcp, hopen, hchannel, hsize⟩ := h
  have htaken : (⟨1, false⟩ : SendResult).taken p.rest.length = 1 := Nat.min_eq_left hp
  refine ⟨_, ⟨byteEvent, trivial, trivial, rfl⟩, ?_⟩
  simp only [downstreamSendTurn, hq, htaken, Nat.zero_lt_one, if_true, Turn.state]
  refine ⟨⟨hready, htcp, hopen, hchannel, ?_⟩, trivial⟩
  dsimp only
  split <;> simp [hsize]

/-- A queue of `n` of the frames. -/
def floodedQueue (n : Nat) : SendQueue :=
  { packets := List.replicate n packetItem.packet, pushed := List.replicate n packetItem }

/-- The client takes nothing. -/
theorem flooded_live {n : Nat} (hn : n ≤ downstreamLimit + 1) :
    ∃ t, Run {} anyStep liveSession t ∧ Relaying t ∧ t.toDownstreamQ = floodedQueue n := by
  induction n with
  | zero => exact relaying_live
  | succ n ih =>
    obtain ⟨t, hrun, hrelaying, hqueue⟩ := ih (by omega)
    obtain ⟨u, hnext, hrelaying', hqueue'⟩ := hrelaying.packet
    refine ⟨u, hrun.tail hnext, hrelaying', ?_⟩
    have hnot : ¬downstreamLimit < n := by omega
    rw [hqueue', hqueue, SendQueue.pushBounded]
    simp [floodedQueue, SendQueue.push, hnot, List.replicate_succ']

/-- With one byte of the first frame sent, another frame is queued. -/
theorem overflow_floodedQueue (n : Nat) :
    ((floodedQueue (n + 1)).advance 1).pushBounded n packetItem =
      { packets := packetItem.packet :: List.replicate n packetItem.packet
        written := [36]
        pushed := List.replicate (n + 2) packetItem
        dropped := [{ packetItem.packet with offset := 1 }] } := by
  have hadvance : (floodedQueue (n + 1)).advance 1 =
      { packets := { packetItem.packet with offset := 1 } :: List.replicate n packetItem.packet
        written := [36], pushed := List.replicate (n + 1) packetItem } := rfl
  rw [hadvance, SendQueue.pushBounded]
  simp [SendQueue.dropFront, SendQueue.push, ← List.replicate_succ']
  rfl

/-- Two beginnings of frames do not begin any whole ones. -/
theorem not_intact_of_overflow {q : SendQueue} {n : Nat} (hwritten : q.written = [36, 36])
    (hpushed : q.pushed = List.replicate n packetItem) : ¬Intact cfg q := by
  rintro ⟨⟨items, hsub, -, hpre⟩, -⟩
  rw [hpushed] at hsub
  obtain ⟨m, -, rfl⟩ := List.sublist_replicate_iff.1 hsub
  rw [hwritten] at hpre
  cases m with
  | zero => cases List.prefix_nil.1 hpre
  | succ m =>
    rw [List.replicate_succ, List.flatMap_cons] at hpre
    -- behind its first byte, a frame goes on with its channel
    obtain ⟨rest, hrest⟩ := hpre
    have hbyte : some (36 : UInt8) = some 1 := congrArg (·[1]?) hrest
    exact absurd (Option.some.inj hbyte) (by decide)

/-- A session whose stream is not intact: one byte of a frame, then the next frame. -/
theorem not_intact_live : ¬∀ s t, Started {} s → Run {} anyStep s t → Intact {} t.toDownstreamQ := by
  intro hall
  obtain ⟨s₀, hrun, hrelaying₀, hqueue₀⟩ := flooded_live (Nat.le_refl _)
  obtain ⟨s₁, hnext₁, hrelaying₁, hqueue₁⟩ := hrelaying₀.byte (p := packetItem.packet)
    (r := List.replicate downstreamLimit packetItem.packet) (by rw [hqueue₀]; rfl) (by decide)
  obtain ⟨s₂, hnext₂, hrelaying₂, hqueue₂⟩ := hrelaying₁.packet
  rw [hqueue₁, hqueue₀, overflow_floodedQueue] at hqueue₂
  obtain ⟨s₃, hnext₃, -, hqueue₃⟩ := hrelaying₂.byte (p := packetItem.packet)
    (r := List.replicate downstreamLimit packetItem.packet) (by rw [hqueue₂]) (by decide)
  rw [hqueue₂] at hqueue₃
  have hintact := hall liveSession s₃ started_liveSession
    (((hrun.tail hnext₁).tail hnext₂).tail hnext₃)
  rw [hqueue₃] at hintact
  exact not_intact_of_overflow rfl rfl hintact

end RtspToRtspClient

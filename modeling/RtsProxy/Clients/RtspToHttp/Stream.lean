import RtsProxy.Clients.RtspToHttp.Runs

/-!
# The body of an HTTP response

What is written to the client is the head of the response and then whole payloads, in the order
they were accepted, as long as the front of a full queue is dropped only while it is a payload of
which nothing has been sent (`KeepsBody`).

* `bodyIntact_of_step`: such a step keeps what is queued and written whole;
* `bodyIntact_of_run`: so does a run of them.
-/

open Text Interleaved

namespace RtspToHttpClient

variable {cfg : ServerConfig} {s t : RtspToHttpClient} {e : Event}

/-- The head of the response, as it is queued. -/
def headItem : Item := { kind := .header, data := responseHeader }

/-- A whole payload of a packet. -/
def IsPayload (i : Item) : Prop :=
  i.kind = .media ∧ RtpPipeline.payloadOffset i.data = some i.start

theorem isPayload_of_mediaItem {packet : Bytes} {i : Item} (h : mediaItem packet = some i) :
    IsPayload i := by
  obtain ⟨off, hoff, rfl⟩ := Option.map_eq_some_iff.1 h
  exact ⟨rfl, hoff⟩

theorem isPayload_of_acceptedItem {packet : Bytes} {i : Item}
    (h : s.acceptedItem cfg packet = some i) : IsPayload i := by
  rw [acceptedItem] at h
  split at h
  · exact isPayload_of_mediaItem h
  · cases h

/-- What has ever been pushed is the head of the response, and then payloads; and the queue has
    only dropped payloads of which nothing had been sent. -/
structure Accepted (q : SendQueue) : Prop where
  whole : q.Whole
  pushed : ∃ media, q.pushed = headItem :: media ∧ ∀ i ∈ media, IsPayload i

/-- What is written continues to the head of the response and whole payloads, in the order they
    were accepted; neither the head, nor a payload of which some bytes had been sent, was ever
    dropped. -/
def BodyIntact (q : SendQueue) : Prop :=
  (∃ media, q.pushed = headItem :: media ∧ (∀ i ∈ media, IsPayload i) ∧
    ∃ sent : List Item, sent.Sublist media ∧
      q.written <+: responseHeader ++ sent.flatMap Item.body) ∧
  ∀ p ∈ q.dropped, p.kind ≠ .header ∧ p.offset = p.start

/-- What is dropped from a full queue, as the packet of a step is let through, is a payload of
    which nothing has been sent. -/
def KeepsBody (cfg : ServerConfig) (s : RtspToHttpClient) (e : Event) : Prop :=
  ∀ packet ∈ s.packetOf e, s.acceptedItem cfg packet ≠ none →
    sendLimit < s.sendQueue.packets.length → s.sendQueue.FrontFresh

instance (cfg : ServerConfig) (s : RtspToHttpClient) (e : Event) : Decidable (KeepsBody cfg s e) :=
  inferInstanceAs (Decidable (∀ packet ∈ s.packetOf e, _ → _ → _))

/-- A list that keeps the only item of its kind, and that one first, starts with it. -/
theorem exists_of_sublist_cons {ι : Type} {keep : ι → Bool} {i : ι} {items rest : List ι}
    (hsub : items.Sublist (i :: rest)) (hkeep : keep i = true)
    (hrest : ∀ j ∈ rest, keep j = false) (hfilter : items.filter keep = (i :: rest).filter keep) :
    ∃ sent, items = i :: sent ∧ sent.Sublist rest := by
  have hnone : rest.filter keep = [] := List.filter_eq_nil_iff.2 fun j hj => by simp [hrest j hj]
  rw [List.filter_cons_of_pos hkeep, hnone] at hfilter
  cases hsub with
  | cons_cons _ hsub => exact ⟨_, rfl, hsub⟩
  | cons _ hsub =>
    -- without the first item, nothing of its kind is there
    have hmem : i ∈ items := (List.mem_filter.1 (hfilter ▸ List.mem_singleton_self i)).1
    have hfalse := hrest i (hsub.subset hmem)
    rw [hkeep] at hfalse
    cases hfalse

theorem Accepted.bodyIntact {q : SendQueue} (h : Accepted q) : BodyIntact q := by
  obtain ⟨hwhole, media, hpushed, hmedia⟩ := h
  obtain ⟨items, hsub, hfilter, hpre⟩ := hwhole.exists_items
  rw [hpushed] at hsub hfilter
  have hdroppable : ∀ i ∈ media, SendQueue.keep i = false := by
    intro i hi
    rw [SendQueue.keep, (hmedia i hi).1]
    rfl
  obtain ⟨sent, rfl, hsent⟩ := exists_of_sublist_cons hsub rfl hdroppable hfilter
  refine ⟨⟨media, hpushed, hmedia, sent, hsent, hpre⟩, fun p hp => ?_⟩
  obtain ⟨hkind, hoff⟩ := hwhole.droppedFresh p hp
  refine ⟨fun hheader => ?_, hoff⟩
  rw [hheader] at hkind
  cases hkind

/-- A step that keeps to the condition keeps what is queued and written whole. -/
theorem bodyIntact_of_step (hkeeps : KeepsBody cfg s e) (hs : Accepted s.sendQueue) :
    Accepted (step cfg s e).sendQueue := by
  obtain ⟨hwhole, media, hpushed, hmedia⟩ := hs
  rcases outlet_of_step cfg s e with ⟨packet, hpacket, hout⟩ | hout | ⟨n, hn, hout⟩
  · have hqueue := congrArg Outlet.queue hout
    rcases hitem : s.acceptedItem cfg packet with _ | i
    · rw [hitem] at hqueue
      rw [show (step cfg s e).sendQueue = s.sendQueue from hqueue]
      exact ⟨hwhole, media, hpushed, hmedia⟩
    · rw [hitem] at hqueue
      rw [show (step cfg s e).sendQueue = s.sendQueue.pushBounded sendLimit i from hqueue]
      have hpayload := isPayload_of_acceptedItem hitem
      refine ⟨hwhole.pushBounded (RtpPipeline.payloadOffset_le hpayload.2) ?_, media ++ [i], ?_, ?_⟩
      · exact hkeeps packet hpacket (by rw [hitem]; exact Option.some_ne_none i)
      · rw [SendQueue.pushed_pushBounded, hpushed, List.cons_append]
      · intro j hj
        rcases List.mem_append.1 hj with hj | hj
        · exact hmedia j hj
        · rw [List.mem_singleton.1 hj]
          exact hpayload
  · rw [show (step cfg s e).sendQueue = s.sendQueue from congrArg Outlet.queue hout]
    exact ⟨hwhole, media, hpushed, hmedia⟩
  · rw [show (step cfg s e).sendQueue = s.sendQueue.advance n from congrArg Outlet.queue hout]
    exact ⟨hwhole.advance hn, media, (SendQueue.pushed_advance _ n).trans hpushed, hmedia⟩

theorem outlet_start (cfg : ServerConfig) (pool : BufferPool) (stats : Statistics) (ctx : RtspCtx)
    (rtpPort : Nat) (rtpReady opened : Bool) :
    (start cfg pool stats ctx rtpPort rtpReady opened).outlet =
      ⟨pool.bufSize, responseHeader.length :: pool.writes, ({} : SendQueue).push headItem⟩ := by
  unfold start
  extract_lets s₀ src s₁ s₂
  have hs₁ : s₁.outlet =
      ⟨pool.bufSize, responseHeader.length :: pool.writes, ({} : SendQueue).push headItem⟩ := by
    simp [s₁, src, s₀, outlet, sendHttpResponse, headItem, BufferPool.write]
  show s₂.outlet = _
  rw [← hs₁]
  simp only [s₂]
  split
  · rfl
  · exact outlet_of_buffers (s := { s₁ with isInitOk := true }) (buffers_sendRtspOption opened)

/-- At its start a session has queued the head of the response. -/
theorem accepted_of_started (h : Started cfg s) : Accepted s.sendQueue := by
  obtain ⟨pool, stats, ctx, rtpPort, rtpReady, opened, -, rfl⟩ := h
  have hqueue := congrArg Outlet.queue (outlet_start cfg pool stats ctx rtpPort rtpReady opened)
  rw [show (start cfg pool stats ctx rtpPort rtpReady opened).sendQueue =
    ({} : SendQueue).push headItem from hqueue]
  exact ⟨SendQueue.whole_empty.push (Nat.zero_le _), [], rfl, by simp⟩

/-- In a run whose steps may drop what they drop, what is written is the head of the response and
    then whole payloads. -/
theorem bodyIntact_of_run (hs : Started cfg s) (h : Run cfg (KeepsBody cfg) s t) :
    BodyIntact t.sendQueue :=
  (run_invariant (P := fun u => Accepted u.sendQueue)
    (fun _ _ hP _ hkeeps => bodyIntact_of_step hkeeps hP) h (accepted_of_started hs)).bodyIntact

/-! ## The body of a session -/

/-- A packet of the server with a payload of one byte. -/
def packetItem : Item :=
  { kind := .media, data := [0x80, 33, 0, 0, 0, 0, 0, 0, 0, 0, 0, 0, 7], start := 12 }

def packetEvent : Event := .rtpReadable true packetItem.data

/-- The client takes one byte. -/
def byteEvent : Event := .sendClient ⟨1, false⟩

/-- A run in which a payload is queued while the head is partly sent. -/
theorem bodyIntact_of_run_live : ∃ t,
    runEvents {} (KeepsBody {}) liveSession [packetEvent, byteEvent, packetEvent] = some t ∧
    t.sendQueue.written = [72] ∧ BodyIntact t.sendQueue := by
  have hrun : (runEvents {} (KeepsBody {}) liveSession
      [packetEvent, byteEvent, packetEvent]).map (fun t => t.sendQueue.written) = some [72] := by
    decide +kernel
  obtain ⟨t, ht, hwritten⟩ := Option.map_eq_some_iff.1 hrun
  exact ⟨t, ht, hwritten, bodyIntact_of_run started_liveSession (run_of_runEvents ht)⟩

/-- A session that plays: its packets are let through. -/
structure Playing (s : RtspToHttpClient) : Prop where
  ready : s.rtpReady = true
  open_ : s.waitForKeyframe = false
  bufSize : s.pool.bufSize = 2048

/-- What one of the packets does to such a session. -/
theorem Playing.packet (h : Playing s) : ∃ t, Next {} anyStep s t ∧ Playing t ∧
    t.sendQueue = s.sendQueue.pushBounded sendLimit packetItem := by
  obtain ⟨hready, hopen, hsize⟩ := h
  have hout : RtpPipeline.process {} false packetItem.data = ⟨true, packetItem.data, false⟩ := by
    decide
  have hdata : packetItem.data.take 2048 = packetItem.data := rfl
  have hitem : mediaItem packetItem.data = some packetItem := by decide
  have hne : packetItem.data ≠ [] := List.cons_ne_nil _ _
  refine ⟨s.onRtpReadable {} true packetItem.data,
    ⟨packetEvent, ⟨hready, by decide⟩, trivial, rfl⟩, ?_⟩
  simp only [onRtpReadable, queuePacket, countReceived, hsize, hopen, hdata, hne, hout, hitem,
    if_true, if_false]
  exact ⟨⟨hready, rfl, by dsimp only; split <;> simp [hsize]⟩, trivial⟩

theorem Playing.byte {p : Packet} {r : List Packet} (h : Playing s)
    (hq : s.sendQueue.packets = p :: r) (hp : 0 < p.rest.length) :
    ∃ t, Next {} anyStep s t ∧ Playing t ∧ t.sendQueue = s.sendQueue.advance 1 := by
  obtain ⟨hready, hopen, hsize⟩ := h
  have htaken : (⟨1, false⟩ : SendResult).taken p.rest.length = 1 := Nat.min_eq_left hp
  have hcount : ¬(1 : Int) < 0 := by decide
  refine ⟨(s.clientSendTurn ⟨1, false⟩).state, ⟨byteEvent, trivial, trivial, rfl⟩, ?_⟩
  simp only [clientSendTurn, hq, htaken, hcount, if_false]
  split
  · exact ⟨⟨hready, hopen, hsize⟩, rfl⟩
  · exact ⟨⟨hready, hopen, hsize⟩, rfl⟩

/-- The head of the response with one byte sent. -/
def begunHead : Packet := { headItem.packet with offset := 1 }

/-- The queue behind it. -/
def stalledQueue (n : Nat) : SendQueue :=
  { packets := begunHead :: List.replicate n packetItem.packet
    written := [72]
    pushed := headItem :: List.replicate n packetItem }

/-- The client takes no more than that byte. -/
theorem stalled_live {n : Nat} (hn : n < sendLimit) :
    ∃ t, Run {} anyStep liveSession t ∧ Playing t ∧ t.sendQueue = stalledQueue (n + 1) := by
  induction n with
  | zero =>
    have hrun : (runEvents {} anyStep liveSession [packetEvent, byteEvent]).map (fun t =>
        (t.rtpReady, t.waitForKeyframe, t.pool.bufSize, t.sendQueue)) =
          some (true, false, 2048, stalledQueue 1) := by
      decide +kernel
    obtain ⟨t, ht, hfields⟩ := Option.map_eq_some_iff.1 hrun
    simp only [Prod.mk.injEq] at hfields
    obtain ⟨hready, hopen, hsize, hqueue⟩ := hfields
    exact ⟨t, run_of_runEvents ht, ⟨hready, hopen, hsize⟩, hqueue⟩
  | succ n ih =>
    obtain ⟨t, hrun, hplaying, hqueue⟩ := ih (by omega)
    obtain ⟨u, hnext, hplaying', hqueue'⟩ := hplaying.packet
    refine ⟨u, hrun.tail hnext, hplaying', ?_⟩
    have hnot : ¬sendLimit < n + 1 + 1 := by omega
    rw [hqueue', hqueue, SendQueue.pushBounded]
    simp [stalledQueue, SendQueue.push, hnot, List.replicate_succ']

/-- With one more packet, the head of the response is dropped. -/
theorem overflow_stalledQueue (n : Nat) :
    (stalledQueue n).pushBounded n packetItem =
      { packets := List.replicate (n + 1) packetItem.packet
        written := [72]
        pushed := headItem :: List.replicate (n + 1) packetItem
        dropped := [begunHead] } := by
  rw [SendQueue.pushBounded]
  simp [stalledQueue, SendQueue.dropFront, SendQueue.push, ← List.replicate_succ']

/-- A session whose body is not intact: one byte of the head, then a payload. -/
theorem not_bodyIntact_live :
    ¬∀ s t, Started {} s → Run {} anyStep s t → BodyIntact t.sendQueue := by
  intro hall
  obtain ⟨s₁, hrun, hplaying₁, hqueue₁⟩ := stalled_live (n := 511) (by decide)
  obtain ⟨s₂, hnext₂, hplaying₂, hqueue₂⟩ := hplaying₁.packet
  rw [hqueue₁, show sendLimit = 511 + 1 from rfl, overflow_stalledQueue] at hqueue₂
  obtain ⟨s₃, hnext₃, -, hqueue₃⟩ := hplaying₂.byte (p := packetItem.packet)
    (r := List.replicate 512 packetItem.packet) (by rw [hqueue₂]; rfl) (by decide)
  obtain ⟨⟨media, -, -, sent, -, hpre⟩, -⟩ :=
    hall liveSession s₃ started_liveSession ((hrun.tail hnext₂).tail hnext₃)
  rw [hqueue₃, hqueue₂, SendQueue.advance] at hpre
  obtain ⟨rest, hrest⟩ := hpre
  -- behind its first byte, the head goes on with a `T`
  have hbyte : some (7 : UInt8) = some 84 := congrArg (·[1]?) hrest
  exact absurd (Option.some.inj hbyte) (by decide)

end RtspToHttpClient

import RtsProxy.Clients.RtspToHttp.Handlers
import Mathlib.Logic.Relation

/-!
# Runs of an HTTP session

As in the relayed session, a run is a sequence of steps, one for each turn of a loop of a
handler. Only packets of the server and the sending to the client touch the blocks and the queue
(`buffers`); what they do there is said by `outlet_of_step`.
-/

open Text Interleaved

namespace RtspToHttpClient

/-- A step, with what the system calls return in it. -/
inductive Event
  /-- A datagram from the server, or from the STUN server. -/
  | rtpReadable (opened : Bool) (payload : Bytes)
  /-- Bytes of the upstream are received, and a turn of the loop over them. -/
  | receiveRtsp (bytes : Bytes)
  | rtspTurn
  /-- The upstream has closed the connection, or it has failed. -/
  | rtspLost
  | rtspWritable (calls : RtspCalls)
  /-- The front packet is offered to the client, and the end of that loop. -/
  | sendClient (r : SendResult)
  | clientSent
  | clientClosed
  | timer
  deriving DecidableEq, Repr

/-- Where a turn of the loop over the bytes of the upstream, or the handler, ends. -/
def ending : Except RtspToHttpClient (Turn RtspToHttpClient) → RtspToHttpClient
  | .ok r => r.state
  | .error s => s

/-- The result of a step. -/
def step (cfg : ServerConfig) (s : RtspToHttpClient) : Event → RtspToHttpClient
  | .rtpReadable opened payload => s.onRtpReadable cfg opened payload
  | .receiveRtsp bytes => { s with respBuf := s.respBuf ++ bytes }
  | .rtspTurn => ending (s.rtspTurn cfg)
  | .rtspLost => s.notifyClosed
  | .rtspWritable calls => s.onRtspWritable calls
  | .sendClient r => (s.clientSendTurn r).state
  | .clientSent => s.onClientWritable []
  | .clientClosed => s.onClientClosed
  | .timer => s.handleTimer

/-- The most bytes read from the upstream at once. -/
def recvLimit : Nat := 4096

/-- The most bytes in a datagram. -/
def datagramLimit : Nat := 65507

/-- When a step can take place. -/
def Enabled (s : RtspToHttpClient) : Event → Prop
  | .rtpReadable _ payload => s.rtpReady ∧ payload.length ≤ datagramLimit
  | .receiveRtsp bytes => s.state ≠ .init ∧ bytes ≠ [] ∧ bytes.length ≤ recvLimit
  | .rtspTurn | .rtspLost | .rtspWritable _ => s.state ≠ .init
  | .timer => s.timerArmed
  | _ => True

instance (s : RtspToHttpClient) : ∀ e, Decidable (Enabled s e)
  | .rtpReadable _ _ | .receiveRtsp _ | .rtspTurn | .rtspLost | .rtspWritable _ | .timer => by
    unfold Enabled; infer_instance
  | .sendClient _ | .clientSent | .clientClosed => isTrue trivial

/-- A step from one session to another, from a state and with an event that meet a condition. -/
def Next (cfg : ServerConfig) (cond : RtspToHttpClient → Event → Prop)
    (s t : RtspToHttpClient) : Prop :=
  ∃ e, Enabled s e ∧ cond s e ∧ step cfg s e = t

/-- A run, all of whose steps meet a condition. -/
def Run (cfg : ServerConfig) (cond : RtspToHttpClient → Event → Prop) :
    RtspToHttpClient → RtspToHttpClient → Prop :=
  Relation.ReflTransGen (Next cfg cond)

/-- No condition. -/
def anyStep : RtspToHttpClient → Event → Prop := fun _ _ => True

variable {cfg : ServerConfig} {cond : RtspToHttpClient → Event → Prop} {s t : RtspToHttpClient}

/-- What steps keep, runs keep. -/
theorem run_invariant {P : RtspToHttpClient → Prop}
    (hstep : ∀ s e, P s → Enabled s e → cond s e → P (step cfg s e))
    (h : Run cfg cond s t) (hs : P s) : P t := by
  induction h with
  | refl => exact hs
  | tail _ hnext ih =>
    obtain ⟨e, hen, hcond, rfl⟩ := hnext
    exact hstep _ e ih hen hcond

/-- A session at its start, in a pool whose blocks have been kept to. -/
def Started (cfg : ServerConfig) (s : RtspToHttpClient) : Prop :=
  ∃ pool stats ctx rtpPort rtpReady opened, pool.InBounds ∧
    s = start cfg pool stats ctx rtpPort rtpReady opened

/-! ## Notes -/

section Noted

variable {γ δ : Type} {note : γ → RtspToHttpClient → Event → δ → RtspToHttpClient → γ}
  {ncond : RtspToHttpClient × γ → Event → δ → Prop} {x y : RtspToHttpClient × γ}

/-- A step of a session beside which something is noted down, from a session and a note that meet a
    condition with the event and with what else is known of it. -/
def NotedNext (cfg : ServerConfig)
    (note : γ → RtspToHttpClient → Event → δ → RtspToHttpClient → γ)
    (ncond : RtspToHttpClient × γ → Event → δ → Prop) (x y : RtspToHttpClient × γ) : Prop :=
  ∃ e d, Enabled x.1 e ∧ ncond x e d ∧ y = (step cfg x.1 e, note x.2 x.1 e d (step cfg x.1 e))

/-- A run beside which something is noted down. -/
def NotedRun (cfg : ServerConfig)
    (note : γ → RtspToHttpClient → Event → δ → RtspToHttpClient → γ)
    (ncond : RtspToHttpClient × γ → Event → δ → Prop) :
    RtspToHttpClient × γ → RtspToHttpClient × γ → Prop :=
  Relation.ReflTransGen (NotedNext cfg note ncond)

theorem NotedRun.mono {ncond' : RtspToHttpClient × γ → Event → δ → Prop}
    (hcond : ∀ x e d, ncond x e d → ncond' x e d) (h : NotedRun cfg note ncond x y) :
    NotedRun cfg note ncond' x y := by
  induction h with
  | refl => exact .refl
  | tail _ hnext ih =>
    obtain ⟨e, d, hen, hmeets, hy⟩ := hnext
    exact ih.tail ⟨e, d, hen, hcond _ e d hmeets, hy⟩

/-- What steps keep of a session and the note, runs keep. -/
theorem notedRun_invariant {P : RtspToHttpClient × γ → Prop}
    (hstep : ∀ s c e d, P (s, c) → Enabled s e → ncond (s, c) e d →
      P (step cfg s e, note c s e d (step cfg s e)))
    (h : NotedRun cfg note ncond x y) (hx : P x) : P y := by
  induction h with
  | refl => exact hx
  | tail _ hnext ih =>
    obtain ⟨e, d, hen, hcond, rfl⟩ := hnext
    exact hstep _ _ e d ih hen hcond

/-- The session and the note after a list of events. -/
def notedEvents (cfg : ServerConfig)
    (note : γ → RtspToHttpClient → Event → δ → RtspToHttpClient → γ)
    (ncond : RtspToHttpClient × γ → Event → δ → Prop) [∀ x e d, Decidable (ncond x e d)]
    (x : RtspToHttpClient × γ) : List (Event × δ) → Option (RtspToHttpClient × γ)
  | [] => some x
  | (e, d) :: es =>
    if Enabled x.1 e ∧ ncond x e d then
      notedEvents cfg note ncond (step cfg x.1 e, note x.2 x.1 e d (step cfg x.1 e)) es
    else none

theorem notedRun_of_notedEvents [∀ x e d, Decidable (ncond x e d)] {es : List (Event × δ)}
    (h : notedEvents cfg note ncond x es = some y) : NotedRun cfg note ncond x y := by
  induction es generalizing x with
  | nil =>
    cases h
    exact .refl
  | cons e es ih =>
    rw [notedEvents] at h
    split at h
    case isTrue hen => exact .head ⟨e.1, e.2, hen.1, hen.2, rfl⟩ (ih h)
    case isFalse => cases h

instance {γ δ : Type} : ∀ (x : RtspToHttpClient × γ) (e : Event) (d : δ),
    Decidable ((fun _ _ _ => True : RtspToHttpClient × γ → Event → δ → Prop) x e d) :=
  fun _ _ _ => isTrue trivial

end Noted

/-! ## Computing runs -/

/-- The session after a list of events, if each can take place and meets the condition. -/
def runEvents (cfg : ServerConfig) (cond : RtspToHttpClient → Event → Prop)
    [∀ s e, Decidable (cond s e)] (s : RtspToHttpClient) : List Event → Option RtspToHttpClient
  | [] => some s
  | e :: es =>
    if Enabled s e ∧ cond s e then runEvents cfg cond (step cfg s e) es else none

theorem run_of_runEvents [∀ s e, Decidable (cond s e)] {es : List Event}
    (h : runEvents cfg cond s es = some t) : Run cfg cond s t := by
  induction es generalizing s with
  | nil =>
    cases h
    exact .refl
  | cons e es ih =>
    rw [runEvents] at h
    split at h
    case isTrue hen => exact .head ⟨e, hen.1, hen.2, rfl⟩ (ih h)
    case isFalse => cases h

instance : ∀ s e, Decidable (anyStep s e) := fun _ _ => isTrue trivial

/-- A session for `rtsp://10.0.0.9:554/live`, in a pool with the default size of blocks. -/
def liveSession : RtspToHttpClient :=
  start {} (.new 2048 1024) {}
    { rtspUrl := ascii "rtsp://10.0.0.9:554/live", serverIp := ascii "10.0.0.9"
      serverRtspPort := 554, path := ascii "/live" } 30000 true true

theorem started_liveSession : Started {} liveSession :=
  ⟨_, _, _, _, _, _, BufferPool.inBounds_new 2048 1024, rfl⟩

/-! ## The blocks and the queue -/

/-- What comes in and what goes out: the bytes of the upstream, the blocks and the queue. -/
def buffers (s : RtspToHttpClient) : Bytes × BufferPool × SendQueue :=
  (s.respBuf, s.pool, s.sendQueue)

@[simp] theorem buffers_notifyClosed : s.notifyClosed.buffers = s.buffers := by
  unfold notifyClosed
  split <;> rfl

@[simp] theorem buffers_buildAndSendRequest : s.buildAndSendRequest.buffers = s.buffers := by
  unfold buildAndSendRequest
  split <;> rfl

/-- A request is queued and the next one is to be sent. -/
@[simp] theorem buffers_request (method : RtspMethod) (uri headers body : Bytes) :
    (s.pushRequestIntoQueue method uri headers body).buildAndSendRequest.buffers = s.buffers :=
  buffers_buildAndSendRequest

@[simp] theorem buffers_sendRtspOption (opened : Bool) :
    (s.sendRtspOption opened).buffers = s.buffers := by
  unfold sendRtspOption
  rw [buffers_request, connectServer]
  split
  · rfl
  · exact buffers_notifyClosed

@[simp] theorem buffers_sendRtspDescribe : (s.sendRtspDescribe cfg).buffers = s.buffers :=
  buffers_request _ _ _ _

@[simp] theorem buffers_sendRtspSetup (sdp : Bytes) :
    (s.sendRtspSetup cfg sdp).buffers = s.buffers := by
  unfold sendRtspSetup
  extract_lets u track
  have hu : u.buffers = s.buffers := by
    simp only [u]
    split <;> rfl
  split
  · rw [buffers_notifyClosed, hu]
  · rw [buffers_request, hu]

@[simp] theorem buffers_sendRtspPlay : (s.sendRtspPlay cfg).buffers = s.buffers :=
  buffers_request _ _ _ _

@[simp] theorem buffers_startSession (opened : Bool) (packet : Bytes) :
    (s.startSession cfg opened packet).buffers = s.buffers := by
  unfold startSession
  extract_lets u
  rw [buffers_sendRtspOption]
  show u.buffers = s.buffers
  simp only [u]
  split <;> rfl

@[simp] theorem buffers_onClientClosed : s.onClientClosed.buffers = s.buffers := by
  unfold onClientClosed
  split
  · rfl
  · exact buffers_notifyClosed

@[simp] theorem buffers_handleTimer : s.handleTimer.buffers = s.buffers := buffers_request _ _ _ _

@[simp] theorem buffers_onRtspWritable (calls : RtspCalls) :
    (s.onRtspWritable calls).buffers = s.buffers := by
  unfold onRtspWritable
  split
  · exact buffers_notifyClosed
  · extract_lets u n v
    have hu : u.buffers = s.buffers := by
      simp only [u]
      split
      · unfold upstreamConnected
        cases calls.localName <;> rfl
      · rfl
    split
    · split
      · exact hu
      · exact hu
    · rw [buffers_notifyClosed, hu]

@[simp] theorem buffers_setupDone (header : Bytes) :
    (s.setupDone cfg header).buffers = s.buffers := by
  unfold setupDone
  rw [buffers_sendRtspPlay]
  split <;> rfl

/-- A message does not touch the blocks and the queue. -/
theorem buffers_handleMessage (header body : Bytes) :
    (ending (s.handleMessage cfg header body)).buffers = s.buffers := by
  unfold handleMessage
  extract_lets u reply
  show _ = u.buffers
  split
  · rfl
  · split
    · exact buffers_sendRtspSetup (s := { u with setupRetryWithTcp := true }) []
    · split
      · exact buffers_notifyClosed
      · unfold handleOk
        cases u.currentRequest.method with
        | options => exact buffers_sendRtspDescribe
        | describe =>
          exact buffers_sendRtspSetup (s := { u with ctx := { u.ctx with contentBase := _ } }) body
        | setup =>
          dsimp only
          split
          · exact buffers_setupDone (s := { u with ctx := _ }) header
          · exact buffers_notifyClosed (s := { u with ctx := _ })
        | _ => rfl

/-- The size of the blocks, the writes into them, and the queue. -/
structure Outlet where
  bufSize : Nat
  writes : List Nat
  queue : SendQueue

/-- A packet is received into a block, and what is let through of it is queued. -/
def Outlet.receive (o : Outlet) (n : Nat) (item : Option Item) : Outlet :=
  { o with
    writes := n :: o.writes
    queue := match item with
      | none => o.queue
      | some item => o.queue.pushBounded sendLimit item }

/-- The client takes bytes of the front packet. -/
def Outlet.advance (o : Outlet) (n : Nat) : Outlet := { o with queue := o.queue.advance n }

/-- The outlet of a session. -/
def outlet (s : RtspToHttpClient) : Outlet := ⟨s.pool.bufSize, s.pool.writes, s.sendQueue⟩

theorem outlet_of_buffers (h : t.buffers = s.buffers) : t.outlet = s.outlet := by
  simp only [buffers, Prod.mk.injEq] at h
  obtain ⟨-, hpool, hqueue⟩ := h
  rw [outlet, outlet, hpool, hqueue]

/-- A packet as it is received: cut to the size of a block. -/
def received (s : RtspToHttpClient) (packet : Bytes) : Bytes := packet.take s.pool.bufSize

/-- What is let through of a packet. -/
def acceptedItem (cfg : ServerConfig) (s : RtspToHttpClient) (packet : Bytes) : Option Item :=
  let out := RtpPipeline.process cfg s.waitForKeyframe (s.received packet)
  if out.forward then mediaItem out.packet else none

theorem outlet_queuePacket (packet : Bytes) :
    (s.queuePacket packet).outlet = { s.outlet with
      queue := match mediaItem packet with
        | none => s.sendQueue
        | some item => s.sendQueue.pushBounded sendLimit item } := by
  unfold queuePacket
  cases mediaItem packet with
  | none => rfl
  | some item =>
    dsimp only
    split <;> rfl

/-- What the pipeline lets through of a packet in a block is queued, and otherwise the block is
    given back. -/
theorem outlet_processed {d : Bytes} {out : RtpPipeline.Processed} {u v : RtspToHttpClient}
    (hu : u.outlet = s.outlet.receive (s.received d).length none)
    (hout : out = RtpPipeline.process cfg s.waitForKeyframe (s.received d))
    (hv : v.outlet = u.outlet) :
    (if out.forward then u.queuePacket out.packet else v).outlet =
      s.outlet.receive (s.received d).length (s.acceptedItem cfg d) := by
  subst hout
  unfold acceptedItem
  dsimp only
  split
  · rw [outlet_queuePacket, hu, show u.sendQueue = s.sendQueue from congrArg Outlet.queue hu]
    cases mediaItem _ <;> rfl
  · rw [hv, hu]

/-- What a packet of the server does to the outlet. -/
theorem outlet_onRtpReadable (opened : Bool) (payload : Bytes) :
    (s.onRtpReadable cfg opened payload).outlet =
      s.outlet.receive (s.received payload).length (s.acceptedItem cfg payload) := by
  unfold onRtpReadable
  extract_lets data u out v w x y
  have hu : u.outlet = s.outlet.receive (s.received payload).length none := by
    simp only [u, outlet, Outlet.receive, BufferPool.bufSize_write, BufferPool.bufSize_acquire]
    simp [BufferPool.write, data, received]
  split
  case isTrue hnil =>
    have hdata : s.received payload = [] := hnil
    have hitem : s.acceptedItem cfg payload = none := by
      rw [acceptedItem, hdata]
      rfl
    rw [hitem]
    exact hu
  case isFalse =>
    show y.outlet = _
    refine outlet_processed (d := payload) (u := w) hu rfl ?_
    split
    · rfl
    · exact outlet_of_buffers (s := x) (buffers_startSession opened out.packet)

/-- A packet leaves the bytes that were received. -/
theorem respBuf_handleInterleavedPacket (channel : UInt8) (packet : Bytes) :
    (s.handleInterleavedPacket cfg channel packet).respBuf = s.respBuf := by
  rw [handleInterleavedPacket]
  split
  · rfl
  · dsimp only
    split
    · rw [queuePacket]
      split <;> rfl
    · rfl

/-- What a frame of the server does to the outlet. -/
theorem outlet_handleInterleavedPacket (channel : UInt8) (packet : Bytes) :
    (s.handleInterleavedPacket cfg channel packet).outlet =
      if channel = s.interleavedRtpChannel then
        s.outlet.receive (s.received packet).length (s.acceptedItem cfg packet)
      else s.outlet := by
  unfold handleInterleavedPacket
  extract_lets data out u v
  by_cases hchannel : channel = s.interleavedRtpChannel
  · rw [if_neg (not_not.2 hchannel), if_pos hchannel]
    have hu : u.outlet = s.outlet.receive (s.received packet).length none := by
      simp only [u, outlet, Outlet.receive, BufferPool.bufSize_write, BufferPool.bufSize_acquire]
      simp [BufferPool.write, data, received]
    show v.outlet = _
    exact outlet_processed hu rfl rfl
  · rw [if_pos hchannel, if_neg hchannel]

/-- A turn of the loop that writes to the client: the client takes some of the front packet, no
    more than was offered, or nothing. -/
theorem outlet_clientSendTurn (r : SendResult) :
    (s.clientSendTurn r).state.outlet = s.outlet ∨
    ∃ n, (∀ p ∈ s.sendQueue.packets.head?, n ≤ p.rest.length) ∧
      (s.clientSendTurn r).state.outlet = s.outlet.advance n := by
  unfold clientSendTurn
  cases hq : s.sendQueue.packets with
  | nil => exact .inl rfl
  | cons p ps =>
    dsimp only
    split
    · left
      split
      · rfl
      · exact outlet_of_buffers buffers_onClientClosed
    · right
      refine ⟨r.taken p.rest.length, fun p' hp' => ?_, ?_⟩
      · cases hp'
        exact Nat.min_le_right _ _
      · split <;> rfl

/-- The packet of the server that a step handles. -/
def packetOf (s : RtspToHttpClient) : Event → Option Bytes
  | .rtpReadable _ payload => some payload
  | .rtspTurn =>
    match frontFrame s.respBuf with
    | some (channel, packet) => if channel = s.interleavedRtpChannel then some packet else none
    | none => none
  | _ => none

/-- The message at the start of a buffer: its header block, its body and its length. -/
def frontMessage (buf : Bytes) : Option (Bytes × Bytes × Nat) :=
  if buf = [] ∨ buf.head? = some 36 then none
  else match find crlf2 buf with
    | none => none
    | some i =>
      let header := buf.take (i + 4)
      if buf.length < messageSize buf i then none
      else some (header,
        (buf.drop (i + 4)).take (toSize (RtspParser.getContentLength header)), messageSize buf i)

/-- A turn over the bytes of the upstream: a frame, or a message is handled, or nothing complete
    is there. -/
theorem rtspTurn_eq : s.rtspTurn cfg =
    match frontFrame s.respBuf, frontMessage s.respBuf with
    | some (channel, packet), _ =>
      .ok (.again (((s.countReceived (4 + packet.length)).handleInterleavedPacket cfg channel
        packet).skipResp (4 + packet.length)))
    | none, some (header, body, size) => (s.skipResp size).handleMessage cfg header body
    | none, none => .ok (.leave s) := by
  unfold rtspTurn
  extract_lets buf
  by_cases hnil : buf = []
  · have hbuf : s.respBuf = [] := hnil
    rw [if_pos hnil, hbuf]
    rfl
  · rw [if_neg hnil]
    by_cases hhead : buf.head? = some 36
    · rw [if_pos hhead, frontMessage, if_pos (.inr hhead), frontFrame, if_pos hhead]
      cases hsize : frameSize buf with
      | none => rfl
      | some size =>
        obtain ⟨h4, hle, _⟩ := frameSize_le hsize
        have hlen : 4 + ((buf.take size).drop 4).length = size := by
          rw [List.length_drop, List.length_take]
          omega
        dsimp only [Option.map_some]
        rw [show 4 + ((s.respBuf.take size).drop 4).length = size from hlen]
    · rw [if_neg hhead, frontMessage, if_neg (not_or.2 ⟨hnil, hhead⟩), frontFrame, if_neg hhead]
      cases hi : find crlf2 buf with
      | none => rfl
      | some i =>
        dsimp only
        split
        · rfl
        · rfl

/-- A turn over the bytes of the upstream does to the outlet what its packet does. -/
theorem outlet_rtspTurn : (ending (s.rtspTurn cfg)).outlet =
    match s.packetOf .rtspTurn with
    | some packet => s.outlet.receive (s.received packet).length (s.acceptedItem cfg packet)
    | none => s.outlet := by
  rw [rtspTurn_eq, packetOf]
  rcases hframe : frontFrame s.respBuf with _ | ⟨channel, packet⟩
  · rcases frontMessage s.respBuf with _ | ⟨header, body, size⟩
    · rfl
    · exact outlet_of_buffers (s := s.skipResp size) (buffers_handleMessage header body)
  · refine (outlet_handleInterleavedPacket (s := s.countReceived (4 + packet.length)) channel
      packet).trans ?_
    show (if channel = s.interleavedRtpChannel then _ else _) = _
    dsimp only
    split
    · rfl
    · rfl

/-- What a step does to the outlet: a packet of the server is received, or the client takes some
    of the front packet, no more than was offered, or nothing. -/
theorem outlet_of_step (cfg : ServerConfig) (s : RtspToHttpClient) (e : Event) :
    (∃ packet, s.packetOf e = some packet ∧ (step cfg s e).outlet =
      s.outlet.receive (s.received packet).length (s.acceptedItem cfg packet)) ∨
    (step cfg s e).outlet = s.outlet ∨
    ∃ n, (∀ p ∈ s.sendQueue.packets.head?, n ≤ p.rest.length) ∧
      (step cfg s e).outlet = s.outlet.advance n := by
  cases e with
  | rtpReadable opened payload => exact .inl ⟨payload, rfl, outlet_onRtpReadable opened payload⟩
  | rtspTurn =>
    have hturn := @outlet_rtspTurn cfg s
    rcases hpacket : s.packetOf .rtspTurn with _ | packet
    · rw [hpacket] at hturn
      exact .inr (.inl hturn)
    · rw [hpacket] at hturn
      exact .inl ⟨packet, rfl, hturn⟩
  | sendClient r => exact .inr (outlet_clientSendTurn r)
  | receiveRtsp bytes => exact .inr (.inl rfl)
  | rtspLost => exact .inr (.inl (outlet_of_buffers buffers_notifyClosed))
  | rtspWritable calls => exact .inr (.inl (outlet_of_buffers (buffers_onRtspWritable calls)))
  | clientClosed => exact .inr (.inl (outlet_of_buffers buffers_onClientClosed))
  | timer => exact .inr (.inl (outlet_of_buffers buffers_handleTimer))
  | clientSent =>
    refine .inr (.inl ?_)
    show (s.onClientWritable []).outlet = _
    rw [onClientWritable]
    split <;> rfl

end RtspToHttpClient

import RtsProxy.Clients.RtspToRtsp.Handlers

/-!
# The core of a relayed RTSP session

What the handlers do to the pool, to the queue towards the client and to the messages
pushed to the upstream (`RtspToRtspClient.core`), in a few operations. How URIs are rewritten
belongs to the core too: it never changes. Each handler has one
lemma that says which; everything else it changes leaves the core alone.

* `core_upstreamTurn`: a turn of the loop over the bytes of the upstream;
* `core_downstreamTurn`: a turn of the loop over the bytes of the client.
-/

open Text Interleaved

/-- The pool, the queue towards the client, the messages pushed to the upstream, and what
    the session was set up with. -/
structure Core where
  pool : BufferPool
  queue : SendQueue
  pushed : List Pushed
  proxyUriPrefix : Bytes
  upstreamUriBase : Bytes
  rtspUrl : Bytes
  deriving DecidableEq

namespace Core

/-- A block is taken and `n` bytes are put into it. -/
def fill (c : Core) (n : Nat) : Core := { c with pool := c.pool.acquire.write n }

/-- A block is given back. -/
def release (c : Core) : Core := { c with pool := c.pool.release }

/-- A packet is framed and queued. -/
def sendFrame (c : Core) (channel : UInt8) (data : Bytes) : Core :=
  let len := RtspToRtspClient.frameLength c.pool.bufSize data.length
  let pool := ((((c.pool.acquire.write 1).write 2).write 4).write (4 + len))
  { c with
    pool := if downstreamLimit < c.queue.packets.length then pool.release else pool
    queue := c.queue.pushBounded downstreamLimit
      (RtspToRtspClient.frameItem c.pool.bufSize channel data) }

/-- The socket takes `n` bytes of the front packet; with the last of them, its block is given
    back. -/
def advance (c : Core) (n : Nat) : Core :=
  match c.queue.packets with
  | [] => c
  | p :: _ =>
    { c with
      pool := if p.offset + n = p.data.length then c.pool.release else c.pool
      queue := c.queue.advance n }

/-- A packet is framed and queued, if there is one. -/
def sendFrame? (c : Core) : Option (UInt8 × Bytes) → Core
  | none => c
  | some (channel, data) => c.sendFrame channel data

/-- A reply is put into a block and queued. -/
def queueResponse (c : Core) (resp : Bytes) : Core :=
  { c.fill resp.length with queue := c.queue.push { kind := .response, data := resp } }

/-- A message is pushed to the upstream. -/
def pushUpstream (c : Core) (p : Pushed) : Core := { c with pushed := c.pushed ++ [p] }

/-- Messages are pushed to the upstream. -/
def pushAll (c : Core) (ps : List Pushed) : Core := { c with pushed := c.pushed ++ ps }

/-- Something is done, a block being held meanwhile if `n` bytes have been put into one. -/
def holding (n : Option Nat) (f : Core → Core) (c : Core) : Core :=
  match n with
  | none => f c
  | some n => (f (c.fill n)).release

variable {c : Core} {channel : UInt8} {data : Bytes} {frame : Option (UInt8 × Bytes)} {n : Nat}

@[simp] theorem bufSize_fill : (c.fill n).pool.bufSize = c.pool.bufSize := by simp [fill]

@[simp] theorem bufSize_sendFrame :
    (c.sendFrame channel data).pool.bufSize = c.pool.bufSize := by
  simp only [sendFrame]
  split <;> simp

@[simp] theorem bufSize_sendFrame? : (c.sendFrame? frame).pool.bufSize = c.pool.bufSize := by
  cases frame with
  | none => rfl
  | some f => exact bufSize_sendFrame

end Core

namespace RtspToRtspClient

/-- The core of a session. -/
def core (s : RtspToRtspClient) : Core :=
  ⟨s.pool, s.toDownstreamQ, s.pushed, s.proxyUriPrefix, s.upstreamUriBase, s.ctx.rtspUrl⟩

variable {s t : RtspToRtspClient} {cfg : ServerConfig}

/-! ## What leaves the core alone -/

@[simp] theorem core_sendTo (socket : RelaySocket) (dest : SockAddr) (payload : Bytes) :
    (s.sendTo socket dest payload).core = s.core := rfl

@[simp] theorem core_closeAll : s.closeAll.core = s.core := rfl

@[simp] theorem core_skipDownstream (n : Nat) : (s.skipDownstream n).core = s.core := rfl

@[simp] theorem core_skipUpstream (n : Nat) : (s.skipUpstream n).core = s.core := rfl

@[simp] theorem core_sendRtpTrigger : s.sendRtpTrigger.core = s.core := by
  unfold sendRtpTrigger
  split
  · rfl
  · dsimp only
    split <;> rfl

@[simp] theorem core_sendZteHeartbeat : (s.sendZteHeartbeat cfg).core = s.core := by
  unfold sendZteHeartbeat
  split <;> rfl

@[simp] theorem core_openPorts : (s.openPorts cfg).core = s.core := by
  unfold openPorts
  split <;> simp

@[simp] theorem core_startStreaming (resp : Bytes) : (s.startStreaming cfg resp).core = s.core := by
  unfold startStreaming
  split
  · dsimp only
    split
    · rfl
    · rw [core_openPorts]
      rfl
  · rfl

theorem core_learnServerPorts {transport : Bytes}
    (h : s.learnServerPorts cfg transport = .ok t) : t.core = s.core := by
  unfold learnServerPorts at h
  split at h
  · cases h
    rfl
  · obtain ⟨rtp, _, h⟩ := Except.bind_eq_ok_iff.1 h
    obtain ⟨rtcp, _, h⟩ := Except.bind_eq_ok_iff.1 h
    cases h
    dsimp only
    split
    · rfl
    · rw [core_openPorts]
      rfl

theorem core_patchTransport {resp msg : Bytes} (h : s.patchTransport cfg resp = .ok (t, msg)) :
    t.core = s.core := by
  unfold patchTransport at h
  dsimp only at h
  split at h
  · cases h
    rfl
  · obtain ⟨t', ht, h⟩ := Except.bind_eq_ok_iff.1 h
    cases h
    exact core_learnServerPorts ht

theorem core_patchResponseForClient {resp msg : Bytes}
    (h : s.patchResponseForClient cfg resp = .ok (t, msg)) : t.core = s.core := by
  unfold patchResponseForClient at h
  obtain ⟨⟨t', msg₁⟩, ht, h⟩ := Except.bind_eq_ok_iff.1 h
  obtain ⟨re, _, h⟩ := Except.bind_eq_ok_iff.1 h
  obtain ⟨msg₂, _, h⟩ := Except.bind_eq_ok_iff.1 h
  obtain ⟨msg₃, _, h⟩ := Except.bind_eq_ok_iff.1 h
  cases h
  exact core_patchTransport ht

theorem core_learnUpstreamTransport {resp : Bytes}
    (h : s.learnUpstreamTransport resp = .ok t) : t.core = s.core := by
  unfold learnUpstreamTransport at h
  split at h
  · obtain ⟨channels, _, h⟩ := Except.bind_eq_ok_iff.1 h
    split at h <;> cases h <;> rfl
  · cases h
    rfl

theorem core_learnClientTransport {req : Bytes} (h : s.learnClientTransport req = .ok t) :
    t.core = s.core := by
  unfold learnClientTransport at h
  obtain ⟨channels, _, h⟩ := Except.bind_eq_ok_iff.1 h
  split at h
  · cases h
    rfl
  · obtain ⟨ports, _, h⟩ := Except.bind_eq_ok_iff.1 h
    split at h <;> cases h <;> rfl

@[simp] theorem core_initRelaySockets (ports : RelayPorts) :
    (s.initRelaySockets ports).2.core = s.core := by
  unfold initRelaySockets
  split
  · rfl
  · dsimp only
    split <;> rfl

@[simp] theorem core_patchTransportForUpstream (req : Bytes) :
    (s.patchTransportForUpstream cfg req).1.core = s.core := by
  unfold patchTransportForUpstream
  dsimp only
  split <;> rfl

@[simp] theorem core_handleInterleavedFromClient (channel : UInt8) (data : Bytes) :
    (s.handleInterleavedFromClient channel data).core = s.core := by
  unfold handleInterleavedFromClient
  dsimp only
  split
  · split <;> rfl
  · split
    · split <;> rfl
    · rfl

@[simp] theorem core_handleRtpFromClient (d : Incoming) :
    (s.handleRtpFromClient d).core = s.core := by
  unfold handleRtpFromClient
  split
  · dsimp only
    split <;> rfl
  · rfl

@[simp] theorem core_handleRtcpFromClient (d : Incoming) :
    (s.handleRtcpFromClient d).core = s.core := by
  unfold handleRtcpFromClient
  split
  · dsimp only
    split <;> rfl
  · rfl

@[simp] theorem rtspUrl_parseSessionId (resp : Bytes) (ctx : RtspCtx) :
    (RtspParser.parseSessionId resp ctx).rtspUrl = ctx.rtspUrl := by
  unfold RtspParser.parseSessionId
  split <;> rfl

@[simp] theorem core_learnSession (resp : Bytes) : (s.learnSession resp).core = s.core := by
  rw [core, learnSession, rtspUrl_parseSessionId]
  rfl

/-- The end of the loop that writes to the client changes what is waited for only. -/
@[simp] theorem core_downstreamSent : (s.onDownstreamWritable []).core = s.core := by
  unfold onDownstreamWritable drainDownstream
  dsimp only
  split <;> rfl

/-! ## Sending to the upstream -/

theorem core_upstreamSendTurn (r : SendResult) : (s.upstreamSendTurn r).state.core = s.core := by
  unfold upstreamSendTurn
  split
  · rfl
  · split
    · dsimp only
      split <;> rfl
    · split <;> rfl

@[simp] theorem core_drainUpstream (rs : List SendResult) :
    (s.drainUpstream rs).2.core = s.core := by
  induction rs generalizing s with
  | nil => rfl
  | cons r rs ih =>
    have hturn := core_upstreamSendTurn (s := s) r
    unfold drainUpstream
    split
    case h_1 t ht => rwa [ht] at hturn
    case h_2 t ht =>
      rw [ht] at hturn
      rw [ih, ← hturn]
      rfl

/-- The first request of a session, as it is pushed when the upstream is connected. -/
def firstPush (s : RtspToRtspClient) : Pushed :=
  ⟨.first, s.downstreamRecvBuf, s.rewriteRequestForUpstream s.downstreamRecvBuf⟩

@[simp] theorem core_upstreamConnected (localName : Option SockAddr) :
    (s.upstreamConnected localName).core =
      if s.downstreamRecvBuf = [] then s.core else s.core.pushUpstream s.firstPush := by
  unfold upstreamConnected
  cases localName with
  | none =>
    dsimp only
    split <;> rfl
  | some name =>
    dsimp only
    split <;> rfl

/-- The first request is pushed when the connection to the upstream is made. -/
def pushesFirst (calls : UpstreamCalls) (s : RtspToRtspClient) : Bool :=
  s.state = .waitUpstreamConnect && !calls.connectFailed && s.downstreamRecvBuf ≠ []

theorem core_onUpstreamWritable (calls : UpstreamCalls) :
    (s.onUpstreamWritable calls).core =
      if s.pushesFirst calls then s.core.pushUpstream s.firstPush else s.core := by
  unfold onUpstreamWritable
  split
  case isTrue h =>
    rw [Bool.and_eq_true] at h
    simp [pushesFirst, h.2]
  case isFalse h =>
    have hdrain : ∀ u : RtspToRtspClient,
        (if (u.drainUpstream calls.sends).1 then
          { (u.drainUpstream calls.sends).2 with
            upstreamEvents :=
              { readable := true
                writable := !(u.drainUpstream calls.sends).2.toUpstreamQ.isEmpty } }
        else (u.drainUpstream calls.sends).2).core = u.core := by
      intro u
      split
      · exact core_drainUpstream calls.sends
      · exact core_drainUpstream calls.sends
    rw [hdrain]
    by_cases hstate : s.state = .waitUpstreamConnect
    · have hok : calls.connectFailed = false := by simpa [hstate] using h
      rw [if_pos hstate, core_upstreamConnected]
      by_cases hbuf : s.downstreamRecvBuf = [] <;> simp [pushesFirst, hstate, hok, hbuf]
    · simp [pushesFirst, hstate]

/-! ## Media -/

@[simp] theorem core_sendInterleavedDownstream (channel : UInt8) (data : Bytes) :
    (s.sendInterleavedDownstream channel data).core =
      if s.closed then s.core else s.core.sendFrame channel data := by
  unfold sendInterleavedDownstream
  split <;> rfl

/-- The frame a packet is sent to the client in, if it is sent over the connection. -/
def mediaFrame (s : RtspToRtspClient) (channel : UInt8) (data : Bytes) : Option (UInt8 × Bytes) :=
  if s.isDownstreamTcp && !s.closed then some (channel, data) else none

/-- The frame for an RTP packet: what the pipeline leaves of it. -/
def rtpFrame (cfg : ServerConfig) (s : RtspToRtspClient) (data : Bytes) :
    Option (UInt8 × Bytes) :=
  let out := RtpPipeline.process cfg s.waitForKeyframe data
  if out.forward then s.mediaFrame s.dsInterleavedRtp out.packet else none

/-- Relaying a packet frames it, or sends a datagram. -/
theorem core_relayToClient {channel : UInt8} {socket : RelaySocket} {dest : SockAddr}
    {account : Nat → RtspToRtspClient → RtspToRtspClient} {data : Bytes}
    (haccount : ∀ n u, (account n u).core = u.core) :
    (s.relayToClient channel socket dest account data).core =
      s.core.sendFrame? (s.mediaFrame channel data) := by
  unfold relayToClient mediaFrame
  cases htcp : s.isDownstreamTcp with
  | false =>
    by_cases hport : dest.port = 0
    · simp [hport, Core.sendFrame?]
    · simp [hport, Core.sendFrame?, haccount]
  | true => cases hclosed : s.closed <;> simp [hclosed, Core.sendFrame?]

@[simp] theorem core_handleRtpFromUpstream (d : Incoming) :
    (s.handleRtpFromUpstream cfg d).core = s.core.sendFrame? (s.rtpFrame cfg d.payload) := by
  unfold handleRtpFromUpstream rtpFrame
  extract_lets out src u
  cases out.forward with
  | false => rfl
  | true => exact core_relayToClient (s := u) fun _ _ => rfl

@[simp] theorem core_handleRtcpFromUpstream (d : Incoming) :
    (s.handleRtcpFromUpstream d).core =
      s.core.sendFrame? (s.mediaFrame s.dsInterleavedRtcp d.payload) :=
  core_relayToClient (s := s.countReceived d.payload.length) fun _ _ => rfl

/-- The frame for a packet of the server received inside the connection. -/
def interleavedFrame (cfg : ServerConfig) (s : RtspToRtspClient) (channel : UInt8)
    (data : Bytes) : Option (UInt8 × Bytes) :=
  if channel = s.usInterleavedRtp then s.rtpFrame cfg (data.take (min data.length s.pool.bufSize))
  else if channel = s.usInterleavedRtcp then s.mediaFrame s.dsInterleavedRtcp data
  else none

/-- A packet received inside the connection is copied into a block if it is an RTP packet,
    no more of it than fits. -/
theorem core_handleInterleavedFromUpstream (channel : UInt8) (data : Bytes) :
    (s.handleInterleavedFromUpstream cfg channel data).core =
      if channel = s.usInterleavedRtp then
        ((s.core.fill (min data.length s.pool.bufSize)).sendFrame?
          (s.interleavedFrame cfg channel data)).release
      else s.core.sendFrame? (s.interleavedFrame cfg channel data) := by
  unfold handleInterleavedFromUpstream
  by_cases hrtp : channel = s.usInterleavedRtp
  · rw [if_pos hrtp, if_pos hrtp, interleavedFrame, if_pos hrtp, rtpFrame]
    extract_lets n out src u v
    refine @congrArg _ _ v.core _ Core.release ?_
    simp only [v]
    cases out.forward with
    | false => rfl
    | true => exact core_relayToClient (s := u) fun _ _ => rfl
  · rw [if_neg hrtp, if_neg hrtp, interleavedFrame, if_neg hrtp]
    by_cases hrtcp : channel = s.usInterleavedRtcp
    · rw [if_pos hrtcp, if_pos hrtcp]
      exact core_relayToClient (s := { s with upstreamEst := s.upstreamEst + data.length })
        fun _ _ => rfl
    · rw [if_neg hrtcp, if_neg hrtcp]
      rfl

/-! ## The loop over the bytes of the upstream -/

/-- The complete message at the start of a buffer, its body included. -/
def frontMessage (buf : Bytes) : Option Bytes :=
  if buf = [] ∨ buf.head? = some 36 then none
  else match find crlf2 buf with
    | none => none
    | some i => if buf.length < messageSize buf i then none else some (buf.take (messageSize buf i))

/-- A turn of the loop: nothing complete is there, or a frame, or a message is handled. -/
theorem upstreamTurn_cases {calls : UpstreamCalls} {r : Turn RtspToRtspClient}
    (h : s.upstreamTurn cfg calls = .ok r) :
    (r = .leave s ∧ frontFrame s.upstreamRecvBuf = none ∧ frontMessage s.upstreamRecvBuf = none) ∨
    (∃ channel data, frontFrame s.upstreamRecvBuf = some (channel, data) ∧
      r = .again ((s.handleInterleavedFromUpstream cfg channel data).skipUpstream
        (4 + data.length))) ∨
    ∃ msg t, frontFrame s.upstreamRecvBuf = none ∧ frontMessage s.upstreamRecvBuf = some msg ∧
      (s.skipUpstream msg.length).handleResponse cfg calls msg = .ok t ∧ r = .again t := by
  unfold upstreamTurn at h
  extract_lets buf at h
  by_cases hnil : buf = []
  · rw [if_pos hnil] at h
    cases h
    exact .inl ⟨rfl, by simp [frontFrame, show s.upstreamRecvBuf = [] from hnil],
      by simp [frontMessage, show s.upstreamRecvBuf = [] from hnil]⟩
  · rw [if_neg hnil] at h
    by_cases hd : buf.head? = some 36
    · rw [if_pos hd] at h
      have hmsg : frontMessage buf = none := if_pos (.inr hd)
      cases hsize : frameSize buf with
      | none =>
        rw [hsize] at h
        cases h
        exact .inl ⟨rfl, by simp [frontFrame, buf, hsize], hmsg⟩
      | some size =>
        rw [hsize] at h
        cases h
        obtain ⟨h4, hle, _⟩ := frameSize_le hsize
        refine .inr (.inl ⟨RtpPipeline.byteAt buf 1, (buf.take size).drop 4, ?_, ?_⟩)
        · rw [frontFrame, if_pos hd]
          exact congrArg (Option.map _) hsize
        · have hlen : 4 + ((buf.take size).drop 4).length = size := by
            rw [List.length_drop, List.length_take]
            omega
          rw [hlen]
    · rw [if_neg hd] at h
      have hframe : frontFrame buf = none := if_neg hd
      have hmsg : frontMessage buf = match find crlf2 buf with
          | none => none
          | some i => if buf.length < messageSize buf i then none
            else some (buf.take (messageSize buf i)) :=
        if_neg (not_or.2 ⟨hnil, hd⟩)
      cases hi : find crlf2 buf with
      | none =>
        rw [hi] at h hmsg
        cases h
        exact .inl ⟨rfl, hframe, hmsg⟩
      | some i =>
        rw [hi] at h hmsg
        dsimp only at h hmsg
        split at h
        case isTrue hlt =>
          cases h
          rw [if_pos hlt] at hmsg
          exact .inl ⟨rfl, hframe, hmsg⟩
        case isFalse hge =>
          rw [if_neg hge] at hmsg
          obtain ⟨t, ht, rfl⟩ := Except.map_eq_ok_iff.1 h
          have hlen : (buf.take (messageSize buf i)).length = messageSize buf i := by
            rw [List.length_take]
            omega
          refine .inr (.inr ⟨_, t, hframe, hmsg, ?_, rfl⟩)
          rw [hlen]
          exact ht

/-- A buffer that starts with a frame starts with no message. -/
theorem frontMessage_of_frontFrame {buf : Bytes} {f : UInt8 × Bytes}
    (h : frontFrame buf = some f) : frontMessage buf = none :=
  if_pos (.inr (head_of_frontFrame h))

/-- The `SETUP` that is pushed when UDP is rejected. -/
def retryPush (s : RtspToRtspClient) : Pushed :=
  let req := patchTransportForUpstreamTcp s.lastSetupReq
  ⟨.retry, req, s.rewriteRequestForUpstream req⟩

/-- A reply is swallowed, leads to another `SETUP`, or is patched and queued. -/
theorem handleResponse_cases {calls : UpstreamCalls} {resp : Bytes}
    (h : s.handleResponse cfg calls resp = .ok t) :
    (isKeepaliveReply resp = true ∧ t = s) ∨
    (isKeepaliveReply resp = false ∧ s.wantsRetry resp = true ∧
      t = (s.learnSession resp).retrySetup calls) ∨
    (isKeepaliveReply resp = false ∧ s.wantsRetry resp = false ∧
      ∃ u v patched,
        (s.learnSession resp).learnUpstreamTransport resp = .ok u ∧
        u.patchResponseForClient cfg resp = .ok (v, patched) ∧
        t = (v.startStreaming cfg resp).queueResponse patched) := by
  unfold handleResponse at h
  cases hka : isKeepaliveReply resp with
  | true =>
    rw [hka, if_pos rfl] at h
    cases h
    exact .inl ⟨rfl, rfl⟩
  | false =>
    rw [hka, if_neg Bool.false_ne_true] at h
    have hwants : (s.learnSession resp).wantsRetry resp = s.wantsRetry resp := rfl
    dsimp only at h
    rw [hwants] at h
    cases hretry : s.wantsRetry resp with
    | true =>
      rw [hretry, if_pos rfl] at h
      cases h
      exact .inr (.inl ⟨rfl, rfl, rfl⟩)
    | false =>
      rw [hretry, if_neg Bool.false_ne_true] at h
      obtain ⟨u, hu, h⟩ := Except.bind_eq_ok_iff.1 h
      obtain ⟨⟨v, patched⟩, hv, h⟩ := Except.bind_eq_ok_iff.1 h
      cases h
      exact .inr (.inr ⟨rfl, rfl, u, v, patched, hu, hv, rfl⟩)

/-- What the retried `SETUP` does to the core. -/
theorem core_retrySetup (calls : UpstreamCalls) :
    (s.retrySetup calls).core =
      if s.pushesFirst calls then (s.core.pushUpstream s.retryPush).pushUpstream s.firstPush
      else s.core.pushUpstream s.retryPush := by
  unfold retrySetup
  rw [core_onUpstreamWritable]
  rfl

/-- The queued reply. -/
theorem core_queueResponse (resp : Bytes) :
    (s.queueResponse resp).core = s.core.queueResponse resp := rfl

/-! ## The loop over the bytes of the client -/

/-- The complete request at the start of a buffer. -/
def frontRequest (buf : Bytes) : Option Bytes :=
  if buf = [] ∨ buf.head? = some 36 then none
  else (find crlf2 buf).map fun i => buf.take (i + 4)

/-- A buffer that starts with a frame starts with no request. -/
theorem frontRequest_of_frontFrame {buf : Bytes} {f : UInt8 × Bytes}
    (h : frontFrame buf = some f) : frontRequest buf = none :=
  if_pos (.inr (head_of_frontFrame h))

theorem frontFrame_of_frontRequest {buf req : Bytes} (h : frontRequest buf = some req) :
    frontFrame buf = none := by
  rcases hf : frontFrame buf with _ | f
  · rfl
  · rw [frontRequest_of_frontFrame hf] at h
    cases h

/-- A turn of the loop: nothing complete is there, or a frame, or a request is handled. -/
theorem downstreamTurn_cases {ports : RelayPorts} {r : Turn RtspToRtspClient}
    (h : s.downstreamTurn cfg ports = .ok r) :
    (r = .leave s ∧ frontFrame s.downstreamRecvBuf = none ∧
      frontRequest s.downstreamRecvBuf = none) ∨
    (∃ channel data, frontFrame s.downstreamRecvBuf = some (channel, data) ∧
      r = .again ((s.handleInterleavedFromClient channel data).skipDownstream
        (4 + data.length))) ∨
    ∃ req, frontRequest s.downstreamRecvBuf = some req ∧
      (s.skipDownstream req.length).handleRequest cfg ports req = .ok r := by
  unfold downstreamTurn at h
  extract_lets buf at h
  by_cases hnil : buf = []
  · rw [if_pos hnil] at h
    cases h
    exact .inl ⟨rfl, by simp [frontFrame, show s.downstreamRecvBuf = [] from hnil],
      if_pos (.inl hnil)⟩
  · rw [if_neg hnil] at h
    by_cases hd : buf.head? = some 36
    · rw [if_pos hd] at h
      cases hsize : frameSize buf with
      | none =>
        rw [hsize] at h
        cases h
        exact .inl ⟨rfl, by simp [frontFrame, buf, hsize], if_pos (.inr hd)⟩
      | some size =>
        rw [hsize] at h
        cases h
        obtain ⟨h4, hle, _⟩ := frameSize_le hsize
        refine .inr (.inl ⟨RtpPipeline.byteAt buf 1, (buf.take size).drop 4, ?_, ?_⟩)
        · rw [frontFrame, if_pos hd]
          exact congrArg (Option.map _) hsize
        · have hlen : 4 + ((buf.take size).drop 4).length = size := by
            rw [List.length_drop, List.length_take]
            omega
          rw [hlen]
    · rw [if_neg hd] at h
      have hreq : frontRequest buf = (find crlf2 buf).map fun i => buf.take (i + 4) :=
        if_neg (not_or.2 ⟨hnil, hd⟩)
      cases hi : find crlf2 buf with
      | none =>
        rw [hi] at h hreq
        cases h
        exact .inl ⟨rfl, if_neg hd, hreq⟩
      | some i =>
        rw [hi] at h hreq
        have hlen : (buf.take (i + 4)).length = i + 4 := by
          have := find_add_length_le hi
          rw [List.length_take]
          exact Nat.min_eq_left this
        refine .inr (.inr ⟨buf.take (i + 4), hreq, ?_⟩)
        rw [hlen]
        exact h

/-- A request that is pushed. -/
def clientPush (s : RtspToRtspClient) (req : Bytes) : Pushed :=
  ⟨.client, req, s.rewriteRequestForUpstream req⟩

@[simp] theorem core_forwardRequest (isPlay : Bool) (req : Bytes) :
    (s.forwardRequest isPlay req).core = s.core.pushUpstream (s.clientPush req) := rfl

/-- The text of a request as its URI is about to be rewritten: of a `SETUP`, the transport
    has been patched. -/
def patchedRequest (cfg : ServerConfig) (ports : RelayPorts) (s : RtspToRtspClient)
    (req : Bytes) : Bytes :=
  if (ascii "SETUP ").isPrefixOf req then
    let s := if s.relayReady then s else (s.initRelaySockets ports).2
    (s.patchTransportForUpstream cfg req).2
  else req

/-- A text as it is rewritten depends on the core only. -/
theorem rewriteRequestForUpstream_congr (h : t.core = s.core) (req : Bytes) :
    t.rewriteRequestForUpstream req = s.rewriteRequestForUpstream req := by
  have hp : t.proxyUriPrefix = s.proxyUriPrefix := congrArg Core.proxyUriPrefix h
  have hb : t.upstreamUriBase = s.upstreamUriBase := congrArg Core.upstreamUriBase h
  rw [rewriteRequestForUpstream, rewriteRequestForUpstream, hp, hb]

/-- What the transport of a forwarded `SETUP` is made from. -/
def relayPorts (s : RtspToRtspClient) : Bytes × Nat × Nat × Nat :=
  (s.localIp, s.localRtpUsPort, s.localRtcpUsPort, s.natWanPortUs)

theorem patchTransportForUpstream_congr (h : t.relayPorts = s.relayPorts) (req : Bytes) :
    (t.patchTransportForUpstream cfg req).2 = (s.patchTransportForUpstream cfg req).2 := by
  simp only [relayPorts, Prod.mk.injEq] at h
  obtain ⟨hip, hrtp, hrtcp, hnat⟩ := h
  have htransport : ∀ transport,
      upstreamTransport cfg t transport = upstreamTransport cfg s transport := by
    intro transport
    simp only [upstreamTransport, hip, hrtp, hrtcp, hnat]
  unfold patchTransportForUpstream
  dsimp only
  split
  · rfl
  · rw [htransport]

/-- What a client asks for does not change the ports of the relay. -/
theorem relayPorts_learnClientTransport {req : Bytes} (h : s.learnClientTransport req = .ok t) :
    t.relayPorts = s.relayPorts ∧ t.relayReady = s.relayReady := by
  unfold learnClientTransport at h
  obtain ⟨channels, _, h⟩ := Except.bind_eq_ok_iff.1 h
  split at h
  · cases h
    exact ⟨rfl, rfl⟩
  · obtain ⟨ports, _, h⟩ := Except.bind_eq_ok_iff.1 h
    split at h <;> cases h <;> exact ⟨rfl, rfl⟩

theorem relayPorts_initRelaySockets (ports : RelayPorts) (h : t.relayPorts = s.relayPorts) :
    (t.initRelaySockets ports).2.relayPorts = (s.initRelaySockets ports).2.relayPorts := by
  simp only [relayPorts, Prod.mk.injEq] at h
  obtain ⟨hip, hrtp, hrtcp, hnat⟩ := h
  unfold initRelaySockets
  split
  · simp [relayPorts, hip, hrtcp, hnat]
  · dsimp only
    split <;> simp [relayPorts, hip, hnat]

theorem patchedRequest_congr (hports : t.relayPorts = s.relayPorts)
    (hready : t.relayReady = s.relayReady) (ports : RelayPorts) (req : Bytes) :
    t.patchedRequest cfg ports req = s.patchedRequest cfg ports req := by
  unfold patchedRequest
  split
  · dsimp only
    rw [hready]
    refine patchTransportForUpstream_congr ?_ req
    split
    · exact hports
    · exact relayPorts_initRelaySockets ports hports
  · rfl

/-- A `SETUP` is pushed with the transport of the relay. -/
theorem core_forwardSetup {u v : RtspToRtspClient} (hcore : v.core = s.core)
    (hports : v.relayPorts = u.relayPorts) (req : Bytes) :
    ((v.patchTransportForUpstream cfg req).1.forwardRequest false
        (v.patchTransportForUpstream cfg req).2).core =
      s.core.pushUpstream (s.clientPush (u.patchTransportForUpstream cfg req).2) := by
  have hv : (v.patchTransportForUpstream cfg req).1.core = s.core := by
    rw [core_patchTransportForUpstream, hcore]
  rw [core_forwardRequest, hv, clientPush, clientPush, rewriteRequestForUpstream_congr hv,
    patchTransportForUpstream_congr hports]

/-- The ports of the relay are bound, or can be. -/
def canRelay (ports : RelayPorts) (s : RtspToRtspClient) : Bool :=
  s.relayReady || (ports.upstream.isBound && ports.downstream.isBound)

theorem initRelaySockets_ready (ports : RelayPorts) :
    (s.initRelaySockets ports).1 = (ports.upstream.isBound && ports.downstream.isBound) := by
  unfold initRelaySockets
  cases ports.upstream with
  | failed us => rfl
  | bound us =>
    dsimp only
    cases ports.downstream with
    | failed ds => rfl
    | bound ds => rfl

/-- A request is not forwarded at once: it is a `SETUP`, and the STUN server is to be asked
    first, or the ports of the relay cannot be bound. -/
def holdsBack (cfg : ServerConfig) (ports : RelayPorts) (s : RtspToRtspClient) (req : Bytes) :
    Bool :=
  (ascii "SETUP ").isPrefixOf req && (cfg.usesStun || !s.canRelay ports)

/-- A request is pushed, unless it is held back. -/
theorem core_handleRequest {ports : RelayPorts} {req : Bytes} {r : Turn RtspToRtspClient}
    (h : s.handleRequest cfg ports req = .ok r) :
    r.state.core = if s.holdsBack cfg ports req then s.core
      else s.core.pushUpstream (s.clientPush (s.patchedRequest cfg ports req)) := by
  unfold handleRequest at h
  split at h
  case isTrue hsetup =>
    unfold handleSetup at h
    obtain ⟨t, ht, h⟩ := Except.bind_eq_ok_iff.1 h
    obtain ⟨hports, hready⟩ := relayPorts_learnClientTransport ht
    have hcore := core_learnClientTransport ht
    rw [patchedRequest, if_pos hsetup, holdsBack, hsetup, Bool.true_and]
    -- the session when the relay is ready, and what it has in common with the one before
    obtain ⟨v, hv, hvcore, hvports⟩ : ∃ v,
        (if t.relayReady = true then (true, t) else t.initRelaySockets ports) =
          (s.canRelay ports, v) ∧
        v.core = s.core ∧
        v.relayPorts = (if s.relayReady then s else (s.initRelaySockets ports).2).relayPorts := by
      rw [canRelay, hready]
      cases s.relayReady with
      | true => exact ⟨t, rfl, hcore, hports⟩
      | false =>
        refine ⟨(t.initRelaySockets ports).2, ?_, ?_, relayPorts_initRelaySockets ports hports⟩
        · exact Prod.ext (initRelaySockets_ready ports) rfl
        · exact (core_initRelaySockets ports).trans hcore
    rw [hv] at h
    dsimp only at h
    cases hcan : s.canRelay ports with
    | false =>
      rw [hcan] at h
      cases h
      rw [Bool.not_false, Bool.or_true, if_pos rfl]
      exact hvcore
    | true =>
      rw [hcan, Bool.not_true, if_neg Bool.false_ne_true] at h
      cases hstun : cfg.usesStun with
      | true =>
        rw [hstun] at h
        cases h
        exact hvcore
      | false =>
        rw [hstun] at h
        cases h
        exact core_forwardSetup (v := { v with relayReady := true, lastSetupReq := req }) hvcore
          hvports req
  case isFalse hsetup =>
    cases h
    rw [patchedRequest, if_neg hsetup, holdsBack, Bool.eq_false_of_not_eq_true hsetup]
    rfl

/-! ## Datagrams -/

/-- A datagram as it is received: cut to the size of a block. -/
def received (s : RtspToRtspClient) (d : Incoming) : Bytes := d.payload.take s.pool.bufSize

/-- A turn over a datagram does to the core what its handler does, around a block that is
    filled and given back. -/
theorem core_receiveTurn {handle : Incoming → RtspToRtspClient → RtspToRtspClient}
    {frame : Option (UInt8 × Bytes)} (d : Incoming)
    (hhandle : ∀ pool : BufferPool,
      (handle { d with payload := s.received d } { s with pool := pool }).core =
        ({ s with pool := pool } : RtspToRtspClient).core.sendFrame? frame) :
    (receiveTurn handle d s).state.core =
      ((s.core.fill (s.received d).length).sendFrame?
        (if s.received d = [] then none else frame)).release := by
  unfold receiveTurn received
  dsimp only
  split
  · rfl
  · exact congrArg Core.release (hhandle _)

/-! ## Sending to the client, the STUN server and the timer -/

/-- A turn of the loop that writes to the client: the socket takes some of the front packet, no
    more than was offered, or nothing. -/
theorem core_downstreamSendTurn (r : SendResult) :
    (s.downstreamSendTurn r).state.core = s.core ∨
    ∃ n, (∀ p ∈ s.core.queue.packets.head?, n ≤ p.rest.length) ∧
      (s.downstreamSendTurn r).state.core = s.core.advance n := by
  have hqueue : s.core.queue.packets = s.toDownstreamQ.packets := rfl
  unfold downstreamSendTurn Core.advance
  rw [hqueue]
  cases s.toDownstreamQ.packets with
  | nil => exact .inl rfl
  | cons p ps =>
    dsimp only
    by_cases hn : 0 < r.taken p.rest.length
    · rw [if_pos hn]
      refine .inr ⟨r.taken p.rest.length, fun p' hp' => ?_, rfl⟩
      cases hp'
      exact Nat.min_le_right _ _
    · rw [if_neg hn]
      left
      split <;> rfl

/-- The `SETUP` that was held back, as it is pushed. -/
def pendingPush (cfg : ServerConfig) (s : RtspToRtspClient) : Pushed :=
  let req := (s.patchTransportForUpstream cfg s.pendingSetupReq).2
  ⟨.released, req, s.rewriteRequestForUpstream req⟩

/-- The transport of a request is patched, and the request is pushed. -/
theorem core_pushPatched {u : RtspToRtspClient} (origin : Origin) (req : Bytes)
    (hcore : u.core = s.core) (hports : u.relayPorts = s.relayPorts) :
    ((u.patchTransportForUpstream cfg req).1.pushUpstream origin
        (u.patchTransportForUpstream cfg req).2
        ((u.patchTransportForUpstream cfg req).1.rewriteRequestForUpstream
          (u.patchTransportForUpstream cfg req).2)).core =
      s.core.pushUpstream ⟨origin, (s.patchTransportForUpstream cfg req).2,
        s.rewriteRequestForUpstream (s.patchTransportForUpstream cfg req).2⟩ := by
  have hu : (u.patchTransportForUpstream cfg req).1.core = s.core := by
    rw [core_patchTransportForUpstream, hcore]
  rw [rewriteRequestForUpstream_congr hu, patchTransportForUpstream_congr hports, ← hu]
  rfl

theorem core_processPendingSetup :
    (s.processPendingSetup cfg).core = s.core.pushUpstream (s.pendingPush cfg) :=
  core_pushPatched (s := s)
    (u := { s with pendingSetupReq := [], lastSetupReq := s.pendingSetupReq }) .released
    s.pendingSetupReq rfl rfl

/-- The port the STUN server has seen the relay at; without an answer from it, the port of the
    relay itself. -/
def mappedPort (s : RtspToRtspClient) (data : Bytes) : Nat :=
  match StunClient.extractMapping data with
  | some mapped => mapped.port
  | none => s.localRtpUsPort

/-- The `SETUP` that a reply of the STUN server releases, as it is pushed. -/
def releasedPush (cfg : ServerConfig) (s : RtspToRtspClient) (data : Bytes) : Pushed :=
  { s with natWanPortUs := s.mappedPort data }.pendingPush cfg

/-- What is pushed depends on the rewriting of URIs and on what the transport is made from. -/
theorem pendingPush_congr (hpre : t.proxyUriPrefix = s.proxyUriPrefix)
    (hbase : t.upstreamUriBase = s.upstreamUriBase) (hports : t.relayPorts = s.relayPorts)
    (hreq : t.pendingSetupReq = s.pendingSetupReq) : t.pendingPush cfg = s.pendingPush cfg := by
  rw [pendingPush, pendingPush, hreq, patchTransportForUpstream_congr hports,
    rewriteRequestForUpstream, rewriteRequestForUpstream, hpre, hbase]

/-- A reply of the STUN server, unless it is empty, releases the `SETUP` that was held back. -/
theorem core_handleStunReply (d : Incoming) :
    (s.handleStunReply cfg d).core =
      ((s.core.fill (s.received d).length).pushAll
        (if s.received d = [] then [] else [s.releasedPush cfg (s.received d)])).release := by
  unfold handleStunReply received
  extract_lets data u port v
  refine @congrArg _ _ v.core _ Core.release ?_
  simp only [v]
  by_cases hdata : data = []
  · rw [if_pos hdata, if_pos hdata]
    exact congrArg (fun ps => { u.core with pushed := ps }) (List.append_nil _).symm
  · rw [if_neg hdata, if_neg hdata, core_processPendingSetup]
    exact congrArg (s.core.fill data.length).pushUpstream
      (pendingPush_congr (s := { s with natWanPortUs := s.mappedPort data }) rfl rfl rfl rfl)

/-- The keepalive of a session. -/
def keepalivePush (s : RtspToRtspClient) : Pushed :=
  ⟨.keepalive, [], keepaliveText s.ctx.rtspUrl s.ctx.sessionId⟩

theorem core_handleTimer : s.handleTimer.core = s.core.pushUpstream s.keepalivePush := rfl

end RtspToRtspClient

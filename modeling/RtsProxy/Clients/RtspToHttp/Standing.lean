import RtsProxy.Clients.RtspToHttp.Handshake

/-!
# The standing of an HTTP session

The fields that the handshake of a session depends on (`RtspToHttpClient.standing`), and what the
handlers make of them. What is received, queued and sent does not count, nor what the requests say.

* `standing_handleMessage`: a message of the upstream;
* `standing_onRtpReadable`, `standing_onRtspWritable`: the start of a session, and its connection.
-/

open Text

namespace RtspToHttpClient

/-- The fields that the handshake depends on. -/
structure Standing where
  closing : Bool
  callback : Bool
  started : Bool
  state : RtspState
  queue : List RtspRequest
  asked : RtspMethod
  retried : Bool
  armed : Bool
  streams : List Media

/-- The standing of a session. -/
def standing (s : RtspToHttpClient) : Standing where
  closing := s.closing
  callback := s.hasCallback
  started := s.isInitOk
  state := s.state
  queue := s.requestQueue
  asked := s.currentRequest.method
  retried := s.setupRetryWithTcp
  armed := s.timerArmed
  streams := s.ctx.mediaStreams

namespace Standing

/-- The session is given up. -/
def close (r : Standing) : Standing := if r.callback then { r with closing := true } else r

/-- A request is built. -/
def ask (method : RtspMethod) (r : Standing) : Standing := { r with queue := [], asked := method }

/-- The tracks of a description. -/
def described (sdp : Bytes) (r : Standing) : List Media :=
  if sdp = [] then r.streams
  else (RtspParser.Sdp.parseSDP sdp { mediaStreams := r.streams }).mediaStreams

/-- A track is set up, if there is one. -/
def setUp (sdp : Bytes) (r : Standing) : Standing :=
  let r := { r with streams := r.described sdp }
  if findTrack r.streams = [] then r.close else r.ask .setup

/-- A `200`. -/
def accept (header body : Bytes) (r : Standing) : Standing :=
  match r.asked with
  | .options => r.ask .describe
  | .describe => r.setUp body
  | .setup => if acceptsPorts header then r.ask .play else r.close
  | .play => { r with armed := true, state := .streaming }
  | _ => r

/-- A message of the upstream. -/
def receive (header body : Bytes) (r : Standing) : Standing :=
  if isServerRequest header then r
  else if RtspParser.parseStatusCode header = 461 ∧ r.asked = .setup ∧ r.retried = false then
    { r with retried := true }.setUp []
  else if RtspParser.parseStatusCode header ≠ 200 then r.close
  else r.accept header body

end Standing

variable {cfg : ServerConfig} {s t : RtspToHttpClient} {r : Standing} {header body : Bytes}

/-! ## What the handlers do -/

theorem standing_notifyClosed : s.notifyClosed.standing = s.standing.close := by
  rw [notifyClosed, Standing.close]
  show (if s.hasCallback then _ else s).standing = if s.hasCallback then _ else _
  split <;> rfl

/-- A request is queued behind no other, and built. -/
theorem standing_request (hqueue : s.requestQueue = []) (method : RtspMethod)
    (uri headers body : Bytes) :
    (s.pushRequestIntoQueue method uri headers body).buildAndSendRequest.standing =
      s.standing.ask method := by
  rw [buildAndSendRequest, show (s.pushRequestIntoQueue method uri headers body).requestQueue =
    s.requestQueue ++ [⟨method, uri, headers, body, s.cseq⟩] from rfl, hqueue]
  rfl

theorem standing_sendRtspOption (hqueue : s.requestQueue = []) :
    (s.sendRtspOption true).standing =
      { s.standing with state := .connecting }.ask .options :=
  standing_request (s := s.connectServer true) hqueue ..

theorem standing_queuePacket (packet : Bytes) :
    (s.queuePacket packet).standing = s.standing := by
  rw [queuePacket]
  split <;> rfl

/-- A datagram makes no difference, unless it starts the session. -/
theorem standing_onRtpReadable (hqueue : s.requestQueue = []) (payload : Bytes) :
    (s.onRtpReadable cfg true payload).standing = s.standing ∨ s.isInitOk = false ∧
      (s.onRtpReadable cfg true payload).standing =
        { s.standing with started := true, state := .connecting }.ask .options := by
  unfold onRtpReadable
  extract_lets data u out v w x y
  split
  · exact .inl rfl
  · show y.standing = _ ∨ _ ∧ y.standing = _
    simp only [y]
    by_cases hforward : out.forward
    · rw [if_pos hforward]
      exact .inl (standing_queuePacket (s := w) _)
    · rw [if_neg hforward]
      by_cases hinit : s.isInitOk
      · rw [if_pos (show x.isInitOk = true from hinit)]
        exact .inl rfl
      · have hfresh : s.isInitOk = false := Bool.eq_false_of_not_eq_true hinit
        rw [if_neg (show ¬x.isInitOk = true from hinit), startSession]
        refine .inr ⟨hfresh, (standing_sendRtspOption ?_).trans ?_⟩
        all_goals
          dsimp only
          split <;> first | exact hqueue | rfl

theorem standing_handleInterleavedPacket (channel : UInt8) (packet : Bytes) :
    (s.handleInterleavedPacket cfg channel packet).standing = s.standing := by
  unfold handleInterleavedPacket
  split
  · rfl
  · extract_lets data out u v
    show v.standing = s.standing
    simp only [v]
    split
    · exact standing_queuePacket _
    · rfl

/-- Unless sending fails, the client makes no difference. -/
theorem standing_clientSendTurn {n : SendResult} (h : 0 ≤ n.count ∨ n.wouldBlock = true) :
    (s.clientSendTurn n).state.standing = s.standing := by
  rw [clientSendTurn]
  split
  · rfl
  · split
    case isTrue hfailed =>
      rw [if_pos (h.resolve_left (not_le.2 hfailed))]
      rfl
    case isFalse =>
      dsimp only
      split <;> rfl

/-- What is sent to the upstream: with the first bytes the connection is there. -/
theorem standing_onRtspWritable {calls : RtspCalls} (h : 0 < s.taken calls) :
    (s.onRtspWritable calls).standing = { s.standing with
      state := if s.state = .connecting then .connected else s.state } := by
  rw [taken] at h
  unfold onRtspWritable
  split
  case isTrue hfailed => rw [if_pos hfailed] at h; exact absurd h (Nat.lt_irrefl 0)
  case isFalse hok =>
    rw [if_neg hok] at h
    extract_lets u n v
    have hu : u.standing = { s.standing with
        state := if s.state = .connecting then .connected else s.state } ∧
        u.reqBuf = s.reqBuf ∧ u.tcpSendOffset = s.tcpSendOffset := by
      simp only [u]
      split
      · unfold upstreamConnected
        cases calls.localName <;> exact ⟨rfl, rfl, rfl⟩
      · exact ⟨rfl, rfl, rfl⟩
    obtain ⟨hstanding, hbuf, hoffset⟩ := hu
    rw [if_pos (show 0 < n by rwa [← hbuf, ← hoffset] at h), ← hstanding]
    split <;> rfl

/-! ## Messages of the upstream -/

theorem mediaStreams_parseSessionId (header : Bytes) (ctx : RtspCtx) :
    (RtspParser.parseSessionId header ctx).mediaStreams = ctx.mediaStreams := by
  rw [RtspParser.parseSessionId]
  split <;> rfl

theorem mediaStreams_readPortPair {transport param : Bytes} {ctx : RtspCtx} {x : Bool × RtspCtx}
    (h : RtspParser.readPortPair transport param ctx = some x) :
    x.2.mediaStreams = ctx.mediaStreams := by
  obtain ⟨pos, -, h⟩ := Option.bind_eq_some_iff.1 h
  obtain ⟨dash, -, h⟩ := Option.bind_eq_some_iff.1 h
  rw [← Option.some.inj h]
  split
  · rfl
  · dsimp only
    split <;> rfl

theorem mediaStreams_parseServerPorts (header : Bytes) (ctx : RtspCtx) :
    (RtspParser.parseServerPorts header ctx).2.mediaStreams = ctx.mediaStreams := by
  rw [RtspParser.parseServerPorts]
  split
  · rfl
  · extract_lets transport
    rcases hports : RtspParser.readPortPair transport (ascii "server_port=") ctx with _ | x
    · rcases hchannels : RtspParser.readPortPair transport (ascii "interleaved=") ctx with _ | x
      · rfl
      · exact mediaStreams_readPortPair hchannels
    · exact mediaStreams_readPortPair hports

theorem standing_sendRtspSetup (hqueue : s.requestQueue = []) (sdp : Bytes) :
    (s.sendRtspSetup cfg sdp).standing = s.standing.setUp sdp := by
  unfold sendRtspSetup Standing.setUp
  extract_lets u track r
  have hu : u.standing = r := by
    simp only [u, r, Standing.described]
    split <;> rfl
  have hstreams : u.ctx.mediaStreams = r.streams := congrArg Standing.streams hu
  simp only [track]
  rw [hstreams]
  split
  · rw [standing_notifyClosed, hu]
  · rw [← hu]
    exact standing_request (s := u) ((congrArg Standing.queue hu).trans hqueue) ..

theorem standing_setupDone (hqueue : s.requestQueue = []) (header : Bytes) :
    (s.setupDone cfg header).standing = s.standing.ask .play := by
  unfold setupDone
  extract_lets u
  have hu : u.standing = s.standing := by
    simp only [u]
    split <;> rfl
  rw [← hu]
  exact standing_request (s := u) ((congrArg Standing.queue hu).trans hqueue) ..

theorem standing_handleOk (hqueue : s.requestQueue = []) (header body : Bytes) :
    (ending (s.handleOk cfg header body)).standing = s.standing.accept header body := by
  rw [handleOk, Standing.accept, show s.standing.asked = s.currentRequest.method from rfl]
  cases hm : s.currentRequest.method with
  | options => exact standing_request hqueue ..
  | describe =>
    dsimp only
    generalize RtspParser.extractHeaderValue header (ascii "Content-Base") = base
    exact standing_sendRtspSetup (s := { s with ctx := { s.ctx with contentBase := base } }) hqueue
      body
  | setup =>
    have hports := acceptsPorts_eq header s.ctx
    have hstreams := mediaStreams_parseServerPorts header s.ctx
    dsimp only
    generalize RtspParser.parseServerPorts header s.ctx = ports at hports hstreams
    have hctx : ({ s with ctx := ports.2 } : RtspToHttpClient).standing = s.standing :=
      congrArg (fun streams => { s.standing with streams := streams }) hstreams
    rw [hports]
    split
    · rw [← hctx]
      exact standing_setupDone (s := { s with ctx := ports.2 }) hqueue header
    · rw [← hctx]
      exact standing_notifyClosed (s := { s with ctx := ports.2 })
  | play =>
    show (s.startStreaming cfg).standing =
      { s.standing with asked := .play, armed := true, state := .streaming }
    rw [← hm]
    rfl
  | _ => rfl

theorem standing_handleMessage (hqueue : s.requestQueue = []) (header body : Bytes) :
    (ending (s.handleMessage cfg header body)).standing = s.standing.receive header body := by
  unfold handleMessage Standing.receive
  extract_lets u reply
  have hu : u.standing = s.standing :=
    congrArg (fun streams => { s.standing with streams := streams })
      (mediaStreams_parseSessionId header s.ctx)
  have hretry : u.wantsRetry header = true ↔ RtspParser.parseStatusCode header = 461 ∧
      s.standing.asked = .setup ∧ s.standing.retried = false := by
    simp only [wantsRetry, Bool.and_eq_true, decide_eq_true_eq, Bool.not_eq_true', and_assoc]
    exact Iff.rfl
  rw [← hu] at hretry ⊢
  split
  · rfl
  · by_cases h : u.wantsRetry header = true
    · rw [if_pos h, if_pos (hretry.1 h)]
      exact standing_sendRtspSetup (s := { u with setupRetryWithTcp := true }) hqueue []
    · rw [if_neg h, if_neg (mt hretry.2 h)]
      split
      · exact standing_notifyClosed
      · exact standing_handleOk (s := u) hqueue header body

/-! ## Sessions that have been given up -/

namespace Standing

theorem closing_close (h : r.closing = true ∨ r.callback = true) : r.close.closing = true := by
  rw [close]
  split
  · rfl
  case isFalse hcallback => exact h.resolve_right hcallback

theorem closing_setUp {sdp : Bytes} (h : r.closing = true) : (r.setUp sdp).closing = true := by
  rw [setUp]
  dsimp only
  split
  · exact closing_close (.inl h)
  · exact h

/-- A session that has been given up stays so. -/
theorem closing_receive (h : r.closing = true) : (r.receive header body).closing = true := by
  rw [receive]
  split
  · exact h
  · split
    · exact closing_setUp h
    · split
      · exact closing_close (.inl h)
      · rw [accept]
        split
        · exact h
        · exact closing_setUp h
        · split
          · exact h
          · exact closing_close (.inl h)
        · exact h
        · exact h

end Standing

end RtspToHttpClient

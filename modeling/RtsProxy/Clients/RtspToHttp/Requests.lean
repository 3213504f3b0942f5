import RtsProxy.Clients.RtspToHttp.Runs

/-!
# The requests of an HTTP session

What a session goes by when it makes a request (`RtspToHttpClient.requests`). Every request is
built as soon as it is queued, so that the queue is empty between the steps, and a step builds at
most one (`outcome_of_step`): the first one when the session starts, one in reply to a message of
the upstream, or one at a tick of the timer.
-/

open Text Interleaved

namespace RtspToHttpClient

/-- What a session goes by when it makes a request. -/
structure Requests where
  queue : List RtspRequest
  current : RtspRequest
  cseq : Nat
  /-- The text of the current request, and how much of it has been sent. -/
  text : Bytes
  sent : Nat
  replies : List Bytes
  retried : Bool
  armed : Bool
  /-- The session has been started. -/
  started : Bool
  /-- There is no connection to the upstream. -/
  idle : Bool

/-- The requests of a session. -/
def requests (s : RtspToHttpClient) : Requests where
  queue := s.requestQueue
  current := s.currentRequest
  cseq := s.cseq
  text := s.reqBuf
  sent := s.tcpSendOffset
  replies := s.replies
  retried := s.setupRetryWithTcp
  armed := s.timerArmed
  started := s.isInitOk
  idle := s.state = .init

/-- A connection is asked for, which may be refused at once. -/
def Requests.connect (opened : Bool) (r : Requests) : Requests :=
  { r with idle := r.idle && !opened }

/-- The session is started. -/
def Requests.start (r : Requests) : Requests := { r with started := true }

/-- A request is built. -/
def Requests.build (r : Requests) (method : RtspMethod) (uri headers body sessionId : Bytes) :
    Requests :=
  let req : RtspRequest := ⟨method, uri, headers, body, r.cseq⟩
  { r with
    queue := [], current := req, cseq := r.cseq + 1, text := requestText sessionId req, sent := 0 }

variable {cfg : ServerConfig} {s t : RtspToHttpClient}

/-! ## What the handlers do -/

theorem requests_notifyClosed : s.notifyClosed.requests = s.requests := by
  rw [notifyClosed]
  split <;> rfl

/-- A request is queued behind no other, and built. -/
theorem requests_request (hqueue : s.requestQueue = []) (method : RtspMethod)
    (uri headers body : Bytes) :
    (s.pushRequestIntoQueue method uri headers body).buildAndSendRequest.requests =
      s.requests.build method uri headers body s.ctx.sessionId := by
  rw [buildAndSendRequest, show (s.pushRequestIntoQueue method uri headers body).requestQueue =
    s.requestQueue ++ [⟨method, uri, headers, body, s.cseq⟩] from rfl, hqueue]
  rfl

theorem requests_connectServer (opened : Bool) :
    (s.connectServer opened).requests = s.requests.connect opened := by
  cases opened with
  | true =>
    rw [Requests.connect, Bool.not_true, Bool.and_false]
    rfl
  | false =>
    rw [Requests.connect, Bool.not_false, Bool.and_true]
    exact requests_notifyClosed

/-- The first request. -/
theorem requests_sendRtspOption (hqueue : s.requestQueue = []) (opened : Bool) :
    ∃ uri sessionId, (s.sendRtspOption opened).requests =
      (s.requests.connect opened).build .options uri [] [] sessionId := by
  have hconnect := @requests_connectServer s opened
  refine ⟨_, _, (requests_request ?_ ..).trans (by rw [hconnect])⟩
  rw [show (s.connectServer opened).requestQueue = _ from congrArg Requests.queue hconnect]
  exact hqueue

theorem requests_startSession (hqueue : s.requestQueue = []) (opened : Bool) (packet : Bytes) :
    ∃ uri sessionId, (s.startSession cfg opened packet).requests =
      (s.requests.start.connect opened).build .options uri [] [] sessionId := by
  unfold startSession
  extract_lets u
  have hu : u.requests = s.requests := by
    simp only [u]
    split <;> rfl
  obtain ⟨uri, sessionId, h⟩ := @requests_sendRtspOption { u with isInitOk := true }
    ((congrArg Requests.queue hu).trans hqueue) opened
  exact ⟨uri, sessionId, h.trans (by rw [← hu]; rfl)⟩

theorem requests_queuePacket (packet : Bytes) :
    (s.queuePacket packet).requests = s.requests := by
  rw [queuePacket]
  cases mediaItem packet <;> rfl

/-- A datagram makes no difference, unless it starts the session. -/
theorem requests_onRtpReadable (hqueue : s.requestQueue = []) (opened : Bool) (payload : Bytes) :
    (s.onRtpReadable cfg opened payload).requests = s.requests ∨
    s.isInitOk = false ∧ ∃ uri sessionId, (s.onRtpReadable cfg opened payload).requests =
      (s.requests.start.connect opened).build .options uri [] [] sessionId := by
  unfold onRtpReadable
  extract_lets data u out v w x y
  split
  · exact .inl rfl
  · show y.requests = _ ∨ _ ∧ ∃ uri sessionId, y.requests = _
    simp only [y]
    by_cases hforward : out.forward
    · rw [if_pos hforward]
      exact .inl (requests_queuePacket (s := w) _)
    · rw [if_neg hforward]
      cases hinit : s.isInitOk with
      | true => exact .inl (by rw [if_pos (show x.isInitOk = true from hinit)]; rfl)
      | false =>
        rw [if_neg (by rw [show x.isInitOk = false from hinit]; decide)]
        exact .inr ⟨rfl, requests_startSession (s := x) hqueue opened out.packet⟩

theorem requests_handleInterleavedPacket (channel : UInt8) (packet : Bytes) :
    (s.handleInterleavedPacket cfg channel packet).requests = s.requests := by
  unfold handleInterleavedPacket
  split
  · rfl
  · extract_lets data out u v
    show v.requests = s.requests
    simp only [v]
    split
    · exact requests_queuePacket _
    · rfl

/-! ## The client and the upstream -/

theorem requests_clientSendTurn (r : SendResult) :
    (s.clientSendTurn r).state.requests = s.requests := by
  rw [clientSendTurn]
  split
  · rfl
  · split
    · show (if r.wouldBlock then s else s.onClientClosed).requests = _
      split
      · rfl
      · rw [onClientClosed]
        split
        · rfl
        · exact requests_notifyClosed (s := { s with isClosed := true })
    · extract_lets n whole u
      split <;> rfl

theorem requests_onClientClosed : s.onClientClosed.requests = s.requests := by
  rw [onClientClosed]
  split
  · rfl
  · exact requests_notifyClosed (s := { s with isClosed := true })

theorem requests_clientSent : (s.onClientWritable []).requests = s.requests := by
  rw [onClientWritable]
  split <;> rfl

/-- How much more of the current request is taken, once the connection is there. -/
def taken (s : RtspToHttpClient) (calls : RtspCalls) : Nat :=
  if s.state = .connecting && calls.connectFailed then 0
  else calls.send.taken (s.reqBuf.length - s.tcpSendOffset)

/-- More of the current request is sent. All of it sent, the count starts again. -/
def Requests.send (n : Nat) (r : Requests) : Requests :=
  { r with sent := if 0 < n ∧ r.sent + n = r.text.length then 0 else r.sent + n }

theorem requests_upstreamConnected (hidle : s.state ≠ .init) (localName : Option SockAddr) :
    (s.upstreamConnected localName).requests = s.requests := by
  have hinit : s.requests.idle = false := decide_eq_false hidle
  unfold upstreamConnected
  cases localName <;> exact congrArg (fun i => { s.requests with idle := i }) hinit.symm

/-- Some of the current request is sent. -/
theorem requests_onRtspWritable (hidle : s.state ≠ .init) (calls : RtspCalls) :
    (s.onRtspWritable calls).requests = s.requests.send (s.taken calls) := by
  unfold onRtspWritable taken
  split
  · exact requests_notifyClosed
  · extract_lets u n v
    have hu : u.requests = s.requests := by
      simp only [u]
      split
      · exact requests_upstreamConnected hidle _
      · rfl
    have hn : calls.send.taken (s.reqBuf.length - s.tcpSendOffset) = n := by
      rw [← show u.reqBuf = s.reqBuf from congrArg Requests.text hu,
        ← show u.tcpSendOffset = s.tcpSendOffset from congrArg Requests.sent hu]
    rw [hn, ← hu]
    by_cases hpos : 0 < n
    · rw [if_pos hpos]
      by_cases hwhole : v.tcpSendOffset = v.reqBuf.length
      · rw [if_pos hwhole, Requests.send, if_pos ⟨hpos, hwhole⟩]
        rfl
      · rw [if_neg hwhole, Requests.send, if_neg fun h => hwhole h.2]
        rfl
    · rw [if_neg hpos, Requests.send, if_neg fun h => hpos h.1, Nat.eq_zero_of_not_pos hpos]
      exact requests_notifyClosed

/-! ## Messages of the upstream -/

/-- The headers that ask for media over the connection. -/
def tcpHeaders : Bytes := ascii "Transport: RTP/AVP/TCP;unicast;interleaved=0-1\r\n"

/-- Another `SETUP` is to be tried. -/
def Requests.retry (r : Requests) : Requests := { r with retried := true }

/-- A request of the upstream is answered. -/
def Requests.answer (header : Bytes) (r : Requests) : Requests :=
  { r with replies := r.replies ++ [okReply (RtspParser.extractHeaderValue header (ascii "CSeq"))] }

/-- The timer is armed. -/
def Requests.arm (r : Requests) : Requests := { r with armed := true }

/-- What a message of the upstream makes of the requests of a session. -/
inductive Reaction (header : Bytes) (r : Requests) : Requests → Prop
  | nothing (h : ¬isServerRequest header) : Reaction header r r
  | answer (h : isServerRequest header) : Reaction header r (r.answer header)
  /-- There is no track that another `SETUP` could be for. -/
  | noTrack (h : RtspParser.parseStatusCode header = 461) (hmethod : r.current.method = .setup)
      (hfirst : r.retried = false) : Reaction header r r.retry
  | retry (h : RtspParser.parseStatusCode header = 461) (hmethod : r.current.method = .setup)
      (hfirst : r.retried = false) (uri sessionId : Bytes) :
      Reaction header r (r.retry.build .setup uri tcpHeaders [] sessionId)
  | describe (h : RtspParser.parseStatusCode header = 200) (hmethod : r.current.method = .options)
      (uri headers sessionId : Bytes) :
      Reaction header r (r.build .describe uri headers [] sessionId)
  | setup (h : RtspParser.parseStatusCode header = 200) (hmethod : r.current.method = .describe)
      (uri headers sessionId : Bytes) :
      Reaction header r (r.build .setup uri headers [] sessionId)
  | play (h : RtspParser.parseStatusCode header = 200) (hmethod : r.current.method = .setup)
      (ctx : RtspCtx) (hports : (RtspParser.parseServerPorts header ctx).1 = true)
      (uri headers sessionId : Bytes) :
      Reaction header r (r.build .play uri headers [] sessionId)
  /-- The stream has started, and with it the timer. -/
  | arm (h : RtspParser.parseStatusCode header = 200) (hmethod : r.current.method = .play) :
      Reaction header r r.arm

/-- A `SETUP` is built if there is a track for it. -/
theorem requests_sendRtspSetup (hqueue : s.requestQueue = []) (sdp : Bytes) :
    (s.sendRtspSetup cfg sdp).requests = s.requests ∨
    ∃ uri sessionId, (s.sendRtspSetup cfg sdp).requests =
      s.requests.build .setup uri (s.setupHeaders cfg) [] sessionId := by
  unfold sendRtspSetup
  extract_lets u track
  have hu : u.requests = s.requests := by
    simp only [u]
    split <;> rfl
  have hheaders : u.setupHeaders cfg = s.setupHeaders cfg := by
    simp only [u]
    split <;> rfl
  split
  · exact .inl (requests_notifyClosed.trans hu)
  · rw [← hu, ← hheaders]
    exact .inr ⟨_, _, requests_request (s := u) ((congrArg Requests.queue hu).trans hqueue) ..⟩

theorem requests_setupDone (hqueue : s.requestQueue = []) (header : Bytes) :
    ∃ uri headers sessionId, (s.setupDone cfg header).requests =
      s.requests.build .play uri headers [] sessionId := by
  unfold setupDone
  extract_lets u
  have hu : u.requests = s.requests := by
    simp only [u]
    split <;> rfl
  rw [← hu]
  exact ⟨_, _, _, requests_request (s := u) ((congrArg Requests.queue hu).trans hqueue) ..⟩

/-- Once a `SETUP` has been tried again, it asks for media over the connection. -/
theorem setupHeaders_retried (h : s.setupRetryWithTcp = true) : s.setupHeaders cfg = tcpHeaders := by
  unfold setupHeaders
  extract_lets port ports
  exact if_pos h

/-- What has a status is no request. -/
theorem not_isServerRequest {header : Bytes} {n : Int} (hn : n ≠ -1)
    (h : RtspParser.parseStatusCode header = n) : ¬isServerRequest header := by
  rw [isServerRequest, h, decide_eq_false hn]
  exact Bool.false_ne_true

/-- What a `200` does. -/
theorem reaction_handleOk (hqueue : s.requestQueue = []) (hidle : s.state ≠ .init) {header : Bytes}
    (hok : RtspParser.parseStatusCode header = 200) (body : Bytes) :
    Reaction header s.requests (ending (s.handleOk cfg header body)).requests := by
  have hreply : ¬isServerRequest header := not_isServerRequest (by decide) hok
  unfold handleOk
  cases hm : s.currentRequest.method with
  | options =>
    show Reaction header s.requests (s.sendRtspDescribe cfg).requests
    unfold sendRtspDescribe
    rw [requests_request hqueue]
    exact .describe hok hm _ _ _
  | describe =>
    dsimp only
    generalize RtspParser.extractHeaderValue header (ascii "Content-Base") = base
    show Reaction header s.requests (({ s with ctx := { s.ctx with contentBase := base } } :
      RtspToHttpClient).sendRtspSetup cfg body).requests
    rcases requests_sendRtspSetup (s := { s with ctx := { s.ctx with contentBase := base } })
      hqueue body with hnone | ⟨uri, sessionId, hsetup⟩
    · rw [hnone]
      exact .nothing hreply
    · rw [hsetup]
      exact .setup hok hm uri _ sessionId
  | setup =>
    dsimp only
    split
    case isTrue hports =>
      obtain ⟨uri, headers, sessionId, hplay⟩ := requests_setupDone
        (s := { s with ctx := (RtspParser.parseServerPorts header s.ctx).2 }) hqueue header
      show Reaction header s.requests (({ s with ctx := (RtspParser.parseServerPorts header s.ctx).2 } :
        RtspToHttpClient).setupDone cfg header).requests
      rw [hplay]
      exact .play hok hm _ hports uri headers sessionId
    case isFalse =>
      show Reaction header s.requests (({ s with ctx := (RtspParser.parseServerPorts header s.ctx).2 } :
        RtspToHttpClient).notifyClosed).requests
      rw [requests_notifyClosed]
      exact .nothing hreply
  | play =>
    have harm : (s.startStreaming cfg).requests = s.requests.arm := by
      have hinit : s.requests.idle = false := decide_eq_false hidle
      exact congrArg (fun i => { s.requests with armed := true, idle := i }) hinit.symm
    show Reaction header s.requests (s.startStreaming cfg).requests
    rw [harm]
    exact .arm hok hm
  | _ => exact .nothing hreply

/-- What a message does. -/
theorem reaction_handleMessage (hqueue : s.requestQueue = []) (hidle : s.state ≠ .init)
    (header body : Bytes) :
    Reaction header s.requests (ending (s.handleMessage cfg header body)).requests := by
  unfold handleMessage
  extract_lets u reply
  have hrequests : u.requests = s.requests := rfl
  split
  case isTrue hserver => exact .answer hserver
  case isFalse hreply =>
    split
    case isTrue hretry =>
      have hrejected := hretry
      simp only [wantsRetry, Bool.and_eq_true, decide_eq_true_eq, Bool.not_eq_true'] at hrejected
      have hheaders := @setupHeaders_retried cfg _
        (show ({ u with setupRetryWithTcp := true } : RtspToHttpClient).setupRetryWithTcp = true from rfl)
      show Reaction header s.requests (({ u with setupRetryWithTcp := true } :
        RtspToHttpClient).sendRtspSetup cfg []).requests
      rcases requests_sendRtspSetup (s := { u with setupRetryWithTcp := true }) hqueue [] with
        hnone | ⟨uri, sessionId, hsetup⟩
      · rw [hnone]
        exact .noTrack hrejected.1.1 hrejected.1.2 hrejected.2
      · rw [hsetup, hheaders]
        exact .retry hrejected.1.1 hrejected.1.2 hrejected.2 uri sessionId
    case isFalse =>
      split
      case isTrue =>
        show Reaction header s.requests u.notifyClosed.requests
        rw [requests_notifyClosed, hrequests]
        exact .nothing hreply
      case isFalse hstatus => exact reaction_handleOk (s := u) hqueue hidle (not_not.1 hstatus) body

/-! ## Steps -/

/-- The header block of the message of the upstream that a step handles. -/
def messageOf (s : RtspToHttpClient) : Event → Option Bytes
  | .rtspTurn => (frontMessage s.respBuf).map (·.1)
  | _ => none

/-- A step in which no message is handled and nothing of the current request is sent. -/
structure Quiet (s : RtspToHttpClient) (e : Event) : Prop where
  message : s.messageOf e = none
  send : ∀ calls, e ≠ .rtspWritable calls

/-- What a step makes of the requests of a session. -/
inductive Outcome (s : RtspToHttpClient) (e : Event) : Requests → Prop
  | nothing (hquiet : Quiet s e) : Outcome s e s.requests
  | start (hquiet : Quiet s e) (h : s.isInitOk = false) (opened : Bool) (uri sessionId : Bytes) : Outcome s e
      ((s.requests.start.connect opened).build .options uri [] [] sessionId)
  | send (calls : RtspCalls) (he : e = .rtspWritable calls) :
      Outcome s e (s.requests.send (s.taken calls))
  | react (header : Bytes) (r : Requests) (hmessage : s.messageOf e = some header)
      (h : Reaction header s.requests r) : Outcome s e r
  | tick (h : s.timerArmed = true) (he : e = .timer) (uri sessionId : Bytes) :
      Outcome s e (s.requests.build .getParameter uri [] [] sessionId)

/-- Where a frame stands, there is no message. -/
theorem frontMessage_of_frontFrame {buf : Bytes} {f : UInt8 × Bytes}
    (h : frontFrame buf = some f) : frontMessage buf = none :=
  if_pos (.inr (head_of_frontFrame h))

/-- A turn over the bytes of the upstream reacts to a message, if there is one. -/
theorem outcome_rtspTurn (hqueue : s.requestQueue = []) (hidle : s.state ≠ .init) :
    Outcome s .rtspTurn (ending (s.rtspTurn cfg)).requests := by
  rw [rtspTurn_eq]
  rcases hframe : frontFrame s.respBuf with _ | ⟨channel, packet⟩
  · rcases hmessage : frontMessage s.respBuf with _ | ⟨header, body, size⟩
    · exact .nothing ⟨by rw [messageOf, hmessage]; rfl, fun _ he => Event.noConfusion he⟩
    · refine .react header _ (by rw [messageOf, hmessage]; rfl) ?_
      exact reaction_handleMessage (s := s.skipResp size) hqueue hidle header body
  · have hsame := @requests_handleInterleavedPacket cfg (s.countReceived (4 + packet.length)) channel
      packet
    show Outcome s .rtspTurn ((s.countReceived (4 + packet.length)).handleInterleavedPacket cfg
      channel packet).requests
    rw [hsame]
    exact .nothing ⟨by rw [messageOf, frontMessage_of_frontFrame hframe]; rfl,
      fun _ he => Event.noConfusion he⟩

/-- What a step does to the requests. -/
theorem outcome_of_step {e : Event} (hqueue : s.requestQueue = []) (hen : Enabled s e) :
    Outcome s e (step cfg s e).requests := by
  cases e with
  | rtpReadable opened payload =>
    have hquiet : Quiet s (.rtpReadable opened payload) := ⟨rfl, fun _ he => Event.noConfusion he⟩
    show Outcome s _ (s.onRtpReadable cfg opened payload).requests
    rcases @requests_onRtpReadable cfg s hqueue opened payload with
      hsame | ⟨hinit, uri, sessionId, hstart⟩
    · rw [hsame]
      exact .nothing hquiet
    · rw [hstart]
      exact .start hquiet hinit opened uri sessionId
  | receiveRtsp bytes => exact .nothing ⟨rfl, fun _ he => Event.noConfusion he⟩
  | rtspTurn => exact outcome_rtspTurn hqueue hen
  | rtspLost =>
    show Outcome s _ s.notifyClosed.requests
    rw [requests_notifyClosed]
    exact .nothing ⟨rfl, fun _ he => Event.noConfusion he⟩
  | rtspWritable calls =>
    show Outcome s _ (s.onRtspWritable calls).requests
    rw [requests_onRtspWritable hen]
    exact .send calls rfl
  | sendClient r =>
    show Outcome s _ (s.clientSendTurn r).state.requests
    rw [requests_clientSendTurn]
    exact .nothing ⟨rfl, fun _ he => Event.noConfusion he⟩
  | clientSent =>
    show Outcome s _ (s.onClientWritable []).requests
    rw [requests_clientSent]
    exact .nothing ⟨rfl, fun _ he => Event.noConfusion he⟩
  | clientClosed =>
    show Outcome s _ s.onClientClosed.requests
    rw [requests_onClientClosed]
    exact .nothing ⟨rfl, fun _ he => Event.noConfusion he⟩
  | timer =>
    show Outcome s _ s.handleTimer.requests
    unfold handleTimer
    rw [requests_request hqueue]
    exact .tick hen rfl _ _

/-- Behind each step there is no request in the queue. -/
theorem Outcome.queue_eq {e : Event} {r : Requests} (h : Outcome s e r)
    (hqueue : s.requestQueue = []) : r.queue = [] := by
  rcases h with - | - | - | ⟨header, r, -, hreact⟩ | -
  · exact hqueue
  · rfl
  · exact hqueue
  · rcases hreact with - | - | - | - | - | - | - | -
    · exact hqueue
    · exact hqueue
    · exact hqueue
    · rfl
    · rfl
    · rfl
    · rfl
    · exact hqueue
  · rfl

/-- How a session starts: without STUN, with the first request. -/
theorem requests_start (cfg : ServerConfig) (pool : BufferPool) (stats : Statistics)
    (ctx : RtspCtx) (rtpPort : Nat) (rtpReady opened : Bool) :
    let s : RtspToHttpClient :=
      { pool := pool, stats := stats, ctx := ctx, waitForKeyframe := cfg.waitKeyframe }
    (start cfg pool stats ctx rtpPort rtpReady opened).requests = s.requests ∨
    ∃ uri sessionId, (start cfg pool stats ctx rtpPort rtpReady opened).requests =
      (s.requests.start.connect opened).build .options uri [] [] sessionId := by
  intro s
  unfold start
  extract_lets u v w
  show w.requests = _ ∨ ∃ uri sessionId, w.requests = _
  have hv : v.requests = s.requests := rfl
  simp only [w]
  split
  · exact .inl hv
  · exact .inr (requests_sendRtspOption (s := { v with isInitOk := true }) rfl opened)

end RtspToHttpClient

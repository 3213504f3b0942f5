import RtsProxy.Clients.RtspToRtsp.Core

/-!
# The control state of a relayed RTSP session

What a session goes by when it handles a message (`RtspToRtspClient.control`): the state it is
in, the `SETUP` that is held back and the last one, and the bytes that have not been handled
yet. Media leave all of it alone; each of the other handlers has one lemma that says what it
changes.

* `control_onUpstreamWritable`: the connection is made, or a message is sent;
* `control_handleRequest`, `control_handleResponse`: a request, and a reply.
-/

open Text Interleaved

/-- What a session goes by. -/
structure Control where
  state : RelayState
  relayReady : Bool
  pendingPlay : Bool
  timerArmed : Bool
  setupRetryWithTcp : Bool
  lastSetupReq : Bytes
  pendingSetupReq : Bytes
  downstreamRecvBuf : Bytes
  upstreamRecvBuf : Bytes
  /-- The host of the upstream. -/
  serverIp : Bytes
  deriving DecidableEq

/-- A request is handled: a `SETUP` whose ports are there is held back, with STUN, or becomes the
    last one. -/
def Control.request (cfg : ServerConfig) (canRelay : Bool) (req : Bytes) (c : Control) : Control :=
  if (ascii "SETUP ").isPrefixOf req then
    if !canRelay then c
    else if cfg.usesStun then
      { c with relayReady := true, state := .waitStun, pendingSetupReq := req }
    else { c with relayReady := true, lastSetupReq := req, pendingPlay := false }
  else { c with pendingPlay := (ascii "PLAY ").isPrefixOf req }

theorem Control.downstreamRecvBuf_request {cfg : ServerConfig} {canRelay : Bool} {req : Bytes}
    {c : Control} : (c.request cfg canRelay req).downstreamRecvBuf = c.downstreamRecvBuf := by
  rw [request]
  split
  · split
    · rfl
    · split <;> rfl
  · rfl

/-- Handling a request, a session does not go back to connecting. -/
theorem Control.state_request {cfg : ServerConfig} {canRelay : Bool} {req : Bytes} {c : Control}
    (hc : c.state ≠ .waitUpstreamConnect) :
    (c.request cfg canRelay req).state ≠ .waitUpstreamConnect := by
  rw [request]
  split
  · split
    · exact hc
    · split
      · exact fun h => RelayState.noConfusion h
      · exact hc
  · exact hc

namespace RtspToRtspClient

/-- The control state of a session. -/
def control (s : RtspToRtspClient) : Control :=
  { state := s.state, relayReady := s.relayReady, pendingPlay := s.pendingPlay
    timerArmed := s.timerArmed, setupRetryWithTcp := s.setupRetryWithTcp
    lastSetupReq := s.lastSetupReq, pendingSetupReq := s.pendingSetupReq
    downstreamRecvBuf := s.downstreamRecvBuf, upstreamRecvBuf := s.upstreamRecvBuf
    serverIp := s.ctx.serverIp }

variable {s t : RtspToRtspClient} {cfg : ServerConfig}

/-! ## Media -/

theorem control_relayToClient {channel : UInt8} {socket : RelaySocket} {dest : SockAddr}
    {account : Nat → RtspToRtspClient → RtspToRtspClient} {data : Bytes}
    (haccount : ∀ n u, (account n u).control = u.control) :
    (s.relayToClient channel socket dest account data).control = s.control := by
  rw [relayToClient]
  split
  · rw [sendInterleavedDownstream]
    split <;> rfl
  · split
    · rfl
    · exact haccount _ _

@[simp] theorem control_handleInterleavedFromUpstream (channel : UInt8) (data : Bytes) :
    (s.handleInterleavedFromUpstream cfg channel data).control = s.control := by
  unfold handleInterleavedFromUpstream
  split
  · extract_lets n out src u v
    show v.control = s.control
    simp only [v]
    split
    · exact control_relayToClient (s := u) fun _ _ => rfl
    · rfl
  · split
    · exact control_relayToClient (s := { s with upstreamEst := s.upstreamEst + data.length })
        fun _ _ => rfl
    · rfl

@[simp] theorem control_handleInterleavedFromClient (channel : UInt8) (data : Bytes) :
    (s.handleInterleavedFromClient channel data).control = s.control := by
  unfold handleInterleavedFromClient
  dsimp only
  split
  · split <;> rfl
  · split
    · split <;> rfl
    · rfl

@[simp] theorem control_handleRtpFromUpstream (d : Incoming) :
    (s.handleRtpFromUpstream cfg d).control = s.control := by
  unfold handleRtpFromUpstream
  extract_lets out src u
  split
  · exact control_relayToClient (s := u) fun _ _ => rfl
  · rfl

@[simp] theorem control_handleRtcpFromUpstream (d : Incoming) :
    (s.handleRtcpFromUpstream d).control = s.control :=
  control_relayToClient (s := s.countReceived d.payload.length) fun _ _ => rfl

@[simp] theorem control_handleRtpFromClient (d : Incoming) :
    (s.handleRtpFromClient d).control = s.control := by
  unfold handleRtpFromClient
  split
  · dsimp only
    split <;> rfl
  · rfl

@[simp] theorem control_handleRtcpFromClient (d : Incoming) :
    (s.handleRtcpFromClient d).control = s.control := by
  unfold handleRtcpFromClient
  split
  · dsimp only
    split <;> rfl
  · rfl

/-- A turn over a datagram does to the control state what its handler does. -/
theorem control_receiveTurn {handle : Incoming → RtspToRtspClient → RtspToRtspClient}
    (hhandle : ∀ d u, (handle d u).control = u.control) (d : Incoming) :
    (receiveTurn handle d s).state.control = s.control := by
  unfold receiveTurn
  dsimp only
  split
  · rfl
  · exact hhandle _ { s with pool := _ }

@[simp] theorem control_downstreamSendTurn (r : SendResult) :
    (s.downstreamSendTurn r).state.control = s.control := by
  unfold downstreamSendTurn
  split
  · rfl
  · dsimp only
    split
    · rfl
    · split <;> rfl

@[simp] theorem control_downstreamSent : (s.onDownstreamWritable []).control = s.control := by
  unfold onDownstreamWritable drainDownstream
  dsimp only
  split <;> rfl

/-! ## What is learnt and patched -/

@[simp] theorem control_openPorts : (s.openPorts cfg).control = s.control := by
  rw [openPorts]
  split
  · rw [sendZteHeartbeat]
    split <;> rfl
  · unfold sendRtpTrigger
    split
    · rfl
    · dsimp only
      split <;> rfl

theorem control_learnClientTransport {req : Bytes} (h : s.learnClientTransport req = .ok t) :
    t.control = s.control := by
  obtain ⟨channels, -, h⟩ := Except.bind_eq_ok_iff.1 h
  rcases channels with _ | ⟨rtp, rtcp⟩
  · obtain ⟨ports, -, h⟩ := Except.bind_eq_ok_iff.1 h
    rcases ports with _ | ⟨rtp, rtcp⟩
    all_goals
      cases h
      rfl
  · cases h
    rfl

@[simp] theorem control_initRelaySockets (ports : RelayPorts) :
    (s.initRelaySockets ports).2.control = s.control := by
  rw [initRelaySockets]
  rcases ports.upstream with _ | us
  · rfl
  · rcases ports.downstream with _ | ds <;> rfl

@[simp] theorem control_patchTransportForUpstream (req : Bytes) :
    (s.patchTransportForUpstream cfg req).1.control = s.control := by
  unfold patchTransportForUpstream
  dsimp only
  split <;> rfl

@[simp] theorem control_learnSession (resp : Bytes) :
    (s.learnSession resp).control = s.control := by
  unfold learnSession RtspParser.parseSessionId
  split <;> rfl

theorem control_learnUpstreamTransport {resp : Bytes}
    (h : s.learnUpstreamTransport resp = .ok t) : t.control = s.control := by
  rw [learnUpstreamTransport] at h
  split at h
  · obtain ⟨channels, -, h⟩ := Except.bind_eq_ok_iff.1 h
    rcases channels with _ | ⟨rtp, rtcp⟩
    all_goals
      cases h
      rfl
  · cases h
    rfl

theorem control_learnServerPorts {transport : Bytes}
    (h : s.learnServerPorts cfg transport = .ok t) : t.control = s.control := by
  rw [learnServerPorts] at h
  split at h
  · cases h
    rfl
  · obtain ⟨rtp, -, h⟩ := Except.bind_eq_ok_iff.1 h
    obtain ⟨rtcp, -, h⟩ := Except.bind_eq_ok_iff.1 h
    cases h
    split
    · rfl
    · exact control_openPorts

theorem control_patchResponseForClient {resp msg : Bytes}
    (h : s.patchResponseForClient cfg resp = .ok (t, msg)) : t.control = s.control := by
  obtain ⟨⟨u, msg₁⟩, hu, h⟩ := Except.bind_eq_ok_iff.1 h
  obtain ⟨re, -, h⟩ := Except.bind_eq_ok_iff.1 h
  obtain ⟨msg₂, -, h⟩ := Except.bind_eq_ok_iff.1 h
  obtain ⟨msg₃, -, h⟩ := Except.bind_eq_ok_iff.1 h
  cases h
  unfold patchTransport at hu
  dsimp only at hu
  split at hu
  · cases hu
    rfl
  · obtain ⟨v, hv, hu⟩ := Except.bind_eq_ok_iff.1 hu
    cases hu
    exact control_learnServerPorts hv

/-! ## The connection to the upstream -/

/-- The sends take all of the bytes that are left of a message. -/
def takesAll : List SendResult → Nat → Bool
  | [], _ => false
  | r :: rs, n => 0 < r.taken n && (r.taken n = n || takesAll rs (n - r.taken n))

/-- The front message is sent to its end. -/
def finishes (sends : List SendResult) (s : RtspToRtspClient) : Bool :=
  match s.toUpstreamQ with
  | [] => false
  | msg :: _ => takesAll sends (msg.length - s.upstreamSendOffset)

theorem finishes_congr (hqueue : t.toUpstreamQ = s.toUpstreamQ)
    (hoffset : t.upstreamSendOffset = s.upstreamSendOffset) (sends : List SendResult) :
    t.finishes sends = s.finishes sends := by
  rw [finishes, finishes, hqueue, hoffset]

/-- Sending changes the state exactly if a message is sent to its end. -/
theorem control_drainUpstream (sends : List SendResult) :
    (s.drainUpstream sends).2.control =
      { s.control with state := if s.finishes sends then .waitUpstreamResp else s.state } := by
  induction sends generalizing s with
  | nil =>
    have hno : s.finishes [] = false := by
      rw [finishes]
      split <;> rfl
    rw [hno]
    rfl
  | cons r rs ih =>
    rcases hq : s.toUpstreamQ with _ | ⟨msg, msgs⟩
    · have hturn : s.upstreamSendTurn r = .leave s := by rw [upstreamSendTurn, hq]
      rw [drainUpstream, hturn, finishes, hq]
      rfl
    have htaken : s.upstreamTaken r = r.taken (msg.length - s.upstreamSendOffset) := by
      rw [upstreamTaken, hq]
      rfl
    have hfinishes : s.finishes (r :: rs) = takesAll (r :: rs) (msg.length - s.upstreamSendOffset) := by
      rw [finishes, hq]
    rw [hfinishes, takesAll, ← htaken]
    by_cases hpos : 0 < s.upstreamTaken r
    · by_cases hlast : s.upstreamSendOffset + s.upstreamTaken r = msg.length
      · -- the last bytes of the message
        have hturn : s.upstreamSendTurn r = .again { s with
            toUpstreamQ := msgs, upstreamSendOffset := 0, state := .waitUpstreamResp } := by
          rw [upstreamSendTurn, hq]
          dsimp only
          rw [if_pos hpos, if_pos hlast]
        have hall : s.upstreamTaken r = msg.length - s.upstreamSendOffset := by omega
        rw [drainUpstream, hturn]
        dsimp only
        rw [ih, ite_self, decide_eq_true hpos, decide_eq_true hall]
        rfl
      · -- some of its bytes
        have hturn : s.upstreamSendTurn r = .again { s with
            upstreamSendOffset := s.upstreamSendOffset + s.upstreamTaken r } := by
          rw [upstreamSendTurn, hq]
          dsimp only
          rw [if_pos hpos, if_neg hlast]
        have hsome : ¬s.upstreamTaken r = msg.length - s.upstreamSendOffset := by
          have : s.upstreamTaken r ≤ msg.length - s.upstreamSendOffset := by
            rw [htaken]
            exact Nat.min_le_right _ _
          omega
        rw [drainUpstream, hturn]
        dsimp only
        rw [ih, finishes, hq, decide_eq_true hpos, decide_eq_false hsome, Nat.sub_sub]
        rfl
    · -- nothing is taken
      obtain ⟨t, hturn, ht⟩ : ∃ t, s.upstreamSendTurn r = .leave t ∧ t.control = s.control := by
        rw [upstreamSendTurn, hq]
        dsimp only
        rw [if_neg hpos]
        cases r.wouldBlock with
        | true => exact ⟨s, rfl, rfl⟩
        | false => exact ⟨s.closeAll, rfl, rfl⟩
      rw [decide_eq_false hpos, drainUpstream, hturn]
      exact ht

theorem control_upstreamConnected (localName : Option SockAddr) :
    (s.upstreamConnected localName).control =
      { s.control with state := .idle, downstreamRecvBuf := [] } := by
  by_cases hbuf : s.downstreamRecvBuf = []
  · have hself : s.control = { s.control with downstreamRecvBuf := [] } := by
      rw [← hbuf]
      rfl
    rw [hself]
    rcases localName with _ | name
    all_goals simp [upstreamConnected, hbuf, control]
  · rcases localName with _ | name
    all_goals simp [upstreamConnected, hbuf, control, pushUpstream]

/-- The connection is being made, and it fails or succeeds. -/
theorem control_onUpstreamWritable (calls : UpstreamCalls) :
    (s.onUpstreamWritable calls).control =
      if s.state = .waitUpstreamConnect then
        if calls.connectFailed then s.control
        else { s.control with
          state := if (s.upstreamConnected calls.localName).finishes calls.sends then
            .waitUpstreamResp else .idle
          downstreamRecvBuf := [] }
      else { s.control with
        state := if s.finishes calls.sends then .waitUpstreamResp else s.state } := by
  have hdrain : ∀ u : RtspToRtspClient,
      (if (u.drainUpstream calls.sends).1 then
        { (u.drainUpstream calls.sends).2 with
          upstreamEvents :=
            { readable := true
              writable := !(u.drainUpstream calls.sends).2.toUpstreamQ.isEmpty } }
      else (u.drainUpstream calls.sends).2).control =
        { u.control with state := if u.finishes calls.sends then .waitUpstreamResp else u.state } := by
    intro u
    split
    · exact control_drainUpstream calls.sends
    · exact control_drainUpstream calls.sends
  rw [onUpstreamWritable]
  by_cases hstate : s.state = .waitUpstreamConnect
  · rw [if_pos hstate, if_pos hstate]
    cases calls.connectFailed with
    | true =>
      rw [decide_eq_true hstate]
      rfl
    | false =>
      rw [Bool.and_false, if_neg Bool.false_ne_true, if_neg Bool.false_ne_true]
      refine (hdrain (s.upstreamConnected calls.localName)).trans ?_
      have hidle : (s.upstreamConnected calls.localName).state = .idle :=
        congrArg Control.state (control_upstreamConnected calls.localName)
      rw [control_upstreamConnected, hidle]
  · rw [decide_eq_false hstate, Bool.false_and, if_neg Bool.false_ne_true, if_neg hstate,
      if_neg hstate]
    exact hdrain s

/-! ## Requests -/

theorem control_handleRequest {ports : RelayPorts} {req : Bytes} {r : Turn RtspToRtspClient}
    (h : s.handleRequest cfg ports req = .ok r) :
    r.state.control = s.control.request cfg (s.canRelay ports) req := by
  rw [handleRequest] at h
  rw [Control.request]
  split at h
  case isTrue hsetup =>
    rw [if_pos hsetup]
    obtain ⟨t, ht, h⟩ := Except.bind_eq_ok_iff.1 h
    have hcontrol := control_learnClientTransport ht
    have hready : t.relayReady = s.relayReady := congrArg Control.relayReady hcontrol
    -- the session with its ports, if they are there
    obtain ⟨v, hv, hvcontrol⟩ : ∃ v,
        (if t.relayReady = true then (true, t) else t.initRelaySockets ports) =
          (s.canRelay ports, v) ∧ v.control = s.control := by
      rw [canRelay, hready]
      cases s.relayReady with
      | true => exact ⟨t, rfl, hcontrol⟩
      | false =>
        exact ⟨_, Prod.ext (initRelaySockets_ready ports) rfl,
          (control_initRelaySockets ports).trans hcontrol⟩
    rw [hv] at h
    dsimp only at h
    split at h
    case isTrue hno =>
      cases h
      rw [if_pos hno]
      exact hvcontrol
    case isFalse hcan =>
      rw [if_neg hcan]
      split at h
      case isTrue hstun =>
        cases h
        rw [if_pos hstun]
        exact congrArg (fun c : Control => { c with
          relayReady := true, state := .waitStun, pendingSetupReq := req }) hvcontrol
      case isFalse hstun =>
        cases h
        rw [if_neg hstun]
        have hpatched := @control_patchTransportForUpstream
          { v with relayReady := true, lastSetupReq := req } cfg req
        refine (congrArg (fun c : Control => { c with pendingPlay := false }) hpatched).trans ?_
        exact congrArg (fun c : Control => { c with
          relayReady := true, lastSetupReq := req, pendingPlay := false }) hvcontrol
  case isFalse hsetup =>
    rw [if_neg hsetup]
    cases h
    rfl

/-! ## The reply of the STUN server, and of the upstream -/

theorem control_processPendingSetup :
    (s.processPendingSetup cfg).control =
      { s.control with pendingSetupReq := [], lastSetupReq := s.pendingSetupReq } := by
  exact @control_patchTransportForUpstream
    { s with pendingSetupReq := [], lastSetupReq := s.pendingSetupReq } cfg s.pendingSetupReq

theorem control_handleStunReply (d : Incoming) :
    (s.handleStunReply cfg d).control =
      if s.received d = [] then s.control
      else { s.control with
        state := .idle, pendingSetupReq := [], lastSetupReq := s.pendingSetupReq } := by
  unfold handleStunReply received
  extract_lets data u port v
  show v.control = _
  simp only [v]
  split
  · rfl
  · exact control_processPendingSetup

theorem control_startStreaming (resp : Bytes) :
    (s.startStreaming cfg resp).control =
      if RtspParser.parseStatusCode resp = 200 && s.pendingPlay then
        { s.control with pendingPlay := false, timerArmed := true, state := .streaming }
      else s.control := by
  rw [startStreaming]
  split
  · dsimp only
    split
    · rfl
    · exact control_openPorts
  · rfl

/-- A session that tries a `SETUP` again, before it sends. -/
def retrying (s : RtspToRtspClient) : RtspToRtspClient :=
  { s with setupRetryWithTcp := true }.pushUpstream .retry s.retryPush.source s.retryPush.text

theorem control_retrying_learnSession (resp : Bytes) :
    (s.learnSession resp).retrying.control = { s.control with setupRetryWithTcp := true } := by
  rw [← control_learnSession (s := s) resp]
  rfl

/-- A reply to a keepalive changes nothing, one that is tried again is answered at once, and any
    other may start the stream. -/
theorem control_handleResponse {calls : UpstreamCalls} {resp : Bytes}
    (h : s.handleResponse cfg calls resp = .ok t) :
    t.control =
      if isKeepaliveReply resp then s.control
      else if s.wantsRetry resp then
        ((s.learnSession resp).retrying.onUpstreamWritable calls).control
      else if RtspParser.parseStatusCode resp = 200 && s.pendingPlay then
        { s.control with pendingPlay := false, timerArmed := true, state := .streaming }
      else s.control := by
  rcases handleResponse_cases h with ⟨hka, rfl⟩ | ⟨hka, hretry, rfl⟩ |
    ⟨hka, hretry, u, v, patched, hu, hv, rfl⟩
  · rw [hka]
    rfl
  · rw [hka, hretry]
    rfl
  · rw [hka, hretry]
    have hcontrol : v.control = s.control := by
      rw [control_patchResponseForClient hv, control_learnUpstreamTransport hu,
        control_learnSession]
    refine (control_startStreaming (s := v) resp).trans ?_
    rw [hcontrol, show v.pendingPlay = s.pendingPlay from congrArg Control.pendingPlay hcontrol]
    rfl

end RtspToRtspClient

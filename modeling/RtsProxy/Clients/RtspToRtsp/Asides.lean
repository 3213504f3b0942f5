import RtsProxy.Clients.RtspToRtsp.Handlers

/-!
# What the handlers of a relayed session leave alone

Much of what a handler does is done on the side: it counts, it sends datagrams, it learns
something about the server or about where the media go. Here such fields are masked, and each
helper of a handler has one lemma that says which mask covers all it does. Whatever is read off
a session and does not look at the masked fields is unchanged by it.

* `plain`: without what is counted, sent as datagrams and learnt about the server;
* `unplaced`: without where the media go;
* `unsent`: without what sending to the upstream changes;
* `unwritten`: without what an upstream that can be written to changes.
-/

open Text Interleaved

namespace RtspToRtspClient

/-- A session without what is counted, sent as datagrams and learnt about the server. -/
def plain (s : RtspToRtspClient) : RtspToRtspClient :=
  { s with
    stats := {}, upstreamEst := 0, downstreamEst := 0, datagrams := []
    serverRtpAddr := .zero, serverRtcpAddr := .zero
    isUpstreamTcp := false, usInterleavedRtp := 0, usInterleavedRtcp := 1
    ctx := { s.ctx with sessionId := [] } }

/-- A session without where its media go. -/
def unplaced (s : RtspToRtspClient) : RtspToRtspClient :=
  { s with
    isDownstreamTcp := false, dsInterleavedRtp := 0, dsInterleavedRtcp := 1
    clientRtpAddr := .zero, clientRtcpAddr := .zero
    localRtpUsPort := 0, localRtcpUsPort := 0, localRtpDsPort := 0, localRtcpDsPort := 0
    dsTransportProtocol := [], emptyBacks := 0 }

/-- A session without what sending to the upstream changes. -/
def unsent (s : RtspToRtspClient) : RtspToRtspClient :=
  { s with
    toUpstreamQ := [], upstreamSendOffset := 0, upstreamEvents := {}, state := .idle
    closed := false }

/-- A session without what changes when the upstream can be written to. -/
def unwritten (s : RtspToRtspClient) : RtspToRtspClient :=
  { s.unsent with
    localIp := [], localTcpPort := 0, downstreamRecvBuf := [], pushed := []
    downstreamEvents := {} }

variable {s t u : RtspToRtspClient} {cfg : ServerConfig}

/-! ## The server -/

theorem plain_openPorts : (s.openPorts cfg).plain = s.plain := by
  rw [openPorts]
  split
  · rw [sendZteHeartbeat]
    split <;> rfl
  · rw [sendRtpTrigger]
    split
    · rfl
    · dsimp only
      split <;> rfl

theorem plain_learnServerPorts {transport : Bytes} (h : s.learnServerPorts cfg transport = .ok t) :
    t.plain = s.plain := by
  rw [learnServerPorts] at h
  split at h
  · cases h
    rfl
  · obtain ⟨rtp, -, h⟩ := Except.bind_eq_ok_iff.1 h
    obtain ⟨rtcp, -, h⟩ := Except.bind_eq_ok_iff.1 h
    cases h
    split
    · rfl
    · exact plain_openPorts

theorem plain_patchTransport {resp msg : Bytes} (h : s.patchTransport cfg resp = .ok (t, msg)) :
    t.plain = s.plain := by
  rw [patchTransport] at h
  dsimp only at h
  split at h
  · cases h
    rfl
  · obtain ⟨u, hu, h⟩ := Except.bind_eq_ok_iff.1 h
    cases h
    exact plain_learnServerPorts hu

theorem plain_patchResponseForClient {resp msg : Bytes}
    (h : s.patchResponseForClient cfg resp = .ok (t, msg)) : t.plain = s.plain := by
  obtain ⟨⟨u, transported⟩, hu, h⟩ := Except.bind_eq_ok_iff.1 h
  obtain ⟨re, -, h⟩ := Except.bind_eq_ok_iff.1 h
  obtain ⟨based, -, h⟩ := Except.bind_eq_ok_iff.1 h
  obtain ⟨located, -, h⟩ := Except.bind_eq_ok_iff.1 h
  cases h
  exact plain_patchTransport hu

theorem plain_learnUpstreamTransport {resp : Bytes}
    (h : s.learnUpstreamTransport resp = .ok t) : t.plain = s.plain := by
  rw [learnUpstreamTransport] at h
  split at h
  · obtain ⟨channels, -, h⟩ := Except.bind_eq_ok_iff.1 h
    rcases channels with _ | ⟨rtp, rtcp⟩
    all_goals
      cases h
      rfl
  · cases h
    rfl

theorem plain_learnSession (resp : Bytes) : (s.learnSession resp).plain = s.plain := by
  unfold learnSession RtspParser.parseSessionId
  split <;> rfl

/-- All that is done to a reply before the stream is started. -/
theorem plain_patched {resp msg : Bytes} (hu : (s.learnSession resp).learnUpstreamTransport resp = .ok u)
    (ht : u.patchResponseForClient cfg resp = .ok (t, msg)) : t.plain = s.plain :=
  (plain_patchResponseForClient ht).trans
    ((plain_learnUpstreamTransport hu).trans (plain_learnSession resp))

/-- A `200` to a `PLAY` changes the state, and what is done on the side. -/
theorem plain_startStreaming (resp : Bytes) : (s.startStreaming cfg resp).plain =
    if RtspParser.parseStatusCode resp = 200 && s.pendingPlay then
      { s.plain with
        pendingPlay := false, waitForKeyframe := cfg.waitKeyframe, timerArmed := true
        state := .streaming }
    else s.plain := by
  rw [startStreaming]
  split
  · dsimp only
    split
    · rfl
    · exact plain_openPorts
  · rfl

/-! ## Media -/

theorem plain_handleInterleavedFromClient (channel : UInt8) (data : Bytes) :
    (s.handleInterleavedFromClient channel data).plain = s.plain := by
  rw [handleInterleavedFromClient]
  dsimp only
  split
  · split <;> rfl
  · split
    · split <;> rfl
    · rfl

/-- A datagram of the client is sent on, and its port is followed. -/
theorem plain_handleRtpFromClient (d : Incoming) : (s.handleRtpFromClient d).plain =
    if d.src.addr = s.clientAddr.addr then
      { s.plain with clientRtpAddr := { s.clientRtpAddr with port := d.src.port } }
    else s.plain := by
  rw [handleRtpFromClient]
  split
  · dsimp only
    split <;> rfl
  · rfl

@[inherit_doc plain_handleRtpFromClient]
theorem plain_handleRtcpFromClient (d : Incoming) : (s.handleRtcpFromClient d).plain =
    if d.src.addr = s.clientAddr.addr then
      { s.plain with clientRtcpAddr := { s.clientRtcpAddr with port := d.src.port } }
    else s.plain := by
  rw [handleRtcpFromClient]
  split
  · dsimp only
    split <;> rfl
  · rfl

/-! ## Where the media go -/

theorem unplaced_learnClientTransport {req : Bytes} (h : s.learnClientTransport req = .ok t) :
    t.unplaced = s.unplaced := by
  obtain ⟨channels, -, h⟩ := Except.bind_eq_ok_iff.1 h
  rcases channels with _ | ⟨rtp, rtcp⟩
  · obtain ⟨ports, -, h⟩ := Except.bind_eq_ok_iff.1 h
    rcases ports with _ | ⟨rtp, rtcp⟩
    all_goals
      cases h
      rfl
  · cases h
    rfl

theorem unplaced_initRelaySockets (ports : RelayPorts) :
    (s.initRelaySockets ports).2.unplaced = s.unplaced := by
  rw [initRelaySockets]
  rcases ports.upstream with _ | us
  · rfl
  · rcases ports.downstream with _ | ds <;> rfl

theorem unplaced_patchTransportForUpstream (req : Bytes) :
    (s.patchTransportForUpstream cfg req).1.unplaced = s.unplaced := by
  unfold patchTransportForUpstream
  dsimp only
  split <;> rfl

/-! ## Sending to the upstream -/

theorem unsent_upstreamSendTurn (r : SendResult) :
    (s.upstreamSendTurn r).state.unsent = s.unsent := by
  rw [upstreamSendTurn]
  split
  · rfl
  · split
    · dsimp only
      split <;> rfl
    · split <;> rfl

theorem unsent_drainUpstream (sends : List SendResult) :
    (s.drainUpstream sends).2.unsent = s.unsent := by
  induction sends generalizing s with
  | nil => rfl
  | cons r rs ih =>
    have hturn := unsent_upstreamSendTurn (s := s) r
    rw [drainUpstream]
    rcases hr : s.upstreamSendTurn r with t | t
    · rw [hr] at hturn
      exact hturn
    · rw [hr] at hturn
      exact ih.trans hturn

theorem unwritten_upstreamConnected (localName : Option SockAddr) :
    (s.upstreamConnected localName).unwritten = s.unwritten := by
  unfold upstreamConnected
  rcases localName with _ | name
  all_goals
    dsimp only
    split <;> rfl

theorem unwritten_onUpstreamWritable (calls : UpstreamCalls) :
    (s.onUpstreamWritable calls).unwritten = s.unwritten := by
  have hdrain : ∀ u : RtspToRtspClient, (u.drainUpstream calls.sends).2.unwritten = u.unwritten :=
    fun u => (congrArg unwritten (unsent_drainUpstream (s := u) calls.sends) :)
  have hend : ∀ u : RtspToRtspClient, u.unwritten = s.unwritten →
      (if (u.drainUpstream calls.sends).1 then
        { (u.drainUpstream calls.sends).2 with
          upstreamEvents := {
            readable := true, writable := !(u.drainUpstream calls.sends).2.toUpstreamQ.isEmpty } }
      else (u.drainUpstream calls.sends).2).unwritten = s.unwritten := by
    intro u hu
    split <;> exact (hdrain u).trans hu
  rw [onUpstreamWritable]
  split
  · rfl
  · refine hend _ ?_
    split
    · exact unwritten_upstreamConnected _
    · rfl

end RtspToRtspClient

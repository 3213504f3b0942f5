import RtsProxy.Clients.RtspToRtsp.Runs

/-!
# Where the media of a relayed session go

How the client is sent its media, and the ports of the relay (`RtspToRtspClient.delivery`). A
`SETUP` of the client settles all of it, and a datagram of the client moves one of its ports;
nothing else changes it (`delivery_of_step`).
-/

open Text Interleaved

/-- How the client is sent its media, and the ports of the relay. -/
structure Delivery where
  isDownstreamTcp : Bool
  dsInterleavedRtp : UInt8
  dsInterleavedRtcp : UInt8
  clientRtpAddr : SockAddr
  clientRtcpAddr : SockAddr
  localRtpUsPort : Nat
  localRtcpUsPort : Nat
  localRtpDsPort : Nat
  localRtcpDsPort : Nat
  deriving DecidableEq

namespace RtspToRtspClient

/-- Where the media of a session go. -/
def delivery (s : RtspToRtspClient) : Delivery :=
  { isDownstreamTcp := s.isDownstreamTcp, dsInterleavedRtp := s.dsInterleavedRtp
    dsInterleavedRtcp := s.dsInterleavedRtcp, clientRtpAddr := s.clientRtpAddr
    clientRtcpAddr := s.clientRtcpAddr, localRtpUsPort := s.localRtpUsPort
    localRtcpUsPort := s.localRtcpUsPort, localRtpDsPort := s.localRtpDsPort
    localRtcpDsPort := s.localRtcpDsPort }

variable {s t u : RtspToRtspClient} {cfg : ServerConfig} {e : Event}

/-! ## What leaves it alone -/

theorem delivery_relayToClient {channel : UInt8} {socket : RelaySocket} {dest : SockAddr}
    {account : Nat → RtspToRtspClient → RtspToRtspClient} {data : Bytes}
    (haccount : ∀ n u, (account n u).delivery = u.delivery) :
    (s.relayToClient channel socket dest account data).delivery = s.delivery := by
  rw [relayToClient]
  split
  · rw [sendInterleavedDownstream]
    split <;> rfl
  · split
    · rfl
    · exact haccount _ _

theorem delivery_handleInterleavedFromUpstream (channel : UInt8) (data : Bytes) :
    (s.handleInterleavedFromUpstream cfg channel data).delivery = s.delivery := by
  unfold handleInterleavedFromUpstream
  split
  · extract_lets n out src u v
    show v.delivery = s.delivery
    simp only [v]
    split
    · exact delivery_relayToClient (s := u) fun _ _ => rfl
    · rfl
  · split
    · exact delivery_relayToClient (s := { s with upstreamEst := s.upstreamEst + data.length })
        fun _ _ => rfl
    · rfl

theorem delivery_handleInterleavedFromClient (channel : UInt8) (data : Bytes) :
    (s.handleInterleavedFromClient channel data).delivery = s.delivery := by
  rw [handleInterleavedFromClient]
  dsimp only
  split
  · split <;> rfl
  · split
    · split <;> rfl
    · rfl

theorem delivery_handleRtpFromUpstream (d : Incoming) :
    (s.handleRtpFromUpstream cfg d).delivery = s.delivery := by
  unfold handleRtpFromUpstream
  extract_lets out src u
  split
  · exact delivery_relayToClient (s := u) fun _ _ => rfl
  · rfl

theorem delivery_handleRtcpFromUpstream (d : Incoming) :
    (s.handleRtcpFromUpstream d).delivery = s.delivery :=
  delivery_relayToClient (s := s.countReceived d.payload.length) fun _ _ => rfl

/-- A turn over a datagram does what its handler does, unless the datagram is empty. -/
theorem delivery_receiveTurn (handle : Incoming → RtspToRtspClient → RtspToRtspClient)
    (d : Incoming) : (receiveTurn handle d s).state.delivery = s.delivery ∨
      ∃ payload pool, (receiveTurn handle d s).state.delivery =
        (handle { d with payload := payload } { s with pool := pool }).delivery := by
  unfold receiveTurn
  dsimp only
  split
  · exact .inl rfl
  · exact .inr ⟨_, _, rfl⟩

theorem delivery_openPorts : (s.openPorts cfg).delivery = s.delivery := by
  rw [openPorts]
  split
  · rw [sendZteHeartbeat]
    split <;> rfl
  · rw [sendRtpTrigger]
    split
    · rfl
    · dsimp only
      split <;> rfl

theorem delivery_patchTransportForUpstream (req : Bytes) :
    (s.patchTransportForUpstream cfg req).1.delivery = s.delivery := by
  unfold patchTransportForUpstream
  dsimp only
  split <;> rfl

theorem delivery_learnUpstreamTransport {resp : Bytes}
    (h : s.learnUpstreamTransport resp = .ok t) : t.delivery = s.delivery := by
  rw [learnUpstreamTransport] at h
  split at h
  · obtain ⟨channels, -, h⟩ := Except.bind_eq_ok_iff.1 h
    rcases channels with _ | ⟨rtp, rtcp⟩
    all_goals
      cases h
      rfl
  · cases h
    rfl

theorem delivery_learnServerPorts {transport : Bytes}
    (h : s.learnServerPorts cfg transport = .ok t) : t.delivery = s.delivery := by
  rw [learnServerPorts] at h
  split at h
  · cases h
    rfl
  · obtain ⟨rtp, -, h⟩ := Except.bind_eq_ok_iff.1 h
    obtain ⟨rtcp, -, h⟩ := Except.bind_eq_ok_iff.1 h
    cases h
    split
    · rfl
    · exact delivery_openPorts

theorem delivery_patchResponseForClient {resp msg : Bytes}
    (h : s.patchResponseForClient cfg resp = .ok (t, msg)) : t.delivery = s.delivery := by
  obtain ⟨⟨u, msg₁⟩, hu, h⟩ := Except.bind_eq_ok_iff.1 h
  obtain ⟨re, -, h⟩ := Except.bind_eq_ok_iff.1 h
  obtain ⟨msg₂, -, h⟩ := Except.bind_eq_ok_iff.1 h
  obtain ⟨msg₃, -, h⟩ := Except.bind_eq_ok_iff.1 h
  cases h
  rw [patchTransport] at hu
  dsimp only at hu
  split at hu
  · cases hu
    rfl
  · obtain ⟨v, hv, hu⟩ := Except.bind_eq_ok_iff.1 hu
    cases hu
    exact delivery_learnServerPorts hv

theorem delivery_drainUpstream (sends : List SendResult) :
    (s.drainUpstream sends).2.delivery = s.delivery := by
  induction sends generalizing s with
  | nil => rfl
  | cons r rs ih =>
    have hturn : (s.upstreamSendTurn r).state.delivery = s.delivery := by
      rw [upstreamSendTurn]
      split
      · rfl
      · split
        · dsimp only
          split <;> rfl
        · split <;> rfl
    rw [drainUpstream]
    rcases hr : s.upstreamSendTurn r with t | t
    · rw [hr] at hturn
      exact hturn
    · rw [hr] at hturn
      exact ih.trans hturn

theorem delivery_upstreamConnected (localName : Option SockAddr) :
    (s.upstreamConnected localName).delivery = s.delivery := by
  by_cases hbuf : s.downstreamRecvBuf = []
  · rcases localName with _ | name
    all_goals simp [upstreamConnected, hbuf, delivery]
  · rcases localName with _ | name
    all_goals simp [upstreamConnected, hbuf, delivery, pushUpstream]

theorem delivery_onUpstreamWritable (calls : UpstreamCalls) :
    (s.onUpstreamWritable calls).delivery = s.delivery := by
  have hdrain : ∀ u : RtspToRtspClient,
      (if (u.drainUpstream calls.sends).1 then
        { (u.drainUpstream calls.sends).2 with
          upstreamEvents :=
            { readable := true
              writable := !(u.drainUpstream calls.sends).2.toUpstreamQ.isEmpty } }
      else (u.drainUpstream calls.sends).2).delivery = u.delivery := by
    intro u
    split
    · exact delivery_drainUpstream calls.sends
    · exact delivery_drainUpstream calls.sends
  rw [onUpstreamWritable]
  split
  · rfl
  · split
    · exact (hdrain _).trans (delivery_upstreamConnected calls.localName)
    · exact hdrain s

theorem delivery_handleResponse {calls : UpstreamCalls} {resp : Bytes}
    (h : s.handleResponse cfg calls resp = .ok t) : t.delivery = s.delivery := by
  rcases handleResponse_cases h with ⟨-, rfl⟩ | ⟨-, -, rfl⟩ | ⟨-, -, u, v, patched, hu, hv, rfl⟩
  · rfl
  · exact delivery_onUpstreamWritable (s := (s.learnSession resp).retrying) calls
  · have hlearnt : u.delivery = (s.learnSession resp).delivery :=
      delivery_learnUpstreamTransport hu
    refine Eq.trans ?_ ((delivery_patchResponseForClient hv).trans hlearnt)
    show (v.startStreaming cfg resp).delivery = v.delivery
    rw [startStreaming]
    split
    · dsimp only
      split
      · rfl
      · exact delivery_openPorts
    · rfl

theorem delivery_processPendingSetup : (s.processPendingSetup cfg).delivery = s.delivery :=
  delivery_patchTransportForUpstream
    (s := { s with pendingSetupReq := [], lastSetupReq := s.pendingSetupReq }) s.pendingSetupReq

theorem delivery_handleStunReply (d : Incoming) :
    (s.handleStunReply cfg d).delivery = s.delivery := by
  unfold handleStunReply
  extract_lets data u port v
  show v.delivery = _
  simp only [v]
  split
  · rfl
  · exact delivery_processPendingSetup

/-! ## What changes it -/

/-- A `SETUP` settles where the media go: what the client asks for, and the ports of the relay, if
    there are none yet. -/
theorem delivery_handleSetup {ports : RelayPorts} {req : Bytes} {r : Turn RtspToRtspClient}
    (h : s.handleSetup cfg ports req = .ok r) : ∃ u, s.learnClientTransport req = .ok u ∧
      r.state.delivery = (if s.relayReady then u else (u.initRelaySockets ports).2).delivery := by
  obtain ⟨u, hu, h⟩ := Except.bind_eq_ok_iff.1 h
  refine ⟨u, hu, ?_⟩
  have hready : u.relayReady = s.relayReady := (relayPorts_learnClientTransport hu).2
  -- the session with its ports, whether they are there or not
  generalize hv : (if u.relayReady = true then (true, u) else u.initRelaySockets ports) = v at h
  have hdelivery : v.2.delivery =
      (if s.relayReady then u else (u.initRelaySockets ports).2).delivery := by
    rw [← hv, hready]
    split <;> rfl
  rcases v with ⟨ready, v⟩
  dsimp only at h hdelivery
  rw [← hdelivery]
  split at h
  · cases h
    rfl
  · split at h
    · cases h
      rfl
    · cases h
      exact delivery_patchTransportForUpstream
        (s := { v with relayReady := true, lastSetupReq := req }) req

/-- A step leaves alone where the media go, or it follows a port of the client, or handles a
    `SETUP`. -/
theorem delivery_of_step (h : step cfg s e = .ok t) :
    t.delivery = s.delivery ∨
    (∃ d, e = .rtpFromClient d ∧ d.src.addr = s.clientAddr.addr ∧ t.delivery =
      { s.delivery with clientRtpAddr := { s.clientRtpAddr with port := d.src.port } }) ∨
    (∃ d, e = .rtcpFromClient d ∧ d.src.addr = s.clientAddr.addr ∧ t.delivery =
      { s.delivery with clientRtcpAddr := { s.clientRtcpAddr with port := d.src.port } }) ∨
    ∃ ports req u, e = .downstreamTurn ports ∧ frontRequest s.downstreamRecvBuf = some req ∧
      (ascii "SETUP ").isPrefixOf req = true ∧
      (s.skipDownstream req.length).learnClientTransport req = .ok u ∧
      t.delivery = (if s.relayReady then u else (u.initRelaySockets ports).2).delivery := by
  cases e with
  | downstreamTurn ports =>
    obtain ⟨r, hr, rfl⟩ := Except.map_eq_ok_iff.1 h
    rcases downstreamTurn_cases hr with ⟨rfl, -, -⟩ | ⟨channel, data, -, rfl⟩ | ⟨req, hreq, hr⟩
    · exact .inl rfl
    · exact .inl (delivery_handleInterleavedFromClient channel data)
    · rw [handleRequest] at hr
      split at hr
      case isTrue hsetup =>
        obtain ⟨u, hu, hdelivery⟩ := delivery_handleSetup hr
        exact .inr (.inr (.inr ⟨ports, req, u, rfl, hreq, hsetup, hu, hdelivery⟩))
      case isFalse =>
        cases hr
        exact .inl rfl
  | rtpFromClient d =>
    cases h
    rcases delivery_receiveTurn (s := s) handleRtpFromClient d with
      hsame | ⟨payload, pool, hturn⟩
    · exact .inl hsame
    · show (receiveTurn handleRtpFromClient d s).state.delivery = s.delivery ∨ _
      rw [hturn, handleRtpFromClient]
      split
      case isTrue haddr =>
        refine .inr (.inl ⟨d, rfl, haddr, ?_⟩)
        dsimp only
        split <;> rfl
      case isFalse => exact .inl rfl
  | rtcpFromClient d =>
    cases h
    rcases delivery_receiveTurn (s := s) handleRtcpFromClient d with
      hsame | ⟨payload, pool, hturn⟩
    · exact .inl hsame
    · show (receiveTurn handleRtcpFromClient d s).state.delivery = s.delivery ∨ _
      rw [hturn, handleRtcpFromClient]
      split
      case isTrue haddr =>
        refine .inr (.inr (.inl ⟨d, rfl, haddr, ?_⟩))
        dsimp only
        split <;> rfl
      case isFalse => exact .inl rfl
  | upstreamTurn calls =>
    obtain ⟨r, hr, rfl⟩ := Except.map_eq_ok_iff.1 h
    rcases upstreamTurn_cases hr with ⟨rfl, -, -⟩ | ⟨channel, data, -, rfl⟩ | ⟨msg, t, -, -, ht, rfl⟩
    · exact .inl rfl
    · exact .inl (delivery_handleInterleavedFromUpstream channel data)
    · have hsame : t.delivery = (s.skipUpstream msg.length).delivery := delivery_handleResponse ht
      exact .inl hsame
  | rtpFromUpstream d =>
    cases h
    rcases delivery_receiveTurn (s := s) (handleRtpFromUpstream cfg) d with
      hsame | ⟨payload, pool, hturn⟩
    · exact .inl hsame
    · exact .inl (hturn.trans (delivery_handleRtpFromUpstream _))
  | rtcpFromUpstream d =>
    cases h
    rcases delivery_receiveTurn (s := s) handleRtcpFromUpstream d with
      hsame | ⟨payload, pool, hturn⟩
    · exact .inl hsame
    · exact .inl (hturn.trans (delivery_handleRtcpFromUpstream _))
  | stunReply d =>
    cases h
    exact .inl (delivery_handleStunReply d)
  | upstreamWritable calls =>
    cases h
    exact .inl (delivery_onUpstreamWritable calls)
  | sendDownstream r =>
    cases h
    refine .inl ?_
    rw [downstreamSendTurn]
    split
    · rfl
    · dsimp only
      split
      · rfl
      · split <;> rfl
  | downstreamSent =>
    cases h
    refine .inl ?_
    show (s.onDownstreamWritable []).delivery = s.delivery
    unfold onDownstreamWritable drainDownstream
    dsimp only
    split <;> rfl
  | receiveDownstream _ | receiveUpstream _ | noDatagram | timer | close =>
    cases h
    exact .inl rfl

end RtspToRtspClient

import RtsProxy.Clients.RtspToRtsp.Delivery
import RtsProxy.Clients.RtspToRtsp.Exchange
import RtsProxy.Clients.RtspToRtsp.ForwardedTransport

/-!
# What a client is told of its delivery

A `SETUP` settles how the client is sent its media, and the reply that it is passed tells it so.
What it is told is read in the message that is queued for it: the transport of the server, edited or
not. How it is sent its media, the proxy has read in the request. The two agree exactly if the edits
can make the one out of the other.

* `showsUdp_of_run_iff`: for a client that has asked for datagrams;
* `showsTcp_of_run_iff`: for a client that has asked for frames.
-/

open Text RtspParser

namespace RtspToRtspClient

/-! ## What is asked for -/

/-- A `SETUP` that asks for datagrams at the ports `a` and `b`. -/
structure AsksUdp (a b : Nat) (req : Bytes) : Prop where
  setup : (ascii "SETUP ").isPrefixOf req = true
  channels : extractPair interleavedGroupsRe req = .ok none
  ports : extractPair clientPortGroupsRe req = .ok (some (a, b))

/-- A `SETUP` that asks for frames on the channels `c` and `d`. -/
structure AsksTcp (c d : Nat) (req : Bytes) : Prop where
  setup : (ascii "SETUP ").isPrefixOf req = true
  channels : extractPair interleavedGroupsRe req = .ok (some (c, d))

/-- The `SETUP` of the client stays the last one, and its datagrams come from the ports that it is
    sent datagrams at. -/
def KeepsDelivery (s : RtspToRtspClient) : Event → Prop
  | .downstreamTurn _ =>
    ∀ req ∈ frontRequest s.downstreamRecvBuf, (ascii "SETUP ").isPrefixOf req = false
  | .rtpFromClient d => d.src.addr = s.clientAddr.addr → d.src.port = s.clientRtpAddr.port
  | .rtcpFromClient d => d.src.addr = s.clientAddr.addr → d.src.port = s.clientRtcpAddr.port
  | _ => True

instance (s : RtspToRtspClient) : ∀ e, Decidable (KeepsDelivery s e)
  | .downstreamTurn _ | .rtpFromClient _ | .rtcpFromClient _ => by
    unfold KeepsDelivery
    infer_instance
  | .upstreamTurn _ | .upstreamWritable _ | .receiveDownstream _ | .sendDownstream _
  | .downstreamSent | .receiveUpstream _ | .rtpFromUpstream _ | .rtcpFromUpstream _ | .noDatagram
  | .stunReply _ | .timer | .close => isTrue trivial

variable {cfg : ServerConfig} {s t u v : RtspToRtspClient} {req reply : Bytes} {a b c d : Nat}

theorem delivery_of_run (h : Run cfg KeepsDelivery s t) : t.delivery = s.delivery := by
  refine run_invariant (P := fun u => u.delivery = s.delivery) ?_ h rfl
  intro u e v hu _ hkeeps hst
  rw [← hu]
  rcases delivery_of_step hst with hsame | ⟨d, rfl, haddr, hmoved⟩ | ⟨d, rfl, haddr, hmoved⟩ |
    ⟨ports, req, w, rfl, hreq, hsetup, -, -⟩
  · exact hsame
  · rw [hmoved, hkeeps haddr]
    rfl
  · rw [hmoved, hkeeps haddr]
    rfl
  · exact absurd hsetup (Bool.eq_false_iff.1 (hkeeps req hreq))

/-- A `SETUP` that is handled settles how the client is sent its media. -/
theorem delivery_of_setup {ports : RelayPorts} (hreq : frontRequest s.downstreamRecvBuf = some req)
    (hsetup : (ascii "SETUP ").isPrefixOf req = true)
    (h : step cfg s (.downstreamTurn ports) = .ok t) : ∃ u,
      (s.skipDownstream req.length).learnClientTransport req = .ok u ∧
        t.delivery = (if s.relayReady then u else (u.initRelaySockets ports).2).delivery := by
  obtain ⟨r, hr, rfl⟩ := Except.map_eq_ok_iff.1 h
  rcases downstreamTurn_cases hr with ⟨-, -, hno⟩ | ⟨channel, data, hf, -⟩ | ⟨req', hreq', hr⟩
  · cases hno.symm.trans hreq
  · cases (frontRequest_of_frontFrame hf).symm.trans hreq
  · obtain rfl : req' = req := Option.some.inj (hreq'.symm.trans hreq)
    rw [handleRequest, if_pos hsetup] at hr
    exact delivery_handleSetup hr

/-- Binding the ports of the relay leaves alone what the client has asked for. -/
theorem delivery_initRelaySockets (ports : RelayPorts) :
    (s.initRelaySockets ports).2.isDownstreamTcp = s.isDownstreamTcp ∧
    (s.initRelaySockets ports).2.dsInterleavedRtp = s.dsInterleavedRtp ∧
    (s.initRelaySockets ports).2.dsInterleavedRtcp = s.dsInterleavedRtcp ∧
    (s.initRelaySockets ports).2.clientRtpAddr = s.clientRtpAddr ∧
    (s.initRelaySockets ports).2.clientRtcpAddr = s.clientRtcpAddr := by
  rw [initRelaySockets]
  split
  · exact ⟨rfl, rfl, rfl, rfl, rfl⟩
  · split <;> exact ⟨rfl, rfl, rfl, rfl, rfl⟩

/-- What a client asks for it is sent, as far as it fits. -/
theorem udp_of_asks (hask : AsksUdp a b req) (h : s.learnClientTransport req = .ok u) :
    u.isDownstreamTcp = false ∧ u.clientRtpAddr.port = a % 65536 ∧
      u.clientRtcpAddr.port = b % 65536 := by
  rw [learnClientTransport, extractInterleavedChannels, extractClientPort, hask.channels,
    hask.ports] at h
  cases h
  exact ⟨rfl, rfl, rfl⟩

@[inherit_doc udp_of_asks]
theorem tcp_of_asks (hask : AsksTcp c d req) (h : s.learnClientTransport req = .ok u) :
    u.isDownstreamTcp = true ∧ u.dsInterleavedRtp.toNat = c % 256 ∧
      u.dsInterleavedRtcp.toNat = d % 256 := by
  rw [learnClientTransport, extractInterleavedChannels, hask.channels] at h
  cases h
  have hbyte : ∀ n : Nat, (toUint8 n).toNat = n % 256 := by
    intro n
    have hlt : n % 256 < UInt8.size := Nat.mod_lt _ (by decide)
    rw [toUint8, show ((n : Int) % 256).toNat = n % 256 from rfl]
    exact UInt8.toNat_ofNat_of_lt hlt
  exact ⟨rfl, hbyte c, hbyte d⟩

/-- From the `SETUP` on, the client is sent datagrams at the ports that it has asked for. -/
theorem udp_of_run {ports : RelayPorts} (hreq : frontRequest s.downstreamRecvBuf = some req)
    (hask : AsksUdp a b req) (hsetup : step cfg s (.downstreamTurn ports) = .ok t)
    (hrun : Run cfg KeepsDelivery t u) : u.isDownstreamTcp = false ∧
      u.clientRtpAddr.port = a % 65536 ∧ u.clientRtcpAddr.port = b % 65536 := by
  obtain ⟨w, hw, hdelivery⟩ := delivery_of_setup hreq hask.setup hsetup
  rw [← delivery_of_run hrun] at hdelivery
  simp only [delivery, Delivery.mk.injEq] at hdelivery
  obtain ⟨htcp, -, -, hrtp, hrtcp, -⟩ := hdelivery
  obtain ⟨hinit, -, -, hinitRtp, hinitRtcp⟩ := @delivery_initRelaySockets w ports
  rw [htcp, hrtp, hrtcp]
  split
  · exact udp_of_asks hask hw
  · rw [hinit, hinitRtp, hinitRtcp]
    exact udp_of_asks hask hw

/-- From the `SETUP` on, the client is sent frames on the channels that it has asked for. -/
theorem tcp_of_run {ports : RelayPorts} (hreq : frontRequest s.downstreamRecvBuf = some req)
    (hask : AsksTcp c d req) (hsetup : step cfg s (.downstreamTurn ports) = .ok t)
    (hrun : Run cfg KeepsDelivery t u) : u.isDownstreamTcp = true ∧
      u.dsInterleavedRtp.toNat = c % 256 ∧ u.dsInterleavedRtcp.toNat = d % 256 := by
  obtain ⟨w, hw, hdelivery⟩ := delivery_of_setup hreq hask.setup hsetup
  rw [← delivery_of_run hrun] at hdelivery
  simp only [delivery, Delivery.mk.injEq] at hdelivery
  obtain ⟨htcp, hrtp, hrtcp, -⟩ := hdelivery
  obtain ⟨hinit, hinitRtp, hinitRtcp, -⟩ := @delivery_initRelaySockets w ports
  rw [htcp, hrtp, hrtcp]
  split
  · exact tcp_of_asks hask hw
  · rw [hinit, hinitRtp, hinitRtcp]
    exact tcp_of_asks hask hw

/-! ## What is passed on -/

/-- The client is passed a reply, with the transport put in. -/
def PassesOn (s : RtspToRtspClient) (reply : Bytes) (t : RtspToRtspClient) : Prop :=
  ∃ patched, t.patchOthers (t.withTransport reply) = .ok patched ∧
    (s.answerOf reply t).queued = [Item.packet { kind := .response, data := patched }]

/-- A reply is passed on unless it looks like one to a keepalive, or another `SETUP` is tried. -/
theorem passesOn_of_step {calls : UpstreamCalls}
    (hreply : frontMessage s.upstreamRecvBuf = some reply)
    (hretry : s.wantsRetry reply = false)
    (h : step cfg s (.upstreamTurn calls) = .ok t) :
    (isKeepaliveReply reply = true ∧ (s.answerOf reply t).queued = [] ∨
      isKeepaliveReply reply = false ∧ PassesOn s reply t) ∧ t.clientSide = s.clientSide := by
  obtain ⟨r, hr, rfl⟩ := Except.map_eq_ok_iff.1 h
  rcases upstreamTurn_cases hr with ⟨-, -, hm⟩ | ⟨channel, data, hf, -⟩ | ⟨msg, t, -, hm, ht, rfl⟩
  · cases hm.symm.trans hreply
  · cases (frontMessage_of_frontFrame hf).symm.trans hreply
  · obtain rfl : msg = reply := Option.some.inj (hm.symm.trans hreply)
    rcases handleResponse_cases ht with ⟨hka, rfl⟩ | ⟨-, hwants, -⟩ |
      ⟨hka, -, u, v, patched, hu, hv, rfl⟩
    · exact ⟨.inl ⟨hka, queued_of_same rfl⟩, rfl⟩
    · exact absurd hwants (Bool.eq_false_iff.1 hretry)
    · obtain ⟨hside, hpatched⟩ := patchOthers_of_patchResponseForClient hv
      -- starting the stream changes nothing that a reply is patched with
      have hstart : (v.startStreaming cfg msg).clientSide = v.clientSide := by
        rw [startStreaming]
        split
        · dsimp only
          split
          · rfl
          · exact clientSide_openPorts
        · rfl
      have hkept : (Turn.again ((v.startStreaming cfg msg).queueResponse patched)).state.clientSide =
          v.clientSide := hstart
      refine ⟨.inr ⟨hka, patched, ?_, ?_⟩, ?_⟩
      · rw [patchOthers_congr hkept, withTransport_congr hkept]
        exact hpatched
      · exact queued_of_patched (s := s.skipUpstream msg.length) hu hv
      · exact hkept.trans (hside.trans ((clientSide_learnUpstreamTransport hu).trans
          clientSide_learnSession))

/-- A reply that says `200` does not make another `SETUP` be tried. -/
theorem wantsRetry_of_ok (h : RtspParser.parseStatusCode reply = 200) :
    s.wantsRetry reply = false := by
  rw [wantsRetry, h]
  rfl

/-! ## What the client is told -/

/-- The transport that a reply names, with the protocol that the client has asked for. -/
def announcedTransport (s : RtspToRtspClient) (reply : Bytes) : Bytes :=
  s.restoreProtocol (extractHeaderValue reply (ascii "Transport"))

/-- The message that is queued for the client has a transport of some kind. -/
def Shows (s : RtspToRtspClient) (reply : Bytes) (t : RtspToRtspClient) (good : Bytes → Prop) :
    Prop :=
  ∃ out, (s.answerOf reply t).queued = [Item.packet { kind := .response, data := out }] ∧
    ∃ shown ∈ headerField (ascii "Transport") (headerLines out), good shown

/-- What a client that has asked for datagrams is told describes how it is sent them. -/
def ShowsUdp (s : RtspToRtspClient) (a b : Nat) (reply : Bytes) (t : RtspToRtspClient) : Prop :=
  Shows s reply t (t.UdpShown a b)

/-- What a client that has asked for frames is told describes how it is sent them. -/
def ShowsTcp (s : RtspToRtspClient) (c d : Nat) (reply : Bytes) (t : RtspToRtspClient) : Prop :=
  Shows s reply t (t.TcpShown c d)

/-- A reply that is taken for one to a keepalive is not passed on. -/
theorem Shows.not_keepalive {calls : UpstreamCalls} {good : Bytes → Prop}
    (hreply : frontMessage s.upstreamRecvBuf = some reply)
    (hretry : s.wantsRetry reply = false) (h : step cfg s (.upstreamTurn calls) = .ok t)
    (hshows : Shows s reply t good) : isKeepaliveReply reply = false := by
  obtain ⟨out, hout, -⟩ := hshows
  rcases (passesOn_of_step hreply hretry h).1 with ⟨-, hnone⟩ | ⟨hka, -⟩
  · cases hnone.symm.trans hout
  · exact hka

/-- A reply is passed on with a transport of some kind exactly if it is not taken for one to a
    keepalive, and what is told by the place of its transport is of that kind. -/
theorem shows_of_step_iff {calls : UpstreamCalls} {good : Bytes → Prop}
    (hreply : frontMessage s.upstreamRecvBuf = some reply)
    (hretry : s.wantsRetry reply = false) (h : step cfg s (.upstreamTurn calls) = .ok t)
    (hwhole : crlf2 <:+: reply) (hcr : ∀ l ∈ headerLines reply, 13 ∉ l)
    (hline : ∀ l ∈ fieldLine (ascii "Transport") (headerLines reply), ∀ name ∈ otherNames,
      ¬Names name l)
    (hleft : LeavesOthers (t.clientTransport (s.announcedTransport reply)))
    (hskip : ∀ v, good (skipBlanks v) ↔ good v)
    (hnil : ¬good [] ∧ ¬good (t.clientTransport [])) :
    Shows s reply t good ↔ isKeepaliveReply reply = false ∧
      Tells (fun v => good (t.clientTransport (s.restoreProtocol v))) good (headerLines reply) := by
  obtain ⟨hpassed, hside⟩ := passesOn_of_step hreply hretry h
  have hrestore := restoreProtocol_congr hside
  rcases hpassed with ⟨hka, hqueued⟩ | ⟨hka, patched, hpatched, hqueued⟩
  · refine iff_of_false ?_ fun hcond => Bool.false_ne_true (hcond.1.symm.trans hka)
    rintro ⟨out, hout, -⟩
    cases hqueued.symm.trans hout
  · obtain ⟨i, hi⟩ := Option.ne_none_iff_exists'.1 fun hno => find_eq_none_iff.1 hno hwhole
    obtain ⟨hs, body, hblock, rfl⟩ := exists_message hi
    rw [headerLines_message hblock] at hcr hline ⊢
    rw [announcedTransport, ← hrestore] at hleft
    have hempty : t.restoreProtocol [] = [] := by
      rw [restoreProtocol]
      split <;> rfl
    -- the line of the transport is edited first, and the edits of the other fields do not reach it
    obtain ⟨line, hedited, hno, htells⟩ := isReply_withTransport hblock body hcr hline hleft hskip
      ⟨hnil.1, hempty.symm ▸ hnil.2⟩
    have hout := (isReply_patchOthers hedited hno hpatched).fieldLine
    rw [← hrestore, ← htells]
    constructor
    · rintro ⟨out, hqueue, hshown⟩
      obtain rfl : patched = out :=
        congrArg (fun p => p.data) (List.head_eq_of_cons_eq (hqueued.symm.trans hqueue))
      rw [headerField_eq, hout] at hshown
      exact ⟨hka, hshown⟩
    · rintro ⟨-, hshown⟩
      refine ⟨patched, hqueued, ?_⟩
      rw [headerField_eq, hout]
      exact hshown

/-! ### Runs from a `SETUP` to its reply -/

/-- The sessions in which a request has been received, it has been handled, a reply has been
    received after some other events, and it has been handled. -/
def exchange (req : Bytes) (between : List Event) (reply : Bytes) :
    Option (RtspToRtspClient × RtspToRtspClient × RtspToRtspClient × RtspToRtspClient) := do
  let s ← runEvents {} anyStep liveSession
    (connectEvent :: replyEvents firstReply ++ [.receiveDownstream req])
  let t ← (step {} s (.downstreamTurn ⟨.bound 20000, .bound 30000⟩)).toOption
  let u ← runEvents {} KeepsDelivery t (between ++ [.receiveUpstream reply])
  let v ← (step {} u (.upstreamTurn {})).toOption
  if frontRequest s.downstreamRecvBuf = some req ∧ frontMessage u.upstreamRecvBuf = some reply then
    some (s, t, u, v)
  else none

theorem exchange_spec {between : List Event} (h : exchange req between reply = some (s, t, u, v)) :
    Run {} anyStep liveSession s ∧ frontRequest s.downstreamRecvBuf = some req ∧
      step {} s (.downstreamTurn ⟨.bound 20000, .bound 30000⟩) = .ok t ∧
      Run {} KeepsDelivery t u ∧ frontMessage u.upstreamRecvBuf = some reply ∧
      step {} u (.upstreamTurn {}) = .ok v := by
  have hok : ∀ {x : Except Exn RtspToRtspClient} {y}, x.toOption = some y → x = .ok y := by
    intro x y hx
    rcases x with e | x
    · cases hx
    · cases hx
      rfl
  rw [exchange] at h
  obtain ⟨s', hs, h⟩ := Option.bind_eq_some_iff.1 h
  obtain ⟨t', ht, h⟩ := Option.bind_eq_some_iff.1 h
  obtain ⟨u', hu, h⟩ := Option.bind_eq_some_iff.1 h
  obtain ⟨v', hv, h⟩ := Option.bind_eq_some_iff.1 h
  obtain ⟨⟨hreq, hreply⟩, h⟩ := Option.ite_none_right_eq_some.1 h
  cases h
  exact ⟨run_of_runEvents hs, hreq, hok ht, run_of_runEvents hu, hreply, hok hv⟩

instance (name : String) (a b : Nat) (transport : Bytes) :
    Decidable (NamesPair name a b transport) := by
  unfold NamesPair
  infer_instance

theorem HasPair.of_namesPair {name : String} {transport : Bytes}
    (h : NamesPair name a b transport) : HasPair name transport :=
  ⟨⟨_, h.1, isPair_portPair name a b⟩, fun param hparam hpre =>
    h.2 param hparam hpre ▸ isPair_portPair name a b⟩

/-- A reply that accepts a `SETUP`. -/
def acceptance (transport : Bytes) : Bytes :=
  ascii "RTSP/1.0 200 OK" ++ crlf ++ ascii "CSeq: 3" ++ crlf ++ ascii "Transport: " ++ transport ++
    crlf2

/-- A transport of a server over UDP. -/
def udpTransport : Bytes :=
  ascii "RTP/AVP;unicast;" ++ ascii "client_port=20000-20001;" ++ ascii "server_port=7000-7001"

/-- A server that accepts UDP. -/
def udpAcceptance : Bytes := acceptance udpTransport

/-- A server that accepts TCP. -/
def tcpAcceptance : Bytes := acceptance tcpTransport

/-- The transport of a server that accepts UDP is told as it is edited. -/
theorem tells_udpAcceptance {edited kept : Bytes → Prop} (h : edited udpTransport) :
    Tells edited kept (headerLines udpAcceptance) := by
  obtain ⟨l, hl⟩ : ∃ l, l = ascii "Transport: " ++ udpTransport := ⟨_, rfl⟩
  have hlines : headerLines udpAcceptance = [ascii "RTSP/1.0 200 OK", ascii "CSeq: 3", l] := by
    rw [hl]
    decide +kernel
  have hstart : headerPos l (ascii "Transport") = some 0 := by
    rw [hl]
    decide +kernel
  have hvalue : lineValue (ascii "Transport") l 0 = udpTransport := by
    rw [hl]
    decide +kernel
  have hfront : ∀ l ∈ [ascii "RTSP/1.0 200 OK", ascii "CSeq: 3"], ¬Names (ascii "Transport") l := by
    decide
  rw [hlines]
  refine (tells_append_iff hfront edited kept [l]).2 ?_
  rw [Tells, hstart]
  exact hvalue.symm ▸ h

theorem legible_udpAcceptance {left : Bytes} (h : LeavesOthers left) : Legible left udpAcceptance :=
  ⟨by decide +kernel, by decide +kernel, by decide +kernel, h⟩

theorem extractHeaderValue_udpAcceptance :
    extractHeaderValue udpAcceptance (ascii "Transport") = udpTransport := by
  decide +kernel

/-! ### A client that is sent datagrams -/

/-- What is told by the place of a transport is UDP, with the ports of both sides. -/
def TellsUdp (s : RtspToRtspClient) (a b : Nat) (reply : Bytes) : Prop :=
  Tells (fun v => AnnouncesUdp (s.restoreProtocol v)) (s.UdpShown a b) (headerLines reply)

theorem not_namesPair_nil {name : String} : ¬NamesPair name a b [] := fun h =>
  absurd h.1 List.not_mem_nil

/-- Blanks in front of a transport do not matter. -/
theorem UdpShown.of_params {w w' : Bytes} (h : s.UdpShown a b w)
    (hparams : transportParams w' = transportParams w) (hprofiles : profiles w' = profiles w) :
    s.UdpShown a b w' where
  delivered := h.delivered
  profile := hprofiles ▸ h.profile
  channels := hparams ▸ h.channels
  client := (namesPair_congr hparams).2 h.client
  server := (namesPair_congr hparams).2 h.server

theorem udpShown_skipBlanks_iff (w : Bytes) :
    s.UdpShown a b (skipBlanks w) ↔ s.UdpShown a b w := by
  obtain ⟨hparams, hprofiles⟩ := params_skipBlanks w
  exact ⟨fun h => h.of_params hparams.symm hprofiles.symm, fun h => h.of_params hparams hprofiles⟩

theorem UdpShown.congr {w : Bytes} (h : s.UdpShown a b w) (hside : t.clientSide = s.clientSide) :
    t.UdpShown a b w := by
  obtain ⟨hdelivered, hprofile, hchannels, hclient, hserver⟩ := h
  simp only [clientSide, Prod.mk.injEq] at hside
  obtain ⟨htcp, -, -, hrtpPort, hrtcpPort, hrtp, hrtcp, -⟩ := hside
  rw [← htcp, ← hrtp, ← hrtcp] at hdelivered
  rw [← hrtpPort, ← hrtcpPort] at hserver
  exact ⟨hdelivered, hprofile, hchannels, hclient, hserver⟩

theorem udpShown_congr (h : t.clientSide = s.clientSide) (w : Bytes) :
    t.UdpShown a b w ↔ s.UdpShown a b w :=
  ⟨fun hshown => hshown.congr h.symm, fun hshown => hshown.congr h⟩

/-- A client that has asked for datagrams, and keeps its ports, is told how it is sent them only if
    its ports are some and the reply does not look like one to a keepalive. For a legible reply this
    is so exactly if, also, the transport of the server is edited and names UDP with the ports of
    both sides, or is not edited and is what the client has to be told. -/
theorem showsUdp_of_run_iff {ports : RelayPorts} {calls : UpstreamCalls}
    (hreq : frontRequest s.downstreamRecvBuf = some req) (hask : AsksUdp a b req)
    (hsetup : step cfg s (.downstreamTurn ports) = .ok t) (hrun : Run cfg KeepsDelivery t u)
    (hreply : frontMessage u.upstreamRecvBuf = some reply)
    (hok : parseStatusCode reply = 200) (h : step cfg u (.upstreamTurn calls) = .ok v) :
    (ShowsUdp u a b reply v → isKeepaliveReply reply = false ∧ a ≤ 65535 ∧ b ≤ 65535) ∧
    (Legible (u.announcedTransport reply) reply → (ShowsUdp u a b reply v ↔
      isKeepaliveReply reply = false ∧ (a ≤ 65535 ∧ b ≤ 65535) ∧ u.TellsUdp a b reply)) := by
  have hside := (passesOn_of_step hreply (wantsRetry_of_ok hok) h).2
  obtain ⟨hudp, hrtp, hrtcp⟩ := udp_of_run hreq hask hsetup hrun
  have hports : ShowsUdp u a b reply v → a ≤ 65535 ∧ b ≤ 65535 := by
    rintro ⟨out, -, shown, -, hshown⟩
    obtain ⟨-, ha, hb⟩ := ((udpShown_congr hside shown).1 hshown).delivered
    omega
  have htcp : v.isDownstreamTcp = false := by
    have hside' := hside
    simp only [clientSide, Prod.mk.injEq] at hside'
    exact hside'.1.trans hudp
  refine ⟨fun hshows => ⟨hshows.not_keepalive hreply (wantsRetry_of_ok hok) h, hports hshows⟩, ?_⟩
  rintro ⟨hwhole, hcr, hline, hleft⟩
  have hnil : ¬v.UdpShown a b [] := fun hshown => not_namesPair_nil hshown.client
  have hempty : ¬v.UdpShown a b (v.clientTransport []) := by
    intro hshown
    obtain ⟨-, hannounced⟩ := (udpShown_clientTransport_iff htcp).1 hshown
    obtain ⟨⟨param, hparam, -⟩, -⟩ := hannounced.client
    exact List.not_mem_nil hparam
  have hshows : ShowsUdp u a b reply v ↔ _ :=
    shows_of_step_iff hreply (wantsRetry_of_ok hok) h hwhole hcr hline
      (leavesOthers_udp htcp hleft) udpShown_skipBlanks_iff ⟨hnil, hempty⟩
  have htells : (a ≤ 65535 ∧ b ≤ 65535) → (Tells
      (fun w => v.UdpShown a b (v.clientTransport (u.restoreProtocol w))) (v.UdpShown a b)
      (headerLines reply) ↔ u.TellsUdp a b reply) := by
    intro hrange
    refine tells_congr (fun w => ?_) (udpShown_congr hside)
    simp only [clientSide, Prod.mk.injEq] at hside
    obtain ⟨-, -, -, -, -, hrtpAddr, hrtcpAddr, -⟩ := hside
    rw [udpShown_clientTransport_iff htcp, hrtpAddr, hrtcpAddr, hrtp, hrtcp]
    refine and_iff_right ?_
    omega
  constructor
  · intro hs
    obtain ⟨hka, htold⟩ := hshows.1 hs
    exact ⟨hka, hports hs, (htells (hports hs)).1 htold⟩
  · rintro ⟨hka, hrange, htold⟩
    exact hshows.2 ⟨hka, (htells hrange).2 htold⟩

theorem asksUdp_udpSetup : AsksUdp 6000 6001 udpSetup :=
  ⟨by decide +kernel, by decide +kernel, by decide +kernel⟩

/-- The server accepts UDP. -/
theorem showsUdp_of_run_accepted : ∃ s t u v, Run {} anyStep liveSession s ∧
    AsksUdp 6000 6001 udpSetup ∧ step {} s (.downstreamTurn ⟨.bound 20000, .bound 30000⟩) = .ok t ∧
    Run {} KeepsDelivery t u ∧ frontMessage u.upstreamRecvBuf = some udpAcceptance ∧
    step {} u (.upstreamTurn {}) = .ok v ∧ ShowsUdp u 6000 6001 udpAcceptance v := by
  have hrun : (exchange udpSetup [] udpAcceptance).map (fun x => x.2.2.1.dsTransportProtocol) =
      some (ascii "RTP/AVP") := by
    decide +kernel
  obtain ⟨⟨s, t, u, v⟩, hx, hprotocol⟩ := Option.map_eq_some_iff.1 hrun
  obtain ⟨hs, hreq, ht, hu, hreply, hv⟩ := exchange_spec hx
  have hrestored : u.restoreProtocol udpTransport = udpTransport := by
    rw [restoreProtocol, show u.dsTransportProtocol = _ from hprotocol]
    decide +kernel
  have hlegible : Legible (u.announcedTransport udpAcceptance) udpAcceptance := by
    rw [announcedTransport, extractHeaderValue_udpAcceptance, hrestored]
    exact legible_udpAcceptance ⟨by decide +kernel, by decide +kernel⟩
  have htells : u.TellsUdp 6000 6001 udpAcceptance := by
    refine tells_udpAcceptance ?_
    rw [hrestored]
    exact ⟨by decide +kernel, by decide +kernel,
      @HasPair.of_namesPair 20000 20001 _ _ (by decide +kernel),
      @HasPair.of_namesPair 7000 7001 _ _ (by decide +kernel)⟩
  exact ⟨s, t, u, v, hs, asksUdp_udpSetup, ht, hu, hreply, hv,
    ((showsUdp_of_run_iff hreq asksUdp_udpSetup ht hu hreply (by decide +kernel) hv).2
      hlegible).2 ⟨by decide +kernel, by decide, htells⟩⟩

/-- The server rejects UDP, and accepts TCP. The client that has asked for UDP is told TCP. -/
theorem not_showsUdp_rejected : ∃ s t u v, Started {} liveSession ∧ Run {} anyStep liveSession s ∧
    frontRequest s.downstreamRecvBuf = some udpSetup ∧ AsksUdp 6000 6001 udpSetup ∧
    step {} s (.downstreamTurn ⟨.bound 20000, .bound 30000⟩) = .ok t ∧
    Run {} KeepsDelivery t u ∧ frontMessage u.upstreamRecvBuf = some tcpAcceptance ∧
    parseStatusCode tcpAcceptance = 200 ∧ step {} u (.upstreamTurn {}) = .ok v ∧
    v.isDownstreamTcp = false ∧ (u.answerOf tcpAcceptance v).queued =
      [Item.packet { kind := .response, data := tcpAcceptance }] ∧
    ¬ShowsUdp u 6000 6001 tcpAcceptance v := by
  have hrun : (exchange udpSetup (replyEvents (rejection "3")) tcpAcceptance).map (fun x =>
      (x.2.2.2.isDownstreamTcp, (x.2.2.1.answerOf tcpAcceptance x.2.2.2).queued)) =
        some (false, [Item.packet { kind := .response, data := tcpAcceptance }]) := by
    decide +kernel
  obtain ⟨⟨s, t, u, v⟩, hx, hsent⟩ := Option.map_eq_some_iff.1 hrun
  simp only [Prod.mk.injEq] at hsent
  obtain ⟨hudp, hqueued⟩ := hsent
  obtain ⟨hs, hreq, ht, hu, hreply, hv⟩ := exchange_spec hx
  refine ⟨s, t, u, v, started_liveSession, hs, hreq, asksUdp_udpSetup, ht, hu, hreply,
    by decide +kernel, hv, hudp, hqueued, ?_⟩
  rintro ⟨out, hout, shown, hshown, hgood⟩
  obtain rfl : tcpAcceptance = out :=
    congrArg (fun p => p.data) (List.head_eq_of_cons_eq (hqueued.symm.trans hout))
  have hread : headerField (ascii "Transport") (headerLines tcpAcceptance) =
      some tcpTransport := by
    decide +kernel
  obtain rfl := Option.some.inj (hread.symm.trans hshown)
  exact absurd hgood.profile (by decide +kernel)

/-! ### A client that is sent frames -/

/-- What is told by the place of a transport is TCP, on the channels of the client. -/
def TellsTcp (s : RtspToRtspClient) (c d : Nat) (reply : Bytes) : Prop :=
  Tells (fun v => AnnouncesTcp c d (s.restoreProtocol v)) (s.TcpShown c d) (headerLines reply)

theorem tcpShown_skipBlanks_iff (w : Bytes) : s.TcpShown c d (skipBlanks w) ↔ s.TcpShown c d w := by
  have hparams := (params_skipBlanks w).1
  have hprofile := profileOf_congr hparams
  exact ⟨fun h => ⟨h.delivered, hprofile ▸ h.profile, (namesPair_congr hparams).1 h.channels⟩,
    fun h => ⟨h.delivered, hprofile ▸ h.profile, (namesPair_congr hparams).2 h.channels⟩⟩

theorem TcpShown.congr {w : Bytes} (h : s.TcpShown c d w) (hside : t.clientSide = s.clientSide) :
    t.TcpShown c d w := by
  obtain ⟨hdelivered, hprofile, hchannels⟩ := h
  simp only [clientSide, Prod.mk.injEq] at hside
  obtain ⟨htcp, hrtp, hrtcp, -⟩ := hside
  rw [← htcp, ← hrtp, ← hrtcp] at hdelivered
  exact ⟨hdelivered, hprofile, hchannels⟩

theorem tcpShown_congr (h : t.clientSide = s.clientSide) (w : Bytes) :
    t.TcpShown c d w ↔ s.TcpShown c d w :=
  ⟨fun hshown => hshown.congr h.symm, fun hshown => hshown.congr h⟩

/-- A client that has asked for frames is told how it is sent them only if its channels are some and
    the reply does not look like one to a keepalive. For a legible reply this is so exactly if, also,
    the transport of the server is edited and leaves the profile of frames with no channels or those
    of the client, or is not edited and is what the client has to be told. -/
theorem showsTcp_of_run_iff {ports : RelayPorts} {calls : UpstreamCalls}
    (hreq : frontRequest s.downstreamRecvBuf = some req) (hask : AsksTcp c d req)
    (hsetup : step cfg s (.downstreamTurn ports) = .ok t) (hrun : Run cfg KeepsDelivery t u)
    (hreply : frontMessage u.upstreamRecvBuf = some reply)
    (hok : parseStatusCode reply = 200) (h : step cfg u (.upstreamTurn calls) = .ok v) :
    (ShowsTcp u c d reply v → isKeepaliveReply reply = false ∧ c ≤ 255 ∧ d ≤ 255) ∧
    (Legible (leftForFrames (u.announcedTransport reply)) reply → (ShowsTcp u c d reply v ↔
      isKeepaliveReply reply = false ∧ (c ≤ 255 ∧ d ≤ 255) ∧ u.TellsTcp c d reply)) := by
  have hside := (passesOn_of_step hreply (wantsRetry_of_ok hok) h).2
  obtain ⟨hframes, hrtp, hrtcp⟩ := tcp_of_run hreq hask hsetup hrun
  have hchannels : ShowsTcp u c d reply v → c ≤ 255 ∧ d ≤ 255 := by
    rintro ⟨out, -, shown, -, hshown⟩
    obtain ⟨-, hc, hd⟩ := ((tcpShown_congr hside shown).1 hshown).delivered
    omega
  have htcp : v.isDownstreamTcp = true := by
    have hside' := hside
    simp only [clientSide, Prod.mk.injEq] at hside'
    exact hside'.1.trans hframes
  refine ⟨fun hshows => ⟨hshows.not_keepalive hreply (wantsRetry_of_ok hok) h, hchannels hshows⟩, ?_⟩
  rintro ⟨hwhole, hcr, hline, hleft⟩
  have hnil : ¬v.TcpShown c d [] := fun hshown => not_namesPair_nil hshown.channels
  have hempty : ¬v.TcpShown c d (v.clientTransport []) := by
    intro hshown
    have hprofile := ((tcpShown_clientTransport_iff htcp).1 hshown).2.profile
    exact absurd hprofile (by decide +kernel)
  have hshows : ShowsTcp u c d reply v ↔ _ :=
    shows_of_step_iff hreply (wantsRetry_of_ok hok) h hwhole hcr hline
      (leavesOthers_tcp htcp hleft) tcpShown_skipBlanks_iff ⟨hnil, hempty⟩
  have htells : (c ≤ 255 ∧ d ≤ 255) → (Tells
      (fun w => v.TcpShown c d (v.clientTransport (u.restoreProtocol w))) (v.TcpShown c d)
      (headerLines reply) ↔ u.TellsTcp c d reply) := by
    intro hrange
    refine tells_congr (fun w => ?_) (tcpShown_congr hside)
    simp only [clientSide, Prod.mk.injEq] at hside
    obtain ⟨-, hrtpChannel, hrtcpChannel, -⟩ := hside
    rw [tcpShown_clientTransport_iff htcp, hrtpChannel, hrtcpChannel, hrtp, hrtcp]
    refine and_iff_right ?_
    omega
  constructor
  · intro hs
    obtain ⟨hka, htold⟩ := hshows.1 hs
    exact ⟨hka, hchannels hs, (htells (hchannels hs)).1 htold⟩
  · rintro ⟨hka, hrange, htold⟩
    exact hshows.2 ⟨hka, (htells hrange).2 htold⟩

/-- A `SETUP` of the client over TCP. -/
def tcpSetup (channels : String) : Bytes :=
  ascii "SETUP rtsp://10.0.0.9/live/1 RTSP/1.0\r\nTransport: RTP/AVP/TCP;unicast;interleaved=" ++
    ascii channels ++ ascii "\r\nCSeq: 3\r\n\r\n"

theorem asksTcp_tcpSetup : AsksTcp 2 3 (tcpSetup "2-3") := ⟨by decide +kernel, by decide +kernel⟩

/-- The server accepts UDP. -/
theorem showsTcp_of_run_accepted : ∃ s t u v, Run {} anyStep liveSession s ∧
    AsksTcp 2 3 (tcpSetup "2-3") ∧ step {} s (.downstreamTurn ⟨.bound 20000, .bound 30000⟩) = .ok t ∧
    Run {} KeepsDelivery t u ∧ frontMessage u.upstreamRecvBuf = some udpAcceptance ∧
    step {} u (.upstreamTurn {}) = .ok v ∧ ShowsTcp u 2 3 udpAcceptance v := by
  have hrun : (exchange (tcpSetup "2-3") [] udpAcceptance).map
      (fun x => x.2.2.1.dsTransportProtocol) = some (ascii "RTP/AVP/TCP") := by
    decide +kernel
  obtain ⟨⟨s, t, u, v⟩, hx, hprotocol⟩ := Option.map_eq_some_iff.1 hrun
  obtain ⟨hs, hreq, ht, hu, hreply, hv⟩ := exchange_spec hx
  have hleft : leftForFrames (u.restoreProtocol udpTransport) = ascii "RTP/AVP/TCP;unicast;;" := by
    rw [restoreProtocol, show u.dsTransportProtocol = _ from hprotocol]
    decide +kernel
  have hlegible : Legible (leftForFrames (u.announcedTransport udpAcceptance)) udpAcceptance := by
    rw [announcedTransport, extractHeaderValue_udpAcceptance, hleft]
    exact legible_udpAcceptance ⟨by decide +kernel, by decide +kernel⟩
  have htells : u.TellsTcp 2 3 udpAcceptance := by
    refine tells_udpAcceptance ⟨?_, .inl ?_⟩
    all_goals
      rw [hleft]
      decide +kernel
  exact ⟨s, t, u, v, hs, asksTcp_tcpSetup, ht, hu, hreply, hv,
    ((showsTcp_of_run_iff hreq asksTcp_tcpSetup ht hu hreply (by decide +kernel) hv).2
      hlegible).2 ⟨by decide +kernel, by decide, htells⟩⟩

/-- The server rejects UDP, and accepts TCP on the channels that the proxy asks it for. The client
    is told these, and sent frames on those that it has asked for. -/
theorem not_showsTcp_rejected : ∃ s t u v, Started {} liveSession ∧ Run {} anyStep liveSession s ∧
    frontRequest s.downstreamRecvBuf = some (tcpSetup "2-3") ∧ AsksTcp 2 3 (tcpSetup "2-3") ∧
    step {} s (.downstreamTurn ⟨.bound 20000, .bound 30000⟩) = .ok t ∧
    Run {} KeepsDelivery t u ∧ frontMessage u.upstreamRecvBuf = some tcpAcceptance ∧
    parseStatusCode tcpAcceptance = 200 ∧ step {} u (.upstreamTurn {}) = .ok v ∧
    v.dsInterleavedRtp = 2 ∧ (u.answerOf tcpAcceptance v).queued =
      [Item.packet { kind := .response, data := tcpAcceptance }] ∧
    ¬ShowsTcp u 2 3 tcpAcceptance v := by
  have hrun : (exchange (tcpSetup "2-3") (replyEvents (rejection "3")) tcpAcceptance).map (fun x =>
      (x.2.2.2.dsInterleavedRtp, (x.2.2.1.answerOf tcpAcceptance x.2.2.2).queued)) =
        some (2, [Item.packet { kind := .response, data := tcpAcceptance }]) := by
    decide +kernel
  obtain ⟨⟨s, t, u, v⟩, hx, hsent⟩ := Option.map_eq_some_iff.1 hrun
  simp only [Prod.mk.injEq] at hsent
  obtain ⟨hrtp, hqueued⟩ := hsent
  obtain ⟨hs, hreq, ht, hu, hreply, hv⟩ := exchange_spec hx
  refine ⟨s, t, u, v, started_liveSession, hs, hreq, asksTcp_tcpSetup, ht, hu, hreply,
    by decide +kernel, hv, hrtp, hqueued, ?_⟩
  rintro ⟨out, hout, shown, hshown, hgood⟩
  obtain rfl : tcpAcceptance = out :=
    congrArg (fun p => p.data) (List.head_eq_of_cons_eq (hqueued.symm.trans hout))
  have hread : headerField (ascii "Transport") (headerLines tcpAcceptance) =
      some tcpTransport := by
    decide +kernel
  obtain rfl := Option.some.inj (hread.symm.trans hshown)
  exact absurd hgood.channels (by decide +kernel)

end RtspToRtspClient

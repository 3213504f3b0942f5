import RtsProxy.Clients.RtspToRtsp.Pieces
import RtsProxy.Handlers.MasterHandle

/-!
# The first read

The bytes that a session is started with are forwarded as one text, of which the first line is
rewritten; what is read later is split into requests, each of which is rewritten and has its
transport patched.

* `pushedText_of_feeds`: what is forwarded of later reads does not depend on how they are cut;
* `relayed_text_eq`: nor does it on the first read, if that ends between requests, and holds
  none behind the first one that would be changed.
-/

open Text Interleaved

namespace RtspToRtspClient

variable {s t u : RtspToRtspClient} {cfg : ServerConfig} {us ds : Nat} {r : Turn RtspToRtspClient}

/-! ## The loop over later reads -/

/-- The text of the messages pushed to the upstream. -/
def pushedText (s : RtspToRtspClient) : Bytes := s.pushed.flatMap Pushed.text

/-- The session with the ports of the relay towards the upstream. -/
def withPorts (us : Nat) (s : RtspToRtspClient) : RtspToRtspClient :=
  { s with localRtpUsPort := us, localRtcpUsPort := us + 1 }

/-- A request as it is forwarded once the ports of the relay are bound. -/
def forwardedText (cfg : ServerConfig) (us : Nat) (s : RtspToRtspClient) (req : Bytes) : Bytes :=
  s.rewriteRequestForUpstream
    (if (ascii "SETUP ").isPrefixOf req then ((s.withPorts us).patchTransportForUpstream cfg req).2
    else req)

/-- What is forwarded for a piece: nothing for a frame. -/
def forwardedPiece (cfg : ServerConfig) (us : Nat) (s : RtspToRtspClient) (piece : Bytes) : Bytes :=
  if piece.head? = some 36 then [] else s.forwardedText cfg us piece

/-- What the text of a forwarded request is made from, beside its ports. -/
def route (s : RtspToRtspClient) : Bytes × Bytes × Bytes × Nat :=
  (s.proxyUriPrefix, s.upstreamUriBase, s.localIp, s.natWanPortUs)

/-- Once the relay is ready, its ports are those that have been bound. -/
def PortsBound (us : Nat) (s : RtspToRtspClient) : Prop :=
  s.relayReady = true → s.localRtpUsPort = us ∧ s.localRtcpUsPort = us + 1

theorem rewriteRequestForUpstream_of_route (h : t.route = s.route) :
    t.rewriteRequestForUpstream = s.rewriteRequestForUpstream := by
  simp only [route, Prod.mk.injEq] at h
  obtain ⟨hpre, hbase, -, -⟩ := h
  funext req
  rw [rewriteRequestForUpstream, rewriteRequestForUpstream, hpre, hbase]

theorem forwardedPiece_congr (h : t.route = s.route) :
    t.forwardedPiece cfg us = s.forwardedPiece cfg us := by
  have hports : (t.withPorts us).relayPorts = (s.withPorts us).relayPorts := by
    simp only [route, Prod.mk.injEq] at h
    obtain ⟨-, -, hip, hnat⟩ := h
    simp [relayPorts, withPorts, hip, hnat]
  funext piece
  rw [forwardedPiece, forwardedPiece, forwardedText, forwardedText,
    rewriteRequestForUpstream_of_route h, patchTransportForUpstream_congr hports]

theorem pushedText_of_pushed {ps : List Pushed} (h : t.pushed = s.pushed ++ ps) :
    t.pushedText = s.pushedText ++ ps.flatMap Pushed.text := by
  rw [pushedText, h, List.flatMap_append]
  rfl

theorem route_handleInterleavedFromClient (channel : UInt8) (data : Bytes) :
    (s.handleInterleavedFromClient channel data).route = s.route ∧
      ((s.handleInterleavedFromClient channel data).relayReady,
        (s.handleInterleavedFromClient channel data).relayPorts) = (s.relayReady, s.relayPorts) := by
  unfold handleInterleavedFromClient
  dsimp only
  split
  · split <;> exact ⟨rfl, rfl⟩
  · split
    · split <;> exact ⟨rfl, rfl⟩
    · exact ⟨rfl, rfl⟩

theorem route_learnClientTransport {req : Bytes} (h : s.learnClientTransport req = .ok t) :
    t.route = s.route := by
  obtain ⟨channels, -, h⟩ := Except.bind_eq_ok_iff.1 h
  rcases channels with _ | ⟨rtp, rtcp⟩
  · obtain ⟨ports, -, h⟩ := Except.bind_eq_ok_iff.1 h
    rcases ports with _ | ⟨rtp, rtcp⟩
    all_goals
      cases h
      rfl
  · cases h
    rfl

theorem route_patchTransportForUpstream (req : Bytes) :
    (s.patchTransportForUpstream cfg req).1.route = s.route ∧
      (s.patchTransportForUpstream cfg req).1.relayPorts = s.relayPorts := by
  unfold patchTransportForUpstream
  dsimp only
  split <;> exact ⟨rfl, rfl⟩

theorem route_forwardRequest (isPlay : Bool) (req : Bytes) :
    (s.forwardRequest isPlay req).route = s.route ∧
      (s.forwardRequest isPlay req).relayPorts = s.relayPorts :=
  ⟨rfl, rfl⟩

theorem portsBound_of_relayPorts {a : Bytes} {n : Nat} (h : s.relayPorts = (a, us, us + 1, n)) :
    PortsBound us s := by
  simp only [relayPorts, Prod.mk.injEq] at h
  exact fun _ => ⟨h.2.1, h.2.2.1⟩

/-- A `SETUP` that is forwarded leaves the route, and the ports that are bound. -/
theorem route_forwardSetup {v : RtspToRtspClient} {a : Bytes} {n : Nat} (req : Bytes)
    (hroute : v.route = s.route) (hports : v.relayPorts = (a, us, us + 1, n)) :
    ((v.patchTransportForUpstream cfg req).1.forwardRequest false
        (v.patchTransportForUpstream cfg req).2).route = s.route ∧
      PortsBound us ((v.patchTransportForUpstream cfg req).1.forwardRequest false
        (v.patchTransportForUpstream cfg req).2) := by
  obtain ⟨hpatched, hpatched'⟩ := @route_patchTransportForUpstream v cfg req
  obtain ⟨hforwarded, hforwarded'⟩ := @route_forwardRequest
    (v.patchTransportForUpstream cfg req).1 false (v.patchTransportForUpstream cfg req).2
  exact ⟨hforwarded.trans (hpatched.trans hroute),
    portsBound_of_relayPorts (hforwarded'.trans (hpatched'.trans hports))⟩

/-- With ports to relay from, and without STUN, a request keeps the loop going, and the route. -/
theorem handleRequest_again {req : Bytes} (hstun : cfg.usesStun = false) (hbound : PortsBound us s)
    (h : s.handleRequest cfg ⟨.bound us, .bound ds⟩ req = .ok r) :
    ∃ t, r = .again t ∧ t.route = s.route ∧ PortsBound us t := by
  rw [handleRequest] at h
  split at h
  case isTrue hsetup =>
    obtain ⟨u, hu, h⟩ := Except.bind_eq_ok_iff.1 h
    obtain ⟨hports, hready⟩ := relayPorts_learnClientTransport hu
    have hroute := route_learnClientTransport hu
    obtain ⟨v, hv, hvroute, hvports⟩ : ∃ v,
        (if u.relayReady = true then (true, u) else u.initRelaySockets ⟨.bound us, .bound ds⟩) =
          (true, v) ∧ v.route = s.route ∧ ∃ a n, v.relayPorts = (a, us, us + 1, n) := by
      cases hcase : u.relayReady with
      | true =>
        obtain ⟨hrtp, hrtcp⟩ := hbound (hready.symm.trans hcase)
        refine ⟨u, rfl, hroute, s.localIp, s.natWanPortUs, ?_⟩
        rw [hports, relayPorts, hrtp, hrtcp]
      | false => exact ⟨_, rfl, hroute, _, _, rfl⟩
    obtain ⟨a, n, hvports⟩ := hvports
    rw [hv, hstun] at h
    cases h
    obtain ⟨hroute', hbound'⟩ := @route_forwardSetup s cfg us
      { v with relayReady := true, lastSetupReq := req } a n req hvroute hvports
    exact ⟨_, rfl, hroute', hbound'⟩
  case isFalse =>
    cases h
    exact ⟨_, rfl, (route_forwardRequest _ req).1, fun hready => hbound hready⟩

/-- What is pushed for a request is its forwarded text. -/
theorem text_requestPushes {req : Bytes} (hstun : cfg.usesStun = false) (hbound : PortsBound us s) :
    (s.requestPushes cfg ⟨.bound us, .bound ds⟩ req).flatMap Pushed.text = s.forwardedText cfg us req := by
  have hholds : s.holdsBack cfg ⟨.bound us, .bound ds⟩ req = false := by
    rw [holdsBack, hstun, canRelay]
    simp
  rw [requestPushes, hholds, if_neg Bool.false_ne_true, List.flatMap_singleton, forwardedText]
  show s.rewriteRequestForUpstream (s.patchedRequest cfg ⟨.bound us, .bound ds⟩ req) = _
  rw [patchedRequest]
  split
  · have hports : (if s.relayReady then s
        else (s.initRelaySockets ⟨.bound us, .bound ds⟩).2).relayPorts = (s.withPorts us).relayPorts := by
      cases hready : s.relayReady with
      | true =>
        obtain ⟨hrtp, hrtcp⟩ := hbound hready
        rw [if_pos rfl, relayPorts, relayPorts, hrtp, hrtcp]
        rfl
      | false => rfl
    dsimp only
    rw [patchTransportForUpstream_congr hports]
  · rfl

/-- A turn of the loop forwards the next piece, until there is none. -/
theorem downstreamTurn_again (hstun : cfg.usesStun = false) (hbound : PortsBound us s)
    (h : s.downstreamTurn cfg ⟨.bound us, .bound ds⟩ = .ok r) :
    (r = .leave s ∧ barePieces.front s.downstreamRecvBuf = none) ∨
    ∃ piece t, r = .again t ∧ barePieces.front s.downstreamRecvBuf = some piece ∧
      t.downstreamRecvBuf = s.downstreamRecvBuf.drop piece.length ∧ t.route = s.route ∧
      PortsBound us t ∧ t.pushedText = s.pushedText ++ s.forwardedPiece cfg us piece := by
  have hst : step cfg s (.downstreamTurn ⟨.bound us, .bound ds⟩) = .ok r.state :=
    Except.map_eq_ok_iff.2 ⟨r, h, rfl⟩
  have hbuf := downstreamRecvBuf_of_turn hst
  have hpushed := pushed_of_step hst
  have hhead : ∀ {piece}, barePieces.front s.downstreamRecvBuf = some piece →
      s.downstreamRecvBuf.head? = piece.head? := by
    intro piece hfront
    obtain ⟨more, hmore⟩ := barePieces.prefix_of_front hfront
    rw [← hmore, List.head?_append_of_ne_nil _ (barePieces.ne_nil_of_front hfront)]
  rw [pushesOf] at hpushed
  rcases downstreamTurn_cases h with ⟨rfl, hf, hnone⟩ | ⟨channel, data, hf, rfl⟩ | ⟨req, hreq, hr⟩
  · refine .inl ⟨rfl, ?_⟩
    rcases hfront : barePieces.front s.downstreamRecvBuf with _ | piece
    · rfl
    · rcases front_bare_cases hfront with ⟨channel, data, hframe⟩ | hrequest
      · rw [hf] at hframe
        cases hframe
      · rw [hnone] at hrequest
        cases hrequest
  · have hfront := front_bare_of_frontFrame hf
    obtain ⟨hroute, hready⟩ := @route_handleInterleavedFromClient s channel data
    obtain ⟨hready, hports⟩ := Prod.mk.inj hready
    rw [frontRequest_of_frontFrame hf] at hpushed
    refine .inr ⟨_, _, rfl, hfront, ?_, hroute, fun hready' => ?_, ?_⟩
    · rw [hfront] at hbuf
      exact hbuf
    · obtain ⟨hrtp, hrtcp⟩ := hbound (hready.symm.trans hready')
      simp only [relayPorts, Prod.mk.injEq] at hports
      exact ⟨hports.2.1.trans hrtp, hports.2.2.1.trans hrtcp⟩
    · rw [forwardedPiece, if_pos ((hhead hfront).symm.trans (head_of_frontFrame hf))]
      exact pushedText_of_pushed hpushed
  · have hfront := front_bare_of_frontRequest hreq
    obtain ⟨t, rfl, hroute, hbound'⟩ :=
      handleRequest_again (s := s.skipDownstream req.length) hstun hbound hr
    rw [hreq] at hpushed
    refine .inr ⟨req, t, rfl, hfront, ?_, hroute, hbound', ?_⟩
    · rw [hfront] at hbuf
      exact hbuf
    · have hno : req.head? ≠ some 36 :=
        fun hdollar => (frontRequest_eq_some_iff.1 hreq).2.1 ((hhead hfront).trans hdollar)
      rw [forwardedPiece, if_neg hno, ← @text_requestPushes s cfg us ds req hstun hbound]
      exact pushedText_of_pushed hpushed

/-- The loop forwards the pieces that are there. -/
theorem run_downstreamTurn {turns : Nat} (hstun : cfg.usesStun = false) (hbound : PortsBound us s)
    (h : Loop.run (downstreamTurn cfg ⟨.bound us, .bound ds⟩) turns s = some (.ok t)) :
    t.downstreamRecvBuf = barePieces.rest s.downstreamRecvBuf ∧ t.route = s.route ∧
      PortsBound us t ∧ t.pushedText = s.pushedText ++
        (barePieces.pieces s.downstreamRecvBuf).flatMap (s.forwardedPiece cfg us) := by
  induction turns generalizing s with
  | zero => cases h
  | succ turns ih =>
    rw [Loop.run] at h
    rcases hturn : s.downstreamTurn cfg ⟨.bound us, .bound ds⟩ with e | r
    · rw [hturn] at h
      cases h
    rcases downstreamTurn_again hstun hbound hturn with ⟨rfl, hnone⟩ |
      ⟨piece, u, rfl, hfront, hbuf, hroute, hbound', htext⟩
    · rw [hturn] at h
      cases h
      obtain ⟨hpieces, hrest⟩ := Framing.pieces_of_none hnone
      rw [hpieces, hrest]
      exact ⟨rfl, rfl, hbound, (List.append_nil _).symm⟩
    · rw [hturn] at h
      obtain ⟨hrest, hroute', hbound'', htext'⟩ := ih hbound' h
      obtain ⟨hpieces, hleft⟩ := Framing.pieces_of_front hfront
      refine ⟨?_, hroute'.trans hroute, hbound'', ?_⟩
      · rw [hrest, hbuf, hleft]
      · rw [htext', htext, hbuf, hpieces, forwardedPiece_congr hroute, List.flatMap_cons,
          List.append_assoc]

/-- A read forwards the pieces that end in it. -/
theorem downstream_of_read {turns : Nat} {chunk : Bytes} (hstun : cfg.usesStun = false)
    (hbound : PortsBound us s)
    (h : s.onDownstreamReadable cfg ⟨.bound us, .bound ds⟩ turns (.data chunk) = some (.ok t)) :
    t.downstreamRecvBuf = barePieces.rest (s.downstreamRecvBuf ++ chunk) ∧ t.route = s.route ∧
      PortsBound us t ∧ t.pushedText = s.pushedText ++
        (barePieces.pieces (s.downstreamRecvBuf ++ chunk)).flatMap (s.forwardedPiece cfg us) := by
  obtain ⟨hrest, hroute, hbound', htext⟩ := run_downstreamTurn
    (s := { s with downstreamRecvBuf := s.downstreamRecvBuf ++ chunk }) hstun hbound h
  refine ⟨hrest, hroute, hbound', htext.trans ?_⟩
  exact congrArg (fun f => s.pushedText ++
    (barePieces.pieces (s.downstreamRecvBuf ++ chunk)).flatMap f) (forwardedPiece_congr rfl)

/-- Reads of the client are handled one after the other. -/
inductive Feeds (cfg : ServerConfig) (ports : RelayPorts) :
    RtspToRtspClient → List Bytes → RtspToRtspClient → Prop
  | nil (s : RtspToRtspClient) : Feeds cfg ports s [] s
  | cons {s t u : RtspToRtspClient} {turns : Nat} {chunk : Bytes} {chunks : List Bytes} :
    s.onDownstreamReadable cfg ports turns (.data chunk) = some (.ok t) →
      Feeds cfg ports t chunks u → Feeds cfg ports s (chunk :: chunks) u

/-- What is forwarded of later reads are the pieces in all of them. -/
theorem pushedText_of_feeds {chunks : List Bytes} (hstun : cfg.usesStun = false)
    (h : Feeds cfg ⟨.bound us, .bound ds⟩ s chunks t) (hbound : PortsBound us s)
    (hbuf : barePieces.front s.downstreamRecvBuf = none) :
    t.pushedText = s.pushedText ++
      (barePieces.pieces (s.downstreamRecvBuf ++ chunks.flatten)).flatMap (s.forwardedPiece cfg us) := by
  induction chunks generalizing s with
  | nil =>
    cases h
    rw [List.flatten_nil, List.append_nil, (Framing.pieces_of_none hbuf).1]
    exact (List.append_nil _).symm
  | cons chunk chunks ih =>
    rcases h with _ | ⟨hread, h⟩
    obtain ⟨hrest, hroute, hbound', htext⟩ := downstream_of_read hstun hbound hread
    have hfront := Framing.front_rest (F := barePieces) (s.downstreamRecvBuf ++ chunk)
    have htext' := ih h hbound' (by rw [hrest]; exact hfront)
    obtain ⟨hpieces, -⟩ := Framing.pieces_append (F := barePieces) (s.downstreamRecvBuf ++ chunk)
      chunks.flatten
    rw [htext', htext, hrest, forwardedPiece_congr hroute, List.append_assoc, ← List.flatMap_append,
      List.flatten_cons, ← List.append_assoc, hpieces]

/-! ## The connection to the upstream is made -/

theorem route_upstreamSendTurn (sent : SendResult) :
    (s.upstreamSendTurn sent).state.route = s.route := by
  unfold upstreamSendTurn
  split
  · rfl
  · split
    · dsimp only
      split <;> rfl
    · split <;> rfl

theorem route_drainUpstream (sent : List SendResult) : (s.drainUpstream sent).2.route = s.route := by
  induction sent generalizing s with
  | nil => rfl
  | cons sent rest ih =>
    have hturn := route_upstreamSendTurn (s := s) sent
    unfold drainUpstream
    split
    case h_1 t ht => rwa [ht] at hturn
    case h_2 t ht =>
      rw [ht] at hturn
      rw [ih, ← hturn]
      rfl

/-- The address of the proxy on the connection to the upstream. -/
def localIpOf (localName : Option SockAddr) : Bytes := (localName.map fun a => inetNtoa a.addr).getD []

theorem route_upstreamConnected (localName : Option SockAddr) :
    (s.upstreamConnected localName).route = (s.proxyUriPrefix, s.upstreamUriBase,
      (localName.map fun a => inetNtoa a.addr).getD s.localIp, s.natWanPortUs) := by
  unfold upstreamConnected
  rcases localName with _ | name
  all_goals
    dsimp only
    split <;> rfl

/-- The session that a first read starts, once its upstream is connected. -/
theorem start_onUpstreamWritable {pool : BufferPool} {stats : Statistics}
    {clientAddr localAddr : SockAddr} {config : RtspMitmConfig} {first : Bytes}
    {calls : UpstreamCalls} (hfirst : first ≠ []) (hok : calls.connectFailed = false)
    (hs : s = start cfg pool stats clientAddr localAddr config first)
    (ht : t = s.onUpstreamWritable calls) :
    t.route = (config.proxyUriPrefix, config.upstreamUriBase, localIpOf calls.localName, 0) ∧
      t.relayReady = false ∧ t.downstreamRecvBuf = [] ∧
      t.pushedText = rewriteRequest config.proxyUriPrefix config.upstreamUriBase first := by
  have hstate : s.state = .waitUpstreamConnect := by
    rw [hs]
    rfl
  have hbuf : s.downstreamRecvBuf = first := by
    rw [hs]
    rfl
  have hcontrol := control_onUpstreamWritable (s := s) calls
  rw [if_pos hstate, hok, if_neg Bool.false_ne_true, ← ht] at hcontrol
  have hcore := core_onUpstreamWritable (s := s) calls
  rw [if_pos (by simp [pushesFirst, hstate, hok, hbuf, hfirst]), ← ht] at hcore
  refine ⟨?_, (congrArg Control.relayReady hcontrol).trans ?_,
    congrArg Control.downstreamRecvBuf hcontrol, ?_⟩
  · have hdrain : ∀ u : RtspToRtspClient,
        (if (u.drainUpstream calls.sends).1 then
          { (u.drainUpstream calls.sends).2 with
            upstreamEvents :=
              { readable := true
                writable := !(u.drainUpstream calls.sends).2.toUpstreamQ.isEmpty } }
        else (u.drainUpstream calls.sends).2).route = u.route := by
      intro u
      split
      · exact route_drainUpstream calls.sends
      · exact route_drainUpstream calls.sends
    rw [ht, onUpstreamWritable, hok, Bool.and_false, if_neg Bool.false_ne_true, if_pos hstate]
    refine (hdrain _).trans ?_
    rw [route_upstreamConnected, hs]
    rcases calls.localName with _ | name <;> rfl
  · rw [hs]
    rfl
  · have hpushed : t.pushed = [] ++ [s.firstPush] := by
      rw [show t.pushed = s.pushed ++ [s.firstPush] from congrArg Core.pushed hcore, hs]
      rfl
    rw [pushedText, hpushed, hs]
    exact List.append_nil _

/-! ## Requests that are left as they are -/

/-- The URI of a request as it is rewritten: between the first two blanks of the first line. -/
def requestUri (req : Bytes) : Option Bytes :=
  (find crlf req).bind fun eol =>
    (find (ascii " ") (req.take eol)).bind fun sp₁ =>
      (findFrom (ascii " ") (req.take eol) (sp₁ + 1)).map fun sp₂ =>
        ((req.take eol).take sp₂).drop (sp₁ + 1)

/-- The URI of a request is kept. -/
def KeepsUri (pre base req : Bytes) : Prop :=
  pre = [] ∨ pre = base ∨ ∀ uri ∈ requestUri req, ¬pre <+: uri

/-- Forwarding leaves a request as it is: its URI is kept, and it is no `SETUP` with a transport. -/
def LeftAlone (pre base req : Bytes) : Prop :=
  KeepsUri pre base req ∧ ((ascii "SETUP ").isPrefixOf req = true →
    RtspParser.extractHeaderValue req (ascii "Transport") = [])

variable {pre base a b req uri : Bytes}

theorem take_append_blank {i : Nat} (h : find (ascii " ") a = some i) :
    a.take i ++ ascii " " ++ a.drop (i + 1) = a := by
  obtain ⟨-, ⟨rest, hrest⟩, -⟩ := find_eq_some_iff.1 h
  have hdrop : a.drop (i + 1) = rest := by
    rw [← List.drop_drop, ← hrest]
    rfl
  rw [hdrop, List.append_assoc, hrest, List.take_append_drop]

/-- A request with a URI, taken apart: rewriting concerns the URI only. -/
theorem rewriteRequest_of_uri (h : requestUri req = some uri) :
    ∃ a b, req = a ++ uri ++ b ∧
      ∀ pre base, pre ≠ [] → rewriteRequest pre base req = a ++ rewriteUri pre base uri ++ b := by
  obtain ⟨eol, heol, h⟩ := Option.bind_eq_some_iff.1 h
  obtain ⟨sp₁, hsp₁, h⟩ := Option.bind_eq_some_iff.1 h
  obtain ⟨sp₂, hsp₂, rfl⟩ := Option.map_eq_some_iff.1 h
  have hbounds := findFrom_bounds hsp₂
  generalize hline : req.take eol = line at hsp₁ hsp₂ hbounds
  have hrest : find (ascii " ") (line.drop (sp₁ + 1)) = some (sp₂ - (sp₁ + 1)) := by
    rw [findFrom, if_pos (by omega)] at hsp₂
    obtain ⟨i, hi, rfl⟩ := Option.map_eq_some_iff.1 hsp₂
    rw [hi, Nat.add_sub_cancel]
  have hsplit := take_append_blank hrest
  rw [List.drop_drop, show sp₁ + 1 + (sp₂ - (sp₁ + 1) + 1) = sp₂ + 1 by omega,
    ← List.drop_take] at hsplit
  refine ⟨line.take sp₁ ++ ascii " ", ascii " " ++ line.drop (sp₂ + 1) ++ req.drop eol, ?_, ?_⟩
  · calc req = line ++ req.drop eol := by rw [← hline, List.take_append_drop]
      _ = line.take sp₁ ++ ascii " " ++ line.drop (sp₁ + 1) ++ req.drop eol := by
        rw [take_append_blank hsp₁]
      _ = _ := by
        rw [← hsplit]
        simp only [List.append_assoc]
  · intro pre base hpre
    rw [rewriteRequest, if_neg hpre, heol]
    dsimp only
    rw [hline, hsp₁]
    dsimp only
    rw [hsp₂]
    simp only [List.append_assoc]

theorem rewriteRequest_of_no_uri (h : requestUri req = none) : rewriteRequest pre base req = req := by
  rw [rewriteRequest]
  split
  · rfl
  rw [requestUri] at h
  rcases heol : find crlf req with _ | eol
  · rfl
  rw [heol, Option.bind_some] at h
  dsimp only
  rcases hsp₁ : find (ascii " ") (req.take eol) with _ | sp₁
  · rfl
  rw [hsp₁, Option.bind_some, Option.map_eq_none_iff] at h
  dsimp only
  rw [h]

/-- A URI that is kept leaves the request as it is. -/
theorem rewriteRequest_of_keepsUri (h : KeepsUri pre base req) : rewriteRequest pre base req = req := by
  rcases huri : requestUri req with _ | uri
  · exact rewriteRequest_of_no_uri huri
  by_cases hpre : pre = []
  · rw [rewriteRequest, if_pos hpre]
  obtain ⟨a, b, hreq, hrewrite⟩ := rewriteRequest_of_uri huri
  have hkept : rewriteUri pre base uri = uri := by
    rw [rewriteUri]
    split
    case isTrue hpre' =>
      have hprefix : pre <+: uri := List.isPrefixOf_iff_prefix.1 hpre'
      rcases h with h | h | h
      · exact absurd h hpre
      · rw [← h]
        exact (List.prefix_append_drop hprefix).symm
      · exact absurd hprefix (h uri huri)
    case isFalse => rfl
  rw [hrewrite pre base hpre, hkept, ← hreq]

/-- Only the first line of a text is rewritten. -/
theorem rewriteRequest_append {eol : Nat} (h : find crlf a = some eol) (b : Bytes) :
    rewriteRequest pre base (a ++ b) = rewriteRequest pre base a ++ b := by
  have hle : eol ≤ a.length := (Nat.le_add_right _ _).trans (find_add_length_le h)
  rw [rewriteRequest, rewriteRequest]
  by_cases hpre : pre = []
  · rw [if_pos hpre, if_pos hpre]
  rw [if_neg hpre, if_neg hpre, find_append h, h]
  dsimp only
  rw [List.take_append_of_le_length hle, List.drop_append_of_le_length hle]
  rcases find (ascii " ") (a.take eol) with _ | sp₁
  · rfl
  dsimp only
  rcases findFrom (ascii " ") (a.take eol) (sp₁ + 1) with _ | sp₂
  · rfl
  simp only [List.append_assoc]

/-- Without the end of a line, a text is not rewritten. -/
theorem rewriteRequest_of_no_line (h : find crlf a = none) : rewriteRequest pre base a = a := by
  rw [rewriteRequest, h]
  split <;> rfl

/-- A request that is left alone is forwarded as it is. -/
theorem forwardedPiece_of_leftAlone (hreq : IsRequest req)
    (h : LeftAlone s.proxyUriPrefix s.upstreamUriBase req) : s.forwardedPiece cfg us req = req := by
  have hhead : req.head? ≠ some 36 := (frontRequest_eq_some_iff.1 hreq).2.1
  have hpatched : (if (ascii "SETUP ").isPrefixOf req then
      ((s.withPorts us).patchTransportForUpstream cfg req).2 else req) = req := by
    split
    case isTrue hsetup =>
      rw [patchTransportForUpstream, if_pos (h.2 hsetup)]
    case isFalse => rfl
  rw [forwardedPiece, if_neg hhead, forwardedText, hpatched]
  exact rewriteRequest_of_keepsUri h.1

theorem flatMap_forwardedPiece {reqs : List Bytes} (h : ∀ req ∈ reqs, IsRequest req ∧
    LeftAlone s.proxyUriPrefix s.upstreamUriBase req) :
    reqs.flatMap (s.forwardedPiece cfg us) = reqs.flatten := by
  induction reqs with
  | nil => rfl
  | cons req reqs ih =>
    obtain ⟨hreq, hleft⟩ := h req List.mem_cons_self
    rw [List.flatMap_cons, List.flatten_cons, forwardedPiece_of_leftAlone hreq hleft,
      ih fun r hr => h r (List.mem_cons_of_mem _ hr)]

/-! ## The first read -/

/-- What has been resolved of a first read does not change when more of the request is there. -/
theorem resolveUpstream_append {cal : Calendar} {config : RtspMitmConfig}
    (h : resolveUpstream cfg cal a = .ok (some config)) (b : Bytes) :
    resolveUpstream cfg cal (a ++ b) = .ok (some config) := by
  obtain ⟨info, hparse, h⟩ := Except.bind_eq_ok_iff.1 h
  rcases RequestParser.parse_cases hparse with
    ⟨method, rawUri, version, ws, upstream, hwords, hupstream, rfl⟩ | ⟨method, rawUri, rfl⟩
  · -- the first two words are settled, and there is a third one
    obtain ⟨init, last, hlast⟩ : ∃ init last, version :: ws = init ++ [last] :=
      ⟨_, _, (List.dropLast_append_getLast (List.cons_ne_nil version ws)).symm⟩
    rw [hlast, ← List.cons_append, ← List.cons_append] at hwords
    obtain ⟨w, ws', hmore⟩ := wordsFrom_append hwords b
    obtain ⟨version', ws'', hnext⟩ : ∃ version' ws'', init ++ w :: ws' = version' :: ws'' :=
      List.exists_cons_of_ne_nil (List.append_ne_nil_of_right_ne_nil _ (List.cons_ne_nil _ _))
    have hwords' : words (a ++ b) = method :: rawUri :: version' :: ws'' := by
      rw [← hnext]
      exact hmore
    have hparse' : RequestParser.parse cfg cal (a ++ b) =
        .ok (RequestParser.requestInfo cfg method rawUri version' upstream) := by
      rw [RequestParser.parse, hwords']
      dsimp only
      rw [hupstream]
      rfl
    rw [resolveUpstream, hparse']
    exact h
  · cases h

/-- The session that a first read is dispatched to. -/
theorem start_of_handle {env : Surroundings} {first : Bytes}
    (h : MasterHandle.handle cfg env (.data first) = .ok (.rtsp s)) :
    ∃ config, resolveUpstream cfg env.cal first = .ok (some config) ∧
      s = start cfg env.server.pool env.server.stats env.clientAddr (env.localName.getD .zero)
        config first := by
  obtain ⟨info, hparse, h⟩ := Except.map_eq_ok_iff.1 h
  rw [MasterHandle.dispatch] at h
  split at h
  · cases h
  split at h
  · cases h
  split at h
  · cases h
  split at h
  case h_1 session hsession =>
    cases h
    rw [RtspToRtspHandle.dispatch] at hsession
    split at hsession
    · cases hsession
    obtain ⟨-, -, -, hcreate⟩ := MasterHandle.audited_eq_ok_iff.1 (Option.some.inj hsession)
    rw [RtspToRtspHandle.create] at hcreate
    split at hcreate
    · cases hcreate
    · cases hcreate
    split at hcreate
    case h_3.isTrue config hconfig _ =>
      cases hcreate
      exact ⟨config, hconfig, rfl⟩
    case h_3.isFalse => cases hcreate
  case h_2 => cases h

/-- A client is served: its first read is dispatched, the connection to the upstream is made, and
    its later reads are handled. -/
def Served (cfg : ServerConfig) (env : Surroundings) (ports : RelayPorts)
    (localName : Option SockAddr) (first : Bytes) (chunks : List Bytes) (t : RtspToRtspClient) :
    Prop :=
  first.length ≤ MasterHandle.requestLimit ∧ ∃ s calls,
    MasterHandle.handle cfg env (.data first) = .ok (.rtsp s) ∧
    calls.connectFailed = false ∧ calls.localName = localName ∧
    Feeds cfg ports (s.onUpstreamWritable calls) chunks t

/-- A first read fits a sequence of requests if the bytes behind it do: up to the end of a request
    they are pieces that are left alone, and so are the requests that end there or before, the
    first one apart. The line of that one ends in the first read, or its URI is kept. -/
def Fits (pre base first later : Bytes) (reqs : List Bytes) : Prop :=
  ∃ (req : Bytes) (done mid rest : List Bytes), reqs = req :: (done ++ rest) ∧
    first ++ mid.flatten = req ++ done.flatten ∧ later = mid.flatten ++ rest.flatten ∧
    (∀ piece ∈ mid, IsRequest piece ∧ LeftAlone pre base piece) ∧
    (∀ r ∈ done, LeftAlone pre base r) ∧ (crlf <:+: first ∨ KeepsUri pre base req)

variable {env : Surroundings} {localName : Option SockAddr} {first first' : Bytes}
  {chunks chunks' reqs : List Bytes} {config : RtspMitmConfig}

/-- What is forwarded for a client. -/
theorem pushedText_of_served (hstun : cfg.usesStun = false)
    (h : Served cfg env ⟨.bound us, .bound ds⟩ localName first chunks t) :
    ∃ config v, resolveUpstream cfg env.cal first = .ok (some config) ∧
      v.route = (config.proxyUriPrefix, config.upstreamUriBase, localIpOf localName, 0) ∧
      t.pushedText = rewriteRequest config.proxyUriPrefix config.upstreamUriBase first ++
        (barePieces.pieces chunks.flatten).flatMap (forwardedPiece cfg us v) := by
  obtain ⟨-, s, calls, hhandle, hok, rfl, hfeeds⟩ := h
  obtain ⟨config, hconfig, hs⟩ := start_of_handle hhandle
  have hfirst : first ≠ [] := by
    rintro rfl
    cases hconfig
  obtain ⟨hroute, hready, hbuf, htext⟩ := start_onUpstreamWritable hfirst hok hs rfl
  have htext' := pushedText_of_feeds hstun hfeeds (fun hno => absurd (hready.symm.trans hno)
    Bool.false_ne_true) (by rw [hbuf]; rfl)
  refine ⟨config, _, hconfig, hroute, ?_⟩
  rw [htext', htext, hbuf, List.nil_append]

/-- A first read that fits is forwarded as if its requests had been read one by one. -/
theorem pushedText_of_fits (hreqs : ∀ req ∈ reqs, IsRequest req)
    (hfits : Fits s.proxyUriPrefix s.upstreamUriBase first a reqs) :
    ∃ req more, reqs = req :: more ∧ s.rewriteRequestForUpstream first ++
        (barePieces.pieces a).flatMap (s.forwardedPiece cfg us) =
      s.rewriteRequestForUpstream req ++ more.flatMap (s.forwardedPiece cfg us) := by
  obtain ⟨req, done, mid, rest, rfl, hfirst, rfl, hmid, hdone, hline⟩ := hfits
  refine ⟨req, done ++ rest, rfl, ?_⟩
  have hpiece : ∀ r, IsRequest r → barePieces.IsPiece r := fun r hr => front_bare_of_frontRequest hr
  have hpieces : barePieces.pieces (mid ++ rest).flatten = mid ++ rest := by
    refine (Framing.pieces_flatten fun r hr => ?_).1
    rcases List.mem_append.1 hr with hr | hr
    · exact hpiece r (hmid r hr).1
    · exact hpiece r (hreqs r (List.mem_cons_of_mem _ (List.mem_append_right _ hr)))
  have hdone' : ∀ r ∈ done, IsRequest r ∧ LeftAlone s.proxyUriPrefix s.upstreamUriBase r :=
    fun r hr => ⟨hreqs r (List.mem_cons_of_mem _ (List.mem_append_left _ hr)), hdone r hr⟩
  -- the bytes up to the end of a request
  have hhead : s.rewriteRequestForUpstream first ++ mid.flatten =
      s.rewriteRequestForUpstream req ++ done.flatten := by
    rcases hcrlf : find crlf first with _ | eol
    · have hkept : KeepsUri s.proxyUriPrefix s.upstreamUriBase req :=
        hline.resolve_left (find_eq_none_iff.1 hcrlf)
      rw [rewriteRequestForUpstream, rewriteRequest_of_no_line hcrlf, rewriteRequestForUpstream,
        rewriteRequest_of_keepsUri hkept, hfirst]
    · obtain ⟨eol', heol'⟩ : ∃ i, find crlf req = some i := by
        obtain ⟨-, -, i, hi, -⟩ := frontRequest_eq_some_iff.1 (hreqs req List.mem_cons_self)
        exact Option.isSome_iff_exists.1 (contains_iff.2
          ((show crlf <:+: crlf2 by decide).trans (contains_iff.1 (Option.isSome_of_eq_some hi))))
      rw [rewriteRequestForUpstream, ← rewriteRequest_append hcrlf, hfirst,
        rewriteRequest_append heol']
      rfl
  rw [List.flatten_append] at hpieces
  rw [hpieces, List.flatMap_append, List.flatMap_append, flatMap_forwardedPiece hmid,
    flatMap_forwardedPiece hdone', ← List.append_assoc, ← List.append_assoc, hhead]

/-- Two clients send the same requests without STUN. If the first reads fit, the same is forwarded,
    however the requests are cut. -/
theorem relayed_text_eq {ds' : Nat} {t' : RtspToRtspClient} (hstun : cfg.usesStun = false)
    (hreqs : ∀ req ∈ reqs, IsRequest req)
    (hconfig : resolveUpstream cfg env.cal first = .ok (some config))
    (h : Served cfg env ⟨.bound us, .bound ds⟩ localName first chunks t)
    (h' : Served cfg env ⟨.bound us, .bound ds'⟩ localName first' chunks' t')
    (hfits : Fits config.proxyUriPrefix config.upstreamUriBase first chunks.flatten reqs)
    (hfits' : Fits config.proxyUriPrefix config.upstreamUriBase first' chunks'.flatten reqs) :
    t.pushedText = t'.pushedText := by
  obtain ⟨config₁, v, hconfig₁, hroute, htext⟩ := pushedText_of_served hstun h
  obtain ⟨config₂, v', hconfig₂, hroute', htext'⟩ := pushedText_of_served hstun h'
  have hwhole : ∀ {first later}, Fits config.proxyUriPrefix config.upstreamUriBase first later reqs →
      first ++ later = reqs.flatten := by
    rintro first later ⟨req, done, mid, rest, rfl, hfirst, rfl, -⟩
    rw [← List.append_assoc, hfirst, List.flatten_cons, List.flatten_append, List.append_assoc]
  obtain rfl : config = config₁ := Option.some.inj (Except.ok.inj (hconfig.symm.trans hconfig₁))
  obtain rfl : config = config₂ := by
    -- of the two first reads, one starts with the other
    rcases List.prefix_or_prefix_of_prefix ⟨_, hwhole hfits⟩ ⟨_, hwhole hfits'⟩ with
      ⟨more, rfl⟩ | ⟨more, rfl⟩
    · exact Option.some.inj (Except.ok.inj ((resolveUpstream_append hconfig more).symm.trans hconfig₂))
    · exact Option.some.inj (Except.ok.inj (hconfig.symm.trans (resolveUpstream_append hconfig₂ more)))
  have hpre : v.proxyUriPrefix = config.proxyUriPrefix := congrArg Prod.fst hroute
  have hbase : v.upstreamUriBase = config.upstreamUriBase :=
    congrArg (fun x => x.2.1) hroute
  rw [← hpre, ← hbase] at hfits hfits' htext htext'
  obtain ⟨req, more, rfl, hsame⟩ := @pushedText_of_fits v cfg us _ _ _ hreqs hfits
  obtain ⟨req', more', heq, hsame'⟩ := @pushedText_of_fits v cfg us _ _ _ hreqs hfits'
  obtain ⟨rfl, rfl⟩ := List.cons.inj heq
  rw [htext, htext', forwardedPiece_congr (hroute'.trans hroute.symm)]
  exact hsame.trans hsame'.symm

/-! ## Two clients -/

/-- Reads are handled one after the other, each in at most so many turns. -/
def feed (cfg : ServerConfig) (ports : RelayPorts) (turns : Nat) :
    List Bytes → RtspToRtspClient → Option RtspToRtspClient
  | [], s => some s
  | chunk :: chunks, s =>
    match s.onDownstreamReadable cfg ports turns (.data chunk) with
    | some (.ok t) => feed cfg ports turns chunks t
    | _ => none

/-- The session of a client that is served. -/
def serve (cfg : ServerConfig) (env : Surroundings) (ports : RelayPorts) (turns : Nat)
    (localName : Option SockAddr) (first : Bytes) (chunks : List Bytes) : Option RtspToRtspClient :=
  match MasterHandle.handle cfg env (.data first) with
  | .ok (.rtsp s) => feed cfg ports turns chunks (s.onUpstreamWritable { localName := localName })
  | _ => none

theorem feeds_of_feed {ports : RelayPorts} {turns : Nat}
    (h : feed cfg ports turns chunks s = some t) : Feeds cfg ports s chunks t := by
  induction chunks generalizing s with
  | nil =>
    cases h
    exact .nil _
  | cons chunk chunks ih =>
    rw [feed] at h
    split at h
    case h_1 u hread => exact .cons hread (ih h)
    case h_2 => cases h

theorem served_of_serve {ports : RelayPorts} {turns : Nat}
    (hlen : first.length ≤ MasterHandle.requestLimit)
    (h : serve cfg env ports turns localName first chunks = some t) :
    Served cfg env ports localName first chunks t := by
  rw [serve] at h
  split at h
  case h_1 u hhandle =>
    exact ⟨hlen, u, { localName := localName }, hhandle, rfl, rfl, feeds_of_feed h⟩
  case h_2 => cases h

/-- A request for the path `/live` of the upstream. -/
def liveRequest : Bytes := MasterHandle.requestFor "10.0.0.9:554/live"

/-- What is resolved of it. -/
def liveConfig : RtspMitmConfig where
  ctx := { rtspUrl := ascii "rtsp://10.0.0.9:554/live", serverIp := ascii "10.0.0.9"
           serverRtspPort := 554, path := ascii "/live" }
  proxyUriPrefix := ascii "rtsp://10.0.0.1:8554/rtp/10.0.0.9:554"
  upstreamUriBase := ascii "rtsp://10.0.0.9:554"

/-- Two requests in one read, or cut in the first header of one and in the line of the other. -/
theorem relayed_text_eq_parted : ∃ t t',
    Served {} MasterHandle.openSurroundings ⟨.bound 40000, .bound 40002⟩ none
      (liveRequest ++ optionsRequest) [] t ∧
    Served {} MasterHandle.openSurroundings ⟨.bound 40000, .bound 40004⟩ none
      (liveRequest.take 66) [liveRequest.drop 66 ++ optionsRequest.take 5, optionsRequest.drop 5] t' ∧
    t.pushedText = t'.pushedText := by
  obtain ⟨t, ht⟩ : ∃ t, serve {} MasterHandle.openSurroundings ⟨.bound 40000, .bound 40002⟩ 9 none
      (liveRequest ++ optionsRequest) [] = some t :=
    Option.isSome_iff_exists.1 (by decide +kernel)
  obtain ⟨t', ht'⟩ : ∃ t', serve {} MasterHandle.openSurroundings ⟨.bound 40000, .bound 40004⟩ 9 none
      (liveRequest.take 66) [liveRequest.drop 66 ++ optionsRequest.take 5, optionsRequest.drop 5] =
        some t' :=
    Option.isSome_iff_exists.1 (by decide +kernel)
  have h := served_of_serve (by decide +kernel) ht
  have h' := served_of_serve (by decide +kernel) ht'
  have hconfig : resolveUpstream {} MasterHandle.openSurroundings.cal
      (liveRequest ++ optionsRequest) = .ok (some liveConfig) := by
    decide +kernel
  have hreqs : ∀ req ∈ [liveRequest, optionsRequest], IsRequest req :=
    List.forall_mem_cons.2 ⟨by decide +kernel, List.forall_mem_singleton.2 (by decide +kernel)⟩
  have hoptions : LeftAlone liveConfig.proxyUriPrefix liveConfig.upstreamUriBase optionsRequest :=
    ⟨.inr (.inr (by decide +kernel)), by decide +kernel⟩
  have hrest : IsRequest (liveRequest.drop 66) ∧
      LeftAlone liveConfig.proxyUriPrefix liveConfig.upstreamUriBase (liveRequest.drop 66) :=
    ⟨by decide +kernel, .inr (.inr (by decide +kernel)), by decide +kernel⟩
  have hline : crlf <:+: liveRequest.take 66 := contains_iff.1 (by decide +kernel)
  refine ⟨t, t', h, h', relayed_text_eq rfl hreqs hconfig h h' ?_ ?_⟩
  · refine ⟨liveRequest, [optionsRequest], [], [], rfl, ?_, rfl, ?_, ?_, .inl ?_⟩
    · simp
    · exact fun piece hp => absurd hp List.not_mem_nil
    · exact fun r hr => List.mem_singleton.1 hr ▸ hoptions
    · exact hline.trans ((List.take_prefix _ _).isInfix.trans (List.prefix_append _ _).isInfix)
  · refine ⟨liveRequest, [], [liveRequest.drop 66], [optionsRequest], rfl, ?_, ?_, ?_, ?_, .inl hline⟩
    · simp
    · simp
    · exact fun piece hp => List.mem_singleton.1 hp ▸ hrest
    · exact fun r hr => absurd hr List.not_mem_nil

/-- The second of two equal requests is forwarded with the URI of the proxy, if both are read at
    once. -/
theorem pipelined_request_kept : ∃ t t',
    Served {} MasterHandle.openSurroundings ⟨.bound 40000, .bound 40002⟩ none
      (liveRequest ++ liveRequest) [] t ∧
    Served {} MasterHandle.openSurroundings ⟨.bound 40000, .bound 40002⟩ none
      liveRequest [liveRequest] t' ∧
    IsRequest liveRequest ∧ t.pushedText ≠ t'.pushedText := by
  have htext : (serve {} MasterHandle.openSurroundings ⟨.bound 40000, .bound 40002⟩ 9 none
      (liveRequest ++ liveRequest) []).map pushedText =
        some (ascii "OPTIONS rtsp://10.0.0.9:554/live RTSP/1.0\r\nCSeq: 1\r\n\r\n" ++ liveRequest) := by
    decide +kernel
  have htext' : (serve {} MasterHandle.openSurroundings ⟨.bound 40000, .bound 40002⟩ 9 none
      liveRequest [liveRequest]).map pushedText =
        some (ascii "OPTIONS rtsp://10.0.0.9:554/live RTSP/1.0\r\nCSeq: 1\r\n\r\n" ++
          ascii "OPTIONS rtsp://10.0.0.9:554/live RTSP/1.0\r\nCSeq: 1\r\n\r\n") := by
    decide +kernel
  obtain ⟨t, ht, hpushed⟩ := Option.map_eq_some_iff.1 htext
  obtain ⟨t', ht', hpushed'⟩ := Option.map_eq_some_iff.1 htext'
  refine ⟨t, t', served_of_serve (by decide +kernel) ht, served_of_serve (by decide +kernel) ht',
    by decide +kernel, ?_⟩
  rw [hpushed, hpushed']
  exact fun h => absurd (List.append_cancel_left h) (by decide +kernel)

end RtspToRtspClient

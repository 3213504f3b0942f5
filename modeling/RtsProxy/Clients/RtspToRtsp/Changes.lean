import RtsProxy.Clients.RtspToRtsp.Runs

/-!
# What a step does to a session

A step of a relayed session does one of three things to its core (`Change`): a packet may be
framed and messages pushed to the upstream, while a block may be held; a reply is queued; or
the socket of the client takes some bytes. Which packet, which reply and which messages is
determined by the session and the event (`frameOf`, `passedOn`, `pushesOf`).

* `change_of_step`: every step is such a change;
* `pushed_of_step`: what it pushes to the upstream;
* `control_of_step`: what it does to the control state.

The invariants of runs are read off these.
-/

open Text Interleaved

namespace RtspToRtspClient

/-- What is done to a core: `frame` is queued and `pushes` are pushed to the upstream, a reply
    out of `replies` is queued, or bytes are sent to the client. -/
inductive Change (frame : Option (UInt8 × Bytes)) (replies : Bytes → Prop) (pushes : List Pushed)
    (c : Core) : Core → Prop
  | relayed (n : Option Nat) : (∀ k ∈ n, k ≤ c.pool.bufSize) →
      Change frame replies pushes c (c.holding n fun c => (c.sendFrame? frame).pushAll pushes)
  | replied (patched : Bytes) : replies patched → pushes = [] →
      Change frame replies pushes c (c.queueResponse patched)
  | sent (n : Nat) : (∀ p ∈ c.queue.packets.head?, n ≤ p.rest.length) → pushes = [] →
      Change frame replies pushes c (c.advance n)

variable {s t : RtspToRtspClient} {cfg : ServerConfig} {e : Event}

/-- The packet that a step frames for the client, with its channel. -/
def frameOf (cfg : ServerConfig) (s : RtspToRtspClient) : Event → Option (UInt8 × Bytes)
  | .upstreamTurn _ => (frontFrame s.upstreamRecvBuf).bind fun f => s.interleavedFrame cfg f.1 f.2
  | .rtpFromUpstream d => if s.received d = [] then none else s.rtpFrame cfg (s.received d)
  | .rtcpFromUpstream d =>
    if s.received d = [] then none else s.mediaFrame s.dsInterleavedRtcp (s.received d)
  | _ => none

/-- The reply that a step passes on to the client, as it is received: not that to a keepalive,
    nor one that makes the proxy try another `SETUP`. -/
def replyOf (s : RtspToRtspClient) : Event → Option Bytes
  | .upstreamTurn _ =>
    (frontMessage s.upstreamRecvBuf).filter fun m => !isKeepaliveReply m && !s.wantsRetry m
  | _ => none

/-- `patched` is queued for a reply `resp`. -/
def Patches (cfg : ServerConfig) (s : RtspToRtspClient) (resp patched : Bytes) : Prop :=
  ∃ u v, (s.learnSession resp).learnUpstreamTransport resp = .ok u ∧
    u.patchResponseForClient cfg resp = .ok (v, patched)

/-- The replies that a step can queue. -/
def passedOn (cfg : ServerConfig) (s : RtspToRtspClient) (e : Event) (patched : Bytes) : Prop :=
  ∃ resp ∈ s.replyOf e, (s.skipUpstream resp.length).Patches cfg resp patched

/-- A request is pushed, unless it is held back. -/
def requestPushes (cfg : ServerConfig) (ports : RelayPorts) (s : RtspToRtspClient)
    (req : Bytes) : List Pushed :=
  if s.holdsBack cfg ports req then [] else [s.clientPush (s.patchedRequest cfg ports req)]

/-- A reply that rejects UDP makes another `SETUP` be pushed, and sending it the first request
    of the session, if that has not been pushed yet. -/
def retryPushes (calls : UpstreamCalls) (s : RtspToRtspClient) (resp : Bytes) : List Pushed :=
  if !isKeepaliveReply resp && s.wantsRetry resp then
    s.retryPush :: if s.pushesFirst calls then [s.firstPush] else []
  else []

/-- The messages that a step pushes to the upstream. -/
def pushesOf (cfg : ServerConfig) (s : RtspToRtspClient) : Event → List Pushed
  | .downstreamTurn ports =>
    ((frontRequest s.downstreamRecvBuf).map (s.requestPushes cfg ports)).getD []
  | .upstreamTurn calls => ((frontMessage s.upstreamRecvBuf).map (s.retryPushes calls)).getD []
  | .upstreamWritable calls => if s.pushesFirst calls then [s.firstPush] else []
  | .stunReply d => if s.received d = [] then [] else [s.releasedPush cfg (s.received d)]
  | .timer => [s.keepalivePush]
  | _ => []

/-! ## Changes -/

@[simp] theorem pushAll_nil (c : Core) : c.pushAll [] = c := by
  rw [Core.pushAll, List.append_nil]

theorem pushUpstream_pushUpstream (c : Core) (p q : Pushed) :
    (c.pushUpstream p).pushUpstream q = c.pushAll [p, q] := by
  rw [Core.pushAll, Core.pushUpstream, Core.pushUpstream, List.append_assoc]
  rfl

/-- Nothing is framed, queued, pushed or sent. -/
theorem change_same {replies : Bytes → Prop} (h : t.core = s.core) :
    Change none replies [] s.core t.core := by
  have hchange : Change none replies [] s.core _ := .relayed none (by simp)
  rw [Core.holding, pushAll_nil] at hchange
  rw [h]
  exact hchange

theorem length_received_le (d : Incoming) :
    ∀ k ∈ some (s.received d).length, k ≤ s.core.pool.bufSize := by
  intro k hk
  cases hk
  rw [received, List.length_take]
  exact Nat.min_le_left _ _

/-- A turn over a datagram. -/
theorem change_receiveTurn {handle : Incoming → RtspToRtspClient → RtspToRtspClient}
    {frame : Option (UInt8 × Bytes)} {replies : Bytes → Prop} (d : Incoming)
    (hhandle : ∀ pool : BufferPool,
      (handle { d with payload := s.received d } { s with pool := pool }).core =
        ({ s with pool := pool } : RtspToRtspClient).core.sendFrame? frame) :
    Change (if s.received d = [] then none else frame) replies [] s.core
      (receiveTurn handle d s).state.core := by
  have hchange : Change (if s.received d = [] then none else frame) replies [] s.core _ :=
    .relayed (some (s.received d).length) (length_received_le d)
  rw [core_receiveTurn d hhandle]
  simpa only [Core.holding, pushAll_nil] using hchange

/-- Messages are pushed, and nothing is framed. -/
theorem change_pushed {replies : Bytes → Prop} {pushes : List Pushed}
    (h : t.core = s.core.pushAll pushes) : Change none replies pushes s.core t.core := by
  rw [h]
  exact .relayed none (by simp)

/-- A turn over the bytes of the client. -/
theorem change_downstreamTurn {ports : RelayPorts} {r : Turn RtspToRtspClient}
    {replies : Bytes → Prop} (h : s.downstreamTurn cfg ports = .ok r) :
    Change none replies (s.pushesOf cfg (.downstreamTurn ports)) s.core r.state.core := by
  rw [pushesOf]
  rcases downstreamTurn_cases h with ⟨rfl, -, hnone⟩ | ⟨channel, data, hf, rfl⟩ | ⟨req, hreq, hr⟩
  · rw [hnone]
    exact change_same rfl
  · rw [frontRequest_of_frontFrame hf]
    exact change_same (core_handleInterleavedFromClient channel data)
  · rw [hreq]
    refine change_pushed ((core_handleRequest hr).trans ?_)
    rw [patchedRequest_congr (s := s) (t := s.skipDownstream req.length) rfl rfl]
    show (if s.holdsBack cfg ports req = true then s.core else _) =
      s.core.pushAll (s.requestPushes cfg ports req)
    rw [requestPushes]
    split
    · exact (pushAll_nil s.core).symm
    · rfl

/-- A turn over the bytes of the upstream. -/
theorem change_upstreamTurn {calls : UpstreamCalls} {r : Turn RtspToRtspClient}
    (h : s.upstreamTurn cfg calls = .ok r) :
    Change (s.frameOf cfg (.upstreamTurn calls)) (s.passedOn cfg (.upstreamTurn calls))
      (s.pushesOf cfg (.upstreamTurn calls)) s.core r.state.core := by
  rw [frameOf, pushesOf]
  rcases upstreamTurn_cases h with ⟨rfl, hf, hm⟩ | ⟨channel, data, hf, rfl⟩ |
    ⟨msg, t, hf, hm, ht, rfl⟩
  · rw [hf, hm]
    exact change_same rfl
  · rw [hf, frontMessage_of_frontFrame hf]
    show Change (s.interleavedFrame cfg channel data) _ [] s.core
      (s.handleInterleavedFromUpstream cfg channel data).core
    rw [core_handleInterleavedFromUpstream]
    split
    · rw [← pushAll_nil ((s.core.fill _).sendFrame? _)]
      refine .relayed (some (min data.length s.pool.bufSize)) fun k hk => ?_
      cases hk
      exact Nat.min_le_right _ _
    · rw [← pushAll_nil (s.core.sendFrame? _)]
      exact .relayed none (by simp)
  · rw [hf, hm]
    show Change none _ (s.retryPushes calls msg) s.core t.core
    rcases handleResponse_cases ht with ⟨hka, rfl⟩ | ⟨hka, hretry, rfl⟩ |
      ⟨hka, hretry, u, v, patched, hu, hv, rfl⟩
    · rw [retryPushes, hka]
      exact change_same rfl
    · have hwants : s.wantsRetry msg = true := hretry
      rw [retryPushes, hka, hwants]
      refine change_pushed ((core_retrySetup calls).trans ?_)
      rw [core_learnSession, core_skipUpstream]
      show (if s.pushesFirst calls = true then _ else _) = _
      split
      · exact pushUpstream_pushUpstream s.core s.retryPush s.firstPush
      · rfl
    · have hcore : v.core = s.core :=
        (core_patchResponseForClient hv).trans
          ((core_learnUpstreamTransport hu).trans (core_learnSession msg))
      rw [core_queueResponse, core_startStreaming, hcore]
      have hwants : s.wantsRetry msg = false := hretry
      refine .replied patched ⟨msg, ?_, u, v, hu, hv⟩ ?_
      · rw [replyOf, hm, Option.mem_def, Option.filter_some, hka, hwants]
        rfl
      · rw [retryPushes, hka, hwants]
        rfl

/-- What a step does to the core. -/
theorem change_of_step (h : step cfg s e = .ok t) :
    Change (s.frameOf cfg e) (s.passedOn cfg e) (s.pushesOf cfg e) s.core t.core := by
  cases e with
  | downstreamTurn ports =>
    obtain ⟨r, hr, rfl⟩ := Except.map_eq_ok_iff.1 h
    exact change_downstreamTurn hr
  | upstreamTurn calls =>
    obtain ⟨r, hr, rfl⟩ := Except.map_eq_ok_iff.1 h
    exact change_upstreamTurn hr
  | sendDownstream r =>
    cases h
    rcases core_downstreamSendTurn (s := s) r with hsame | ⟨n, hn, hsent⟩
    · exact change_same hsame
    · rw [hsent]
      exact .sent n hn rfl
  | upstreamWritable calls =>
    cases h
    refine change_pushed ((core_onUpstreamWritable calls).trans ?_)
    rw [pushesOf]
    split
    · rfl
    · exact (pushAll_nil s.core).symm
  | rtpFromUpstream d =>
    cases h
    exact change_receiveTurn d fun pool => core_handleRtpFromUpstream _
  | rtcpFromUpstream d =>
    cases h
    exact change_receiveTurn d fun pool => core_handleRtcpFromUpstream _
  | rtpFromClient d =>
    cases h
    have hchange : Change (if s.received d = [] then none else none)
        (s.passedOn cfg (.rtpFromClient d)) [] s.core (receiveTurn handleRtpFromClient d s).state.core :=
      change_receiveTurn d fun pool => core_handleRtpFromClient _
    rwa [ite_self] at hchange
  | rtcpFromClient d =>
    cases h
    have hchange : Change (if s.received d = [] then none else none)
        (s.passedOn cfg (.rtcpFromClient d)) [] s.core (receiveTurn handleRtcpFromClient d s).state.core :=
      change_receiveTurn d fun pool => core_handleRtcpFromClient _
    rwa [ite_self] at hchange
  | noDatagram =>
    cases h
    show Change none _ [] s.core (s.core.fill 0).release
    rw [← pushAll_nil (s.core.fill 0)]
    exact .relayed (some 0) (by simp)
  | stunReply d =>
    cases h
    rw [core_handleStunReply]
    exact .relayed (some (s.received d).length) (length_received_le d)
  | timer =>
    cases h
    exact change_pushed core_handleTimer
  | receiveDownstream _ | receiveUpstream _ | close =>
    cases h
    exact change_same rfl
  | downstreamSent =>
    cases h
    exact change_same core_downstreamSent

/-! ## What runs push -/

/-- The messages to the upstream are only added to, and how URIs are rewritten does not change. -/
theorem Change.pushed {c c' : Core} {frame : Option (UInt8 × Bytes)} {replies : Bytes → Prop}
    {pushes : List Pushed} (h : Change frame replies pushes c c') :
    c'.pushed = c.pushed ++ pushes ∧ c'.proxyUriPrefix = c.proxyUriPrefix ∧
      c'.upstreamUriBase = c.upstreamUriBase := by
  cases h with
  | relayed n _ =>
    have hframed : ∀ d : Core, (d.sendFrame? frame).pushed = d.pushed ∧
        (d.sendFrame? frame).proxyUriPrefix = d.proxyUriPrefix ∧
        (d.sendFrame? frame).upstreamUriBase = d.upstreamUriBase := by
      intro d
      rcases frame with _ | f <;> exact ⟨rfl, rfl, rfl⟩
    rcases n with _ | n
    · obtain ⟨hpushed, huris⟩ := hframed c
      exact ⟨congrArg (· ++ pushes) hpushed, huris⟩
    · obtain ⟨hpushed, huris⟩ := hframed (c.fill n)
      exact ⟨congrArg (· ++ pushes) hpushed, huris⟩
  | replied _ _ hnil =>
    rw [hnil, List.append_nil]
    exact ⟨rfl, rfl, rfl⟩
  | sent n _ hnil =>
    rw [hnil, List.append_nil, Core.advance]
    split <;> exact ⟨rfl, rfl, rfl⟩

theorem pushed_of_step (h : step cfg s e = .ok t) : t.pushed = s.pushed ++ s.pushesOf cfg e :=
  (change_of_step h).pushed.1

/-- How URIs are rewritten is settled when a session is set up. -/
theorem uris_of_step (h : step cfg s e = .ok t) :
    t.proxyUriPrefix = s.proxyUriPrefix ∧ t.upstreamUriBase = s.upstreamUriBase :=
  (change_of_step h).pushed.2

/-! ## The control state -/

/-- The control state after a step. -/
def controlAfter (cfg : ServerConfig) (s : RtspToRtspClient) : Event → Control
  | .receiveDownstream bytes =>
    { s.control with downstreamRecvBuf := s.downstreamRecvBuf ++ bytes }
  | .downstreamTurn ports =>
    match frontFrame s.downstreamRecvBuf with
    | some (_, data) => (s.skipDownstream (4 + data.length)).control
    | none =>
      match frontRequest s.downstreamRecvBuf with
      | some req => (s.skipDownstream req.length).control.request cfg (s.canRelay ports) req
      | none => s.control
  | .receiveUpstream bytes => { s.control with upstreamRecvBuf := s.upstreamRecvBuf ++ bytes }
  | .upstreamTurn calls =>
    match frontFrame s.upstreamRecvBuf with
    | some (_, data) => (s.skipUpstream (4 + data.length)).control
    | none =>
      match frontMessage s.upstreamRecvBuf with
      | some msg =>
        let u := s.skipUpstream msg.length
        if isKeepaliveReply msg then u.control
        else if s.wantsRetry msg then
          ((u.learnSession msg).retrying.onUpstreamWritable calls).control
        else if RtspParser.parseStatusCode msg = 200 && s.pendingPlay then
          { u.control with pendingPlay := false, timerArmed := true, state := .streaming }
        else u.control
      | none => s.control
  | .upstreamWritable calls => (s.onUpstreamWritable calls).control
  | .stunReply d =>
    if s.received d = [] then s.control
    else { s.control with
      state := .idle, pendingSetupReq := [], lastSetupReq := s.pendingSetupReq }
  | _ => s.control

theorem control_of_step (h : step cfg s e = .ok t) : t.control = s.controlAfter cfg e := by
  cases e with
  | downstreamTurn ports =>
    obtain ⟨r, hr, rfl⟩ := Except.map_eq_ok_iff.1 h
    rw [controlAfter]
    rcases downstreamTurn_cases hr with ⟨rfl, hf, hnone⟩ | ⟨channel, data, hf, rfl⟩ | ⟨req, hreq, hr⟩
    · rw [hf, hnone]
      rfl
    · rw [hf]
      exact congrArg (fun c : Control => { c with
        downstreamRecvBuf := c.downstreamRecvBuf.drop (4 + data.length) })
        (control_handleInterleavedFromClient channel data)
    · rw [frontFrame_of_frontRequest hreq, hreq]
      exact control_handleRequest hr
  | upstreamTurn calls =>
    obtain ⟨r, hr, rfl⟩ := Except.map_eq_ok_iff.1 h
    rw [controlAfter]
    rcases upstreamTurn_cases hr with ⟨rfl, hf, hm⟩ | ⟨channel, data, hf, rfl⟩ |
      ⟨msg, t, hf, hm, ht, rfl⟩
    · rw [hf, hm]
      rfl
    · rw [hf]
      exact congrArg (fun c : Control => { c with
        upstreamRecvBuf := c.upstreamRecvBuf.drop (4 + data.length) })
        (control_handleInterleavedFromUpstream channel data)
    · rw [hf, hm]
      exact control_handleResponse ht
  | stunReply d =>
    cases h
    exact control_handleStunReply d
  | sendDownstream r =>
    cases h
    exact control_downstreamSendTurn r
  | downstreamSent =>
    cases h
    exact control_downstreamSent
  | rtpFromUpstream d =>
    cases h
    exact control_receiveTurn (fun _ _ => control_handleRtpFromUpstream _) d
  | rtcpFromUpstream d =>
    cases h
    exact control_receiveTurn (fun _ _ => control_handleRtcpFromUpstream _) d
  | rtpFromClient d =>
    cases h
    exact control_receiveTurn (fun _ _ => control_handleRtpFromClient _) d
  | rtcpFromClient d =>
    cases h
    exact control_receiveTurn (fun _ _ => control_handleRtcpFromClient _) d
  | receiveDownstream _ | receiveUpstream _ | upstreamWritable _ | noDatagram | timer | close =>
    cases h
    rfl

end RtspToRtspClient

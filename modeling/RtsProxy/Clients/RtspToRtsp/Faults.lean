import RtsProxy.Clients.RtspToRtsp.Asides
import RtsProxy.Clients.RtspToRtsp.Exceptions
import RtsProxy.Clients.RtspToRtsp.Transport

/-!
# When the handlers of a relayed session return

A handler that does not throw may still fail to return (`Fault`). The library for regular
expressions calls itself for every byte of a run, so that a long run of digits can use up the
stack. A reply is copied into a block without a look at its length. And the last byte is asked of
a transport that may be empty. Here the turns of the two loops are looked at with these faults
(`guardedDownstreamTurn`, `guardedUpstreamTurn`). Which calls of the library fit into the stack is
a parameter.

* `faults_downstreamTurn`, `overran_upstreamTurn`: the faults of a turn that does not throw;
* `handlers_return_iff`: when the handlers return.
-/

open Text Ecma Interleaved

/-- What ends the program in a handler: an exception that nothing catches, or what the language does
    not define. -/
inductive Fault
  | thrown (e : Exn)
  /-- Bytes are written behind the end of a block. -/
  | overrun
  /-- `back()` of an empty string is called. -/
  | emptyBack
  | stackOverflow
  deriving DecidableEq, Repr

/-- A call of the library for regular expressions, but for the compilation of a pattern that stands
    in the code. -/
inductive RegexCall
  | compile (pattern : Bytes)
  | search (re : Regex) (text : Bytes)
  | replace (re : Regex) (text : Bytes)

/-- A pool that has become another one has been written to behind the end of a block. -/
def BufferPool.overran (p q : BufferPool) : Bool :=
  (q.writes.take (q.writes.length - p.writes.length)).any fun stop => p.bufSize < stop

theorem BufferPool.overran_eq {p q : BufferPool} {new : List Nat} (h : q.writes = new ++ p.writes) :
    p.overran q = new.any fun stop => p.bufSize < stop := by
  rw [overran, h, List.length_append, Nat.add_sub_cancel, List.take_left]

theorem BufferPool.overran_of_same {p q : BufferPool} (h : q.writes = p.writes) :
    p.overran q = false :=
  @overran_eq p q [] h

namespace RtspToRtspClient

variable {s t : RtspToRtspClient} {cfg : ServerConfig} {ports : RelayPorts} {calls : UpstreamCalls}
  {fits : RegexCall → Bool}

/-! ## Calls of the library -/

/-- The calls for a request: in `extract_interleaved_channels`, `extract_client_port` and
    `patch_transport_for_upstream`. -/
def requestCalls (cfg : ServerConfig) (ports : RelayPorts) (s : RtspToRtspClient) (req : Bytes) :
    List RegexCall :=
  let transport := RtspParser.extractHeaderValue req (ascii "Transport")
  if !(ascii "SETUP ").isPrefixOf req || transport = [] then []
  else
    [.search interleavedGroupsRe transport] ++
      (if (interleavedGroupsRe.search transport).isSome then []
        else [.search clientPortGroupsRe transport]) ++
      if s.holdsBack cfg ports req || cfg.usesZte then []
      else if wantsFrames transport then
        [.replace interleavedRe (replaceFirst (ascii "RTP/AVP/TCP") (ascii "RTP/AVP") transport)]
      else [.replace clientPortRe transport]

/-- The calls for the transport of a reply. -/
def transportCalls (s : RtspToRtspClient) (transport : Bytes) : List RegexCall :=
  .search serverPortRe transport ::
    if s.isDownstreamTcp then
      let named := overTcp transport
      let unported := clientPortRe.replace [] named
      [.replace clientPortRe named, .replace serverPortRe unported,
        .replace sourceRe (s.withChannels (tidy (serverPortRe.replace [] unported)))]
    else
      let ported := clientPortRe.replace
        (portPair "client_port=" s.clientRtpAddr.port s.clientRtcpAddr.port) transport
      [.replace clientPortRe transport, .replace serverPortRe ported,
        .replace sourceRe (serverPortRe.replace
          (portPair "server_port=" s.localRtpDsPort s.localRtcpDsPort) ported)]

/-- The calls for the URLs in a header field. -/
def urlCalls (re : Regex) (msg name : Bytes) : List RegexCall :=
  let value := RtspParser.extractHeaderValue msg name
  if value = [] then []
  else .search re value :: if (re.search value).isSome then [.replace re value] else []

/-- The calls for a session description. -/
def sdpCalls (msg : Bytes) : List RegexCall :=
  match find crlf2 msg with
  | none => []
  | some i =>
    if msg.drop (i + 4) ≠ [] ∧ contains (ascii "application/sdp") (msg.take (i + 4)) then
      [.replace ip4Re (msg.drop (i + 4))]
    else []

/-- The calls for the URLs and the session description of a reply with its new transport. -/
def bodyCalls (s : RtspToRtspClient) (msg : Bytes) : List RegexCall :=
  match Regex.compile s.upstreamPattern with
  | .error _ => []
  | .ok re => urlCalls re msg (ascii "Content-Base") ++
    match s.patchUriHeader re msg (ascii "Content-Base") with
    | .error _ => []
    | .ok based => urlCalls re based (ascii "RTP-Info") ++
      match s.patchUriHeader re based (ascii "RTP-Info") with
      | .error _ => []
      | .ok located => sdpCalls located

/-- The calls for a reply: in `extract_interleaved_channels` and `patch_response_for_client`. -/
def replyCalls (s : RtspToRtspClient) (resp : Bytes) : List RegexCall :=
  let transport := RtspParser.extractHeaderValue resp (ascii "Transport")
  if isKeepaliveReply resp || s.wantsRetry resp then []
  else
    (if RtspParser.parseStatusCode resp = 200 && contains (ascii "interleaved=") resp &&
        transport ≠ [] then [.search interleavedGroupsRe transport] else []) ++
      (if transport = [] then [] else s.transportCalls (s.restoreProtocol transport)) ++
      .compile s.upstreamPattern :: s.bodyCalls (s.withTransport resp)

/-! ## Turns with their faults -/

/-- What comes of a turn in which these calls are made. (A turn that throws makes some of them only,
    and is not told whether it would have come to the others.) -/
def guarded (fits : RegexCall → Bool) (made : List RegexCall) (s : RtspToRtspClient) :
    Except Exn (Turn RtspToRtspClient) → Except Fault (Turn RtspToRtspClient)
  | .error e => .error (if made.all fits then .thrown e else .stackOverflow)
  | .ok r =>
    if !made.all fits then .error .stackOverflow
    else if s.pool.overran r.state.pool then .error .overrun
    else if s.emptyBacks < r.state.emptyBacks then .error .emptyBack
    else .ok r

/-- One turn of the loop of `on_downstream_readable`, with its faults. -/
def guardedDownstreamTurn (fits : RegexCall → Bool) (cfg : ServerConfig) (ports : RelayPorts)
    (s : RtspToRtspClient) : Except Fault (Turn RtspToRtspClient) :=
  guarded fits ((frontRequest s.downstreamRecvBuf).elim [] (s.requestCalls cfg ports)) s
    (s.downstreamTurn cfg ports)

/-- One turn of the loop of `on_upstream_readable`, with its faults. -/
def guardedUpstreamTurn (fits : RegexCall → Bool) (cfg : ServerConfig) (calls : UpstreamCalls)
    (s : RtspToRtspClient) : Except Fault (Turn RtspToRtspClient) :=
  guarded fits ((frontMessage s.upstreamRecvBuf).elim [] s.replyCalls) s
    (s.upstreamTurn cfg calls)

/-- `on_downstream_readable` with its faults, its loop in at most so many turns. -/
def guardedDownstreamReadable (fits : RegexCall → Bool) (cfg : ServerConfig) (ports : RelayPorts)
    (turns : Nat) (received : RecvResult) (s : RtspToRtspClient) :
    Option (Except Fault RtspToRtspClient) :=
  match received with
  | .endOfStream | .failed => some (.ok s.closeAll)
  | .wouldBlock => some (.ok s)
  | .data bytes =>
    Loop.run (guardedDownstreamTurn fits cfg ports) turns
      { s with downstreamRecvBuf := s.downstreamRecvBuf ++ bytes }

/-- `on_upstream_readable` with its faults, its loop in at most so many turns. -/
def guardedUpstreamReadable (fits : RegexCall → Bool) (cfg : ServerConfig) (calls : UpstreamCalls)
    (turns : Nat) (received : RecvResult) (s : RtspToRtspClient) :
    Option (Except Fault RtspToRtspClient) :=
  match received with
  | .endOfStream | .failed => some (.ok s.closeAll)
  | .wouldBlock => some (.ok s)
  | .data bytes =>
    Loop.run (guardedUpstreamTurn fits cfg calls) turns
      { s with upstreamRecvBuf := s.upstreamRecvBuf ++ bytes }

theorem guarded_eq_ok_iff {made : List RegexCall} {x : Except Exn (Turn RtspToRtspClient)}
    {r : Turn RtspToRtspClient} : guarded fits made s x = .ok r ↔ x = .ok r ∧
      (∀ call ∈ made, fits call = true) ∧ s.pool.overran r.state.pool = false ∧
      r.state.emptyBacks ≤ s.emptyBacks := by
  rw [← List.all_eq_true]
  rcases x with e | x
  · exact iff_of_false nofun fun h => nomatch h.1
  rw [guarded]
  constructor
  · intro h
    split at h
    · cases h
    case isFalse hfits =>
      split at h
      · cases h
      case isFalse hbounds =>
        split at h
        · cases h
        case isFalse hbacks =>
          cases h
          exact ⟨rfl, by simpa using hfits, by simpa using hbounds, Nat.not_lt.1 hbacks⟩
  · rintro ⟨h, hfits, hbounds, hbacks⟩
    cases h
    rw [hfits, hbounds, if_neg (Nat.not_lt.2 hbacks)]
    rfl

/-! ## Turns over the bytes of the client -/

/-- The last byte is asked of what is left of the transport of a `SETUP`, and nothing is. -/
def emptiesTransport (cfg : ServerConfig) (ports : RelayPorts) (s : RtspToRtspClient) (req : Bytes) :
    Bool :=
  (ascii "SETUP ").isPrefixOf req && !s.holdsBack cfg ports req &&
    readsEmptyBack cfg (RtspParser.extractHeaderValue req (ascii "Transport"))

theorem readsEmptyBack_nil : readsEmptyBack cfg [] = false := by
  rw [readsEmptyBack, show wantsFrames [] = false from rfl, Bool.and_false, Bool.false_and]

theorem emptyBacks_patchTransportForUpstream (req : Bytes) :
    (s.patchTransportForUpstream cfg req).1.emptyBacks = s.emptyBacks +
      if readsEmptyBack cfg (RtspParser.extractHeaderValue req (ascii "Transport")) then 1 else 0 := by
  rw [patchTransportForUpstream]
  split
  case isTrue hnil =>
    rw [hnil, readsEmptyBack_nil]
    rfl
  case isFalse => rfl

theorem emptyBacks_learnClientTransport {req : Bytes} (h : s.learnClientTransport req = .ok t) :
    t.emptyBacks = s.emptyBacks := by
  unfold learnClientTransport at h
  obtain ⟨channels, -, h⟩ := Except.bind_eq_ok_iff.1 h
  split at h
  · cases h
    rfl
  · obtain ⟨ports, -, h⟩ := Except.bind_eq_ok_iff.1 h
    split at h <;> cases h <;> rfl

theorem emptyBacks_initRelaySockets : (s.initRelaySockets ports).2.emptyBacks = s.emptyBacks := by
  unfold initRelaySockets
  split
  · rfl
  · dsimp only
    split <;> rfl

theorem emptyBacks_handleRequest {req : Bytes} {r : Turn RtspToRtspClient}
    (h : s.handleRequest cfg ports req = .ok r) : r.state.emptyBacks =
      s.emptyBacks + if s.emptiesTransport cfg ports req then 1 else 0 := by
  unfold handleRequest at h
  rw [emptiesTransport]
  split at h
  case isTrue hsetup =>
    unfold handleSetup at h
    obtain ⟨t, ht, h⟩ := Except.bind_eq_ok_iff.1 h
    rw [holdsBack, hsetup, Bool.true_and, Bool.true_and]
    have hready : t.relayReady = s.relayReady := (relayPorts_learnClientTransport ht).2
    -- the session when the relay is ready
    obtain ⟨v, hv, hbacks⟩ : ∃ v,
        (if t.relayReady = true then (true, t) else t.initRelaySockets ports) =
          (s.canRelay ports, v) ∧ v.emptyBacks = s.emptyBacks := by
      have hlearnt := emptyBacks_learnClientTransport ht
      rw [canRelay, hready]
      cases s.relayReady with
      | true => exact ⟨t, rfl, hlearnt⟩
      | false =>
        exact ⟨_, Prod.ext (initRelaySockets_ready ports) rfl, emptyBacks_initRelaySockets.trans hlearnt⟩
    rw [hv] at h
    dsimp only at h
    cases hcan : s.canRelay ports with
    | false =>
      rw [hcan] at h
      cases h
      rw [Bool.not_false, Bool.or_true, Bool.not_true, Bool.false_and]
      exact hbacks
    | true =>
      rw [hcan, Bool.not_true, if_neg Bool.false_ne_true] at h
      cases hstun : cfg.usesStun with
      | true =>
        rw [hstun] at h
        cases h
        exact hbacks
      | false =>
        rw [hstun] at h
        cases h
        refine (@emptyBacks_patchTransportForUpstream { v with relayReady := true, lastSetupReq := req }
          cfg req).trans ?_
        exact congrArg (· + _) hbacks
  case isFalse hsetup =>
    cases h
    rw [Bool.eq_false_of_not_eq_true hsetup]
    rfl

theorem emptyBacks_handleInterleavedFromClient (channel : UInt8) (data : Bytes) :
    (s.handleInterleavedFromClient channel data).emptyBacks = s.emptyBacks :=
  (congrArg emptyBacks (plain_handleInterleavedFromClient (s := s) channel data) :)

/-- A turn leaves the blocks alone, and asks an empty transport for its last byte exactly if its
    request makes it. -/
theorem faults_downstreamTurn {r : Turn RtspToRtspClient} (h : s.downstreamTurn cfg ports = .ok r) :
    r.state.pool = s.pool ∧ (r.state.emptyBacks ≤ s.emptyBacks ↔
      ∀ req ∈ frontRequest s.downstreamRecvBuf, s.emptiesTransport cfg ports req = false) := by
  rcases downstreamTurn_cases h with ⟨rfl, -, hnone⟩ | ⟨channel, data, hf, rfl⟩ | ⟨req, hreq, hr⟩
  · rw [hnone]
    exact ⟨rfl, iff_of_true le_rfl nofun⟩
  · -- a datagram of the client is sent on from where it is
    rw [frontRequest_of_frontFrame hf]
    exact ⟨(congrArg Core.pool (core_handleInterleavedFromClient (s := s) channel data) :),
      iff_of_true (emptyBacks_handleInterleavedFromClient channel data).le nofun⟩
  · have hcore := core_handleRequest hr
    refine ⟨(?_ : r.state.core.pool = s.core.pool), ?_⟩
    · rw [hcore]
      split <;> rfl
    rw [emptyBacks_handleRequest hr, hreq]
    simp only [Option.mem_some, forall_eq']
    show s.emptyBacks + (if s.emptiesTransport cfg ports req then 1 else 0) ≤ s.emptyBacks ↔ _
    cases s.emptiesTransport cfg ports req with
    | true => exact iff_of_false (Nat.not_succ_le_self _) Bool.noConfusion
    | false => exact iff_of_true le_rfl rfl

theorem guardedDownstreamTurn_eq_ok_iff {r : Turn RtspToRtspClient} :
    guardedDownstreamTurn fits cfg ports s = .ok r ↔ s.downstreamTurn cfg ports = .ok r ∧
      ∀ req ∈ frontRequest s.downstreamRecvBuf, s.emptiesTransport cfg ports req = false ∧
        ∀ call ∈ s.requestCalls cfg ports req, fits call = true := by
  rw [guardedDownstreamTurn, guarded_eq_ok_iff]
  refine and_congr_right fun hr => ?_
  obtain ⟨hpool, hbacks⟩ := faults_downstreamTurn hr
  rw [hbacks, BufferPool.overran_of_same (congrArg BufferPool.writes hpool)]
  rcases frontRequest s.downstreamRecvBuf with _ | req
  · exact iff_of_true ⟨nofun, rfl, nofun⟩ nofun
  · simp only [Option.elim_some, Option.mem_some, forall_eq', true_and]
    exact and_comm

/-! ## Turns over the bytes of the upstream -/

/-- Where the writes end that put a frame into a block. -/
def frameWrites (bufSize : Nat) : Option (UInt8 × Bytes) → List Nat
  | none => []
  | some f => [4 + frameLength bufSize f.2.length, 4, 2, 1]

theorem writes_sendFrame? (c : Core) (frame : Option (UInt8 × Bytes)) :
    (c.sendFrame? frame).pool.writes = frameWrites c.pool.bufSize frame ++ c.pool.writes := by
  rcases frame with _ | f
  · rfl
  · simp only [Core.sendFrame?, Core.sendFrame, frameWrites]
    split
    all_goals simp only [BufferPool.writes_release, BufferPool.write, BufferPool.writes_acquire,
      List.cons_append, List.nil_append]

/-- A frame stays inside its block exactly if that has room for its header. -/
theorem any_frameWrites_iff {bufSize : Nat} {frame : Option (UInt8 × Bytes)} :
    (frameWrites bufSize frame).any (fun stop => bufSize < stop) = false ↔
      (frame ≠ none → 4 ≤ bufSize) := by
  rcases frame with _ | f
  · exact iff_of_true rfl fun hne => absurd rfl hne
  rw [imp_iff_right (Option.some_ne_none f)]
  constructor
  · intro h
    have hfour := List.any_eq_false.1 h 4 (List.mem_cons_of_mem _ List.mem_cons_self)
    simpa using hfour
  · intro h
    have hlen := four_add_frameLength_le h f.2.length
    refine List.any_eq_false.2 fun stop hstop => ?_
    rw [decide_eq_true_iff, Nat.not_lt]
    simp only [frameWrites, List.mem_cons, List.not_mem_nil, or_false] at hstop
    omega

theorem overran_handleInterleavedFromUpstream (channel : UInt8) (data : Bytes) :
    s.pool.overran (s.handleInterleavedFromUpstream cfg channel data).pool = false ↔
      (s.interleavedFrame cfg channel data ≠ none → 4 ≤ s.pool.bufSize) := by
  -- what a padding packet leaves behind ends inside the block
  obtain ⟨new, hwrites, hinside⟩ :
      ∃ new, (s.handleInterleavedFromUpstream cfg channel data).core.pool.writes =
        frameWrites s.pool.bufSize (s.interleavedFrame cfg channel data) ++ (new ++ s.pool.writes) ∧
        new.any (fun stop => s.pool.bufSize < stop) = false := by
    rw [core_handleInterleavedFromUpstream]
    split
    · refine ⟨[min data.length s.pool.bufSize], ?_, ?_⟩
      · rw [Core.release, BufferPool.writes_release, writes_sendFrame?, Core.bufSize_fill, Core.fill,
          BufferPool.write, BufferPool.writes_acquire]
        rfl
      · rw [List.any_cons, List.any_nil, decide_eq_false (Nat.not_lt.2 (Nat.min_le_right _ _))]
        rfl
    · exact ⟨[], writes_sendFrame? s.core _, rfl⟩
  rw [← List.append_assoc] at hwrites
  rw [BufferPool.overran_eq (q := (s.handleInterleavedFromUpstream cfg channel data).pool) hwrites,
    List.any_append, hinside, Bool.or_false, any_frameWrites_iff]

theorem emptyBacks_relayToClient {channel : UInt8} {socket : RelaySocket} {dest : SockAddr}
    {account : Nat → RtspToRtspClient → RtspToRtspClient} (data : Bytes)
    (haccount : ∀ n u, (account n u).emptyBacks = u.emptyBacks) :
    (s.relayToClient channel socket dest account data).emptyBacks = s.emptyBacks := by
  unfold relayToClient
  split
  · rw [sendInterleavedDownstream]
    split <;> rfl
  · split
    · rfl
    · exact haccount _ _

theorem emptyBacks_handleInterleavedFromUpstream (channel : UInt8) (data : Bytes) :
    (s.handleInterleavedFromUpstream cfg channel data).emptyBacks = s.emptyBacks := by
  unfold handleInterleavedFromUpstream
  split
  · dsimp only
    split
    · exact emptyBacks_relayToClient _ fun _ _ => rfl
    · rfl
  · split
    · exact emptyBacks_relayToClient _ fun _ _ => rfl
    · rfl

theorem emptyBacks_handleResponse {resp : Bytes} (h : s.handleResponse cfg calls resp = .ok t) :
    t.emptyBacks = s.emptyBacks := by
  rcases handleResponse_cases h with ⟨-, rfl⟩ | ⟨-, -, rfl⟩ | ⟨-, -, u, v, patched, hu, hv, rfl⟩
  · rfl
  · have hlearnt := congrArg emptyBacks (plain_learnSession (s := s) resp)
    exact (congrArg emptyBacks (unwritten_onUpstreamWritable calls)).trans hlearnt
  · have hpatched := congrArg emptyBacks (plain_patched hu hv)
    refine (congrArg emptyBacks (@plain_startStreaming v cfg resp)).trans ?_
    split <;> exact hpatched

theorem emptyBacks_upstreamTurn {r : Turn RtspToRtspClient} (h : s.upstreamTurn cfg calls = .ok r) :
    r.state.emptyBacks = s.emptyBacks := by
  rcases upstreamTurn_cases h with ⟨rfl, -, -⟩ | ⟨channel, data, -, rfl⟩ | ⟨msg, t, -, -, ht, rfl⟩
  · rfl
  · exact emptyBacks_handleInterleavedFromUpstream channel data
  · exact (emptyBacks_handleResponse (s := s.skipUpstream msg.length) ht :)

/-- A turn stays inside the blocks exactly if its frame and its reply fit. -/
theorem overran_upstreamTurn {r : Turn RtspToRtspClient} (h : s.upstreamTurn cfg calls = .ok r) :
    s.pool.overran r.state.pool = false ↔ s.FitsBlocks cfg (.upstreamTurn calls) := by
  rw [FitsBlocks, frameOf, replyOf]
  have hnone : ∀ {fitting : Bytes → Prop}, ∀ resp ∈ (none : Option Bytes), fitting resp :=
    fun resp hresp => absurd hresp (Option.not_mem_none resp)
  rcases upstreamTurn_cases h with ⟨rfl, hf, hm⟩ | ⟨channel, data, hf, rfl⟩ |
    ⟨msg, t, hf, hm, ht, rfl⟩
  · rw [hf, hm]
    exact iff_of_true (BufferPool.overran_of_same rfl) ⟨fun hne => absurd rfl hne, hnone⟩
  · rw [hf, frontMessage_of_frontFrame hf]
    refine (overran_handleInterleavedFromUpstream (s := s) channel data).trans ?_
    exact (and_iff_left hnone).symm
  · -- of the replies, only one that is passed on is copied into a block
    rw [hf, hm, Option.filter_some]
    refine Iff.trans ?_ (and_iff_right fun hne => absurd rfl hne).symm
    rcases handleResponse_cases ht with ⟨hka, rfl⟩ | ⟨hka, hretry, rfl⟩ |
      ⟨hka, hretry, u, v, patched, hu, hv, rfl⟩
    · rw [hka]
      exact iff_of_true (BufferPool.overran_of_same rfl) hnone
    · have hpool : (((s.skipUpstream msg.length).learnSession msg).retrySetup calls).core.pool =
          s.pool := by
        rw [core_retrySetup, core_learnSession]
        split <;> rfl
      have hwants : s.wantsRetry msg = true := hretry
      rw [hka, hwants]
      exact iff_of_true (BufferPool.overran_of_same (congrArg BufferPool.writes hpool)) hnone
    · have hcore : v.core = s.core :=
        (core_patchResponseForClient hv).trans
          ((core_learnUpstreamTransport hu).trans (core_learnSession msg))
      have hpool : ((v.startStreaming cfg msg).queueResponse patched).core.pool.writes =
          [patched.length] ++ s.pool.writes := by
        rw [core_queueResponse, core_startStreaming, hcore, Core.queueResponse, Core.fill,
          BufferPool.write, BufferPool.writes_acquire]
        rfl
      -- how long it has become is known from what it is patched with
      obtain ⟨n, hn, hlen⟩ := Patches.length ⟨u, v, hu, hv⟩
      have hgrowth : s.replyGrowth msg = .ok n := hn
      have hwants : s.wantsRetry msg = false := hretry
      refine (Eq.congr_left (BufferPool.overran_eq
        (q := ((v.startStreaming cfg msg).queueResponse patched).pool) hpool)).trans ?_
      rw [hka, hwants]
      simp only [Bool.not_false, Bool.and_self, if_true, Option.mem_some, forall_eq', hgrowth,
        Except.toOption, List.any_cons, List.any_nil, Bool.or_false, decide_eq_false_iff_not]
      omega

theorem guardedUpstreamTurn_eq_ok_iff {r : Turn RtspToRtspClient} :
    guardedUpstreamTurn fits cfg calls s = .ok r ↔ s.upstreamTurn cfg calls = .ok r ∧
      s.FitsBlocks cfg (.upstreamTurn calls) ∧
        ∀ msg ∈ frontMessage s.upstreamRecvBuf, ∀ call ∈ s.replyCalls msg, fits call = true := by
  rw [guardedUpstreamTurn, guarded_eq_ok_iff]
  refine and_congr_right fun hr => ?_
  rw [overran_upstreamTurn hr, and_iff_left (emptyBacks_upstreamTurn hr).le]
  rcases frontMessage s.upstreamRecvBuf with _ | msg
  · simp only [Option.elim_none, List.not_mem_nil, false_implies, implies_true, true_and,
      Option.not_mem_none, and_true]
  · simp only [Option.elim_some, Option.mem_some, forall_eq']
    exact and_comm

/-! ## The handlers -/

/-- A `SETUP` with a port of eleven digits. -/
def hugePortRequest : Bytes :=
  ascii "SETUP rtsp://10.0.0.1:8554/rtp/10.0.0.9:554/live RTSP/1.0\r\nCSeq: 2\r\n" ++
    ascii "Transport: RTP/AVP;unicast;client_port=99999999999-50001\r\n\r\n"

/-- A reply to it with a port of eleven digits. -/
def hugePortReply : Bytes :=
  ascii "RTSP/1.0 200 OK\r\nCSeq: 2\r\n" ++
    ascii "Transport: RTP/AVP;unicast;server_port=99999999999-50001\r\n\r\n"

/-- A `SETUP` of whose transport nothing is left without the channels. -/
def channelsOnlyRequest : Bytes :=
  ascii "SETUP rtsp://10.0.0.1:8554/rtp/10.0.0.9:554/live RTSP/1.0\r\nCSeq: 2\r\n" ++
    ascii "Transport: interleaved=0-1\r\n\r\n"

end RtspToRtspClient

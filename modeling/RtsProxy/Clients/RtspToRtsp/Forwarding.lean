import Mathlib.Data.List.Forall2
import RtsProxy.Clients.RtspToRtsp.Deferred

/-!
# The order of forwarded requests

The requests of the client are forwarded in the order they are received in, as long as none is
handled while a `SETUP` is held back: it would overtake that one, or take its place
(`HandlesInTurn`).

* `front_of_prefix`: what is taken off the bytes of the client is their next request;
* `forwarded_of_run`: in a run that handles them in turn, the forwarded requests are those
  received, up to the last.
-/

open Text Interleaved

namespace RtspToRtspClient

/-! ## Requests in the bytes of the client -/

/-- A complete request without a body: it ends with its first empty line. -/
def IsRequest (req : Bytes) : Prop := frontRequest req = some req

instance (req : Bytes) : Decidable (IsRequest req) := inferInstanceAs (Decidable (_ = _))

variable {buf req : Bytes} {reqs : List Bytes}

theorem frontRequest_eq_some_iff : frontRequest buf = some req ↔
    buf ≠ [] ∧ buf.head? ≠ some 36 ∧ ∃ i, find crlf2 buf = some i ∧ req = buf.take (i + 4) := by
  rw [frontRequest]
  split
  case isTrue hno =>
    refine iff_of_false (fun h => by cases h) fun ⟨hne, hhead, _⟩ => ?_
    exact hno.elim hne hhead
  case isFalse hno =>
    obtain ⟨hne, hhead⟩ := not_or.1 hno
    rw [Option.map_eq_some_iff]
    simp only [hne, hhead, ne_eq, not_false_eq_true, true_and, eq_comm]

/-- Bytes that start a sequence of requests start with no frame, and the complete request they
    start with is the next one. -/
theorem front_of_prefix (hreqs : ∀ req ∈ reqs, IsRequest req) (h : buf <+: reqs.flatten) :
    frontFrame buf = none ∧ ∀ req, frontRequest buf = some req → ∃ rest, reqs = req :: rest := by
  rcases reqs with _ | ⟨next, rest⟩
  · obtain rfl : buf = [] := List.prefix_nil.1 h
    exact ⟨rfl, fun req hreq => by cases hreq⟩
  obtain ⟨hne, hhead, i, hi, hnext⟩ :=
    frontRequest_eq_some_iff.1 (hreqs next List.mem_cons_self : frontRequest next = some next)
  rw [List.flatten_cons] at h
  have hend : next.length = i + 4 := by
    have hle : i + 4 ≤ next.length := find_add_length_le hi
    have := congrArg List.length hnext
    rw [List.length_take] at this
    omega
  constructor
  · rw [frontFrame, if_neg]
    intro hdollar
    obtain ⟨tail, rfl⟩ := List.head?_eq_some_iff.1 hdollar
    obtain ⟨c, cs, rfl⟩ := List.exists_cons_of_ne_nil hne
    obtain ⟨rfl, -⟩ := List.cons_prefix_cons.1 h
    exact hhead rfl
  · intro req hreq
    obtain ⟨-, -, j, hj, rfl⟩ := frontRequest_eq_some_iff.1 hreq
    obtain ⟨more, hmore⟩ := h
    have hj' := find_append hj more
    rw [hmore, find_append hi] at hj'
    obtain rfl : i = j := Option.some.inj hj'
    refine ⟨rest, ?_⟩
    have hlen : i + 4 ≤ buf.length := find_add_length_le hj
    have htake := congrArg (List.take (i + 4)) hmore
    rw [List.take_append_of_le_length hlen, ← hend, List.take_left] at htake
    rw [← hend, htake]

/-! ## What is forwarded -/

variable {s t : RtspToRtspClient} {cfg : ServerConfig} {e : Event} {received : Bytes}

/-- A message forwards a request: its transport may have been replaced, and its URI is
    rewritten. -/
def Forwards (s : RtspToRtspClient) (req : Bytes) (p : Pushed) : Prop :=
  (p.source = req ∨ ∃ value, p.source = replaceHeader req (ascii "Transport") value) ∧
    p.text = s.rewriteRequestForUpstream p.source

/-- The message forwards a request that the session was not started with. -/
def isForwarded (p : Pushed) : Bool := p.origin = .client || p.origin = .released

/-- The messages that forward requests. -/
def forwarded (s : RtspToRtspClient) : List Pushed := s.pushed.filter isForwarded

/-- The `SETUP` that is held back, if there is one. -/
def held (s : RtspToRtspClient) : List Bytes :=
  if s.pendingSetupReq = [] then [] else [s.pendingSetupReq]

theorem source_patchTransportForUpstream (req : Bytes) :
    (s.patchTransportForUpstream cfg req).2 = req ∨
      ∃ value, (s.patchTransportForUpstream cfg req).2 =
        replaceHeader req (ascii "Transport") value := by
  unfold patchTransportForUpstream
  dsimp only
  split
  · exact .inl rfl
  · exact .inr ⟨_, rfl⟩

/-- A request of the client that is pushed at once is forwarded. -/
theorem forwards_clientPush (ports : RelayPorts) (req : Bytes) :
    s.Forwards req (s.clientPush (s.patchedRequest cfg ports req)) := by
  refine ⟨?_, rfl⟩
  show s.patchedRequest cfg ports req = req ∨ _
  rw [patchedRequest]
  split
  · exact source_patchTransportForUpstream req
  · exact .inl rfl

/-- So is the `SETUP` that is released. -/
theorem forwards_releasedPush (data : Bytes) :
    s.Forwards s.pendingSetupReq (s.releasedPush cfg data) :=
  ⟨source_patchTransportForUpstream (s := { s with natWanPortUs := s.mappedPort data })
    s.pendingSetupReq, rfl⟩

theorem forwards_of_step (h : step cfg s e = .ok t) : t.Forwards = s.Forwards := by
  obtain ⟨hpre, hbase⟩ := uris_of_step h
  funext req p
  rw [Forwards, Forwards, rewriteRequestForUpstream, rewriteRequestForUpstream, hpre, hbase]

theorem forwarded_of_step (h : step cfg s e = .ok t) :
    t.forwarded = s.forwarded ++ (s.pushesOf cfg e).filter isForwarded := by
  rw [forwarded, pushed_of_step h, List.filter_append]
  rfl

/-! ## Steps -/

/-- The bytes received from the client behind the first request. -/
def noteReceived (received : Bytes) (_ : RtspToRtspClient) :
    Event → RtspToRtspClient → Bytes
  | .receiveDownstream bytes, _ => received ++ bytes
  | _, _ => received

/-- A request is handled only while no `SETUP` is held back, and a `SETUP` only with ports to
    relay from. -/
def HandlesInTurn (s : RtspToRtspClient) : Event → Prop
  | .downstreamTurn ports =>
    ∀ req ∈ frontRequest s.downstreamRecvBuf,
      s.pendingSetupReq = [] ∧ ((ascii "SETUP ").isPrefixOf req → s.canRelay ports)
  | _ => True

instance (s : RtspToRtspClient) : ∀ e, Decidable (HandlesInTurn s e)
  | .downstreamTurn ports =>
    inferInstanceAs (Decidable (∀ req ∈ frontRequest s.downstreamRecvBuf,
      s.pendingSetupReq = [] ∧ ((ascii "SETUP ").isPrefixOf req → s.canRelay ports)))
  | .upstreamWritable _ | .upstreamTurn _ | .receiveDownstream _ | .sendDownstream _
  | .downstreamSent | .receiveUpstream _ | .rtpFromUpstream _ | .rtcpFromUpstream _
  | .rtpFromClient _ | .rtcpFromClient _ | .noDatagram | .stunReply _ | .timer | .close =>
    isTrue trivial

/-- While the connection to the upstream is made, nothing of the client is taken. -/
structure Untouched (s : RtspToRtspClient) (received : Bytes) : Prop where
  received : received = []
  forwarded : s.forwarded = []
  held : s.pendingSetupReq = []
  pendingPlay : s.pendingPlay = false

/-- The bytes received are the requests that have been forwarded, the one that is held back, and
    what has not been handled yet. -/
def Accounted (reqs : List Bytes) (s : RtspToRtspClient) (received : Bytes) : Prop :=
  ∃ done, done ++ s.held <+: reqs ∧
    received = (done ++ s.held).flatten ++ s.downstreamRecvBuf ∧
    List.Forall₂ s.Forwards done s.forwarded

/-- What is known of a session and of the bytes received, which start a sequence of requests. -/
structure InOrder (reqs : List Bytes) (s : RtspToRtspClient) (received : Bytes) : Prop where
  waiting : s.state = .waitStun → s.pendingSetupReq ≠ []
  connecting : s.state = .waitUpstreamConnect → s.Untouched received
  connected : s.state ≠ .waitUpstreamConnect → Accounted reqs s received

/-- Nothing of the client is taken up. When the connection to the upstream is made, the first
    request leaves the bytes of the client. -/
structure Quiet (c c' : Control) : Prop where
  pending : c'.pendingSetupReq = c.pendingSetupReq
  waiting : c'.state = .waitStun → c.state = .waitStun
  connecting : c.state = .waitUpstreamConnect →
    (c'.state = .waitUpstreamConnect ∧ c'.pendingPlay = c.pendingPlay) ∨
      (c'.state ≠ .waitUpstreamConnect ∧ c'.downstreamRecvBuf = [])
  connected : c.state ≠ .waitUpstreamConnect →
    c'.state ≠ .waitUpstreamConnect ∧ c'.downstreamRecvBuf = c.downstreamRecvBuf

theorem quiet_refl (c : Control) : Quiet c c :=
  ⟨rfl, id, fun h => .inl ⟨h, rfl⟩, fun h => ⟨h, rfl⟩⟩

theorem quiet_onUpstreamWritable (calls : UpstreamCalls) :
    Quiet s.control (s.onUpstreamWritable calls).control := by
  have hwait : ∀ b : Bool, ∀ state : RelayState, state ≠ .waitUpstreamConnect →
      (if b then .waitUpstreamResp else state) ≠ RelayState.waitUpstreamConnect := by
    intro b state hstate
    cases b with
    | true => exact fun h => RelayState.noConfusion h
    | false => exact hstate
  rw [control_onUpstreamWritable]
  split
  case isTrue hconnecting =>
    split
    · exact quiet_refl _
    · refine ⟨rfl, fun h => ?_, fun _ => .inr ⟨?_, rfl⟩, fun h => absurd hconnecting h⟩
      · split at h <;> cases h
      · exact hwait _ _ fun h => RelayState.noConfusion h
  case isFalse hconnected =>
    refine ⟨rfl, fun h => ?_, fun h => absurd h hconnected, fun h => ⟨hwait _ _ h, rfl⟩⟩
    split at h
    · cases h
    · exact h

/-- A step that takes nothing up keeps the account. -/
theorem InOrder.quiet (h : InOrder reqs s received) (hst : step cfg s e = .ok t)
    (hpushes : (s.pushesOf cfg e).filter isForwarded = [])
    (hquiet : Quiet s.control t.control) : InOrder reqs t received := by
  have hforwarded : t.forwarded = s.forwarded := by
    rw [forwarded_of_step hst, hpushes, List.append_nil]
  have hpending : t.pendingSetupReq = s.pendingSetupReq := hquiet.pending
  refine ⟨fun hstate => hpending ▸ h.waiting (hquiet.waiting hstate), fun hstate => ?_,
    fun hstate => ?_⟩
  · by_cases hconnecting : s.state = .waitUpstreamConnect
    · rcases hquiet.connecting hconnecting with ⟨_, hplay⟩ | ⟨hno, _⟩
      · obtain ⟨hreceived, hnone, hheld, hno⟩ := h.connecting hconnecting
        exact ⟨hreceived, hforwarded.trans hnone, hpending.trans hheld, Eq.trans hplay hno⟩
      · exact absurd hstate hno
    · exact absurd hstate (hquiet.connected hconnecting).1
  · by_cases hconnecting : s.state = .waitUpstreamConnect
    · rcases hquiet.connecting hconnecting with ⟨hno, _⟩ | ⟨_, hbuf⟩
      · exact absurd hno hstate
      · -- the connection has been made
        obtain ⟨rfl, hnone, hheld, _⟩ := h.connecting hconnecting
        have hbuf' : t.downstreamRecvBuf = [] := hbuf
        refine ⟨[], ?_, ?_, ?_⟩
        · simp [held, hpending, hheld]
        · simp [held, hpending, hheld, hbuf']
        · rw [hforwarded, hnone]
          exact .nil
    · obtain ⟨done, hpre, hreceived, hall⟩ := h.connected hconnecting
      have hheld : t.held = s.held := by rw [held, held, hpending]
      have hbuf : t.downstreamRecvBuf = s.downstreamRecvBuf := (hquiet.connected hconnecting).2
      refine ⟨done, hheld ▸ hpre, ?_, ?_⟩
      · rw [hheld, hbuf]
        exact hreceived
      · rw [forwards_of_step hst, hforwarded]
        exact hall

/-- A request that is held back though there are ports for it waits for the STUN server; any other
    one leaves what is waited for. -/
theorem control_request_cases {ports : RelayPorts} {c : Control}
    (hrelay : (ascii "SETUP ").isPrefixOf req → s.canRelay ports) :
    (s.holdsBack cfg ports req = true ∧ c.request cfg (s.canRelay ports) req =
      { c with relayReady := true, state := .waitStun, pendingSetupReq := req }) ∨
    (s.holdsBack cfg ports req = false ∧
      (c.request cfg (s.canRelay ports) req).pendingSetupReq = c.pendingSetupReq ∧
      (c.request cfg (s.canRelay ports) req).state = c.state) := by
  rw [Control.request, holdsBack]
  by_cases hsetup : (ascii "SETUP ").isPrefixOf req = true
  · rw [if_pos hsetup, hsetup, hrelay hsetup]
    cases cfg.usesStun with
    | true => exact .inl ⟨rfl, rfl⟩
    | false => exact .inr ⟨rfl, rfl, rfl⟩
  · rw [if_neg hsetup, Bool.eq_false_of_not_eq_true hsetup]
    exact .inr ⟨rfl, rfl, rfl⟩

/-- A request that is handled in turn is held back, or forwarded. -/
theorem InOrder.request {ports : RelayPorts} (h : InOrder reqs s received)
    (hreqs : ∀ req ∈ reqs, IsRequest req) (hpre : received <+: reqs.flatten)
    (hconnected : s.state ≠ .waitUpstreamConnect) (hturn : s.HandlesInTurn (.downstreamTurn ports))
    (hst : step cfg s (.downstreamTurn ports) = .ok t) : InOrder reqs t received := by
  obtain ⟨done, ⟨rest, hrest⟩, hreceived, hall⟩ := h.connected hconnected
  have hbuf : s.downstreamRecvBuf <+: rest.flatten := by
    have hflat : reqs.flatten = (done ++ s.held).flatten ++ rest.flatten := by
      rw [← hrest, List.flatten_append]
    rw [hreceived, hflat] at hpre
    exact (List.prefix_append_right_inj _).1 hpre
  obtain ⟨hframe, hfront⟩ := front_of_prefix
    (fun req hreq => hreqs req (hrest ▸ List.mem_append_right _ hreq)) hbuf
  have hcontrol := control_of_step hst
  rw [controlAfter, hframe] at hcontrol
  rcases hnext : frontRequest s.downstreamRecvBuf with _ | req
  · refine h.quiet hst ?_ ?_
    · rw [pushesOf, hnext]
      rfl
    · rw [hnext] at hcontrol
      rw [hcontrol]
      exact quiet_refl _
  obtain ⟨rest, rfl⟩ := hfront req hnext
  rw [hnext] at hcontrol
  replace hcontrol : t.control =
    (s.skipDownstream req.length).control.request cfg (s.canRelay ports) req := hcontrol
  obtain ⟨hpending, hrelay⟩ := hturn req hnext
  obtain ⟨hne, -, i, hi, htake⟩ := frontRequest_eq_some_iff.1 hnext
  have hheld : s.held = [] := if_pos hpending
  rw [hheld, List.append_nil] at hrest hreceived
  have hsplit : s.downstreamRecvBuf = req ++ s.downstreamRecvBuf.drop req.length := by
    have hlen : req.length = i + 4 := by
      have hle : i + 4 ≤ s.downstreamRecvBuf.length := find_add_length_le hi
      rw [htake, List.length_take, Nat.min_eq_left hle]
    rw [hlen]
    nth_rewrite 1 [htake]
    exact (List.take_append_drop _ _).symm
  have hreceived' : received = (done ++ [req]).flatten ++ s.downstreamRecvBuf.drop req.length := by
    rw [hreceived, List.flatten_append, List.flatten_singleton, List.append_assoc, ← hsplit]
  have hpre' : done ++ [req] <+: reqs := ⟨rest, by rw [← hrest]; simp⟩
  have hpushes : s.pushesOf cfg (.downstreamTurn ports) = s.requestPushes cfg ports req := by
    rw [pushesOf, hnext]
    rfl
  have hforwarded := forwarded_of_step hst
  rw [hpushes, requestPushes] at hforwarded
  have hbuf' : t.downstreamRecvBuf = s.downstreamRecvBuf.drop req.length :=
    (congrArg Control.downstreamRecvBuf hcontrol).trans Control.downstreamRecvBuf_request
  rcases @control_request_cases req s cfg ports (s.skipDownstream req.length).control hrelay with
    ⟨hholds, hrequest⟩ | ⟨hholds, hkept, hstate'⟩
  · -- a `SETUP`, and the STUN server is asked first
    rw [hrequest] at hcontrol
    rw [hholds, if_pos rfl, List.filter_nil, List.append_nil] at hforwarded
    have hpending' : t.pendingSetupReq = req := congrArg Control.pendingSetupReq hcontrol
    have hstate' : t.state = .waitStun := congrArg Control.state hcontrol
    have hreq : req ≠ [] :=
      (frontRequest_eq_some_iff.1 (hreqs req (hrest ▸ by simp) : frontRequest req = some req)).1
    have hheld' : t.held = [req] := by rw [held, hpending', if_neg hreq]
    refine ⟨fun _ => hpending' ▸ hreq, fun hstate => ?_, fun _ => ⟨done, ?_, ?_, ?_⟩⟩
    · rw [hstate'] at hstate
      cases hstate
    · rwa [hheld']
    · rwa [hheld', hbuf']
    · rw [forwards_of_step hst, hforwarded]
      exact hall
  · -- the request is pushed
    rw [hholds] at hforwarded
    rw [← hcontrol] at hkept hstate'
    have hkept : t.pendingSetupReq = [] := Eq.trans hkept hpending
    have hstate' : t.state = s.state := hstate'
    refine ⟨fun hstate => ?_, fun hstate => ?_, fun _ => ⟨done ++ [req], ?_, ?_, ?_⟩⟩
    · exact absurd hpending (h.waiting (hstate' ▸ hstate))
    · exact absurd (hstate' ▸ hstate) hconnected
    · rwa [held, hkept, if_pos rfl, List.append_nil]
    · rwa [held, hkept, if_pos rfl, List.append_nil, hbuf']
    · rw [forwards_of_step hst, hforwarded]
      exact List.rel_append hall (.cons (forwards_clientPush ports req) .nil)

/-- The `SETUP` that is held back is forwarded with the reply of the STUN server. -/
theorem InOrder.release {d : Incoming} (h : InOrder reqs s received) (hstate : s.state = .waitStun)
    (hst : step cfg s (.stunReply d) = .ok t) : InOrder reqs t received := by
  have hcontrol := control_of_step hst
  rw [controlAfter] at hcontrol
  by_cases hempty : s.received d = []
  · rw [if_pos hempty] at hcontrol
    refine h.quiet hst ?_ (hcontrol ▸ quiet_refl _)
    rw [pushesOf, if_pos hempty]
    rfl
  rw [if_neg hempty] at hcontrol
  have hconnected : s.state ≠ .waitUpstreamConnect := by
    rw [hstate]
    exact fun h => RelayState.noConfusion h
  obtain ⟨done, hdone, hreceived, hall⟩ := h.connected hconnected
  have hheld : s.held = [s.pendingSetupReq] := if_neg (h.waiting hstate)
  rw [hheld] at hdone hreceived
  have hidle : t.state = .idle := congrArg Control.state hcontrol
  have hheld' : t.held = [] := if_pos (congrArg Control.pendingSetupReq hcontrol)
  have hbuf : t.downstreamRecvBuf = s.downstreamRecvBuf :=
    congrArg Control.downstreamRecvBuf hcontrol
  refine ⟨fun hwait => ?_, fun hconnecting => ?_,
    fun _ => ⟨done ++ [s.pendingSetupReq], ?_, ?_, ?_⟩⟩
  · rw [hidle] at hwait
    cases hwait
  · rw [hidle] at hconnecting
    cases hconnecting
  · rwa [hheld', List.append_nil]
  · rwa [hheld', List.append_nil, hbuf]
  · rw [forwards_of_step hst, forwarded_of_step hst, pushesOf, if_neg hempty]
    exact List.rel_append hall (.cons (forwards_releasedPush _) .nil)

/-- Bytes of the client are received. -/
theorem InOrder.receive {bytes : Bytes} (h : InOrder reqs s received)
    (hconnected : s.state ≠ .waitUpstreamConnect)
    (hst : step cfg s (.receiveDownstream bytes) = .ok t) : InOrder reqs t (received ++ bytes) := by
  cases hst
  obtain ⟨done, hdone, hreceived, hall⟩ := h.connected hconnected
  refine ⟨h.waiting, fun hconnecting => absurd hconnecting hconnected,
    fun _ => ⟨done, hdone, ?_, hall⟩⟩
  rw [hreceived, List.append_assoc]
  rfl

/-- Nothing is taken up with a message of the upstream, if no `PLAY` is outstanding while the
    connection is made. -/
theorem quiet_upstreamTurn {calls : UpstreamCalls}
    (hconnecting : s.state = .waitUpstreamConnect → s.pendingPlay = false) :
    Quiet s.control (s.controlAfter cfg (.upstreamTurn calls)) := by
  have hskip : ∀ n, Quiet s.control (s.skipUpstream n).control :=
    fun _ => ⟨rfl, id, fun h => .inl ⟨h, rfl⟩, fun h => ⟨h, rfl⟩⟩
  rw [controlAfter]
  split
  · exact hskip _
  split
  case h_1 msg _ =>
    extract_lets u
    split
    · exact hskip _
    split
    · have hretry := quiet_onUpstreamWritable (s := (u.learnSession msg).retrying) calls
      rw [control_retrying_learnSession] at hretry
      exact ⟨hretry.pending, hretry.waiting, hretry.connecting, hretry.connected⟩
    split
    case isTrue hplay =>
      refine ⟨rfl, fun hwait => RelayState.noConfusion hwait, fun hstate => ?_, fun _ => ?_⟩
      · rw [hconnecting hstate, Bool.and_false] at hplay
        cases hplay
      · exact ⟨fun hconnecting => RelayState.noConfusion hconnecting, rfl⟩
    case isFalse => exact hskip _
  case h_2 => exact quiet_refl _

theorem filter_retryPushes (calls : UpstreamCalls) (resp : Bytes) :
    (s.retryPushes calls resp).filter isForwarded = [] := by
  rw [retryPushes]
  split
  · cases s.pushesFirst calls <;> rfl
  · rfl

/-- A step keeps the account of the requests. -/
theorem InOrder.step (h : InOrder reqs s received) (hreqs : ∀ req ∈ reqs, IsRequest req)
    (hpre : received <+: reqs.flatten) (hen : Enabled cfg s e) (hturn : s.HandlesInTurn e)
    (hst : step cfg s e = .ok t) : InOrder reqs t (noteReceived received s e t) := by
  have hcontrol := control_of_step hst
  cases e with
  | receiveDownstream bytes => exact h.receive hen.1 hst
  | downstreamTurn ports => exact h.request hreqs hpre hen hturn hst
  | stunReply d => exact h.release hen.2.2.2 hst
  | upstreamTurn calls =>
    have hplay : s.state = .waitUpstreamConnect → s.pendingPlay = false :=
      fun hconnecting => (h.connecting hconnecting).pendingPlay
    refine h.quiet hst ?_ (hcontrol ▸ quiet_upstreamTurn hplay)
    rw [pushesOf]
    rcases frontMessage s.upstreamRecvBuf with _ | msg
    · rfl
    · exact filter_retryPushes calls msg
  | upstreamWritable calls =>
    refine h.quiet hst ?_ (hcontrol ▸ quiet_onUpstreamWritable calls)
    rw [pushesOf]
    cases s.pushesFirst calls <;> rfl
  | receiveUpstream bytes =>
    exact h.quiet hst rfl
      (hcontrol ▸ ⟨rfl, id, fun h => .inl ⟨h, rfl⟩, fun h => ⟨h, rfl⟩⟩)
  | _ => exact h.quiet hst rfl (hcontrol ▸ quiet_refl _)

theorem prefix_noteReceived (received : Bytes) (s t : RtspToRtspClient) (e : Event) :
    received <+: noteReceived received s e t := by
  cases e with
  | receiveDownstream bytes => exact List.prefix_append _ _
  | _ => exact List.prefix_rfl

/-! ## Runs -/

/-- In a run that handles the requests of the client in turn, those that have been forwarded are
    the first of those received, each once and in their order. -/
theorem forwarded_of_run (hs : Started cfg s) (hreqs : ∀ req ∈ reqs, IsRequest req)
    (h : NotedRun cfg noteReceived (fun x e => x.1.HandlesInTurn e) (s, []) (t, received))
    (hpre : received <+: reqs.flatten) :
    ∃ taken, taken <+: reqs ∧ taken.flatten <+: received ∧
      List.Forall₂ t.Forwards taken t.forwarded := by
  have hinv := notedRun_invariant (P := fun x => x.2 <+: reqs.flatten → InOrder reqs x.1 x.2)
    (fun u c e v hu hen hturn hst hpre =>
      have hc := (prefix_noteReceived c u v e).trans hpre
      (hu hc).step hreqs hc hen hturn hst) h ?_ hpre
  · obtain ⟨-, hconnecting, hconnected⟩ := hinv
    by_cases hstate : t.state = .waitUpstreamConnect
    · refine ⟨[], List.nil_prefix, List.nil_prefix, ?_⟩
      rw [(hconnecting hstate).forwarded]
      exact .nil
    · obtain ⟨done, hdone, hreceived, hall⟩ := hconnected hstate
      refine ⟨done, (List.prefix_append _ _).trans hdone, ?_, hall⟩
      have hreceived : received = done.flatten ++ (t.held.flatten ++ t.downstreamRecvBuf) := by
        rw [← List.append_assoc, ← List.flatten_append]
        exact hreceived
      rw [hreceived]
      exact List.prefix_append _ _
  · intro _
    obtain ⟨_, _, _, _, _, _, _, _, _, rfl⟩ := hs
    exact ⟨fun hwait => RelayState.noConfusion hwait, fun _ => ⟨rfl, rfl, rfl, rfl⟩,
      fun hno => absurd rfl hno⟩

/-- The reply of the STUN server: it cannot be read, and the port of the relay is kept. -/
def stunReplyEvent : Event := .stunReply ⟨⟨⟨10, 0, 0, 7⟩, 3478⟩, [1]⟩

/-- A request that needs no answer from anyone else. -/
def optionsRequest : Bytes := ascii "OPTIONS * RTSP/1.0\r\nCSeq: 4\r\n\r\n"

theorem forwarded_of_run_released : ∃ t,
    notedEvents stunConfig noteReceived (fun x e => x.1.HandlesInTurn e) (stunSession, [])
      (connectEvent :: udpSetupEvents ++ [stunReplyEvent]) = some (t, udpSetup) ∧
    t.forwarded.map Pushed.origin = [.released] ∧
    ∃ taken, taken <+: [udpSetup, optionsRequest] ∧ taken.flatten <+: udpSetup ∧
      List.Forall₂ t.Forwards taken t.forwarded := by
  have hrun : (notedEvents stunConfig noteReceived (fun x e => x.1.HandlesInTurn e)
      (stunSession, []) (connectEvent :: udpSetupEvents ++ [stunReplyEvent])).map
        (fun x => (x.1.forwarded.map Pushed.origin, x.2)) = some ([.released], udpSetup) := by
    decide +kernel
  obtain ⟨⟨t, received⟩, ht, heq⟩ := Option.map_eq_some_iff.1 hrun
  obtain ⟨horigins, hreceived⟩ := Prod.mk.inj heq
  rw [show received = udpSetup from hreceived] at ht
  have hreqs : ∀ req ∈ [udpSetup, optionsRequest], IsRequest req := by decide +kernel
  exact ⟨t, ht, horigins, forwarded_of_run started_stunSession hreqs (notedRun_of_notedEvents ht)
    ⟨optionsRequest, by simp⟩⟩

/-- A request behind a `SETUP` that is held back overtakes it. -/
theorem overtaken_stun : ∃ t, Started stunConfig stunSession ∧
    NotedRun stunConfig noteReceived (fun _ _ => True) (stunSession, [])
      (t, [udpSetup, optionsRequest].flatten) ∧
    (∀ req ∈ [udpSetup, optionsRequest], IsRequest req) ∧
    ¬∃ taken, taken <+: [udpSetup, optionsRequest] ∧ List.Forall₂ t.Forwards taken t.forwarded := by
  have hrun : (notedEvents stunConfig noteReceived (fun _ _ => True) (stunSession, [])
      (connectEvent :: udpSetupEvents ++
        [.receiveDownstream optionsRequest, .downstreamTurn ⟨.failed 0, .failed 0⟩])).map
        (fun x => (x.1.forwarded.map Pushed.source, x.2)) =
          some ([optionsRequest], [udpSetup, optionsRequest].flatten) := by
    decide +kernel
  obtain ⟨⟨t, received⟩, ht, heq⟩ := Option.map_eq_some_iff.1 hrun
  obtain ⟨hsources, hreceived⟩ := Prod.mk.inj heq
  rw [show received = [udpSetup, optionsRequest].flatten from hreceived] at ht
  refine ⟨t, started_stunSession, notedRun_of_notedEvents ht, by decide +kernel, ?_⟩
  rintro ⟨taken, hpre, hall⟩
  obtain ⟨p, hforwarded, hsource⟩ := List.map_eq_singleton_iff.1 hsources
  rw [show t.forwarded = [p] from hforwarded] at hall
  obtain ⟨req, rest, hforwards, -, rfl⟩ := List.forall₂_cons_right_iff.1 hall
  obtain ⟨hreq, -⟩ := List.cons_prefix_cons.1 hpre
  rw [hreq] at hforwards
  -- both ways to forward the `SETUP` keep its first byte
  have hhead : p.source.head? = some 83 := by
    rcases hforwards.1 with hsame | ⟨value, hreplaced⟩
    · rw [hsame]
      decide +kernel
    · have hpos : RtspParser.headerPos udpSetup (ascii "Transport") = some 39 := by decide +kernel
      have hstop : findFrom crlf udpSetup 39 = some 79 := by decide +kernel
      rw [hreplaced, replaceHeader, hpos]
      simp only [hstop, replaceAt]
      have hfront : (udpSetup.take 39).head? = some 83 := by decide +kernel
      rw [List.append_assoc, List.head?_append, hfront]
      rfl
  rw [hsource] at hhead
  exact absurd hhead (by decide +kernel)

end RtspToRtspClient

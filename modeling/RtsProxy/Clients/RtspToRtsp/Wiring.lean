import RtsProxy.Clients.RtspToRtsp.Asides
import RtsProxy.Clients.RtspToRtsp.Runs

/-!
# The wiring of a relayed session

The two queues of a session and what its two connections are watched for
(`RtspToRtspClient.wiring`), together with the bytes that a step writes to the upstream
(`upstreamBytes`). There are five places that push to the upstream and one that writes to it,
but a step does one of few things to the wiring (`Rewired`).

* `onUpstreamWritable_cases`: the writer, which a reply may call as well;
* `wiring_of_step`: every step rewires a session in one of these ways.
-/

open Text Interleaved

/-- The queues towards the upstream and the client, the messages ever pushed to the upstream, and
    what the two connections are watched for. -/
structure Wiring where
  toUpstreamQ : List Bytes
  upstreamSendOffset : Nat
  pushed : List Pushed
  toDownstreamQ : SendQueue
  upstreamEvents : Interest
  downstreamEvents : Interest
  closed : Bool
  deriving DecidableEq

/-- Readable and writable. -/
def Interest.both : Interest := { readable := true, writable := true }

namespace Wiring

/-- A message is pushed to the upstream. -/
def push (p : Pushed) (w : Wiring) : Wiring :=
  { w with toUpstreamQ := w.toUpstreamQ ++ [p.text], pushed := w.pushed ++ [p] }

/-- A packet may be queued for the client, which is then to be written to. -/
inductive Framed (w : Wiring) : Wiring → Prop
  | kept : Framed w w
  | queued (q : SendQueue) :
      Framed w { w with toDownstreamQ := q, downstreamEvents := .both }

end Wiring

namespace RtspToRtspClient

/-- The wiring of a session. -/
def wiring (s : RtspToRtspClient) : Wiring :=
  { toUpstreamQ := s.toUpstreamQ, upstreamSendOffset := s.upstreamSendOffset, pushed := s.pushed
    toDownstreamQ := s.toDownstreamQ, upstreamEvents := s.upstreamEvents
    downstreamEvents := s.downstreamEvents, closed := s.closed }

variable {s t u : RtspToRtspClient} {cfg : ServerConfig} {e : Event}

/-! ## What is written -/

/-- The bytes of the front message that a `send` takes. -/
def sendBytes (r : SendResult) (s : RtspToRtspClient) : Bytes :=
  ((s.toUpstreamQ.headD []).drop s.upstreamSendOffset).take (s.upstreamTaken r)

/-- The bytes that the loop writes. -/
def drainBytes : List SendResult → RtspToRtspClient → Bytes
  | [], _ => []
  | r :: rs, s =>
    s.sendBytes r ++ match s.upstreamSendTurn r with
      | .leave _ => []
      | .again t => drainBytes rs t

/-- A session that is to write to the upstream: a connection that is made is taken over. -/
def readyToWrite (calls : UpstreamCalls) (s : RtspToRtspClient) : RtspToRtspClient :=
  if s.state = .waitUpstreamConnect then s.upstreamConnected calls.localName else s

/-- The connection to the upstream cannot be made. -/
def connectFails (calls : UpstreamCalls) (s : RtspToRtspClient) : Bool :=
  s.state = .waitUpstreamConnect && calls.connectFailed

/-- The bytes that `on_upstream_writable` writes. -/
def writableBytes (calls : UpstreamCalls) (s : RtspToRtspClient) : Bytes :=
  if s.connectFails calls then [] else drainBytes calls.sends (s.readyToWrite calls)

/-- A session whose last `SETUP` is to be tried again because of a reply. -/
def retryingAfter (msg : Bytes) (s : RtspToRtspClient) : RtspToRtspClient :=
  ((s.skipUpstream msg.length).learnSession msg).retrying

/-- The bytes that a step writes to the upstream. -/
def upstreamBytes (s : RtspToRtspClient) : Event → Bytes
  | .upstreamWritable calls => s.writableBytes calls
  | .upstreamTurn calls =>
    match frontMessage s.upstreamRecvBuf with
    | none => []
    | some msg =>
      if isKeepaliveReply msg then []
      else if s.wantsRetry msg then (s.retryingAfter msg).writableBytes calls else []
  | _ => []

/-! ## Writing to the upstream -/

/-- A loop that ends with a failure closes the session. -/
theorem closed_drainUpstream {sends : List SendResult} (h : (s.drainUpstream sends).1 = false) :
    (s.drainUpstream sends).2.closed = true := by
  induction sends generalizing s with
  | nil => cases h
  | cons r rs ih =>
    rw [drainUpstream] at h ⊢
    rcases hturn : s.upstreamSendTurn r with t | t
    · rw [hturn] at h
      dsimp only at h ⊢
      obtain ⟨hne, hnone, hfails⟩ : s.toUpstreamQ ≠ [] ∧ s.upstreamTaken r = 0 ∧
          r.wouldBlock = false := by
        simpa [upstreamSendFails, and_assoc] using h
      obtain ⟨msg, msgs, hq⟩ := List.exists_cons_of_ne_nil hne
      rw [upstreamSendTurn, hq] at hturn
      dsimp only at hturn
      rw [hnone, if_neg (Nat.lt_irrefl 0), hfails] at hturn
      cases hturn
      rfl
    · rw [hturn] at h
      exact ih h

/-- A loop does not reopen a session. -/
theorem opened_of_drainUpstream {sends : List SendResult}
    (h : (s.drainUpstream sends).2.closed = false) : s.closed = false := by
  induction sends generalizing s with
  | nil => exact h
  | cons r rs ih =>
    have hturn : (s.upstreamSendTurn r).state.closed = false → s.closed = false := by
      rw [upstreamSendTurn]
      split
      · exact id
      · split
        · dsimp only
          split <;> exact id
        · split
          · exact id
          · exact fun hclosed => Bool.noConfusion hclosed
    rw [drainUpstream] at h
    rcases hr : s.upstreamSendTurn r with t | t
    · rw [hr] at h hturn
      exact hturn h
    · rw [hr] at h hturn
      exact hturn (ih h)

/-- The connection cannot be made, or the loop ends well, or with a failure. -/
theorem onUpstreamWritable_cases (calls : UpstreamCalls) :
    (s.connectFails calls = true ∧ s.onUpstreamWritable calls = s.closeAll) ∨
    (s.connectFails calls = false ∧ ∃ v, v = (s.readyToWrite calls).drainUpstream calls.sends ∧
      ((v.1 = true ∧ s.onUpstreamWritable calls =
          { v.2 with upstreamEvents := { readable := true, writable := !v.2.toUpstreamQ.isEmpty } }) ∨
        (v.1 = false ∧ s.onUpstreamWritable calls = v.2))) := by
  rw [onUpstreamWritable]
  rcases hfails : s.connectFails calls with _ | _
  · rw [connectFails] at hfails
    refine .inr ⟨rfl, _, rfl, ?_⟩
    rw [hfails, if_neg Bool.false_ne_true]
    rcases hok : ((s.readyToWrite calls).drainUpstream calls.sends).1 with _ | _
    · exact .inr ⟨rfl, if_neg (hok ▸ Bool.false_ne_true)⟩
    · exact .inl ⟨rfl, if_pos hok⟩
  · rw [connectFails] at hfails
    rw [hfails, if_pos rfl]
    exact .inl ⟨rfl, rfl⟩

/-- What the connection changes: the first request is pushed, and the client is read from. -/
theorem wiring_upstreamConnected (localName : Option SockAddr) :
    (s.upstreamConnected localName).wiring =
      { if s.downstreamRecvBuf = [] then s.wiring else s.wiring.push s.firstPush with
        downstreamEvents := { readable := true } } := by
  unfold upstreamConnected
  rcases localName with _ | name
  all_goals
    dsimp only
    split <;> rfl

/-! ## Media -/

theorem wiring_relayToClient {channel : UInt8} {socket : RelaySocket} {dest : SockAddr}
    {account : Nat → RtspToRtspClient → RtspToRtspClient} {data : Bytes}
    (haccount : ∀ n u, (account n u).wiring = u.wiring) :
    s.wiring.Framed (s.relayToClient channel socket dest account data).wiring := by
  rw [relayToClient]
  split
  · rw [sendInterleavedDownstream]
    split
    · exact .kept
    · exact .queued _
  · split
    · exact .kept
    · rw [haccount]
      exact .kept

theorem wiring_handleInterleavedFromUpstream (channel : UInt8) (data : Bytes) :
    s.wiring.Framed (s.handleInterleavedFromUpstream cfg channel data).wiring := by
  unfold handleInterleavedFromUpstream
  split
  · extract_lets n out src u v
    show s.wiring.Framed v.wiring
    simp only [v]
    split
    · exact wiring_relayToClient (s := u) fun _ _ => rfl
    · exact .kept
  · split
    · exact wiring_relayToClient (s := { s with upstreamEst := s.upstreamEst + data.length })
        fun _ _ => rfl
    · exact .kept

theorem wiring_handleRtpFromUpstream (d : Incoming) :
    s.wiring.Framed (s.handleRtpFromUpstream cfg d).wiring := by
  unfold handleRtpFromUpstream
  extract_lets out src u
  split
  · exact wiring_relayToClient (s := u) fun _ _ => rfl
  · exact .kept

theorem wiring_handleRtcpFromUpstream (d : Incoming) :
    s.wiring.Framed (s.handleRtcpFromUpstream d).wiring :=
  wiring_relayToClient (s := s.countReceived d.payload.length) fun _ _ => rfl

theorem wiring_handleRtpFromClient (d : Incoming) :
    s.wiring.Framed (s.handleRtpFromClient d).wiring := by
  have hplain := congrArg wiring (plain_handleRtpFromClient (s := s) d)
  split at hplain
  all_goals
    have hkept : (s.handleRtpFromClient d).wiring = s.wiring := hplain
    rw [hkept]
    exact .kept

theorem wiring_handleRtcpFromClient (d : Incoming) :
    s.wiring.Framed (s.handleRtcpFromClient d).wiring := by
  have hplain := congrArg wiring (plain_handleRtcpFromClient (s := s) d)
  split at hplain
  all_goals
    have hkept : (s.handleRtcpFromClient d).wiring = s.wiring := hplain
    rw [hkept]
    exact .kept

/-- A turn over a datagram does to the wiring what its handler does. -/
theorem wiring_receiveTurn {handle : Incoming → RtspToRtspClient → RtspToRtspClient}
    (hhandle : ∀ d (u : RtspToRtspClient), u.wiring.Framed (handle d u).wiring) (d : Incoming) :
    s.wiring.Framed (receiveTurn handle d s).state.wiring := by
  unfold receiveTurn
  dsimp only
  split
  · exact .kept
  · have hframed := hhandle { d with payload := s.received d }
      { s with pool := s.pool.acquire.write (s.received d).length }
    exact hframed

/-! ## Steps -/

/-- What a step does to the wiring of a session, with the bytes it writes to the upstream. -/
inductive Rewired (s : RtspToRtspClient) : Bytes → Wiring → Prop
  /-- A packet may be queued for the client. -/
  | framed {w : Wiring} : s.wiring.Framed w → Rewired s [] w
  /-- A message is pushed to the upstream, which is then to be written to. -/
  | pushed (p : Pushed) : Rewired s [] { s.wiring.push p with upstreamEvents := .both }
  /-- The upstream is written to, by the session as it is or when it tries a `SETUP` again. -/
  | written (calls : UpstreamCalls) {u : RtspToRtspClient} : u.state = s.state →
      (u.wiring = s.wiring ∨ ∃ p, u.wiring = s.wiring.push p) →
      Rewired s (u.writableBytes calls) (u.onUpstreamWritable calls).wiring
  /-- The client takes some bytes, and may have taken all. -/
  | sent (q : SendQueue) : (s.toDownstreamQ.packets = [] → q.packets = []) →
      Rewired s [] { s.wiring with toDownstreamQ := q }
  | emptied : s.toDownstreamQ.packets = [] →
      Rewired s [] { s.wiring with downstreamEvents := { readable := true } }
  | closed : Rewired s [] { s.wiring with closed := true }

/-- Nothing is rewired. -/
theorem rewired_same {w : Wiring} (h : w = s.wiring) : Rewired s [] w := by
  rw [h]
  exact .framed .kept

/-- A message is pushed by a session that is wired in the same way. -/
theorem rewired_pushed (p : Pushed) (h : u.wiring = s.wiring) :
    Rewired s [] { u.wiring.push p with upstreamEvents := .both } := by
  rw [h]
  exact .pushed p

theorem rewired_forwardRequest (isPlay : Bool) (req : Bytes) (h : u.wiring = s.wiring) :
    Rewired s [] (u.forwardRequest isPlay req).wiring :=
  rewired_pushed (u.clientPush req) h

/-- A request is forwarded, or it is a `SETUP` that is held back or cannot be relayed. -/
theorem rewired_handleRequest {ports : RelayPorts} {req : Bytes} {r : Turn RtspToRtspClient}
    (hsame : s.wiring = t.wiring) (h : s.handleRequest cfg ports req = .ok r) :
    Rewired t [] r.state.wiring := by
  rw [handleRequest] at h
  split at h
  case isTrue =>
    obtain ⟨u, hu, h⟩ := Except.bind_eq_ok_iff.1 h
    have hlearnt : u.wiring = s.wiring := (congrArg wiring (unplaced_learnClientTransport hu) :)
    -- the session with its ports, whether they are there or not
    generalize hv : (if u.relayReady = true then (true, u) else u.initRelaySockets ports) = v at h
    have hports : v.2.wiring = t.wiring := by
      rw [← hv, ← hsame, ← hlearnt]
      split
      · rfl
      · exact (congrArg wiring (unplaced_initRelaySockets ports) :)
    rcases v with ⟨ready, v⟩
    dsimp only at h hports
    split at h
    · cases h
      have hclosed : v.closeAll.wiring = { t.wiring with closed := true } :=
        congrArg (fun w : Wiring => { w with closed := true }) hports
      exact hclosed ▸ .closed
    · split at h
      · cases h
        exact rewired_same hports
      · cases h
        have hpatched := congrArg wiring (@unplaced_patchTransportForUpstream
          { v with relayReady := true, lastSetupReq := req } cfg req)
        exact rewired_forwardRequest false _ (hpatched.trans hports)
  case isFalse =>
    cases h
    exact rewired_forwardRequest _ req hsame

/-- The `SETUP` that was held back is pushed. -/
theorem rewired_processPendingSetup (hsame : s.wiring = t.wiring) :
    Rewired t [] (s.processPendingSetup cfg).wiring := by
  unfold processPendingSetup
  extract_lets req v
  have hpatched : (v.patchTransportForUpstream cfg req).1.wiring = t.wiring :=
    ((congrArg wiring (unplaced_patchTransportForUpstream (s := v) req) :)).trans hsame
  generalize v.patchTransportForUpstream cfg req = w at hpatched
  exact rewired_pushed ⟨.released, w.2, w.1.rewriteRequestForUpstream w.2⟩ hpatched

/-- A reply is swallowed, makes the last `SETUP` be tried again, or is queued. -/
theorem rewired_handleResponse {calls : UpstreamCalls} {resp : Bytes}
    (hresp : frontMessage s.upstreamRecvBuf = some resp)
    (h : (s.skipUpstream resp.length).handleResponse cfg calls resp = .ok t) :
    Rewired s (s.upstreamBytes (.upstreamTurn calls)) t.wiring := by
  rw [upstreamBytes, hresp]
  dsimp only
  rcases handleResponse_cases h with ⟨hka, rfl⟩ | ⟨hka, hretry, rfl⟩ |
    ⟨hka, hretry, u, v, patched, hu, hv, rfl⟩
  · rw [hka, if_pos rfl]
    exact .framed .kept
  · have hwants : s.wantsRetry resp = true := hretry
    have hlearnt : ((s.skipUpstream resp.length).learnSession resp).wiring = s.wiring :=
      (congrArg wiring (plain_learnSession (s := s.skipUpstream resp.length) resp) :)
    have hstate : ((s.skipUpstream resp.length).learnSession resp).state = s.state :=
      (congrArg state (plain_learnSession (s := s.skipUpstream resp.length) resp) :)
    rw [hka, hwants, if_neg Bool.false_ne_true, if_pos rfl]
    refine .written calls (u := s.retryingAfter resp) hstate
      (.inr ⟨((s.skipUpstream resp.length).learnSession resp).retryPush, ?_⟩)
    rw [← hlearnt]
    rfl
  · have hwants : s.wantsRetry resp = false := hretry
    rw [hka, hwants, if_neg Bool.false_ne_true, if_neg Bool.false_ne_true]
    have hpatched : v.wiring = s.wiring := (congrArg wiring (plain_patched hu hv) :)
    have hstarted : (v.startStreaming cfg resp).wiring = s.wiring := by
      have hplain := congrArg wiring (@plain_startStreaming v cfg resp)
      split at hplain
      · exact hplain.trans hpatched
      · exact hplain.trans hpatched
    have hqueued : ((v.startStreaming cfg resp).queueResponse patched).wiring =
        { (v.startStreaming cfg resp).wiring with
          toDownstreamQ := ((v.startStreaming cfg resp).queueResponse patched).toDownstreamQ
          downstreamEvents := .both } := rfl
    rw [hqueued, hstarted]
    exact .framed (.queued _)

/-- Every step rewires a session in one of these ways. -/
theorem wiring_of_step (h : step cfg s e = .ok t) : Rewired s (s.upstreamBytes e) t.wiring := by
  cases e with
  | downstreamTurn ports =>
    obtain ⟨r, hr, rfl⟩ := Except.map_eq_ok_iff.1 h
    rcases downstreamTurn_cases hr with ⟨rfl, -, -⟩ | ⟨channel, data, -, rfl⟩ | ⟨req, -, hr⟩
    · exact .framed .kept
    · refine rewired_same ?_
      exact (congrArg wiring (plain_handleInterleavedFromClient (s := s) channel data) :)
    · exact rewired_handleRequest (s := s.skipDownstream req.length) rfl hr
  | upstreamTurn calls =>
    obtain ⟨r, hr, rfl⟩ := Except.map_eq_ok_iff.1 h
    rcases upstreamTurn_cases hr with ⟨rfl, -, hm⟩ | ⟨channel, data, hf, rfl⟩ | ⟨msg, u, -, hm, hu, rfl⟩
    · rw [upstreamBytes, hm]
      exact .framed .kept
    · rw [upstreamBytes, frontMessage_of_frontFrame hf]
      exact .framed (wiring_handleInterleavedFromUpstream channel data)
    · exact rewired_handleResponse hm hu
  | upstreamWritable calls =>
    cases h
    exact .written calls rfl (.inl rfl)
  | sendDownstream r =>
    cases h
    show Rewired s [] (s.downstreamSendTurn r).state.wiring
    rw [downstreamSendTurn]
    rcases hq : s.toDownstreamQ.packets with _ | ⟨p, ps⟩
    · exact .framed .kept
    · dsimp only
      split
      · exact .sent _ fun hnil => by cases hq.symm.trans hnil
      · split
        · exact .framed .kept
        · exact .closed
  | downstreamSent =>
    cases h
    show Rewired s [] (s.onDownstreamWritable []).wiring
    rw [onDownstreamWritable, drainDownstream]
    split
    case isTrue hempty => exact .emptied hempty
    case isFalse => exact .framed .kept
  | rtpFromUpstream d =>
    cases h
    exact .framed (wiring_receiveTurn (fun _ _ => wiring_handleRtpFromUpstream _) d)
  | rtcpFromUpstream d =>
    cases h
    exact .framed (wiring_receiveTurn (fun _ _ => wiring_handleRtcpFromUpstream _) d)
  | rtpFromClient d =>
    cases h
    exact .framed (wiring_receiveTurn (fun _ _ => wiring_handleRtpFromClient _) d)
  | rtcpFromClient d =>
    cases h
    exact .framed (wiring_receiveTurn (fun _ _ => wiring_handleRtcpFromClient _) d)
  | stunReply d =>
    cases h
    show Rewired s [] (s.handleStunReply cfg d).wiring
    unfold handleStunReply
    extract_lets data v port w
    show Rewired s [] w.wiring
    simp only [w]
    split
    · exact .framed .kept
    · exact rewired_processPendingSetup (s := { v with natWanPortUs := port, state := .idle }) rfl
  | timer =>
    cases h
    exact .pushed s.keepalivePush
  | close =>
    cases h
    exact .closed
  | receiveDownstream _ | receiveUpstream _ | noDatagram =>
    cases h
    exact .framed .kept

end RtspToRtspClient

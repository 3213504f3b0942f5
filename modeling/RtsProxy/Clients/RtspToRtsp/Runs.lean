import RtsProxy.Clients.RtspToRtsp.Control

/-!
# Runs of a relayed RTSP session

A run is a sequence of steps. A step is one turn of a loop of a handler, or a handler that
has no loop, with the results of its system calls (`Event`); a step that throws ends the
program and leads nowhere. Beside a run something may be noted down that the session itself
forgets (`NotedRun`). What the handlers do as a whole is a run
(`run_of_onDownstreamReadable`, `run_of_onUpstreamReadable`, `run_of_onDownstreamWritable`,
`run_of_receiveAll`).
-/

open Text Interleaved

namespace RtspToRtspClient

/-- A step, with what the system calls return in it. -/
inductive Event
  /-- Bytes of the client are received, and a turn of the loop over them. -/
  | receiveDownstream (bytes : Bytes)
  | downstreamTurn (ports : RelayPorts)
  /-- The front packet is offered to the client, and the end of that loop. -/
  | sendDownstream (r : SendResult)
  | downstreamSent
  /-- Bytes of the upstream are received, and a turn of the loop over them. -/
  | receiveUpstream (bytes : Bytes)
  | upstreamTurn (calls : UpstreamCalls)
  | upstreamWritable (calls : UpstreamCalls)
  /-- Datagrams, and the end of a loop over them. -/
  | rtpFromUpstream (d : Incoming)
  | rtcpFromUpstream (d : Incoming)
  | rtpFromClient (d : Incoming)
  | rtcpFromClient (d : Incoming)
  | noDatagram
  | stunReply (d : Incoming)
  | timer
  | close
  deriving DecidableEq, Repr

/-- The result of a step. -/
def step (cfg : ServerConfig) (s : RtspToRtspClient) : Event → Except Exn RtspToRtspClient
  | .receiveDownstream bytes => .ok { s with downstreamRecvBuf := s.downstreamRecvBuf ++ bytes }
  | .downstreamTurn ports => (s.downstreamTurn cfg ports).map Turn.state
  | .sendDownstream r => .ok (s.downstreamSendTurn r).state
  | .downstreamSent => .ok (s.onDownstreamWritable [])
  | .receiveUpstream bytes => .ok { s with upstreamRecvBuf := s.upstreamRecvBuf ++ bytes }
  | .upstreamTurn calls => (s.upstreamTurn cfg calls).map Turn.state
  | .upstreamWritable calls => .ok (s.onUpstreamWritable calls)
  | .rtpFromUpstream d => .ok (receiveTurn (handleRtpFromUpstream cfg) d s).state
  | .rtcpFromUpstream d => .ok (receiveTurn handleRtcpFromUpstream d s).state
  | .rtpFromClient d => .ok (receiveTurn handleRtpFromClient d s).state
  | .rtcpFromClient d => .ok (receiveTurn handleRtcpFromClient d s).state
  | .noDatagram => .ok (receiveAll handleRtpFromClient [] s)
  | .stunReply d => .ok (s.handleStunReply cfg d)
  | .timer => .ok s.handleTimer
  | .close => .ok s.closeAll

/-- The most bytes read from a connection at once. -/
def recvLimit : Nat := 8191

/-- The most bytes in a datagram. -/
def datagramLimit : Nat := 65507

/-- When a step can take place: the client is read from once the upstream is connected, the
    ports of the relay once they are bound. -/
def Enabled (cfg : ServerConfig) (s : RtspToRtspClient) : Event → Prop
  | .receiveDownstream bytes =>
    s.state ≠ .waitUpstreamConnect ∧ bytes ≠ [] ∧ bytes.length ≤ recvLimit
  | .downstreamTurn _ => s.state ≠ .waitUpstreamConnect
  | .receiveUpstream bytes => bytes ≠ [] ∧ bytes.length ≤ recvLimit
  | .rtpFromUpstream d =>
    s.relayReady ∧ d.payload.length ≤ datagramLimit ∧ ¬(cfg.usesStun ∧ s.state = .waitStun)
  | .stunReply d =>
    s.relayReady ∧ d.payload.length ≤ datagramLimit ∧ cfg.usesStun ∧ s.state = .waitStun
  | .rtcpFromUpstream d | .rtpFromClient d | .rtcpFromClient d =>
    s.relayReady ∧ d.payload.length ≤ datagramLimit
  | .noDatagram => s.relayReady
  | .timer => s.timerArmed
  | _ => True

/-- A step from one session to another, from a state and with an event that meet a condition. -/
def Next (cfg : ServerConfig) (cond : RtspToRtspClient → Event → Prop)
    (s t : RtspToRtspClient) : Prop :=
  ∃ e, Enabled cfg s e ∧ cond s e ∧ step cfg s e = .ok t

/-- A run, all of whose steps meet a condition. -/
def Run (cfg : ServerConfig) (cond : RtspToRtspClient → Event → Prop) :
    RtspToRtspClient → RtspToRtspClient → Prop :=
  Relation.ReflTransGen (Next cfg cond)

/-- No condition. -/
def anyStep : RtspToRtspClient → Event → Prop := fun _ _ => True

variable {cfg : ServerConfig} {cond : RtspToRtspClient → Event → Prop} {s t : RtspToRtspClient}
  {e : Event}

/-- What steps keep, runs keep. -/
theorem run_invariant {P : RtspToRtspClient → Prop}
    (hstep : ∀ s e t, P s → Enabled cfg s e → cond s e → step cfg s e = .ok t → P t)
    (h : Run cfg cond s t) (hs : P s) : P t := by
  induction h with
  | refl => exact hs
  | tail _ hnext ih =>
    obtain ⟨e, hen, hcond, hst⟩ := hnext
    exact hstep _ e _ ih hen hcond hst

/-- A session as it is set up from the first request of a client, in a pool whose blocks have
    been kept to. -/
def Started (cfg : ServerConfig) (s : RtspToRtspClient) : Prop :=
  ∃ cal pool stats clientAddr localAddr config request, pool.InBounds ∧
    resolveUpstream cfg cal request = .ok (some config) ∧
    s = start cfg pool stats clientAddr localAddr config request

/-! ## Computing runs -/

instance (cfg : ServerConfig) (s : RtspToRtspClient) : ∀ e, Decidable (Enabled cfg s e)
  | .receiveDownstream _ | .downstreamTurn _ | .receiveUpstream _ | .rtpFromUpstream _
  | .stunReply _ | .rtcpFromUpstream _ | .rtpFromClient _ | .rtcpFromClient _ | .noDatagram
  | .timer => by unfold Enabled; infer_instance
  | .sendDownstream _ | .downstreamSent | .upstreamTurn _ | .upstreamWritable _ | .close =>
    isTrue trivial

/-- The session after a list of events, if each can take place, meets the condition and does
    not throw. -/
def runEvents (cfg : ServerConfig) (cond : RtspToRtspClient → Event → Prop)
    [∀ s e, Decidable (cond s e)] (s : RtspToRtspClient) : List Event → Option RtspToRtspClient
  | [] => some s
  | e :: es =>
    if Enabled cfg s e ∧ cond s e then
      match step cfg s e with
      | .ok t => runEvents cfg cond t es
      | .error _ => none
    else none

theorem run_of_runEvents [∀ s e, Decidable (cond s e)] {es : List Event}
    (h : runEvents cfg cond s es = some t) : Run cfg cond s t := by
  induction es generalizing s with
  | nil =>
    cases h
    exact .refl
  | cons e es ih =>
    unfold runEvents at h
    split at h
    case isTrue hen =>
      split at h
      case h_1 u hu => exact .head ⟨e, hen.1, hen.2, hu⟩ (ih h)
      case h_2 => cases h
    case isFalse => cases h

instance : ∀ s e, Decidable (anyStep s e) := fun _ _ => isTrue trivial

/-- A session set up for a path at `rtsp://10.0.0.9:554`, by the client `10.0.0.2` of the proxy
    `10.0.0.1:8554`, in a pool with the default size of blocks. -/
def sessionFor (cfg : ServerConfig) (uri path : Bytes) : RtspToRtspClient :=
  start cfg (.new 2048 1024) {} ⟨⟨10, 0, 0, 2⟩, 50000⟩ ⟨⟨10, 0, 0, 1⟩, 8554⟩
    { ctx := {
        rtspUrl := ascii "rtsp://10.0.0.9:554" ++ path, serverIp := ascii "10.0.0.9"
        serverRtspPort := 554, path := path }
      proxyUriPrefix := uri.take ((find path uri).getD 0)
      upstreamUriBase := ascii "rtsp://10.0.0.9:554" }
    (ascii "OPTIONS " ++ uri ++ ascii " RTSP/1.0\r\nCSeq: 1\r\n\r\n")

/-- The session for the path `/live`. -/
def liveSession : RtspToRtspClient :=
  sessionFor {} (ascii "rtsp://10.0.0.1:8554/rtp/10.0.0.9:554/live") (ascii "/live")

/-- The connection to the upstream is made. -/
def connectEvent : Event := .upstreamWritable { localName := some ⟨⟨10, 0, 0, 1⟩, 40000⟩ }

theorem started_liveSession : Started {} liveSession :=
  ⟨default, _, _, _, _, _, _, BufferPool.inBounds_new 2048 1024, by decide +kernel, rfl⟩

/-! ## Notes -/

section Noted

variable {γ : Type} {note : γ → RtspToRtspClient → Event → RtspToRtspClient → γ}
  {ncond : RtspToRtspClient × γ → Event → Prop} {x y : RtspToRtspClient × γ}

/-- A step of a session beside which something is noted down, from a session and a note that meet
    a condition with the event. -/
def NotedNext (cfg : ServerConfig) (note : γ → RtspToRtspClient → Event → RtspToRtspClient → γ)
    (ncond : RtspToRtspClient × γ → Event → Prop) (x y : RtspToRtspClient × γ) : Prop :=
  ∃ e, Enabled cfg x.1 e ∧ ncond x e ∧ step cfg x.1 e = .ok y.1 ∧ y.2 = note x.2 x.1 e y.1

/-- A run beside which something is noted down. -/
def NotedRun (cfg : ServerConfig) (note : γ → RtspToRtspClient → Event → RtspToRtspClient → γ)
    (ncond : RtspToRtspClient × γ → Event → Prop) :
    RtspToRtspClient × γ → RtspToRtspClient × γ → Prop :=
  Relation.ReflTransGen (NotedNext cfg note ncond)

/-- What steps keep of a session and the note, runs keep. -/
theorem notedRun_invariant {P : RtspToRtspClient × γ → Prop}
    (hstep : ∀ s c e t, P (s, c) → Enabled cfg s e → ncond (s, c) e → step cfg s e = .ok t →
      P (t, note c s e t))
    (h : NotedRun cfg note ncond x y) (hx : P x) : P y := by
  induction h with
  | refl => exact hx
  | @tail y z _ hnext ih =>
    obtain ⟨e, hen, hcond, hst, hnote⟩ := hnext
    have hz : z = (z.1, note y.2 y.1 e z.1) := Prod.ext rfl hnote
    rw [hz]
    exact hstep y.1 y.2 e z.1 ih hen hcond hst

/-- The session and the note after a list of events. -/
def notedEvents (cfg : ServerConfig) (note : γ → RtspToRtspClient → Event → RtspToRtspClient → γ)
    (ncond : RtspToRtspClient × γ → Event → Prop) [∀ x e, Decidable (ncond x e)]
    (x : RtspToRtspClient × γ) : List Event → Option (RtspToRtspClient × γ)
  | [] => some x
  | e :: es =>
    if Enabled cfg x.1 e ∧ ncond x e then
      match step cfg x.1 e with
      | .ok t => notedEvents cfg note ncond (t, note x.2 x.1 e t) es
      | .error _ => none
    else none

theorem notedRun_of_notedEvents [∀ x e, Decidable (ncond x e)] {es : List Event}
    (h : notedEvents cfg note ncond x es = some y) : NotedRun cfg note ncond x y := by
  induction es generalizing x with
  | nil =>
    cases h
    exact .refl
  | cons e es ih =>
    rw [notedEvents] at h
    split at h
    case isTrue hen =>
      split at h
      case h_1 t ht => exact .head ⟨e, hen.1, hen.2, ht, rfl⟩ (ih h)
      case h_2 => cases h
    case isFalse => cases h

end Noted

/-! ## Handlers as runs -/

theorem run_single (hen : Enabled cfg s e) (h : step cfg s e = .ok t) : Run cfg anyStep s t :=
  .single ⟨e, hen, trivial, h⟩

/-- A turn over the bytes of the client does not go back to connecting. -/
theorem state_downstreamTurn {ports : RelayPorts} {r : Turn RtspToRtspClient}
    (hs : s.state ≠ .waitUpstreamConnect) (h : s.downstreamTurn cfg ports = .ok r) :
    r.state.state ≠ .waitUpstreamConnect := by
  rcases downstreamTurn_cases h with ⟨rfl, _⟩ | ⟨channel, data, _, rfl⟩ | ⟨req, _, hreq⟩
  · exact hs
  · have hstate : (s.handleInterleavedFromClient channel data).state = s.state :=
      congrArg Control.state (control_handleInterleavedFromClient channel data)
    show (s.handleInterleavedFromClient channel data).state ≠ _
    rwa [hstate]
  · have hstate : r.state.state = _ := congrArg Control.state (control_handleRequest hreq)
    rw [hstate]
    exact Control.state_request (c := (s.skipDownstream req.length).control) hs

/-- A loop whose turns are steps is a run. -/
theorem run_of_loop {body : RtspToRtspClient → Except Exn (Turn RtspToRtspClient)} {e : Event}
    {P : RtspToRtspClient → Prop} (hbody : ∀ u, step cfg u e = (body u).map Turn.state)
    (hen : ∀ u, P u → Enabled cfg u e) (hkeep : ∀ u r, P u → body u = .ok r → P r.state)
    {turns : Nat} (hs : P s) (h : Loop.run body turns s = some (.ok t)) : Run cfg anyStep s t := by
  obtain ⟨u, hu, hleave⟩ := Loop.returns_iff.1 ⟨turns, h⟩
  have hPu : P u := Loop.reaches_invariant (fun v w hv hw => hkeep v (.again w) hv hw) hs hu
  have hlast : Run cfg anyStep u t :=
    run_single (hen u hPu) (by rw [hbody, hleave]; rfl)
  refine Relation.ReflTransGen.trans ?_ hlast
  clear hPu hlast hleave
  induction hu with
  | refl => exact .refl
  | tail hreach hagain ih =>
    have hP := Loop.reaches_invariant (fun v w hv hw => hkeep v (.again w) hv hw) hs hreach
    exact ih.tail ⟨e, hen _ hP, trivial, by
      rw [hbody, show body _ = .ok (.again _) from hagain]; rfl⟩

/-- Reading from the client is a run. -/
theorem run_of_onDownstreamReadable {ports : RelayPorts} {turns : Nat} {received : RecvResult}
    (hs : s.state ≠ .waitUpstreamConnect)
    (hreceived : ∀ bytes, received = .data bytes → bytes ≠ [] ∧ bytes.length ≤ recvLimit)
    (h : s.onDownstreamReadable cfg ports turns received = some (.ok t)) :
    Run cfg anyStep s t := by
  cases received with
  | data bytes =>
    refine (run_single (e := .receiveDownstream bytes) ⟨hs, hreceived bytes rfl⟩ rfl).trans ?_
    exact run_of_loop (e := .downstreamTurn ports) (P := fun u => u.state ≠ .waitUpstreamConnect)
      (fun _ => rfl) (fun _ hu => hu) (fun _ _ hu hr => state_downstreamTurn hu hr) hs h
  | endOfStream | failed =>
    cases h
    exact run_single (e := .close) trivial rfl
  | wouldBlock =>
    cases h
    exact .refl

/-- Reading from the upstream is a run. -/
theorem run_of_onUpstreamReadable {calls : UpstreamCalls} {turns : Nat} {received : RecvResult}
    (hreceived : ∀ bytes, received = .data bytes → bytes ≠ [] ∧ bytes.length ≤ recvLimit)
    (h : s.onUpstreamReadable cfg calls turns received = some (.ok t)) :
    Run cfg anyStep s t := by
  cases received with
  | data bytes =>
    refine (run_single (e := .receiveUpstream bytes) (hreceived bytes rfl) rfl).trans ?_
    exact run_of_loop (e := .upstreamTurn calls) (P := fun _ => True)
      (fun _ => rfl) (fun _ _ => trivial) (fun _ _ _ _ => trivial) trivial h
  | endOfStream | failed =>
    cases h
    exact run_single (e := .close) trivial rfl
  | wouldBlock =>
    cases h
    exact .refl

/-- Writing to the client is a run. -/
theorem run_of_onDownstreamWritable (sends : List SendResult) :
    Run cfg anyStep s (s.onDownstreamWritable sends) := by
  have hdrain : Run cfg anyStep s (s.drainDownstream sends) := by
    induction sends generalizing s with
    | nil => exact .refl
    | cons r rs ih =>
      have hturn : Run cfg anyStep s (s.downstreamSendTurn r).state :=
        run_single (e := .sendDownstream r) trivial rfl
      unfold drainDownstream
      split
      case h_1 u hu => rwa [hu] at hturn
      case h_2 u hu =>
        rw [hu] at hturn
        exact hturn.trans ih
  exact hdrain.trans (run_single (e := .downstreamSent) trivial rfl)

/-- A loop over datagrams is a run. -/
theorem run_of_receiveAll {handle : Incoming → RtspToRtspClient → RtspToRtspClient}
    {event : Incoming → Event} (hcontrol : ∀ d u, (handle d u).control = u.control)
    (hstep : ∀ d u, step cfg u (event d) = .ok (receiveTurn handle d u).state)
    {ds : List Incoming} (hen : ∀ d ∈ ds, ∀ u, u.control = s.control → Enabled cfg u (event d))
    (hready : s.relayReady = true) : Run cfg anyStep s (receiveAll handle ds s) := by
  induction ds generalizing s with
  | nil => exact run_single (e := .noDatagram) hready rfl
  | cons d ds ih =>
    have hturn : Run cfg anyStep s (receiveTurn handle d s).state :=
      run_single (hen d List.mem_cons_self s rfl) (hstep d s)
    have hkeep := control_receiveTurn (s := s) hcontrol d
    unfold receiveAll
    split
    case h_1 u hu => rwa [hu] at hturn
    case h_2 u hu =>
      rw [hu] at hturn hkeep
      refine hturn.trans (ih (fun d' hd' v hv => hen d' (List.mem_cons_of_mem _ hd') v
        (hv.trans hkeep)) ?_)
      exact (congrArg Control.relayReady hkeep).trans hready

end RtspToRtspClient

import RtsProxy.Clients.Process
import RtsProxy.Handlers.MasterHandle

/-!
# The descriptor of a connection

The handlers of a first request once more, for what they do with the descriptor of the client:
a session that is registered keeps it, an answer closes it, and so does the guard of a session
that cannot be created, or for which there is no room. An exception that leaves a handler leaves
`MasterHandle` as well.

* `settled_of_handleFd_iff`: when the descriptor gets one owner or is closed once;
* `sound_of_dispatchFd_iff`: when a registered HTTP session has something to wait for.
-/

open Text

/-- What the handlers work on: the event loop, and how often the descriptor of the connection has
    been closed. -/
structure Handling where
  loop : EpollLoop ProxyClient := {}
  closes : Nat := 0

namespace Handling

/-- The descriptor is closed. -/
def close (h : Handling) : Handling := { h with closes := h.closes + 1 }

/-- A session is registered. One for which there is no room is destroyed, and closes its
    descriptor. -/
def add (fd : Nat) (client : ProxyClient) (h : Handling) : Handling :=
  match h.loop.addClientToMap fd client with
  | (none, loop) => { h with loop := loop }
  | (some _, loop) => { h with loop := loop }.close

/-- The descriptor belongs to a new client, which is registered, and has not been closed; or it
    has been closed once, and nothing has been registered. -/
def Settled (fd : Nat) (loop : EpollLoop ProxyClient) (h : Handling) : Prop :=
  ((∃ client, h.loop = { loop with clientPtrMap := (fd, client) :: loop.clientPtrMap }) ∧
    h.closes = 0) ∨ (h.loop = loop ∧ h.closes = 1)

end Handling

/-- What is sent to the client can be made: the documents are written by the JSON library, which
    throws if there is a text in them that is no UTF-8. -/
def ApiHandle.Answer.isSent (renders : ApiHandle.Answer → Bool) (answer : ApiHandle.Answer) : Bool :=
  match answer with
  | .status _ | .logs => renders answer
  | _ => true

namespace ApiHandle

/-- `dispatch`: whether the request has been dealt with; every answer closes the descriptor. -/
def dispatchFd (renders : Answer → Bool) (env : Surroundings) (info : RequestInfo)
    (h : Handling) : Option (Bool × Handling) :=
  match dispatch env.server info with
  | none => some (false, h)
  | some answer => if answer.isSent renders then some (true, h.close) else none

end ApiHandle

/-- `RtspToHttpHandle::dispatch`: nothing is created that could fail. -/
def RtspToHttpHandle.dispatchFd (cfg : ServerConfig) (env : Surroundings) (fd : Nat)
    (info : RequestInfo) (h : Handling) : Bool × Handling :=
  match dispatch cfg env info with
  | some (.ok session) => (true, h.add fd (.http session))
  | _ => (false, h)

/-- `RtspToRtspHandle::dispatch`: the session owns the descriptor when its constructor throws. -/
def RtspToRtspHandle.dispatchFd (cfg : ServerConfig) (env : Surroundings) (fd : Nat)
    (info : RequestInfo) (rawRequest : Bytes) (h : Handling) : Bool × Handling :=
  match dispatch cfg env info rawRequest with
  | some (.ok session) => (true, h.add fd (.rtsp session))
  | some (.error .unreachable) => (false, h.close)
  | _ => (false, h)

namespace MasterHandle

/-- A parsed request is given to the handlers in turn; `none`: an exception leaves them. -/
def dispatchFd (renders : ApiHandle.Answer → Bool) (cfg : ServerConfig) (env : Surroundings)
    (fd : Nat) (req : Bytes) (info : RequestInfo) (h : Handling) : Option Handling :=
  match ApiHandle.dispatchFd renders env info h with
  | none => none
  | some (true, h) => some h
  | some (false, h) =>
    if !info.isAuthorized then some h.close
    else match RtspToHttpHandle.dispatchFd cfg env fd info h with
      | (true, h) => some h
      | (false, h) =>
        match RtspToRtspHandle.dispatchFd cfg env fd info req h with
        | (true, h) => some h
        | (false, h) => some h.close

/-- `handle` -/
def handleFd (renders : ApiHandle.Answer → Bool) (cfg : ServerConfig) (env : Surroundings)
    (fd : Nat) (h : Handling) : RecvResult → Option Handling
  | .wouldBlock => some h
  | .endOfStream | .failed => some h.close
  | .data req =>
    match RequestParser.parse cfg env.cal req with
    | .error _ => none
    | .ok info => dispatchFd renders cfg env fd req info h

variable {renders : ApiHandle.Answer → Bool} {cfg : ServerConfig} {env : Surroundings} {fd : Nat}
  {info : RequestInfo} {req : Bytes} {loop : EpollLoop ProxyClient} {h : Handling}

/-- A session would be relayed for the request, but its upstream refuses the connection at once. -/
def Unreachable (env : Surroundings) (info : RequestInfo) : Prop :=
  info.isHttp = false ∧ ∃ ctx, RtspParser.parseUrl info.upstreamUrl {} = some ctx ∧
    audit env ctx = none ∧ env.connects (dialled ctx.serverIp ctx.serverRtspPort) = false

/-- A descriptor that has not been closed, and of which a handler has disposed. -/
theorem settled_close : ({ loop := loop } : Handling).close.Settled fd loop := .inr ⟨rfl, rfl⟩

theorem settled_add (client : ProxyClient) :
    (Handling.add fd client { loop := loop }).Settled fd loop := by
  rw [Handling.add, EpollLoop.addClientToMap]
  rcases loop.getClientFromMap fd with _ | old
  · exact .inl ⟨⟨client, rfl⟩, rfl⟩
  · exact .inr ⟨rfl, rfl⟩

theorem not_settled_close_close : ¬({ loop := loop } : Handling).close.close.Settled fd loop := by
  rintro (⟨-, hcloses⟩ | ⟨-, hcloses⟩)
  · exact absurd hcloses (Nat.succ_ne_zero _)
  · exact absurd (Nat.succ.inj hcloses) (Nat.succ_ne_zero _)

/-- The upstream is resolved once more: to the same address. -/
theorem create_eq_unreachable_iff {ctx : RtspCtx} (hparse : RequestParser.parse cfg env.cal req = .ok info)
    (hurl : RtspParser.parseUrl info.upstreamUrl {} = some ctx) :
    RtspToRtspHandle.create cfg env req = .error .unreachable ↔
      env.connects (dialled ctx.serverIp ctx.serverRtspPort) = false := by
  have hnil : info.upstreamUrl ≠ [] := by
    intro hnil
    rw [hnil] at hurl
    cases hurl
  obtain ⟨config, hconfig⟩ : ∃ config,
      RtspToRtspClient.resolveUpstream cfg env.cal req = .ok (some config) := by
    simp only [RtspToRtspClient.resolveUpstream, hparse, bind, Except.bind, if_neg hnil, hurl,
      pure, Except.pure, Option.map_some]
    exact ⟨_, rfl⟩
  have hctx := RtspToRtspClient.ctx_of_resolveUpstream hparse hconfig
  cases hurl.symm.trans hctx
  rw [RtspToRtspHandle.create, hconfig]
  dsimp only
  rcases env.connects (dialled config.ctx.serverIp config.ctx.serverRtspPort) with _ | _
  · simp
  · simp

/-- The guard of a session has closed the descriptor exactly if the upstream is unreachable. -/
theorem dispatch_eq_unreachable_iff (hparse : RequestParser.parse cfg env.cal req = .ok info) :
    RtspToRtspHandle.dispatch cfg env info req = some (.error .unreachable) ↔
      Unreachable env info := by
  rw [RtspToRtspHandle.dispatch, audited, Unreachable]
  rcases hurl : RtspParser.parseUrl info.upstreamUrl {} with _ | ctx
  · simp
  · have hnil : info.upstreamUrl ≠ [] := by
      intro hnil
      rw [hnil] at hurl
      cases hurl
    rcases haudit : audit env ctx with _ | refusal
    · simp [hnil, haudit, create_eq_unreachable_iff hparse hurl]
    · have hrefusal : refusal ≠ .unreachable := by
        rintro rfl
        rw [audit] at haudit
        split at haudit
        · cases haudit
        · cases haudit
        · split at haudit <;> cases haudit
      simp [haudit, hrefusal]

/-- Of a request that is neither for the administration interface nor turned away. -/
theorem settled_of_stream_iff (hparse : RequestParser.parse cfg env.cal req = .ok info)
    (hapi : ApiHandle.dispatch env.server info = none) (hauth : info.isAuthorized = true) :
    (∃ t, dispatchFd renders cfg env fd req info { loop := loop } = some t ∧ t.Settled fd loop) ↔
      ¬Unreachable env info := by
  simp only [dispatchFd, ApiHandle.dispatchFd, hapi, hauth, Bool.not_true, Bool.false_eq_true,
    if_false, RtspToHttpHandle.dispatchFd]
  rw [← dispatch_eq_unreachable_iff hparse]
  rcases hhttp : RtspToHttpHandle.dispatch cfg env info with _ | (refusal | session)
  case some.ok =>
    -- it is for an HTTP session, and no relayed one is tried
    have hnone : RtspToRtspHandle.dispatch cfg env info req = none := by
      rw [RtspToHttpHandle.dispatch] at hhttp
      rcases hinfo : info.isHttp with _ | _
      · simp [hinfo] at hhttp
      · simp [RtspToRtspHandle.dispatch, hinfo]
    simp [hnone, settled_add]
  all_goals
    simp only [RtspToRtspHandle.dispatchFd]
    rcases hrtsp : RtspToRtspHandle.dispatch cfg env info req with _ | (refusal | session)
    · simp [settled_close]
    · cases refusal with
      | unreachable => simp [not_settled_close_close]
      | _ => simp [settled_close]
    · simp [settled_add]

/-- What becomes of the descriptor: it is disposed of once exactly if the request can be parsed,
    an answer to it can be sent, and no session is created for an unreachable upstream. -/
theorem settled_of_handleFd_iff (renders : ApiHandle.Answer → Bool) (cfg : ServerConfig)
    (env : Surroundings) (fd : Nat) (loop : EpollLoop ProxyClient) (req : Bytes) :
    (∃ t, handleFd renders cfg env fd { loop := loop } (.data req) = some t ∧ t.Settled fd loop) ↔
      ∃ info, RequestParser.parse cfg env.cal req = .ok info ∧
        (∀ answer ∈ ApiHandle.dispatch env.server info, answer.isSent renders = true) ∧
        ¬(ApiHandle.dispatch env.server info = none ∧ info.isAuthorized = true ∧
          Unreachable env info) := by
  simp only [handleFd]
  rcases hparse : RequestParser.parse cfg env.cal req with e | info
  · simp
  · simp only [Except.ok.injEq, exists_eq_left']
    rcases hapi : ApiHandle.dispatch env.server info with _ | answer
    · rcases hauth : info.isAuthorized with _ | _
      · simp [dispatchFd, ApiHandle.dispatchFd, hapi, hauth, settled_close]
      · simp [settled_of_stream_iff hparse hapi hauth]
    · rcases hsent : answer.isSent renders with _ | _
      · simp [dispatchFd, ApiHandle.dispatchFd, hapi, hsent]
      · simp [dispatchFd, ApiHandle.dispatchFd, hapi, hsent, settled_close]

/-- An upstream that refuses the connection at once: the descriptor of the client is closed by the
    guard of the session, and by the handler. -/
theorem not_settled_of_handleFd : ¬∀ renders cfg env fd loop req, ∃ t,
    handleFd renders cfg env fd { loop := loop } (.data req) = some t ∧ t.Settled fd loop := by
  intro h
  obtain ⟨t, ht, hsettled⟩ := h (fun _ => true) {}
    { openSurroundings with connects := fun _ => false } 5 {} (requestFor "10.0.0.9:554/live")
  have hcloses : (handleFd (fun _ => true) {} { openSurroundings with connects := fun _ => false } 5
      {} (.data (requestFor "10.0.0.9:554/live"))).map Handling.closes = some 2 := by
    decide +kernel
  rw [ht, Option.map_some, Option.some.injEq] at hcloses
  rcases hsettled with ⟨-, hnone⟩ | ⟨-, hone⟩
  · exact absurd (hcloses.symm.trans hnone) (by decide)
  · exact absurd (hcloses.symm.trans hone) (by decide)

/-! ## A registered HTTP session -/

/-- The session has its ports, and waits for the mapping of one of them or for its connection to
    the upstream; or its removal has been asked for. -/
def Sound (cfg : ServerConfig) (s : RtspToHttpClient) : Prop :=
  (s.rtpReady = true ∧ (cfg.usesStun = true ∧ s.isInitOk = false ∨ s.state = .connecting)) ∨
    s.closing = true

/-- A session at its start: nobody can be asked yet for its removal. -/
theorem sound_start_iff (pool : BufferPool) (stats : Statistics) (ctx : RtspCtx) (rtpPort : Nat)
    (rtpReady opened : Bool) :
    Sound cfg (RtspToHttpClient.start cfg pool stats ctx rtpPort rtpReady opened) ↔
      rtpReady = true ∧ (cfg.usesStun = true ∨ opened = true) := by
  rw [Sound, RtspToHttpClient.start]
  rcases hstun : cfg.usesStun with _ | _
  · rcases opened with _ | _
    · simp [RtspToHttpClient.sendRtspOption, RtspToHttpClient.connectServer,
        RtspToHttpClient.notifyClosed, RtspToHttpClient.pushRequestIntoQueue,
        RtspToHttpClient.buildAndSendRequest, RtspToHttpClient.sendHttpResponse]
    · simp [RtspToHttpClient.sendRtspOption, RtspToHttpClient.connectServer,
        RtspToHttpClient.pushRequestIntoQueue,
        RtspToHttpClient.buildAndSendRequest, RtspToHttpClient.sendHttpResponse]
  · simp [RtspToHttpClient.sendHttpResponse]

/-- The request of an HTTP client. -/
def playRequest : RequestInfo :=
  { method := ascii "GET", rawUri := ascii "/rtp/10.0.0.9:554/live", version := ascii "HTTP/1.1"
    upstreamUrl := ascii "rtsp://10.0.0.9:554/live", isHttp := true }

/-- When the handler says that it has dealt with a request, it has registered a session at its
    start. -/
theorem start_of_dispatchFd {t : Handling} (hroom : h.loop.getClientFromMap fd = none)
    (hhandled : RtspToHttpHandle.dispatchFd cfg env fd info h = (true, t)) :
    ∃ ctx, RtspParser.parseUrl info.upstreamUrl {} = some ctx ∧
      t.loop.getClientFromMap fd = some (.http (RtspToHttpClient.start cfg env.server.pool
        env.server.stats ctx env.rtpPort env.rtpReady
        (env.connects (dialled ctx.serverIp ctx.serverRtspPort)))) := by
  rw [RtspToHttpHandle.dispatchFd] at hhandled
  split at hhandled
  case h_2 => cases hhandled
  case h_1 session hsession =>
    rw [RtspToHttpHandle.dispatch] at hsession
    split at hsession
    · cases hsession
    obtain ⟨ctx, hurl, -, hcreate⟩ := audited_eq_ok_iff.1 (Option.some.inj hsession)
    cases hcreate
    cases hhandled
    refine ⟨ctx, hurl, ?_⟩
    rw [Handling.add, EpollLoop.addClientToMap, hroom]
    simp [EpollLoop.getClientFromMap]

/-- When the handler says that it has dealt with a request, the session it has registered is sound
    exactly if its ports could be bound and, unless it waits for their mapping, its upstream has
    not refused the connection at once. -/
theorem sound_of_dispatchFd_iff {t : Handling} (hroom : h.loop.getClientFromMap fd = none)
    (hhandled : RtspToHttpHandle.dispatchFd cfg env fd info h = (true, t)) :
    ∃ ctx session, RtspParser.parseUrl info.upstreamUrl {} = some ctx ∧
      t.loop.getClientFromMap fd = some (.http session) ∧
      (Sound cfg session ↔ env.rtpReady = true ∧ (cfg.usesStun = true ∨
        env.connects (dialled ctx.serverIp ctx.serverRtspPort) = true)) := by
  obtain ⟨ctx, hurl, hget⟩ := start_of_dispatchFd hroom hhandled
  exact ⟨ctx, _, hurl, hget, sound_start_iff env.server.pool env.server.stats ctx env.rtpPort
    env.rtpReady _⟩

theorem sound_of_dispatchFd_iff_play : ∃ t session,
    RtspToHttpHandle.dispatchFd {} openSurroundings 5 playRequest {} = (true, t) ∧
    t.loop.getClientFromMap 5 = some (.http session) ∧ Sound {} session := by
  have hhandled : (RtspToHttpHandle.dispatchFd {} openSurroundings 5 playRequest {}).1 = true := by
    decide +kernel
  obtain ⟨ctx, session, -, hget, hiff⟩ := sound_of_dispatchFd_iff rfl (Prod.ext hhandled rfl)
  exact ⟨_, session, Prod.ext hhandled rfl, hget, hiff.2 ⟨rfl, .inr rfl⟩⟩

/-- The ports cannot be bound: the session is registered, and nothing ever happens to it. -/
theorem not_sound_of_dispatchFd : ¬∀ cfg env fd info h t, h.loop.getClientFromMap fd = none →
    RtspToHttpHandle.dispatchFd cfg env fd info h = (true, t) →
      ∃ session, t.loop.getClientFromMap fd = some (.http session) ∧ Sound cfg session := by
  intro h
  have hhandled : (RtspToHttpHandle.dispatchFd {} { openSurroundings with rtpReady := false } 5
      playRequest {}).1 = true := by
    decide +kernel
  obtain ⟨t, ht⟩ : ∃ t, RtspToHttpHandle.dispatchFd {} { openSurroundings with rtpReady := false } 5
      playRequest {} = (true, t) :=
    ⟨_, Prod.ext hhandled rfl⟩
  obtain ⟨ctx, -, hstart⟩ := start_of_dispatchFd rfl ht
  obtain ⟨session, hget, hsound⟩ := h _ _ _ _ _ t rfl ht
  obtain rfl := ProxyClient.http.inj (Option.some.inj (hget.symm.trans hstart))
  exact Bool.false_ne_true ((sound_start_iff _ _ _ _ _ _).1 hsound).1

end MasterHandle

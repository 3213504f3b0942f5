import RtsProxy.Clients.RtspToHttp.Handlers
import RtsProxy.Clients.RtspToRtsp.State
import RtsProxy.Handlers.ApiHandle
import RtsProxy.Utils.BlacklistChecker

/-!
# The first request of a connection

`MasterHandle`: the first bytes of a client are taken for its request, which is given to the
administration interface, to the HTTP sessions or to the relayed ones. A handler that throws
leaves the request to the next one.

* `audit_of_dest`: a client is created only for an upstream that has passed the audit;
* `checked_of_handle_iff`: when the address that is connected to has been checked;
* `refused_of_reaches_iff`: when a request that leads back to the proxy is turned down.
-/

open Text

/-- What the handlers of a first request find around them. -/
structure Surroundings where
  server : ApiHandle.Server
  cal : Calendar
  blacklist : List Bytes := []
  resolve : Resolver
  clientAddr : SockAddr
  /-- `getsockname` for the connection of the client. -/
  localName : Option SockAddr
  /-- The ports of an HTTP session, and whether they could be bound. -/
  rtpPort : Nat := 0
  rtpReady : Bool := true
  /-- The connections that are not refused at once. -/
  connects : SockAddr → Bool := fun _ => true

/-- Why a handler turns a request down. -/
inductive Refusal
  | badUrl
  | blacklisted
  | recursive
  | thrown (e : Exn)
  | unreachable
  deriving DecidableEq, Repr

/-- The security audit of both handlers of streams; `none`: it is passed. -/
def audit (env : Surroundings) (ctx : RtspCtx) : Option Refusal :=
  match BlacklistChecker.isBlacklisted env.blacklist env.resolve ctx.serverIp with
  | .error e => some (.thrown e)
  | .ok true => some .blacklisted
  | .ok false =>
    if BlacklistChecker.isLoopback env.localName ctx.serverIp ctx.serverRtspPort then
      some .recursive
    else none

/-- Why a handler that has been tried has turned a request down. -/
def refusalOf {σ : Type} : Option (Except Refusal σ) → Option Refusal
  | some (.error refusal) => some refusal
  | _ => none

/-- What a handler makes of the upstream URL of a request that is for it. -/
def audited {σ : Type} (env : Surroundings) (upstreamUrl : Bytes)
    (create : RtspCtx → Except Refusal σ) : Except Refusal σ :=
  match RtspParser.parseUrl upstreamUrl {} with
  | none => .error .badUrl
  | some ctx =>
    match audit env ctx with
    | some refusal => .error refusal
    | none => create ctx

namespace RtspToHttpHandle

/-- `dispatch`; `none`: the request is not for this handler. -/
def dispatch (cfg : ServerConfig) (env : Surroundings) (info : RequestInfo) :
    Option (Except Refusal RtspToHttpClient) :=
  if !info.isHttp || info.upstreamUrl = [] then none
  else some (audited env info.upstreamUrl fun ctx =>
    .ok (RtspToHttpClient.start cfg env.server.pool env.server.stats ctx env.rtpPort env.rtpReady
      (env.connects (dialled ctx.serverIp ctx.serverRtspPort))))

end RtspToHttpHandle

namespace RtspToRtspHandle

/-- The session of a request: its upstream is resolved once more. -/
def create (cfg : ServerConfig) (env : Surroundings) (rawRequest : Bytes) :
    Except Refusal RtspToRtspClient :=
  match RtspToRtspClient.resolveUpstream cfg env.cal rawRequest with
  | .error e => .error (.thrown e)
  | .ok none => .error .badUrl
  | .ok (some config) =>
    if env.connects (dialled config.ctx.serverIp config.ctx.serverRtspPort) then
      .ok (RtspToRtspClient.start cfg env.server.pool env.server.stats env.clientAddr
        (env.localName.getD .zero) config rawRequest)
    else .error .unreachable

@[inherit_doc RtspToHttpHandle.dispatch]
def dispatch (cfg : ServerConfig) (env : Surroundings) (info : RequestInfo) (rawRequest : Bytes) :
    Option (Except Refusal RtspToRtspClient) :=
  if info.isHttp || info.upstreamUrl = [] then none
  else some (audited env info.upstreamUrl fun _ => create cfg env rawRequest)

end RtspToRtspHandle

namespace MasterHandle

/-- What becomes of a connection. -/
inductive Outcome
  /-- Nothing has been received yet. -/
  | waiting
  | answered (answer : ApiHandle.Answer)
  | unauthorized (reply : Bytes)
  | http (session : RtspToHttpClient)
  | rtsp (session : RtspToRtspClient)
  /-- Closed, when a request was turned down with the reason. -/
  | closed (refusal : Option Refusal)

/-- The most bytes taken for a first request. -/
def requestLimit : Nat := 4095

/-- The reply to a client that is not let in. -/
def unauthorizedReply (isHttp : Bool) : Bytes :=
  if isHttp then ascii "HTTP/1.1 401 Unauthorized\r\nContent-Length: 0\r\n\r\n"
  else ascii "RTSP/1.0 401 Unauthorized\r\nCSeq: 1\r\nContent-Length: 0\r\n\r\n"

/-- A parsed request is given to the handlers in turn. -/
def dispatch (cfg : ServerConfig) (env : Surroundings) (req : Bytes) (info : RequestInfo) :
    Outcome :=
  match ApiHandle.dispatch env.server info with
  | some answer => .answered answer
  | none =>
    if !info.isAuthorized then .unauthorized (unauthorizedReply info.isHttp)
    else match RtspToHttpHandle.dispatch cfg env info with
      | some (.ok session) => .http session
      | http =>
        match RtspToRtspHandle.dispatch cfg env info req with
        | some (.ok session) => .rtsp session
        | rtsp => .closed ((refusalOf http).or (refusalOf rtsp))

/-- `handle` -/
def handle (cfg : ServerConfig) (env : Surroundings) : RecvResult → Except Exn Outcome
  | .wouldBlock => .ok .waiting
  | .endOfStream | .failed => .ok (.closed none)
  | .data req => (RequestParser.parse cfg env.cal req).map (dispatch cfg env req)

/-! ## The audit -/

/-- Where the session of a connection is connected to. -/
def Outcome.dest : Outcome → Option SockAddr
  | .http session => some (dialled session.ctx.serverIp session.ctx.serverRtspPort)
  | .rtsp session => some (dialled session.ctx.serverIp session.ctx.serverRtspPort)
  | _ => none

variable {cfg : ServerConfig} {env : Surroundings} {raw : Bytes} {info : RequestInfo}
  {ctx : RtspCtx} {outcome : Outcome} {dest : SockAddr}

theorem audit_eq_none_iff : audit env ctx = none ↔
    BlacklistChecker.isBlacklisted env.blacklist env.resolve ctx.serverIp = .ok false ∧
      BlacklistChecker.isLoopback env.localName ctx.serverIp ctx.serverRtspPort = false := by
  rw [audit]
  rcases BlacklistChecker.isBlacklisted env.blacklist env.resolve ctx.serverIp with e | listed
  · simp
  · cases listed <;> simp

/-- A handler creates something only for an upstream that passes the audit. -/
theorem audited_eq_ok_iff {σ : Type} {url : Bytes} {create : RtspCtx → Except Refusal σ} {x : σ} :
    audited env url create = .ok x ↔
      ∃ ctx, RtspParser.parseUrl url {} = some ctx ∧ audit env ctx = none ∧ create ctx = .ok x := by
  rw [audited]
  rcases RtspParser.parseUrl url {} with _ | ctx
  · simp
  · rcases haudit : audit env ctx with _ | refusal
    · simp [haudit]
    · simp [haudit]

/-- An HTTP session keeps to the upstream it is created for. -/
theorem ctx_start (pool : BufferPool) (stats : Statistics) (rtpPort : Nat)
    (rtpReady opened : Bool) :
    (RtspToHttpClient.start cfg pool stats ctx rtpPort rtpReady opened).ctx = ctx := by
  have hbuild : ∀ s : RtspToHttpClient, s.buildAndSendRequest.ctx = s.ctx := by
    intro s
    rw [RtspToHttpClient.buildAndSendRequest]
    split <;> rfl
  have hconnect : ∀ s : RtspToHttpClient, (s.connectServer opened).ctx = s.ctx := by
    intro s
    rw [RtspToHttpClient.connectServer, RtspToHttpClient.notifyClosed]
    split
    · rfl
    · split <;> rfl
  have hoption : ∀ s : RtspToHttpClient, (s.sendRtspOption opened).ctx = s.ctx :=
    fun s => (hbuild _).trans (hconnect s)
  rw [RtspToHttpClient.start]
  cases cfg.usesStun with
  | true => rfl
  | false => exact hoption _

/-- A session is created only for an upstream that has passed the audit, and connects to it. -/
theorem audit_of_dest (h : handle cfg env (.data raw) = .ok outcome)
    (hdest : outcome.dest = some dest) :
    ∃ info ctx, RequestParser.parse cfg env.cal raw = .ok info ∧
      RtspParser.parseUrl info.upstreamUrl {} = some ctx ∧ audit env ctx = none ∧
      dest = dialled ctx.serverIp ctx.serverRtspPort := by
  obtain ⟨info, hparse, rfl⟩ := Except.map_eq_ok_iff.1 h
  refine ⟨info, ?_⟩
  rw [dispatch] at hdest
  split at hdest
  · cases hdest
  split at hdest
  · cases hdest
  split at hdest
  case h_1 session hsession =>
    -- an HTTP session
    rw [RtspToHttpHandle.dispatch] at hsession
    split at hsession
    · cases hsession
    obtain ⟨ctx, hurl, haudit, hcreate⟩ := audited_eq_ok_iff.1 (Option.some.inj hsession)
    cases hcreate
    cases hdest
    exact ⟨ctx, hparse, hurl, haudit, by rw [ctx_start]⟩
  case h_2 =>
    split at hdest
    case h_1 session hsession =>
      -- a relayed session
      rw [RtspToRtspHandle.dispatch] at hsession
      split at hsession
      · cases hsession
      obtain ⟨ctx, hurl, haudit, hcreate⟩ := audited_eq_ok_iff.1 (Option.some.inj hsession)
      rw [RtspToRtspHandle.create] at hcreate
      split at hcreate
      · cases hcreate
      · cases hcreate
      split at hcreate
      case h_3.isTrue config hconfig _ =>
        cases hcreate
        cases hdest
        have hctx := RtspToRtspClient.ctx_of_resolveUpstream hparse hconfig
        cases hurl.symm.trans hctx
        exact ⟨config.ctx, hparse, hurl, haudit, rfl⟩
      case h_3.isFalse => cases hcreate
    case h_2 => cases hdest

/-- A blacklist with a network, and a name service that knows one address outside it. -/
def namedSurroundings : Surroundings :=
  { server := ⟨.new 2048 1024, {}, 0, ⟨fun _ => false, fun _ => none⟩⟩, cal := default
    blacklist := [ascii "192.168.0.0/16"], resolve := fun _ => [⟨10, 0, 0, 9⟩]
    clientAddr := ⟨⟨10, 0, 0, 2⟩, 50000⟩, localName := some ⟨⟨10, 0, 0, 1⟩, 8554⟩ }

/-- The request of a client for an upstream. -/
def requestFor (upstream : String) : Bytes :=
  ascii "OPTIONS rtsp://10.0.0.1:8554/rtp/" ++ ascii upstream ++
    ascii " RTSP/1.0\r\nCSeq: 1\r\n\r\n"

/-- Of the address that a session connects to: it has been checked exactly if the host of the
    upstream is an address, or is resolved to the zero one. -/
theorem checked_of_handle_iff (h : handle cfg env (.data raw) = .ok outcome)
    (hdest : outcome.dest = some dest) :
    ∃ info ctx, RequestParser.parse cfg env.cal raw = .ok info ∧
      RtspParser.parseUrl info.upstreamUrl {} = some ctx ∧
      (BlacklistChecker.Checked env.blacklist env.resolve ctx.serverIp dest.addr ↔
        (∃ a, inetPton ctx.serverIp = some a) ∨
          .any ∈ env.resolve (ctx.serverIp.takeWhile (· ≠ 0))) := by
  obtain ⟨info, ctx, hparse, hurl, haudit, rfl⟩ := audit_of_dest h hdest
  exact ⟨info, ctx, hparse, hurl,
    BlacklistChecker.checked_dialled_iff (audit_eq_none_iff.1 haudit).1 ctx.serverRtspPort⟩

/-- The outcome of a first request and where its session connects to, computed. -/
theorem exists_outcome {req : Bytes}
    (h : (handle cfg env (.data req)).map Outcome.dest = .ok (some dest)) :
    ∃ outcome, handle cfg env (.data req) = .ok outcome ∧ outcome.dest = some dest :=
  Except.map_eq_ok_iff.1 h

theorem checked_of_handle_iff_address : ∃ info ctx,
    RequestParser.parse {} default (requestFor "10.0.0.9:554/live") = .ok info ∧
    RtspParser.parseUrl info.upstreamUrl {} = some ctx ∧
    (BlacklistChecker.Checked namedSurroundings.blacklist namedSurroundings.resolve ctx.serverIp
        ⟨10, 0, 0, 9⟩ ↔
      (∃ a, inetPton ctx.serverIp = some a) ∨
        .any ∈ namedSurroundings.resolve (ctx.serverIp.takeWhile (· ≠ 0))) := by
  obtain ⟨outcome, h, hdest⟩ : ∃ outcome,
      handle {} namedSurroundings (.data (requestFor "10.0.0.9:554/live")) = .ok outcome ∧
      outcome.dest = some ⟨⟨10, 0, 0, 9⟩, 554⟩ :=
    exists_outcome (by decide +kernel)
  exact checked_of_handle_iff h hdest

/-- A name is resolved and checked, and the zero address is connected to. -/
theorem not_checked_camera : ∃ outcome dest info ctx,
    handle {} namedSurroundings (.data (requestFor "camera.local:554/live")) = .ok outcome ∧
    outcome.dest = some dest ∧
    RequestParser.parse {} default (requestFor "camera.local:554/live") = .ok info ∧
    RtspParser.parseUrl info.upstreamUrl {} = some ctx ∧
    ¬BlacklistChecker.Checked namedSurroundings.blacklist namedSurroundings.resolve ctx.serverIp
      dest.addr := by
  obtain ⟨outcome, h, hdest⟩ : ∃ outcome,
      handle {} namedSurroundings (.data (requestFor "camera.local:554/live")) = .ok outcome ∧
      outcome.dest = some ⟨.any, 554⟩ :=
    exists_outcome (by decide +kernel)
  obtain ⟨info, ctx, hparse, hurl, -⟩ := audit_of_dest h hdest
  refine ⟨outcome, _, info, ctx, h, hdest, hparse, hurl, ?_⟩
  have hip : (RequestParser.parse {} default (requestFor "camera.local:554/live")).map
      (fun info => (RtspParser.parseUrl info.upstreamUrl {}).map RtspCtx.serverIp) =
        .ok (some (ascii "camera.local")) := by
    decide +kernel
  have hhost : ctx.serverIp = ascii "camera.local" := by
    have hparse' : RequestParser.parse {} default (requestFor "camera.local:554/live") = .ok info :=
      hparse
    rw [hparse', Except.map, hurl] at hip
    exact Option.some.inj (Except.ok.inj hip)
  rw [hhost]
  decide +kernel

/-- A request whose upstream does not pass the audit is turned down for that reason. -/
theorem handle_of_audit {refusal : Refusal}
    (hparse : RequestParser.parse cfg env.cal raw = .ok info)
    (hapi : ApiHandle.dispatch env.server info = none) (hauth : info.isAuthorized = true)
    (hurl : RtspParser.parseUrl info.upstreamUrl {} = some ctx)
    (haudit : audit env ctx = some refusal) :
    handle cfg env (.data raw) = .ok (.closed (some refusal)) := by
  have hnil : info.upstreamUrl ≠ [] := by
    intro hnil
    rw [hnil] at hurl
    cases hurl
  have haudited : ∀ {σ : Type} (create : RtspCtx → Except Refusal σ),
      audited env info.upstreamUrl create = .error refusal := by
    intro σ create
    simp only [audited, hurl, haudit]
  rw [handle, hparse, Except.map, dispatch, hapi]
  cases hhttp : info.isHttp with
  | true =>
    simp [hauth, RtspToHttpHandle.dispatch, RtspToRtspHandle.dispatch, hhttp, hnil, haudited,
      refusalOf]
  | false =>
    simp [hauth, RtspToHttpHandle.dispatch, RtspToRtspHandle.dispatch, hhttp, hnil, haudited,
      refusalOf]

/-- Of a request that connects back to the proxy: it is turned down, and as a recursive one if the
    blacklist lets it through, exactly if the blacklist does not, or the host is spelled in one
    of three ways; else it has to be for another port or address. -/
theorem refused_of_reaches_iff {interfaces : List Ipv4} {name : SockAddr}
    (hparse : RequestParser.parse cfg env.cal raw = .ok info)
    (hapi : ApiHandle.dispatch env.server info = none) (hauth : info.isAuthorized = true)
    (hurl : RtspParser.parseUrl info.upstreamUrl {} = some ctx)
    (hname : env.localName = some name) :
    (BlacklistChecker.ReachesProxy interfaces name.port
        (dialled ctx.serverIp ctx.serverRtspPort) →
      ∃ refusal, audit env ctx = some refusal ∧
        handle cfg env (.data raw) = .ok (.closed (some refusal)) ∧
        (BlacklistChecker.isBlacklisted env.blacklist env.resolve ctx.serverIp = .ok false →
          refusal = .recursive)) ↔
      BlacklistChecker.isBlacklisted env.blacklist env.resolve ctx.serverIp ≠ .ok false ∨
        ctx.serverRtspPort ≠ name.port ∨ ctx.serverIp = ascii "127.0.0.1" ∨
        ctx.serverIp = ascii "localhost" ∨ ctx.serverIp = inetNtoa name.addr ∨
        ∃ a, inetPton ctx.serverIp = some a ∧ ¬(a.a = 127 ∨ a = .any ∨ a ∈ interfaces) := by
  by_cases hpass : BlacklistChecker.isBlacklisted env.blacklist env.resolve ctx.serverIp = .ok false
  · have haudit : audit env ctx = if BlacklistChecker.isLoopback (some name) ctx.serverIp
        ctx.serverRtspPort then some .recursive else none := by
      rw [audit, hpass, hname]
    rw [or_iff_right (not_not.2 hpass), ← BlacklistChecker.isLoopback_of_reaches_iff]
    refine forall_congr' fun _ => ?_
    constructor
    · rintro ⟨refusal, hrefusal, -⟩
      by_contra hno
      rw [haudit, if_neg hno] at hrefusal
      cases hrefusal
    · intro hloop
      rw [if_pos hloop] at haudit
      exact ⟨_, haudit, handle_of_audit hparse hapi hauth hurl haudit, fun _ => rfl⟩
  · refine iff_of_true (fun _ => ?_) (.inl hpass)
    rcases haudit : audit env ctx with _ | refusal
    · exact absurd (audit_eq_none_iff.1 haudit).1 hpass
    · exact ⟨refusal, rfl, handle_of_audit hparse hapi hauth hurl haudit, fun h => absurd h hpass⟩

/-- The surroundings without a blacklist. -/
def openSurroundings : Surroundings := { namedSurroundings with blacklist := [] }

theorem refused_of_reaches_iff_localhost :
    handle {} openSurroundings (.data (requestFor "localhost:8554/live")) =
      .ok (.closed (some .recursive)) := by
  have hiff := @refused_of_reaches_iff {} openSurroundings (requestFor "localhost:8554/live")
    (RequestParser.requestInfo {} (ascii "OPTIONS")
      (ascii "rtsp://10.0.0.1:8554/rtp/localhost:8554/live") (ascii "RTSP/1.0")
      (ascii "rtsp://localhost:8554/live"))
    { rtspUrl := ascii "rtsp://localhost:8554/live", serverIp := ascii "localhost"
      serverRtspPort := 8554, path := ascii "/live" }
    [] ⟨⟨10, 0, 0, 1⟩, 8554⟩
    (by decide +kernel) (by decide +kernel) (by decide +kernel) (by decide +kernel) rfl
  obtain ⟨refusal, -, hhandle, hrecursive⟩ :=
    hiff.2 (.inr (.inr (.inr (.inl rfl)))) (by decide +kernel)
  rw [hhandle, hrecursive (by decide +kernel)]

/-- An address of the loopback network other than the usual one is connected to. -/
theorem not_refused_loopback : ∃ outcome dest name,
    handle {} openSurroundings (.data (requestFor "127.0.0.2:8554/live")) = .ok outcome ∧
    outcome.dest = some dest ∧ openSurroundings.localName = some name ∧
    BlacklistChecker.ReachesProxy [name.addr] name.port dest := by
  obtain ⟨outcome, h, hdest⟩ : ∃ outcome,
      handle {} openSurroundings (.data (requestFor "127.0.0.2:8554/live")) = .ok outcome ∧
      outcome.dest = some ⟨⟨127, 0, 0, 2⟩, 8554⟩ :=
    exists_outcome (by decide +kernel)
  exact ⟨outcome, _, _, h, hdest, rfl, by decide⟩

end MasterHandle

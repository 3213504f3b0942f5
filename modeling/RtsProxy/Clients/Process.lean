import RtsProxy.Clients.RtspToHttp.Sockets
import RtsProxy.Clients.RtspToRtsp.Delivery
import RtsProxy.Core.EpollLoop
import RtsProxy.Utils.SocketHelper

/-!
# The sessions of a process

All sessions of a process take their blocks from one pool and their ports from another. Here both
kinds of sessions are put together: they are created, take the steps of their own runs with the
blocks, the counters and the ports of the process, and are destroyed. A step that throws ends the
process.

* `step_cases`: a step creates a client, or changes one, or removes one;
* `clients_update`, `create_cases`, `remove_cases`: what becomes of the clients.
-/

open Text

/-- The clients that the event loop keeps. -/
inductive ProxyClient
  | http (session : RtspToHttpClient)
  | rtsp (session : RtspToRtspClient)

namespace ProxyClient

/-- The blocks, as the client leaves them. -/
def pool : ProxyClient → BufferPool
  | http s => s.pool
  | rtsp s => s.pool

/-- The counters, as the client leaves them. -/
def stats : ProxyClient → Statistics
  | http s => s.stats
  | rtsp s => s.stats

/-- What is to be sent to the client. -/
def queue : ProxyClient → SendQueue
  | http s => s.sendQueue
  | rtsp s => s.toDownstreamQ

/-- The ports that its destructor gives back, if they are not zero. -/
def rtpPorts : ProxyClient → List Nat
  | http s => [s.rtpPort]
  | rtsp s => [s.localRtpUsPort, s.localRtpDsPort]

end ProxyClient

/-- The process: what its clients share, and the event loop that keeps them. -/
structure Process where
  pool : BufferPool
  stats : Statistics := {}
  ports : PortPool := {}
  loop : EpollLoop ProxyClient := {}

namespace Process

/-- What happens in the process, with what the system calls return. -/
inductive Event
  /-- A session is created for the descriptor of a client. -/
  | createHttp (fd : Nat) (ctx : RtspCtx) (calls : Nat → PairCalls) (opened : Bool)
  | createRelay (fd : Nat) (clientAddr localAddr : SockAddr) (config : RtspMitmConfig)
      (request : Bytes)
  /-- The session of a descriptor takes a step. -/
  | http (fd : Nat) (e : RtspToHttpClient.Event)
  | relay (fd : Nat) (e : RtspToRtspClient.Event) (upstream downstream : Nat → PairCalls)
  /-- It is destroyed. -/
  | remove (fd : Nat)

/-- The clients. -/
def clients (p : Process) : List ProxyClient := p.loop.clientPtrMap.map Prod.snd

/-- A client is destroyed: its blocks and its ports are given back. -/
def destroy (c : ProxyClient) (p : Process) : Process :=
  { p with
    pool := c.queue.packets.foldl (fun pool _ => pool.release) p.pool
    ports := c.rtpPorts.foldl (fun ports port => ports.releasePair port) p.ports }

/-- A client that has been created is kept, or destroyed if there is no room for it. -/
def create (fd : Nat) (c : ProxyClient) (p : Process) : Process :=
  let p := { p with pool := c.pool, stats := c.stats }
  match p.loop.addClientToMap fd c with
  | (none, loop) => { p with loop := loop }
  | (some c, loop) => { p with loop := loop }.destroy c

/-- The first client under a descriptor is another one. -/
def setClient (fd : Nat) (c : ProxyClient) : List (Nat × ProxyClient) → List (Nat × ProxyClient)
  | [] => []
  | d :: ds => if d.1 = fd then (fd, c) :: ds else d :: setClient fd c ds

/-- A client has taken a step. -/
def update (fd : Nat) (c : ProxyClient) (p : Process) : Process :=
  { p with
    pool := c.pool, stats := c.stats
    loop := { p.loop with clientPtrMap := setClient fd c p.loop.clientPtrMap } }

/-- A client is removed. -/
def remove (fd : Nat) (p : Process) : Process :=
  match p.loop.removeClientFromMap fd with
  | (none, loop) => { p with loop := loop }
  | (some c, loop) => { p with loop := loop }.destroy c

/-- The pairs of a relay are bound, that towards the upstream on the device `iface`. -/
def bindRelayPorts (iface : Bytes) (upstream downstream : Nat → PairCalls) (ports : PortPool) :
    RelayPorts × PortPool :=
  let us := SocketHelper.bindUdpPairFromPool iface upstream ports
  if us.1 then
    let ds := SocketHelper.bindUdpPairFromPool [] downstream us.2.pool
    (⟨SocketHelper.pairResult us, SocketHelper.pairResult ds⟩, ds.2.pool)
  else (⟨SocketHelper.pairResult us, .failed 0⟩, us.2.pool)

/-- A turn over the bytes of the client binds the pairs of the relay: it handles a `SETUP`, and
    there are none yet. -/
def needsPorts (s : RtspToRtspClient) : Bool :=
  !s.relayReady &&
    (RtspToRtspClient.frontRequest s.downstreamRecvBuf).any ((ascii "SETUP ").isPrefixOf ·)

/-- The event of a relayed session, with the ports it gets. -/
def withPorts (iface : Bytes) (upstream downstream : Nat → PairCalls) (s : RtspToRtspClient)
    (ports : PortPool) : RtspToRtspClient.Event → RtspToRtspClient.Event × PortPool
  | .downstreamTurn given =>
    if needsPorts s then
      let (bound, ports) := bindRelayPorts iface upstream downstream ports
      (.downstreamTurn bound, ports)
    else (.downstreamTurn given, ports)
  | e => (e, ports)

/-- The process, whose sessions bind their ports towards the upstream on two devices. -/
def system (cfg : ServerConfig) (httpIface mitmIface : Bytes) : System Process Event where
  step p
    | .createHttp fd ctx calls opened =>
      let r := SocketHelper.bindUdpPairFromPool httpIface calls p.ports
      some ({ p with ports := r.2.pool }.create fd
        (.http (.start cfg p.pool p.stats ctx r.2.rtpPort r.1 opened)))
    | .createRelay fd clientAddr localAddr config request =>
      some (p.create fd (.rtsp (.start cfg p.pool p.stats clientAddr localAddr config request)))
    | .http fd e =>
      match p.loop.getClientFromMap fd with
      | some (.http s) =>
        let s := { s with pool := p.pool, stats := p.stats }
        if s.Enabled e then some (p.update fd (.http (s.step cfg e))) else none
      | _ => none
    | .relay fd e upstream downstream =>
      match p.loop.getClientFromMap fd with
      | some (.rtsp s) =>
        let s := { s with pool := p.pool, stats := p.stats }
        let (e, ports) := withPorts mitmIface upstream downstream s p.ports e
        if s.Enabled cfg e then
          match s.step cfg e with
          | .ok t => some ({ p with ports := ports }.update fd (.rtsp t))
          | .error _ => none
        else none
      | _ => none
    | .remove fd => some (p.remove fd)

/-- A process at its start: nothing is out of the pool of blocks, and there are no clients. -/
def Started (p : Process) : Prop :=
  ∃ bufSize poolSize stats ports, p = { pool := .new bufSize poolSize, stats := stats, ports := ports }

/-! ## What a step does to the clients -/

variable {cfg : ServerConfig} {httpIface mitmIface : Bytes} {p t : Process} {e : Event} {fd : Nat}
  {c c' : ProxyClient}

/-- A client takes a step, with the blocks and the counters of the process; the ports in use are
    others afterwards. -/
inductive Moves (cfg : ServerConfig) (mitmIface : Bytes) (p : Process) :
    ProxyClient → ProxyClient → PortPool → Prop
  | http (s : RtspToHttpClient) (e : RtspToHttpClient.Event) :
      Moves cfg mitmIface p (.http s)
        (.http (RtspToHttpClient.step cfg { s with pool := p.pool, stats := p.stats } e)) p.ports
  | relay (s t : RtspToRtspClient) (e : RtspToRtspClient.Event)
      (upstream downstream : Nat → PairCalls) :
      RtspToRtspClient.step cfg { s with pool := p.pool, stats := p.stats }
        (withPorts mitmIface upstream downstream { s with pool := p.pool, stats := p.stats }
          p.ports e).1 = .ok t →
      Moves cfg mitmIface p (.rtsp s) (.rtsp t)
        (withPorts mitmIface upstream downstream { s with pool := p.pool, stats := p.stats }
          p.ports e).2

/-- A client as it is created, with the ports in use afterwards. -/
inductive Creates (cfg : ServerConfig) (httpIface : Bytes) (p : Process) :
    ProxyClient → PortPool → Prop
  | http (ctx : RtspCtx) (calls : Nat → PairCalls) (opened : Bool) :
      Creates cfg httpIface p
        (.http (.start cfg p.pool p.stats ctx
          (SocketHelper.bindUdpPairFromPool httpIface calls p.ports).2.rtpPort
          (SocketHelper.bindUdpPairFromPool httpIface calls p.ports).1 opened))
        (SocketHelper.bindUdpPairFromPool httpIface calls p.ports).2.pool
  | relay (clientAddr localAddr : SockAddr) (config : RtspMitmConfig) (request : Bytes) :
      Creates cfg httpIface p
        (.rtsp (.start cfg p.pool p.stats clientAddr localAddr config request)) p.ports

/-- A step creates a client, or changes one, or removes one. -/
theorem step_cases (h : (system cfg httpIface mitmIface).step p e = some t) :
    (∃ fd c ports, Creates cfg httpIface p c ports ∧ t = { p with ports := ports }.create fd c) ∨
    (∃ fd c c' ports, p.loop.getClientFromMap fd = some c ∧ Moves cfg mitmIface p c c' ports ∧
      t = { p with ports := ports }.update fd c') ∨
    ∃ fd, t = p.remove fd := by
  cases e with
  | createHttp fd ctx calls opened =>
    cases h
    exact .inl ⟨fd, _, _, .http ctx calls opened, rfl⟩
  | createRelay fd clientAddr localAddr config request =>
    cases h
    exact .inl ⟨fd, _, _, .relay clientAddr localAddr config request, rfl⟩
  | http fd e =>
    simp only [system] at h
    split at h
    case h_1 s hget =>
      rw [Option.ite_none_right_eq_some] at h
      obtain ⟨-, ht⟩ := h
      cases ht
      exact .inr (.inl ⟨fd, _, _, _, hget, .http s e, rfl⟩)
    case h_2 => cases h
  | relay fd e upstream downstream =>
    simp only [system] at h
    split at h
    case h_1 s hget =>
      rw [Option.ite_none_right_eq_some] at h
      obtain ⟨-, ht⟩ := h
      split at ht
      case h_1 v hv =>
        cases ht
        exact .inr (.inl ⟨fd, _, _, _, hget, .relay s v e upstream downstream hv, rfl⟩)
      case h_2 => cases ht
    case h_2 => cases h
  | remove fd =>
    cases h
    exact .inr (.inr ⟨fd, rfl⟩)

theorem setClient_split {before behind : List (Nat × ProxyClient)} {d : ProxyClient}
    (hbefore : ∀ q ∈ before, q.1 ≠ fd) :
    setClient fd c' (before ++ (fd, d) :: behind) = before ++ (fd, c') :: behind := by
  induction before with
  | nil => exact if_pos rfl
  | cons q qs ih =>
    rw [List.forall_mem_cons] at hbefore
    rw [List.cons_append, setClient, if_neg hbefore.1, ih hbefore.2, List.cons_append]

/-- A client among the others, and how these stand when it is another one. -/
theorem clients_update (hget : p.loop.getClientFromMap fd = some c) : ∃ before behind,
    p.clients = before ++ c :: behind ∧
      ∀ ports c', ({ p with ports := ports }.update fd c').clients = before ++ c' :: behind := by
  obtain ⟨before, behind, hmap, hbefore⟩ := List.lookup_eq_some_iff.1 hget
  have hne : ∀ q ∈ before, q.1 ≠ fd := by
    intro q hq heq
    have hq := hbefore q hq
    rw [heq] at hq
    simp at hq
  refine ⟨before.map Prod.snd, behind.map Prod.snd, ?_, fun ports c' => ?_⟩
  · rw [clients, hmap, List.map_append, List.map_cons]
  · rw [clients, update]
    dsimp only
    rw [hmap, setClient_split hne, List.map_append, List.map_cons]

/-- A client that is created is the first one, or there is no room for it. -/
theorem create_cases (fd : Nat) (c : ProxyClient) (p : Process) :
    (∃ loop : EpollLoop ProxyClient, loop.clientPtrMap.map Prod.snd = c :: p.clients ∧
      p.create fd c = { p with pool := c.pool, stats := c.stats, loop := loop }) ∨
    p.create fd c = { p with pool := c.pool, stats := c.stats }.destroy c := by
  rw [create, EpollLoop.addClientToMap]
  rcases p.loop.getClientFromMap fd with _ | old
  · exact .inl ⟨_, rfl, rfl⟩
  · exact .inr rfl

/-- A client that is removed is destroyed. -/
theorem remove_cases (fd : Nat) (p : Process) :
    (∃ loop : EpollLoop ProxyClient, loop.clientPtrMap = p.loop.clientPtrMap ∧
      p.remove fd = { p with loop := loop }) ∨
    ∃ c before behind, ∃ loop : EpollLoop ProxyClient, p.clients = before ++ c :: behind ∧
      loop.clientPtrMap.map Prod.snd = before ++ behind ∧
      p.remove fd = { p with loop := loop }.destroy c := by
  rw [remove]
  rcases hget : p.loop.getClientFromMap fd with _ | c
  · refine .inl ⟨(p.loop.removeClientFromMap fd).2, ?_, ?_⟩
    · rw [EpollLoop.removeClientFromMap, List.eraseP_of_forall_not]
      intro q hq heq
      have hne := List.lookup_eq_none_iff.1 hget q hq
      rw [of_decide_eq_true heq] at hne
      simp at hne
    · rw [EpollLoop.removeClientFromMap, hget]
  · obtain ⟨before, behind, hmap, hrest⟩ := EpollLoop.exists_split_of_get hget
    refine .inr ⟨c, before.map Prod.snd, behind.map Prod.snd, (p.loop.removeClientFromMap fd).2,
      ?_, ?_, ?_⟩
    · rw [clients, hmap, List.map_append, List.map_cons]
    · rw [hrest, List.map_append]
    · rw [EpollLoop.removeClientFromMap, hget]

end Process

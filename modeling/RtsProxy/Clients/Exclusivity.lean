import RtsProxy.Clients.Process

/-!
# Exclusivity of ports

A session keeps the first port of each of its pairs, also of one that could not be bound, and gives
the pairs back when it is destroyed. All of them are its own (`Process.Exclusive`).

* `Owned.reserve`, `owned_releaseAll`: a pair is reserved, and given back;
* `Moves.exclusive`: a session takes a step;
* `Process.exclusive_of_run`: no two sessions of a process ever share a port.
-/

open Text SocketHelper

/-- The ports of a pair, if it is one. -/
def pairPorts (port : Nat) : List Nat := if port = 0 then [] else [port, port + 1]

@[simp] theorem pairPorts_zero : pairPorts 0 = [] := if_pos rfl

theorem pairPorts_of_ne {port : Nat} (h : port ≠ 0) : pairPorts port = [port, port + 1] := if_neg h

/-- A pair is reserved: it gets an owner. -/
theorem Owned.reserve {held : List Nat} {before pool : PortPool} {port : Nat}
    (h : Owned held before.usedPorts) (hport : Reserved before pool port) :
    Owned (pairPorts port ++ held) pool.usedPorts := by
  by_cases hzero : port = 0
  · rw [hzero, pairPorts_zero, List.nil_append]
    exact h.mono hport.subset
  · obtain ⟨-, hfree, hfree', hused, hused'⟩ := hport.fresh hzero
    rw [pairPorts_of_ne hzero]
    refine h.acquire hport.subset (by simp) fun x hx => ?_
    rcases List.mem_pair.1 hx with rfl | rfl
    · exact ⟨hfree, hused⟩
    · exact ⟨hfree', hused'⟩

/-- Pairs are given back, and nothing else, by induction on the list of them. -/
theorem owned_releaseAll {held : List Nat} (ports : List Nat) {pool : PortPool}
    (hpairs : ∀ port ∈ ports, port ≠ 0 → PortPool.IsPair port)
    (h : Owned (ports.flatMap pairPorts ++ held) pool.usedPorts) :
    Owned held (ports.foldl (fun pool port => pool.releasePair port) pool).usedPorts := by
  induction ports generalizing pool with
  | nil => exact h
  | cons port ports ih =>
    rw [List.forall_mem_cons] at hpairs
    rw [List.flatMap_cons, List.append_assoc] at h
    refine ih hpairs.2 (h.release fun x hx hnot => ?_)
    by_cases hzero : port = 0
    · subst hzero
      exact hx
    · rw [pairPorts_of_ne hzero, List.mem_pair, not_or] at hnot
      exact (PortPool.mem_used_release (hpairs.1 hzero)).2 ⟨hnot.1, hnot.2, hx⟩

namespace ProxyClient

/-- The ports that a client keeps to itself, bound or not. -/
def held (c : ProxyClient) : List Nat := c.rtpPorts.flatMap pairPorts

/-- The ports of its pairs that have been bound: of a relay, the second port of a pair is set
    then. -/
def bound : ProxyClient → List Nat
  | http s => if s.rtpReady then [s.rtpPort, s.rtpPort + 1] else []
  | rtsp s =>
    (if s.localRtcpUsPort = s.localRtpUsPort + 1 then [s.localRtpUsPort, s.localRtcpUsPort] else []) ++
    if s.localRtcpDsPort = s.localRtpDsPort + 1 then [s.localRtpDsPort, s.localRtcpDsPort] else []

/-- A pair that has been bound has ports. -/
def HasPorts : ProxyClient → Prop
  | http s => s.rtpReady = true → s.rtpPort ≠ 0
  | rtsp s => s.localRtcpUsPort ≠ 1 ∧ s.localRtcpDsPort ≠ 1

theorem bound_subset_held {c : ProxyClient} (h : c.HasPorts) : ∀ x ∈ c.bound, x ∈ c.held := by
  intro x hx
  rcases c with s | s
  · rw [bound] at hx
    split at hx
    case isTrue hready =>
      rw [held, rtpPorts, List.flatMap_singleton, pairPorts_of_ne (h hready)]
      exact hx
    case isFalse => cases hx
  · -- the pair towards the upstream, and then that towards the client
    have hpair : ∀ rtp rtcp : Nat, rtcp ≠ 1 →
        x ∈ (if rtcp = rtp + 1 then [rtp, rtcp] else []) → x ∈ pairPorts rtp := by
      intro rtp rtcp hne hmem
      split at hmem
      case isTrue heq =>
        have hzero : rtp ≠ 0 := by omega
        rw [pairPorts_of_ne hzero, ← heq]
        exact hmem
      case isFalse => cases hmem
    rw [held, rtpPorts, List.flatMap_cons, List.flatMap_singleton, List.mem_append]
    exact (List.mem_append.1 hx).imp (hpair _ _ h.1) (hpair _ _ h.2)

end ProxyClient

namespace Process

variable {cfg : ServerConfig} {httpIface mitmIface : Bytes} {p t : Process}

/-- Every port that a client keeps is its own, and in use. -/
structure Exclusive (cs : List ProxyClient) (ports : PortPool) : Prop where
  owned : Owned (cs.flatMap ProxyClient.held) ports.usedPorts
  pairs : ∀ c ∈ cs, ∀ port ∈ c.rtpPorts, port ≠ 0 → PortPool.IsPair port
  hasPorts : ∀ c ∈ cs, c.HasPorts

/-- The clients in another order. -/
theorem Exclusive.perm {cs cs' : List ProxyClient} {ports : PortPool} (h : Exclusive cs ports)
    (hperm : cs.Perm cs') : Exclusive cs' ports :=
  ⟨h.owned.perm (hperm.flatMap_right _), fun c hc => h.pairs c (hperm.mem_iff.2 hc),
    fun c hc => h.hasPorts c (hperm.mem_iff.2 hc)⟩

/-- A client is destroyed. -/
theorem Exclusive.destroy {c : ProxyClient} {cs : List ProxyClient} {ports : PortPool}
    (h : Exclusive (c :: cs) ports) :
    Exclusive cs (c.rtpPorts.foldl (fun ports port => ports.releasePair port) ports) :=
  ⟨owned_releaseAll c.rtpPorts (h.pairs c List.mem_cons_self) h.owned,
    fun d hd => h.pairs d (List.mem_cons_of_mem c hd),
    fun d hd => h.hasPorts d (List.mem_cons_of_mem c hd)⟩

theorem Exclusive.creates {c : ProxyClient} {cs : List ProxyClient} {ports : PortPool}
    (h : Exclusive cs p.ports) (hc : Creates cfg httpIface p c ports) :
    Exclusive (c :: cs) ports := by
  rcases hc with ⟨ctx, calls, opened⟩ | ⟨clientAddr, localAddr, config, request⟩
  · obtain ⟨hreserved, hbound⟩ := bindPair_ports httpIface calls p.ports
    have hsockets := RtspToHttpClient.sockets_start cfg p.pool p.stats ctx
      (bindUdpPairFromPool httpIface calls p.ports).2.rtpPort
      (bindUdpPairFromPool httpIface calls p.ports).1 opened
    obtain ⟨hport, hready⟩ := Prod.mk.inj hsockets
    refine ⟨?_, List.forall_mem_cons.2 ⟨?_, h.pairs⟩, List.forall_mem_cons.2 ⟨?_, h.hasPorts⟩⟩
    · rw [List.flatMap_cons, ProxyClient.held, ProxyClient.rtpPorts, List.flatMap_singleton, hport]
      exact h.owned.reserve hreserved
    · intro port hmem hne
      rw [ProxyClient.rtpPorts, List.mem_singleton, hport] at hmem
      rw [hmem] at hne ⊢
      exact (hreserved.fresh hne).1
    · rw [ProxyClient.HasPorts, hready, hport]
      exact hbound
  · refine ⟨?_, List.forall_mem_cons.2 ⟨?_, h.pairs⟩, List.forall_mem_cons.2 ⟨?_, h.hasPorts⟩⟩
    · exact h.owned
    · intro port hmem hne
      rcases List.mem_pair.1 hmem with rfl | rfl <;> exact absurd rfl hne
    · exact ⟨Nat.zero_ne_one, Nat.zero_ne_one⟩

/-! ## The pairs of a relay -/

section Relay

variable {s : RtspToRtspClient} {held : List Nat}

/-- The ports that a delivery keeps. -/
def deliveryHeld (d : Delivery) : List Nat :=
  pairPorts d.localRtpUsPort ++ pairPorts d.localRtpDsPort

theorem held_rtsp (s : RtspToRtspClient) : (ProxyClient.rtsp s).held = deliveryHeld s.delivery := by
  rw [ProxyClient.held, ProxyClient.rtpPorts, List.flatMap_cons, List.flatMap_singleton]
  rfl

/-- What holds of the ports of a delivery, those of all others being `held`. -/
structure OwnsPorts (held : List Nat) (ports : PortPool) (d : Delivery) : Prop where
  owned : Owned (deliveryHeld d ++ held) ports.usedPorts
  upstream : d.localRtpUsPort ≠ 0 → PortPool.IsPair d.localRtpUsPort
  downstream : d.localRtpDsPort ≠ 0 → PortPool.IsPair d.localRtpDsPort
  hasPorts : d.localRtcpUsPort ≠ 1 ∧ d.localRtcpDsPort ≠ 1

theorem OwnsPorts.mono {d : Delivery} {ports ports' : PortPool} (h : OwnsPorts held ports d)
    (hused : ports.usedPorts ⊆ ports'.usedPorts) : OwnsPorts held ports' d :=
  ⟨h.owned.mono hused, h.upstream, h.downstream, h.hasPorts⟩

/-- Only the ports of a delivery matter. -/
theorem OwnsPorts.congr {d d' : Delivery} {ports : PortPool} (h : OwnsPorts held ports d)
    (hus : d'.localRtpUsPort = d.localRtpUsPort) (hus' : d'.localRtcpUsPort = d.localRtcpUsPort)
    (hds : d'.localRtpDsPort = d.localRtpDsPort) (hds' : d'.localRtcpDsPort = d.localRtcpDsPort) :
    OwnsPorts held ports d' := by
  obtain ⟨howned, hupstream, hdownstream, hports⟩ := h
  rw [deliveryHeld, ← hus, ← hds] at howned
  rw [← hus] at hupstream
  rw [← hds] at hdownstream
  rw [← hus', ← hds'] at hports
  exact ⟨howned, hupstream, hdownstream, hports⟩

/-- The first port of the pair towards the upstream is another one, which has been reserved. -/
theorem OwnsPorts.reserveUpstream {d : Delivery} {ports pool : PortPool} {us rtcp : Nat}
    (h : OwnsPorts held ports d) (hus : Reserved ports pool us) (hrtcp : rtcp ≠ 1) :
    OwnsPorts held pool { d with localRtpUsPort := us, localRtcpUsPort := rtcp } := by
  refine ⟨?_, fun hne => (hus.fresh hne).1, h.downstream, hrtcp, h.hasPorts.2⟩
  have howned := h.owned
  rw [deliveryHeld, List.append_assoc] at howned ⊢
  exact (howned.release fun x hx _ => hx).reserve hus

/-- So is that of the pair towards the client. -/
theorem OwnsPorts.reserveDownstream {d : Delivery} {ports pool : PortPool} {ds rtcp : Nat}
    (h : OwnsPorts held ports d) (hds : Reserved ports pool ds) (hrtcp : rtcp ≠ 1) :
    OwnsPorts held pool { d with localRtpDsPort := ds, localRtcpDsPort := rtcp } := by
  refine ⟨?_, h.upstream, fun hne => (hds.fresh hne).1, h.hasPorts.1, hrtcp⟩
  have howned := h.owned.perm (List.Perm.append_right held List.perm_append_comm)
  rw [List.append_assoc] at howned
  have hreserved := (howned.release fun x hx _ => hx).reserve hds
  refine hreserved.perm ?_
  rw [← List.append_assoc]
  exact List.Perm.append_right held List.perm_append_comm

/-- The pairs of a relay are bound: whatever of it fails, what is left in the session is its own. -/
theorem OwnsPorts.initRelaySockets {ports : PortPool} (iface : Bytes)
    (upstream downstream : Nat → PairCalls) (h : OwnsPorts held ports s.delivery) :
    OwnsPorts held (bindRelayPorts iface upstream downstream ports).2
      (s.initRelaySockets (bindRelayPorts iface upstream downstream ports).1).2.delivery := by
  obtain ⟨hus, husbound⟩ := bindPair_ports iface upstream ports
  rw [bindRelayPorts]
  generalize bindUdpPairFromPool iface upstream ports = us at hus husbound ⊢
  rcases us with ⟨ok, us⟩
  rcases ok with _ | _
  · exact h.reserveUpstream hus h.hasPorts.1
  · have husne : us.rtpPort ≠ 0 := husbound rfl
    have hfirst := h.reserveUpstream hus (show us.rtpPort + 1 ≠ 1 by omega)
    obtain ⟨hds, hdsbound⟩ := bindPair_ports [] downstream us.pool
    dsimp only
    generalize bindUdpPairFromPool [] downstream us.pool = ds at hds hdsbound ⊢
    rcases ds with ⟨ok, ds⟩
    rcases ok with _ | _
    · exact hfirst.reserveDownstream hds h.hasPorts.2
    · have hdsne : ds.rtpPort ≠ 0 := hdsbound rfl
      exact hfirst.reserveDownstream hds (show ds.rtpPort + 1 ≠ 1 by omega)

/-- The pairs that are bound stay in use. -/
theorem usedPorts_bindRelayPorts (iface : Bytes) (upstream downstream : Nat → PairCalls)
    (ports : PortPool) :
    ports.usedPorts ⊆ (bindRelayPorts iface upstream downstream ports).2.usedPorts := by
  have hus := (bindPair_ports iface upstream ports).1.subset
  rw [bindRelayPorts]
  dsimp only
  split
  · exact hus.trans (bindPair_ports [] downstream _).1.subset
  · exact hus

theorem usedPorts_withPorts (iface : Bytes) (upstream downstream : Nat → PairCalls)
    (s : RtspToRtspClient) (ports : PortPool) (e : RtspToRtspClient.Event) :
    ports.usedPorts ⊆ (withPorts iface upstream downstream s ports e).2.usedPorts := by
  rw [withPorts.eq_def]
  split
  · split
    · exact usedPorts_bindRelayPorts iface upstream downstream ports
    · exact Finset.Subset.refl _
  · exact Finset.Subset.refl _

/-- The ports that a turn gets which needs them. -/
theorem withPorts_of_needsPorts {iface : Bytes} {upstream downstream : Nat → PairCalls}
    {ports : PortPool} {e : RtspToRtspClient.Event} {given : RelayPorts} (hneeds : needsPorts s = true)
    (h : (withPorts iface upstream downstream s ports e).1 = .downstreamTurn given) :
    given = (bindRelayPorts iface upstream downstream ports).1 ∧
      (withPorts iface upstream downstream s ports e).2 =
        (bindRelayPorts iface upstream downstream ports).2 := by
  rw [withPorts.eq_def] at h ⊢
  split at h
  · rw [if_pos hneeds] at h ⊢
    cases h
    exact ⟨rfl, rfl⟩
  · rename_i hother
    exact absurd h (hother given)

/-- A step of a relay: what it keeps is its own afterwards. -/
theorem OwnsPorts.step {t : RtspToRtspClient} {ports : PortPool} {e : RtspToRtspClient.Event}
    {iface : Bytes} {upstream downstream : Nat → PairCalls} (h : OwnsPorts held ports s.delivery)
    (hst : RtspToRtspClient.step cfg s (withPorts iface upstream downstream s ports e).1 = .ok t) :
    OwnsPorts held (withPorts iface upstream downstream s ports e).2 t.delivery := by
  have hmono := usedPorts_withPorts iface upstream downstream s ports e
  rcases RtspToRtspClient.delivery_of_step hst with hsame | ⟨d, -, -, hmoved⟩ | ⟨d, -, -, hmoved⟩ |
    ⟨given, req, u, hevent, hreq, hsetup, hu, hdelivery⟩
  · rw [hsame]
    exact h.mono hmono
  · rw [hmoved]
    exact (h.mono hmono).congr rfl rfl rfl rfl
  · rw [hmoved]
    exact (h.mono hmono).congr rfl rfl rfl rfl
  · -- what the client asks for does not touch the ports
    have howns : OwnsPorts held ports u.delivery := by
      obtain ⟨channels, -, hu⟩ := Except.bind_eq_ok_iff.1 hu
      rcases channels with _ | ⟨rtp, rtcp⟩
      · obtain ⟨pair, -, hu⟩ := Except.bind_eq_ok_iff.1 hu
        rcases pair with _ | ⟨rtp, rtcp⟩
        all_goals
          cases hu
          exact h.congr rfl rfl rfl rfl
      · cases hu
        exact h.congr rfl rfl rfl rfl
    rw [hdelivery]
    rcases hready : s.relayReady with _ | _
    · have hneeds : needsPorts s = true := by
        rw [needsPorts, hready, hreq, Option.any_some, hsetup]
        rfl
      obtain ⟨hgiven, hports⟩ := withPorts_of_needsPorts hneeds hevent
      rw [hgiven, hports]
      exact howns.initRelaySockets iface upstream downstream
    · exact howns.mono hmono

end Relay

/-! ## Runs -/

/-- A client takes a step. -/
theorem Moves.exclusive {c c' : ProxyClient} {cs : List ProxyClient} {ports : PortPool}
    (h : Moves cfg mitmIface p c c' ports) (hc : Exclusive (c :: cs) p.ports) :
    Exclusive (c' :: cs) ports := by
  obtain ⟨howned, hpairs, hports⟩ := hc
  rw [List.forall_mem_cons] at hpairs hports
  rcases h with ⟨s, e⟩ | ⟨s, t, e, upstream, downstream, hst⟩
  · have hsockets := RtspToHttpClient.sockets_of_step cfg
      { s with pool := p.pool, stats := p.stats } e
    obtain ⟨hport, hready⟩ := Prod.mk.inj hsockets
    have hsame : (ProxyClient.http (RtspToHttpClient.step cfg
        { s with pool := p.pool, stats := p.stats } e)).rtpPorts = (ProxyClient.http s).rtpPorts := by
      rw [ProxyClient.rtpPorts, hport]
      rfl
    refine ⟨?_, List.forall_mem_cons.2 ⟨?_, hpairs.2⟩, List.forall_mem_cons.2 ⟨?_, hports.2⟩⟩
    · rw [List.flatMap_cons, ProxyClient.held, hsame]
      exact howned
    · rw [hsame]
      exact hpairs.1
    · rw [ProxyClient.HasPorts, hport, hready]
      exact hports.1
  · have howns : OwnsPorts (cs.flatMap ProxyClient.held) p.ports s.delivery := by
      rw [List.flatMap_cons, held_rtsp] at howned
      exact ⟨howned, hpairs.1 _ List.mem_cons_self,
        hpairs.1 _ (List.mem_cons_of_mem _ List.mem_cons_self), hports.1⟩
    obtain ⟨howned', hup, hdown, hhas⟩ := OwnsPorts.step
      (s := { s with pool := p.pool, stats := p.stats }) howns hst
    refine ⟨?_, List.forall_mem_cons.2 ⟨?_, hpairs.2⟩, List.forall_mem_cons.2 ⟨hhas, hports.2⟩⟩
    · rw [List.flatMap_cons, held_rtsp]
      exact howned'
    · intro port hmem
      rcases List.mem_pair.1 hmem with rfl | rfl
      · exact hup
      · exact hdown

theorem Exclusive.step {e : Event} (h : Exclusive p.clients p.ports)
    (hst : (system cfg httpIface mitmIface).step p e = some t) : Exclusive t.clients t.ports := by
  rcases step_cases hst with ⟨fd, c, ports, hc, rfl⟩ | ⟨fd, c, c', ports, hget, hmoves, rfl⟩ |
    ⟨fd, rfl⟩
  · have hnew := h.creates hc
    rcases create_cases fd c { p with ports := ports } with ⟨loop, hclients, heq⟩ | heq
    · rw [heq, clients]
      dsimp only
      rw [hclients]
      exact hnew
    · rw [heq]
      exact hnew.destroy
  · obtain ⟨before, behind, hclients, hupdate⟩ := clients_update hget
    rw [hclients] at h
    rw [hupdate]
    exact (hmoves.exclusive (h.perm List.perm_middle)).perm List.perm_middle.symm
  · rcases remove_cases fd p with ⟨loop, hmap, heq⟩ | ⟨c, before, behind, loop, hclients, hmap, heq⟩
    · rw [heq, clients]
      dsimp only
      rw [hmap]
      exact h
    · rw [hclients] at h
      have hrest := (h.perm List.perm_middle).destroy
      rw [heq, clients, Process.destroy]
      dsimp only
      rw [hmap]
      exact hrest

/-- In every run the ports that a session has bound are in use, no other session has bound them,
    and they stay in use when another one is destroyed. -/
theorem exclusive_of_run (hs : Started p) (h : (system cfg httpIface mitmIface).Run p t) :
    (∀ (i j : Nat) (c d : ProxyClient), i ≠ j → t.clients[i]? = some c → t.clients[j]? = some d →
      ∀ x ∈ c.bound, x ∉ d.bound) ∧
    (∀ c ∈ t.clients, ∀ x ∈ c.bound, x ∈ t.ports.usedPorts) ∧
    ∀ fd, ∀ c ∈ (t.remove fd).clients, ∀ x ∈ c.bound, x ∈ (t.remove fd).ports.usedPorts := by
  have hexclusive : ∀ u, (system cfg httpIface mitmIface).Run p u → Exclusive u.clients u.ports := by
    intro u hu
    refine System.run_invariant (P := fun p : Process => Exclusive p.clients p.ports)
      (fun p e t hP hst => hP.step hst) hu ?_
    obtain ⟨bufSize, poolSize, stats, ports, rfl⟩ := hs
    exact ⟨Owned.nil _, fun c hc => absurd hc List.not_mem_nil, fun c hc => absurd hc List.not_mem_nil⟩
  have hused : ∀ u : Process, Exclusive u.clients u.ports →
      ∀ c ∈ u.clients, ∀ x ∈ c.bound, x ∈ u.ports.usedPorts := by
    intro u hu c hc x hx
    refine hu.owned.subset x (List.mem_flatMap.2 ⟨c, hc, ?_⟩)
    exact ProxyClient.bound_subset_held (hu.hasPorts c hc) x hx
  refine ⟨fun i j c d hij hc hd x hx hx' => ?_, hused t (hexclusive t h), fun fd => ?_⟩
  · have ht := hexclusive t h
    have hc' := List.mem_of_getElem? hc
    have hd' := List.mem_of_getElem? hd
    exact ht.owned.not_mem_of_ne hij hc hd (ProxyClient.bound_subset_held (ht.hasPorts c hc') x hx)
      (ProxyClient.bound_subset_held (ht.hasPorts d hd') x hx')
  · exact hused _ (hexclusive _ (h.tail ⟨.remove fd, rfl⟩))

/-- The sockets of a pair, the second of which cannot be bound at the first try. -/
def secondTry (tries : Nat) : PairCalls :=
  ⟨{ socket := some (2 * tries) }, { socket := some (2 * tries + 1), bind := tries ≠ 9 }⟩

/-- An HTTP session, and a relay whose client sends a `SETUP`. -/
def sharingEvents : List Event :=
  [.createHttp 5 {} secondTry true, .createRelay 6 .zero .zero {} [],
    .relay 6 RtspToRtspClient.connectEvent secondTry secondTry,
    .relay 6 (.receiveDownstream (ascii "SETUP rtsp://10.0.0.9/a RTSP/1.0\r\nCSeq: 1\r\n\r\n"))
      secondTry secondTry,
    .relay 6 (.downstreamTurn ⟨.failed 0, .failed 0⟩) secondTry secondTry]

theorem exclusive_of_run_sharing : ∃ t, (system {} [] []).Run { pool := .new 2048 1024 } t ∧
    t.clients.map ProxyClient.bound = [[20006, 20007, 20010, 20011], [20002, 20003]] ∧
    ∀ c ∈ t.clients, ∀ x ∈ c.bound, x ∈ t.ports.usedPorts := by
  have hrun : ((system {} [] []).runEvents { pool := .new 2048 1024 } sharingEvents).map (fun t =>
      t.clients.map ProxyClient.bound) = some [[20006, 20007, 20010, 20011], [20002, 20003]] := by
    decide +kernel
  obtain ⟨t, ht, hbound⟩ := Option.map_eq_some_iff.1 hrun
  have h := System.run_of_runEvents ht
  exact ⟨t, h, hbound, (exclusive_of_run ⟨2048, 1024, {}, {}, rfl⟩ h).2.1⟩

end Process

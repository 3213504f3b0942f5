import RtsProxy.Clients.Process
import RtsProxy.Clients.RtspToRtsp.Changes
import RtsProxy.Handlers.ApiHandle

/-!
# Conservation of blocks

Between the events of a process the blocks that are out of the pool are those of the packets that
wait for the clients.

* `RtspToHttpClient.balanced_step`, `RtspToRtspClient.balanced_step`: a step of a session takes
  out of the pool what it adds to the queue of its client;
* `Process.conserved_of_run`: so does a run of the process, with all its sessions.
-/

open Text Interleaved

/-! ## An HTTP session -/

namespace RtspToHttpClient

variable {cfg : ServerConfig} {s t : RtspToHttpClient} {k : Nat}

/-- Of the blocks that are out, the session has those of its queue; `k` are elsewhere. -/
def Balances (k : Nat) (s : RtspToHttpClient) : Prop :=
  s.pool.Balanced (k + s.sendQueue.packets.length)

theorem balances_of_buffers (h : t.buffers = s.buffers) : Balances k t ↔ Balances k s := by
  simp only [buffers, Prod.mk.injEq] at h
  obtain ⟨-, hpool, hqueue⟩ := h
  rw [Balances, Balances, hpool, hqueue]

/-- A packet in a block: the block goes to the queue, or is given back. -/
theorem balances_queuePacket (packet : Bytes)
    (h : s.pool.Balanced (k + s.sendQueue.packets.length + 1)) :
    Balances k (s.queuePacket packet) := by
  rw [queuePacket]
  rcases mediaItem packet with _ | item
  · exact h.release
  · rw [Balances]
    dsimp only
    rw [SendQueue.length_pushBounded]
    split
    · -- the oldest packet is dropped, and its block given back
      exact h.release
    · exact h

theorem balances_onRtpReadable (opened : Bool) (payload : Bytes) (h : Balances k s) :
    Balances k (s.onRtpReadable cfg opened payload) := by
  have hfill : ∀ n, (s.pool.acquire.write n).Balanced (k + s.sendQueue.packets.length + 1) :=
    fun n => (BufferPool.Balanced.acquire h).write n
  unfold onRtpReadable
  extract_lets data u out v w x y
  split
  · exact (hfill data.length).release
  · show Balances k y
    simp only [y]
    split
    · exact balances_queuePacket (s := w) out.packet (hfill data.length)
    · have hx : Balances k x := (hfill data.length).release
      split
      · exact hx
      · exact (balances_of_buffers (buffers_startSession opened out.packet)).2 hx

theorem balances_handleInterleavedPacket (channel : UInt8) (packet : Bytes) (h : Balances k s) :
    Balances k (s.handleInterleavedPacket cfg channel packet) := by
  have hfill : ∀ n, (s.pool.acquire.write n).Balanced (k + s.sendQueue.packets.length + 1) :=
    fun n => (BufferPool.Balanced.acquire h).write n
  unfold handleInterleavedPacket
  extract_lets data out u v
  split
  · exact h
  · show Balances k v
    simp only [v]
    split
    · exact balances_queuePacket (s := u) out.packet (hfill data.length)
    · exact (hfill data.length).release

theorem balances_clientSendTurn (r : SendResult) (h : Balances k s) :
    Balances k (s.clientSendTurn r).state := by
  unfold clientSendTurn
  rcases hq : s.sendQueue.packets with _ | ⟨p, ps⟩
  · exact h
  · dsimp only
    split
    · -- nothing is sent
      split
      · exact h
      · exact (balances_of_buffers buffers_onClientClosed).2 h
    · have hqueue : s.pool.Balanced (k + ps.length + 1) := by
        rw [Balances, hq] at h
        exact h
      by_cases hwhole : p.offset + r.taken p.rest.length = p.data.length
      all_goals
        have hlen := SendQueue.length_advance hq (r.taken p.rest.length)
        simp only [hwhole, if_true, if_false] at hlen ⊢
        rw [Turn.state, Balances]
        dsimp only
        rw [hlen]
      · exact hqueue.release
      · exact hqueue

/-- A step takes out of the pool what it adds to the queue. -/
theorem balanced_step (cfg : ServerConfig) (s : RtspToHttpClient) (e : Event) (h : Balances k s) :
    Balances k (step cfg s e) := by
  cases e with
  | rtpReadable opened payload => exact balances_onRtpReadable opened payload h
  | rtspTurn =>
    show Balances k (ending (s.rtspTurn cfg))
    rw [rtspTurn_eq]
    rcases frontFrame s.respBuf with _ | ⟨channel, packet⟩
    · rcases frontMessage s.respBuf with _ | ⟨header, body, size⟩
      · exact h
      · have hcounted : (ending ((s.skipResp size).handleMessage cfg header body)).pool = s.pool ∧
            (ending ((s.skipResp size).handleMessage cfg header body)).sendQueue = s.sendQueue := by
          have hbuffers := @buffers_handleMessage cfg (s.skipResp size) header body
          simp only [buffers, Prod.mk.injEq] at hbuffers
          exact hbuffers.2
        show Balances k (ending ((s.skipResp size).handleMessage cfg header body))
        rw [Balances, hcounted.1, hcounted.2]
        exact h
    · exact balances_handleInterleavedPacket (s := s.countReceived (4 + packet.length)) channel
        packet h
  | sendClient r => exact balances_clientSendTurn r h
  | clientSent =>
    show Balances k (s.onClientWritable [])
    rw [onClientWritable]
    split
    · exact h
    · exact h
  | rtspWritable calls => exact (balances_of_buffers (buffers_onRtspWritable calls)).2 h
  | receiveRtsp _ => exact h
  | rtspLost => exact (balances_of_buffers buffers_notifyClosed).2 h
  | clientClosed => exact (balances_of_buffers buffers_onClientClosed).2 h
  | timer => exact (balances_of_buffers buffers_handleTimer).2 h

/-- The head of the response is put into a block. -/
theorem balanced_start (cfg : ServerConfig) {pool : BufferPool} (stats : Statistics)
    (ctx : RtspCtx) (rtpPort : Nat) (rtpReady opened : Bool) (h : pool.Balanced k) :
    Balances k (start cfg pool stats ctx rtpPort rtpReady opened) := by
  unfold start
  extract_lets u src v w
  show Balances k w
  have hv : Balances k v := h.acquire.write responseHeader.length
  simp only [w]
  split
  · exact hv
  · exact (balances_of_buffers (s := { v with isInitOk := true })
      (buffers_sendRtspOption opened)).2 hv

end RtspToHttpClient

/-! ## A relayed session -/

/-- Of the blocks that are out, those of the queue are the session's; `k` are elsewhere. -/
def Core.Balances (k : Nat) (c : Core) : Prop := c.pool.Balanced (k + c.queue.packets.length)

namespace RtspToRtspClient

variable {cfg : ServerConfig} {s t : RtspToRtspClient} {e : Event} {k : Nat}

theorem balances_sendFrame? {c : Core} (frame : Option (UInt8 × Bytes)) (h : c.Balances k) :
    (c.sendFrame? frame).Balances k := by
  rcases frame with _ | ⟨channel, data⟩
  · exact h
  · have hfilled := ((((h.acquire.write 1).write 2).write 4).write
      (4 + frameLength c.pool.bufSize data.length))
    show (c.sendFrame channel data).Balances k
    rw [Core.sendFrame, Core.Balances]
    dsimp only
    rw [SendQueue.length_pushBounded]
    split
    · exact hfilled.release
    · exact hfilled

/-- Whatever a step does to the core, it takes out of the pool what it adds to the queue. -/
theorem Change.balances {c c' : Core} {frame : Option (UInt8 × Bytes)} {replies : Bytes → Prop}
    {pushes : List Pushed} (h : Change frame replies pushes c c') (hc : c.Balances k) :
    c'.Balances k := by
  cases h with
  | relayed n _ =>
    rcases n with _ | n
    · exact balances_sendFrame? frame hc
    · -- the block that is held is given back
      have hheld : (c.fill n).Balances (k + 1) := by
        have hfilled := hc.acquire.write n
        rwa [Nat.add_right_comm] at hfilled
      have hframed : ((c.fill n).sendFrame? frame).Balances (k + 1) :=
        balances_sendFrame? frame hheld
      rw [Core.Balances, Nat.add_right_comm] at hframed
      exact hframed.release
  | replied patched _ _ =>
    rw [Core.Balances, Core.queueResponse]
    dsimp only
    rw [SendQueue.push, List.length_append]
    exact hc.acquire.write patched.length
  | sent n _ _ =>
    rw [Core.advance]
    rcases hq : c.queue.packets with _ | ⟨p, ps⟩
    · exact hc
    · rw [Core.Balances, hq] at hc
      rw [Core.Balances]
      dsimp only
      rw [SendQueue.length_advance hq]
      split
      · exact BufferPool.Balanced.release hc
      · exact hc

theorem balanced_step (h : step cfg s e = .ok t) (hs : s.core.Balances k) : t.core.Balances k :=
  (change_of_step h).balances hs

end RtspToRtspClient

/-! ## The process -/

namespace Process

variable {cfg : ServerConfig} {httpIface mitmIface : Bytes} {p t : Process}

/-- How many packets wait for the clients. -/
def queued (cs : List ProxyClient) : Nat := (cs.map fun c => c.queue.packets.length).sum

theorem queued_split (before behind : List ProxyClient) (c : ProxyClient) :
    queued (before ++ c :: behind) = queued (before ++ behind) + c.queue.packets.length := by
  simp only [queued, List.map_append, List.map_cons, List.sum_append, List.sum_cons]
  omega

/-- The blocks that are out of the pool are those of the packets that wait for the clients. -/
def Conserved (p : Process) : Prop := p.pool.Balanced (queued p.clients)

/-- The blocks of a queue are given back one by one, by induction on it. -/
theorem balanced_releaseAll {pool : BufferPool} {k : Nat} (packets : List Packet)
    (h : pool.Balanced (k + packets.length)) :
    (packets.foldl (fun pool _ => pool.release) pool).Balanced k := by
  induction packets generalizing pool with
  | nil => exact h
  | cons packet packets ih => exact ih (BufferPool.Balanced.release h)

/-- A client that is destroyed gives its blocks back. -/
theorem conserved_destroy {c : ProxyClient}
    (h : p.pool.Balanced (queued p.clients + c.queue.packets.length)) :
    (p.destroy c).Conserved :=
  balanced_releaseAll c.queue.packets h

theorem Conserved.creates {c : ProxyClient} {ports : PortPool} (h : p.Conserved)
    (hc : Creates cfg httpIface p c ports) :
    c.pool.Balanced (queued p.clients + c.queue.packets.length) := by
  rcases hc with ⟨ctx, calls, opened⟩ | ⟨clientAddr, localAddr, config, request⟩
  · exact RtspToHttpClient.balanced_start cfg p.stats ctx _ _ opened h
  · exact h

theorem Moves.balanced {c c' : ProxyClient} {ports : PortPool} {k : Nat}
    (h : Moves cfg mitmIface p c c' ports) (hc : p.pool.Balanced (k + c.queue.packets.length)) :
    c'.pool.Balanced (k + c'.queue.packets.length) := by
  rcases h with ⟨s, e⟩ | ⟨s, t, e, upstream, downstream, hst⟩
  · exact RtspToHttpClient.balanced_step cfg { s with pool := p.pool, stats := p.stats } e hc
  · exact RtspToRtspClient.balanced_step hst hc

/-- Every step keeps the account. -/
theorem Conserved.step {e : Event} (h : p.Conserved)
    (hst : (system cfg httpIface mitmIface).step p e = some t) : t.Conserved := by
  rcases step_cases hst with ⟨fd, c, ports, hc, rfl⟩ | ⟨fd, c, c', ports, hget, hmoves, rfl⟩ |
    ⟨fd, rfl⟩
  · have hnew := h.creates hc
    rcases create_cases fd c { p with ports := ports } with ⟨loop, hclients, heq⟩ | heq
    · rw [heq, Conserved, clients]
      dsimp only
      rw [hclients]
      exact (queued_split [] p.clients c) ▸ hnew
    · rw [heq]
      exact conserved_destroy hnew
  · obtain ⟨before, behind, hclients, hupdate⟩ := clients_update hget
    rw [Conserved, hclients, queued_split] at h
    rw [Conserved, hupdate, queued_split]
    exact hmoves.balanced h
  · rcases remove_cases fd p with ⟨loop, hmap, heq⟩ | ⟨c, before, behind, loop, hclients, hmap, heq⟩
    · rw [heq, Conserved, clients]
      dsimp only
      rw [hmap]
      exact h
    · rw [Conserved, hclients, queued_split] at h
      rw [heq]
      refine conserved_destroy ?_
      rw [clients]
      dsimp only
      rw [hmap]
      exact h

/-- In every run the blocks that are out of the pool are those of the packets that wait for the
    clients; the status that is reported has them, and no fewer at the peak. -/
theorem conserved_of_run (hs : Started p) (h : (system cfg httpIface mitmIface).Run p t) :
    t.pool.available ≤ t.pool.totalAllocated ∧
    t.pool.totalAllocated - t.pool.available =
      (t.clients.map fun c => c.queue.packets.length).sum ∧
    (ApiHandle.statusReport t.pool t.stats t.clients.length).used =
      (t.clients.map fun c => c.queue.packets.length).sum ∧
    (ApiHandle.statusReport t.pool t.stats t.clients.length).used ≤
      (ApiHandle.statusReport t.pool t.stats t.clients.length).peak := by
  have hconserved : t.Conserved := by
    refine System.run_invariant (fun p e t hP hst => hP.step hst) h ?_
    obtain ⟨bufSize, poolSize, stats, ports, rfl⟩ := hs
    exact BufferPool.balanced_new bufSize poolSize
  obtain ⟨htotal, hpeak⟩ := hconserved
  have hused : t.pool.totalAllocated - t.pool.available = queued t.clients := by omega
  refine ⟨by omega, hused, hused, ?_⟩
  show t.pool.totalAllocated - t.pool.available ≤ t.pool.peakUsed
  omega

/-- Two clients come, and a packet for the first one; then it goes. -/
def passingEvents : List Event :=
  [.createHttp 5 { serverIp := ascii "10.0.0.9" } (fun _ => ⟨{ socket := some 7 }, { socket := some 8 }⟩)
      true,
    .createRelay 6 .zero .zero {} [],
    .http 5 (.rtpReadable true ([0x80, 33, 0, 0, 0, 0, 0, 0, 0, 0, 0, 0, 7] : Bytes))]

theorem conserved_of_run_passing : ∃ t, (system {} [] []).Run { pool := .new 2048 1024 } t ∧
    t.pool.available = 1022 ∧ (t.clients.map fun c => c.queue.packets.length).sum = 2 := by
  have hrun : ((system {} [] []).runEvents { pool := .new 2048 1024 } passingEvents).map (fun t =>
      (t.pool.available, t.pool.totalAllocated)) = some (1022, 1024) := by
    decide +kernel
  obtain ⟨t, ht, hcounts⟩ := Option.map_eq_some_iff.1 hrun
  obtain ⟨havailable, htotal⟩ := Prod.mk.inj hcounts
  have h := System.run_of_runEvents ht
  obtain ⟨-, hsum, -⟩ := conserved_of_run ⟨2048, 1024, {}, {}, rfl⟩ h
  refine ⟨t, h, havailable, hsum.symm.trans ?_⟩
  rw [htotal, havailable]

end Process

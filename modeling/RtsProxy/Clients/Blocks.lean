import RtsProxy.Clients.RtspToHttp.Stream
import RtsProxy.Clients.RtspToRtsp.Blocks

/-!
# Blocks of the pool

Both kinds of sessions copy what they relay into blocks of the pool. Packets are cut to the size
of a block; the head of an HTTP response is not, nor is a reply that is relayed.

* `RtspToHttpClient.inBounds_iff_of_run`: an HTTP session keeps to its blocks exactly if the head
  of the response fits;
* `blocks_of_runs`: so does a relayed session whose replies fit.
-/

open Text

namespace RtspToHttpClient

variable {cfg : ServerConfig} {cond : RtspToHttpClient → Event → Prop} {s t : RtspToHttpClient}

/-- No write has gone beyond its block, as far as the outlet tells. -/
theorem inBounds_iff (s : RtspToHttpClient) :
    s.pool.InBounds ↔ ∀ stop ∈ s.outlet.writes, stop ≤ s.outlet.bufSize := Iff.rfl

theorem length_received_le (s : RtspToHttpClient) (packet : Bytes) :
    (s.received packet).length ≤ s.pool.bufSize := by
  rw [received, List.length_take]
  exact Nat.min_le_left _ _

/-- A step keeps to the blocks exactly if they have been kept to before. -/
theorem inBounds_step (cfg : ServerConfig) (s : RtspToHttpClient) (e : Event) :
    (step cfg s e).pool.bufSize = s.pool.bufSize ∧
      ((step cfg s e).pool.InBounds ↔ s.pool.InBounds) := by
  rw [inBounds_iff (step cfg s e)]
  rcases outlet_of_step cfg s e with ⟨packet, -, hout⟩ | hout | ⟨n, -, hout⟩
  · refine ⟨congrArg Outlet.bufSize hout, ?_⟩
    rw [hout]
    show (∀ stop ∈ (s.received packet).length :: s.pool.writes, stop ≤ s.pool.bufSize) ↔ _
    rw [List.forall_mem_cons, and_iff_right (length_received_le s packet)]
    exact Iff.rfl
  · exact ⟨congrArg Outlet.bufSize hout, by rw [hout]; exact Iff.rfl⟩
  · exact ⟨congrArg Outlet.bufSize hout, by rw [hout]; exact Iff.rfl⟩

/-- A session keeps to its blocks exactly if the head of the response fits into one. -/
theorem inBounds_iff_of_run (hs : Started cfg s) (h : Run cfg cond s t) :
    t.pool.InBounds ↔ responseHeader.length ≤ t.pool.bufSize := by
  refine run_invariant (P := fun u => u.pool.InBounds ↔ responseHeader.length ≤ u.pool.bufSize)
    (fun u e hu _ _ => ?_) h ?_
  · obtain ⟨hsize, hbounds⟩ := inBounds_step cfg u e
    rw [hbounds, hsize, hu]
  · obtain ⟨pool, stats, ctx, rtpPort, rtpReady, opened, hpool, rfl⟩ := hs
    have hout := outlet_start cfg pool stats ctx rtpPort rtpReady opened
    have hsize : (start cfg pool stats ctx rtpPort rtpReady opened).pool.bufSize = pool.bufSize :=
      congrArg Outlet.bufSize hout
    rw [inBounds_iff, hsize, hout]
    show (∀ stop ∈ responseHeader.length :: pool.writes, stop ≤ pool.bufSize) ↔ _
    rw [List.forall_mem_cons]
    exact and_iff_left hpool

end RtspToHttpClient

/-- The blocks are kept to in every run of a relayed session whose frames and replies fit, and in
    every run of an HTTP session exactly if the head of the response fits. -/
theorem blocks_of_runs (cfg : ServerConfig) :
    (∀ s t, RtspToRtspClient.Started cfg s →
      RtspToRtspClient.Run cfg (RtspToRtspClient.FitsBlocks cfg) s t → t.pool.InBounds) ∧
    ∀ s t, RtspToHttpClient.Started cfg s → RtspToHttpClient.Run cfg RtspToHttpClient.anyStep s t →
      (t.pool.InBounds ↔ RtspToHttpClient.responseHeader.length ≤ t.pool.bufSize) := by
  refine ⟨fun s t hs h => RtspToRtspClient.inBounds_of_run h ?_, fun s t hs h =>
    RtspToHttpClient.inBounds_iff_of_run hs h⟩
  obtain ⟨_, _, _, _, _, _, _, hpool, _, rfl⟩ := hs
  exact hpool

/-- A short reply is relayed. -/
def shortReplyEvents : List RtspToRtspClient.Event :=
  [RtspToRtspClient.connectEvent,
    .receiveUpstream (ascii "RTSP/1.0 200 OK\r\nCSeq: 1\r\n\r\n"), .upstreamTurn {}]

theorem blocks_of_runs_short :
    (∃ t, RtspToRtspClient.runEvents {} (RtspToRtspClient.FitsBlocks {})
      RtspToRtspClient.liveSession shortReplyEvents = some t ∧ t.pool.writes = [28] ∧
      t.pool.InBounds) ∧
    ∃ t, RtspToHttpClient.runEvents {} RtspToHttpClient.anyStep RtspToHttpClient.liveSession
      [RtspToHttpClient.packetEvent] = some t ∧ t.pool.writes = [13, 64] ∧ t.pool.InBounds := by
  constructor
  · have hrun : (RtspToRtspClient.runEvents {} (RtspToRtspClient.FitsBlocks {})
        RtspToRtspClient.liveSession shortReplyEvents).map (fun t => t.pool.writes) = some [28] := by
      decide +kernel
    obtain ⟨t, ht, hwrites⟩ := Option.map_eq_some_iff.1 hrun
    exact ⟨t, ht, hwrites, (blocks_of_runs {}).1 _ _ RtspToRtspClient.started_liveSession
      (RtspToRtspClient.run_of_runEvents ht)⟩
  · have hrun : (RtspToHttpClient.runEvents {} RtspToHttpClient.anyStep
        RtspToHttpClient.liveSession [RtspToHttpClient.packetEvent]).map (fun t =>
          (t.pool.writes, t.pool.bufSize)) = some ([13, 64], 2048) := by
      decide +kernel
    obtain ⟨t, ht, hfields⟩ := Option.map_eq_some_iff.1 hrun
    obtain ⟨hwrites, hsize⟩ := Prod.mk.inj hfields
    refine ⟨t, ht, hwrites, ((blocks_of_runs {}).2 _ _ RtspToHttpClient.started_liveSession
      (RtspToHttpClient.run_of_runEvents ht)).2 ?_⟩
    rw [hsize]
    decide

/-- A reply with a body of 2048 bytes. -/
def longReplyEvents : List RtspToRtspClient.Event :=
  [RtspToRtspClient.connectEvent,
    .receiveUpstream (ascii "RTSP/1.0 200 OK\r\nCSeq: 1\r\nContent-Length: 2048\r\n\r\n" ++
      List.replicate 2048 0), .upstreamTurn {}]

/-- It is written beyond the end of its block. -/
theorem not_inBounds_live : ∃ t, RtspToRtspClient.Started {} RtspToRtspClient.liveSession ∧
    RtspToRtspClient.Run {} RtspToRtspClient.anyStep RtspToRtspClient.liveSession t ∧
    ¬t.pool.InBounds := by
  have hrun : (RtspToRtspClient.runEvents {} RtspToRtspClient.anyStep
      RtspToRtspClient.liveSession longReplyEvents).any (fun t => ¬t.pool.InBounds) = true := by
    decide +kernel
  obtain ⟨t, ht, hbounds⟩ := (Option.any_eq_true _ _).1 hrun
  exact ⟨t, RtspToRtspClient.started_liveSession, RtspToRtspClient.run_of_runEvents ht,
    of_decide_eq_true hbounds⟩

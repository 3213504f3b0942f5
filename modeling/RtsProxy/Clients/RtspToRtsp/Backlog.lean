import RtsProxy.Clients.RtspToRtsp.Exceptions
import RtsProxy.Clients.RtspToRtsp.Stream

/-!
# The backlog of a relayed session

What waits to be sent to the client. A frame that finds the queue full takes the place of the
oldest packet; a reply is queued in any case. So the backlog is within its limit as long as no
reply finds the queue full (`RepliesFit`).

* `bounded_of_step_iff`: which steps exceed the limit;
* `bounded_of_run`: without such a step the backlog stays within it;
* `not_bounded_live`: a client that reads nothing.
-/

open Text Interleaved Ecma

namespace RtspToRtspClient

variable {s t : RtspToRtspClient} {cfg : ServerConfig} {e : Event}

/-- The packets that wait for the client, a full queue and one more at most. -/
def Bounded (s : RtspToRtspClient) : Prop := s.toDownstreamQ.packets.length ≤ downstreamLimit + 1

/-- A reply that is passed on finds room in the queue. -/
def RepliesFit (s : RtspToRtspClient) (e : Event) : Prop :=
  s.replyOf e ≠ none → s.toDownstreamQ.packets.length ≤ downstreamLimit

instance (s : RtspToRtspClient) (e : Event) : Decidable (RepliesFit s e) :=
  inferInstanceAs (Decidable (_ → _))

/-! ## Steps -/

theorem length_core_advance (c : Core) (n : Nat) :
    (c.advance n).queue.packets.length ≤ c.queue.packets.length := by
  rcases hq : c.queue.packets with _ | ⟨p, ps⟩
  · rw [Core.advance, hq]
    exact Nat.le_of_eq (congrArg List.length hq)
  · have hqueue : (c.advance n).queue = c.queue.advance n := by rw [Core.advance, hq]
    rw [hqueue, SendQueue.length_advance hq, List.length_cons]
    split
    · exact Nat.le_succ _
    · exact Nat.le_refl _

/-- A frame drops the oldest packet of a full queue, and bytes that are sent make the queue no
    longer: only a reply lets it grow beyond the limit. -/
theorem Change.bounded {c c' : Core} {frame : Option (UInt8 × Bytes)} {replies : Bytes → Prop}
    {pushes : List Pushed} (h : Change frame replies pushes c c')
    (hc : c.queue.packets.length ≤ downstreamLimit + 1)
    (hreplies : ∀ patched, replies patched → c.queue.packets.length ≤ downstreamLimit) :
    c'.queue.packets.length ≤ downstreamLimit + 1 := by
  cases h with
  | relayed n _ =>
    rw [queue_holding]
    rcases frame with _ | ⟨channel, data⟩
    · exact hc
    · show (c.queue.pushBounded downstreamLimit _).packets.length ≤ _
      rw [SendQueue.length_pushBounded]
      split
      case isTrue => exact hc
      case isFalse hroom => omega
  | replied patched hpatched _ =>
    show (c.queue.packets ++ [_]).length ≤ _
    rw [List.length_append, List.length_singleton]
    exact Nat.succ_le_succ (hreplies patched hpatched)
  | sent n _ _ => exact (length_core_advance c n).trans hc

/-- A reply that is passed on makes the queue longer, whether there is room or not. -/
theorem length_of_reply (hreply : s.replyOf e ≠ none) (h : step cfg s e = .ok t) :
    t.toDownstreamQ.packets.length = s.toDownstreamQ.packets.length + 1 := by
  cases e with
  | upstreamTurn calls =>
    obtain ⟨resp, hresp⟩ := Option.ne_none_iff_exists'.1 hreply
    obtain ⟨hfront, hpass⟩ := Option.filter_eq_some_iff.1 hresp
    rw [Bool.and_eq_true, Bool.not_eq_true', Bool.not_eq_true'] at hpass
    obtain ⟨r, hr, rfl⟩ := Except.map_eq_ok_iff.1 h
    rw [upstreamTurn_of_message hfront] at hr
    obtain ⟨u, hu, rfl⟩ := Except.map_eq_ok_iff.1 hr
    rcases handleResponse_cases hu with ⟨hka, -⟩ | ⟨-, hretry, -⟩ | ⟨-, -, v, w, patched, hv, hw, rfl⟩
    · cases hpass.1.symm.trans hka
    · have hwants : s.wantsRetry resp = true := hretry
      cases hpass.2.symm.trans hwants
    · -- until it is queued, the queue is left alone
      have hcore : (w.startStreaming cfg resp).core = s.core := by
        rw [core_startStreaming, core_patchResponseForClient hw, core_learnUpstreamTransport hv,
          core_learnSession, core_skipUpstream]
      have hqueue : (w.startStreaming cfg resp).toDownstreamQ = s.toDownstreamQ :=
        congrArg Core.queue hcore
      show ((w.startStreaming cfg resp).toDownstreamQ.packets ++ [_]).length = _
      rw [hqueue, List.length_append, List.length_singleton]
  | _ => exact absurd rfl hreply

/-- From within the limit, a step exceeds it exactly if a reply finds the queue full. -/
theorem bounded_of_step_iff (hs : s.Bounded) (h : step cfg s e = .ok t) :
    t.Bounded ↔ s.RepliesFit e := by
  constructor
  · intro ht hreply
    rw [Bounded, length_of_reply hreply h] at ht
    omega
  · intro hfit
    refine (change_of_step h).bounded hs ?_
    rintro patched ⟨resp, hresp, -⟩
    exact hfit (Option.ne_none_iff_exists'.2 ⟨resp, hresp⟩)

/-! ## Runs -/

/-- In a run in which no reply finds the queue full, no more than 2049 packets ever wait for the
    client. -/
theorem bounded_of_run (hs : Started cfg s) (h : Run cfg RepliesFit s t) :
    t.toDownstreamQ.packets.length ≤ 2049 := by
  have hbounded : t.Bounded := by
    refine run_invariant (P := Bounded)
      (fun u e v hu _ hfit hv => (bounded_of_step_iff hu hv).2 hfit) h ?_
    obtain ⟨_, _, _, _, _, _, _, _, _, rfl⟩ := hs
    exact Nat.zero_le _
  exact hbounded

/-- A reply without a body. -/
def okReply : Bytes := ascii "RTSP/1.0 200 OK\r\n\r\n"

/-- A frame and a reply are queued, and the client takes some of them. -/
theorem bounded_of_run_live : ∃ t,
    runEvents {} RepliesFit liveSession (setupEvents ++ [packetEvent, .receiveUpstream okReply,
      .upstreamTurn {}, .sendDownstream ⟨3, true⟩]) = some t ∧
    t.toDownstreamQ.packets.length = 2 ∧ t.toDownstreamQ.packets.length ≤ 2049 := by
  have hrun : (runEvents {} RepliesFit liveSession (setupEvents ++ [packetEvent,
      .receiveUpstream okReply, .upstreamTurn {}, .sendDownstream ⟨3, true⟩])).map
        (fun t => t.toDownstreamQ.packets.length) = some 2 := by
    decide +kernel
  obtain ⟨t, ht, hlength⟩ := Option.map_eq_some_iff.1 hrun
  exact ⟨t, ht, hlength, bounded_of_run started_liveSession (run_of_runEvents ht)⟩

/-! ## A client that reads nothing -/

/-- A session with a known upstream, all of whose bytes have been handled. -/
structure Answered (s : RtspToRtspClient) : Prop where
  handled : s.upstreamRecvBuf = []
  host : s.ctx.serverIp = ascii "10.0.0.9"

/-- The reply can be patched: it has neither a transport nor a URL. -/
theorem not_replyThrows_okReply (hhost : s.ctx.serverIp = ascii "10.0.0.9") :
    ¬s.ReplyThrows okReply := by
  have hnone : RtspParser.extractHeaderValue okReply (ascii "Transport") = [] := by decide +kernel
  have hpattern : s.upstreamPattern = liveSession.upstreamPattern := by
    rw [upstreamPattern, hhost]
    rfl
  have hcompiles : (Regex.compile liveSession.upstreamPattern).toBool = true := by decide +kernel
  have hbased : RtspParser.extractHeaderValue okReply (ascii "Content-Base") = [] := by
    decide +kernel
  rintro ⟨-, -, hchannels | hports | hurls⟩
  · exact absurd hchannels.2.1 (by decide +kernel)
  · rw [hnone, restoreProtocol_nil] at hports
    obtain ⟨m, hm, -⟩ := hports
    exact absurd (hm.symm.trans (by decide : serverPortRe.search [] = none)) (Option.some_ne_none m)
  · rw [withTransport, hnone, if_pos rfl, UrlsThrow, hpattern] at hurls
    rcases hurls with ⟨exn, hexn⟩ | ⟨re, -, hshort | ⟨based, hpatched, hshort⟩⟩
    · rw [hexn] at hcompiles
      cases hcompiles
    · exact hshort.1 hbased
    · rw [patchUriHeader, hbased] at hpatched
      cases hpatched
      exact hshort.1 (by decide +kernel)

/-- The reply is received and handled: one packet more waits for the client. -/
theorem Answered.reply (h : Answered s) : ∃ t, Run {} anyStep s t ∧ Answered t ∧
    t.toDownstreamQ.packets.length = s.toDownstreamQ.packets.length + 1 := by
  obtain ⟨hhandled, hhost⟩ := h
  have hbuf : ({ s with upstreamRecvBuf := s.upstreamRecvBuf ++ okReply } :
      RtspToRtspClient).upstreamRecvBuf = okReply := by
    rw [hhandled]
    rfl
  have hreceived : Run {} anyStep s { s with upstreamRecvBuf := s.upstreamRecvBuf ++ okReply } :=
    run_single (e := .receiveUpstream okReply)
      (by decide +kernel : okReply ≠ [] ∧ okReply.length ≤ recvLimit) rfl
  generalize hu : ({ s with upstreamRecvBuf := s.upstreamRecvBuf ++ okReply } :
      RtspToRtspClient) = u at hbuf hreceived
  have hfront : frontMessage u.upstreamRecvBuf = some okReply := by
    rw [hbuf]
    decide +kernel
  have hstatus : RtspParser.parseStatusCode okReply = 200 := by decide +kernel
  have hwants : u.wantsRetry okReply = false := by
    rw [wantsRetry, hstatus]
    rfl
  have hka : isKeepaliveReply okReply = false := by decide +kernel
  -- the reply is handled and does not throw
  obtain ⟨r, hr⟩ := Except.not_throws_iff.1 fun hthrows => by
    obtain ⟨msg, hmsg, hmsg'⟩ := (@throws_upstreamTurn u {} {}).1 hthrows
    cases hmsg.symm.trans hfront
    refine not_replyThrows_okReply ?_ hmsg'
    rw [← hu]
    exact hhost
  have hstep : step {} u (.upstreamTurn {}) = .ok r.state := congrArg (Except.map Turn.state) hr
  refine ⟨r.state, hreceived.trans (run_single (e := .upstreamTurn {}) trivial hstep), ?_, ?_⟩
  · rw [upstreamTurn_of_message hfront] at hr
    obtain ⟨v, hv, rfl⟩ := Except.map_eq_ok_iff.1 hr
    have hside := upstreamSide_handleResponse hv
    refine ⟨(congrArg Prod.fst hside).trans ?_, (congrArg Prod.snd hside).trans ?_⟩
    · show u.upstreamRecvBuf.drop okReply.length = []
      rw [hbuf, List.drop_length]
    · rw [← hu]
      exact hhost
  · rw [length_of_reply ?_ hstep, ← hu]
    rw [replyOf, hfront, Option.filter_some, hka, hwants]
    exact Option.some_ne_none okReply

/-- As many replies as one likes wait for a client that reads nothing. -/
theorem answered_live (n : Nat) : ∃ t, Run {} anyStep liveSession t ∧ Answered t ∧
    t.toDownstreamQ.packets.length = n := by
  induction n with
  | zero =>
    exact ⟨_, run_single (e := connectEvent) trivial rfl, ⟨by decide +kernel, by decide +kernel⟩,
      by decide +kernel⟩
  | succ n ih =>
    obtain ⟨t, hrun, hanswered, hlength⟩ := ih
    obtain ⟨u, hreply, hanswered', hlength'⟩ := hanswered.reply
    exact ⟨u, hrun.trans hreply, hanswered', by rw [hlength', hlength]⟩

/-- With enough of them, the queue is longer than it ever should be. -/
theorem not_bounded_live : ¬∀ s t, Started {} s → Run {} anyStep s t →
    t.toDownstreamQ.packets.length ≤ 2049 := by
  intro hall
  obtain ⟨t, hrun, -, hlength⟩ := answered_live 2050
  have hle := hall liveSession t started_liveSession hrun
  omega

end RtspToRtspClient

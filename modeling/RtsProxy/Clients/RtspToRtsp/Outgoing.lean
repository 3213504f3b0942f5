import RtsProxy.Clients.RtspToRtsp.Exchange
import RtsProxy.Clients.RtspToRtsp.Progress
import RtsProxy.Clients.RtspToRtsp.Token
import RtsProxy.Clients.RtspToRtsp.Wiring

/-!
# The stream to the upstream of a relayed session

The messages for the upstream wait in a queue, and how much of the front one has been sent is
kept beside it, from one event to the next. The queue is an outbox from which nothing is dropped
(`Wiring.outbox`): a message that is pushed comes last, what a `send` takes is the next part of
the front message, and with its last byte that leaves the queue. Messages are never empty, so
that no message is in the queue of which all has been sent (`Wiring.InStep`).

* `text_ne_nil_of_mem_pushesOf`: the messages are not empty;
* `Rewired.inStep`: queue and offset stay in step, whoever pushes and whatever is sent;
* `written_of_run`: what is written is what has been pushed, up to where the offset stands.
-/

open Text Interleaved

/-- A `SETUP` is waited for only when there is one. -/
def Control.HoldsSetup (c : Control) : Prop := c.state = .waitStun → c.pendingSetupReq ≠ []

/-! ## Queue and offset -/

namespace Wiring

/-- The messages of a queue, each with how much of it has been sent. -/
def entries : List Bytes → Nat → List (Bytes × Nat)
  | [], _ => []
  | m :: ms, k => (m, k) :: ms.map fun m => (m, 0)

/-- The queue to the upstream as an outbox, with what has been written. -/
def outbox (written : Bytes) (w : Wiring) : Outbox Bytes UInt8 :=
  ⟨entries w.toUpstreamQ w.upstreamSendOffset, written, w.pushed.map Pushed.text⟩

/-- The queue and the offset are in step with what has been written: nothing is missing, and no
    message is in the queue of which all has been sent. -/
structure InStep (written : Bytes) (w : Wiring) : Prop where
  whole : (w.outbox written).Whole id fun _ => true
  unfinished : ∀ e ∈ (w.outbox written).queue, e.2 < e.1.length
  fresh : w.toUpstreamQ = [] → w.upstreamSendOffset = 0

variable {w v : Wiring} {written : Bytes}

theorem InStep.congr (h : w.InStep written) (hq : v.toUpstreamQ = w.toUpstreamQ)
    (ho : v.upstreamSendOffset = w.upstreamSendOffset) (hp : v.pushed = w.pushed) :
    v.InStep written := by
  have hbox : v.outbox written = w.outbox written := by rw [outbox, outbox, hq, ho, hp]
  refine ⟨hbox ▸ h.whole, hbox ▸ h.unfinished, ?_⟩
  rw [hq, ho]
  exact h.fresh

/-- A message that is pushed is the last to be sent. -/
theorem entries_append {q : List Bytes} {k : Nat} (h : q = [] → k = 0) (m : Bytes) :
    entries (q ++ [m]) k = entries q k ++ [(m, 0)] := by
  rcases q with _ | ⟨m', q⟩
  · rw [h rfl]
    rfl
  · simp [entries]

theorem InStep.push (h : w.InStep written) {p : Pushed} (hp : p.text ≠ []) :
    (w.push p).InStep written := by
  have hbox : (w.push p).outbox written =
      ⟨(w.outbox written).queue ++ [(p.text, 0)], written, w.pushed.map Pushed.text ++ [p.text]⟩ := by
    rw [outbox, Wiring.push]
    dsimp only
    rw [entries_append h.fresh, List.map_append]
    rfl
  refine ⟨?_, ?_, fun hnil => absurd hnil (by simp [Wiring.push])⟩
  · rw [hbox]
    have hstep : Outbox.Step id (fun _ => true) (w.outbox written) _ := .push _ p.text
    exact hstep.whole h.whole
  · rw [hbox]
    intro e he
    rcases List.mem_append.1 he with he | he
    · exact h.unfinished e he
    · rw [List.mem_singleton.1 he]
      exact List.length_pos_iff.2 hp

/-- A part of the front message is sent. -/
theorem InStep.part (h : w.InStep written) {m : Bytes} {ms : List Bytes} {n : Nat}
    (hq : w.toUpstreamQ = m :: ms) (hn : w.upstreamSendOffset + n < m.length) :
    { w with upstreamSendOffset := w.upstreamSendOffset + n }.InStep
      (written ++ (m.drop w.upstreamSendOffset).take n) := by
  have hbox : w.outbox written =
      ⟨(m, w.upstreamSendOffset) :: ms.map fun m => (m, 0), written, w.pushed.map Pushed.text⟩ := by
    rw [outbox, hq]
    rfl
  have hsent : ({ w with upstreamSendOffset := w.upstreamSendOffset + n } : Wiring).outbox
      (written ++ (m.drop w.upstreamSendOffset).take n) =
        ⟨(m, w.upstreamSendOffset + n) :: ms.map fun m => (m, 0),
          written ++ (m.drop w.upstreamSendOffset).take n, w.pushed.map Pushed.text⟩ := by
    rw [outbox]
    dsimp only
    rw [hq]
    rfl
  obtain ⟨hwhole, hunfinished, -⟩ := h
  rw [hbox] at hwhole hunfinished
  refine ⟨?_, ?_, fun hnil => ?_⟩
  · rw [hsent]
    have hstep : Outbox.Step id (fun _ => true) (⟨(m, w.upstreamSendOffset) :: ms.map fun m => (m, 0),
        written, w.pushed.map Pushed.text⟩ : Outbox Bytes UInt8) _ := .send n _ _ hn.le
    exact hstep.whole hwhole
  · rw [hsent]
    intro e he
    rcases List.mem_cons.1 he with rfl | he
    · exact hn
    · exact hunfinished e (List.mem_cons_of_mem _ he)
  · cases hq.symm.trans hnil

/-- The rest of the front message is sent, and it leaves the queue. -/
theorem InStep.rest (h : w.InStep written) {m : Bytes} {ms : List Bytes} {n : Nat}
    (hq : w.toUpstreamQ = m :: ms) (hn : w.upstreamSendOffset + n = m.length) :
    { w with toUpstreamQ := ms, upstreamSendOffset := 0 }.InStep
      (written ++ (m.drop w.upstreamSendOffset).take n) := by
  have hbox : w.outbox written =
      ⟨(m, w.upstreamSendOffset) :: ms.map fun m => (m, 0), written, w.pushed.map Pushed.text⟩ := by
    rw [outbox, hq]
    rfl
  have hentries : entries ms 0 = ms.map fun m => (m, 0) := by
    rcases ms with _ | ⟨m', ms⟩ <;> rfl
  obtain ⟨hwhole, hunfinished, -⟩ := h
  rw [hbox] at hwhole hunfinished
  refine ⟨?_, ?_, fun _ => rfl⟩
  · have hsend : Outbox.Step id (fun _ => true) (⟨(m, w.upstreamSendOffset) :: ms.map fun m => (m, 0),
        written, w.pushed.map Pushed.text⟩ : Outbox Bytes UInt8) _ := .send n _ _ hn.le
    have hpop : Outbox.Step id (fun _ => true) (⟨(m, w.upstreamSendOffset + n) ::
        ms.map fun m => (m, 0), written ++ (m.drop w.upstreamSendOffset).take n,
        w.pushed.map Pushed.text⟩ : Outbox Bytes UInt8) _ := .pop _ _ hn.ge
    rw [outbox]
    dsimp only
    rw [hentries]
    exact hpop.whole (hsend.whole hwhole)
  · show ∀ e ∈ entries ms 0, _
    rw [hentries]
    exact fun e he => hunfinished e (List.mem_cons_of_mem _ he)

/-- What has been pushed is what is written and what is left of the queue. -/
theorem InStep.conserved (h : w.InStep written) :
    (w.pushed.map Pushed.text).flatten = written ++ w.toUpstreamQ.flatten.drop w.upstreamSendOffset := by
  have hunsent : Outbox.unsent id (w.outbox written).queue =
      w.toUpstreamQ.flatten.drop w.upstreamSendOffset := by
    have hunfinished := h.unfinished
    rw [outbox] at hunfinished ⊢
    dsimp only at hunfinished ⊢
    rcases hq : w.toUpstreamQ with _ | ⟨m, ms⟩
    · rw [List.flatten_nil, List.drop_nil]
      rfl
    · rw [hq] at hunfinished
      have hlt : w.upstreamSendOffset < m.length := hunfinished (m, _) List.mem_cons_self
      have hrest : (ms.map fun m => (m, 0)).flatMap (fun e : Bytes × Nat => e.1.drop e.2) =
          ms.flatten := by
        rw [List.flatMap_map]
        exact List.flatMap_id
      rw [List.flatten_cons, List.drop_append_of_le_length hlt.le, ← hrest]
      rfl
  have hconserved := h.whole.conserved
  rw [hunsent, List.flatMap_id] at hconserved
  exact hconserved

end Wiring

namespace RtspToRtspClient

variable {s t u : RtspToRtspClient} {cfg : ServerConfig} {e : Event} {w v : Wiring}
  {bytes written : Bytes}

/-! ## Messages are not empty -/

theorem patchTransportForUpstream_ne_nil {req : Bytes} (h : req ≠ []) :
    (s.patchTransportForUpstream cfg req).2 ≠ [] := by
  unfold patchTransportForUpstream
  dsimp only
  split
  · exact h
  · exact replaceHeader_ne_nil h (by decide) _

theorem patchTransportForUpstreamTcp_ne_nil {req : Bytes} (h : req ≠ []) :
    patchTransportForUpstreamTcp req ≠ [] := by
  rw [patchTransportForUpstreamTcp]
  split
  · exact h
  · exact replaceHeader_ne_nil h (by decide) _

theorem rewriteRequest_ne_nil {pre base req : Bytes} (h : req ≠ []) :
    rewriteRequest pre base req ≠ [] := by
  unfold rewriteRequest
  split
  · exact h
  · split
    · exact h
    · dsimp only
      split
      · exact h
      · split
        · exact h
        · have hblank : ascii " " ≠ [] := by decide
          simp [hblank]

/-- In a session that waits for the STUN server, a request leaves a `SETUP` held back. -/
theorem holdsSetup_request {canRelay : Bool} {req : Bytes} {c : Control} (hc : c.HoldsSetup)
    (hreq : req ≠ []) : (c.request cfg canRelay req).HoldsSetup := by
  rw [Control.request]
  split
  · split
    · exact hc
    · split
      · exact fun _ => hreq
      · exact hc
  · exact hc

theorem holdsSetup_onUpstreamWritable (calls : UpstreamCalls) (hs : s.control.HoldsSetup) :
    (s.onUpstreamWritable calls).control.HoldsSetup := by
  rw [control_onUpstreamWritable]
  split
  · split
    · exact hs
    · intro hstate
      dsimp only at hstate
      split at hstate <;> cases hstate
  · intro hstate
    dsimp only at hstate
    split at hstate
    · cases hstate
    · exact hs hstate

/-- Whenever the STUN server is waited for, there is a `SETUP` that is held back. -/
theorem holdsSetup_of_step (hs : s.control.HoldsSetup) (h : step cfg s e = .ok t) :
    t.control.HoldsSetup := by
  rw [control_of_step h]
  cases e with
  | downstreamTurn ports =>
    rw [controlAfter]
    split
    · exact hs
    · split
      case h_1 req hreq =>
        refine holdsSetup_request (c := (s.skipDownstream req.length).control) hs ?_
        exact List.ne_nil_of_length_pos (by have := (length_of_frontRequest hreq).1; omega)
      case h_2 => exact hs
  | upstreamTurn calls =>
    rw [controlAfter]
    split
    · exact hs
    · split
      case h_1 msg _ =>
        dsimp only
        split
        · exact hs
        · split
          · refine holdsSetup_onUpstreamWritable calls ?_
            rw [control_retrying_learnSession]
            exact hs
          · split
            · exact fun hstate => RelayState.noConfusion hstate
            · exact hs
      case h_2 => exact hs
  | upstreamWritable calls => exact holdsSetup_onUpstreamWritable calls hs
  | stunReply d =>
    rw [controlAfter]
    split
    · exact hs
    · exact fun hstate => RelayState.noConfusion hstate
  | _ => exact hs

theorem firstPush_source_ne_nil {calls : UpstreamCalls} {p : Pushed}
    (h : p ∈ if s.pushesFirst calls then [s.firstPush] else []) : p.source ≠ [] := by
  split at h
  case isTrue hfirst =>
    rw [List.mem_singleton.1 h]
    simp only [pushesFirst, Bool.and_eq_true, decide_eq_true_eq] at hfirst
    exact hfirst.2
  case isFalse => cases h

/-- What is rewritten and pushed is a request. -/
theorem source_ne_nil_of_mem_pushesOf {p : Pushed} (hs : s.control.HoldsSetup)
    (hen : Enabled cfg s e) (h : p ∈ s.pushesOf cfg e) (hp : p.origin ≠ .keepalive) :
    p.source ≠ [] := by
  cases e with
  | downstreamTurn ports =>
    rw [pushesOf] at h
    rcases hreq : frontRequest s.downstreamRecvBuf with _ | req
    · rw [hreq] at h
      cases h
    · have hne : req ≠ [] :=
        List.ne_nil_of_length_pos (by have := (length_of_frontRequest hreq).1; omega)
      rw [hreq, Option.map_some, Option.getD_some, requestPushes] at h
      split at h
      · cases h
      · rw [List.mem_singleton.1 h]
        show s.patchedRequest cfg ports req ≠ []
        rw [patchedRequest]
        split
        · exact patchTransportForUpstream_ne_nil hne
        · exact hne
  | upstreamTurn calls =>
    rw [pushesOf] at h
    rcases hmsg : frontMessage s.upstreamRecvBuf with _ | msg
    · rw [hmsg] at h
      cases h
    · rw [hmsg, Option.map_some, Option.getD_some, retryPushes] at h
      split at h
      case isTrue hretry =>
        rcases List.mem_cons.1 h with rfl | h
        · refine patchTransportForUpstreamTcp_ne_nil ?_
          simp only [wantsRetry, Bool.and_eq_true, decide_eq_true_eq] at hretry
          exact hretry.2.2
        · exact firstPush_source_ne_nil h
      case isFalse => cases h
  | upstreamWritable calls => exact firstPush_source_ne_nil h
  | stunReply d =>
    rw [pushesOf] at h
    split at h
    · cases h
    · rw [List.mem_singleton.1 h]
      exact patchTransportForUpstream_ne_nil (hs hen.2.2.2)
  | timer =>
    rw [List.mem_singleton.1 h] at hp
    exact absurd rfl hp
  | _ => cases h

/-- No message that is pushed is empty. -/
theorem text_ne_nil_of_mem_pushesOf {p : Pushed} (hs : s.control.HoldsSetup)
    (hen : Enabled cfg s e) (h : p ∈ s.pushesOf cfg e) : p.text ≠ [] := by
  rw [text_of_mem_pushesOf h, textOf]
  split
  · have hmethod : ascii "GET_PARAMETER " ≠ [] := by decide
    simp [keepaliveText, hmethod]
  case isFalse hp => exact rewriteRequest_ne_nil (source_ne_nil_of_mem_pushesOf hs hen h hp)

/-! ## Sending -/

/-- A turn sends the next part of the front message, to its end or not, or nothing. -/
theorem inStep_upstreamSendTurn (h : s.wiring.InStep written) (r : SendResult) :
    (s.upstreamSendTurn r).state.wiring.InStep (written ++ s.sendBytes r) := by
  rw [sendBytes, upstreamSendTurn]
  rcases hq : s.toUpstreamQ with _ | ⟨m, ms⟩
  · rw [List.headD_nil, List.drop_nil, List.take_nil, List.append_nil]
    exact h
  · have htaken : s.upstreamTaken r ≤ m.length - s.upstreamSendOffset := by
      rw [upstreamTaken, hq]
      exact Nat.min_le_right _ _
    have hlt : s.upstreamSendOffset < m.length := by
      refine h.unfinished (m, s.upstreamSendOffset) ?_
      rw [Wiring.outbox, show s.wiring.toUpstreamQ = m :: ms from hq]
      exact List.mem_cons_self
    dsimp only [List.headD_cons]
    split
    · split
      case isTrue hall => exact h.rest hq hall
      case isFalse hpart =>
        have hn : s.upstreamSendOffset + s.upstreamTaken r < m.length := by omega
        exact (h.part hq hn).congr hq.symm rfl rfl
    case isFalse hnone =>
      rw [Nat.eq_zero_of_not_pos hnone, List.take_zero, List.append_nil]
      split
      · exact h
      · exact h.congr rfl rfl rfl

theorem inStep_drainUpstream (h : s.wiring.InStep written) (sends : List SendResult) :
    (s.drainUpstream sends).2.wiring.InStep (written ++ drainBytes sends s) := by
  induction sends generalizing s written with
  | nil => rwa [drainBytes, List.append_nil]
  | cons r rs ih =>
    have hturn := inStep_upstreamSendTurn h r
    rw [drainUpstream, drainBytes]
    rcases hr : s.upstreamSendTurn r with t | t
    · rw [hr] at hturn
      rwa [List.append_nil]
    · rw [hr] at hturn
      rw [← List.append_assoc]
      exact ih hturn

/-- The writer takes over a connection that is made, and sends. -/
theorem inStep_onUpstreamWritable {calls : UpstreamCalls} (h : u.wiring.InStep written)
    (hfirst : u.pushesFirst calls → u.firstPush.text ≠ []) :
    (u.onUpstreamWritable calls).wiring.InStep (written ++ u.writableBytes calls) := by
  rw [writableBytes]
  rcases onUpstreamWritable_cases (s := u) calls with ⟨hfails, hr⟩ |
    ⟨hfails, v, rfl, hr⟩
  · rw [hr, hfails, if_pos rfl, List.append_nil]
    exact h.congr rfl rfl rfl
  · rw [hfails, if_neg Bool.false_ne_true]
    have hready : (u.readyToWrite calls).wiring.InStep written := by
      rw [readyToWrite]
      split
      case isTrue hstate =>
        rw [wiring_upstreamConnected]
        split
        · exact h.congr rfl rfl rfl
        case isFalse hbuf =>
          refine (h.push (hfirst ?_)).congr rfl rfl rfl
          have hno : calls.connectFailed = false := by simpa [connectFails, hstate] using hfails
          simp [pushesFirst, hstate, hno, hbuf]
      case isFalse => exact h
    have hdrained := inStep_drainUpstream hready calls.sends
    rcases hr with ⟨-, hr⟩ | ⟨-, hr⟩
    · rw [hr]
      exact hdrained.congr rfl rfl rfl
    · rw [hr]
      exact hdrained

/-- Whatever a step does, queue and offset stay in step with what is written. -/
theorem Rewired.inStep (h : Rewired s bytes w) (hs : s.wiring.InStep written)
    (hpushed : ∀ p ∈ w.pushed, p.text ≠ []) : w.InStep (written ++ bytes) := by
  cases h with
  | framed hframed =>
    rw [List.append_nil]
    cases hframed with
    | kept => exact hs
    | queued q => exact hs.congr rfl rfl rfl
  | pushed p =>
    rw [List.append_nil]
    have hp : p ∈ s.pushed ++ [p] := List.mem_append_right _ List.mem_cons_self
    exact (hs.push (hpushed p hp)).congr rfl rfl rfl
  | @written calls u hstate hu =>
    -- the messages pushed so far are still there when the writer returns
    have hcore := congrArg Core.pushed (core_onUpstreamWritable (s := u) calls)
    have hmono : ∀ p ∈ u.pushed, p.text ≠ [] := by
      intro p hp
      refine hpushed p ?_
      show p ∈ (u.onUpstreamWritable calls).core.pushed
      rw [hcore]
      split
      · exact List.mem_append_left _ hp
      · exact hp
    refine inStep_onUpstreamWritable ?_ fun hfirst => ?_
    · rcases hu with hu | ⟨p, hu⟩
      · rwa [hu]
      · rw [hu]
        refine hs.push (hmono p ?_)
        rw [show u.pushed = _ from congrArg Wiring.pushed hu]
        exact List.mem_append_right _ List.mem_cons_self
    · refine hpushed u.firstPush ?_
      show u.firstPush ∈ (u.onUpstreamWritable calls).core.pushed
      rw [hcore, if_pos hfirst]
      exact List.mem_append_right _ List.mem_cons_self
  | sent | emptied | closed =>
    rw [List.append_nil]
    exact hs.congr rfl rfl rfl

/-! ## Runs -/

/-- The bytes written to the upstream are noted down. -/
def noteWritten (written : Bytes) (s : RtspToRtspClient) (e : Event) (_ : RtspToRtspClient) : Bytes :=
  written ++ s.upstreamBytes e

/-- What is written to the upstream is all that has been pushed, in the order it was pushed, up to
    where the offset stands in the front message; and the offset is that of a byte of it. -/
theorem written_of_run (hs : Started cfg s)
    (h : NotedRun cfg noteWritten (fun _ _ => True) (s, []) (t, written)) :
    (t.pushed.map Pushed.text).flatten =
        written ++ t.toUpstreamQ.flatten.drop t.upstreamSendOffset ∧
      written <+: (t.pushed.map Pushed.text).flatten ∧
      (∀ m ∈ t.toUpstreamQ.head?, t.upstreamSendOffset < m.length) ∧
      (t.toUpstreamQ = [] → t.upstreamSendOffset = 0) := by
  have hinv : t.wiring.InStep written ∧ (∀ p ∈ t.pushed, p.text ≠ []) ∧ t.control.HoldsSetup := by
    refine notedRun_invariant (P := fun x => x.1.wiring.InStep x.2 ∧
      (∀ p ∈ x.1.pushed, p.text ≠ []) ∧ x.1.control.HoldsSetup) ?_ h ?_
    · rintro u noted e v ⟨hstep, htexts, hholds⟩ hen - hv
      have htexts' : ∀ p ∈ v.pushed, p.text ≠ [] := by
        rw [pushed_of_step hv]
        intro p hp
        rcases List.mem_append.1 hp with hp | hp
        · exact htexts p hp
        · exact text_ne_nil_of_mem_pushesOf hholds hen hp
      exact ⟨(wiring_of_step hv).inStep hstep htexts', htexts', holdsSetup_of_step hholds hv⟩
    · obtain ⟨_, _, _, _, _, _, _, _, _, rfl⟩ := hs
      refine ⟨⟨Outbox.whole_empty, fun e he => ?_, fun _ => rfl⟩, fun p hp => ?_, fun hstate => ?_⟩
      · cases he
      · cases hp
      · cases hstate
  obtain ⟨hstep, -⟩ := hinv
  have hconserved := hstep.conserved
  refine ⟨hconserved, hconserved ▸ List.prefix_append _ _, fun m hm => ?_, hstep.fresh⟩
  obtain ⟨ms, hms⟩ := List.head?_eq_some_iff.1 hm
  refine hstep.unfinished (m, t.upstreamSendOffset) ?_
  rw [Wiring.outbox, show t.wiring.toUpstreamQ = m :: ms from hms]
  exact List.mem_cons_self

/-- The first request is sent in two parts, with the `SETUP` behind it, and of the one that is tried
    over TCP instead only five bytes. -/
theorem written_of_run_described : ∃ t written,
    notedEvents {} noteWritten (fun _ _ => True) (liveSession, [])
      ([.upstreamWritable { localName := some ⟨⟨10, 0, 0, 1⟩, 40000⟩, sends := [⟨9, false⟩, ⟨0, true⟩] }]
        ++ requestEvents udpSetup ++ [.receiveUpstream (rejection "3"),
          .upstreamTurn { sends := [⟨1000, false⟩, ⟨1000, false⟩, ⟨5, false⟩] }]) =
      some (t, written) ∧
    (written.length, t.upstreamSendOffset, t.pushed.length) = (153, 5, 3) ∧
    (t.pushed.map Pushed.text).flatten =
        written ++ t.toUpstreamQ.flatten.drop t.upstreamSendOffset ∧
      written <+: (t.pushed.map Pushed.text).flatten ∧
      (∀ m ∈ t.toUpstreamQ.head?, t.upstreamSendOffset < m.length) ∧
      (t.toUpstreamQ = [] → t.upstreamSendOffset = 0) := by
  have hrun : (notedEvents {} noteWritten (fun _ _ => True) (liveSession, [])
      ([.upstreamWritable { localName := some ⟨⟨10, 0, 0, 1⟩, 40000⟩, sends := [⟨9, false⟩, ⟨0, true⟩] }]
        ++ requestEvents udpSetup ++ [.receiveUpstream (rejection "3"),
          .upstreamTurn { sends := [⟨1000, false⟩, ⟨1000, false⟩, ⟨5, false⟩] }])).map (fun x =>
            (x.2.length, x.1.upstreamSendOffset, x.1.pushed.length)) = some (153, 5, 3) := by
    decide +kernel
  obtain ⟨⟨t, written⟩, ht, hlengths⟩ := Option.map_eq_some_iff.1 hrun
  exact ⟨t, written, ht, hlengths, written_of_run started_liveSession (notedRun_of_notedEvents ht)⟩

end RtspToRtspClient

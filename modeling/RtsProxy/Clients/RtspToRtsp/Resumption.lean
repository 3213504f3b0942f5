import RtsProxy.Clients.RtspToRtsp.Forwarding
import RtsProxy.Clients.RtspToRtsp.Wakeups

/-!
# What a paused session is left with

The loop over the bytes of the client goes on until nothing complete is in front of them, or a
`SETUP` has to wait for the STUN server. It is only entered when bytes of the client arrive:
whatever ends the wait does not enter it, and what is behind the `SETUP` by then stays where it is
(`EndsPause`).

Between two waits of the event loop the client is read from as a whole, so that runs are made of
`Occurrence`s here; they are runs of steps (`run_of_attendedRun`).

* `paused_of_step_iff`: the steps that end a pause;
* `attended_of_read`, `attended_of_step_iff`: after which occurrences nothing is left;
* `attended_of_run`: if no pause ends while something is left, nothing is ever left.
-/

open Text Interleaved

namespace RtspToRtspClient

variable {s t u : RtspToRtspClient} {cfg : ServerConfig} {e : Event}

/-! ## Occurrences -/

/-- What happens between two waits of the event loop, as far as the client is read from: the client
    is read from, with all that is then handled in at most so many turns, or another step. -/
inductive Occurrence
  | read (ports : RelayPorts) (turns : Nat) (bytes : Bytes)
  | step (e : Event)

/-- A step of reading from the client. -/
def Event.isRead : Event → Bool
  | .receiveDownstream _ | .downstreamTurn _ => true
  | _ => false

/-- When something can happen. -/
def Occurs (cfg : ServerConfig) (s : RtspToRtspClient) : Occurrence → Prop
  | .read _ _ bytes => s.state ≠ .waitUpstreamConnect ∧ bytes ≠ [] ∧ bytes.length ≤ recvLimit
  | .step e => e.isRead = false ∧ Enabled cfg s e

/-- Its result. -/
def occur (cfg : ServerConfig) (s : RtspToRtspClient) : Occurrence → Option (Except Exn RtspToRtspClient)
  | .read ports turns bytes => s.onDownstreamReadable cfg ports turns (.data bytes)
  | .step e => some (RtspToRtspClient.step cfg s e)

/-- Runs of occurrences, all of which meet a condition. -/
def AttendedRun (cfg : ServerConfig) (cond : RtspToRtspClient → Occurrence → Prop) :
    RtspToRtspClient → RtspToRtspClient → Prop :=
  Relation.ReflTransGen fun s t => ∃ o, Occurs cfg s o ∧ cond s o ∧ occur cfg s o = some (.ok t)

/-- Runs of occurrences are runs of steps. -/
theorem run_of_attendedRun {cond : RtspToRtspClient → Occurrence → Prop}
    (h : AttendedRun cfg cond s t) : Run cfg anyStep s t := by
  induction h with
  | refl => exact .refl
  | tail _ hnext ih =>
    obtain ⟨o, hoccurs, -, ho⟩ := hnext
    refine ih.trans ?_
    rcases o with ⟨ports, turns, bytes⟩ | e
    · refine @run_of_onDownstreamReadable _ _ _ ports turns (.data bytes) hoccurs.1 (fun more hmore => ?_) ho
      cases hmore
      exact hoccurs.2
    · exact run_single hoccurs.2 (Option.some.inj ho)

/-! ## Reading from the client -/

/-- Nothing complete is in front of the bytes of the client. -/
def Spent (buf : Bytes) : Prop := frontFrame buf = none ∧ frontRequest buf = none

instance (buf : Bytes) : Decidable (Spent buf) := inferInstanceAs (Decidable (_ ∧ _))

/-- Nothing is left to do for the client, in a session that is not closed, nor connecting, nor
    paused. -/
def Attended (s : RtspToRtspClient) : Prop :=
  s.closed = false → s.state ≠ .waitUpstreamConnect → s.state ≠ .waitStun → Spent s.downstreamRecvBuf

/-- A request leaves the loop only to close the session or to pause. -/
theorem leave_of_handleRequest {ports : RelayPorts} {req : Bytes}
    (h : s.handleRequest cfg ports req = .ok (.leave t)) : t.closed = true ∨ t.state = .waitStun := by
  rw [handleRequest] at h
  split at h
  · obtain ⟨u, -, h⟩ := Except.bind_eq_ok_iff.1 h
    generalize (if u.relayReady = true then (true, u) else u.initRelaySockets ports) = v at h
    rcases v with ⟨ready, v⟩
    dsimp only at h
    split at h
    · cases h
      exact .inl rfl
    · split at h
      · cases h
        exact .inr rfl
      · cases h
  · cases h

/-- Once the client has been read from, nothing is left to do. -/
theorem attended_of_read {ports : RelayPorts} {turns : Nat} {bytes : Bytes}
    (h : s.onDownstreamReadable cfg ports turns (.data bytes) = some (.ok t)) : t.Attended := by
  obtain ⟨u, -, hleave⟩ := Loop.returns_iff.1 ⟨turns, h⟩
  intro hopen _ hstun
  rcases downstreamTurn_cases hleave with ⟨hr, hspent⟩ | ⟨_, _, _, hr⟩ | ⟨req, -, hr⟩
  · cases hr
    exact hspent
  · cases hr
  · rcases leave_of_handleRequest hr with hclosed | hpaused
    · rw [hclosed] at hopen
      cases hopen
    · exact absurd hpaused hstun

/-! ## Pauses -/

/-- A step ends a pause: the STUN server replies, or the state is overwritten, when a message has
    been sent to its end or a reply starts the stream. -/
def EndsPause (s : RtspToRtspClient) : Event → Prop
  | .stunReply d => s.received d ≠ []
  | .upstreamWritable calls => s.finishes calls.sends
  | .upstreamTurn calls =>
    ∃ msg ∈ frontMessage s.upstreamRecvBuf, isKeepaliveReply msg = false ∧
      if s.wantsRetry msg then s.retrying.finishes calls.sends
      else RtspParser.parseStatusCode msg = 200 && s.pendingPlay
  | _ => False

/-- A pause ends only when nothing is left behind it. -/
def ResumesAtEnd (s : RtspToRtspClient) : Occurrence → Prop
  | .read _ _ _ => True
  | .step e => s.state = .waitStun → s.EndsPause e → Spent s.downstreamRecvBuf

theorem state_onUpstreamWritable (calls : UpstreamCalls) (hs : s.state ≠ .waitUpstreamConnect) :
    (s.onUpstreamWritable calls).state =
      if s.finishes calls.sends then .waitUpstreamResp else s.state := by
  have hcontrol := congrArg Control.state (control_onUpstreamWritable (s := s) calls)
  rwa [if_neg hs] at hcontrol

/-- Any other step leaves a paused session paused. -/
theorem paused_of_step_iff (hs : s.state = .waitStun) (hread : e.isRead = false)
    (h : step cfg s e = .ok t) : t.state = .waitStun ↔ ¬s.EndsPause e := by
  have hconnected : s.state ≠ .waitUpstreamConnect := by
    rw [hs]
    exact fun h => RelayState.noConfusion h
  have hoverwritten : ∀ b : Bool, (if b then .waitUpstreamResp else s.state) = .waitStun ↔ ¬b := by
    intro b
    rcases b with _ | _
    · exact iff_of_true hs Bool.false_ne_true
    · exact iff_of_false (fun h => RelayState.noConfusion h) (not_not_intro rfl)
  rw [show t.state = (s.controlAfter cfg e).state from congrArg Control.state (control_of_step h)]
  cases e with
  | receiveDownstream | downstreamTurn => cases hread
  | upstreamWritable calls =>
    show (s.onUpstreamWritable calls).state = _ ↔ _
    rw [state_onUpstreamWritable calls hconnected]
    exact hoverwritten _
  | stunReply d =>
    rw [controlAfter, EndsPause]
    split
    case isTrue hnil => exact iff_of_true hs (not_not_intro hnil)
    case isFalse hne => exact iff_of_false (fun h => RelayState.noConfusion h) (not_not_intro hne)
  | upstreamTurn calls =>
    rw [controlAfter, EndsPause]
    rcases hf : frontFrame s.upstreamRecvBuf with _ | ⟨channel, data⟩
    · rcases hm : frontMessage s.upstreamRecvBuf with _ | msg
      · exact iff_of_true hs (by simp)
      · simp only [Option.mem_some_iff, exists_eq_left']
        rcases hka : isKeepaliveReply msg with _ | _
        · rw [if_neg Bool.false_ne_true, and_iff_right rfl]
          split
          · -- the `SETUP` that is tried again may be sent to its end
            have hcontrol := control_retrying_learnSession (s := s.skipUpstream msg.length) msg
            have hstate : (s.retryingAfter msg).state = s.state := congrArg Control.state hcontrol
            have hfinishes := finishes_congr (s := s.retrying) (t := s.retryingAfter msg) rfl rfl
              calls.sends
            have hwritten := state_onUpstreamWritable (s := s.retryingAfter msg) calls
              (hstate ▸ hconnected)
            show ((s.retryingAfter msg).onUpstreamWritable calls).state = _ ↔ _
            rw [hwritten, hfinishes, hstate]
            exact hoverwritten _
          · split
            case isTrue hplay =>
              exact iff_of_false (fun h => RelayState.noConfusion h) (not_not_intro hplay)
            case isFalse hplay => exact iff_of_true hs hplay
        · exact iff_of_true hs (by simp)
    · rw [frontMessage_of_frontFrame hf]
      exact iff_of_true hs (by simp)
  | _ => exact iff_of_true hs not_false

/-! ## Runs -/

/-- The connection is made, or goes on being made, in which case no `PLAY` comes in. -/
theorem connecting_of_step (hs : s.state = .waitUpstreamConnect) (hplay : s.pendingPlay = false)
    (hen : Enabled cfg s e) (h : step cfg s e = .ok t) :
    (t.state = .waitUpstreamConnect ∧ t.pendingPlay = false) ∨
      (t.state ≠ .waitUpstreamConnect ∧ t.downstreamRecvBuf = []) := by
  have hquiet : Quiet s.control t.control := by
    rw [control_of_step h]
    cases e with
    | receiveDownstream => exact absurd hs hen.1
    | downstreamTurn => exact absurd hs hen
    | upstreamTurn calls => exact quiet_upstreamTurn fun _ => hplay
    | upstreamWritable calls => exact quiet_onUpstreamWritable calls
    | stunReply => cases hs.symm.trans hen.2.2.2
    | receiveUpstream => exact ⟨rfl, id, fun h => .inl ⟨h, rfl⟩, fun h => ⟨h, rfl⟩⟩
    | _ => exact quiet_refl _
  rcases hquiet.connecting hs with ⟨hstate, hsame⟩ | hconnected
  · have hpending : t.pendingPlay = s.pendingPlay := hsame
    exact .inl ⟨hstate, hpending.trans hplay⟩
  · exact .inr hconnected

/-- A step of an open session leaves something to do exactly if it ends a pause before all is
    handled. -/
theorem attended_of_step_iff (hs : s.Attended)
    (hplay : s.state = .waitUpstreamConnect → s.pendingPlay = false)
    (hoccurs : Occurs cfg s (.step e)) (h : step cfg s e = .ok t) (hopen : t.closed = false) :
    t.Attended ↔ s.ResumesAtEnd (.step e) := by
  obtain ⟨hread, hen⟩ := hoccurs
  have hopened := (wiring_of_step h).opened hopen
  by_cases hstate : s.state = .waitUpstreamConnect
  · refine iff_of_true (fun _ hconnected _ => ?_) fun hstun => ?_
    · rcases connecting_of_step hstate (hplay hstate) hen h with hno | ⟨-, hbuf⟩
      · exact absurd hno.1 hconnected
      · rw [hbuf]
        exact ⟨rfl, rfl⟩
    · cases hstate.symm.trans hstun
  · obtain ⟨hconnected, hbuf⟩ := connected_of_step hstate h
    have hsame : t.downstreamRecvBuf = s.downstreamRecvBuf := by
      refine hbuf (fun bytes he => ?_) fun ports he => ?_
      all_goals
        rw [he] at hread
        cases hread
    by_cases hstun : s.state = .waitStun
    · have hpaused := paused_of_step_iff hstun hread h
      rw [Attended, hsame, forall_prop_of_true hopen, forall_prop_of_true hconnected, ResumesAtEnd,
        forall_prop_of_true hstun]
      exact imp_congr_left (not_iff_comm.1 hpaused.symm)
    · refine iff_of_true (fun _ _ _ => ?_) fun h => absurd h hstun
      rw [hsame]
      exact hs hopened hstate hstun

/-- In a run in which no pause ends while something is left behind it, nothing is ever left to do
    for the client of a session that is not closed, nor connecting, nor paused. -/
theorem attended_of_run (hs : Started cfg s) (h : AttendedRun cfg ResumesAtEnd s t)
    (hopen : t.closed = false) (hconnected : t.state ≠ .waitUpstreamConnect)
    (hstun : t.state ≠ .waitStun) :
    frontFrame t.downstreamRecvBuf = none ∧ frontRequest t.downstreamRecvBuf = none := by
  suffices hinv : t.Attended ∧ (t.state = .waitUpstreamConnect → t.pendingPlay = false) from
    hinv.1 hopen hconnected hstun
  clear hopen hconnected hstun
  induction h with
  | refl =>
    obtain ⟨_, _, _, _, _, _, _, _, _, rfl⟩ := hs
    exact ⟨fun _ hno => absurd rfl hno, fun _ => rfl⟩
  | @tail u v _ hnext ih =>
    obtain ⟨o, hoccurs, hend, ho⟩ := hnext
    rcases o with ⟨ports, turns, bytes⟩ | e
    · refine ⟨attended_of_read ho, fun hno => absurd hno ?_⟩
      exact Loop.run_invariant (P := fun u => u.state ≠ .waitUpstreamConnect)
        (fun _ _ hu hr => state_downstreamTurn hu hr) hoccurs.1 ho
    · have hst : step cfg u e = .ok v := Option.some.inj ho
      refine ⟨fun hopen => ?_, fun hno => ?_⟩
      · exact (attended_of_step_iff ih.1 ih.2 hoccurs hst hopen).2 hend hopen
      · by_cases hstate : u.state = .waitUpstreamConnect
        · rcases connecting_of_step hstate (ih.2 hstate) hoccurs.2 hst with ⟨-, hplay⟩ | ⟨hyes, -⟩
          · exact hplay
          · exact absurd hno hyes
        · exact absurd hno (connected_of_step hstate hst).1

/-! ## A `SETUP` with a request behind it -/

instance (cfg : ServerConfig) (s : RtspToRtspClient) : ∀ o, Decidable (Occurs cfg s o)
  | .read _ _ bytes =>
    inferInstanceAs (Decidable (_ ∧ bytes ≠ [] ∧ bytes.length ≤ recvLimit))
  | .step e => inferInstanceAs (Decidable (e.isRead = false ∧ Enabled cfg s e))

instance (s : RtspToRtspClient) : ∀ e, Decidable (EndsPause s e)
  | .upstreamWritable _ | .upstreamTurn _ | .stunReply _ => by unfold EndsPause; infer_instance
  | .receiveDownstream _ | .downstreamTurn _ | .sendDownstream _ | .downstreamSent
  | .receiveUpstream _ | .rtpFromUpstream _ | .rtcpFromUpstream _ | .rtpFromClient _
  | .rtcpFromClient _ | .noDatagram | .timer | .close => isFalse not_false

instance (s : RtspToRtspClient) : ∀ o, Decidable (ResumesAtEnd s o)
  | .read _ _ _ => isTrue trivial
  | .step e => inferInstanceAs (Decidable (s.state = .waitStun → s.EndsPause e → _))

/-- The session after a list of occurrences, if each can take place, meets the condition and
    does not throw. -/
def attendedRun (cfg : ServerConfig) (cond : RtspToRtspClient → Occurrence → Prop)
    [∀ s o, Decidable (cond s o)] (s : RtspToRtspClient) :
    List Occurrence → Option RtspToRtspClient
  | [] => some s
  | o :: os =>
    if Occurs cfg s o ∧ cond s o then
      match occur cfg s o with
      | some (.ok t) => attendedRun cfg cond t os
      | _ => none
    else none

theorem attendedRun_sound {cond : RtspToRtspClient → Occurrence → Prop}
    [∀ s o, Decidable (cond s o)] {os : List Occurrence} (h : attendedRun cfg cond s os = some t) :
    AttendedRun cfg cond s t := by
  induction os generalizing s with
  | nil =>
    cases h
    exact .refl
  | cons o os ih =>
    rw [attendedRun] at h
    split at h
    case isTrue hen =>
      split at h
      case h_1 u hu => exact .head ⟨o, hen.1, hen.2, hu⟩ (ih h)
      case h_2 => cases h
    case isFalse => cases h

/-- The connection is made, and takes the first request. -/
def connectOccurrence : Occurrence :=
  .step (.upstreamWritable { localName := some ⟨⟨10, 0, 0, 1⟩, 40000⟩, sends := [⟨1000, false⟩] })

/-- The client is read from. -/
def readOccurrence (bytes : Bytes) : Occurrence := .read ⟨.bound 20000, .bound 30000⟩ 3 bytes

/-- The request comes when the pause is over. -/
theorem attended_of_run_resumed : ∃ t,
    attendedRun stunConfig ResumesAtEnd stunSession [connectOccurrence, readOccurrence udpSetup,
      .step stunReplyEvent, readOccurrence optionsRequest] = some t ∧
    t.pushed.length = 3 ∧
    frontFrame t.downstreamRecvBuf = none ∧ frontRequest t.downstreamRecvBuf = none := by
  have hrun : (attendedRun stunConfig ResumesAtEnd stunSession [connectOccurrence,
      readOccurrence udpSetup, .step stunReplyEvent, readOccurrence optionsRequest]).map
        (fun t => (t.pushed.length, t.closed, t.state)) = some (3, false, .idle) := by
    decide +kernel
  obtain ⟨t, ht, hfields⟩ := Option.map_eq_some_iff.1 hrun
  simp only [Prod.mk.injEq] at hfields
  obtain ⟨hpushed, hopen, hstate⟩ := hfields
  refine ⟨t, ht, hpushed, attended_of_run started_stunSession (attendedRun_sound ht) hopen ?_ ?_⟩
  all_goals
    rw [hstate]
    exact fun h => RelayState.noConfusion h

/-- The request comes together with the `SETUP`, and is still there when the pause is over. -/
theorem not_attended_stun : ¬∀ s t, Started stunConfig s →
    AttendedRun stunConfig (fun _ _ => True) s t → t.closed = false →
    t.state ≠ .waitUpstreamConnect → t.state ≠ .waitStun →
    frontFrame t.downstreamRecvBuf = none ∧ frontRequest t.downstreamRecvBuf = none := by
  have hrun : (attendedRun stunConfig (fun _ _ => True) stunSession [connectOccurrence,
      readOccurrence (udpSetup ++ optionsRequest), .step stunReplyEvent]).map
        (fun t => (t.closed, t.state, t.downstreamRecvBuf)) =
          some (false, .idle, optionsRequest) := by
    decide +kernel
  obtain ⟨t, ht, hfields⟩ := Option.map_eq_some_iff.1 hrun
  simp only [Prod.mk.injEq] at hfields
  obtain ⟨hopen, hstate, hbuf⟩ := hfields
  intro hall
  have hspent := hall stunSession t started_stunSession (attendedRun_sound ht) hopen
    (by rw [hstate]; exact fun h => RelayState.noConfusion h)
    (by rw [hstate]; exact fun h => RelayState.noConfusion h)
  rw [hbuf] at hspent
  exact absurd hspent.2 (by decide +kernel)

end RtspToRtspClient

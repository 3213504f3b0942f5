import RtsProxy.Clients.RtspToRtsp.Exchange
import RtsProxy.Clients.RtspToRtsp.Forwarding
import RtsProxy.Clients.RtspToRtsp.Wiring

/-!
# Which replies start the stream

A `PLAY` of the client sets a flag, and so does not any other request: it clears it. The next `200`
that is handled while the flag is set clears it, resets the pipeline, arms the timer and makes the
session stream. The flag is that of the request that was handled last, which is not the one that is
answered when several are outstanding.

* `started_of_step`: what a reply does to the stream;
* `startsRight_of_step_iff`: when that is what the request it answers asks for;
* `pendingPlay_of_step`: what the flag says of the requests and replies that have been handled;
* `startsRight_of_run`: if each `200` answers a `PLAY` exactly when the newest request handled is one
  that no other `200` has been taken for, the stream is started exactly by the replies to a `PLAY`.
-/

open Text Interleaved

/-- What is started with the stream. -/
structure StreamState where
  state : RelayState
  timerArmed : Bool
  waitForKeyframe : Bool
  deriving DecidableEq, Repr

/-- Neither does the session begin to stream, nor is its timer armed. -/
def StreamState.NotBegun (a b : StreamState) : Prop :=
  (b.state = .streaming → a.state = .streaming) ∧ (b.timerArmed → a.timerArmed)

instance (a b : StreamState) : Decidable (a.NotBegun b) := inferInstanceAs (Decidable (_ ∧ _))

namespace RtspToRtspClient

/-- What is started with the stream of a session. -/
def streamState (s : RtspToRtspClient) : StreamState :=
  { state := s.state, timerArmed := s.timerArmed, waitForKeyframe := s.waitForKeyframe }

/-- A reply that has been handled, and what has come of the stream. -/
structure Start where
  reply : Bytes
  /-- Whether the flag of a `PLAY` has been used up. -/
  started : Bool
  before : StreamState
  after : StreamState
  deriving DecidableEq, Repr

/-- A reply with what its step has done to the stream. -/
def startOf (s : RtspToRtspClient) (reply : Bytes) (t : RtspToRtspClient) : Start :=
  { reply := reply
    started := s.pendingPlay && !t.pendingPlay
    before := s.streamState
    after := t.streamState }

/-- A `PLAY`. -/
def IsPlay (request : Bytes) : Prop := (ascii "PLAY ").isPrefixOf request

instance (request : Bytes) : Decidable (IsPlay request) := inferInstanceAs (Decidable (_ = true))

/-- A `200` to a `PLAY` starts the stream; any other reply does not, and leaves the pipeline
    alone. -/
def StartsRight (cfg : ServerConfig) (r : Asked) (a : Start) : Prop :=
  if RtspParser.parseStatusCode a.reply = 200 ∧ IsPlay r.request then
    a.started ∧ a.after = ⟨.streaming, true, cfg.waitKeyframe⟩
  else
    a.started = false ∧ a.before.NotBegun a.after ∧
      a.after.waitForKeyframe = a.before.waitForKeyframe

instance (cfg : ServerConfig) (r : Asked) (a : Start) : Decidable (StartsRight cfg r a) := by
  unfold StartsRight
  infer_instance

/-- A session takes a reply for that to a `PLAY`. -/
def takesForPlay (s : RtspToRtspClient) (reply : Bytes) : Bool :=
  RtspParser.parseStatusCode reply = 200 && !isKeepaliveReply reply && s.pendingPlay

/-- The reply that a step handles. -/
def handledReply (s : RtspToRtspClient) : Event → Option Bytes
  | .upstreamTurn _ => frontMessage s.upstreamRecvBuf
  | _ => none

variable {s t u : RtspToRtspClient} {cfg : ServerConfig} {e : Event}

/-! ## Steps -/

theorem waitForKeyframe_onUpstreamWritable (calls : UpstreamCalls) :
    (s.onUpstreamWritable calls).waitForKeyframe = s.waitForKeyframe :=
  (congrArg waitForKeyframe (unwritten_onUpstreamWritable (s := s) calls) :)

/-- Writing to the upstream does not start the stream. -/
theorem onUpstreamWritable_notBegun (calls : UpstreamCalls) :
    (s.onUpstreamWritable calls).pendingPlay = s.pendingPlay ∧
      s.streamState.NotBegun (s.onUpstreamWritable calls).streamState := by
  have hcontrol := control_onUpstreamWritable (s := s) calls
  suffices h : (s.onUpstreamWritable calls).pendingPlay = s.pendingPlay ∧
      (s.onUpstreamWritable calls).timerArmed = s.timerArmed ∧
      ((s.onUpstreamWritable calls).state = .streaming → s.state = .streaming) from
    ⟨h.1, h.2.2, fun harmed => h.2.1.symm.trans harmed⟩
  show (s.onUpstreamWritable calls).control.pendingPlay = _ ∧
    (s.onUpstreamWritable calls).control.timerArmed = _ ∧
    ((s.onUpstreamWritable calls).control.state = .streaming → _)
  rw [hcontrol]
  split
  · split
    · exact ⟨rfl, rfl, id⟩
    · refine ⟨rfl, rfl, fun hstate => ?_⟩
      dsimp only at hstate
      split at hstate <;> cases hstate
  · refine ⟨rfl, rfl, fun hstate => ?_⟩
    dsimp only at hstate
    split at hstate
    · cases hstate
    · exact hstate

/-- A reply starts the stream exactly if it is taken for that to a `PLAY`. -/
theorem started_of_step {calls : UpstreamCalls} {reply : Bytes}
    (hreply : frontMessage s.upstreamRecvBuf = some reply)
    (h : step cfg s (.upstreamTurn calls) = .ok t) :
    if s.takesForPlay reply then
      (s.startOf reply t).started ∧ t.streamState = ⟨.streaming, true, cfg.waitKeyframe⟩
    else (s.startOf reply t).started = false ∧ s.streamState.NotBegun t.streamState ∧
      t.waitForKeyframe = s.waitForKeyframe := by
  -- what does not use up the flag
  have hsame : ∀ u : RtspToRtspClient, u.pendingPlay = s.pendingPlay →
      (s.startOf reply u).started = false := by
    intro u hflag
    rw [startOf, hflag]
    exact Bool.and_not_self _
  obtain ⟨r, hr, rfl⟩ := Except.map_eq_ok_iff.1 h
  rcases upstreamTurn_cases hr with ⟨-, -, hm⟩ | ⟨channel, data, hf, -⟩ | ⟨msg, t, -, hm, ht, rfl⟩
  · rw [hm] at hreply
    cases hreply
  · rw [frontMessage_of_frontFrame hf] at hreply
    cases hreply
  rw [hm] at hreply
  obtain rfl : msg = reply := Option.some.inj hreply
  rcases handleResponse_cases ht with ⟨hka, rfl⟩ | ⟨-, hretry, rfl⟩ |
    ⟨hka, -, u, v, patched, hu, hv, rfl⟩
  · -- it is taken for the reply to a keepalive
    rw [takesForPlay, hka, Bool.not_true, Bool.and_false, Bool.false_and,
      if_neg Bool.false_ne_true]
    exact ⟨hsame _ rfl, ⟨id, id⟩, rfl⟩
  · -- a `SETUP` is tried again
    have hstatus : RtspParser.parseStatusCode msg = 461 := by
      rw [wantsRetry, Bool.and_eq_true, Bool.and_eq_true, decide_eq_true_iff] at hretry
      exact hretry.1.1
    have hwritten := @onUpstreamWritable_notBegun (s.retryingAfter msg) calls
    have hkeyframe := @waitForKeyframe_onUpstreamWritable (s.retryingAfter msg) calls
    have hno : s.takesForPlay msg = false := by
      rw [takesForPlay, hstatus]
      rfl
    rw [hno, if_neg Bool.false_ne_true]
    exact ⟨hsame _ hwritten.1, hwritten.2, hkeyframe⟩
  · -- the reply is passed on
    have hplain : v.plain = s.plain.skipUpstream msg.length :=
      plain_patched (s := s.skipUpstream msg.length) hu hv
    have hstart := @plain_startStreaming v cfg msg
    rw [takesForPlay, hka, Bool.not_false, Bool.and_true]
    rw [show v.pendingPlay = s.pendingPlay from (congrArg pendingPlay hplain :), hplain] at hstart
    split at hstart
    case isTrue hplay =>
      rw [if_pos hplay]
      have hflag : (v.startStreaming cfg msg).pendingPlay = false := (congrArg pendingPlay hstart :)
      refine ⟨?_, (congrArg streamState hstart :)⟩
      show (s.pendingPlay && !(v.startStreaming cfg msg).pendingPlay) = true
      rw [hflag, Bool.not_false, Bool.and_true]
      exact (Bool.and_eq_true_iff.1 hplay).2
    case isFalse hplay =>
      rw [if_neg hplay]
      have hstream : (v.startStreaming cfg msg).streamState = s.streamState :=
        (congrArg streamState hstart :)
      refine ⟨hsame _ (congrArg pendingPlay hstart :), ?_,
        (congrArg StreamState.waitForKeyframe hstream :)⟩
      show s.streamState.NotBegun (v.startStreaming cfg msg).streamState
      rw [hstream]
      exact ⟨id, id⟩

/-- A reply does to the stream what the request asks for exactly if it is a `200` that is taken for
    the reply to a `PLAY` for what it is. -/
theorem startsRight_of_step_iff {calls : UpstreamCalls} {reply : Bytes} {r : Asked}
    (hreply : frontMessage s.upstreamRecvBuf = some reply)
    (h : step cfg s (.upstreamTurn calls) = .ok t) :
    StartsRight cfg r (s.startOf reply t) ↔
      (RtspParser.parseStatusCode reply = 200 → (s.takesForPlay reply ↔ IsPlay r.request)) := by
  have hstarted := started_of_step hreply h
  rw [StartsRight]
  by_cases hstatus : RtspParser.parseStatusCode reply = 200
  · rw [imp_iff_right hstatus]
    by_cases hplay : IsPlay r.request
    · rw [if_pos ⟨hstatus, hplay⟩, iff_true_right hplay]
      split at hstarted
      case isTrue htakes => exact iff_of_true hstarted htakes
      case isFalse htakes =>
        refine iff_of_false (fun hright => ?_) htakes
        rw [hstarted.1] at hright
        exact Bool.false_ne_true hright.1
    · rw [if_neg fun hboth => hplay hboth.2, iff_false_right hplay]
      split at hstarted
      case isTrue htakes =>
        refine iff_of_false (fun hright => ?_) (not_not_intro htakes)
        rw [hstarted.1] at hright
        exact Bool.false_ne_true hright.1.symm
      case isFalse htakes => exact iff_of_true hstarted htakes
  · rw [if_neg fun hboth => hstatus hboth.1]
    have hno : s.takesForPlay reply = false := by
      rw [takesForPlay, decide_eq_false hstatus]
      rfl
    rw [hno, if_neg Bool.false_ne_true] at hstarted
    exact iff_of_true hstarted fun hyes => absurd hyes hstatus

/-- A step that handles no reply does not start the stream. -/
theorem notBegun_of_step (hnone : s.handledReply e = none) (h : step cfg s e = .ok t) :
    s.streamState.NotBegun t.streamState := by
  have hcontrol := control_of_step h
  show (t.control.state = .streaming → s.control.state = .streaming) ∧
    (t.control.timerArmed → s.control.timerArmed)
  rw [hcontrol]
  cases e with
  | downstreamTurn ports =>
    rw [controlAfter]
    split
    · exact ⟨id, id⟩
    · split
      · rw [Control.request]
        split
        · split
          · exact ⟨id, id⟩
          · split
            · exact ⟨fun hstate => RelayState.noConfusion hstate, id⟩
            · exact ⟨id, id⟩
        · exact ⟨id, id⟩
      · exact ⟨id, id⟩
  | upstreamTurn calls =>
    have hm : frontMessage s.upstreamRecvBuf = none := hnone
    rw [controlAfter, hm]
    split <;> exact ⟨id, id⟩
  | upstreamWritable calls => exact (onUpstreamWritable_notBegun calls).2
  | stunReply d =>
    rw [controlAfter]
    split
    · exact ⟨id, id⟩
    · exact ⟨fun hstate => RelayState.noConfusion hstate, id⟩
  | _ => exact ⟨id, id⟩

/-! ## What has been handled -/

/-- What a session handles: a request of the client that it passes on at once, or a reply. -/
inductive Handling
  | request (req : Bytes)
  | reply (reply : Bytes)
  deriving DecidableEq, Repr

/-- A `200` that the session does not take for the reply to a keepalive. -/
def isPlain200 (reply : Bytes) : Bool :=
  RtspParser.parseStatusCode reply = 200 && !isKeepaliveReply reply

/-- Of what has been handled, from the newest on: the newest request is a `PLAY`, and there is no
    such `200` in front of it. -/
def playAwaited : List Handling → Bool
  | [] => false
  | .request req :: _ => IsPlay req
  | .reply reply :: earlier => playAwaited earlier && !isPlain200 reply

/-- What is handled in a step. A `SETUP` whose ports cannot be opened is not passed on, and one that
    waits for the STUN server not at once. -/
def handledBy (cfg : ServerConfig) (s : RtspToRtspClient) : Event → Option Handling
  | .downstreamTurn ports => ((frontRequest s.downstreamRecvBuf).filter fun req =>
      !(ascii "SETUP ").isPrefixOf req || (s.canRelay ports && !cfg.usesStun)).map .request
  | .upstreamTurn _ => (frontMessage s.upstreamRecvBuf).map .reply
  | _ => none

theorem not_isPlay_of_setup {req : Bytes} (h : (ascii "SETUP ").isPrefixOf req = true) :
    (ascii "PLAY ").isPrefixOf req = false := by
  obtain ⟨rest, rfl⟩ := List.isPrefixOf_iff_prefix.1 h
  rfl

/-- The flag is set exactly if a `PLAY` is awaited, and so it is after each step. -/
theorem pendingPlay_of_step {handled : List Handling} (hs : s.pendingPlay = playAwaited handled)
    (h : step cfg s e = .ok t) :
    t.pendingPlay = playAwaited ((s.handledBy cfg e).toList ++ handled) := by
  have hcontrol : t.pendingPlay = (s.controlAfter cfg e).pendingPlay :=
    congrArg Control.pendingPlay (control_of_step h)
  rw [hcontrol]
  cases e with
  | downstreamTurn ports =>
    rw [controlAfter, handledBy]
    rcases hf : frontFrame s.downstreamRecvBuf with _ | ⟨channel, data⟩
    · rcases hreq : frontRequest s.downstreamRecvBuf with _ | req
      · exact hs
      dsimp only
      rw [Control.request, Option.filter_some]
      by_cases hsetup : (ascii "SETUP ").isPrefixOf req = true
      · -- only a `SETUP` that is passed on at once clears the flag
        rw [if_pos hsetup, hsetup]
        have hplay := not_isPlay_of_setup hsetup
        rcases s.canRelay ports with _ | _
        · exact hs
        rcases cfg.usesStun with _ | _
        · exact (decide_eq_false (ne_true_of_eq_false hplay)).symm
        · exact hs
      · rw [if_neg hsetup, Bool.eq_false_iff.2 hsetup]
        exact Bool.decide_eq_true.symm
    · rw [frontRequest_of_frontFrame hf]
      exact hs
  | upstreamTurn calls =>
    rw [controlAfter, handledBy]
    rcases hf : frontFrame s.upstreamRecvBuf with _ | ⟨channel, data⟩
    · rcases hm : frontMessage s.upstreamRecvBuf with _ | reply
      · exact hs
      dsimp only
      rw [Option.map_some, Option.toList_some, List.singleton_append, playAwaited, ← hs, isPlain200]
      rcases hka : isKeepaliveReply reply with _ | _
      · rw [if_neg Bool.false_ne_true, Bool.not_false, Bool.and_true]
        split
        case isTrue hretry =>
          -- a rejection is no `200`, and the retried `SETUP` leaves the flag alone
          rw [wantsRetry, Bool.and_eq_true, Bool.and_eq_true, decide_eq_true_iff] at hretry
          rw [decide_eq_false (by rw [hretry.1.1]; decide), Bool.not_false, Bool.and_true]
          refine (onUpstreamWritable_notBegun calls).1.trans ?_
          exact (congrArg Control.pendingPlay
            (@control_retrying_learnSession (s.skipUpstream reply.length) reply) :)
        case isFalse =>
          split
          case isTrue hplay =>
            obtain ⟨hstatus, -⟩ := Bool.and_eq_true_iff.1 hplay
            rw [hstatus, Bool.not_true, Bool.and_false]
          case isFalse hplay =>
            show s.pendingPlay = _
            rcases hflag : s.pendingPlay with _ | _
            · rfl
            · rw [hflag, Bool.and_true, Bool.not_eq_true] at hplay
              rw [hplay]
              rfl
      · rw [if_pos rfl, Bool.not_true, Bool.and_false, Bool.not_false, Bool.and_true]
        rfl
    · rw [frontMessage_of_frontFrame hf]
      exact hs
  | upstreamWritable calls => exact (onUpstreamWritable_notBegun calls).1.trans hs
  | stunReply d =>
    rw [controlAfter]
    split
    · exact hs
    · exact hs
  | _ => exact hs

/-! ## Runs -/

/-- What has come of the replies, and what has been handled, from the newest on. -/
structure Course where
  starts : List Start := []
  handled : List Handling := []
  deriving DecidableEq, Repr

/-- The course goes on with a step. -/
def Course.note (cfg : ServerConfig) (c : Course) (s : RtspToRtspClient) (e : Event)
    (t : RtspToRtspClient) : Course :=
  { starts := noteReplies startOf c.starts s e t
    handled := (s.handledBy cfg e).toList ++ c.handled }

/-- The reply that is handled answers a request that has been asked. If it is a `200`, then that is
    a `PLAY` exactly if the reply does not look like one to a keepalive, and the newest request that
    has been handled is a `PLAY` that no other `200` has been taken for. -/
def AnswersAwaited (x : RtspToRtspClient × Course) : Event → Prop
  | .upstreamTurn _ => ∀ reply ∈ frontMessage x.1.upstreamRecvBuf,
      ∃ r ∈ x.1.asked[x.2.starts.length]?, RtspParser.parseStatusCode reply = 200 →
        (isKeepaliveReply reply = false ∧ playAwaited x.2.handled = true ↔ IsPlay r.request)
  | _ => True

instance (x : RtspToRtspClient × Course) : ∀ e, Decidable (AnswersAwaited x e)
  | .upstreamTurn _ => by unfold AnswersAwaited; infer_instance
  | .upstreamWritable _ | .downstreamTurn _ | .receiveDownstream _ | .sendDownstream _
  | .downstreamSent | .receiveUpstream _ | .rtpFromUpstream _ | .rtcpFromUpstream _
  | .rtpFromClient _ | .rtcpFromClient _ | .noDatagram | .stunReply _ | .timer | .close =>
    isTrue trivial

/-- In a run whose replies answer what is awaited, the stream is started by each `200` to a `PLAY`,
    and by nothing else. -/
theorem startsRight_of_run {c : Course} (hs : Started cfg s)
    (h : NotedRun cfg (Course.note cfg) AnswersAwaited (s, {}) (t, c)) :
    (∀ (k : Nat) (a : Start), c.starts[k]? = some a →
      ∃ r, t.asked[k]? = some r ∧ StartsRight cfg r a) ∧
    ∀ e u, t.handledReply e = none → step cfg t e = .ok u →
      t.streamState.NotBegun u.streamState := by
  refine ⟨?_, fun e u => notBegun_of_step⟩
  refine replies_of_run Course.starts (I := fun u c => u.pendingPlay = playAwaited c.handled)
    (fun _ _ _ _ => rfl) (fun u c e v hflag _ hst => pendingPlay_of_step hflag hst)
    (fun u c calls reply v hflag hanswers hreply hst => ?_) h rfl ?_
  · obtain ⟨r, hr, hanswers⟩ := hanswers reply hreply
    refine ⟨r, hr, (startsRight_of_step_iff hreply hst).2 fun hstatus => ?_⟩
    rw [← hanswers hstatus, takesForPlay, decide_eq_true hstatus, Bool.true_and, Bool.and_eq_true,
      Bool.not_eq_true', hflag]
  · obtain ⟨_, _, _, _, _, _, _, _, _, rfl⟩ := hs
    rfl

/-- A `PLAY`, and the replies to it and to the request before it. -/
def playRequest : Bytes := ascii "PLAY * RTSP/1.0\r\nCSeq: 5\r\n\r\n"

@[inherit_doc playRequest]
def playReply : Bytes := ascii "RTSP/1.0 200 OK\r\nCSeq: 5\r\n\r\n"

@[inherit_doc playRequest]
def optionsReply : Bytes := ascii "RTSP/1.0 200 OK\r\nCSeq: 4\r\n\r\n"

/-- All that is queued is written to the upstream. -/
def writeEvent : Event := .upstreamWritable { sends := [⟨1000, false⟩, ⟨1000, false⟩] }

theorem startsRight_of_run_play : ∃ t c,
    notedEvents {} (Course.note {}) AnswersAwaited (liveSession, {})
      (connectEvent :: writeEvent :: replyEvents firstReply ++ requestEvents optionsRequest ++
        writeEvent :: replyEvents optionsReply ++ requestEvents playRequest ++
        writeEvent :: replyEvents playReply) = some (t, c) ∧
    c.starts.map Start.started = [false, false, true] ∧
    (∀ (k : Nat) (a : Start), c.starts[k]? = some a →
      ∃ r, t.asked[k]? = some r ∧ StartsRight {} r a) ∧
    ∀ e u, t.handledReply e = none → step {} t e = .ok u →
      t.streamState.NotBegun u.streamState := by
  have hrun : (notedEvents {} (Course.note {}) AnswersAwaited (liveSession, {})
      (connectEvent :: writeEvent :: replyEvents firstReply ++ requestEvents optionsRequest ++
        writeEvent :: replyEvents optionsReply ++ requestEvents playRequest ++
        writeEvent :: replyEvents playReply)).map (fun x => x.2.starts.map Start.started) =
          some [false, false, true] := by
    decide +kernel
  obtain ⟨⟨t, c⟩, ht, hstarted⟩ := Option.map_eq_some_iff.1 hrun
  exact ⟨t, c, ht, hstarted, startsRight_of_run started_liveSession (notedRun_of_notedEvents ht)⟩

/-- The upstream answers in turn. -/
def StartsInTurn (x : RtspToRtspClient × List Start) : Event → Prop :=
  AnswersInTurn (x.1, x.2.map fun a => { reply := a.reply, queued := [], pushes := [] })

instance (x : RtspToRtspClient × List Start) (e : Event) : Decidable (StartsInTurn x e) :=
  inferInstanceAs (Decidable (AnswersInTurn _ e))

/-- The client does not wait for the reply to its request before it sends a `PLAY`. The upstream
    answers in turn: its reply to the first starts the stream, and that to the `PLAY` does not. -/
theorem not_startsRight_pipelined : ∃ t starts, Started {} liveSession ∧
    NotedRun {} (noteReplies startOf) StartsInTurn (liveSession, []) (t, starts) ∧
    ∃ a r a' r', starts[1]? = some a ∧ t.asked[1]? = some r ∧ r.request = optionsRequest ∧
      a.started ∧ a.after.state = .streaming ∧ ¬StartsRight {} r a ∧
      starts[2]? = some a' ∧ t.asked[2]? = some r' ∧ r'.request = playRequest ∧
      a'.reply = playReply ∧ a'.started = false ∧ ¬StartsRight {} r' a' := by
  have hrun : (notedEvents {} (noteReplies startOf) StartsInTurn (liveSession, [])
      (connectEvent :: writeEvent :: replyEvents firstReply ++
        .receiveDownstream (optionsRequest ++ playRequest) ::
        .downstreamTurn ⟨.failed 0, .failed 0⟩ :: .downstreamTurn ⟨.failed 0, .failed 0⟩ ::
        writeEvent :: replyEvents (optionsReply ++ playReply) ++ [.upstreamTurn {}])).any (fun x =>
          x.2[1]?.any fun a => x.1.asked[1]?.any fun r =>
          x.2[2]?.any fun a' => x.1.asked[2]?.any fun r' =>
            r.request = optionsRequest ∧
            a.started ∧ a.after.state = .streaming ∧ ¬StartsRight {} r a ∧
            r'.request = playRequest ∧ a'.reply = playReply ∧ a'.started = false ∧
            ¬StartsRight {} r' a') = true := by
    decide +kernel
  obtain ⟨⟨t, starts⟩, ht, hany⟩ := (Option.any_eq_true _ _).1 hrun
  obtain ⟨a, ha, hany⟩ := (Option.any_eq_true _ _).1 hany
  obtain ⟨r, hr, hany⟩ := (Option.any_eq_true _ _).1 hany
  obtain ⟨a', ha', hany⟩ := (Option.any_eq_true _ _).1 hany
  obtain ⟨r', hr', hany⟩ := (Option.any_eq_true _ _).1 hany
  obtain ⟨hrequest, hstarted, hstate, hwrong, hplay⟩ := of_decide_eq_true hany
  exact ⟨t, starts, started_liveSession, notedRun_of_notedEvents ht, a, r, a', r', ha, hr, hrequest,
    hstarted, hstate, hwrong, ha', hr', hplay⟩

end RtspToRtspClient

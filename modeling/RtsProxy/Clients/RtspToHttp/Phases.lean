import RtsProxy.Clients.Deframing
import RtsProxy.Clients.RtspToHttp.Standing

/-!
# The phases of an HTTP session

What a server has to go by: which of the requests of a session it has to answer next (`Phase`), and
how the session goes on with what it is sent (`Phase.next`). The session itself is a good deal more;
its phase is read off its standing.

* `phase_of_run`: as long as no connection fails and the client stays, a session is in the phase
  that the contents taken off the upstream lead to;
* `streams_of_run`: it takes off what the server has sent, however this has arrived, and then streams
  exactly if that leads there.
-/

open Text Interleaved Connection

/-- What is taken off the start of a well-written stream, of which some may still have to arrive, is
    the first of its contents. -/
theorem Connection.ReadsWell.next_of_front {front : Cutter UInt8 Content} {announced : Bytes → Nat}
    {us : List Content} {buf rest : Bytes} {x : Content} {k : Nat} (h : ReadsWell front announced)
    (hus : ∀ u ∈ us, u.WellFormed) (hlen : (us.flatMap Content.text).length ≤ maxSize)
    (hbuf : buf ++ rest = us.flatMap Content.text) (hfront : front buf = some (x, k)) :
    ∃ vs, us = x :: vs ∧ buf.drop k ++ rest = vs.flatMap Content.text := by
  have hgood : WellWritten (buf ++ rest) := ⟨hbuf ▸ hlen, us, hus, hbuf.symm⟩
  obtain ⟨hwhole, hle⟩ := h.stable.append hgood hfront
  rcases us with _ | ⟨u, us⟩
  · rw [(h.none_iff hgood).2 hbuf] at hwhole
    cases hwhole
  · have hself : WellWritten ((buf ++ rest) ++ []) := (List.append_nil (buf ++ rest)).symm ▸ hgood
    rw [h.eq_cutter hself, hbuf, List.flatMap_cons,
      cutter_text (h.fits (hus u List.mem_cons_self))] at hwhole
    cases hwhole
    refine ⟨us, rfl, ?_⟩
    rw [← List.drop_append_of_le_length hle, hbuf, List.flatMap_cons, List.drop_left]

namespace RtspToHttpClient

/-- What a session waits for: the answer to a request, or nothing more. -/
inductive Phase
  | options
  | describe
  | setup (retried : Bool)
  | play
  | streaming
  deriving DecidableEq, Repr

/-- A description has a track that can be set up. -/
def describesTrack (sdp : Bytes) : Bool :=
  findTrack (RtspParser.Sdp.parseSDP sdp {}).mediaStreams ≠ []

/-- The phase in which a request has to be answered. -/
def Phase.ofRequest (retried : Bool) : RtspMethod → Option Phase
  | .options => some .options
  | .describe => some .describe
  | .setup => some (.setup retried)
  | .play => some .play
  | _ => none

/-- The phase behind a reply with the status `200`. -/
def Phase.accepted (header body : Bytes) : Phase → Option Phase
  | .options => some .describe
  | .describe => if describesTrack body then some (.setup false) else none
  | .setup _ => if acceptsPorts header then some .play else none
  | .play | .streaming => some .streaming

/-- The phase behind what the upstream has sent, unless the session is given up. -/
def Phase.next (p : Phase) : Content → Option Phase
  | .frame _ _ => some p
  | .message header body =>
    if isServerRequest header then some p
    else if RtspParser.parseStatusCode header = 461 ∧ p = .setup false then some (.setup true)
    else if RtspParser.parseStatusCode header ≠ 200 then none
    else p.accepted header body

/-- The phase that is read off a standing, unless the session is given up. -/
def Standing.phase (r : Standing) : Option Phase :=
  if r.closing then none
  else if r.state = .streaming then some .streaming
  else Phase.ofRequest r.retried r.asked

/-- The phase of a session. -/
def phase (s : RtspToHttpClient) : Option Phase := s.standing.phase

/-- What goes with a phase. -/
def Phase.Fits (r : Standing) : Phase → Prop
  | .options | .describe => r.streams = [] ∧ r.retried = false
  | .setup _ => findTrack r.streams ≠ []
  | .play => True
  | .streaming => r.asked = .play ∨ r.asked = .getParameter

/-- What holds of a session that has not been given up. -/
structure Standing.Sound (r : Standing) : Prop where
  opened : r.closing = false
  callback : r.callback = true
  waiting : r.started = false → r.state = .init ∧ r.asked = .options
  armed : r.armed = true → r.state = .streaming
  fits : ∀ p ∈ r.phase, p.Fits r

variable {cfg : ServerConfig} {s t : RtspToHttpClient} {r : Standing} {header body : Bytes}

/-! ## Phases -/

namespace Standing

theorem phase_of_closing (h : r.closing = true) : r.phase = none := if_pos h

/-- A session that has not been given up streams, or it waits for an answer. -/
theorem phase_of_opened (h : r.closing = false) : r.phase =
    if r.state = .streaming then some .streaming else Phase.ofRequest r.retried r.asked := by
  rw [phase, if_neg (by rw [h]; exact Bool.false_ne_true)]

namespace Sound

/-- A session that streams has asked for that, or has given a sign of life. -/
theorem asked (h : r.Sound) (hstate : r.state = .streaming) :
    r.asked = .play ∨ r.asked = .getParameter := by
  refine h.fits .streaming ?_
  rw [phase_of_opened h.opened, if_pos hstate]
  rfl

/-- Before it has asked for that, a session is in the phase of its request. -/
theorem phase_eq (h : r.Sound) (hplay : r.asked ≠ .play) (halive : r.asked ≠ .getParameter) :
    r.state ≠ .streaming ∧ r.phase = Phase.ofRequest r.retried r.asked := by
  have hstate : r.state ≠ .streaming := fun hstate => (h.asked hstate).elim hplay halive
  exact ⟨hstate, by rw [phase_of_opened h.opened, if_neg hstate]⟩

theorem asked_of_setup {retried : Bool} (h : r.Sound) (hphase : .setup retried ∈ r.phase) :
    r.asked = .setup ∧ r.retried = retried := by
  rw [phase_of_opened h.opened] at hphase
  split at hphase
  · cases hphase
  · rcases hasked : r.asked
    all_goals
      rw [hasked] at hphase
      cases hphase
    exact ⟨rfl, rfl⟩

theorem ask {method : RtspMethod} (h : r.Sound) (hstarted : r.started = true)
    (hfits : ∀ p ∈ (r.ask method).phase, p.Fits (r.ask method)) : (r.ask method).Sound where
  opened := h.opened
  callback := h.callback
  waiting hwait := absurd (hstarted.symm.trans hwait) (by decide)
  armed := h.armed
  fits := hfits

/-- A request is built before the stream has started. -/
theorem phase_ask {method : RtspMethod} (h : r.Sound) (hstate : r.state ≠ .streaming) :
    (r.ask method).phase = Phase.ofRequest r.retried method := by
  rw [phase_of_opened (r := r.ask method) h.opened, if_neg (show (r.ask method).state ≠ _ from hstate)]
  rfl

theorem phase_close (h : r.Sound) : r.close.phase = none :=
  phase_of_closing (closing_close (.inr h.callback))

/-- A track is set up before the stream has started. -/
theorem setup {streams : List Media} (h : r.Sound) (hstarted : r.started = true)
    (hstate : r.state ≠ .streaming) (htrack : findTrack streams ≠ []) (retried : Bool) :
    (Standing.ask .setup { r with retried := retried, streams := streams }).phase = some (.setup retried) ∧
      (Standing.ask .setup { r with retried := retried, streams := streams }).Sound := by
  have hphase : (Standing.ask .setup { r with retried := retried, streams := streams }).phase =
      some (.setup retried) := by
    rw [phase_of_opened (r := Standing.ask .setup { r with retried := retried, streams := streams }) h.opened]
    exact if_neg hstate
  refine ⟨hphase, h.opened, h.callback, fun hwait => ?_, h.armed, fun p hp => ?_⟩
  · exact absurd (hstarted.symm.trans hwait) (by decide)
  · rw [hphase] at hp
    cases hp
    exact htrack

/-- The tracks of a session that had none are those of the description. -/
theorem described_of_nil (h : r.streams = []) (sdp : Bytes) :
    r.described sdp = (RtspParser.Sdp.parseSDP sdp {}).mediaStreams := by
  rw [described, h]
  split
  case isTrue hsdp =>
    rw [hsdp]
    rfl
  case isFalse => rfl

/-- A `200` takes a session to the next phase. -/
theorem accept (h : r.Sound) (hstarted : r.started = true) (header body : Bytes) :
    (r.accept header body).phase = r.phase.bind (·.accepted header body) ∧
      ((r.accept header body).closing = false → (r.accept header body).Sound) := by
  have hclosed : r.close.phase = none ∧ (r.close.closing = false → r.close.Sound) :=
    ⟨h.phase_close, fun hopen =>
      absurd ((closing_close (.inr h.callback)).symm.trans hopen) (by decide)⟩
  rw [Standing.accept]
  cases hasked : r.asked with
  | options =>
    obtain ⟨hstate, hasks⟩ := h.phase_eq (by simp [hasked]) (by simp [hasked])
    have hphase : r.phase = some .options := by
      rw [hasks, hasked]
      rfl
    have hnext : (r.ask .describe).phase = Phase.ofRequest r.retried .describe := h.phase_ask hstate
    rw [hphase]
    refine ⟨hnext, fun _ => h.ask hstarted fun p hp => ?_⟩
    rw [hnext] at hp
    cases hp
    exact h.fits .options hphase
  | describe =>
    obtain ⟨hstate, hasks⟩ := h.phase_eq (by simp [hasked]) (by simp [hasked])
    have hphase : r.phase = some .describe := by
      rw [hasks, hasked]
      rfl
    obtain ⟨hstreams, hretried⟩ := h.fits .describe hphase
    have htracks := described_of_nil hstreams body
    rw [hphase, Option.bind_some, Phase.accepted]
    dsimp only
    rw [setUp, htracks]
    dsimp only
    by_cases htrack : findTrack (RtspParser.Sdp.parseSDP body {}).mediaStreams = []
    · rw [if_pos htrack, if_neg (by simp [describesTrack, htrack])]
      have hclose : Standing.close { r with streams := (RtspParser.Sdp.parseSDP body {}).mediaStreams } =
          { r.close with streams := (RtspParser.Sdp.parseSDP body {}).mediaStreams } := by
        rw [close, close]
        split <;> rfl
      have hclosing := closing_close (r := r) (.inr h.callback)
      rw [hclose]
      refine ⟨phase_of_closing hclosing, fun hopen => ?_⟩
      exact absurd (hclosing.symm.trans hopen) (by decide)
    · rw [if_neg htrack, if_pos (by simp [describesTrack, htrack])]
      have hsetup := h.setup hstarted hstate htrack false
      rw [← hretried] at hsetup
      exact ⟨hsetup.1.trans (by rw [hretried]), fun _ => hsetup.2⟩
  | setup =>
    obtain ⟨hstate, hasks⟩ := h.phase_eq (by simp [hasked]) (by simp [hasked])
    have hphase : r.phase = some (.setup r.retried) := by
      rw [hasks, hasked]
      rfl
    rw [hphase]
    by_cases hports : acceptsPorts header
    · have hnext : (r.ask .play).phase = Phase.ofRequest r.retried .play := h.phase_ask hstate
      rw [if_pos hports]
      refine ⟨hnext.trans (if_pos hports).symm, fun _ => h.ask hstarted fun p hp => ?_⟩
      rw [hnext] at hp
      cases hp
      trivial
    · rw [if_neg hports]
      exact ⟨hclosed.1.trans (if_neg hports).symm, hclosed.2⟩
  | play =>
    have hnext : ({ r with asked := .play, armed := true, state := .streaming } : Standing).phase =
        some .streaming := by
      rw [phase_of_opened (r := { r with asked := .play, armed := true, state := .streaming }) h.opened]
      rfl
    have hstreams : r.phase.bind (·.accepted header body) = some .streaming := by
      rw [phase_of_opened h.opened]
      split
      · rfl
      · rw [hasked]
        rfl
    rw [hstreams]
    refine ⟨hnext, fun _ => ⟨h.opened, h.callback, fun hwait => ?_, fun _ => rfl, fun p hp => ?_⟩⟩
    · exact absurd (hstarted.symm.trans hwait) (by decide)
    · rw [hnext] at hp
      cases hp
      exact .inl rfl
  | getParameter =>
    refine ⟨?_, fun _ => h⟩
    rw [phase_of_opened h.opened]
    split
    · rfl
    · rw [hasked]
      rfl
  | _ =>
    obtain ⟨-, hphase⟩ := h.phase_eq (by simp [hasked]) (by simp [hasked])
    rw [hasked] at hphase
    rw [hphase]
    exact ⟨rfl, fun _ => h⟩

/-- A message takes a session to the next phase, or it is given up. -/
theorem receive (h : r.Sound) (hstarted : r.started = true) (header body : Bytes) :
    (r.receive header body).phase = r.phase.bind (·.next (.message header body)) ∧
      ((r.receive header body).closing = false → (r.receive header body).Sound) := by
  rw [Standing.receive]
  simp only [Phase.next]
  by_cases hserver : isServerRequest header
  · simp only [if_pos hserver]
    exact ⟨(Option.bind_fun_some r.phase).symm, fun _ => h⟩
  · simp only [if_neg hserver]
    by_cases hstatus : RtspParser.parseStatusCode header = 461
    · have hne : RtspParser.parseStatusCode header ≠ 200 := by
        rw [hstatus]
        decide
      by_cases hretry : r.asked = .setup ∧ r.retried = false
      · obtain ⟨hasked, hretried⟩ := hretry
        obtain ⟨hstate, hasks⟩ := h.phase_eq (by simp [hasked]) (by simp [hasked])
        have hphase : r.phase = some (.setup false) := by
          rw [hasks, hasked, hretried]
          rfl
        have htrack : findTrack r.streams ≠ [] := h.fits (.setup false) hphase
        obtain ⟨hnext, hsound⟩ := h.setup hstarted hstate htrack true
        rw [if_pos ⟨hstatus, hasked, hretried⟩, hphase, Option.bind_some, if_pos ⟨hstatus, rfl⟩, setUp]
        dsimp only
        rw [if_neg (show findTrack (described [] { r with retried := true }) ≠ [] from htrack)]
        exact ⟨hnext, fun _ => hsound⟩
      · -- no other request is made again
        rw [if_neg fun hall => hretry hall.2, if_pos hne, h.phase_close]
        refine ⟨(Option.bind_eq_none_iff.2 fun p hp => ?_).symm, fun hopen => ?_⟩
        · rw [if_neg, if_pos hne]
          rintro ⟨-, rfl⟩
          exact hretry (h.asked_of_setup hp)
        · exact absurd ((closing_close (.inr h.callback)).symm.trans hopen) (by decide)
    · simp only [hstatus, false_and, if_false]
      split
      · rw [h.phase_close, Option.bind_fun_none]
        exact ⟨rfl, fun hopen =>
          absurd ((closing_close (.inr h.callback)).symm.trans hopen) (by decide)⟩
      · exact h.accept hstarted header body

end Sound

end Standing

/-! ## Steps -/

/-- What has come from the upstream: the bytes, and the contents that have been taken off them. -/
structure Upstream where
  received : Bytes := []
  taken : List Content := []

/-- The content that a step takes off the bytes of the upstream. -/
def takenBy (s : RtspToHttpClient) : Event → List Content
  | .rtspTurn => ((frontContent s.respBuf).map Prod.fst).toList
  | _ => []

/-- The bytes of the upstream that a step receives. -/
def receivedBy : Event → Bytes
  | .receiveRtsp bytes => bytes
  | _ => []

/-- What comes from the upstream is noted down. -/
def noteUpstream (u : Upstream) (s : RtspToHttpClient) (e : Event) (_ : Unit)
    (_ : RtspToHttpClient) : Upstream :=
  ⟨u.received ++ receivedBy e, u.taken ++ s.takenBy e⟩

/-- No connection fails, and the client stays. -/
def Undisturbed (s : RtspToHttpClient) : Event → Prop
  | .rtpReadable opened _ => opened = true
  | .rtspLost | .clientClosed => False
  | .rtspWritable calls => 0 < s.taken calls
  | .sendClient n => 0 ≤ n.count ∨ n.wouldBlock = true
  | .receiveRtsp _ | .rtspTurn | .clientSent | .timer => True

instance (s : RtspToHttpClient) : ∀ e, Decidable (Undisturbed s e)
  | .rtpReadable opened _ => inferInstanceAs (Decidable (opened = true))
  | .rtspLost | .clientClosed => isFalse id
  | .rtspWritable calls => inferInstanceAs (Decidable (0 < s.taken calls))
  | .sendClient n => inferInstanceAs (Decidable (0 ≤ n.count ∨ n.wouldBlock = true))
  | .receiveRtsp _ | .rtspTurn | .clientSent | .timer => isTrue trivial

/-- What becomes of a standing as contents are taken off. -/
inductive Move (r : Standing) : List Content → Standing → Prop
  | stay : Move r [] r
  | start (h : r.started = false) :
      Move r [] (Standing.ask .options { r with started := true, state := .connecting })
  | connect : Move r [] { r with state := if r.state = .connecting then .connected else r.state }
  | frame (channel : UInt8) (packet : Bytes) : Move r [.frame channel packet] r
  | message (hstate : r.state ≠ .init) (header body : Bytes) :
      Move r [.message header body] (r.receive header body)
  | tick (h : r.armed = true) : Move r [] (r.ask .getParameter)

theorem move_rtspTurn (hqueue : s.requestQueue = []) (hstate : s.state ≠ .init) :
    Move s.standing (s.takenBy .rtspTurn) (ending (s.rtspTurn cfg)).standing := by
  rw [takenBy, rtspTurn_eq, frontContent]
  rcases frontFrame s.respBuf with _ | ⟨channel, packet⟩
  · rcases frontMessage s.respBuf with _ | ⟨header, body, size⟩
    · exact .stay
    · dsimp only [Option.map_some]
      rw [standing_handleMessage (s := s.skipResp size) hqueue header body]
      exact .message hstate header body
  · have hsame := @standing_handleInterleavedPacket cfg (s.countReceived (4 + packet.length)) channel
      packet
    show Move s.standing [.frame channel packet] ((s.countReceived
      (4 + packet.length)).handleInterleavedPacket cfg channel packet).standing
    rw [hsame]
    exact .frame channel packet

/-- What a step does to the standing of a session. -/
theorem move_of_step {e : Event} (hqueue : s.requestQueue = []) (hen : Enabled s e)
    (hcond : Undisturbed s e) : Move s.standing (s.takenBy e) (step cfg s e).standing := by
  cases e with
  | rtpReadable opened payload =>
    obtain rfl : opened = true := hcond
    show Move s.standing [] (s.onRtpReadable cfg true payload).standing
    rcases @standing_onRtpReadable cfg s hqueue payload with hsame | ⟨hfresh, hstart⟩
    · rw [hsame]
      exact .stay
    · rw [hstart]
      exact .start hfresh
  | rtspTurn => exact move_rtspTurn hqueue hen
  | rtspWritable calls =>
    show Move s.standing [] (s.onRtspWritable calls).standing
    rw [standing_onRtspWritable hcond]
    exact .connect
  | sendClient n =>
    show Move s.standing [] (s.clientSendTurn n).state.standing
    rw [standing_clientSendTurn hcond]
    exact .stay
  | clientSent =>
    have hsame : (s.onClientWritable []).standing = s.standing := by
      rw [onClientWritable]
      split <;> rfl
    show Move s.standing [] (s.onClientWritable []).standing
    rw [hsame]
    exact .stay
  | timer =>
    show Move s.standing [] s.handleTimer.standing
    rw [handleTimer, standing_request hqueue]
    exact .tick hen
  | receiveRtsp bytes => exact .stay
  | rtspLost => exact hcond.elim
  | clientClosed => exact hcond.elim

/-- A session that has not been given up goes to the phase that the contents lead to. -/
theorem Standing.Sound.move {r' : Standing} {xs : List Content} (h : r.Sound) (hmove : Move r xs r') :
    r'.phase = r.phase.bind (fun p => xs.foldlM Phase.next p) ∧ (r'.closing = false → r'.Sound) := by
  have hsame : r.phase = r.phase.bind fun p => ([] : List Content).foldlM Phase.next p :=
    (Option.bind_fun_some r.phase).symm
  cases hmove with
  | stay => exact ⟨hsame, fun _ => h⟩
  | start hfresh =>
    obtain ⟨hstate, hasked⟩ := h.waiting hfresh
    have hne : r.state ≠ .streaming := by simp [hstate]
    have hphase : r.phase = some .options := by
      rw [Standing.phase_of_opened h.opened, if_neg hne, hasked]
      rfl
    have hnext : (Standing.ask .options { r with started := true, state := .connecting }).phase =
        some .options :=
      Standing.phase_of_opened (r := Standing.ask .options
        { r with started := true, state := .connecting }) h.opened
    rw [← hsame]
    refine ⟨hnext.trans hphase.symm, fun _ => ⟨h.opened, h.callback, fun hwait => ?_, fun ha => ?_,
      fun p hp => ?_⟩⟩
    · exact absurd hwait.symm Bool.false_ne_true
    · exact absurd (h.armed ha) hne
    · rw [hnext] at hp
      cases hp
      exact h.fits .options hphase
  | connect =>
    have hiff : (if r.state = .connecting then RtspState.connected else r.state) = .streaming ↔
        r.state = .streaming := by
      split
      case isTrue hconnecting => simp [hconnecting]
      case isFalse => exact Iff.rfl
    have hnext : ({ r with state := if r.state = .connecting then .connected else r.state } :
        Standing).phase = r.phase := by
      rw [Standing.phase_of_opened h.opened, Standing.phase_of_opened (r := { r with
        state := if r.state = .connecting then .connected else r.state }) h.opened]
      simp only [hiff]
    rw [← hsame]
    refine ⟨hnext, fun _ => ⟨h.opened, h.callback, fun hwait => ?_, fun ha => hiff.2 (h.armed ha),
      fun p hp => ?_⟩⟩
    · obtain ⟨hstate, hasked⟩ := h.waiting hwait
      exact ⟨by simp [hstate], hasked⟩
    · rw [hnext] at hp
      have hfits := h.fits p hp
      cases p <;> exact hfits
  | frame channel packet => exact ⟨(Option.bind_fun_some r.phase).symm, fun _ => h⟩
  | message hstate header body =>
    have hstarted : r.started = true :=
      Bool.eq_true_of_not_eq_false fun hwait => hstate (h.waiting hwait).1
    obtain ⟨hphase, hsound⟩ := h.receive hstarted header body
    refine ⟨hphase.trans (congrArg r.phase.bind (funext fun p => ?_)), hsound⟩
    rw [List.foldlM_cons]
    exact (Option.bind_fun_some _).symm
  | tick harmed =>
    have hstate := h.armed harmed
    have hphase : r.phase = some .streaming := by rw [Standing.phase_of_opened h.opened, if_pos hstate]
    have hnext : (r.ask .getParameter).phase = some .streaming := by
      rw [Standing.phase_of_opened (r := r.ask .getParameter) h.opened]
      exact if_pos hstate
    rw [← hsame]
    refine ⟨hnext.trans hphase.symm, fun _ => ⟨h.opened, h.callback, fun hwait => ?_, fun _ => hstate,
      fun p hp => ?_⟩⟩
    · exact absurd (hstate.symm.trans (h.waiting hwait).1) (by decide)
    · rw [hnext] at hp
      cases hp
      exact .inr rfl

/-- A session that has been given up stays so. -/
theorem Move.closing {r' : Standing} {xs : List Content} (h : Move r xs r') (hr : r.closing = true) :
    r'.closing = true := by
  cases h with
  | message => exact Standing.closing_receive hr
  | _ => exact hr

/-! ## Runs -/

/-- What holds of a session and of what has come from the upstream. -/
structure InPhase (s : RtspToHttpClient) (u : Upstream) : Prop where
  queue : s.requestQueue = []
  phase : s.phase = u.taken.foldlM Phase.next .options
  sound : s.closing = false → s.standing.Sound

theorem InPhase.step {e : Event} {u : Upstream} (h : InPhase s u) (hen : Enabled s e)
    (hcond : Undisturbed s e) :
    InPhase (RtspToHttpClient.step cfg s e) (noteUpstream u s e () (RtspToHttpClient.step cfg s e)) := by
  have hmove := @move_of_step cfg s e h.queue hen hcond
  have hnote : (noteUpstream u s e () (RtspToHttpClient.step cfg s e)).taken.foldlM Phase.next .options =
      s.phase.bind fun p => (s.takenBy e).foldlM Phase.next p := by
    rw [h.phase]
    exact List.foldlM_append
  refine ⟨(outcome_of_step h.queue hen).queue_eq h.queue, ?_, fun hopen => ?_⟩
  · rw [hnote]
    cases hclosing : s.closing with
    | false => exact ((h.sound hclosing).move hmove).1
    | true =>
      rw [show s.phase = none from Standing.phase_of_closing hclosing]
      exact Standing.phase_of_closing (hmove.closing hclosing)
  · cases hclosing : s.closing with
    | false => exact ((h.sound hclosing).move hmove).2 hopen
    | true => exact absurd (hopen.symm.trans (hmove.closing hclosing)) (by decide)

/-- A session starts without tracks, and with the first request or before it. -/
theorem inPhase_of_started (hs : Started cfg s) (hctx : s.ctx.mediaStreams = []) : InPhase s {} := by
  obtain ⟨pool, stats, ctx, rtpPort, rtpReady, opened, -, rfl⟩ := hs
  have hphase : (start cfg pool stats ctx rtpPort rtpReady opened).phase = some .options ∧
      (start cfg pool stats ctx rtpPort rtpReady opened).requestQueue = [] ∧
      (start cfg pool stats ctx rtpPort rtpReady opened).setupRetryWithTcp = false := by
    unfold start
    cases cfg.usesStun <;> cases opened <;> exact ⟨rfl, rfl, rfl⟩
  refine ⟨hphase.2.1, hphase.1, fun hopen => ⟨hopen, rfl, ?_, ?_, fun p hp => ?_⟩⟩
  · unfold start
    cases cfg.usesStun with
    | false => exact fun hwait => absurd hwait (by cases opened <;> exact Bool.noConfusion)
    | true => exact fun _ => ⟨rfl, rfl⟩
  · unfold start
    cases cfg.usesStun <;> cases opened <;> exact Bool.noConfusion
  · rw [show (start cfg pool stats ctx rtpPort rtpReady opened).standing.phase = _ from hphase.1] at hp
    cases hp
    exact ⟨hctx, hphase.2.2⟩

theorem inPhase_of_run {u : Upstream} (hs : Started cfg s) (hctx : s.ctx.mediaStreams = [])
    (h : NotedRun cfg noteUpstream (fun x e _ => Undisturbed x.1 e) (s, {}) (t, u)) : InPhase t u :=
  notedRun_invariant (P := fun x => InPhase x.1 x.2) (fun _ _ _ _ hx hen hcond => hx.step hen hcond)
    h (inPhase_of_started hs hctx)

/-- As long as no connection fails and the client stays, a session is in the phase that the contents
    taken off the upstream lead to, whatever else happens meanwhile. -/
theorem phase_of_run {u : Upstream} (hs : Started cfg s) (hctx : s.ctx.mediaStreams = [])
    (h : NotedRun cfg noteUpstream (fun x e _ => Undisturbed x.1 e) (s, {}) (t, u)) :
    t.phase = u.taken.foldlM Phase.next .options :=
  (inPhase_of_run hs hctx h).phase

/-- The server answers the first two requests, the second with a track. -/
def describedEvents : List (Event × Unit) :=
  [.rtspWritable { send := ⟨100, false⟩ },
    .receiveRtsp (ascii "RTSP/1.0 200 OK\r\nCSeq: 1\r\n\r\n"), .rtspTurn,
    .receiveRtsp (ascii "RTSP/1.0 200 OK\r\nCSeq: 2\r\nContent-Length: 45\r\n\r\n" ++
      ascii "v=0\r\nm=video 0 RTP/AVP 33\r\na=control:track1\r\n"), .rtspTurn].map (·, ())

theorem phase_of_run_described : ∃ t u,
    NotedRun {} noteUpstream (fun x e (_ : Unit) => Undisturbed x.1 e) (liveSession, {}) (t, u) ∧
    t.phase = u.taken.foldlM Phase.next .options ∧ t.phase = some (.setup false) := by
  have hrun : (notedEvents {} noteUpstream (fun x e (_ : Unit) => Undisturbed x.1 e)
      (liveSession, {}) describedEvents).map (fun x => x.1.phase) = some (some (.setup false)) := by
    decide +kernel
  obtain ⟨⟨t, u⟩, ht, hphase⟩ := Option.map_eq_some_iff.1 hrun
  have hnoted := notedRun_of_notedEvents ht
  exact ⟨t, u, hnoted, phase_of_run started_liveSession rfl hnoted, hphase⟩

/-! ## What the server has sent -/

theorem respBuf_onRtpReadable (opened : Bool) (payload : Bytes) :
    (s.onRtpReadable cfg opened payload).respBuf = s.respBuf := by
  have hqueue : ∀ (u : RtspToHttpClient) (packet : Bytes), (u.queuePacket packet).respBuf = u.respBuf := by
    intro u packet
    rw [queuePacket]
    split <;> rfl
  unfold onRtpReadable
  extract_lets data u out v w x y
  split
  · rfl
  · show y.respBuf = _
    simp only [y]
    split
    · exact hqueue w _
    · split
      · rfl
      · exact congrArg Prod.fst (@buffers_startSession cfg x opened out.packet)

/-- How many of the bytes of the upstream a step takes off. -/
def skippedBy (s : RtspToHttpClient) : Event → Nat
  | .rtspTurn => ((frontContent s.respBuf).map Prod.snd).getD 0
  | _ => 0

theorem respBuf_of_step (cfg : ServerConfig) (s : RtspToHttpClient) (e : Event) :
    (step cfg s e).respBuf = s.respBuf.drop (s.skippedBy e) ++ receivedBy e := by
  have hkept : ∀ {u : RtspToHttpClient}, u.respBuf = s.respBuf → u.respBuf = s.respBuf.drop 0 ++ [] :=
    fun hu => hu.trans (List.append_nil _).symm
  cases e with
  | rtpReadable opened payload => exact hkept (respBuf_onRtpReadable opened payload)
  | receiveRtsp bytes => rfl
  | rtspTurn =>
    show (ending (s.rtspTurn cfg)).respBuf = s.respBuf.drop (s.skippedBy .rtspTurn) ++ []
    rw [List.append_nil, rtspTurn_eq, skippedBy, frontContent]
    rcases frontFrame s.respBuf with _ | ⟨channel, packet⟩
    · rcases frontMessage s.respBuf with _ | ⟨header, body, size⟩
      · rfl
      · exact congrArg Prod.fst (@buffers_handleMessage cfg (s.skipResp size) header body)
    · exact congrArg (List.drop (4 + packet.length)) (respBuf_handleInterleavedPacket
        (s := s.countReceived (4 + packet.length)) channel packet)
  | rtspLost => exact hkept (congrArg Prod.fst buffers_notifyClosed)
  | rtspWritable calls => exact hkept (congrArg Prod.fst (buffers_onRtspWritable calls))
  | sendClient n =>
    refine hkept (u := (s.clientSendTurn n).state) ?_
    rw [clientSendTurn]
    split
    · rfl
    · split
      · show (if n.wouldBlock then s else s.onClientClosed).respBuf = _
        split
        · rfl
        · exact congrArg Prod.fst buffers_onClientClosed
      · dsimp only
        split <;> rfl
  | clientSent =>
    refine hkept (u := s.onClientWritable []) ?_
    rw [onClientWritable]
    split <;> rfl
  | clientClosed => exact hkept (congrArg Prod.fst buffers_onClientClosed)
  | timer => exact hkept (congrArg Prod.fst buffers_handleTimer)

/-- What has been taken off are the first contents of the stream, and the others are still to be
    taken off. -/
def Reads (us : List Content) (s : RtspToHttpClient) (u : Upstream) : Prop :=
  ∀ rest, u.received ++ rest = us.flatMap Content.text →
    ∃ vs, us = u.taken ++ vs ∧ s.respBuf ++ rest = vs.flatMap Content.text

theorem Reads.step {us : List Content} {u : Upstream} {e : Event}
    (hus : ∀ v ∈ us, v.WellFormed) (hlen : (us.flatMap Content.text).length ≤ maxSize)
    (h : Reads us s u) :
    Reads us (RtspToHttpClient.step cfg s e)
      (noteUpstream u s e () (RtspToHttpClient.step cfg s e)) := by
  intro rest hrest
  rw [noteUpstream, List.append_assoc] at hrest
  obtain ⟨vs, rfl, hvs⟩ := h _ hrest
  rw [respBuf_of_step, List.append_assoc]
  have hstays : s.takenBy e = [] → s.skippedBy e = 0 → ∃ vs', u.taken ++ vs =
      (noteUpstream u s e () (RtspToHttpClient.step cfg s e)).taken ++ vs' ∧
        s.respBuf.drop (s.skippedBy e) ++ (receivedBy e ++ rest) = vs'.flatMap Content.text := by
    intro htaken hskipped
    refine ⟨vs, ?_, by rw [hskipped, List.drop_zero, hvs]⟩
    rw [noteUpstream, htaken, List.append_nil]
  cases e with
  | rtspTurn =>
    rcases hfront : frontContent s.respBuf with _ | ⟨x, k⟩
    · exact hstays (by rw [takenBy, hfront]; rfl) (by rw [skippedBy, hfront]; rfl)
    · have hlater : ∀ v ∈ vs, v.WellFormed := fun v hv => hus v (List.mem_append_right _ hv)
      rw [List.flatMap_append, List.length_append] at hlen
      obtain ⟨vs', rfl, hdrop⟩ := readsWell_frontContent.next_of_front hlater (by omega) hvs hfront
      refine ⟨vs', ?_, ?_⟩
      · rw [noteUpstream, takenBy, hfront, List.append_assoc]
        rfl
      · rw [skippedBy, hfront]
        exact hdrop
  | _ => exact hstays rfl rfl

/-- A session is in its last phase when it streams. -/
theorem phase_eq_streaming_iff :
    t.phase = some .streaming ↔ t.state = .streaming ∧ t.closing = false := by
  rw [phase, Standing.phase]
  show (if t.closing = true then none else if t.state = .streaming then _ else _) = _ ↔ _
  cases t.closing with
  | true => simp
  | false =>
    by_cases hstate : t.state = .streaming
    · simp [hstate]
    · have hne : ∀ retried method, Phase.ofRequest retried method ≠ some .streaming := by
        intro retried method
        cases method <;> simp [Phase.ofRequest]
      simp [hstate, hne]

/-- When a session has handled all that it has received, in whatever parts it has arrived and whatever
    else has happened meanwhile, it has taken off what the server has sent. If no connection has failed
    and the client has stayed, it streams exactly if that leads there. -/
theorem streams_of_run {us : List Content} {u : Upstream} (hus : ∀ v ∈ us, v.WellFormed)
    (hlen : (us.flatMap Content.text).length ≤ maxSize) (hs : Started cfg s)
    (hctx : s.ctx.mediaStreams = [])
    (h : NotedRun cfg noteUpstream (fun _ _ _ => True) (s, {}) (t, u))
    (hreceived : u.received = us.flatMap Content.text) (hread : frontContent t.respBuf = none) :
    u.taken = us ∧ (NotedRun cfg noteUpstream (fun x e _ => Undisturbed x.1 e) (s, {}) (t, u) →
      (t.state = .streaming ∧ t.closing = false ↔
        us.foldlM Phase.next .options = some .streaming)) := by
  have hstart : Reads us s {} := by
    intro rest hrest
    obtain ⟨pool, stats, ctx, rtpPort, rtpReady, opened, -, rfl⟩ := hs
    refine ⟨us, rfl, ?_⟩
    rw [← hrest]
    unfold start
    cases cfg.usesStun <;> cases opened <;> rfl
  have hreads : Reads us t u := notedRun_invariant (P := fun x => Reads us x.1 x.2)
    (fun _ _ _ _ hx _ _ => hx.step hus hlen) h hstart
  obtain ⟨vs, rfl, hvs⟩ := hreads [] (by rw [List.append_nil, hreceived])
  rw [List.append_nil] at hvs
  have hgood : WellWritten t.respBuf := by
    rw [List.flatMap_append, List.length_append] at hlen
    exact ⟨by rw [hvs]; omega, vs, fun v hv => hus v (List.mem_append_right _ hv), hvs.symm⟩
  have hnil : vs.flatMap Content.text = [] := hvs ▸ (readsWell_frontContent.none_iff hgood).1 hread
  have hempty : vs = [] := by
    rcases vs with _ | ⟨v, vs⟩
    · rfl
    · have hfront := cutter_text (readsWell_frontContent.fits
        (hus v (List.mem_append_right _ List.mem_cons_self))) (vs.flatMap Content.text)
      rw [← List.flatMap_cons, hnil] at hfront
      cases hfront
  rw [hempty, List.append_nil]
  refine ⟨rfl, fun hquiet => ?_⟩
  rw [← phase_eq_streaming_iff, (inPhase_of_run hs hctx hquiet).phase]

/-- What a server sends that wants the media inside of the connection: answers, one of which rejects
    the first `SETUP`, and a request of its own. -/
def sentContents : List Content :=
  [.message (ascii "RTSP/1.0 200 OK\r\nCSeq: 1\r\n\r\n") [],
    .message (ascii "RTSP/1.0 200 OK\r\nCSeq: 2\r\nContent-Length: 45\r\n\r\n")
      (ascii "v=0\r\nm=video 0 RTP/AVP 33\r\na=control:track1\r\n"),
    .message (ascii "RTSP/1.0 461 No\r\nCSeq: 3\r\n\r\n") [],
    .message (ascii "OPTIONS * RTSP/1.0\r\nCSeq: 7\r\n\r\n") [],
    .message (ascii "RTSP/1.0 200 OK\r\nTransport: RTP/AVP/TCP;interleaved=0-1\r\n\r\n") [],
    .message (ascii "RTSP/1.0 200 OK\r\nCSeq: 5\r\n\r\n") [], .frame 0 [36, 13, 10]]

theorem wellFormed_sentContents : ∀ u ∈ sentContents, u.WellFormed := by
  have hbare : ∀ header ∈ [ascii "RTSP/1.0 200 OK\r\nCSeq: 1\r\n\r\n",
      ascii "RTSP/1.0 461 No\r\nCSeq: 3\r\n\r\n", ascii "OPTIONS * RTSP/1.0\r\nCSeq: 7\r\n\r\n",
      ascii "RTSP/1.0 200 OK\r\nTransport: RTP/AVP/TCP;interleaved=0-1\r\n\r\n",
      ascii "RTSP/1.0 200 OK\r\nCSeq: 5\r\n\r\n"],
      frontHeader header = some header ∧ find (ascii "content-length:") (lower header) = none := by
    decide +kernel
  simp only [List.forall_mem_cons, find_eq_none_iff] at hbare
  obtain ⟨⟨h₁, hno₁⟩, ⟨h₃, hno₃⟩, ⟨h₄, hno₄⟩, ⟨h₅, hno₅⟩, ⟨h₆, hno₆⟩, -⟩ := hbare
  simp only [sentContents, List.forall_mem_cons]
  refine ⟨⟨h₁, .inl ⟨hno₁, rfl⟩⟩, ⟨by decide +kernel, .inr ?_⟩, ⟨h₃, .inl ⟨hno₃, rfl⟩⟩,
    ⟨h₄, .inl ⟨hno₄, rfl⟩⟩, ⟨h₅, .inl ⟨hno₅, rfl⟩⟩, ⟨h₆, .inl ⟨hno₆, rfl⟩⟩,
    Nat.le_of_ble_eq_true rfl, by simp⟩
  exact ⟨ascii "RTSP/1.0 200 OK\r\nCSeq: 2", ascii "45", crlf, by decide +kernel,
    by decide +kernel, by decide, by decide,
    eq_of_prefix_drop (by decide +kernel) (find_eq_none_iff.1 (by decide +kernel))⟩

/-- All of it arrives in two parts, and the client reads meanwhile. -/
def sentEvents : List (Event × Unit) :=
  ([.rtspWritable { send := ⟨100, false⟩ },
    .receiveRtsp ((sentContents.flatMap Content.text).take 50), .rtspTurn, .sendClient ⟨9, false⟩,
    .receiveRtsp ((sentContents.flatMap Content.text).drop 50)] ++
      List.replicate 6 .rtspTurn : List Event).map (·, ())

theorem streams_of_run_sent : ∃ t u,
    NotedRun {} noteUpstream (fun x e (_ : Unit) => Undisturbed x.1 e) (liveSession, {}) (t, u) ∧
    u.taken = sentContents ∧ t.state = .streaming ∧ t.closing = false := by
  have hrun : (notedEvents {} noteUpstream (fun x e (_ : Unit) => Undisturbed x.1 e)
      (liveSession, {}) sentEvents).map (fun x => (x.2.received, x.1.respBuf)) =
        some (sentContents.flatMap Content.text, []) := by
    decide +kernel
  obtain ⟨⟨t, u⟩, ht, hends⟩ := Option.map_eq_some_iff.1 hrun
  obtain ⟨hreceived, hbuf⟩ := Prod.mk.inj hends
  have hnoted := notedRun_of_notedEvents ht
  obtain ⟨htaken, hstreams⟩ := streams_of_run wellFormed_sentContents (by decide +kernel)
    started_liveSession rfl (hnoted.mono fun _ _ _ _ => trivial) hreceived (by rw [hbuf]; rfl)
  exact ⟨t, u, hnoted, htaken, (hstreams hnoted).2 (by decide +kernel)⟩

end RtspToHttpClient

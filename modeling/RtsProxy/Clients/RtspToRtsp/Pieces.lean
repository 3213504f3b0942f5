import RtsProxy.Clients.RtspToRtsp.Forwarding
import RtsProxy.Protocol.Connection

/-!
# What is taken off the bytes of the client

The loop over the bytes of the client takes off frames and header blocks: the pieces of a
connection whose messages have no bodies, though a body is announced as on the other side.

* `downstreamRecvBuf_of_turn`: what a turn takes off;
* `takes_iff`: a whole piece of the connection is taken off exactly if it has no body;
* `taken_of_run`: without bodies, the pieces of the client are taken off whole and in order,
  however they arrive.
-/

open Text Interleaved

namespace RtspToRtspClient

/-- The pieces of a connection, with the bodies that the header blocks announce. -/
abbrev wholePieces : Framing UInt8 := Connection.framing bodyLength

/-- Pieces without bodies. -/
abbrev barePieces : Framing UInt8 := Connection.framing fun _ => 0

/-- A message that goes on behind its header block. -/
def HasBody (piece : Bytes) : Prop :=
  piece.head? ≠ some 36 ∧ ∃ i ∈ find crlf2 piece, i + 4 < piece.length

instance (piece : Bytes) : Decidable (HasBody piece) := by
  unfold HasBody
  infer_instance

variable {buf piece : Bytes}

theorem front_bare_of_frontFrame {channel : UInt8} {data : Bytes}
    (h : frontFrame buf = some (channel, data)) :
    barePieces.front buf = some (buf.take (4 + data.length)) := by
  have hhead := head_of_frontFrame h
  rw [frontFrame, if_pos hhead] at h
  obtain ⟨size, hsize, heq⟩ := Option.map_eq_some_iff.1 h
  obtain ⟨h4, hle, -⟩ := frameSize_le hsize
  refine Connection.framing_front_iff.2 (.inl ⟨hhead, size, hsize, ?_⟩)
  obtain ⟨-, rfl⟩ := Prod.mk.inj heq
  rw [List.length_drop, List.length_take, Nat.min_eq_left hle, Nat.add_sub_cancel' h4]

theorem front_bare_of_frontRequest {req : Bytes} (h : frontRequest buf = some req) :
    barePieces.front buf = some req := by
  obtain ⟨-, hhead, i, hi, rfl⟩ := frontRequest_eq_some_iff.1 h
  exact Connection.framing_front_iff.2 (.inr ⟨hhead, i, hi, find_add_length_le hi, rfl⟩)

/-- A piece without a body that is there is a frame or a request. -/
theorem front_bare_cases (h : barePieces.front buf = some piece) :
    (∃ channel data, frontFrame buf = some (channel, data)) ∨ frontRequest buf = some piece := by
  rcases Connection.framing_front_iff.1 h with ⟨hhead, size, hsize, rfl⟩ | ⟨hhead, i, hi, -, rfl⟩
  · refine .inl ⟨RtpPipeline.byteAt buf 1, (buf.take size).drop 4, ?_⟩
    rw [frontFrame, if_pos hhead, hsize]
    rfl
  · refine .inr (frontRequest_eq_some_iff.2 ⟨?_, hhead, i, hi, rfl⟩)
    rintro rfl
    rw [show find crlf2 [] = none from rfl] at hi
    cases hi

/-- A whole piece without a body is one for the loop, too. -/
theorem isPiece_bare_iff (h : wholePieces.IsPiece piece) :
    barePieces.IsPiece piece ↔ ¬HasBody piece := by
  have hlen : ∀ {i}, find crlf2 piece = some i → i + 4 ≤ piece.length :=
    fun hi => find_add_length_le hi
  constructor
  · rintro hbare ⟨hhead, i, hi, hlt⟩
    rcases Connection.framing_front_iff.1 hbare with ⟨hdollar, _⟩ | ⟨-, j, hj, -, htake⟩
    · exact hhead hdollar
    · rw [Option.mem_def.1 hi] at hj
      cases hj
      have hle := congrArg List.length htake
      rw [List.length_take] at hle
      omega
  · intro hno
    rcases Connection.framing_front_iff.1 h with hframe | ⟨hhead, i, hi, -, htake⟩
    · exact Connection.framing_front_iff.2 (.inl hframe)
    · have hall : i + 4 = piece.length := by
        refine le_antisymm (hlen hi) (Nat.not_lt.1 fun hlt => hno ⟨hhead, i, hi, hlt⟩)
      refine Connection.framing_front_iff.2 (.inr ⟨hhead, i, hi, hlen hi, ?_⟩)
      rw [Nat.add_zero, hall, List.take_length]

variable {s t : RtspToRtspClient} {cfg : ServerConfig} {e : Event} {ports : RelayPorts}

/-- A turn takes the next frame or header block off. -/
theorem downstreamRecvBuf_of_turn (h : step cfg s (.downstreamTurn ports) = .ok t) :
    t.downstreamRecvBuf =
      s.downstreamRecvBuf.drop ((barePieces.front s.downstreamRecvBuf).getD []).length := by
  have hcontrol := congrArg Control.downstreamRecvBuf (control_of_step h)
  rw [controlAfter] at hcontrol
  rcases hf : frontFrame s.downstreamRecvBuf with _ | ⟨channel, data⟩
  · rw [hf] at hcontrol
    rcases hreq : frontRequest s.downstreamRecvBuf with _ | req
    · have hnone : barePieces.front s.downstreamRecvBuf = none := by
        rcases hfront : barePieces.front s.downstreamRecvBuf with _ | piece
        · rfl
        · rcases front_bare_cases hfront with ⟨channel, data, hframe⟩ | hrequest
          · rw [hf] at hframe
            cases hframe
          · rw [hreq] at hrequest
            cases hrequest
      rw [hreq] at hcontrol
      rw [hnone]
      exact hcontrol
    · rw [hreq] at hcontrol
      rw [front_bare_of_frontRequest hreq]
      exact hcontrol.trans Control.downstreamRecvBuf_request
  · have hfront := front_bare_of_frontFrame hf
    have hle := (barePieces.prefix_of_front hfront).length_le
    have hlen : 4 + data.length ≤ s.downstreamRecvBuf.length := by
      rw [frontFrame, if_pos (head_of_frontFrame hf)] at hf
      obtain ⟨size, hsize, heq⟩ := Option.map_eq_some_iff.1 hf
      obtain ⟨h4, hsize, -⟩ := frameSize_le hsize
      obtain ⟨-, rfl⟩ := Prod.mk.inj heq
      rw [List.length_drop, List.length_take]
      omega
    rw [hf] at hcontrol
    rw [hfront, Option.getD_some, List.length_take, Nat.min_eq_left hlen]
    exact hcontrol

/-- A turn takes the piece that the bytes of the client start with off as a whole exactly if it
    has no body. -/
theorem takes_iff {more : Bytes} (hpiece : wholePieces.IsPiece piece)
    (hbuf : s.downstreamRecvBuf = piece ++ more) (h : step cfg s (.downstreamTurn ports) = .ok t) :
    t.downstreamRecvBuf = more ↔ ¬HasBody piece := by
  rw [downstreamRecvBuf_of_turn h, ← isPiece_bare_iff hpiece, hbuf]
  constructor
  · intro hdrop
    rcases hfront : barePieces.front (piece ++ more) with _ | p
    · -- nothing has been taken off
      rw [hfront] at hdrop
      have hlen : (piece ++ more).length = more.length := congrArg List.length hdrop
      rw [List.length_append] at hlen
      exact absurd (List.length_eq_zero_iff.1 (by omega)) (wholePieces.ne_nil_of_front hpiece)
    · rw [hfront] at hdrop
      have hp := Framing.append_drop hfront
      rw [show (piece ++ more).drop p.length = more from hdrop] at hp
      obtain rfl : p = piece := List.append_cancel_right hp
      refine (isPiece_bare_iff hpiece).2 ?_
      rintro ⟨hhead, i, hi, hlt⟩
      rcases Connection.framing_front_iff.1 hfront with ⟨hdollar, _⟩ | ⟨-, j, hj, -, htake⟩
      · rw [List.head?_append_of_ne_nil _ (wholePieces.ne_nil_of_front hpiece)] at hdollar
        exact hhead hdollar
      · rw [find_append hi] at hj
        cases hj
        have hle := congrArg List.length htake
        rw [List.length_take] at hle
        omega
  · intro hbare
    rw [barePieces.front_append hbare more]
    exact List.drop_left

/-! ## Runs -/

/-- A piece that has been taken off, and what its step has done. -/
structure Taken where
  piece : Bytes
  pushes : List Pushed
  /-- The `SETUP` that is held back. -/
  held : Bytes
  closed : Bool
  deriving DecidableEq, Repr

/-- What a step has taken off the bytes of the client. -/
def takenBy (s t : RtspToRtspClient) : Taken where
  piece := s.downstreamRecvBuf.take (s.downstreamRecvBuf.length - t.downstreamRecvBuf.length)
  pushes := t.pushed.drop s.pushed.length
  held := t.pendingSetupReq
  closed := t.closed

/-- The bytes received from the client, and the pieces taken off them. -/
def noteTaken (noted : Bytes × List Taken) (s : RtspToRtspClient) :
    Event → RtspToRtspClient → Bytes × List Taken
  | .receiveDownstream bytes, _ => (noted.1 ++ bytes, noted.2)
  | .downstreamTurn _, t =>
    if t.downstreamRecvBuf.length < s.downstreamRecvBuf.length then
      (noted.1, noted.2 ++ [s.takenBy t])
    else noted
  | _, _ => noted

/-- A frame pushes nothing. A request is forwarded as a whole, or, if it is a `SETUP`, held back as
    a whole, or the session is closed over it. -/
def Handled (s : RtspToRtspClient) (a : Taken) : Prop :=
  if a.piece.head? = some 36 then a.pushes = []
  else (∃ p, a.pushes = [p] ∧ s.Forwards a.piece p) ∨
    ((ascii "SETUP ").isPrefixOf a.piece ∧ a.pushes = [] ∧ (a.held = a.piece ∨ a.closed = true))

/-- Without ports to relay from, the session is closed over a `SETUP`. -/
theorem closed_handleRequest {req : Bytes} {r : Turn RtspToRtspClient}
    (hsetup : (ascii "SETUP ").isPrefixOf req = true) (hcan : s.canRelay ports = false)
    (h : s.handleRequest cfg ports req = .ok r) : r.state.closed = true := by
  rw [handleRequest, if_pos hsetup] at h
  obtain ⟨u, hu, h⟩ := Except.bind_eq_ok_iff.1 h
  have hready : u.relayReady = s.relayReady :=
    congrArg Control.relayReady (control_learnClientTransport hu)
  obtain ⟨hno, hports⟩ := Bool.or_eq_false_iff.1 hcan
  have hinit : (u.initRelaySockets ports).1 = false := by
    rw [initRelaySockets_ready, hports]
  rw [hready, hno, if_neg Bool.false_ne_true] at h
  rcases hsockets : u.initRelaySockets ports with ⟨ready, v⟩
  rw [hsockets] at h hinit
  rw [show ready = false from hinit] at h
  cases h
  rfl

theorem piece_takenBy (hfront : barePieces.front s.downstreamRecvBuf = some piece)
    (h : step cfg s (.downstreamTurn ports) = .ok t) : (s.takenBy t).piece = piece := by
  have hbuf := downstreamRecvBuf_of_turn h
  have hle := (barePieces.prefix_of_front hfront).length_le
  rw [hfront, Option.getD_some] at hbuf
  rw [takenBy, hbuf, List.length_drop, Nat.sub_sub_self hle]
  exact (List.prefix_iff_eq_take.1 (barePieces.prefix_of_front hfront)).symm

/-- What a turn takes off is handled as a whole. -/
theorem handled_takenBy (hfront : barePieces.front s.downstreamRecvBuf = some piece)
    (h : step cfg s (.downstreamTurn ports) = .ok t) : s.Handled (s.takenBy t) := by
  have hpushes : (s.takenBy t).pushes = s.pushesOf cfg (.downstreamTurn ports) := by
    rw [takenBy, pushed_of_step h]
    exact List.drop_left
  rw [Handled, hpushes, piece_takenBy hfront h, pushesOf]
  obtain ⟨r, hr, rfl⟩ := Except.map_eq_ok_iff.1 h
  rcases front_bare_cases hfront with ⟨channel, data, hf⟩ | hreq
  · have hhead : piece.head? = some 36 := by
      obtain ⟨more, hmore⟩ := barePieces.prefix_of_front hfront
      have hhead := head_of_frontFrame hf
      rwa [← hmore, List.head?_append_of_ne_nil _ (barePieces.ne_nil_of_front hfront)] at hhead
    rw [if_pos hhead, frontRequest_of_frontFrame hf]
    rfl
  · have hhead : piece.head? ≠ some 36 := by
      obtain ⟨more, hmore⟩ := barePieces.prefix_of_front hfront
      have hhead := (frontRequest_eq_some_iff.1 hreq).2.1
      rwa [← hmore, List.head?_append_of_ne_nil _ (barePieces.ne_nil_of_front hfront)] at hhead
    rw [if_neg hhead, hreq, Option.map_some, Option.getD_some, requestPushes]
    cases hholds : s.holdsBack cfg ports piece with
    | false => exact .inl ⟨_, rfl, forwards_clientPush ports piece⟩
    | true =>
      obtain ⟨hsetup, hwhy⟩ := Bool.and_eq_true_iff.1 hholds
      refine .inr ⟨hsetup, rfl, ?_⟩
      rcases downstreamTurn_cases hr with ⟨-, -, hnone⟩ | ⟨channel, data, hf, -⟩ | ⟨req, hreq', hr⟩
      · rw [hreq] at hnone
        cases hnone
      · rw [frontRequest_of_frontFrame hf] at hreq
        cases hreq
      · rw [hreq] at hreq'
        obtain rfl : piece = req := Option.some.inj hreq'
        cases hcan : s.canRelay ports with
        | false =>
          exact .inr (closed_handleRequest (s := s.skipDownstream piece.length) hsetup hcan hr)
        | true =>
          have hstun : cfg.usesStun = true := by
            rw [hcan] at hwhy
            simpa using hwhy
          have hpending := congrArg Control.pendingSetupReq (control_handleRequest hr)
          rw [Control.request, if_pos hsetup, show (s.skipDownstream piece.length).canRelay ports =
            true from hcan, if_neg (by simp), if_pos hstun] at hpending
          exact .inl hpending

/-- Once connected, only receiving and turns change what is buffered of the client. -/
theorem connected_of_step (hs : s.state ≠ .waitUpstreamConnect) (h : step cfg s e = .ok t) :
    t.state ≠ .waitUpstreamConnect ∧
      ((∀ bytes, e ≠ .receiveDownstream bytes) → (∀ ports, e ≠ .downstreamTurn ports) →
        t.downstreamRecvBuf = s.downstreamRecvBuf) := by
  have hcontrol := control_of_step h
  suffices hsuff : (s.controlAfter cfg e).state ≠ .waitUpstreamConnect ∧
      ((∀ bytes, e ≠ .receiveDownstream bytes) → (∀ ports, e ≠ .downstreamTurn ports) →
        (s.controlAfter cfg e).downstreamRecvBuf = s.downstreamRecvBuf) by
    rw [← hcontrol] at hsuff
    exact hsuff
  have hkept : s.state ≠ .waitUpstreamConnect ∧
      ((∀ bytes, e ≠ .receiveDownstream bytes) → (∀ ports, e ≠ .downstreamTurn ports) →
        s.downstreamRecvBuf = s.downstreamRecvBuf) :=
    ⟨hs, fun _ _ => rfl⟩
  cases e with
  | receiveDownstream bytes => exact ⟨hs, fun hno => absurd rfl (hno bytes)⟩
  | downstreamTurn ports =>
    refine ⟨?_, fun _ hno => absurd rfl (hno ports)⟩
    rw [controlAfter]
    split
    · exact hs
    · split
      · exact Control.state_request (c := (s.skipDownstream _).control) hs
      · exact hs
  | upstreamTurn calls =>
    rw [controlAfter]
    split
    · exact hkept
    split
    case h_1 msg _ =>
      extract_lets u
      split
      · exact hkept
      split
      · have hretry := (quiet_onUpstreamWritable (s := (u.learnSession msg).retrying) calls).connected
        rw [control_retrying_learnSession] at hretry
        obtain ⟨hstate, hbuf⟩ := hretry hs
        exact ⟨hstate, fun _ _ => hbuf⟩
      split
      · exact ⟨fun hno => RelayState.noConfusion hno, fun _ _ => rfl⟩
      · exact hkept
    case h_2 => exact hkept
  | upstreamWritable calls =>
    obtain ⟨hstate, hbuf⟩ := (quiet_onUpstreamWritable calls).connected hs
    exact ⟨hstate, fun _ _ => hbuf⟩
  | stunReply d =>
    rw [controlAfter]
    split
    · exact hkept
    · exact ⟨fun hno => RelayState.noConfusion hno, fun _ _ => rfl⟩
  | _ => exact hkept

/-- The bytes received are the pieces taken off, which start a sequence, and what is left. -/
structure TakenWhole (units : List Bytes) (s : RtspToRtspClient) (noted : Bytes × List Taken)
    (t : RtspToRtspClient) : Prop where
  connected : t.state ≠ .waitUpstreamConnect
  taken : noted.2.map Taken.piece <+: units
  received : noted.1 = (noted.2.map Taken.piece).flatten ++ t.downstreamRecvBuf
  handled : ∀ a ∈ noted.2, s.Handled a
  forwards : t.Forwards = s.Forwards

theorem handled_congr {u : RtspToRtspClient} (h : u.Forwards = s.Forwards) (a : Taken) :
    u.Handled a ↔ s.Handled a := by
  rw [Handled, Handled, h]

/-- A turn keeps the account of what has been taken off. -/
theorem TakenWhole.turn {units : List Bytes} {noted : Bytes × List Taken} {u v : RtspToRtspClient}
    (h : TakenWhole units s noted u) (hunits : ∀ piece ∈ units, barePieces.IsPiece piece)
    (hpre : noted.1 <+: units.flatten) (hst : step cfg u (.downstreamTurn ports) = .ok v) :
    TakenWhole units s (noteTaken noted u (.downstreamTurn ports) v) v := by
  obtain ⟨hconnected, ⟨rest, hrest⟩, hreceived, hhandled, hforwards⟩ := h
  have hbuf := downstreamRecvBuf_of_turn hst
  have hstate := (connected_of_step hconnected hst).1
  have hforwards' : v.Forwards = s.Forwards := (forwards_of_step hst).trans hforwards
  rw [noteTaken]
  rcases hfront : barePieces.front u.downstreamRecvBuf with _ | piece
  · rw [hfront] at hbuf
    have hsame : v.downstreamRecvBuf = u.downstreamRecvBuf := hbuf
    rw [hsame, if_neg (Nat.lt_irrefl _)]
    exact ⟨hstate, ⟨rest, hrest⟩, hsame ▸ hreceived, hhandled, hforwards'⟩
  · rw [hfront, Option.getD_some] at hbuf
    have hlt := Framing.length_drop_lt hfront
    have hpiece := piece_takenBy hfront hst
    have hnext : ∃ more, rest = piece :: more := by
      refine Framing.front_of_prefix
        (fun p hp => hunits p (hrest ▸ List.mem_append_right _ hp)) ?_ hfront
      rw [hreceived, ← hrest, List.flatten_append] at hpre
      exact (List.prefix_append_right_inj _).1 hpre
    obtain ⟨more, rfl⟩ := hnext
    rw [if_pos (hbuf ▸ hlt)]
    refine ⟨hstate, ⟨more, ?_⟩, ?_, fun a ha => ?_, hforwards'⟩
    · rw [List.map_append, List.map_singleton, hpiece, List.append_assoc]
      exact hrest
    · rw [List.map_append, List.map_singleton, hpiece, List.flatten_append, List.flatten_singleton,
        List.append_assoc, hbuf, Framing.append_drop hfront]
      exact hreceived
    · rcases List.mem_append.1 ha with ha | ha
      · exact hhandled a ha
      · rw [List.mem_singleton.1 ha, ← handled_congr hforwards]
        exact handled_takenBy hfront hst

theorem prefix_noteTaken (noted : Bytes × List Taken) (s t : RtspToRtspClient) (e : Event) :
    noted.1 <+: (noteTaken noted s e t).1 := by
  cases e with
  | receiveDownstream bytes => exact List.prefix_append _ _
  | downstreamTurn ports =>
    rw [noteTaken]
    split <;> exact List.prefix_rfl
  | _ => exact List.prefix_rfl

/-- So does every step. -/
theorem TakenWhole.step {units : List Bytes} {noted : Bytes × List Taken} {u v : RtspToRtspClient}
    (h : TakenWhole units s noted u) (hunits : ∀ piece ∈ units, barePieces.IsPiece piece)
    (hpre : noted.1 <+: units.flatten) (hst : step cfg u e = .ok v) :
    TakenWhole units s (noteTaken noted u e v) v := by
  obtain ⟨hstate, hsame⟩ := connected_of_step h.connected hst
  have hforwards : v.Forwards = s.Forwards := (forwards_of_step hst).trans h.forwards
  cases e with
  | receiveDownstream bytes =>
    refine ⟨hstate, h.taken, ?_, h.handled, hforwards⟩
    have hbuf : v.downstreamRecvBuf = u.downstreamRecvBuf ++ bytes := by
      cases hst
      rfl
    show noted.1 ++ bytes = (noted.2.map Taken.piece).flatten ++ v.downstreamRecvBuf
    rw [hbuf, ← List.append_assoc, ← h.received]
  | downstreamTurn ports => exact h.turn hunits hpre hst
  | _ =>
    have hbuf : v.downstreamRecvBuf = u.downstreamRecvBuf :=
      hsame (fun _ hno => Event.noConfusion hno) fun _ hno => Event.noConfusion hno
    exact ⟨hstate, h.taken, hbuf ▸ h.received, h.handled, hforwards⟩

/-- From a session that is connected, in any run: if the client sends pieces without bodies, they
    are taken off whole and in their order, and each is handled as a whole. -/
theorem taken_of_run {units : List Bytes} {received : Bytes} {taken : List Taken}
    (hs : s.state ≠ .waitUpstreamConnect) (hbuf : s.downstreamRecvBuf = [])
    (hunits : ∀ piece ∈ units, wholePieces.IsPiece piece)
    (hbodies : ∀ piece ∈ units, ¬HasBody piece)
    (h : NotedRun cfg noteTaken (fun _ _ => True) (s, [], []) (t, received, taken))
    (hpre : received <+: units.flatten) :
    taken.map Taken.piece <+: units ∧
      received = (taken.map Taken.piece).flatten ++ t.downstreamRecvBuf ∧
      ∀ a ∈ taken, s.Handled a := by
  have hbare : ∀ piece ∈ units, barePieces.IsPiece piece :=
    fun piece hp => (isPiece_bare_iff (hunits piece hp)).2 (hbodies piece hp)
  have hinv := notedRun_invariant
    (P := fun x => x.2.1 <+: units.flatten → TakenWhole units s x.2 x.1)
    (fun u noted e v hu _ _ hst hpre =>
      have hnoted := (prefix_noteTaken noted u v e).trans hpre
      (hu hnoted).step hbare hnoted hst) h (fun _ => ?_) hpre
  · exact ⟨hinv.taken, hinv.received, hinv.handled⟩
  · refine ⟨hs, List.nil_prefix, ?_, fun a ha => absurd ha List.not_mem_nil, rfl⟩
    rw [hbuf]
    rfl

/-- A request, a frame and another request. -/
def plainUnits : List Bytes :=
  [optionsRequest, [36, 0, 0, 2, 7, 8], ascii "PLAY * RTSP/1.0\r\nCSeq: 5\r\n\r\n"]

/-- A request whose body looks like a frame. -/
def unitWithBody : Bytes :=
  ascii "SET_PARAMETER * RTSP/1.0\r\nContent-Length: 6\r\n\r\n" ++ [36, 0, 0, 2, 7, 8]

/-- The session for the path `/live`, connected. -/
def connectedSession : RtspToRtspClient := liveSession.onUpstreamWritable {}

/-- Bytes of the client are received in two parts, and the loop goes round. -/
def partedEvents (first second : Bytes) : List Event :=
  [.receiveDownstream first, .downstreamTurn ⟨.failed 0, .failed 0⟩, .receiveDownstream second,
    .downstreamTurn ⟨.failed 0, .failed 0⟩, .downstreamTurn ⟨.failed 0, .failed 0⟩]

theorem taken_of_run_parted : ∃ t taken,
    notedEvents {} noteTaken (fun _ _ => True) (connectedSession, [], [])
      (partedEvents (plainUnits.flatten.take 33) (plainUnits.flatten.drop 33)) =
        some (t, plainUnits.flatten, taken) ∧
    taken.map Taken.piece = plainUnits ∧
    (taken.map Taken.piece <+: plainUnits ∧
      plainUnits.flatten = (taken.map Taken.piece).flatten ++ t.downstreamRecvBuf ∧
      ∀ a ∈ taken, connectedSession.Handled a) := by
  have hrun : (notedEvents {} noteTaken (fun _ _ => True) (connectedSession, [], [])
      (partedEvents (plainUnits.flatten.take 33) (plainUnits.flatten.drop 33))).map
        (fun x => (x.2.1, x.2.2.map Taken.piece)) =
          some (plainUnits.flatten, plainUnits) := by
    decide +kernel
  obtain ⟨⟨t, received, taken⟩, ht, heq⟩ := Option.map_eq_some_iff.1 hrun
  obtain ⟨hreceived, htaken⟩ := Prod.mk.inj heq
  rw [show received = plainUnits.flatten from hreceived] at ht
  have hunits : ∀ piece ∈ plainUnits, wholePieces.front piece = some piece := by decide +kernel
  have hbodies : ∀ piece ∈ plainUnits, ¬HasBody piece := by decide +kernel
  exact ⟨t, taken, ht, htaken, taken_of_run (by decide +kernel) rfl hunits hbodies
    (notedRun_of_notedEvents ht) List.prefix_rfl⟩

/-- The body of a request is cut off, and taken for a frame. -/
theorem taken_body : ∃ t taken, Started {} liveSession ∧
    Run {} anyStep liveSession connectedSession ∧
    NotedRun {} noteTaken (fun _ _ => True) (connectedSession, [], []) (t, unitWithBody, taken) ∧
    wholePieces.IsPiece unitWithBody ∧
    taken.map Taken.piece = [unitWithBody.take 47, [36, 0, 0, 2, 7, 8]] ∧
    ¬taken.map Taken.piece <+: [unitWithBody] := by
  have hrun : (notedEvents {} noteTaken (fun _ _ => True) (connectedSession, [], [])
      [.receiveDownstream unitWithBody, .downstreamTurn ⟨.failed 0, .failed 0⟩,
        .downstreamTurn ⟨.failed 0, .failed 0⟩]).map (fun x => (x.2.1, x.2.2.map Taken.piece)) =
          some (unitWithBody, [unitWithBody.take 47, [36, 0, 0, 2, 7, 8]]) := by
    decide +kernel
  obtain ⟨⟨t, received, taken⟩, ht, heq⟩ := Option.map_eq_some_iff.1 hrun
  obtain ⟨hreceived, htaken⟩ := Prod.mk.inj heq
  rw [show received = unitWithBody from hreceived] at ht
  have hunit : wholePieces.front unitWithBody = some unitWithBody := by decide +kernel
  refine ⟨t, taken, started_liveSession, run_single (e := .upstreamWritable {}) trivial rfl,
    notedRun_of_notedEvents ht, hunit, htaken, ?_⟩
  intro hpre
  rw [show taken.map Taken.piece = _ from htaken] at hpre
  exact absurd hpre.length_le (by decide)

end RtspToRtspClient

import RtsProxy.Chunks
import RtsProxy.Clients.RtspToHttp.Requests

/-!
# The bytes that an HTTP session sends to its upstream

A request stands in one buffer until all of it has been sent, and a new request takes its place
there; a reply to the upstream is handed to the socket at once, and what the socket does not take
of it is lost.

* `whole_of_run`: the bytes written are those of whole messages, the last one possibly cut short,
  as long as nothing comes between the parts of a request and each reply is taken whole or not at
  all.
-/

open Text Chunks

namespace RtspToHttpClient

/-- The reply to the request of the upstream that a step handles. -/
def replyTo (s : RtspToHttpClient) (e : Event) : Option Bytes :=
  ((s.messageOf e).filter isServerRequest).map fun header =>
    okReply (RtspParser.extractHeaderValue header (ascii "CSeq"))

/-- What a step writes to the upstream, when the socket takes so much of a reply. -/
def writes (s : RtspToHttpClient) (e : Event) (n : Nat) : Bytes :=
  match e with
  | .rtspWritable calls => (s.reqBuf.drop s.tcpSendOffset).take (s.taken calls)
  | _ => ((s.replyTo e).getD []).take n

/-- The bytes that have been written to the upstream, and the messages they can be made of: the
    requests that have been built, and the replies. -/
structure Wire where
  bytes : Bytes := []
  messages : List Bytes := []
  deriving DecidableEq

/-- What a step writes, and the messages it makes. -/
def noteWire (w : Wire) (s : RtspToHttpClient) (e : Event) (n : Nat) (t : RtspToHttpClient) :
    Wire where
  bytes := w.bytes ++ s.writes e n
  messages := w.messages ++ (s.replyTo e).toList ++ if t.cseq = s.cseq then [] else [t.reqBuf]

/-- The wire before the first step. -/
def wireAtStart (s : RtspToHttpClient) : Wire :=
  { messages := if s.cseq = 1 then [] else [s.reqBuf] }

/-- A request, or a reply to one of the upstream. -/
def IsMessage (m : Bytes) : Prop :=
  (∃ sessionId req, m = requestText sessionId req) ∨ ∃ cseq, m = okReply cseq

/-- The bytes are those of whole messages, only the last one possibly cut short. -/
structure Wire.Whole (w : Wire) : Prop where
  messages : ∀ m ∈ w.messages, IsMessage m
  bytes : Composed w.messages w.bytes

/-- While a request is half sent the timer does not tick and no message is handled, and the socket
    takes all of a reply or nothing. -/
def KeepsApart (x : RtspToHttpClient × Wire) (e : Event) (n : Nat) : Prop :=
  (0 < x.1.tcpSendOffset → e ≠ .timer ∧ x.1.messageOf e = none) ∧
    ∀ reply ∈ x.1.replyTo e, n = 0 ∨ reply.length ≤ n

variable {cfg : ServerConfig} {s t : RtspToHttpClient}

/-! ## Steps -/

/-- The requests of a session and the wire: behind whole messages stands what has been sent of the
    current request. -/
structure Sending (r : Requests) (w : Wire) : Prop where
  queue : r.queue = []
  fresh : r.started = false → r.sent = 0 ∧ r.idle = true
  sent : r.sent ≤ r.text.length
  current : r.text = [] ∨ r.text ∈ w.messages
  messages : ∀ m ∈ w.messages, IsMessage m
  written : ∃ ms : List Bytes, (∀ m ∈ ms, m ∈ w.messages) ∧
    w.bytes = ms.flatten ++ r.text.take r.sent

/-- What is on the wire is whole. -/
theorem Sending.whole {r : Requests} {w : Wire} (h : Sending r w) : w.Whole := by
  obtain ⟨ms, hms, hbytes⟩ := h.written
  refine ⟨h.messages, ?_⟩
  rcases h.current with hnil | hcurrent
  · refine ⟨ms, hms, ?_⟩
    rw [hbytes, hnil, List.take_nil, List.append_nil]
  · refine ⟨ms ++ [r.text], fun m hm => ?_, ?_⟩
    · rcases List.mem_append.1 hm with hm | hm
      · exact hms m hm
      · exact List.mem_singleton.1 hm ▸ hcurrent
    · rw [hbytes, List.flatten_append, List.flatten_singleton]
      exact (List.prefix_append_right_inj _).2 (List.take_prefix _ _)

/-- The wire after a step. -/
def Wire.after (w : Wire) (s : RtspToHttpClient) (e : Event) (n : Nat) (r : Requests) : Wire where
  bytes := w.bytes ++ s.writes e n
  messages := w.messages ++ (s.replyTo e).toList ++ if r.cseq = s.cseq then [] else [r.text]

variable {e : Event} {n : Nat} {w : Wire}

theorem replyTo_of_message (h : s.messageOf e = none) : s.replyTo e = none := by
  rw [replyTo, h]
  rfl

theorem Quiet.writes_eq (h : Quiet s e) : s.writes e n = [] := by
  have hreply := replyTo_of_message h.message
  cases e with
  | rtspWritable calls => exact absurd rfl (h.send calls)
  | _ =>
    show ((s.replyTo _).getD []).take n = []
    rw [hreply, Option.getD_none, List.take_nil]

/-- Where nothing is sent and nothing made, the wire is as before. -/
theorem Quiet.after_eq {r : Requests} (h : Quiet s e) (hcseq : r.cseq = s.cseq) :
    w.after s e n r = w := by
  rw [Wire.after, h.writes_eq, replyTo_of_message h.message, if_pos hcseq]
  simp

/-- A request is built while none is half sent: it is the one to be sent next. -/
theorem Sending.build {r : Requests} {method : RtspMethod} {uri headers body sessionId : Bytes}
    {w' : Wire} (h : Sending r w) (hsent : r.sent = 0) (hbytes : w'.bytes = w.bytes)
    (hmessages : w'.messages = w.messages ++
      [(r.build method uri headers body sessionId).text]) :
    Sending (r.build method uri headers body sessionId) w' := by
  obtain ⟨ms, hms, hwritten⟩ := h.written
  refine ⟨rfl, fun hnew => ⟨rfl, (h.fresh hnew).2⟩, Nat.zero_le _, .inr ?_, fun m hm => ?_, ms, fun m hm => ?_, ?_⟩
  · rw [hmessages]
    exact List.mem_append_right _ List.mem_cons_self
  · rw [hmessages] at hm
    rcases List.mem_append.1 hm with hm | hm
    · exact h.messages m hm
    · exact List.mem_singleton.1 hm ▸ .inl ⟨_, _, rfl⟩
  · rw [hmessages]
    exact List.mem_append_left _ (hms m hm)
  · rw [hbytes, hwritten, hsent, List.take_zero]
    rfl

/-- Some of the current request is sent. -/
theorem Sending.send {r : Requests} {k : Nat} {w' : Wire} (h : Sending r w)
    (hidle : r.idle = false) (hk : k ≤ r.text.length - r.sent)
    (hbytes : w'.bytes = w.bytes ++ (r.text.drop r.sent).take k)
    (hmessages : w'.messages = w.messages) : Sending (r.send k) w' := by
  obtain ⟨ms, hms, hwritten⟩ := h.written
  have htext : (r.send k).text = r.text := rfl
  have hpart : w'.bytes = ms.flatten ++ r.text.take (r.sent + k) := by
    rw [hbytes, hwritten, List.append_assoc, ← List.take_add]
  have hle := h.sent
  -- something is sent only where there is a connection
  have hstarted : r.started = false → (r.send k).sent = 0 ∧ r.idle = true := fun hnew =>
    absurd ((h.fresh hnew).2.symm.trans hidle) (by decide)
  by_cases hwhole : 0 < k ∧ r.sent + k = r.text.length
  · have hsent : (r.send k).sent = 0 := if_pos hwhole
    have hcurrent : r.text ∈ w.messages := by
      refine h.current.resolve_left fun hnil => ?_
      rw [hnil, List.length_nil] at hwhole
      omega
    refine ⟨h.queue, hstarted, hsent ▸ Nat.zero_le _, hmessages ▸ .inr hcurrent,
      hmessages ▸ h.messages, ms ++ [r.text], fun m hm => ?_, ?_⟩
    · rw [hmessages]
      rcases List.mem_append.1 hm with hm | hm
      · exact hms m hm
      · exact List.mem_singleton.1 hm ▸ hcurrent
    · rw [hpart, hwhole.2, List.take_length, hsent, List.take_zero, List.flatten_append,
        List.flatten_singleton, List.append_nil]
  · have hsent : (r.send k).sent = r.sent + k := if_neg hwhole
    refine ⟨h.queue, hstarted, ?_, hmessages ▸ h.current, hmessages ▸ h.messages, ms,
      hmessages ▸ hms, ?_⟩
    · rw [hsent, htext]
      omega
    · rw [hsent, htext, hpart]

/-- A reply is written whole, or nothing of it, while no request is half sent. -/
theorem Sending.answer {r r' : Requests} {reply : Bytes} {w' : Wire} (h : Sending r w)
    (hsent : r.sent = 0) (hr : r' = { r with replies := r'.replies }) (hreply : IsMessage reply)
    (hn : n = 0 ∨ reply.length ≤ n) (hbytes : w'.bytes = w.bytes ++ reply.take n)
    (hmessages : w'.messages = w.messages ++ [reply]) : Sending r' w' := by
  obtain ⟨ms, hms, hwritten⟩ := h.written
  have hsub : ∀ m ∈ w.messages, m ∈ w'.messages := fun m hm => by
    rw [hmessages]
    exact List.mem_append_left _ hm
  rw [hr]
  refine ⟨h.queue, h.fresh, h.sent, h.current.imp id (hsub _), fun m hm => ?_, ?_⟩
  · rw [hmessages] at hm
    rcases List.mem_append.1 hm with hm | hm
    · exact h.messages m hm
    · exact List.mem_singleton.1 hm ▸ hreply
  · rw [hsent, List.take_zero, List.append_nil] at hwritten
    show ∃ ms : List Bytes, _ ∧ w'.bytes = ms.flatten ++ r.text.take r.sent
    rw [hsent, List.take_zero]
    rcases hn with rfl | hall
    · refine ⟨ms, fun m hm => hsub m (hms m hm), ?_⟩
      rw [hbytes, List.take_zero, List.append_nil, hwritten, List.append_nil]
    · refine ⟨ms ++ [reply], fun m hm => ?_, ?_⟩
      · rcases List.mem_append.1 hm with hm | hm
        · exact hsub m (hms m hm)
        · rw [hmessages, List.mem_singleton.1 hm]
          exact List.mem_append_right _ List.mem_cons_self
      · rw [hbytes, List.take_of_length_le hall, hwritten, List.flatten_append,
          List.flatten_singleton, List.append_nil]

/-- Where a message is handled that is no request, nothing is written. -/
theorem after_of_not_request {header : Bytes} {r : Requests} (hmessage : s.messageOf e = some header)
    (hreply : ¬isServerRequest header) :
    (w.after s e n r).bytes = w.bytes ∧
      (w.after s e n r).messages = w.messages ++ if r.cseq = s.cseq then [] else [r.text] := by
  have hnone : s.replyTo e = none := by
    rw [replyTo, hmessage, Option.filter_some, if_neg hreply]
    rfl
  have hwrites : s.writes e n = [] := by
    cases e with
    | rtspTurn =>
      show ((s.replyTo _).getD []).take n = []
      rw [hnone, Option.getD_none, List.take_nil]
    | _ => cases hmessage
  rw [Wire.after, hwrites, hnone]
  exact ⟨List.append_nil _, congrArg (· ++ _) (List.append_nil _)⟩

/-- Without a request in reply, the wire is as before. -/
theorem after_eq_of_message {header : Bytes} {r : Requests} (hmessage : s.messageOf e = some header)
    (hreply : ¬isServerRequest header) (hcseq : r.cseq = s.cseq) : w.after s e n r = w := by
  obtain ⟨hbytes, hmessages⟩ := @after_of_not_request s e n w header r hmessage hreply
  rw [if_pos hcseq, List.append_nil] at hmessages
  exact congr (congrArg Wire.mk hbytes) hmessages

/-- A request that is built stands behind those built before. -/
theorem ite_cseq_build {r : Requests} {method : RtspMethod} {uri headers body sessionId : Bytes}
    (hcseq : r.cseq = s.cseq) :
    (if (r.build method uri headers body sessionId).cseq = s.cseq then []
      else [(r.build method uri headers body sessionId).text]) =
      [(r.build method uri headers body sessionId).text] := by
  refine if_neg fun h => ?_
  have hsucc : r.cseq + 1 = s.cseq := h
  omega

/-- A request built in reply to a message. -/
theorem Sending.build_of_message {header : Bytes} {r : Requests} {method : RtspMethod}
    {uri headers body sessionId : Bytes} (h : Sending r w) (hcseq : r.cseq = s.cseq)
    (hsent : r.sent = 0) (hmessage : s.messageOf e = some header)
    (hreply : ¬isServerRequest header) :
    Sending (r.build method uri headers body sessionId)
      (w.after s e n (r.build method uri headers body sessionId)) := by
  obtain ⟨hbytes, hmessages⟩ := @after_of_not_request s e n w header
    (r.build method uri headers body sessionId) hmessage hreply
  exact h.build hsent hbytes (hmessages.trans (by rw [ite_cseq_build hcseq]))

/-- A message leaves the wire whole. -/
theorem Sending.react {header : Bytes} {r : Requests} (h : Sending s.requests w)
    (hsent : s.tcpSendOffset = 0) (hn : ∀ reply ∈ s.replyTo e, n = 0 ∨ reply.length ≤ n)
    (hmessage : s.messageOf e = some header) (hreact : Reaction header s.requests r) :
    Sending r (w.after s e n r) := by
  cases hreact with
  | nothing hreply =>
    rwa [after_eq_of_message hmessage hreply rfl]
  | answer hreply =>
    have hsome : s.replyTo e =
        some (okReply (RtspParser.extractHeaderValue header (ascii "CSeq"))) := by
      rw [replyTo, hmessage, Option.filter_some, if_pos hreply]
      rfl
    refine h.answer hsent rfl (.inr ⟨_, rfl⟩) (hn _ hsome) ?_ ?_
    · cases e with
      | rtspTurn =>
        show w.bytes ++ ((s.replyTo _).getD []).take n = _
        rw [hsome, Option.getD_some]
      | _ => cases hmessage
    · show w.messages ++ (s.replyTo e).toList ++ _ = _
      rw [hsome, if_pos (show (s.requests.answer header).cseq = s.cseq from rfl), List.append_nil]
      rfl
  | noTrack hstatus =>
    rw [@after_eq_of_message s e n w header s.requests.retry hmessage
      (not_isServerRequest (by decide) hstatus) rfl]
    exact ⟨h.queue, h.fresh, h.sent, h.current, h.messages, h.written⟩
  | retry hstatus =>
    have hretry : Sending s.requests.retry w :=
      ⟨h.queue, h.fresh, h.sent, h.current, h.messages, h.written⟩
    exact hretry.build_of_message rfl hsent hmessage (not_isServerRequest (by decide) hstatus)
  | describe hstatus =>
    exact h.build_of_message rfl hsent hmessage (not_isServerRequest (by decide) hstatus)
  | setup hstatus =>
    exact h.build_of_message rfl hsent hmessage (not_isServerRequest (by decide) hstatus)
  | play hstatus =>
    exact h.build_of_message rfl hsent hmessage (not_isServerRequest (by decide) hstatus)
  | arm hstatus =>
    rw [@after_eq_of_message s e n w header s.requests.arm hmessage
      (not_isServerRequest (by decide) hstatus) rfl]
    exact ⟨h.queue, h.fresh, h.sent, h.current, h.messages, h.written⟩

/-- A step that keeps the messages apart leaves the wire whole. -/
theorem Sending.step {r : Requests} (h : Sending s.requests w) (hen : Enabled s e)
    (hcond : KeepsApart (s, w) e n) (hout : Outcome s e r) : Sending r (w.after s e n r) := by
  cases hout with
  | nothing hquiet => rwa [hquiet.after_eq rfl]
  | start hquiet hnew opened =>
    have hstarted : Sending (s.requests.start.connect opened) w :=
      ⟨h.queue, fun hnot => Bool.noConfusion hnot, h.sent, h.current, h.messages, h.written⟩
    refine hstarted.build (h.fresh hnew).1 ?_ ?_
    · show w.bytes ++ s.writes e n = w.bytes
      rw [hquiet.writes_eq, List.append_nil]
    · show w.messages ++ (s.replyTo e).toList ++ _ = _
      rw [replyTo_of_message hquiet.message, ite_cseq_build rfl, Option.toList_none,
        List.append_nil]
  | send calls he =>
    subst he
    refine h.send (decide_eq_false hen) ?_ rfl ?_
    · rw [taken]
      split
      · exact Nat.zero_le _
      · exact Nat.min_le_right _ _
    · show w.messages ++ (s.replyTo _).toList ++ _ = _
      rw [replyTo_of_message rfl, if_pos (show (s.requests.send _).cseq = s.cseq from rfl)]
      exact (List.append_nil _).trans (List.append_nil _)
  | react header r hmessage hreact =>
    have hsent : s.tcpSendOffset = 0 := by
      by_contra hpos
      exact Option.some_ne_none _ (hmessage.symm.trans (hcond.1 (Nat.pos_of_ne_zero hpos)).2)
    exact h.react hsent hcond.2 hmessage hreact
  | tick harmed he =>
    have hsent : s.tcpSendOffset = 0 := by
      by_contra hpos
      exact (hcond.1 (Nat.pos_of_ne_zero hpos)).1 he
    subst he
    have hquiet : Quiet s .timer := ⟨rfl, fun _ he => Event.noConfusion he⟩
    refine h.build hsent ?_ ?_
    · show w.bytes ++ s.writes _ n = w.bytes
      rw [hquiet.writes_eq, List.append_nil]
    · show w.messages ++ (s.replyTo _).toList ++ _ = _
      rw [replyTo_of_message rfl, ite_cseq_build rfl, Option.toList_none, List.append_nil]

/-! ## Runs -/

/-- At first nothing has been written. -/
theorem sending_of_started (hs : Started cfg s) : Sending s.requests (wireAtStart s) := by
  obtain ⟨pool, stats, ctx, rtpPort, rtpReady, opened, -, rfl⟩ := hs
  have hempty : ∃ ms : List Bytes, (∀ m ∈ ms, m ∈ ([] : List Bytes)) ∧ ([] : Bytes) = ms.flatten ++ [] :=
    ⟨[], fun _ hm => hm, rfl⟩
  rcases requests_start cfg pool stats ctx rtpPort rtpReady opened with
    hwait | ⟨uri, sessionId, hfirst⟩
  · generalize start cfg pool stats ctx rtpPort rtpReady opened = s at *
    rw [wireAtStart, if_pos (show s.cseq = 1 from congrArg Requests.cseq hwait), hwait]
    exact ⟨rfl, fun _ => ⟨rfl, rfl⟩, Nat.le_refl _, .inl rfl, (fun m hm => by cases hm), hempty⟩
  · generalize start cfg pool stats ctx rtpPort rtpReady opened = s at *
    have hcseq : s.cseq = 2 := congrArg Requests.cseq hfirst
    have htext : s.reqBuf = _ := congrArg Requests.text hfirst
    rw [wireAtStart, if_neg (by rw [hcseq]; decide), hfirst, htext]
    refine Sending.build (w := {}) ?_ rfl rfl rfl
    exact ⟨rfl, fun hnot => Bool.noConfusion hnot, Nat.le_refl _, .inl rfl,
      (fun m hm => by cases hm), hempty⟩

/-- As long as nothing comes between the parts of a request, and replies are taken whole or not at
    all, the bytes written to the upstream are those of whole messages. -/
theorem whole_of_run {w : Wire} (hs : Started cfg s)
    (h : NotedRun cfg noteWire KeepsApart (s, wireAtStart s) (t, w)) : w.Whole := by
  have hrun : Sending t.requests w := notedRun_invariant (P := fun x => Sending x.1.requests x.2)
    (fun _ _ _ _ hu hen hcond => hu.step hen hcond (outcome_of_step hu.queue hen)) h
    (sending_of_started hs)
  exact hrun.whole

instance : ∀ x e n, Decidable (KeepsApart x e n) := fun x e n => by
  unfold KeepsApart
  infer_instance

/-- The first request is sent in two parts, and the second one is built. -/
theorem whole_of_run_described : ∃ t w,
    NotedRun {} noteWire KeepsApart (liveSession, wireAtStart liveSession) (t, w) ∧
    w.messages.length = 2 ∧ w.Whole := by
  have hrun : (notedEvents {} noteWire KeepsApart (liveSession, wireAtStart liveSession)
      [(.rtspWritable { send := ⟨5, false⟩ }, 0), (.rtspWritable { send := ⟨1000, false⟩ }, 0),
        (.receiveRtsp (ascii "RTSP/1.0 200 OK\r\nCSeq: 1\r\n\r\n"), 0), (.rtspTurn, 0)]).map
      (fun x => x.2.messages.length) = some 2 := by
    decide +kernel
  obtain ⟨⟨t, w⟩, ht, hlen⟩ := Option.map_eq_some_iff.1 hrun
  have hnoted := notedRun_of_notedEvents ht
  exact ⟨t, w, hnoted, hlen, whole_of_run started_liveSession hnoted⟩

/-- The stream has started, and the first sign of life is half sent when the timer ticks again. -/
def tickedEvents : List (Event × Nat) :=
  [.rtspWritable { send := ⟨1000, false⟩ },
    .receiveRtsp (ascii "RTSP/1.0 200 OK\r\nCSeq: 1\r\n\r\n"), .rtspTurn,
    .rtspWritable { send := ⟨1000, false⟩ },
    .receiveRtsp (ascii "RTSP/1.0 200 OK\r\nCSeq: 2\r\nContent-Length: 45\r\n\r\n" ++
      ascii "v=0\r\nm=video 0 RTP/AVP 33\r\na=control:track1\r\n"), .rtspTurn,
    .rtspWritable { send := ⟨1000, false⟩ },
    .receiveRtsp (ascii "RTSP/1.0 200 OK\r\nCSeq: 3\r\nTransport: RTP/AVP;server_port=6000-6001\r\n\r\n"),
    .rtspTurn, .rtspWritable { send := ⟨1000, false⟩ },
    .receiveRtsp (ascii "RTSP/1.0 200 OK\r\nCSeq: 4\r\n\r\n"), .rtspTurn,
    .timer, .rtspWritable { send := ⟨4, false⟩ },
    .timer, .rtspWritable { send := ⟨1000, false⟩ }].map (·, 0)

/-- Behind the first bytes of one request stands the next one. -/
theorem not_whole_ticked :
    ¬∀ t w, NotedRun {} noteWire (fun _ _ _ => True) (liveSession, wireAtStart liveSession) (t, w) →
      w.Whole := by
  intro hall
  have hrun : (notedEvents {} noteWire (fun _ _ _ => True) (liveSession, wireAtStart liveSession)
      tickedEvents).map (fun x => composes x.2.messages x.2.bytes.length x.2.bytes) =
        some false := by
    decide +kernel
  obtain ⟨⟨t, w⟩, ht, hcomposes⟩ := Option.map_eq_some_iff.1 hrun
  obtain ⟨ms, hms, hbytes⟩ := (hall t w (notedRun_of_notedEvents ht)).bytes
  rw [composes_of_flatten hms hbytes (Nat.le_refl _)] at hcomposes
  exact Bool.noConfusion hcomposes

end RtspToHttpClient

import RtsProxy.Clients.RtspToRtsp.Deferred
import RtsProxy.Protocol.Connection

/-!
# Requests and the replies to them

The upstream reads requests off the messages pushed to it, and replies to them one after the
other. The proxy does not keep count: it tells the reply to a keepalive by a text in it, and a
rejected `SETUP` by what it remembers of the last one.

* `replies_of_run`: the k-th reply that is handled answers the k-th request;
* `unseen_of_run`: which replies the client does not see;
* `retried_of_run`: which rejected `SETUP` is tried again.
-/

open Text Interleaved

namespace RtspToRtspClient

/-! ## Requests -/

/-- A request as the upstream reads it, and the message it ends with. -/
structure Asked where
  request : Bytes
  push : Pushed
  deriving DecidableEq, Repr

/-- The requests that the upstream has read, and the bytes behind them. -/
structure Heard where
  asked : List Asked := []
  rest : Bytes := []
  deriving DecidableEq, Repr

/-- The upstream reads another message. A frame is no request. -/
def Heard.hear (h : Heard) (p : Pushed) : Heard :=
  let pieces := (Connection.framing bodyLength).pieces (h.rest ++ p.text)
  { asked := h.asked ++ (pieces.filter (·.head? ≠ some 36)).map fun request => ⟨request, p⟩
    rest := (Connection.framing bodyLength).rest (h.rest ++ p.text) }

/-- The upstream reads messages. -/
def heard (ps : List Pushed) : Heard := ps.foldl Heard.hear {}

/-- What the upstream is asked in a session. -/
def asked (s : RtspToRtspClient) : List Asked := (heard s.pushed).asked

variable {s t : RtspToRtspClient} {cfg : ServerConfig} {e : Event}

theorem heard_append (ps : List Pushed) (p : Pushed) : heard (ps ++ [p]) = (heard ps).hear p := by
  rw [heard, List.foldl_append]
  rfl

/-- What is read message by message are the requests in all of the text. -/
theorem heard_eq (ps : List Pushed) :
    (heard ps).asked.map Asked.request =
        ((Connection.framing bodyLength).pieces (ps.flatMap Pushed.text)).filter
          (·.head? ≠ some 36) ∧
      (heard ps).rest = (Connection.framing bodyLength).rest (ps.flatMap Pushed.text) := by
  induction ps using List.reverseRecOn with
  | nil => exact ⟨rfl, rfl⟩
  | append_singleton ps p ih =>
    obtain ⟨hasked, hrest⟩ := ih
    have htext : (ps ++ [p]).flatMap Pushed.text = ps.flatMap Pushed.text ++ p.text := by
      rw [List.flatMap_append, List.flatMap_singleton]
    obtain ⟨hpieces, hleft⟩ := Framing.pieces_append (F := Connection.framing bodyLength)
      (ps.flatMap Pushed.text) p.text
    rw [heard_append, htext, hpieces, hleft, ← hrest, List.filter_append, ← hasked]
    refine ⟨?_, rfl⟩
    rw [Heard.hear, List.map_append, List.map_map]
    exact congrArg _ (List.map_id _)

/-- What has been asked stays asked. -/
theorem asked_prefix (ps qs : List Pushed) : (heard ps).asked <+: (heard (ps ++ qs)).asked := by
  induction qs using List.reverseRecOn with
  | nil => rw [List.append_nil]
  | append_singleton qs q ih =>
    rw [← List.append_assoc, heard_append]
    exact ih.trans (List.prefix_append _ _)

/-! ## Replies -/

/-- A reply that has been handled, and what has come of it. -/
structure Answer where
  reply : Bytes
  /-- What has been queued for the client. -/
  queued : List Packet
  /-- What has been pushed to the upstream. -/
  pushes : List Pushed
  deriving DecidableEq, Repr

/-- A reply with what its step has done. -/
def answerOf (s : RtspToRtspClient) (reply : Bytes) (t : RtspToRtspClient) : Answer :=
  { reply := reply
    queued := t.toDownstreamQ.packets.drop s.toDownstreamQ.packets.length
    pushes := t.pushed.drop s.pushed.length }

/-- The replies that have been handled. -/
def noteAnswer (answers : List Answer) (s : RtspToRtspClient) :
    Event → RtspToRtspClient → List Answer
  | .upstreamTurn _, t =>
    answers ++ (frontMessage s.upstreamRecvBuf).toList.map fun reply => s.answerOf reply t
  | _, _ => answers

/-- Nothing is queued where the queue is as before. -/
theorem queued_of_same {reply : Bytes} (h : t.core.queue = s.core.queue) :
    (s.answerOf reply t).queued = [] := by
  rw [answerOf, show t.toDownstreamQ = s.toDownstreamQ from h]
  exact List.drop_length

/-- A reply that has been patched is queued in a packet of its own. -/
theorem queued_of_patched {u v : RtspToRtspClient} {reply patched : Bytes}
    (hu : (s.learnSession reply).learnUpstreamTransport reply = .ok u)
    (hv : u.patchResponseForClient cfg reply = .ok (v, patched)) :
    (s.answerOf reply ((v.startStreaming cfg reply).queueResponse patched)).queued =
      [Item.packet { kind := .response, data := patched }] := by
  have hcore : v.core = s.core :=
    (core_patchResponseForClient hv).trans
      ((core_learnUpstreamTransport hu).trans (core_learnSession reply))
  have hqueue : ((v.startStreaming cfg reply).queueResponse patched).toDownstreamQ =
      s.toDownstreamQ.push { kind := .response, data := patched } := by
    have hqueued := congrArg Core.queue (core_queueResponse
      (s := v.startStreaming cfg reply) patched)
    rw [core_startStreaming, hcore] at hqueued
    exact hqueued
  rw [answerOf, hqueue]
  exact List.drop_left

/-- A reply is passed on in a packet of its own, unless it is taken for that to a keepalive, or
    another `SETUP` is tried. -/
theorem queued_of_step {calls : UpstreamCalls} {reply : Bytes}
    (hreply : frontMessage s.upstreamRecvBuf = some reply)
    (h : step cfg s (.upstreamTurn calls) = .ok t) :
    if isKeepaliveReply reply || s.wantsRetry reply then (s.answerOf reply t).queued = []
    else ∃ patched : Bytes,
      (s.answerOf reply t).queued = [Item.packet { kind := .response, data := patched }] := by
  obtain ⟨r, hr, rfl⟩ := Except.map_eq_ok_iff.1 h
  rcases upstreamTurn_cases hr with ⟨-, -, hm⟩ | ⟨channel, data, hf, -⟩ | ⟨msg, t, -, hm, ht, rfl⟩
  · rw [hm] at hreply
    cases hreply
  · rw [frontMessage_of_frontFrame hf] at hreply
    cases hreply
  · rw [hm] at hreply
    obtain rfl : msg = reply := Option.some.inj hreply
    rw [show s.answerOf msg (Turn.again t).state = s.answerOf msg t from rfl]
    rcases handleResponse_cases ht with ⟨hka, rfl⟩ | ⟨hka, hretry, rfl⟩ |
      ⟨hka, hretry, u, v, patched, hu, hv, rfl⟩
    · rw [hka, Bool.true_or, if_pos rfl]
      exact queued_of_same rfl
    · have hwants : s.wantsRetry msg = true := hretry
      rw [hwants, Bool.or_true, if_pos rfl]
      refine queued_of_same ?_
      rw [core_retrySetup, core_learnSession]
      split <;> rfl
    · have hwants : s.wantsRetry msg = false := hretry
      rw [hka, hwants, Bool.or_false, if_neg Bool.false_ne_true]
      exact ⟨patched, queued_of_patched (s := s.skipUpstream msg.length) hu hv⟩

theorem pushes_of_step {calls : UpstreamCalls} {reply : Bytes}
    (hreply : frontMessage s.upstreamRecvBuf = some reply)
    (h : step cfg s (.upstreamTurn calls) = .ok t) :
    (s.answerOf reply t).pushes = s.retryPushes calls reply := by
  rw [answerOf, pushed_of_step h, pushesOf, hreply]
  exact List.drop_left

/-! ## Runs -/

/-- What is noted down of each reply that is handled. -/
def noteReplies {α : Type} (f : RtspToRtspClient → Bytes → RtspToRtspClient → α) (noted : List α)
    (s : RtspToRtspClient) : Event → RtspToRtspClient → List α
  | .upstreamTurn _, t =>
    noted ++ (frontMessage s.upstreamRecvBuf).toList.map fun reply => f s reply t
  | _, _ => noted

theorem noteAnswer_eq : noteAnswer = noteReplies answerOf := by
  funext answers s e t
  cases e <;> rfl

/-- The k-th reply that is handled answers the k-th request: what is good at each step, is good
    in the end. More may be noted down than the replies. -/
theorem replies_of_run {α β : Type} {f : RtspToRtspClient → Bytes → RtspToRtspClient → α}
    {note : β → RtspToRtspClient → Event → RtspToRtspClient → β} (replies : β → List α)
    {ncond : RtspToRtspClient × β → Event → Prop} {I : RtspToRtspClient → β → Prop}
    {Good : Asked → α → Prop} {first noted : β}
    (hnote : ∀ c u e v, replies (note c u e v) = noteReplies f (replies c) u e v)
    (hkeep : ∀ u c e v, I u c → Enabled cfg u e → step cfg u e = .ok v → I v (note c u e v))
    (hgood : ∀ u c calls reply v, I u c → ncond (u, c) (.upstreamTurn calls) →
      frontMessage u.upstreamRecvBuf = some reply → step cfg u (.upstreamTurn calls) = .ok v →
      ∃ r, u.asked[(replies c).length]? = some r ∧ Good r (f u reply v))
    (h : NotedRun cfg note ncond (s, first) (t, noted)) (hfirst : replies first = [])
    (hs : I s first) :
    ∀ (k : Nat) (a : α), (replies noted)[k]? = some a → ∃ r, t.asked[k]? = some r ∧ Good r a := by
  refine (notedRun_invariant (P := fun x => I x.1 x.2 ∧ ∀ (k : Nat) (a : α),
    (replies x.2)[k]? = some a → ∃ r, x.1.asked[k]? = some r ∧ Good r a) ?_ h
    ⟨hs, fun k a hk => by rw [hfirst] at hk; cases hk⟩).2
  rintro u c e v ⟨hu, hnoted⟩ hen hcond hst
  refine ⟨hkeep u c e v hu hen hst, ?_⟩
  have hasked : ∀ (k : Nat) (r : Asked), u.asked[k]? = some r → v.asked[k]? = some r := by
    intro k r hr
    rw [asked] at hr
    rw [asked, pushed_of_step hst]
    obtain ⟨more, hmore⟩ := asked_prefix u.pushed (u.pushesOf cfg e)
    rw [← hmore, List.getElem?_append_left (List.getElem?_eq_some_iff.1 hr).1]
    exact hr
  have hsame : ∀ (k : Nat) (a : α), (replies c)[k]? = some a →
      ∃ r, v.asked[k]? = some r ∧ Good r a := by
    intro k a hk
    obtain ⟨r, hr, hra⟩ := hnoted k a hk
    exact ⟨r, hasked k r hr, hra⟩
  rw [hnote]
  cases e with
  | upstreamTurn calls =>
    rcases hreply : frontMessage u.upstreamRecvBuf with _ | reply
    · have hnote : noteReplies f (replies c) u (.upstreamTurn calls) v = replies c := by
        rw [noteReplies, hreply]
        exact List.append_nil _
      rw [hnote]
      exact hsame
    · have hnote : noteReplies f (replies c) u (.upstreamTurn calls) v =
          replies c ++ [f u reply v] := by
        rw [noteReplies, hreply]
        rfl
      rw [hnote]
      intro k a hk
      rcases Nat.lt_or_ge k (replies c).length with hlt | hge
      · rw [List.getElem?_append_left hlt] at hk
        exact hsame k a hk
      · -- the reply that is handled in this step
        rw [List.getElem?_append_right hge, List.getElem?_singleton] at hk
        split at hk
        · obtain ⟨r, hr, hra⟩ := hgood u c calls reply v hu hcond hreply hst
          obtain rfl : k = (replies c).length := by omega
          cases hk
          exact ⟨r, hasked _ r hr, hra⟩
        · cases hk
  | _ => exact hsame

/-- A reply carries the number of a request. -/
def Echoes (request reply : Bytes) : Prop :=
  stoul (RtspParser.extractHeaderValue reply (ascii "CSeq")) =
    stoul (RtspParser.extractHeaderValue request (ascii "CSeq"))

instance (request reply : Bytes) : Decidable (Echoes request reply) :=
  inferInstanceAs (Decidable (_ = _))

/-- The upstream answers in turn: the reply that is handled carries the number of the next request
    that it has been asked. -/
def AnswersInTurn (x : RtspToRtspClient × List Answer) : Event → Prop
  | .upstreamTurn _ => ∀ reply ∈ frontMessage x.1.upstreamRecvBuf, ∃ r ∈ x.1.asked[x.2.length]?,
      Echoes r.request reply
  | _ => True

instance (x : RtspToRtspClient × List Answer) : ∀ e, Decidable (AnswersInTurn x e)
  | .upstreamTurn _ => by unfold AnswersInTurn; infer_instance
  | .upstreamWritable _ | .downstreamTurn _ | .receiveDownstream _ | .sendDownstream _
  | .downstreamSent | .receiveUpstream _ | .rtpFromUpstream _ | .rtcpFromUpstream _
  | .rtpFromClient _ | .rtcpFromClient _ | .noDatagram | .stunReply _ | .timer | .close =>
    isTrue trivial

/-! ## Keepalives -/

/-- The reply that is handled answers a request that has been asked. Its text says that it is that
    to a keepalive, or it makes another `SETUP` be tried, exactly if the request is a keepalive. -/
def TellsKeepalives (x : RtspToRtspClient × List Answer) : Event → Prop
  | .upstreamTurn _ => ∀ reply ∈ frontMessage x.1.upstreamRecvBuf, ∃ r ∈ x.1.asked[x.2.length]?,
      ((isKeepaliveReply reply || x.1.wantsRetry reply) = true ↔ r.push.origin = .keepalive)
  | _ => True

instance (x : RtspToRtspClient × List Answer) : ∀ e, Decidable (TellsKeepalives x e)
  | .upstreamTurn _ => by unfold TellsKeepalives; infer_instance
  | .upstreamWritable _ | .downstreamTurn _ | .receiveDownstream _ | .sendDownstream _
  | .downstreamSent | .receiveUpstream _ | .rtpFromUpstream _ | .rtcpFromUpstream _
  | .rtpFromClient _ | .rtcpFromClient _ | .noDatagram | .stunReply _ | .timer | .close =>
    isTrue trivial

/-- In a run whose replies tell the keepalives, the client does not see a reply exactly if it
    answers a keepalive. -/
theorem unseen_of_run {answers : List Answer}
    (h : NotedRun cfg noteAnswer TellsKeepalives (s, []) (t, answers)) :
    ∀ (k : Nat) (a : Answer), answers[k]? = some a →
      ∃ r, t.asked[k]? = some r ∧ (a.queued = [] ↔ r.push.origin = .keepalive) := by
  rw [noteAnswer_eq] at h
  refine replies_of_run id (I := fun _ _ => True) (fun _ _ _ _ => rfl) (fun _ _ _ _ _ _ _ => trivial)
    (fun u noted calls reply v _ htells hreply hst => ?_) h rfl trivial
  obtain ⟨r, hr, hiff⟩ := htells reply hreply
  refine ⟨r, hr, ?_⟩
  rw [← hiff]
  have hqueued := queued_of_step hreply hst
  split at hqueued
  case isTrue hwithheld => exact iff_of_true hqueued hwithheld
  case isFalse hpassed =>
    obtain ⟨patched, hqueued⟩ := hqueued
    rw [hqueued]
    exact iff_of_false (List.cons_ne_nil _ _) hpassed

/-- A request with the number that the proxy gives its keepalives. -/
def numberedRequest : Bytes := ascii "OPTIONS * RTSP/1.0\r\nCSeq: 99\r\n\r\n"

/-- The replies to the request that a session is started with, and to that one. -/
def firstReply : Bytes := ascii "RTSP/1.0 200 OK\r\nCSeq: 1\r\n\r\n"

@[inherit_doc firstReply]
def numberedReply : Bytes := ascii "RTSP/1.0 200 OK\r\nCSeq: 99\r\n\r\n"

/-- A `PLAY` and a later request of a client, and the replies to them. -/
def startRequest : Bytes := ascii "PLAY * RTSP/1.0\r\nCSeq: 2\r\n\r\n"

@[inherit_doc startRequest]
def startReply : Bytes := ascii "RTSP/1.0 200 OK\r\nCSeq: 2\r\n\r\n"

@[inherit_doc startRequest]
def laterRequest : Bytes := ascii "OPTIONS * RTSP/1.0\r\nCSeq: 3\r\n\r\n"

@[inherit_doc startRequest]
def laterReply : Bytes := ascii "RTSP/1.0 200 OK\r\nCSeq: 3\r\n\r\n"

/-- The stream is started, the timer expires, and the client asks for something more: the upstream
    answers the `PLAY`, the keepalive and the later request. -/
def keptAliveEvents : List Event :=
  [connectEvent, .receiveUpstream firstReply, .upstreamTurn {},
    .receiveDownstream startRequest, .downstreamTurn ⟨.failed 0, .failed 0⟩,
    .receiveUpstream startReply, .upstreamTurn {}, .timer,
    .receiveDownstream laterRequest, .downstreamTurn ⟨.failed 0, .failed 0⟩,
    .receiveUpstream (numberedReply ++ laterReply), .upstreamTurn {}, .upstreamTurn {}]

theorem unseen_of_run_keptAlive : ∃ t answers,
    notedEvents {} noteAnswer TellsKeepalives (liveSession, []) keptAliveEvents = some (t, answers) ∧
    t.pushed.map Pushed.origin = [.first, .client, .keepalive, .client] ∧
    answers.map (fun a => (a.reply, a.queued.length)) =
      [(firstReply, 1), (startReply, 1), (numberedReply, 0), (laterReply, 1)] ∧
    ∀ (k : Nat) (a : Answer), answers[k]? = some a →
      ∃ r, t.asked[k]? = some r ∧ (a.queued = [] ↔ r.push.origin = .keepalive) := by
  have hrun : (notedEvents {} noteAnswer TellsKeepalives (liveSession, []) keptAliveEvents).map
      (fun x => (x.1.pushed.map Pushed.origin, x.2.map fun a => (a.reply, a.queued.length))) =
        some ([.first, .client, .keepalive, .client],
          [(firstReply, 1), (startReply, 1), (numberedReply, 0), (laterReply, 1)]) := by
    decide +kernel
  obtain ⟨⟨t, answers⟩, ht, heq⟩ := Option.map_eq_some_iff.1 hrun
  obtain ⟨hpushed, hanswers⟩ := Prod.mk.inj heq
  exact ⟨t, answers, ht, hpushed, hanswers, unseen_of_run (notedRun_of_notedEvents ht)⟩

/-- The upstream answers in turn, and the client does not see the reply to its own request. -/
theorem unseen_numbered : ∃ t answers, Started {} liveSession ∧
    NotedRun {} noteAnswer AnswersInTurn (liveSession, []) (t, answers) ∧
    ∃ a r, answers[1]? = some a ∧ t.asked[1]? = some r ∧ r.push.origin = .client ∧
      r.request = numberedRequest ∧ a.reply = numberedReply ∧ a.queued = [] := by
  have hrun : (notedEvents {} noteAnswer AnswersInTurn (liveSession, [])
      [connectEvent, .receiveUpstream firstReply, .upstreamTurn {},
        .receiveDownstream numberedRequest, .downstreamTurn ⟨.failed 0, .failed 0⟩,
        .receiveUpstream numberedReply, .upstreamTurn {}]).map
        (fun x => (x.2[1]?, x.1.asked[1]?)) =
          some (some ⟨numberedReply, [], []⟩,
            some ⟨numberedRequest, ⟨.client, numberedRequest, numberedRequest⟩⟩) := by
    decide +kernel
  obtain ⟨⟨t, answers⟩, ht, heq⟩ := Option.map_eq_some_iff.1 hrun
  obtain ⟨hanswer, hasked⟩ := Prod.mk.inj heq
  exact ⟨t, answers, started_liveSession, notedRun_of_notedEvents ht, _, _, hanswer, hasked, rfl,
    rfl, rfl, rfl⟩

/-! ## Rejected transports -/

/-- A `SETUP` for UDP: its transport names neither TCP nor channels. -/
def IsUdpSetup (request : Bytes) : Prop :=
  (ascii "SETUP ").isPrefixOf request ∧
    let transport := RtspParser.extractHeaderValue request (ascii "Transport")
    transport ≠ [] ∧ ¬contains (ascii "RTP/AVP/TCP") transport ∧
      ¬contains (ascii "interleaved=") transport

/-- A reply that rejects UDP. -/
def RejectsUdp (request reply : Bytes) : Prop :=
  IsUdpSetup request ∧ RtspParser.parseStatusCode reply = 461

instance (request reply : Bytes) : Decidable (RejectsUdp request reply) := by
  unfold RejectsUdp IsUdpSetup
  infer_instance

/-- The transport of a `SETUP` that is tried again. -/
def tcpTransport : Bytes := ascii "RTP/AVP/TCP;unicast;interleaved=0-1"

/-- A reply is not passed on, but answered with the same request over TCP. -/
def RetriedOverTcp (s : RtspToRtspClient) (r : Asked) (a : Answer) : Prop :=
  a.queued = [] ∧ ∃ req transport p,
    r.push.source = replaceHeader req (ascii "Transport") transport ∧
    a.pushes = [p] ∧ p.origin = .retry ∧
    p.source = replaceHeader req (ascii "Transport") tcpTransport ∧
    p.text = s.rewriteRequestForUpstream p.source

/-- A session takes a reply for the rejection of a request: it does not look like one to a
    keepalive, none has been answered before, and the last `SETUP` is that request. -/
def TakesRejection (cfg : ServerConfig) (s : RtspToRtspClient) (r : Asked) (reply : Bytes) : Prop :=
  isKeepaliveReply reply = false ∧ s.setupRetryWithTcp = false ∧
    RtspParser.extractHeaderValue s.lastSetupReq (ascii "Transport") ≠ [] ∧
    r.push.source = (s.patchTransportForUpstream cfg s.lastSetupReq).2

instance (cfg : ServerConfig) (s : RtspToRtspClient) (r : Asked) (reply : Bytes) :
    Decidable (s.TakesRejection cfg r reply) := by
  unfold TakesRejection
  infer_instance

/-- The reply that is handled answers a request that has been asked, and is taken for its
    rejection if it rejects UDP. -/
def TakesRejections (cfg : ServerConfig) (x : RtspToRtspClient × List Answer) : Event → Prop
  | .upstreamTurn _ => ∀ reply ∈ frontMessage x.1.upstreamRecvBuf, ∃ r ∈ x.1.asked[x.2.length]?,
      RejectsUdp r.request reply → x.1.TakesRejection cfg r reply
  | _ => True

instance (cfg : ServerConfig) (x : RtspToRtspClient × List Answer) :
    ∀ e, Decidable (TakesRejections cfg x e)
  | .upstreamTurn _ => by unfold TakesRejections; infer_instance
  | .upstreamWritable _ | .downstreamTurn _ | .receiveDownstream _ | .sendDownstream _
  | .downstreamSent | .receiveUpstream _ | .rtpFromUpstream _ | .rtcpFromUpstream _
  | .rtpFromClient _ | .rtcpFromClient _ | .noDatagram | .stunReply _ | .timer | .close =>
    isTrue trivial

/-- While the connection to the upstream is made, there has been no `SETUP`. -/
theorem lastSetupReq_of_step (hs : s.state = .waitUpstreamConnect → s.lastSetupReq = [])
    (hen : Enabled cfg s e) (h : step cfg s e = .ok t) :
    t.state = .waitUpstreamConnect → t.lastSetupReq = [] := by
  have hcontrol := control_of_step h
  have hwritable : ∀ (u : RtspToRtspClient) (calls : UpstreamCalls),
      (u.state = .waitUpstreamConnect → u.lastSetupReq = []) →
      (u.onUpstreamWritable calls).control.state = .waitUpstreamConnect →
      (u.onUpstreamWritable calls).control.lastSetupReq = [] := by
    intro u calls hu
    rw [control_onUpstreamWritable]
    split
    case isTrue hconnecting =>
      split
      · exact hu
      · exact fun _ => hu hconnecting
    case isFalse hconnected =>
      intro hstate
      dsimp only at hstate
      split at hstate
      · cases hstate
      · exact absurd hstate hconnected
  show t.control.state = _ → t.control.lastSetupReq = []
  rw [hcontrol]
  cases e with
  | downstreamTurn ports =>
    intro hstate
    rw [controlAfter] at hstate
    split at hstate
    · exact absurd hstate hen
    · split at hstate
      · exact absurd hstate (Control.state_request (c := (s.skipDownstream _).control) hen)
      · exact absurd hstate hen
  | upstreamTurn calls =>
    rw [controlAfter]
    split
    · exact hs
    split
    case h_1 msg _ =>
      extract_lets u
      split
      · exact hs
      split
      · refine hwritable (u.learnSession msg).retrying calls ?_
        show (u.learnSession msg).retrying.control.state = _ →
          (u.learnSession msg).retrying.control.lastSetupReq = []
        rw [control_retrying_learnSession]
        exact hs
      split
      · exact fun hstate => RelayState.noConfusion hstate
      · exact hs
    case h_2 => exact hs
  | upstreamWritable calls => exact hwritable s calls hs
  | stunReply d =>
    rw [controlAfter]
    split
    · exact hs
    · exact fun hstate => RelayState.noConfusion hstate
  | _ => exact hs

/-- A reply that is taken for the rejection of a request makes it be tried again over TCP. -/
theorem retriedOverTcp_of_step {calls : UpstreamCalls} {r : Asked} {reply : Bytes}
    (hconnecting : s.state = .waitUpstreamConnect → s.lastSetupReq = [])
    (hreply : frontMessage s.upstreamRecvBuf = some reply)
    (hstatus : RtspParser.parseStatusCode reply = 461) (htakes : s.TakesRejection cfg r reply)
    (h : step cfg s (.upstreamTurn calls) = .ok t) :
    s.RetriedOverTcp r (s.answerOf reply t) := by
  obtain ⟨hka, hfirst, htransport, hsource⟩ := htakes
  have hlast : s.lastSetupReq ≠ [] := by
    intro hnil
    rw [hnil] at htransport
    exact htransport (RtspParser.extractHeaderValue_nil _)
  have hwants : s.wantsRetry reply = true := by
    rw [wantsRetry, hstatus, hfirst]
    simp [hlast]
  have hpushes : s.pushesFirst calls = false := by
    rw [pushesFirst, decide_eq_false fun hstate => hlast (hconnecting hstate)]
    rfl
  have hqueued := queued_of_step hreply h
  rw [hwants, Bool.or_true, if_pos rfl] at hqueued
  have hpatched : (s.patchTransportForUpstream cfg s.lastSetupReq).2 =
      replaceHeader s.lastSetupReq (ascii "Transport") (upstreamTransport cfg s
        (RtspParser.extractHeaderValue s.lastSetupReq (ascii "Transport"))) := by
    rw [patchTransportForUpstream, if_neg htransport]
  refine ⟨hqueued, s.lastSetupReq, _, s.retryPush, hsource.trans hpatched, ?_, rfl, ?_, rfl⟩
  · rw [pushes_of_step hreply h, retryPushes, hka, hwants, hpushes]
    rfl
  · show patchTransportForUpstreamTcp s.lastSetupReq = _
    rw [patchTransportForUpstreamTcp, if_neg htransport]
    rfl

/-- In a run in which rejections are taken for what they are, each of them is answered with one
    `SETUP` over TCP, and not passed on. -/
theorem retried_of_run {answers : List Answer} (hs : Started cfg s)
    (h : NotedRun cfg noteAnswer (TakesRejections cfg) (s, []) (t, answers)) :
    ∀ (k : Nat) (a : Answer), answers[k]? = some a →
      ∃ r, t.asked[k]? = some r ∧ (RejectsUdp r.request a.reply → s.RetriedOverTcp r a) := by
  rw [noteAnswer_eq] at h
  refine replies_of_run id (I := fun u _ => (u.state = .waitUpstreamConnect → u.lastSetupReq = []) ∧
    u.rewriteRequestForUpstream = s.rewriteRequestForUpstream) (fun _ _ _ _ => rfl) ?_ ?_ h rfl
    ⟨?_, rfl⟩
  · rintro u noted e v ⟨hu, huris⟩ hen hst
    refine ⟨lastSetupReq_of_step hu hen hst, ?_⟩
    obtain ⟨hpre, hbase⟩ := uris_of_step hst
    rw [← huris]
    funext req
    rw [rewriteRequestForUpstream, rewriteRequestForUpstream, hpre, hbase]
  · rintro u noted calls reply v ⟨hu, huris⟩ htakes hreply hst
    obtain ⟨r, hr, htakes⟩ := htakes reply hreply
    refine ⟨r, hr, fun hrejects => ?_⟩
    have hretried := retriedOverTcp_of_step hu hreply hrejects.2 (htakes hrejects) hst
    rw [RetriedOverTcp, huris] at hretried
    exact hretried
  · obtain ⟨_, _, _, _, _, _, _, _, _, rfl⟩ := hs
    exact fun _ => rfl

/-- The `SETUP` of another track. -/
def secondSetup : Bytes :=
  ascii "SETUP rtsp://10.0.0.9/live/2 RTSP/1.0\r\nTransport: RTP/AVP;client_port=6002-6003\r\nCSeq: 4\r\n\r\n"

/-- A transport is rejected. -/
def rejection (number : String) : Bytes :=
  ascii "RTSP/1.0 461 Unsupported Transport\r\nCSeq: " ++ ascii number ++ crlf2

/-- A reply of the upstream is received and handled. -/
def replyEvents (reply : Bytes) : List Event := [.receiveUpstream reply, .upstreamTurn {}]

/-- A request of the client is received and handled. -/
def requestEvents (req : Bytes) : List Event :=
  [.receiveDownstream req, .downstreamTurn ⟨.bound 20000, .bound 30000⟩]

theorem retried_of_run_first : ∃ t answers,
    notedEvents {} noteAnswer (TakesRejections {}) (liveSession, [])
      (connectEvent :: replyEvents firstReply ++ requestEvents udpSetup ++
        replyEvents (rejection "3")) = some (t, answers) ∧
    answers.map Answer.reply = [firstReply, rejection "3"] ∧
    ∀ (k : Nat) (a : Answer), answers[k]? = some a →
      ∃ r, t.asked[k]? = some r ∧
        (RejectsUdp r.request a.reply → liveSession.RetriedOverTcp r a) := by
  have hrun : (notedEvents {} noteAnswer (TakesRejections {}) (liveSession, [])
      (connectEvent :: replyEvents firstReply ++ requestEvents udpSetup ++
        replyEvents (rejection "3"))).map (fun x => x.2.map Answer.reply) =
          some [firstReply, rejection "3"] := by
    decide +kernel
  obtain ⟨⟨t, answers⟩, ht, hreplies⟩ := Option.map_eq_some_iff.1 hrun
  exact ⟨t, answers, ht, hreplies, retried_of_run started_liveSession (notedRun_of_notedEvents ht)⟩

/-- The upstream answers in turn, and the client sees that the `SETUP` of its second track is
    rejected. -/
theorem passed_on_second : ∃ t answers, Started {} liveSession ∧
    NotedRun {} noteAnswer AnswersInTurn (liveSession, []) (t, answers) ∧
    ∃ a r, answers[3]? = some a ∧ t.asked[3]? = some r ∧ r.push.origin = .client ∧
      RejectsUdp r.request a.reply ∧ a.queued ≠ [] ∧ a.pushes = [] := by
  have hrun : (notedEvents {} noteAnswer AnswersInTurn (liveSession, [])
      (connectEvent :: replyEvents firstReply ++ requestEvents udpSetup ++
        replyEvents (rejection "3") ++ replyEvents (ascii "RTSP/1.0 200 OK\r\nCSeq: 3\r\n\r\n") ++
        requestEvents secondSetup ++ replyEvents (rejection "4"))).any (fun x =>
          x.2[3]?.any fun a => x.1.asked[3]?.any fun r => r.push.origin = .client ∧
            RejectsUdp r.request a.reply ∧ a.queued ≠ [] ∧ a.pushes = []) = true := by
    decide +kernel
  obtain ⟨⟨t, answers⟩, ht, hany⟩ := (Option.any_eq_true _ _).1 hrun
  obtain ⟨a, ha, hany⟩ := (Option.any_eq_true _ _).1 hany
  obtain ⟨r, hr, hany⟩ := (Option.any_eq_true _ _).1 hany
  exact ⟨t, answers, started_liveSession, notedRun_of_notedEvents ht, a, r, ha, hr,
    of_decide_eq_true hany⟩

end RtspToRtspClient

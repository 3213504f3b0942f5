import RtsProxy.Clients.RtspToHttp.Requests

/-!
# The handshake of an HTTP session

The requests that a session makes of the upstream, in the order in which they are built
(`noteBuilt`). A reply is matched to the current request by its method only, so what keeps the
order is the stage that a session is in (`Stage`): which requests have been built, and that the
timer is not armed before the stream has started.

* `handshake_of_run`: whatever the upstream sends, and whenever the timer ticks, the requests are
  those of a handshake, numbered one after the other.
-/

open Text

namespace RtspToHttpClient

/-- A request that has been built, and the header block of the message it has been built in reply
    to. -/
structure Built where
  request : RtspRequest
  message : Option Bytes
  deriving DecidableEq

/-- The request built in a step: each takes a number. -/
def builtBy (s : RtspToHttpClient) (e : Event) (t : RtspToHttpClient) : List Built :=
  if t.cseq = s.cseq then [] else [⟨t.currentRequest, s.messageOf e⟩]

/-- The requests that have been built. -/
def noteBuilt (built : List Built) (s : RtspToHttpClient) (e : Event) (_ : Unit)
    (t : RtspToHttpClient) : List Built :=
  built ++ builtBy s e t

/-- The request that has been built before the first step. -/
def builtAtStart (s : RtspToHttpClient) : List Built :=
  if s.cseq = 1 then [] else [⟨s.currentRequest, none⟩]

/-- The methods of a handshake: with one `SETUP` or two, and so many signs of life behind it. -/
def handshake (retried : Bool) (n : Nat) : List RtspMethod :=
  [.options, .describe, .setup] ++ (if retried then [.setup] else []) ++
    .play :: List.replicate n .getParameter

/-- The ports in the `Transport` of a reply can be read. -/
def acceptsPorts (header : Bytes) : Bool := (RtspParser.parseServerPorts header {}).1

/-- The requests of a handshake. -/
structure InOrder (built : List Built) : Prop where
  methods : ∃ retried n, built.map (·.request.method) <+: handshake retried n
  numbers : ∀ k b, built[k]? = some b → b.request.cseq = k + 1
  /-- A second `SETUP` follows a `461`, and asks for media over the connection. -/
  retried : ∀ k b, built[k]? = some b → 2 < k → b.request.method = .setup →
    (∃ header, b.message = some header ∧ RtspParser.parseStatusCode header = 461) ∧
      b.request.headers = tcpHeaders
  /-- `PLAY` follows a `200` with ports. -/
  played : ∀ b ∈ built, b.request.method = .play → ∃ header,
    b.message = some header ∧ RtspParser.parseStatusCode header = 200 ∧ acceptsPorts header

/-! ## Stages -/

/-- How far a session has come, with the methods of the requests it has built. -/
inductive Stage (r : Requests) : List RtspMethod → Prop
  | waiting (hstarted : r.started = false) (hidle : r.idle = true) (harmed : r.armed = false) :
      Stage r []
  | options (hstarted : r.started = true) (hmethod : r.current.method = .options)
      (harmed : r.armed = false) : Stage r [.options]
  | describe (hstarted : r.started = true) (hmethod : r.current.method = .describe)
      (harmed : r.armed = false) : Stage r [.options, .describe]
  | setup (hstarted : r.started = true) (hmethod : r.current.method = .setup)
      (harmed : r.armed = false) : Stage r [.options, .describe, .setup]
  | retried (hstarted : r.started = true) (hmethod : r.current.method = .setup)
      (harmed : r.armed = false) (hretried : r.retried = true) :
      Stage r [.options, .describe, .setup, .setup]
  | play (hstarted : r.started = true) (hmethod : r.current.method = .play) (again : Bool) :
      Stage r (handshake again 0)
  | alive (hstarted : r.started = true) (hmethod : r.current.method = .getParameter) (again : Bool)
      (n : Nat) : Stage r (handshake again (n + 1))

theorem handshake_succ (retried : Bool) (n : Nat) :
    handshake retried (n + 1) = handshake retried n ++ [.getParameter] := by
  simp [handshake, List.replicate_succ']

/-- What has been built at a stage begins a handshake. -/
theorem Stage.prefix_handshake {r : Requests} {methods : List RtspMethod} (h : Stage r methods) :
    ∃ retried n, methods <+: handshake retried n := by
  rcases h with - | - | - | - | - | ⟨-, -, again⟩ | ⟨-, -, again, n⟩
  · exact ⟨false, 0, List.nil_prefix⟩
  · exact ⟨false, 0, by decide⟩
  · exact ⟨false, 0, by decide⟩
  · exact ⟨false, 0, by decide⟩
  · exact ⟨true, 0, by decide⟩
  · exact ⟨again, 0, List.prefix_rfl⟩
  · exact ⟨again, n + 1, List.prefix_rfl⟩

variable {cfg : ServerConfig} {s t : RtspToHttpClient}

/-- The methods after a step, in which a request may have been built. -/
def methodsAfter (methods : List RtspMethod) (r r' : Requests) : List RtspMethod :=
  methods ++ if r'.cseq = r.cseq then [] else [r'.current.method]

theorem methodsAfter_build {methods : List RtspMethod} {r r' : Requests} {method : RtspMethod}
    {uri headers body sessionId : Bytes} (h : r'.cseq = r.cseq) :
    methodsAfter methods r (r'.build method uri headers body sessionId) = methods ++ [method] := by
  rw [methodsAfter, if_neg]
  · rfl
  · show r'.cseq + 1 ≠ r.cseq
    omega

/-- A stage looks at how the session has come there only. -/
theorem Stage.congr {r r' : Requests} {methods : List RtspMethod} (h : Stage r methods)
    (hstarted : r'.started = r.started) (hcurrent : r'.current = r.current)
    (harmed : r'.armed = r.armed) (hretried : r'.retried = r.retried) (hidle : r'.idle = r.idle) :
    Stage r' methods := by
  rcases h with ⟨hs, hi, ha⟩ | ⟨hs, hm, ha⟩ | ⟨hs, hm, ha⟩ | ⟨hs, hm, ha⟩ | ⟨hs, hm, ha, hr⟩ |
    ⟨hs, hm, again⟩ | ⟨hs, hm, again, n⟩
  · exact .waiting (hstarted.trans hs) (hidle.trans hi) (harmed.trans ha)
  · exact .options (hstarted.trans hs) (hcurrent ▸ hm) (harmed.trans ha)
  · exact .describe (hstarted.trans hs) (hcurrent ▸ hm) (harmed.trans ha)
  · exact .setup (hstarted.trans hs) (hcurrent ▸ hm) (harmed.trans ha)
  · exact .retried (hstarted.trans hs) (hcurrent ▸ hm) (harmed.trans ha) (hretried.trans hr)
  · exact .play (hstarted.trans hs) (hcurrent ▸ hm) again
  · exact .alive (hstarted.trans hs) (hcurrent ▸ hm) again n

/-- With a connection, the method of the current request says how far the session has come. -/
theorem Stage.of_method {r : Requests} {methods : List RtspMethod} (h : Stage r methods)
    (hidle : r.idle = false) : r.started = true ∧
      match r.current.method with
      | .options => methods = [.options] ∧ r.armed = false
      | .describe => methods = [.options, .describe] ∧ r.armed = false
      | .setup => (methods = [.options, .describe, .setup] ∨
          r.retried = true ∧ methods = [.options, .describe, .setup, .setup]) ∧ r.armed = false
      | .play => ∃ again, methods = handshake again 0
      | .getParameter => ∃ again n, methods = handshake again (n + 1)
      | _ => False := by
  rcases h with ⟨-, hwait, -⟩ | ⟨hs, hm, ha⟩ | ⟨hs, hm, ha⟩ | ⟨hs, hm, ha⟩ | ⟨hs, hm, ha, hr⟩ |
    ⟨hs, hm, again⟩ | ⟨hs, hm, again, n⟩
  · exact absurd (hwait.symm.trans hidle) (by decide)
  · rw [hm]
    exact ⟨hs, rfl, ha⟩
  · rw [hm]
    exact ⟨hs, rfl, ha⟩
  · rw [hm]
    exact ⟨hs, .inl rfl, ha⟩
  · rw [hm]
    exact ⟨hs, .inr ⟨hr, rfl⟩, ha⟩
  · rw [hm]
    exact ⟨hs, again, rfl⟩
  · rw [hm]
    exact ⟨hs, again, n, rfl⟩

theorem methodsAfter_of_eq {methods : List RtspMethod} {r r' : Requests} (h : r'.cseq = r.cseq) :
    methodsAfter methods r r' = methods := by
  rw [methodsAfter, if_pos h, List.append_nil]

/-- A message of the upstream takes a session to its next stage, or leaves it where it is. -/
theorem Stage.react {r r' : Requests} {methods : List RtspMethod} {header : Bytes}
    (h : Stage r methods) (hidle : r.idle = false) (hreact : Reaction header r r') :
    Stage r' (methodsAfter methods r r') := by
  obtain ⟨hstarted, hmethods⟩ := h.of_method hidle
  rcases hreact with - | - | ⟨-, hm, hfirst⟩ | ⟨-, hm, hfirst⟩ | ⟨-, hm⟩ | ⟨-, hm⟩ | ⟨-, hm⟩ | ⟨-, hm⟩
  · rwa [methodsAfter_of_eq rfl]
  · rw [@methodsAfter_of_eq _ r (r.answer header) rfl]
    exact h.congr rfl rfl rfl rfl rfl
  · rw [hm] at hmethods
    rcases hmethods with ⟨rfl | ⟨hr, -⟩, harmed⟩
    · rw [@methodsAfter_of_eq _ r r.retry rfl]
      exact .setup hstarted hm harmed
    · exact absurd (hr.symm.trans hfirst) (by decide)
  · rw [hm] at hmethods
    rcases hmethods with ⟨rfl | ⟨hr, -⟩, harmed⟩
    · rw [methodsAfter_build (show r.retry.cseq = r.cseq from rfl)]
      exact .retried hstarted rfl harmed rfl
    · exact absurd (hr.symm.trans hfirst) (by decide)
  · rw [hm] at hmethods
    obtain ⟨rfl, harmed⟩ := hmethods
    rw [methodsAfter_build rfl]
    exact .describe hstarted rfl harmed
  · rw [hm] at hmethods
    obtain ⟨rfl, harmed⟩ := hmethods
    rw [methodsAfter_build rfl]
    exact .setup hstarted rfl harmed
  · rw [hm] at hmethods
    rw [methodsAfter_build rfl]
    rcases hmethods with ⟨rfl | ⟨-, rfl⟩, -⟩
    · show Stage _ (handshake false 0)
      exact .play (by exact hstarted) rfl false
    · show Stage _ (handshake true 0)
      exact .play (by exact hstarted) rfl true
  · rw [hm] at hmethods
    obtain ⟨again, rfl⟩ := hmethods
    rw [@methodsAfter_of_eq _ r r.arm rfl]
    exact @Stage.play r.arm hstarted hm again

/-- The requests of a session after a step that can take place are at the next stage, or at the
    same. -/
theorem Stage.step {e : Event} {r : Requests} {methods : List RtspMethod}
    (h : Stage s.requests methods) (hen : Enabled s e) (hout : Outcome s e r) :
    Stage r (methodsAfter methods s.requests r) := by
  rcases hout with - | ⟨-, hnew⟩ | - | ⟨header, r, hmessage, hreact⟩ | ⟨harmed⟩
  · rwa [methodsAfter_of_eq rfl]
  · -- only a session that waits can start
    rw [methodsAfter_build (show (s.requests.start.connect _).cseq = s.requests.cseq from rfl)]
    rcases h with ⟨-, -, ha⟩ | ⟨hs, -⟩ | ⟨hs, -⟩ | ⟨hs, -⟩ | ⟨hs, -⟩ | ⟨hs, -⟩ | ⟨hs, -⟩
    · exact .options rfl rfl ha
    all_goals exact absurd (hs.symm.trans hnew) (by decide)
  · rw [methodsAfter_of_eq (show (s.requests.send _).cseq = s.requests.cseq from rfl)]
    exact h.congr rfl rfl rfl rfl rfl
  · refine h.react ?_ hreact
    -- a message is handled only where there is a connection
    cases e with
    | rtspTurn => exact decide_eq_false hen
    | _ => cases hmessage
  · rw [methodsAfter_build rfl]
    rcases h with ⟨-, -, ha⟩ | ⟨-, -, ha⟩ | ⟨-, -, ha⟩ | ⟨-, -, ha⟩ | ⟨-, -, ha, -⟩ |
      ⟨hs, -, again⟩ | ⟨hs, -, again, n⟩
    · exact absurd (ha.symm.trans harmed) (by decide)
    · exact absurd (ha.symm.trans harmed) (by decide)
    · exact absurd (ha.symm.trans harmed) (by decide)
    · exact absurd (ha.symm.trans harmed) (by decide)
    · exact absurd (ha.symm.trans harmed) (by decide)
    · rw [← handshake_succ]
      exact .alive (by exact hs) rfl again 0
    · rw [← handshake_succ]
      exact .alive (by exact hs) rfl again (n + 1)

/-! ## Runs -/

/-- Whether the numbers of a pair can be read does not depend on the session. -/
theorem fst_readPortPair (transport param : Bytes) (ctx ctx' : RtspCtx) :
    (RtspParser.readPortPair transport param ctx).map Prod.fst =
      (RtspParser.readPortPair transport param ctx').map Prod.fst := by
  unfold RtspParser.readPortPair
  cases find param transport with
  | none => rfl
  | some pos =>
    dsimp only [Option.bind_eq_bind, Option.bind_some]
    cases findFrom (ascii "-") transport (pos + param.length) with
    | none => rfl
    | some dash =>
      dsimp only [Option.bind_some]
      rcases stoi ((transport.drop (pos + param.length)).take (dash - (pos + param.length))) with - | rtp
      · rfl
      · dsimp only
        rcases stoi (transport.drop (dash + 1)) with - | rtcp
        · rfl
        · rfl

theorem acceptsPorts_eq (header : Bytes) (ctx : RtspCtx) :
    (RtspParser.parseServerPorts header ctx).1 = acceptsPorts header := by
  unfold acceptsPorts RtspParser.parseServerPorts
  cases find (ascii "Transport:") header with
  | none => rfl
  | some pos =>
    dsimp only
    have hfst : ∀ (a b : Option (Bool × RtspCtx)) (d : RtspCtx), ((a.or b).getD (false, d)).1 =
        ((a.map Prod.fst).or (b.map Prod.fst)).getD false := by
      rintro (_ | a) (_ | b) d <;> rfl
    rw [hfst, hfst, fst_readPortPair _ _ ctx {}, fst_readPortPair _ _ ctx {}]

/-- What holds of a session and the requests it has built. -/
structure Handshaking (s : RtspToHttpClient) (built : List Built) : Prop where
  queue : s.requestQueue = []
  next : s.cseq = built.length + 1
  stage : Stage s.requests (built.map (·.request.method))
  numbers : ∀ k b, built[k]? = some b → b.request.cseq = k + 1
  retried : ∀ k b, built[k]? = some b → 2 < k → b.request.method = .setup →
    (∃ header, b.message = some header ∧ RtspParser.parseStatusCode header = 461) ∧
      b.request.headers = tcpHeaders
  played : ∀ b ∈ built, b.request.method = .play → ∃ header,
    b.message = some header ∧ RtspParser.parseStatusCode header = 200 ∧ acceptsPorts header

/-- Why a request is built: a `SETUP` in reply to that to `DESCRIBE` or to a `461`, and `PLAY` in
    reply to a `200` with ports. -/
theorem Outcome.built {e : Event} {r : Requests} (h : Outcome s e r) (hnew : r.cseq ≠ s.cseq) :
    r.cseq = s.cseq + 1 ∧ r.current.cseq = s.cseq ∧
    (r.current.method = .setup → s.currentRequest.method = .describe ∨
      (∃ header, s.messageOf e = some header ∧ RtspParser.parseStatusCode header = 461) ∧
        r.current.headers = tcpHeaders) ∧
    (r.current.method = .play → ∃ header, s.messageOf e = some header ∧
      RtspParser.parseStatusCode header = 200 ∧ acceptsPorts header) := by
  cases h with
  | nothing => exact absurd rfl hnew
  | start =>
    exact ⟨rfl, rfl, fun hm => RtspMethod.noConfusion hm, fun hm => RtspMethod.noConfusion hm⟩
  | send => exact absurd rfl hnew
  | react header r hmessage hreact =>
    cases hreact with
    | nothing => exact absurd rfl hnew
    | answer => exact absurd rfl hnew
    | noTrack => exact absurd rfl hnew
    | retry hstatus =>
      exact ⟨rfl, rfl, fun _ => .inr ⟨⟨header, hmessage, hstatus⟩, rfl⟩,
        fun hm => RtspMethod.noConfusion hm⟩
    | describe =>
      exact ⟨rfl, rfl, fun hm => RtspMethod.noConfusion hm, fun hm => RtspMethod.noConfusion hm⟩
    | setup _ hm => exact ⟨rfl, rfl, fun _ => .inl hm, fun hm => RtspMethod.noConfusion hm⟩
    | play hstatus _ ctx hports =>
      exact ⟨rfl, rfl, fun hm => RtspMethod.noConfusion hm,
        fun _ => ⟨header, hmessage, hstatus, (acceptsPorts_eq header ctx).symm.trans hports⟩⟩
    | arm => exact absurd rfl hnew
  | tick =>
    exact ⟨rfl, rfl, fun hm => RtspMethod.noConfusion hm, fun hm => RtspMethod.noConfusion hm⟩

/-- The reply to `DESCRIBE` comes behind two requests. -/
theorem Stage.length_of_describe {r : Requests} {methods : List RtspMethod} (h : Stage r methods)
    (hmethod : r.current.method = .describe) : methods.length ≤ 2 := by
  rcases h with - | - | - | ⟨-, hm⟩ | ⟨-, hm⟩ | ⟨-, hm⟩ | ⟨-, hm⟩
  · exact Nat.zero_le _
  · exact Nat.le_succ 1
  · exact Nat.le_refl 2
  all_goals exact RtspMethod.noConfusion (hm.symm.trans hmethod)

/-- A step keeps the handshake. -/
theorem Handshaking.step {e : Event} {built : List Built} (h : Handshaking s built)
    (hen : Enabled s e) :
    Handshaking (step cfg s e) (built ++ builtBy s e (RtspToHttpClient.step cfg s e)) := by
  have hout : Outcome s e (RtspToHttpClient.step cfg s e).requests := outcome_of_step h.queue hen
  generalize RtspToHttpClient.step cfg s e = t at *
  have hstage := h.stage.step hen hout
  have hqueue := hout.queue_eq h.queue
  by_cases hcseq : t.cseq = s.cseq
  · have hnone : builtBy s e t = [] := if_pos hcseq
    rw [methodsAfter_of_eq hcseq] at hstage
    rw [hnone, List.append_nil]
    exact { h with queue := hqueue, next := hcseq.trans h.next, stage := hstage }
  · have hone : builtBy s e t = [⟨t.currentRequest, s.messageOf e⟩] := if_neg hcseq
    obtain ⟨hnext, hnumber, hsetup, hplay⟩ := hout.built hcseq
    rw [methodsAfter, if_neg (show t.requests.cseq ≠ s.requests.cseq from hcseq)] at hstage
    rw [hone]
    have hget : ∀ k b, (built ++ [(⟨t.currentRequest, s.messageOf e⟩ : Built)])[k]? = some b →
        built[k]? = some b ∨ k = built.length ∧ b = ⟨t.currentRequest, s.messageOf e⟩ := by
      intro k b hb
      rcases Nat.lt_trichotomy k built.length with hlt | rfl | hgt
      · exact .inl (by rwa [List.getElem?_append_left hlt] at hb)
      · rw [List.getElem?_concat_length] at hb
        exact .inr ⟨rfl, (Option.some.inj hb).symm⟩
      · rw [List.getElem?_eq_none (by rw [List.length_append]; exact hgt)] at hb
        cases hb
    refine ⟨hqueue, ?_, ?_, fun k b hb => ?_, fun k b hb hk hm => ?_, fun b hb hm => ?_⟩
    · rw [List.length_append]
      exact hnext.trans (congrArg (· + 1) h.next)
    · rw [List.map_append]
      exact hstage
    · rcases hget k b hb with hold | ⟨rfl, rfl⟩
      · exact h.numbers k b hold
      · exact hnumber.trans h.next
    · rcases hget k b hb with hold | ⟨rfl, rfl⟩
      · exact h.retried k b hold hk hm
      · -- behind the third request, `DESCRIBE` has been answered
        refine (hsetup hm).resolve_left fun hdescribe => ?_
        have hlen := h.stage.length_of_describe hdescribe
        rw [List.length_map] at hlen
        omega
    · rcases List.mem_append.1 hb with hold | hnew
      · exact h.played b hold hm
      · obtain rfl := List.mem_singleton.1 hnew
        exact hplay hm

/-- A session that has been started has built its first request, or waits for the STUN server. -/
theorem handshaking_of_started (hs : Started cfg s) : Handshaking s (builtAtStart s) := by
  obtain ⟨pool, stats, ctx, rtpPort, rtpReady, opened, -, rfl⟩ := hs
  rcases requests_start cfg pool stats ctx rtpPort rtpReady opened with
    hwait | ⟨uri, sessionId, hfirst⟩
  · generalize start cfg pool stats ctx rtpPort rtpReady opened = s at *
    have hnone : builtAtStart s = [] := if_pos (congrArg Requests.cseq hwait)
    rw [hnone]
    refine ⟨congrArg Requests.queue hwait, congrArg Requests.cseq hwait, ?_, fun k b hb => ?_,
      fun k b hb => ?_, fun b hb => ?_⟩
    · rw [hwait]
      exact .waiting rfl rfl rfl
    all_goals cases hb
  · generalize start cfg pool stats ctx rtpPort rtpReady opened = s at *
    have hcseq : s.cseq = 2 := congrArg Requests.cseq hfirst
    have hone : builtAtStart s = [⟨s.currentRequest, none⟩] := if_neg (by rw [hcseq]; decide)
    have hmethod : s.currentRequest.method = .options :=
      congrArg (fun r => r.current.method) hfirst
    rw [hone]
    refine ⟨congrArg Requests.queue hfirst, hcseq, ?_, fun k b hb => ?_, fun k b hb hk => ?_,
      fun b hb hm => ?_⟩
    · rw [List.map_singleton, hmethod, hfirst]
      exact .options rfl rfl rfl
    · rcases k with - | k
      · obtain rfl := Option.some.inj hb
        exact congrArg (fun r => r.current.cseq) hfirst
      · cases hb
    · rcases k with - | k
      · exact absurd hk (by decide)
      · cases hb
    · obtain rfl := List.mem_singleton.1 hb
      exact RtspMethod.noConfusion (hmethod.symm.trans hm)

/-- Whatever the upstream sends and whenever the timer ticks, the requests are those of a handshake,
    in order and numbered. -/
theorem handshake_of_run {built : List Built} (hs : Started cfg s)
    (h : NotedRun cfg noteBuilt (fun _ _ _ => True) (s, builtAtStart s) (t, built)) :
    InOrder built := by
  have hrun : Handshaking t built := notedRun_invariant (P := fun x => Handshaking x.1 x.2)
    (fun _ _ _ _ hu hen _ => hu.step hen) h (handshaking_of_started hs)
  exact ⟨hrun.stage.prefix_handshake, hrun.numbers, hrun.retried, hrun.played⟩

/-- The upstream answers the first requests, and rejects UDP. -/
def rejectedEvents : List (Event × Unit) :=
  [.rtspWritable { send := ⟨100, false⟩ },
    .receiveRtsp (ascii "RTSP/1.0 200 OK\r\nCSeq: 1\r\n\r\n"), .rtspTurn,
    .receiveRtsp (ascii "RTSP/1.0 200 OK\r\nCSeq: 2\r\nContent-Length: 45\r\n\r\n" ++
      ascii "v=0\r\nm=video 0 RTP/AVP 33\r\na=control:track1\r\n"), .rtspTurn,
    .receiveRtsp (ascii "RTSP/1.0 461 No\r\nCSeq: 3\r\n\r\n"), .rtspTurn].map (·, ())

theorem handshake_of_run_described : ∃ t built,
    NotedRun {} noteBuilt (fun _ _ (_ : Unit) => True) (liveSession, builtAtStart liveSession)
      (t, built) ∧
    built.map (·.request.method) = [.options, .describe, .setup, .setup] ∧ InOrder built := by
  have hrun : (notedEvents {} noteBuilt (fun _ _ (_ : Unit) => True)
      (liveSession, builtAtStart liveSession) rejectedEvents).map
        (fun x => x.2.map (·.request.method)) = some [.options, .describe, .setup, .setup] := by
    decide +kernel
  obtain ⟨⟨t, built⟩, ht, hbuilt⟩ := Option.map_eq_some_iff.1 hrun
  have hnoted := notedRun_of_notedEvents ht
  exact ⟨t, built, hnoted, hbuilt, handshake_of_run started_liveSession hnoted⟩

end RtspToHttpClient

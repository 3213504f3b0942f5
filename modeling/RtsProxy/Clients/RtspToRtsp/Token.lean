import RtsProxy.Clients.RtspToRtsp.Changes

/-!
# The token in messages to the upstream

Only the prefix of a URI that names the proxy is cut off when a request is forwarded; what
else stands in the request, a token parameter among it, reaches the upstream.

* `shows_rewriteRequest_iff`: a forwarded request shows a parameter if one of its pieces does;
* `withheld_of_run`: no message shows it if no step pushes one whose pieces do.
-/

open Text

/-- A text shows a parameter of a query: it stands behind a question mark or an ampersand. -/
def Shows (param text : Bytes) : Prop := 63 :: param <:+: text ∨ 38 :: param <:+: text

instance (param text : Bytes) : Decidable (Shows param text) :=
  decidable_of_iff (contains (63 :: param) text = true ∨ contains (38 :: param) text = true)
    (or_congr contains_iff contains_iff)

/-- The token parameter with a value. -/
def tokenParam (value : Bytes) : Bytes := ascii "token=" ++ value

section Shows

variable {param a b : Bytes}

/-- A parameter without white space is shown on one side of a separator. -/
theorem shows_append_sep_iff (hparam : ∀ c ∈ param, isSpace c = false) {c : UInt8}
    (hc : isSpace c = true) : Shows param (a ++ c :: b) ↔ Shows param a ∨ Shows param b := by
  have hmem : ∀ d : UInt8, isSpace d = false → c ∉ d :: param := by
    intro d hd hcd
    rcases List.mem_cons.1 hcd with rfl | hcd
    · exact Bool.false_ne_true (hd.symm.trans hc)
    · exact Bool.false_ne_true ((hparam c hcd).symm.trans hc)
  unfold Shows
  rw [infix_append_sep_iff (List.cons_ne_nil _ _) (hmem 63 (by decide)),
    infix_append_sep_iff (List.cons_ne_nil _ _) (hmem 38 (by decide))]
  exact or_or_or_comm

/-- A text without the two marks shows nothing. -/
theorem not_shows_of_not_mem (hq : 63 ∉ a) (hamp : 38 ∉ a) : ¬Shows param a := by
  rintro (h | h)
  · exact hq (h.subset List.mem_cons_self)
  · exact hamp (h.subset List.mem_cons_self)

end Shows

namespace RtspToRtspClient

/-- The pieces of a request that are forwarded: what stands before and behind its URI, and the
    URI with the upstream in place of the proxy. A request without a first line of three words
    is one piece. -/
def forwardedPieces (proxyPrefix upstreamBase req : Bytes) : List Bytes :=
  if proxyPrefix = [] then [req]
  else match find crlf req with
    | none => [req]
    | some eol =>
      let line := req.take eol
      match find (ascii " ") line with
      | none => [req]
      | some sp₁ =>
        match findFrom (ascii " ") line (sp₁ + 1) with
        | none => [req]
        | some sp₂ =>
          let uri := (line.take sp₂).drop (sp₁ + 1)
          [line.take sp₁,
            if proxyPrefix.isPrefixOf uri then upstreamBase ++ uri.drop proxyPrefix.length else uri,
            line.drop (sp₂ + 1) ++ req.drop eol]

variable {param : Bytes}

/-- A forwarded request shows a parameter exactly if one of its pieces does. -/
theorem shows_rewriteRequest_iff (hparam : ∀ c ∈ param, isSpace c = false)
    (proxyPrefix upstreamBase req : Bytes) :
    Shows param (rewriteRequest proxyPrefix upstreamBase req) ↔
      ∃ piece ∈ forwardedPieces proxyPrefix upstreamBase req, Shows param piece := by
  have hone : ∀ text : Bytes, Shows param text ↔ ∃ piece ∈ [text], Shows param piece := by simp
  unfold rewriteRequest forwardedPieces
  by_cases hpre : proxyPrefix = []
  · rw [if_pos hpre, if_pos hpre]
    exact hone req
  · rw [if_neg hpre, if_neg hpre]
    cases find crlf req with
    | none => exact hone req
    | some eol =>
      dsimp only
      cases find (ascii " ") (req.take eol) with
      | none => exact hone req
      | some sp₁ =>
        dsimp only
        cases findFrom (ascii " ") (req.take eol) (sp₁ + 1) with
        | none => exact hone req
        | some sp₂ =>
          dsimp only
          rw [rewriteUri, List.append_assoc _ (List.drop _ _) (List.drop _ _)]
          have hsp : isSpace 32 = true := rfl
          have hblank : ∀ a b c : Bytes, a ++ ascii " " ++ b ++ ascii " " ++ c =
              a ++ 32 :: (b ++ 32 :: c) := by
            intro a b c
            simp [ascii]
          rw [hblank, shows_append_sep_iff hparam hsp, shows_append_sep_iff hparam hsp]
          simp

variable {s t : RtspToRtspClient} {cfg : ServerConfig} {e : Event} {p : Pushed}

/-- The text that is pushed: a keepalive, or a request with its URI rewritten. -/
def textOf (s : RtspToRtspClient) (p : Pushed) : Bytes :=
  if p.origin = .keepalive then keepaliveText s.ctx.rtspUrl s.ctx.sessionId
  else s.rewriteRequestForUpstream p.source

theorem text_of_mem_pushesOf (h : p ∈ s.pushesOf cfg e) : p.text = s.textOf p := by
  have hfirst : ∀ calls : UpstreamCalls,
      p ∈ (if s.pushesFirst calls then [s.firstPush] else []) → p.text = s.textOf p := by
    intro calls hp
    split at hp
    · rw [List.mem_singleton.1 hp]
      rfl
    · cases hp
  cases e with
  | downstreamTurn ports =>
    rw [pushesOf] at h
    cases hreq : frontRequest s.downstreamRecvBuf with
    | none =>
      rw [hreq] at h
      cases h
    | some req =>
      rw [hreq, Option.map_some, Option.getD_some, requestPushes] at h
      split at h
      · cases h
      · rw [List.mem_singleton.1 h]
        rfl
  | upstreamTurn calls =>
    rw [pushesOf] at h
    cases hmsg : frontMessage s.upstreamRecvBuf with
    | none =>
      rw [hmsg] at h
      cases h
    | some msg =>
      rw [hmsg, Option.map_some, Option.getD_some, retryPushes] at h
      split at h
      · rcases List.mem_cons.1 h with rfl | h
        · rfl
        · exact hfirst calls h
      · cases h
  | upstreamWritable calls => exact hfirst calls h
  | stunReply d =>
    rw [pushesOf] at h
    split at h
    · cases h
    · rw [List.mem_singleton.1 h]
      rfl
  | timer =>
    rw [List.mem_singleton.1 h]
    rfl
  | _ => cases h

/-- A keepalive shows a parameter if the URL or the identifier of its session does. -/
theorem shows_keepaliveText_iff (hparam : ∀ c ∈ param, isSpace c = false)
    (rtspUrl sessionId : Bytes) :
    Shows param (keepaliveText rtspUrl sessionId) ↔
      Shows param rtspUrl ∨ Shows param sessionId := by
  have htext : keepaliveText rtspUrl sessionId =
      ascii "GET_PARAMETER" ++ 32 :: (rtspUrl ++ 32 ::
        (ascii "RTSP/1.0\r\nCSeq: 99\r\nSession:" ++ 32 :: (sessionId ++ 13 :: ascii "\n\r\n"))) := by
    have hlit : ∀ a b c : Bytes, ascii "GET_PARAMETER " ++ a ++
        ascii " RTSP/1.0\r\nCSeq: 99\r\nSession: " ++ b ++ c =
        ascii "GET_PARAMETER" ++ 32 :: (a ++ 32 ::
          (ascii "RTSP/1.0\r\nCSeq: 99\r\nSession:" ++ 32 :: (b ++ c))) := by
      intro a b c
      simp [ascii]
    exact hlit rtspUrl sessionId crlf2
  have hnone : ∀ a : Bytes, 63 ∉ a → 38 ∉ a → (Shows param a ↔ False) :=
    fun a h₁ h₂ => iff_false_intro (not_shows_of_not_mem h₁ h₂)
  rw [htext, shows_append_sep_iff hparam rfl, shows_append_sep_iff hparam rfl,
    shows_append_sep_iff hparam rfl, shows_append_sep_iff hparam rfl,
    hnone (ascii "GET_PARAMETER") (by decide) (by decide),
    hnone (ascii "RTSP/1.0\r\nCSeq: 99\r\nSession:") (by decide) (by decide),
    hnone (ascii "\n\r\n") (by decide) (by decide), false_or, false_or, or_false]

/-- A message hands a parameter over: one of the pieces of its request shows it, or, in a
    keepalive, the URL or the identifier of the session. -/
def HandsOver (param : Bytes) (s : RtspToRtspClient) (p : Pushed) : Prop :=
  if p.origin = .keepalive then Shows param s.ctx.rtspUrl ∨ Shows param s.ctx.sessionId
  else ∃ piece ∈ forwardedPieces s.proxyUriPrefix s.upstreamUriBase p.source, Shows param piece

instance (param : Bytes) (s : RtspToRtspClient) (p : Pushed) : Decidable (HandsOver param s p) :=
  inferInstanceAs (Decidable (if p.origin = .keepalive then Shows param s.ctx.rtspUrl ∨
      Shows param s.ctx.sessionId
    else ∃ piece ∈ forwardedPieces s.proxyUriPrefix s.upstreamUriBase p.source,
      Shows param piece))

theorem shows_textOf_iff (hparam : ∀ c ∈ param, isSpace c = false) :
    Shows param (s.textOf p) ↔ HandsOver param s p := by
  unfold textOf HandsOver
  split
  · exact shows_keepaliveText_iff hparam _ _
  · exact shows_rewriteRequest_iff hparam _ _ _

/-! ## Runs -/

/-- A step hands no parameter over. -/
def Withholds (param : Bytes) (cfg : ServerConfig) (s : RtspToRtspClient) (e : Event) : Prop :=
  ∀ p ∈ s.pushesOf cfg e, ¬HandsOver param s p

instance (param : Bytes) (cfg : ServerConfig) (s : RtspToRtspClient) (e : Event) :
    Decidable (Withholds param cfg s e) :=
  inferInstanceAs (Decidable (∀ p ∈ s.pushesOf cfg e, ¬HandsOver param s p))

/-- A step that withholds a parameter pushes no message that shows it. -/
theorem withheld_of_step (hparam : ∀ c ∈ param, isSpace c = false)
    (hwithholds : Withholds param cfg s e) (hs : ∀ p ∈ s.pushed, ¬Shows param p.text)
    (h : step cfg s e = .ok t) : ∀ p ∈ t.pushed, ¬Shows param p.text := by
  intro p hp
  rw [pushed_of_step h] at hp
  rcases List.mem_append.1 hp with hp | hp
  · exact hs p hp
  · rw [text_of_mem_pushesOf hp, shows_textOf_iff hparam]
    exact hwithholds p hp

theorem not_space_of_all {text : Bytes} (h : text.all (! isSpace ·) = true) :
    ∀ c ∈ text, isSpace c = false := by
  intro c hc
  simpa using List.all_eq_true.1 h c hc

/-- In a run whose steps withhold a token, no message to the upstream shows it. -/
theorem withheld_of_run {value : Bytes} (hvalue : ∀ c ∈ value, isSpace c = false)
    (hs : Started cfg s) (h : Run cfg (Withholds (tokenParam value) cfg) s t) :
    ∀ p ∈ t.pushed, ¬Shows (tokenParam value) p.text := by
  have hparam : ∀ c ∈ tokenParam value, isSpace c = false := by
    intro c hc
    rcases List.mem_append.1 hc with hc | hc
    · exact not_space_of_all (by rfl : (ascii "token=").all (! isSpace ·) = true) c hc
    · exact hvalue c hc
  refine run_invariant (fun _ _ _ hP _ hwithholds hst => withheld_of_step hparam hwithholds hP hst)
    h ?_
  obtain ⟨_, _, _, _, _, _, _, _, _, rfl⟩ := hs
  simp [start]

/-- A token is configured. -/
def tokenConfig : ServerConfig := { token := ascii "k3y" }

/-- The session of a client that hides its token in front of the path of the upstream. -/
def hiddenSession : RtspToRtspClient :=
  sessionFor tokenConfig (ascii "rtsp://10.0.0.1:8554/?token=k3y&to=/rtp/10.0.0.9:554/live")
    (ascii "/live")

theorem withheld_of_run_hidden : ∃ t,
    runEvents tokenConfig (Withholds (tokenParam (ascii "k3y")) tokenConfig) hiddenSession
      [connectEvent] = some t ∧
    t.pushed.map Pushed.text = [ascii "OPTIONS rtsp://10.0.0.9:554/live RTSP/1.0\r\nCSeq: 1\r\n\r\n"] ∧
    ∀ p ∈ t.pushed, ¬Shows (tokenParam (ascii "k3y")) p.text := by
  have hrun : (runEvents tokenConfig (Withholds (tokenParam (ascii "k3y")) tokenConfig) hiddenSession
      [connectEvent]).map (fun t => t.pushed.map Pushed.text) =
        some [ascii "OPTIONS rtsp://10.0.0.9:554/live RTSP/1.0\r\nCSeq: 1\r\n\r\n"] := by
    decide +kernel
  obtain ⟨t, ht, htexts⟩ := Option.map_eq_some_iff.1 hrun
  have hstarted : Started tokenConfig hiddenSession :=
    ⟨default, _, _, _, _, _, _, BufferPool.inBounds_new 2048 1024, by decide +kernel, rfl⟩
  exact ⟨t, ht, htexts, withheld_of_run (not_space_of_all rfl) hstarted (run_of_runEvents ht)⟩

/-- The session of a client that gives its token behind the path. -/
def openSession : RtspToRtspClient :=
  sessionFor tokenConfig (ascii "rtsp://10.0.0.1:8554/rtp/10.0.0.9:554/live?token=k3y")
    (ascii "/live")

/-- Its request is authorized by the token, and pushed with it. -/
theorem token_handed_over :
    (RequestParser.parse tokenConfig default openSession.downstreamRecvBuf).map
      RequestInfo.isAuthorized = .ok true ∧
    Started tokenConfig openSession ∧
    ∃ t, Run tokenConfig anyStep openSession t ∧
      ∃ p ∈ t.pushed, Shows (tokenParam tokenConfig.token) p.text := by
  refine ⟨by decide +kernel,
    ⟨default, _, _, _, _, _, _, BufferPool.inBounds_new 2048 1024, by decide +kernel, rfl⟩, ?_⟩
  have hrun : (runEvents tokenConfig anyStep openSession [connectEvent]).any (fun t =>
      t.pushed.any fun p => Shows (tokenParam tokenConfig.token) p.text) = true := by
    decide +kernel
  obtain ⟨t, ht, hany⟩ := (Option.any_eq_true _ _).1 hrun
  obtain ⟨p, hp, hshows⟩ := List.any_eq_true.1 hany
  exact ⟨t, run_of_runEvents ht, p, hp, of_decide_eq_true hshows⟩

end RtspToRtspClient

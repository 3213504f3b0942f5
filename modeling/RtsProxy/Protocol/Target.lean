import RtsProxy.Protocol.RequestParser

/-!
# Request targets

The URI of a request as it is meant: what stands in front of its first `?`, and behind it
the parameters between the `&`. Every URI is the text of exactly one target
(`text_read`, `read_text`).

* `cleanUri_text`: the clean URI is the text of the target without its tokens;
* `isAuthorized_text`: a request is let in by a token among the parameters;
* `parse_target`: both, of every request that is parsed.
-/

open Text

/-- The target of a request. -/
structure Target where
  base : Bytes
  /-- The parameters, in their order; none where there is no `?`. -/
  params : List Bytes
  not_mem_base : 63 ∉ base
  not_mem_params : ∀ p ∈ params, 38 ∉ p
  deriving DecidableEq

namespace Target

open RequestParser

variable {c : UInt8} {a b p s : Bytes}

/-! ## Splitting at a byte -/

theorem not_mem_of_mem_splitOn (h : p ∈ s.splitOn c) : c ∉ p := by
  induction s generalizing p with
  | nil =>
    rw [List.splitOn_nil, List.mem_singleton] at h
    exact h ▸ List.not_mem_nil
  | cons d s ih =>
    rw [List.splitOn_cons_eq_if_modifyHead] at h
    by_cases hd : (d == c) = true
    · rw [if_pos hd] at h
      rcases List.mem_cons.1 h with rfl | h
      · exact List.not_mem_nil
      · exact ih h
    · -- The byte goes in front of the first part.
      rw [if_neg hd] at h
      obtain ⟨q, qs, hq⟩ := List.exists_cons_of_ne_nil (List.splitOn_ne_nil c s)
      rw [hq, List.modifyHead_cons] at h
      rcases List.mem_cons.1 h with rfl | h
      · have hmem : c ∉ q := ih (hq ▸ List.mem_cons_self)
        have hne : c ≠ d := fun e => hd (e ▸ beq_self_eq_true c)
        exact mt List.mem_cons.1 (not_or.2 ⟨hne, hmem⟩)
      · exact ih (hq ▸ List.mem_cons_of_mem q h)

/-! ## Texts -/

/-- The text of a target. -/
def text (t : Target) : Bytes :=
  if t.params = [] then t.base
  else t.base ++ ascii "?" ++ (ascii "&").intercalate t.params

/-- The target that a URI is the text of. -/
def read (uri : Bytes) : Target where
  base := uri.takeWhile (· ≠ 63)
  params :=
    match uri.dropWhile (· ≠ 63) with
    | [] => []
    | _ :: query => query.splitOn 38
  not_mem_base := fun h => by simpa using List.mem_takeWhile_imp h
  not_mem_params := fun p hp => by
    split at hp
    · exact absurd hp List.not_mem_nil
    · exact not_mem_of_mem_splitOn hp

variable {t : Target} {uri : Bytes}

theorem ext_iff' {t u : Target} : t = u ↔ t.base = u.base ∧ t.params = u.params := by
  rcases t with ⟨base, params, _, _⟩
  rcases u with ⟨base', params', _, _⟩
  exact ⟨fun h => ⟨congrArg Target.base h, congrArg Target.params h⟩,
    fun ⟨hb, hp⟩ => by subst hb hp; rfl⟩

theorem text_of_nil (h : t.params = []) : t.text = t.base := if_pos h

theorem text_of_cons (h : t.params ≠ []) :
    t.text = t.base ++ 63 :: [38].intercalate t.params := by
  rw [text, if_neg h, List.append_assoc]
  rfl

/-- Every URI is the text of the target read from it. -/
theorem text_read (uri : Bytes) : (read uri).text = uri := by
  have hparts : uri.takeWhile (· ≠ 63) ++ uri.dropWhile (· ≠ 63) = uri :=
    List.takeWhile_append_dropWhile
  rcases hrest : uri.dropWhile (· ≠ 63) with _ | ⟨d, query⟩
  · have hnil : (read uri).params = [] := by simp only [read, hrest]
    rw [hrest, List.append_nil] at hparts
    exact (text_of_nil hnil).trans hparts
  · have hd : d = 63 := by
      have hfirst := List.head?_dropWhile_not (fun x : UInt8 => decide (x ≠ 63)) uri
      rw [hrest] at hfirst
      simpa using hfirst
    have hparams : (read uri).params = query.splitOn 38 := by simp only [read, hrest]
    rw [text_of_cons (hparams ▸ List.splitOn_ne_nil 38 query), hparams,
      List.intercalate_splitOn, ← hd, ← hrest]
    exact hparts

theorem find_text_of_nil (h : t.params = []) : find (ascii "?") t.text = none := by
  rw [text_of_nil h]
  exact find_byte_eq_none t.not_mem_base

theorem find_text_of_cons (h : t.params ≠ []) : find (ascii "?") t.text = some t.base.length := by
  rw [text_of_cons h]
  exact find_byte t.not_mem_base

theorem split_query (h : t.params ≠ []) :
    split (t.text.drop (t.base.length + 1)) 38 = t.params := by
  rw [text_of_cons h, ← List.drop_drop, List.drop_left, split]
  exact List.splitOn_intercalate 38 t.not_mem_params h

/-- The parameters of a URI are those of its target. -/
theorem queryParams_text (t : Target) : queryParams t.text = t.params := by
  unfold queryParams
  by_cases h : t.params = []
  · rw [find_text_of_nil h, h]
  · rw [find_text_of_cons h]
    exact split_query h

/-- A text has only one target. -/
theorem read_text (t : Target) : read t.text = t := by
  have hsame : (read t.text).text = t.text := text_read t.text
  have hparams : (read t.text).params = t.params := by
    rw [← queryParams_text (read t.text), hsame, queryParams_text]
  refine ext_iff'.2 ⟨?_, hparams⟩
  by_cases h : t.params = []
  · rw [← text_of_nil h, ← text_of_nil (hparams.trans h), hsame]
  · have hcons : (read t.text).params ≠ [] := fun hnil => h (hparams.symm.trans hnil)
    rw [text_of_cons hcons, hparams] at hsame
    exact List.append_cancel_right (hsame.trans (text_of_cons h))

/-! ## Tokens -/

/-- The parameter has the form `token=value`. -/
def IsToken (p : Bytes) : Prop := ascii "token=" <+: p

instance (p : Bytes) : Decidable (IsToken p) := inferInstanceAs (Decidable (_ <+: _))

/-- A parameter has a key and a value when it has an equals sign: what stands in front of
    the first one, and behind it. -/
theorem splitParam_eq_some {k v : Bytes} :
    splitParam p = some (k, v) ↔ 61 ∉ k ∧ p = k ++ 61 :: v := by
  have hread : ∀ k v : Bytes, 61 ∉ k → splitParam (k ++ 61 :: v) = some (k, v) := by
    intro k v hk
    have hfind : find (ascii "=") (k ++ 61 :: v) = some k.length := find_byte hk
    rw [splitParam, hfind, Option.map_some, List.take_left, ← List.drop_drop, List.drop_left]
    rfl
  constructor
  · intro h
    by_cases hmem : (61 : UInt8) ∈ p
    · obtain ⟨k', v', rfl, hk'⟩ := List.eq_append_cons_of_mem hmem
      obtain ⟨rfl, rfl⟩ := Prod.mk.inj (Option.some.inj ((hread k' v' hk').symm.trans h))
      exact ⟨hk', rfl⟩
    · have hnone : find (ascii "=") p = none := find_byte_eq_none hmem
      rw [splitParam, hnone] at h
      cases h
  · rintro ⟨hk, rfl⟩
    exact hread k v hk

theorem splitParam_eq_token {v : Bytes} :
    splitParam p = some (ascii "token", v) ↔ p = ascii "token=" ++ v := by
  rw [splitParam_eq_some, and_iff_right (by decide)]
  rfl

theorem isTokenParam_iff : isTokenParam p = true ↔ IsToken p := by
  rw [isTokenParam, Option.any_eq_true]
  constructor
  · rintro ⟨⟨k, v⟩, h, hk⟩
    obtain rfl : k = ascii "token" := of_decide_eq_true hk
    exact ⟨v, (splitParam_eq_token.1 h).symm⟩
  · rintro ⟨v, rfl⟩
    exact ⟨(ascii "token", v), splitParam_eq_token.2 rfl, decide_eq_true rfl⟩

/-- The target without its tokens: all other parameters stay as they are. -/
def withoutTokens (t : Target) : Target where
  base := t.base
  params := t.params.filter (¬IsToken ·)
  not_mem_base := t.not_mem_base
  not_mem_params := fun p hp => t.not_mem_params p (List.mem_filter.1 hp).1

theorem withoutTokens_withoutTokens (t : Target) : t.withoutTokens.withoutTokens = t.withoutTokens :=
  ext_iff'.2 ⟨rfl, by simp only [withoutTokens, List.filter_filter, Bool.and_self]⟩

/-- The clean URI of a target is the text of the target without its tokens. -/
theorem cleanUri_text (t : Target) : cleanUri t.text = t.withoutTokens.text := by
  have hkept : t.params.filter (! isTokenParam ·) = t.withoutTokens.params := by
    refine List.filter_congr fun p _ => ?_
    rw [Bool.eq_iff_iff, Bool.not_eq_true', ← Bool.not_eq_true, isTokenParam_iff,
      decide_eq_true_iff]
  unfold cleanUri
  by_cases h : t.params = []
  · have hnil : t.withoutTokens.params = [] := by rw [← hkept, h, List.filter_nil]
    rw [find_text_of_nil h, text_of_nil h, text_of_nil hnil]
    rfl
  · have htake : t.text.take t.base.length = t.withoutTokens.base := by
      rw [text_of_cons h]
      exact List.take_left
    rw [find_text_of_cons h]
    dsimp only
    rw [split_query h, hkept, htake]
    rfl

/-- A URI without tokens is clean. -/
theorem cleanUri_eq_self (h : ∀ p ∈ (read uri).params, ¬IsToken p) : cleanUri uri = uri := by
  have hsame : (read uri).withoutTokens = read uri :=
    ext_iff'.2 ⟨rfl, List.filter_eq_self.2 fun p hp => decide_eq_true (h p hp)⟩
  calc cleanUri uri = cleanUri (read uri).text := by rw [text_read]
    _ = (read uri).text := by rw [cleanUri_text, hsame]
    _ = uri := text_read uri

/-- What stands in front of the `?` makes no difference to the parameters. -/
theorem params_read_append (h : 63 ∉ a) : (read (a ++ uri)).params = (read uri).params := by
  have hall : ∀ d ∈ a, (decide (d ≠ 63)) = true := by
    intro d hd
    exact decide_eq_true fun e => h (e ▸ hd)
  have hrest : (a ++ uri).dropWhile (· ≠ 63) = uri.dropWhile (· ≠ 63) :=
    List.dropWhile_append_of_pos hall
  simp only [read, hrest]

/-- A request is let in when no token is configured, or when the token that is configured
    is among the parameters. -/
theorem isAuthorized_text (cfg : ServerConfig) (t : Target) :
    isAuthorized cfg t.text = true ↔ cfg.token = [] ∨ ascii "token=" ++ cfg.token ∈ t.params := by
  simp only [isAuthorized, queryParams_text, Bool.or_eq_true, decide_eq_true_iff,
    List.any_eq_true, splitParam_eq_token, exists_eq_right]

/-! ## Requests -/

variable {cfg : ServerConfig} {cal : Calendar} {request method version : Bytes}
  {more : List Bytes} {info : RequestInfo}

/-- What `parse` makes of a request line. -/
theorem parse_of_words (hline : words request = method :: uri :: version :: more) :
    parse cfg cal request =
      (upstreamUrl cfg cal (cleanUri uri)).map (requestInfo cfg method uri version) := by
  unfold parse
  rw [hline]

/-- What is learnt of the target of a request line. -/
theorem target_of_parse (hline : words request = method :: uri :: version :: more)
    (h : parse cfg cal request = .ok info) :
    info.cleanUri = (read uri).withoutTokens.text ∧
      info.isAuthorized = isAuthorized cfg (read uri).text := by
  rw [parse_of_words hline] at h
  rcases hup : upstreamUrl cfg cal (cleanUri uri) with e | upstream
  · rw [hup] at h
    cases h
  · rw [hup] at h
    cases h
    rw [← cleanUri_text, text_read]
    exact ⟨rfl, rfl⟩

/-- Of every request line with a URI: the clean URI has lost the tokens and nothing else, and
    parsing it again leaves it as it is; and the request is let in when no token is
    configured or one of its parameters is the token. -/
theorem parse_target (hline : words request = method :: uri :: version :: more)
    (h : parse cfg cal request = .ok info) :
    ((read uri).text = uri ∧ info.cleanUri = (read uri).withoutTokens.text) ∧
      (∀ cfg' cal' request' method' version' more' info',
        words request' = method' :: info.cleanUri :: version' :: more' →
        parse cfg' cal' request' = .ok info' → info'.cleanUri = info.cleanUri) ∧
      (info.isAuthorized = true ↔
        cfg.token = [] ∨ ascii "token=" ++ cfg.token ∈ (read uri).params) := by
  obtain ⟨huri, hauth⟩ := target_of_parse hline h
  refine ⟨⟨text_read uri, huri⟩, ?_, ?_⟩
  · intro cfg' cal' request' method' version' more' info' hline' h'
    rw [(target_of_parse hline' h').1, huri, read_text, withoutTokens_withoutTokens]
  · rw [hauth, isAuthorized_text]

/-- A request with a token between two other parameters, one of them empty. -/
theorem parse_target_request :
    ∃ info, parse { token := ascii "k" } default
        (ascii "GET /rtp/h?a&token=k& RTSP/1.0\r\n") = .ok info ∧
      info.cleanUri = ascii "/rtp/h?a&" ∧ info.isAuthorized = true := by
  obtain ⟨info, h⟩ : ∃ info, parse { token := ascii "k" } default
      (ascii "GET /rtp/h?a&token=k& RTSP/1.0\r\n") = .ok info := ⟨_, rfl⟩
  have hwords : words (ascii "GET /rtp/h?a&token=k& RTSP/1.0\r\n") =
      [ascii "GET", ascii "/rtp/h?a&token=k&", ascii "RTSP/1.0"] := by decide
  have hspec := parse_target hwords h
  refine ⟨info, h, hspec.1.2.trans (by decide), hspec.2.2.2 (by decide)⟩

end Target

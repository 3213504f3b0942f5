import Mathlib.Data.List.DropRight
import RtsProxy.Clients.RtspToHttp.State

/-!
# The URLs of tracks

A `SETUP` names a track by the URL that its control attribute stands for: an absolute URL, an
asterisk for the base itself, or a text that is relative to the base. The session puts the
attribute behind the base, with a slash in between if none seems to be there.

* `trackUrl_eq_resolve_iff`: when this is the URL;
* `setup_uri_iff`: when it is in the `SETUP`.
-/

open Text

namespace RtspToHttpClient

variable {base rel : Bytes} {ctx : RtspCtx} {s : RtspToHttpClient}

/-- The base of the tracks: what the description names as such, or else the URL of the request
    without its query. -/
def baseUrl (ctx : RtspCtx) : Bytes :=
  if ctx.contentBase = [] then (upstreamUrl ctx).takeWhile (· ≠ 63) else ctx.contentBase

/-- A base and a relative text, with exactly one slash in between. -/
def joinSlash (base rel : Bytes) : Bytes :=
  base.rdropWhile (· = 47) ++ 47 :: rel.dropWhile (· = 47)

/-- The URL that a control attribute stands for. -/
def resolve (base control : Bytes) : Bytes :=
  if ascii "rtsp://" <+: control then control
  else if control = ascii "*" then base
  else joinSlash base control

/-- A control attribute that the session gets right: a relative one without a slash in front, behind
    a base with at most one slash at its end; if it starts with an asterisk, with one. -/
structure Joins (base control : Bytes) : Prop where
  not_absolute : ¬ascii "rtsp://" <+: control
  ne_asterisk : control ≠ ascii "*"
  no_slash : control.head? ≠ some 47
  one_slash : ¬ascii "//" <:+ base
  asterisk : control.head? = some 42 → base.getLast? = some 47

/-! ## Joining -/

/-- What the session makes of a base and a control attribute. -/
def append (base control : Bytes) : Bytes :=
  (if base.getLast? ≠ some 47 ∧ control.head? ≠ some 42 then base ++ ascii "/" else base) ++ control

theorem trackUrl_eq (ctx : RtspCtx) (track : Bytes) :
    trackUrl ctx track = append (baseUrl ctx) track := rfl

/-- The slashes at the end of a base. -/
theorem exists_slashes (base : Bytes) :
    ∃ b k, base = b ++ List.replicate k 47 ∧ b.getLast? ≠ some 47 ∧ base.rdropWhile (· = 47) = b := by
  induction base using List.reverseRecOn with
  | nil => exact ⟨[], 0, rfl, nofun, rfl⟩
  | append_singleton l c ih =>
    obtain ⟨b, k, hl, hb, hdrop⟩ := ih
    by_cases hc : c = 47
    · refine ⟨b, k + 1, ?_, hb, ?_⟩
      · rw [hc, hl, List.append_assoc, List.replicate_succ']
      · rw [List.rdropWhile_concat_pos _ _ _ (by simpa using hc), hdrop]
    · refine ⟨l ++ [c], 0, (List.append_nil _).symm, ?_, ?_⟩
      · rw [List.getLast?_concat]
        exact fun h => hc (Option.some.inj h)
      · exact List.rdropWhile_concat_neg _ _ _ (by simpa using hc)

theorem getLast_replicate_iff {b : Bytes} {k : Nat} (hb : b.getLast? ≠ some 47) :
    (b ++ List.replicate k 47).getLast? = some 47 ↔ 0 < k := by
  rcases k with _ | k
  · rw [List.replicate_zero, List.append_nil]
    exact iff_of_false hb (Nat.lt_irrefl 0)
  · rw [List.replicate_succ', ← List.append_assoc, List.getLast?_concat]
    exact iff_of_true rfl (Nat.succ_pos k)

theorem suffix_replicate_iff {b : Bytes} {k : Nat} (hb : b.getLast? ≠ some 47) :
    ascii "//" <:+ b ++ List.replicate k 47 ↔ 2 ≤ k := by
  constructor
  · rintro ⟨r, hr⟩
    rcases k with _ | _ | k
    · rw [List.replicate_zero, List.append_nil] at hr
      refine absurd ?_ hb
      rw [← hr, show ascii "//" = [47] ++ [47] from rfl, ← List.append_assoc, List.getLast?_concat]
    · have hfront : r ++ [47] = b :=
        (List.append_inj' (show (r ++ [47]) ++ [47] = b ++ [47] from
          (List.append_assoc r [47] [47]).trans hr) rfl).1
      refine absurd ?_ hb
      rw [← hfront, List.getLast?_concat]
    · exact Nat.le_add_left 2 k
  · intro hk
    obtain ⟨j, rfl⟩ := Nat.exists_eq_add_of_le' hk
    refine ⟨b ++ List.replicate j 47, ?_⟩
    rw [List.append_assoc, List.replicate_add]
    rfl

/-- The slashes in front of a text. -/
theorem exists_slashes_front (rel : Bytes) :
    ∃ j, rel = List.replicate j 47 ++ rel.dropWhile (· = 47) ∧ (rel.head? = some 47 ↔ 0 < j) := by
  induction rel with
  | nil => exact ⟨0, rfl, iff_of_false nofun (Nat.lt_irrefl 0)⟩
  | cons c r ih =>
    by_cases hc : c = 47
    · obtain ⟨j, hj, -⟩ := ih
      refine ⟨j + 1, ?_, iff_of_true (congrArg some hc) (Nat.succ_pos j)⟩
      rw [List.dropWhile_cons_of_pos (by simpa using hc), List.replicate_succ, List.cons_append, ← hj,
        hc]
    · refine ⟨0, ?_, iff_of_false (fun h => hc (Option.some.inj h)) (Nat.lt_irrefl 0)⟩
      rw [List.dropWhile_cons_of_neg (by simpa using hc)]
      rfl

/-- The slashes that the session leaves at the end of a base, when there are some already. -/
def slashesLeft (k : Nat) (control : Bytes) : Nat :=
  if k = 0 ∧ control.head? ≠ some 42 then 1 else k

theorem append_replicate {b : Bytes} {k : Nat} (hb : b.getLast? ≠ some 47) (rel : Bytes) :
    append (b ++ List.replicate k 47) rel = b ++ (List.replicate (slashesLeft k rel) 47 ++ rel) := by
  have hlast := @getLast_replicate_iff b k hb
  rw [append, slashesLeft]
  by_cases hcond : k = 0 ∧ rel.head? ≠ some 42
  · obtain ⟨rfl, hhead⟩ := hcond
    rw [if_pos ⟨mt hlast.1 (Nat.lt_irrefl 0), hhead⟩, if_pos ⟨rfl, hhead⟩, List.replicate_zero,
      List.append_nil, List.append_assoc]
    rfl
  · rw [if_neg hcond, if_neg fun h => hcond ⟨Nat.eq_zero_of_not_pos (mt hlast.2 h.1), h.2⟩,
      List.append_assoc]

/-- Slashes are joined to one exactly if there is one. -/
theorem append_eq_joinSlash_iff : append base rel = joinSlash base rel ↔
    rel.head? ≠ some 47 ∧ ¬ascii "//" <:+ base ∧ (rel.head? = some 42 → base.getLast? = some 47) := by
  obtain ⟨b, k, rfl, hb, hdrop⟩ := exists_slashes base
  obtain ⟨j, hj, hfront⟩ := exists_slashes_front rel
  have hcount : append (b ++ List.replicate k 47) rel = joinSlash (b ++ List.replicate k 47) rel ↔
      slashesLeft k rel + j = 1 := by
    rw [append_replicate hb, joinSlash, hdrop, List.append_right_inj]
    nth_rewrite 2 [hj]
    rw [← List.append_assoc, ← List.replicate_add,
      show 47 :: rel.dropWhile (· = 47) = List.replicate 1 47 ++ rel.dropWhile (· = 47) from rfl,
      List.append_left_inj, List.replicate_left_inj]
  rw [hcount, suffix_replicate_iff hb, getLast_replicate_iff hb, ne_eq, hfront, slashesLeft]
  by_cases hhead : rel.head? = some 42
  · -- No slash is put behind an asterisk, and there is none in front of it.
    have hnone : ¬0 < j := fun hpos => by
      rw [hfront.2 hpos] at hhead
      cases hhead
    rw [if_neg fun h => h.2 hhead, imp_iff_right hhead]
    omega
  · simp only [ne_eq, hhead, not_false_eq_true, and_true, false_imp_iff]
    split <;> omega

/-! ## Requests -/

theorem baseUrl_ne_nil (ctx : RtspCtx) : baseUrl ctx ≠ [] := by
  rw [baseUrl]
  split
  case isTrue =>
    have hfirst : (upstreamUrl ctx).takeWhile (· ≠ 63) =
        114 :: ((upstreamUrl ctx).drop 1).takeWhile (· ≠ 63) := rfl
    rw [hfirst]
    exact List.cons_ne_nil _ _
  case isFalse h => exact h

/-- A base is part of what is made of it. -/
theorem length_append_control_ge (base control : Bytes) :
    base.length + control.length ≤ (append base control).length := by
  rw [append, List.length_append]
  split
  · rw [List.length_append]
    omega
  · exact Nat.le_refl _

/-- The URL of a track is what its control attribute stands for exactly if this is a relative text
    that can be put behind the base. -/
theorem trackUrl_eq_resolve_iff (ctx : RtspCtx) (control : Bytes) :
    trackUrl ctx control = resolve (baseUrl ctx) control ↔ Joins (baseUrl ctx) control := by
  have hbase := List.length_pos_of_ne_nil (baseUrl_ne_nil ctx)
  have hlen := length_append_control_ge (baseUrl ctx) control
  rw [trackUrl_eq, resolve]
  by_cases habsolute : ascii "rtsp://" <+: control
  · rw [if_pos habsolute]
    refine iff_of_false (fun h => ?_) fun h => h.not_absolute habsolute
    rw [h] at hlen
    omega
  rw [if_neg habsolute]
  by_cases hasterisk : control = ascii "*"
  · rw [if_pos hasterisk]
    refine iff_of_false (fun h => ?_) fun h => h.ne_asterisk hasterisk
    rw [h, hasterisk] at hlen
    exact absurd hlen (Nat.not_succ_le_self _)
  rw [if_neg hasterisk, append_eq_joinSlash_iff]
  exact ⟨fun ⟨hslash, hone, hstar⟩ => ⟨habsolute, hasterisk, hslash, hone, hstar⟩,
    fun h => ⟨h.no_slash, h.one_slash, h.asterisk⟩⟩

/-- The request that has been pushed last: it waits, or is being sent. -/
def lastRequest (s : RtspToHttpClient) : RtspRequest :=
  (s.currentRequest :: s.requestQueue).getLast (List.cons_ne_nil _ _)

theorem lastRequest_pushed (s : RtspToHttpClient) (method : RtspMethod) (uri headers body : Bytes) :
    (s.pushRequestIntoQueue method uri headers body).buildAndSendRequest.lastRequest =
      ⟨method, uri, headers, body, s.cseq⟩ := by
  rw [pushRequestIntoQueue]
  rcases hq : s.requestQueue with _ | ⟨r, rs⟩
  · rfl
  · exact List.getLast_concat (l := r :: rs)

/-- What is known once the description of a session has been read. -/
def described (sdp : Bytes) (s : RtspToHttpClient) : RtspCtx :=
  if sdp = [] then s.ctx else RtspParser.Sdp.parseSDP sdp s.ctx

theorem sendRtspSetup_eq {cfg : ServerConfig} {sdp : Bytes}
    (h : findTrack (s.described sdp).mediaStreams ≠ []) :
    (s.sendRtspSetup cfg sdp).lastRequest = ⟨.setup,
      trackUrl (s.described sdp) (findTrack (s.described sdp).mediaStreams),
      ({ s with ctx := s.described sdp } : RtspToHttpClient).setupHeaders cfg, [], s.cseq⟩ := by
  have hctx : (if sdp = [] then s else { s with ctx := RtspParser.Sdp.parseSDP sdp s.ctx }) =
      { s with ctx := s.described sdp } := by
    rw [described]
    split <;> rfl
  rw [sendRtspSetup, hctx]
  dsimp only
  rw [if_neg h, lastRequest_pushed]

/-- The `SETUP` names the selected track by the URL that its control attribute stands for exactly
    if this is a relative text without a slash in front, and the base ends with one slash at most
    (with one, if the text starts with an asterisk). -/
theorem setup_uri_iff (cfg : ServerConfig) (sdp : Bytes) (s : RtspToHttpClient)
    (h : findTrack (s.described sdp).mediaStreams ≠ []) :
    (s.sendRtspSetup cfg sdp).lastRequest.method = .setup ∧
    ((s.sendRtspSetup cfg sdp).lastRequest.uri =
        resolve (baseUrl (s.described sdp)) (findTrack (s.described sdp).mediaStreams) ↔
      Joins (baseUrl (s.described sdp)) (findTrack (s.described sdp).mediaStreams)) := by
  rw [sendRtspSetup_eq h]
  exact ⟨rfl, trackUrl_eq_resolve_iff _ _⟩

/-- A session for `rtsp://h:554/a?b`. -/
def queried : RtspToHttpClient :=
  { pool := .new 2048 1024, ctx := { serverIp := ascii "h", serverRtspPort := 554, path := ascii "/a?b" } }

/-- The description of a transport stream with a control attribute. -/
def streamWith (control : String) : Bytes :=
  ascii "m=video 0 RTP/AVP 33\r\n" ++ ascii "a=control:" ++ ascii control

theorem setup_uri_iff_queried :
    (queried.sendRtspSetup {} (streamWith "trackID=1")).lastRequest.uri =
      ascii "rtsp://h:554/a/trackID=1" := by
  have htrack : findTrack (queried.described (streamWith "trackID=1")).mediaStreams =
      ascii "trackID=1" := by decide +kernel
  have hbase : baseUrl (queried.described (streamWith "trackID=1")) = ascii "rtsp://h:554/a" := by
    decide +kernel
  have hsetup := setup_uri_iff {} (streamWith "trackID=1") queried
    (by rw [htrack]; decide)
  rw [htrack, hbase] at hsetup
  refine (hsetup.2.2 ⟨?_, ?_, ?_, ?_, ?_⟩).trans ?_
  all_goals decide +kernel

/-- An absolute URL, and an asterisk. -/
theorem setup_uri_appended :
    (queried.sendRtspSetup {} (streamWith "rtsp://h/b")).lastRequest.uri =
        ascii "rtsp://h:554/a/rtsp://h/b" ∧
      (queried.sendRtspSetup {} (streamWith "*")).lastRequest.uri = ascii "rtsp://h:554/a*" ∧
      ¬∀ cfg sdp (s : RtspToHttpClient), findTrack (s.described sdp).mediaStreams ≠ [] →
        (s.sendRtspSetup cfg sdp).lastRequest.uri =
          resolve (baseUrl (s.described sdp)) (findTrack (s.described sdp).mediaStreams) := by
  refine ⟨by decide +kernel, by decide +kernel, fun h => ?_⟩
  have hsetup := h {} (streamWith "*") queried (by decide +kernel)
  exact absurd hsetup (by decide +kernel)

end RtspToHttpClient

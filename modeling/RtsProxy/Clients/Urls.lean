import RtsProxy.Clients.RtspToHttp.State
import RtsProxy.Clients.RtspToRtsp.State

/-!
# Upstream URLs

Host, port and path of an upstream, and the URL that both kinds of session put together again
from them. A URL is taken apart at the first slash behind its scheme, and in front of that at the
first colon; what is put together has each of them where it is looked for.

* `parseUrl_text`: the URL of an upstream is read as that upstream;
* `exists_of_parseUrl`: every URL that is taken is read as some upstream;
* `parseUrl_rebuilt`: both, for what the sessions send.
-/

open Text

/-- An upstream as a URL names it. -/
structure UpstreamUrl where
  host : Bytes
  port : Nat
  path : Bytes
  slash_not_mem : 47 ∉ host
  colon_not_mem : 58 ∉ host
  port_le : port ≤ 65535
  head_path : path.head? = some 47
  deriving DecidableEq

namespace UpstreamUrl

variable {a tail url : Bytes} {ctx ctx' : RtspCtx}

/-- The URL that is put together for an upstream. -/
def text (u : UpstreamUrl) : Bytes :=
  ascii "rtsp://" ++ u.host ++ ascii ":" ++ decimal u.port ++ u.path

/-- What is stored of an upstream when a URL is read. -/
def store (u : UpstreamUrl) (url : Bytes) (ctx : RtspCtx) : RtspCtx :=
  { ctx with rtspUrl := url, serverIp := u.host, serverRtspPort := u.port, path := u.path }

/-! ## Reading -/

/-- What is made of host and port once they are cut out of a URL. -/
def readAuthority (a path url : Bytes) (ctx : RtspCtx) : Option RtspCtx :=
  if a = [] then none
  else match find (ascii ":") a with
    | none => some { ctx with rtspUrl := url, serverIp := a, serverRtspPort := 554, path := path }
    | some colon =>
      match stoi (a.drop (colon + 1)) with
      | .error _ => none
      | .ok n => some { ctx with
          rtspUrl := url, serverIp := a.take colon, serverRtspPort := toUint16 n, path := path }

theorem parseUrl_eq (h : ascii "rtsp://" <+: url) : RtspParser.parseUrl url ctx =
    readAuthority ((url.drop 7).take ((findFrom (ascii "/") url 7).getD url.length - 7))
      (match findFrom (ascii "/") url 7 with
        | some i => url.drop i
        | none => ascii "/") url ctx :=
  if_pos (List.isPrefixOf_iff_prefix.2 h)

/-- The path behind host and port, if there is none the root. -/
def pathOf (tail : Bytes) : Bytes := if tail = [] then ascii "/" else tail

/-- A URL is cut in front of its path. -/
theorem parseUrl_append (ha : 47 ∉ a) (htail : ∀ c ∈ tail.head?, c = 47) (ctx : RtspCtx) :
    RtspParser.parseUrl (ascii "rtsp://" ++ (a ++ tail)) ctx =
      readAuthority a (pathOf tail) (ascii "rtsp://" ++ (a ++ tail)) ctx := by
  have hdrop : (ascii "rtsp://" ++ (a ++ tail)).drop 7 = a ++ tail := rfl
  have hfrom : findFrom (ascii "/") (ascii "rtsp://" ++ (a ++ tail)) 7 =
      (find (ascii "/") (a ++ tail)).map (· + 7) := by
    rw [findFrom, if_pos (by simp [ascii]), hdrop]
  rw [parseUrl_eq (List.prefix_append _ _), hfrom, hdrop]
  rcases tail with _ | ⟨c, r⟩
  · -- Without a slash the rest of the URL is host and port.
    have hnone : find (ascii "/") (a ++ []) = none := by
      rw [List.append_nil]
      exact find_byte_eq_none ha
    have htake : (a ++ []).take ((ascii "rtsp://" ++ (a ++ [])).length - 7) = a := by
      rw [List.append_nil, List.length_append]
      exact List.take_of_length_le (Nat.le_of_eq (Nat.add_sub_cancel_left 7 a.length).symm)
    rw [hnone, Option.map_none, Option.getD_none, htake]
    rfl
  · obtain rfl : c = 47 := htail c rfl
    have hsome : find (ascii "/") (a ++ 47 :: r) = some a.length := find_byte ha
    have hpath : (ascii "rtsp://" ++ (a ++ 47 :: r)).drop (a.length + 7) = 47 :: r := by
      rw [Nat.add_comm, ← List.drop_drop, hdrop, List.drop_left]
    rw [hsome, Option.map_some, Option.getD_some, Nat.add_sub_cancel, List.take_left]
    dsimp only
    rw [hpath]
    rfl

/-- Every URL of the scheme is cut in this way. -/
theorem exists_append (h : ascii "rtsp://" <+: url) :
    ∃ a tail, 47 ∉ a ∧ (∀ c ∈ tail.head?, c = 47) ∧ url = ascii "rtsp://" ++ (a ++ tail) := by
  obtain ⟨rest, rfl⟩ := h
  refine ⟨rest.takeWhile (· ≠ 47), rest.dropWhile (· ≠ 47), fun hin => ?_, fun c hc => ?_, ?_⟩
  · simpa using List.mem_takeWhile_imp hin
  · have hnot := List.head?_dropWhile_not (fun c : UInt8 => decide (c ≠ 47)) rest
    rw [Option.mem_def.1 hc] at hnot
    simpa using hnot
  · rw [List.takeWhile_append_dropWhile]

theorem head_pathOf (h : ∀ c ∈ tail.head?, c = 47) : (pathOf tail).head? = some 47 := by
  rcases tail with _ | ⟨c, r⟩
  · rfl
  · rw [pathOf, if_neg (List.cons_ne_nil c r), List.head?_cons, h c rfl]

/-! ## Upstreams and URLs -/

/-- The URL of an upstream is read as that upstream. -/
theorem parseUrl_text (u : UpstreamUrl) (ctx : RtspCtx) :
    RtspParser.parseUrl u.text ctx = some (u.store u.text ctx) := by
  have htext : u.text = ascii "rtsp://" ++ ((u.host ++ 58 :: decimal u.port) ++ u.path) := by
    simp only [text, List.append_assoc, List.cons_append]
    rfl
  have hslash : 47 ∉ u.host ++ 58 :: decimal u.port := by
    intro hin
    rcases List.mem_append.1 hin with hin | hin
    · exact u.slash_not_mem hin
    · rcases List.mem_cons.1 hin with heq | hin
      · exact absurd heq (by decide)
      · exact absurd (isDigit_of_mem_decimal hin) (by decide)
  have hhead : ∀ c ∈ u.path.head?, c = 47 := by
    rw [u.head_path]
    exact fun c hc => (Option.some.inj hc).symm
  have hpath : pathOf u.path = u.path := by
    refine if_neg fun hnil => ?_
    have hhead := u.head_path
    rw [hnil] at hhead
    cases hhead
  have hport : stoi (decimal u.port) = .ok (u.port : Int) := by
    rw [stoi_of_digits (decimal_ne_nil _) fun c => isDigit_of_mem_decimal, natOfDigits_decimal,
      if_pos (Nat.lt_of_le_of_lt u.port_le (by decide))]
  have hstored : toUint16 (u.port : Int) = u.port := by
    have hle := u.port_le
    rw [toUint16]
    omega
  have hcolon : find (ascii ":") (u.host ++ 58 :: decimal u.port) = some u.host.length :=
    find_byte u.colon_not_mem
  have hdrop : (u.host ++ 58 :: decimal u.port).drop (u.host.length + 1) = decimal u.port := by
    rw [← List.drop_drop, List.drop_left]
    rfl
  rw [htext, parseUrl_append hslash hhead, readAuthority, hpath, if_neg (by simp), hcolon]
  dsimp only
  rw [hdrop, hport, List.take_left]
  dsimp only
  rw [hstored]
  rfl

/-- Every URL that is taken is read as some upstream. -/
theorem exists_of_parseUrl (h : RtspParser.parseUrl url ctx = some ctx') :
    ∃ u : UpstreamUrl, ctx' = u.store url ctx := by
  by_cases hpre : ascii "rtsp://" <+: url
  swap
  · rw [RtspParser.parseUrl, if_neg (mt List.isPrefixOf_iff_prefix.1 hpre)] at h
    cases h
  obtain ⟨a, tail, ha, htail, rfl⟩ := exists_append hpre
  rw [parseUrl_append ha htail, readAuthority] at h
  split at h
  · cases h
  rcases hcolon : find (ascii ":") a with _ | colon
  · rw [hcolon] at h
    obtain rfl := Option.some.inj h
    have hfree : 58 ∉ a := fun hin =>
      find_eq_none_iff.1 hcolon ((List.singleton_infix_iff 58 a).2 hin)
    exact ⟨⟨a, 554, pathOf tail, ha, hfree, by decide, head_pathOf htail⟩, rfl⟩
  · rw [hcolon] at h
    dsimp only at h
    split at h
    · cases h
    next n _ =>
      obtain rfl := Option.some.inj h
      refine ⟨⟨a.take colon, toUint16 n, pathOf tail, fun hin => ha (List.mem_of_mem_take hin),
        fun hin => ?_, ?_, head_pathOf htail⟩, rfl⟩
      · -- A colon in front of the one found would have been found.
        obtain ⟨j, hj, hget⟩ := List.getElem_of_mem hin
        rw [List.length_take] at hj
        refine (find_eq_some_iff.1 hcolon).2.2 j (by omega) ?_
        rw [List.getElem_take] at hget
        rw [List.drop_eq_getElem_cons (by omega), hget]
        exact List.prefix_append [58] _
      · rw [toUint16]
        omega

/-- The URL that the sessions put together from a URL they have taken is read as the same host,
    port and path; so is that of any host without a slash or a colon, any port and any path from
    a slash on. -/
theorem parseUrl_rebuilt :
    (∀ url ctx ctx', RtspParser.parseUrl url ctx = some ctx' → ∀ ctx₀,
      RtspParser.parseUrl (RtspToHttpClient.upstreamUrl ctx') ctx₀ = some { ctx₀ with
        rtspUrl := RtspToHttpClient.upstreamUrl ctx', serverIp := ctx'.serverIp
        serverRtspPort := ctx'.serverRtspPort, path := ctx'.path }) ∧
    (∀ cfg cal req config, RtspToRtspClient.resolveUpstream cfg cal req = .ok (some config) →
      ∀ ctx₀, RtspParser.parseUrl (config.upstreamUriBase ++ config.ctx.path) ctx₀ = some { ctx₀ with
        rtspUrl := config.upstreamUriBase ++ config.ctx.path, serverIp := config.ctx.serverIp
        serverRtspPort := config.ctx.serverRtspPort, path := config.ctx.path }) ∧
    ∀ (host : Bytes) (port : Nat) (path : Bytes), 47 ∉ host → 58 ∉ host → port ≤ 65535 →
      path.head? = some 47 → ∀ ctx₀,
        RtspParser.parseUrl (ascii "rtsp://" ++ host ++ ascii ":" ++ decimal port ++ path) ctx₀ =
          some { ctx₀ with
            rtspUrl := ascii "rtsp://" ++ host ++ ascii ":" ++ decimal port ++ path
            serverIp := host, serverRtspPort := port, path := path } := by
  refine ⟨fun url ctx ctx' h ctx₀ => ?_, fun cfg cal req config h ctx₀ => ?_,
    fun host port path hslash hcolon hport hpath ctx₀ =>
      parseUrl_text ⟨host, port, path, hslash, hcolon, hport, hpath⟩ ctx₀⟩
  · obtain ⟨u, rfl⟩ := exists_of_parseUrl h
    exact parseUrl_text u ctx₀
  · obtain ⟨info, -, h⟩ := Except.bind_eq_ok_iff.1 h
    split at h
    case isTrue => cases h
    case isFalse =>
      obtain ⟨ctx, hctx, rfl⟩ := Option.map_eq_some_iff.1 (Except.ok.inj h)
      obtain ⟨u, rfl⟩ := exists_of_parseUrl hctx
      exact parseUrl_text u ctx₀

/-- A URL with an odd text of a port, and a `?` in front of its first slash. -/
theorem parseUrl_rebuilt_odd :
    let ctx : RtspCtx := {
      rtspUrl := ascii "rtsp://h: +8x?y/z", serverIp := ascii "h", serverRtspPort := 8
      path := ascii "/z" }
    RtspParser.parseUrl (ascii "rtsp://h: +8x?y/z") {} = some ctx ∧
      RtspParser.parseUrl (ascii "rtsp://h:8/z") {} =
        some { ctx with rtspUrl := ascii "rtsp://h:8/z" } := by
  intro ctx
  have hread : RtspParser.parseUrl (ascii "rtsp://h: +8x?y/z") {} = some ctx := by decide +kernel
  have htext : RtspToHttpClient.upstreamUrl ctx = ascii "rtsp://h:8/z" := by decide +kernel
  exact ⟨hread, htext ▸ parseUrl_rebuilt.1 _ _ _ hread {}⟩

end UpstreamUrl

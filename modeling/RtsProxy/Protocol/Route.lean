import RtsProxy.Protocol.Target

/-!
# Routes

The first segment of a request path is the route, `rtp` or `tv`, and what stands behind it
is the upstream URL without its scheme. The code looks for the route all over the URI.

* `find_requestUri`: where a route is found in the URI of a request;
* `upstreamUrl_of_rtp`, `rewritePath_tv`: what becomes of the place that is found;
* `upstreamUrl_iff`: exactly when the upstream URL is the one that was meant.
-/

open Text Ecma

/-- The route of a request. -/
inductive Route
  | rtp
  | tv
  deriving DecidableEq, Repr

namespace Route

open RequestParser UrlRewriter Target

/-- The name of a route. -/
def name : Route → Bytes
  | rtp => ascii "rtp"
  | tv => ascii "tv"

/-- The segment of a route, with the slashes around it. -/
def segment (route : Route) : Bytes := 47 :: route.name ++ [47]

/-- What stands in front of the path: a scheme and an authority, or nothing. -/
def origin : Option Bytes → Bytes
  | none => []
  | some authority => ascii "rtsp://" ++ authority

/-- The URI of a request for an upstream URL. -/
def requestUri (authority : Option Bytes) (route : Route) (upstream : Bytes) : Bytes :=
  origin authority ++ route.segment ++ upstream

/-- A template's pattern is a regular expression. -/
def Compiles (t : Template) : Prop :=
  ((Regex.compile (simplifyToRegex t.pattern)).toOption).isSome

instance (t : Template) : Decidable (Compiles t) := inferInstanceAs (Decidable (_ = true))

/-- No template is applicable to a URI: none matches in it, or in an end of it. -/
def NoTemplate (cfg : ServerConfig) (uri : Bytes) : Prop :=
  ∀ t ∈ cfg.replaceTemplates, ∀ rgx, Regex.compile (simplifyToRegex t.pattern) = .ok rgx →
    ∀ path, path <:+ uri → rgx.search path = none

theorem noTemplate_iff {cfg : ServerConfig} {uri : Bytes} :
    NoTemplate cfg uri ↔ ∀ t ∈ cfg.replaceTemplates, ∀ path ∈ uri.tails,
      ((Regex.compile (simplifyToRegex t.pattern)).toOption.bind (·.search path)) = none := by
  refine forall_congr' fun t => forall_congr' fun _ => ?_
  rcases Regex.compile (simplifyToRegex t.pattern) with e | rgx
  · exact ⟨fun _ _ _ => rfl, fun _ => nofun⟩
  · constructor
    · exact fun h path hpath => h rgx rfl path ((List.mem_tails _ _).1 hpath)
    · rintro h _ ⟨⟩ path hpath
      exact h path ((List.mem_tails _ _).2 hpath)

instance (cfg : ServerConfig) (uri : Bytes) : Decidable (NoTemplate cfg uri) :=
  decidable_of_iff' _ noTemplate_iff

/-- The first place where a route is found is that of the route that was meant: the
    authority does not have the name of a route, and nothing behind `/tv/` looks like
    `/rtp/`. And where the templates are asked, each of them can be. -/
def Straight (cfg : ServerConfig) (authority : Option Bytes) (upstream : Bytes) : Route → Prop
  | rtp => authority ≠ some (ascii "rtp")
  | tv => authority ≠ some (ascii "rtp") ∧ authority ≠ some (ascii "tv") ∧
      ¬ascii "/rtp/" <:+: 47 :: upstream ∧
      (63 ∈ upstream → ∀ t ∈ cfg.replaceTemplates, Compiles t)

instance (cfg : ServerConfig) (authority : Option Bytes) (upstream : Bytes) (route : Route) :
    Decidable (Straight cfg authority upstream route) := by
  rcases route with _ | _ <;> unfold Straight <;> infer_instance

/-! ## Where a route is found -/

variable {c : UInt8} {p s x a w u path : Bytes} {route r : Route}

/-- A name between two slashes, looked for from a slash on. -/
theorem find_slash :
    find (47 :: p) (47 :: s) = if p <+: s then some 0 else (find (47 :: p) s).map (· + 1) := by
  rw [find]
  refine if_congr ?_ rfl rfl
  rw [List.isPrefixOf_iff_prefix, List.cons_prefix_cons, and_iff_right rfl]

/-- A segment has a name when the name stands up to the next slash. -/
theorem prefix_segment_iff (hw : 47 ∉ w) (hx : 47 ∉ x) : w ++ [47] <+: x ++ 47 :: s ↔ x = w := by
  constructor
  · intro h
    have hpre : w <+: x ++ 47 :: s := (List.prefix_append w [47]).trans h
    rcases List.prefix_or_prefix_of_prefix hpre (List.prefix_append x (47 :: s)) with
      ⟨y, rfl⟩ | ⟨y, rfl⟩
    · -- The name is a part of the segment: behind it stands the slash.
      rcases y with _ | ⟨d, y⟩
      · exact List.append_nil w
      · rw [List.append_assoc, List.prefix_append_right_inj, List.cons_append,
          List.cons_prefix_cons] at h
        exact absurd (List.mem_append_right w (h.1 ▸ List.mem_cons_self)) hx
    · rcases y with _ | ⟨d, y⟩
      · exact (List.append_nil x).symm
      · rw [List.prefix_append_right_inj, List.cons_prefix_cons] at hpre
        exact absurd (List.mem_append_right x (hpre.1 ▸ List.mem_cons_self)) hw
  · rintro rfl
    exact (List.prefix_append_right_inj x).2 ⟨s, rfl⟩

theorem not_mem_name (route : Route) : 47 ∉ route.name := by
  rcases route with _ | _ <;> decide

theorem segment_append (route : Route) (u : Bytes) :
    route.segment ++ u = 47 :: (route.name ++ 47 :: u) := by
  rw [segment, List.append_assoc]
  rfl

/-- From the path on, a route is found at once when it is the route of the path, or else
    where its segment occurs behind it. -/
theorem find_path :
    find r.segment (route.segment ++ u) =
      if route = r then some 0
      else (find r.segment (47 :: u)).map (· + (1 + route.name.length)) := by
  have hname : ∀ route : Route, route = r ↔ route.name = r.name := by
    intro route
    rcases route with _ | _ <;> rcases r with _ | _ <;> decide
  rw [segment_append, segment, List.cons_append, find_slash]
  refine if_congr ?_ rfl ?_
  · rw [prefix_segment_iff (not_mem_name r) (not_mem_name route), hname]
  · rw [find_append_of_not_mem (not_mem_name route), Option.map_map]
    refine congrArg (fun g => Option.map g _) (funext fun i => ?_)
    exact (Nat.add_assoc i route.name.length 1).trans (congrArg (i + ·) (Nat.add_comm _ _))

/-- Behind an authority, a route is found in the place of the authority when that has its
    name, or else in the path. -/
theorem find_origin (ha : 47 ∉ a) (hs : s.head? = some 47) :
    find r.segment (origin (some a) ++ s) =
      if a = r.name then some 6 else (find r.segment s).map (· + (7 + a.length)) := by
  obtain ⟨s, rfl⟩ : ∃ t, s = 47 :: t := by
    rcases s with _ | ⟨d, t⟩
    · cases hs
    · exact ⟨t, congrArg (· :: t) (Option.some.inj hs)⟩
  have hscheme : origin (some a) ++ 47 :: s = ascii "rtsp:" ++ 47 :: 47 :: (a ++ 47 :: s) := by
    rw [origin, List.append_assoc]
    rfl
  have hfirst : ¬r.name ++ [47] <+: 47 :: (a ++ 47 :: s) := by
    rcases r with _ | _ <;> exact fun h => absurd (List.cons_prefix_cons.1 h).1 (by decide)
  rw [hscheme, segment, List.cons_append, find_append_of_not_mem (by decide), find_slash,
    if_neg hfirst, find_slash, find_append_of_not_mem ha, Option.map_map]
  by_cases h : a = r.name
  · rw [if_pos ((prefix_segment_iff (not_mem_name r) ha).2 h), if_pos h]
    rfl
  · rw [if_neg fun hpre => h ((prefix_segment_iff (not_mem_name r) ha).1 hpre), if_neg h]
    rw [Option.map_map, Option.map_map]
    refine congrArg (fun g => Option.map g _) (funext fun i => ?_)
    simp only [Function.comp_apply, show (ascii "rtsp:").length = 5 from rfl]
    omega

variable {authority : Option Bytes}

/-- Where a route is found: in place of an authority of its name, or else at the path when
    it is the route of the path, or else behind that. -/
theorem find_requestUri (hauth : ∀ a ∈ authority, 47 ∉ a) :
    find r.segment (requestUri authority route u) =
      if authority = some r.name then some 6
      else if route = r then some (origin authority).length
      else (find r.segment (47 :: u)).map
        (· + ((origin authority).length + (1 + route.name.length))) := by
  rcases authority with _ | a
  · have hnone : ¬(none : Option Bytes) = some r.name := nofun
    rw [if_neg hnone]
    refine find_path.trans (if_congr Iff.rfl rfl ?_)
    exact congrArg (fun g => Option.map g _) (funext fun i => by rw [origin]; simp)
  · have hlen : (origin (some a)).length = 7 + a.length := by
      rw [origin, List.length_append]
      rfl
    have hhead : (route.segment ++ u).head? = some 47 := by
      rw [segment_append]
      rfl
    rw [requestUri, List.append_assoc, find_origin (hauth a rfl) hhead, find_path]
    refine if_congr ⟨fun h => congrArg some h, fun h => Option.some.inj h⟩ rfl ?_
    rw [hlen]
    split
    · simp
    · rw [Option.map_map]
      refine congrArg (fun g => Option.map g _) (funext fun i => ?_)
      simp only [Function.comp_apply]
      omega

/-! ## Templates that match nothing -/

variable {cfg : ServerConfig} {cal : Calendar} {url : Bytes} {t : Template} {ts : List Template}

/-- Where nothing matches, nothing is replaced. -/
theorem replace_of_search_none {rgx : Regex} (h : rgx.search url = none) (fmt : Bytes) :
    rgx.replace fmt url = url := by
  have hfrom : rgx.searchFrom (Regex.Cursor.start url).idx (Regex.Cursor.start url).prev
      (Regex.Cursor.start url).rest = none := Option.map_eq_none_iff.1 h
  have hall : rgx.allMatches url = [] := by
    rw [Regex.allMatches, Regex.matchesAfter, hfrom]
  rw [Regex.replace, hall]
  rfl

/-- A template that matches nothing leaves the path. -/
theorem applyTemplate_of_none {rgx : Regex}
    (hc : Regex.compile (simplifyToRegex t.pattern) = .ok rgx) (h : rgx.search url = none) :
    applyTemplate cal t url = .ok url := by
  rw [applyTemplate, hc]
  rcases t.action with _ | replacement | hours | _
  · exact congrArg Except.ok (replace_of_search_none h _)
  · exact congrArg Except.ok (replace_of_search_none h _)
  · dsimp only [bind, Except.bind]
    rw [h]
    rfl
  · rfl

theorem applyTemplate_of_error {e : Exn}
    (hc : Regex.compile (simplifyToRegex t.pattern) = .error e) :
    applyTemplate cal t url = .error e := by
  rw [applyTemplate, hc]
  rfl

/-- Templates that match nothing leave the path, if each has a pattern that compiles. -/
theorem foldlM_of_compiles (hall : ∀ t ∈ ts, Compiles t)
    (hno : ∀ t ∈ ts, ∀ rgx, Regex.compile (simplifyToRegex t.pattern) = .ok rgx →
      rgx.search url = none) :
    ts.foldlM (fun u t => applyTemplate cal t u) url = .ok url := by
  induction ts with
  | nil => rfl
  | cons t ts ih =>
    have ht := hall t List.mem_cons_self
    rcases hc : Regex.compile (simplifyToRegex t.pattern) with e | rgx
    · rw [Compiles, hc] at ht
      cases ht
    · rw [List.foldlM_cons, applyTemplate_of_none hc (hno t List.mem_cons_self rgx hc)]
      exact ih (fun t h => hall t (List.mem_cons_of_mem _ h))
        fun t h => hno t (List.mem_cons_of_mem _ h)

/-- They fail at the first one whose pattern does not compile. -/
theorem foldlM_of_not_compiles (hnot : ¬∀ t ∈ ts, Compiles t)
    (hno : ∀ t ∈ ts, ∀ rgx, Regex.compile (simplifyToRegex t.pattern) = .ok rgx →
      rgx.search url = none) :
    ∃ e, ts.foldlM (fun u t => applyTemplate cal t u) url = .error e := by
  induction ts with
  | nil => exact absurd (fun t ht => absurd ht List.not_mem_nil) hnot
  | cons t ts ih =>
    rw [List.foldlM_cons]
    rcases hc : Regex.compile (simplifyToRegex t.pattern) with e | rgx
    · rw [applyTemplate_of_error hc]
      exact ⟨e, rfl⟩
    · have ht : Compiles t := by
        rw [Compiles, hc]
        rfl
      rw [applyTemplate_of_none hc (hno t List.mem_cons_self rgx hc)]
      refine ih (fun hall => hnot ?_) fun t h => hno t (List.mem_cons_of_mem _ h)
      intro t' ht'
      rcases List.mem_cons.1 ht' with rfl | h
      · exact ht
      · exact hall t' h

theorem applyTemplates_of_none
    (hno : ∀ t ∈ ts, ∀ rgx, Regex.compile (simplifyToRegex t.pattern) = .ok rgx →
      rgx.search url = none) {url' : Bytes} :
    applyTemplates cal ts url = .ok (some url') ↔ url' = url ∧ ∀ t ∈ ts, Compiles t := by
  by_cases hall : ∀ t ∈ ts, Compiles t
  · rw [applyTemplates, foldlM_of_compiles hall hno, and_iff_left hall]
    exact ⟨fun h => (Option.some.inj (Except.ok.inj h)).symm, fun h => by rw [h]⟩
  · obtain ⟨e, he⟩ := @foldlM_of_not_compiles cal url ts hall hno
    rw [applyTemplates, he, iff_false_right fun h => hall h.2]
    rcases e with _ | _ | _ <;> nofun

/-! ## The path behind `/tv/` -/

/-- What is left of a path in the end: the URL, if there is any. -/
def finish (processed : Option Bytes) : Option Bytes :=
  processed.bind fun p => if p.length ≤ 4 then none else some (ascii "rtsp://" ++ p.drop 4)

theorem finish_tv (hu : u ≠ []) :
    finish (some (ascii "/tv/" ++ u)) = some (ascii "rtsp://" ++ u) := by
  have hlen : ¬(ascii "/tv/" ++ u).length ≤ 4 := by
    have hpos : 0 < u.length := List.length_pos_iff.2 hu
    simp only [List.length_append, show (ascii "/tv/").length = 4 from rfl]
    omega
  exact if_neg hlen

theorem rewritePath_tv_eq (u : Bytes) :
    rewritePath cfg cal (ascii "/tv/" ++ u) =
      (if 63 ∈ u then applyTemplates cal cfg.replaceTemplates (ascii "/tv/" ++ u)
        else .ok (some (ascii "/tv/" ++ u))).map finish := by
  have htv : (ascii "/tv/").isPrefixOf (ascii "/tv/" ++ u) = true := rfl
  have hmark : contains (ascii "?") (ascii "/tv/" ++ u) = true ↔ 63 ∈ u := by
    rw [contains_iff, show ascii "?" = [63] from rfl, List.singleton_infix_iff, List.mem_append]
    exact or_iff_right (by decide)
  unfold rewritePath
  rw [htv]
  by_cases hm : 63 ∈ u
  · rw [hmark.2 hm, if_pos hm]
    dsimp only
    rcases applyTemplates cal cfg.replaceTemplates (ascii "/tv/" ++ u) with e | p <;> rfl
  · rw [Bool.eq_false_iff.2 (mt hmark.1 hm), if_neg hm]
    rfl

/-- Behind `/tv/`, the rest of the path is the URL when nothing matches and, if the
    templates are asked, each of them can be. -/
theorem rewritePath_tv (hu : u ≠ []) (hno : ∀ t ∈ cfg.replaceTemplates, ∀ rgx,
      Regex.compile (simplifyToRegex t.pattern) = .ok rgx →
      rgx.search (ascii "/tv/" ++ u) = none) {w : Bytes} :
    rewritePath cfg cal (ascii "/tv/" ++ u) = .ok (some (ascii "rtsp://" ++ w)) ↔
      w = u ∧ (63 ∈ u → ∀ t ∈ cfg.replaceTemplates, Compiles t) := by
  have hdone : (.ok (finish (some (ascii "/tv/" ++ u))) : Except Exn (Option Bytes)) =
      .ok (some (ascii "rtsp://" ++ w)) ↔ w = u := by
    rw [finish_tv hu]
    constructor
    · intro h
      exact (List.append_cancel_left (Option.some.inj (Except.ok.inj h))).symm
    · rintro rfl
      rfl
  rw [rewritePath_tv_eq]
  by_cases hm : 63 ∈ u
  · rw [if_pos hm, imp_iff_right hm]
    by_cases hall : ∀ t ∈ cfg.replaceTemplates, Compiles t
    · rw [(applyTemplates_of_none hno).2 ⟨rfl, hall⟩, and_iff_left hall]
      exact hdone
    · rw [iff_false_right fun h => hall h.2]
      rcases hres : applyTemplates cal cfg.replaceTemplates (ascii "/tv/" ++ u) with e | _ | url'
      · nofun
      · nofun
      · exact absurd ((applyTemplates_of_none hno).1 hres).2 hall
  · rw [if_neg hm, and_iff_left fun h => absurd h hm]
    exact hdone

/-! ## The upstream URL -/

variable {uri : Bytes} {i : Nat}

/-- From where a pattern is found, the text is the pattern and what is left. -/
theorem exists_drop_of_find {pat : Bytes} (h : find pat uri = some i) :
    ∃ rest, uri.drop i = pat ++ rest ∧ rest <:+ uri ∧
      uri.length = i + pat.length + rest.length := by
  obtain ⟨hle, ⟨rest, hrest⟩, -⟩ := find_eq_some_iff.1 h
  refine ⟨rest, hrest.symm, (List.suffix_append pat rest).trans (hrest ▸ List.drop_suffix i uri), ?_⟩
  have hlen := congrArg List.length hrest
  rw [List.length_append, List.length_drop] at hlen
  omega

/-- Two ends of a text are the same when they are of one length. -/
theorem suffix_eq_iff {s t : Bytes} (hs : s <:+ uri) (ht : t <:+ uri) :
    s = t ↔ s.length = t.length := by
  constructor
  · exact fun h => congrArg List.length h
  · exact fun h => (List.suffix_of_suffix_length_le hs ht h.le).eq_of_length h

/-- When `/rtp/` is found, the URL is what stands behind it. -/
theorem upstreamUrl_of_rtp (h : find (ascii "/rtp/") uri = some i) (hu : u ≠ [])
    (hend : u <:+ uri) :
    upstreamUrl cfg cal uri = .ok (ascii "rtsp://" ++ u) ↔ i + 5 + u.length = uri.length := by
  obtain ⟨rest, hdrop, hsuf, hlen⟩ := exists_drop_of_find h
  rw [upstreamUrl, pathStart, h, Option.some_or]
  dsimp only
  rw [hdrop, hlen, show (ascii "/rtp/").length = 5 from rfl, Nat.add_left_cancel_iff,
    ← suffix_eq_iff hend hsuf]
  rcases rest with _ | ⟨c, rest⟩
  · exact ⟨nofun, fun hnil => absurd hnil hu⟩
  · rw [rewritePath_rtp cfg cal (List.cons_ne_nil c rest)]
    constructor
    · exact fun heq => (List.append_cancel_left (Except.ok.inj heq)).symm
    · rintro rfl
      rfl

/-- When only `/tv/` is found, it is what stands behind that, if the templates let it
    be. -/
theorem upstreamUrl_of_tv (hrtp : find (ascii "/rtp/") uri = none)
    (h : find (ascii "/tv/") uri = some i) (hu : u ≠ []) (hend : u <:+ uri)
    (hbehind : i + 4 + u.length ≤ uri.length) (hno : NoTemplate cfg uri) :
    upstreamUrl cfg cal uri = .ok (ascii "rtsp://" ++ u) ↔
      i + 4 + u.length = uri.length ∧
        (63 ∈ u → ∀ t ∈ cfg.replaceTemplates, Compiles t) := by
  obtain ⟨rest, hdrop, hsuf, hlen⟩ := exists_drop_of_find h
  have hfour : (ascii "/tv/").length = 4 := rfl
  have hrest : rest ≠ [] := by
    rintro rfl
    have hpos := List.length_pos_iff.2 hu
    rw [hfour, List.length_nil] at hlen
    omega
  have hpath : ascii "/tv/" ++ rest <:+ uri := hdrop ▸ List.drop_suffix i uri
  have hread := @rewritePath_tv rest cfg cal hrest (fun t ht rgx hc => hno t ht rgx hc _ hpath) u
  rw [upstreamUrl, pathStart, hrtp, h, Option.none_or]
  dsimp only
  rw [hdrop, hlen, hfour, Nat.add_left_cancel_iff, ← suffix_eq_iff hend hsuf]
  constructor
  · intro heq
    rcases hres : rewritePath cfg cal (ascii "/tv/" ++ rest) with e | _ | url
    · rw [hres] at heq
      cases heq
    · rw [hres] at heq
      exact absurd (Except.ok.inj heq) nofun
    · rw [hres] at heq
      obtain rfl : url = ascii "rtsp://" ++ u := Except.ok.inj heq
      obtain ⟨rfl, hall⟩ := hread.1 hres
      exact ⟨rfl, hall⟩
  · rintro ⟨rfl, hall⟩
    rw [hread.2 ⟨rfl, hall⟩]
    rfl

/-- The upstream URL is what stands behind the route exactly when the way to the route is
    straight. -/
theorem upstreamUrl_iff (hauth : ∀ a ∈ authority, 47 ∉ a) (hu : u ≠ [])
    (hno : NoTemplate cfg (requestUri authority route u)) :
    upstreamUrl cfg cal (requestUri authority route u) = .ok (ascii "rtsp://" ++ u) ↔
      Straight cfg authority u route := by
  have hend : u <:+ requestUri authority route u := List.suffix_append _ _
  have hlen : (requestUri authority route u).length =
      (origin authority).length + route.segment.length + u.length := by
    rw [requestUri, List.length_append, List.length_append]
  have hrtp := @find_requestUri u route rtp authority hauth
  have htv := @find_requestUri u route tv authority hauth
  by_cases hname : authority = some (ascii "rtp")
  · -- The authority is taken for the route.
    have hnot : ¬Straight cfg authority u route := by
      rcases route with _ | _
      · exact fun h => h hname
      · exact fun h => h.1 hname
    rw [if_pos (show authority = some rtp.name from hname)] at hrtp
    rw [upstreamUrl_of_rtp hrtp hu hend, iff_false_right hnot, hlen, hname]
    rcases route with _ | _
    · exact fun h => absurd h (by simp [origin, segment, name, ascii])
    · exact fun h => absurd h (by simp [origin, segment, name, ascii])
  rw [if_neg (show ¬authority = some rtp.name from hname)] at hrtp
  rcases route with _ | _
  · rw [if_pos rfl] at hrtp
    rw [upstreamUrl_of_rtp hrtp hu hend, hlen]
    exact iff_of_true rfl hname
  rw [if_neg (show ¬Route.tv = Route.rtp from nofun)] at hrtp
  by_cases hin : ascii "/rtp/" <:+: 47 :: u
  · -- Something behind the route looks like `/rtp/`, and is found first.
    obtain ⟨j, hj⟩ : ∃ j, find rtp.segment (47 :: u) = some j :=
      Option.ne_none_iff_exists'.1 fun hnone => find_eq_none_iff.1 hnone hin
    rw [hj, Option.map_some] at hrtp
    rw [upstreamUrl_of_rtp hrtp hu hend, hlen, iff_false_right fun h => h.2.2.1 hin]
    simp [segment, name, ascii]
    omega
  rw [show find rtp.segment (47 :: u) = none from find_eq_none_iff.2 hin, Option.map_none] at hrtp
  by_cases hname' : authority = some (ascii "tv")
  · rw [if_pos (show authority = some tv.name from hname')] at htv
    have hbehind : 6 + 4 + u.length ≤ (requestUri authority tv u).length := by
      rw [hlen, hname']
      simp [origin, segment, name, ascii]
    rw [upstreamUrl_of_tv hrtp htv hu hend hbehind hno, hlen, hname',
      iff_false_right fun h => h.2.1 rfl]
    simp [origin, segment, name, ascii]
  · rw [if_neg (show ¬authority = some tv.name from hname'), if_pos rfl] at htv
    have hbehind : (origin authority).length + 4 + u.length =
        (requestUri authority tv u).length := hlen.symm
    rw [upstreamUrl_of_tv hrtp htv hu hend hbehind.le hno, and_iff_right hbehind]
    exact ⟨fun h => ⟨hname, hname', hin, h⟩, fun h => h.2.2.2⟩

/-! ## Requests -/

variable {request method version : Bytes} {more : List Bytes}

/-- A request for an upstream URL without tokens gets that URL exactly when the way to the
    route is straight. -/
theorem upstream_of_parse_iff (hauth : ∀ a ∈ authority, 47 ∉ a ∧ 63 ∉ a) (hu : u ≠ [])
    (htok : ∀ p ∈ (read u).params, ¬IsToken p)
    (hno : NoTemplate cfg (requestUri authority route u))
    (hline : words request = method :: requestUri authority route u :: version :: more) :
    (∃ info, parse cfg cal request = .ok info ∧ info.upstreamUrl = ascii "rtsp://" ++ u) ↔
      Straight cfg authority u route := by
  have hfront : 63 ∉ origin authority ++ route.segment := by
    rw [List.mem_append, not_or]
    constructor
    · rcases authority with _ | a
      · exact List.not_mem_nil
      · rw [origin, List.mem_append, not_or]
        exact ⟨by decide, (hauth a rfl).2⟩
    · rcases route with _ | _ <;> decide
  have hclean : cleanUri (requestUri authority route u) = requestUri authority route u := by
    refine cleanUri_eq_self fun p hp => htok p ?_
    rwa [requestUri, params_read_append hfront] at hp
  rw [parse_of_words hline, hclean, ← @upstreamUrl_iff u route authority cfg cal
    (fun a ha => (hauth a ha).1) hu hno]
  rcases upstreamUrl cfg cal (requestUri authority route u) with e | url
  · refine ⟨?_, nofun⟩
    rintro ⟨info, h, -⟩
    cases h
  · constructor
    · rintro ⟨info, h, hurl⟩
      cases h
      exact congrArg Except.ok hurl
    · intro h
      exact ⟨_, rfl, Except.ok.inj h⟩

/-- A request for a stream with a query, by way of `/tv/`, where a template removes
    `/.sdp`. -/
theorem upstream_of_parse_request :
    ∃ info, parse { replaceTemplates := [⟨ascii "/.sdp", .remove⟩] } default
        (ascii "DESCRIBE rtsp://p:8554/tv/h:554/a?b=/tv/ RTSP/1.0") = .ok info ∧
      info.upstreamUrl = ascii "rtsp://" ++ ascii "h:554/a?b=/tv/" := by
  have hline : words (ascii "DESCRIBE rtsp://p:8554/tv/h:554/a?b=/tv/ RTSP/1.0") =
      [ascii "DESCRIBE", requestUri (some (ascii "p:8554")) .tv (ascii "h:554/a?b=/tv/"),
        ascii "RTSP/1.0"] := by decide
  exact (upstream_of_parse_iff (by decide) (by decide) (by decide) (by decide +kernel) hline).2
    (by decide +kernel)

/-- A path behind `/tv/` that has a segment `rtp` leads elsewhere: to the host `s`. -/
theorem upstream_of_parse_astray :
    words (ascii "DESCRIBE /tv/h/rtp/s RTSP/1.0") =
        [ascii "DESCRIBE", requestUri none .tv (ascii "h/rtp/s"), ascii "RTSP/1.0"] ∧
      ∃ info, parse {} default (ascii "DESCRIBE /tv/h/rtp/s RTSP/1.0") = .ok info ∧
        info.upstreamUrl = ascii "rtsp://s" ∧
        info.upstreamUrl ≠ ascii "rtsp://" ++ ascii "h/rtp/s" :=
  ⟨by decide, _, rfl, by decide, by decide⟩

end Route

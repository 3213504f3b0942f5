import RtsProxy.Clients.RtspToRtsp.Exceptions
import RtsProxy.Clients.RtspToRtsp.Transport

/-!
# Ports and channels in texts

Four readers take ports and channels out of a text. They read an `int` at the start of a part of
the text and convert it to the type of the field, without looking at what is left of either.

* `stoi_eq_ok_iff`: a complete numeral in range is what is stored;
* `takesUrlPort_iff`, `takesPair_iff`, `takesServerPair_iff`: which texts each of the readers
  takes at face value or refuses.
-/

open Text Ecma Regex

namespace RtspToRtspClient

/-! ## Numerals -/

/-- A complete numeral, of a number up to a limit. -/
def InRange (limit : Nat) (text : Bytes) : Prop := IsNumber text ∧ natOfDigits text ≤ limit

/-- What is stored for a text is the number that it denotes, which is in range. -/
def Denotes (limit : Nat) (text : Bytes) (n : Nat) : Prop :=
  InRange limit text ∧ n = natOfDigits text

/-- A byte that ends a parameter of a transport. -/
def endsParam (c : UInt8) : Bool := c = 59 || c = 44

instance (text : Bytes) : Decidable (IsNumber text) := inferInstanceAs (Decidable (_ ∧ _))

instance (limit : Nat) (text : Bytes) : Decidable (InRange limit text) :=
  inferInstanceAs (Decidable (_ ∧ _))

instance (limit : Nat) (text : Bytes) (n : Nat) : Decidable (Denotes limit text n) :=
  inferInstanceAs (Decidable (_ ∧ _))

variable {limit : Nat} {text : Bytes} {n : Int}

theorem toUint16_natCast (n : Nat) : toUint16 n = n % 65536 := by
  rw [toUint16]
  omega

theorem toNat_toUint8 (n : Nat) : (toUint8 n).toNat = n % 256 := by
  rw [toUint8, Nat.toUInt8_eq, UInt8.toNat_ofNat']
  omega

/-- A complete numeral that is read is the number it denotes. -/
theorem stoi_number (htext : IsNumber text) (h : stoi text = .ok n) : n = natOfDigits text := by
  rw [stoi_of_digits htext.1 htext.2] at h
  split at h
  · exact (Except.ok.inj h).symm
  · cases h

/-- A numeral in range is read. -/
theorem not_throws_stoi (hlimit : limit < intLimit) (h : InRange limit text) :
    ¬(stoi text).Throws := by
  rw [throws_stoi h.1.1 h.1.2]
  have hle := h.2
  omega

/-- What is stored of a number that is read is what its text denotes exactly if that is a complete
    numeral in range. -/
theorem denotes_stored_iff {store : Int → Nat} (hstore : ∀ k : Nat, k ≤ limit → store k = k)
    (h : stoi text = .ok n) : Denotes limit text (store n) ↔ InRange limit text := by
  refine and_iff_left_of_imp fun hin => ?_
  rw [stoi_number hin.1 h]
  exact hstore _ hin.2

theorem toUint16_of_le (k : Nat) (h : k ≤ 65535) : toUint16 k = k := by
  rw [toUint16_natCast, Nat.mod_eq_of_lt (by omega)]

/-! ## The port of a URL -/

/-- Host and port of a URL. -/
def authority (url : Bytes) : Bytes :=
  (url.drop 7).take ((findFrom (ascii "/") url 7).getD url.length - 7)

/-- The text of the port of a URL, behind the colon. -/
def portText (url : Bytes) : Option Bytes :=
  (find (ascii ":") (authority url)).map fun colon => (authority url).drop (colon + 1)

/-- When a URL is taken, its port is the number that the text of the port denotes. -/
def TakesUrlPort (url : Bytes) (ctx : RtspCtx) : Prop :=
  ∀ ctx' ∈ RtspParser.parseUrl url ctx, ∀ text ∈ portText url,
    Denotes 65535 text ctx'.serverRtspPort

/-- The port of a URL that is taken, where there is a text of it. -/
theorem parseUrl_of_portText {url : Bytes} (ctx : RtspCtx) (h : portText url = some text) :
    (ascii "rtsp://" <+: url → (stoi text).Throws → RtspParser.parseUrl url ctx = none) ∧
    ∀ n, stoi text = .ok n → ascii "rtsp://" <+: url →
      ∃ ctx', RtspParser.parseUrl url ctx = some ctx' ∧ ctx'.serverRtspPort = toUint16 n := by
  obtain ⟨colon, hcolon, rfl⟩ := Option.map_eq_some_iff.1 h
  have hne : authority url ≠ [] := by
    intro hnil
    rw [hnil] at hcolon
    cases hcolon
  rw [authority] at hne hcolon
  rw [authority]
  refine ⟨fun hpre hthrows => ?_, fun n hn hpre => ?_⟩
  · obtain ⟨e, he⟩ := hthrows
    rw [RtspParser.parseUrl, if_pos (List.isPrefixOf_iff_prefix.2 hpre), if_neg hne, hcolon]
    dsimp only
    rw [he]
  · rw [RtspParser.parseUrl, if_pos (List.isPrefixOf_iff_prefix.2 hpre), if_neg hne, hcolon]
    dsimp only
    rw [hn]
    exact ⟨_, rfl, rfl⟩

/-- A URL is taken at face value, or refused, exactly if the text of its port is no numeral at
    all, or complete and in range. -/
theorem takesUrlPort_iff (url : Bytes) (ctx : RtspCtx) : TakesUrlPort url ctx ↔
    (ascii "rtsp://" <+: url → ∀ text ∈ portText url, (stoi text).Throws ∨ InRange 65535 text) := by
  by_cases hpre : ascii "rtsp://" <+: url
  swap
  · have hnone : RtspParser.parseUrl url ctx = none := by
      rw [RtspParser.parseUrl, if_neg (mt List.isPrefixOf_iff_prefix.1 hpre)]
    exact iff_of_true (fun ctx' h => absurd (hnone.symm.trans h) nofun) fun h => absurd h hpre
  rw [imp_iff_right hpre, TakesUrlPort]
  rcases htext : portText url with _ | text
  · exact iff_of_true (fun _ _ _ => nofun) fun _ => nofun
  obtain ⟨hrefused, htaken⟩ := parseUrl_of_portText ctx htext
  simp only [Option.mem_some, forall_eq']
  rcases hread : stoi text with e | n
  · have hnone := hrefused hpre ⟨e, hread⟩
    exact iff_of_true (fun ctx' h => absurd (hnone.symm.trans h) nofun) (.inl ⟨e, rfl⟩)
  · obtain ⟨ctx', hctx, hport⟩ := htaken n hread hpre
    rw [or_iff_right (Except.not_throws_ok n), hctx, ← denotes_stored_iff toUint16_of_le hread,
      ← hport]
    simp only [Option.mem_some, forall_eq']

/-! ## The pair of a request -/

/-- When a pair is taken from a transport, its numbers are those that the texts denote, and
    nothing follows them in the parameter. A pair is not refused by an exception. -/
def TakesPair (limit : Nat) (name : String) (transport : Bytes) :
    Except Exn (Option (Nat × Nat)) → Prop
  | .error _ => False
  | .ok none => True
  | .ok (some (a, b)) => ∃ m ∈ (pairGroupsRe name).search transport,
    (∀ c ∈ (transport.drop m.stop).head?, endsParam c = true) ∧
      Denotes limit (m.sub 1) a ∧ Denotes limit (m.sub 2) b

/-- The first pair of a transport is complete and in range. -/
def PairInRange (limit : Nat) (name : String) (transport : Bytes) : Prop :=
  ∀ m ∈ (pairGroupsRe name).search transport,
    (∀ c ∈ (transport.drop m.stop).head?, endsParam c = true) ∧
      InRange limit (m.sub 1) ∧ InRange limit (m.sub 2)

variable {name : String} {store : Int → Nat}

/-- What is taken from a transport in which a pair is found. -/
theorem extractPair_of_search {msg : Bytes} {m : Match}
    (hnil : (pairGroupsRe name).search [] = none)
    (h : (pairGroupsRe name).search (RtspParser.extractHeaderValue msg (ascii "Transport")) = some m) :
    extractPair (pairGroupsRe name) msg = do
      let a ← stoi (m.sub 1)
      let b ← stoi (m.sub 2)
      return some (a, b) := by
  have hne : RtspParser.extractHeaderValue msg (ascii "Transport") ≠ [] := by
    intro hempty
    rw [hempty, hnil] at h
    cases h
  rw [extractPair, if_neg hne, h]

/-- A pair of a request is taken at face value, or refused, exactly if it is complete and in
    range. -/
theorem takesPair_iff (hlimit : limit < intLimit) (hstore : ∀ k : Nat, k ≤ limit → store k = k)
    (hnil : (pairGroupsRe name).search [] = none) (msg : Bytes) :
    TakesPair limit name (RtspParser.extractHeaderValue msg (ascii "Transport"))
        ((extractPair (pairGroupsRe name) msg).map fun r => r.map fun p => (store p.1, store p.2)) ↔
      PairInRange limit name (RtspParser.extractHeaderValue msg (ascii "Transport")) := by
  rcases hfound : (pairGroupsRe name).search
    (RtspParser.extractHeaderValue msg (ascii "Transport")) with _ | m
  · rw [(extractPair_eq_none_iff hnil).2 hfound, PairInRange, hfound]
    exact iff_of_true trivial nofun
  obtain ⟨hfirst, hsecond⟩ := search_pair hfound
  rw [extractPair_of_search hnil hfound, PairInRange, hfound]
  simp only [Option.mem_some, forall_eq']
  rcases ha : stoi (m.sub 1) with e | a
  · exact iff_of_false (fun h => h) fun h => not_throws_stoi hlimit h.2.1 ⟨e, ha⟩
  rcases hb : stoi (m.sub 2) with e | b
  · exact iff_of_false (fun h => h) fun h => not_throws_stoi hlimit h.2.2 ⟨e, hb⟩
  rw [← denotes_stored_iff hstore ha, ← denotes_stored_iff hstore hb]
  constructor
  · rintro ⟨m', hm', h⟩
    obtain rfl := Option.some.inj (hfound.symm.trans hm')
    exact h
  · exact fun h => ⟨m, hfound, h⟩

/-! ## The pair of a reply -/

/-- The two texts of a pair, if its parameter and a dash behind it are found. The second one goes
    on to the end of the transport. -/
def pairText (transport param : Bytes) : Option (Bytes × Bytes) := do
  let pos ← find param transport
  let start := pos + param.length
  let dash ← findFrom (ascii "-") transport start
  return ((transport.drop start).take (dash - start), transport.drop (dash + 1))

/-- The pair of a reply, with its limit: ports, or else channels. -/
def serverPair (resp : Bytes) : Option (Nat × Bytes × Bytes) :=
  (find (ascii "Transport:") resp).bind fun pos =>
    let transport := RtspParser.untilCrlf (resp.drop pos)
    ((pairText transport (ascii "server_port=")).map (65535, ·)).or
      ((pairText transport (ascii "interleaved=")).map (255, ·))

/-- A text up to the end of its parameter. -/
def untilParamEnd (text : Bytes) : Bytes := text.takeWhile fun c => !endsParam c

/-- When the pair of a reply is taken, its numbers are those that the texts denote. -/
def TakesServerPair (resp : Bytes) (ctx : RtspCtx) : Prop :=
  (RtspParser.parseServerPorts resp ctx).1 = true →
    ∃ limit first second, serverPair resp = some (limit, first, second) ∧
      Denotes limit first (RtspParser.parseServerPorts resp ctx).2.serverRtpPort ∧
      Denotes limit (untilParamEnd second) (RtspParser.parseServerPorts resp ctx).2.serverRtcpPort

theorem readPortPair_eq (transport param : Bytes) (ctx : RtspCtx) :
    RtspParser.readPortPair transport param ctx = (pairText transport param).map fun p =>
      match stoi p.1 with
      | .error _ => (false, ctx)
      | .ok rtp =>
        match stoi p.2 with
        | .error _ => (false, { ctx with serverRtpPort := toUint16 rtp })
        | .ok rtcp => (true,
          { ctx with serverRtpPort := toUint16 rtp, serverRtcpPort := toUint16 rtcp }) := by
  rw [RtspParser.readPortPair, pairText]
  rcases find param transport with _ | pos
  · rfl
  rcases hdash : findFrom (ascii "-") transport (pos + param.length) with _ | dash
  · simp only [bind, Option.bind, hdash, Option.map_none]
  · simp only [bind, Option.bind, hdash]
    rfl

/-- What is made of the pair of a reply. -/
theorem parseServerPorts_eq (resp : Bytes) (ctx : RtspCtx) :
    RtspParser.parseServerPorts resp ctx = ((serverPair resp).map fun p =>
      match stoi p.2.1 with
      | .error _ => (false, ctx)
      | .ok rtp =>
        match stoi p.2.2 with
        | .error _ => (false, { ctx with serverRtpPort := toUint16 rtp })
        | .ok rtcp => (true,
          { ctx with serverRtpPort := toUint16 rtp, serverRtcpPort := toUint16 rtcp })).getD
      (false, ctx) := by
  rw [RtspParser.parseServerPorts, serverPair]
  rcases find (ascii "Transport:") resp with _ | pos
  · rfl
  dsimp only [Option.bind_some]
  rw [readPortPair_eq, readPortPair_eq]
  rcases pairText (RtspParser.untilCrlf (resp.drop pos)) (ascii "server_port=") with _ | p
  · rcases pairText (RtspParser.untilCrlf (resp.drop pos)) (ascii "interleaved=") with _ | p <;> rfl
  · rfl

/-- The second text is read up to the end of its parameter. -/
theorem stoi_untilParamEnd : stoi (untilParamEnd text) = stoi text := by
  have hsplit := @List.takeWhile_append_dropWhile _ (fun c => !endsParam c) text
  have hend := List.head?_dropWhile_not (fun c => !endsParam c) text
  rcases hrest : text.dropWhile fun c => !endsParam c with _ | ⟨c, rest⟩
  · rw [hrest, List.append_nil] at hsplit
    rw [untilParamEnd, hsplit]
  · rw [hrest, List.head?_cons] at hend
    have hc : EndsNumeral c := by
      have hcases : c = 59 ∨ c = 44 := or_iff_not_imp_left.2 (by simpa [endsParam] using hend)
      rcases hcases with rfl | rfl <;> decide
    rw [hrest] at hsplit
    nth_rewrite 2 [← hsplit]
    rw [stoi, stoi, readSigned, readSigned, readNumeral_append hc, untilParamEnd]

/-- The pair of a reply is taken at face value, or refused, exactly if one of the texts is no
    numeral at all, or both are complete and in range. -/
theorem takesServerPair_iff (resp : Bytes) (ctx : RtspCtx) : TakesServerPair resp ctx ↔
    ∀ p ∈ serverPair resp, (stoi p.2.1).Throws ∨ (stoi p.2.2).Throws ∨
      InRange p.1 p.2.1 ∧ InRange p.1 (untilParamEnd p.2.2) := by
  rw [TakesServerPair, parseServerPorts_eq]
  rcases hpair : serverPair resp with _ | ⟨limit, first, second⟩
  · exact iff_of_true nofun fun _ => nofun
  have hlimit : limit ≤ 65535 := by
    obtain ⟨pos, -, hor⟩ := Option.bind_eq_some_iff.1 hpair
    rcases Option.or_eq_some_iff.1 hor with hmap | ⟨-, hmap⟩
    all_goals
      obtain ⟨p, -, heq⟩ := Option.map_eq_some_iff.1 hmap
      rw [← (Prod.mk.inj heq).1]
    decide
  have hstore : ∀ k : Nat, k ≤ limit → toUint16 k = k := fun k hk => toUint16_of_le k (hk.trans hlimit)
  simp only [Option.map_some, Option.getD_some, Option.mem_some, forall_eq']
  rcases hfirst : stoi first with e | rtp
  · exact iff_of_true nofun (.inl ⟨e, rfl⟩)
  rcases hsecond : stoi second with e | rtcp
  · exact iff_of_true nofun (.inr (.inl ⟨e, rfl⟩))
  rw [or_iff_right (Except.not_throws_ok rtp), or_iff_right (Except.not_throws_ok rtcp),
    imp_iff_right rfl, ← denotes_stored_iff hstore hfirst,
    ← denotes_stored_iff hstore (stoi_untilParamEnd.trans hsecond)]
  constructor
  · rintro ⟨_, _, _, heq, h⟩
    obtain ⟨⟩ := Option.some.inj heq
    exact h
  · exact fun h => ⟨limit, first, second, rfl, h⟩

/-! ## All readers -/

/-- The four readers take what they take at face value exactly if: the text of a port of a URL is
    no numeral at all, or complete and in range; the first pair of a request is complete and in
    range; and one of the texts of the pair of a reply is no numeral at all, or both are complete
    and in range. -/
theorem numerals_iff (url req resp : Bytes) (ctx : RtspCtx) :
    (TakesUrlPort url ctx ↔ (ascii "rtsp://" <+: url →
      ∀ text ∈ portText url, (stoi text).Throws ∨ InRange 65535 text)) ∧
    (TakesPair 65535 "client_port=" (RtspParser.extractHeaderValue req (ascii "Transport"))
        (extractClientPort req) ↔
      PairInRange 65535 "client_port=" (RtspParser.extractHeaderValue req (ascii "Transport"))) ∧
    (TakesPair 255 "interleaved=" (RtspParser.extractHeaderValue req (ascii "Transport"))
        ((extractInterleavedChannels req).map fun r => r.map fun p => (p.1.toNat, p.2.toNat)) ↔
      PairInRange 255 "interleaved=" (RtspParser.extractHeaderValue req (ascii "Transport"))) ∧
    (TakesServerPair resp ctx ↔
      ∀ p ∈ serverPair resp, (stoi p.2.1).Throws ∨ (stoi p.2.2).Throws ∨
        InRange p.1 p.2.1 ∧ InRange p.1 (untilParamEnd p.2.2)) := by
  refine ⟨takesUrlPort_iff url ctx, ?_, ?_, takesServerPair_iff resp ctx⟩
  · exact takesPair_iff (by decide) toUint16_of_le (by decide +kernel) req
  · have hstore : ∀ k : Nat, k ≤ 255 → (toUint8 k).toNat = k := by
      intro k hk
      rw [toNat_toUint8, Nat.mod_eq_of_lt (by omega)]
    have hpair := @takesPair_iff 255 "interleaved=" (fun n => (toUint8 n).toNat) (by decide) hstore
      (by decide +kernel) req
    rw [← hpair, extractInterleavedChannels, interleavedGroupsRe]
    rcases extractPair (pairGroupsRe "interleaved=") req with e | _ | p <;> exact Iff.rfl

/-- Numbers out of range are taken, with another value. -/
theorem numerals_wrap :
    (¬∀ url ctx, TakesUrlPort url ctx) ∧
    (¬∀ req, TakesPair 65535 "client_port="
      (RtspParser.extractHeaderValue req (ascii "Transport")) (extractClientPort req)) ∧
    (¬∀ req, TakesPair 255 "interleaved=" (RtspParser.extractHeaderValue req (ascii "Transport"))
      ((extractInterleavedChannels req).map fun r => r.map fun p => (p.1.toNat, p.2.toNat))) ∧
    ¬∀ resp ctx, TakesServerPair resp ctx := by
  refine ⟨fun h => ?_, fun h => ?_, fun h => ?_, fun h => ?_⟩
  · obtain ⟨ctx, hctx⟩ : ∃ ctx, RtspParser.parseUrl (ascii "rtsp://h:65537/") {} = some ctx :=
      Option.isSome_iff_exists.1 (by decide +kernel)
    exact absurd (h _ _ ctx hctx (ascii "65537") (by decide +kernel)).1 (by decide +kernel)
  · have htaken : extractClientPort (ascii "Transport:client_port=65537-65538") =
        .ok (some (1, 2)) := by decide +kernel
    have hfound : (pairGroupsRe "client_port=").search (RtspParser.extractHeaderValue
        (ascii "Transport:client_port=65537-65538") (ascii "Transport")) =
        some ⟨0, ascii "client_port=65537-65538", [⟨2, 18, ascii "65538"⟩, ⟨1, 12, ascii "65537"⟩]⟩ := by
      decide +kernel
    have hpair := h (ascii "Transport:client_port=65537-65538")
    rw [htaken] at hpair
    obtain ⟨m, hm, -, hfirst, -⟩ := hpair
    obtain rfl := Option.some.inj (hfound.symm.trans hm)
    exact absurd hfirst (by decide +kernel)
  · have htaken : extractInterleavedChannels (ascii "Transport:interleaved=256-257") =
        .ok (some (0, 1)) := by decide +kernel
    have hfound : (pairGroupsRe "interleaved=").search (RtspParser.extractHeaderValue
        (ascii "Transport:interleaved=256-257") (ascii "Transport")) =
        some ⟨0, ascii "interleaved=256-257", [⟨2, 16, ascii "257"⟩, ⟨1, 12, ascii "256"⟩]⟩ := by
      decide +kernel
    have hpair := h (ascii "Transport:interleaved=256-257")
    rw [htaken] at hpair
    obtain ⟨m, hm, -, hfirst, -⟩ := hpair
    obtain rfl := Option.some.inj (hfound.symm.trans hm)
    exact absurd hfirst (by decide +kernel)
  · have hpair : serverPair (ascii "Transport:server_port=65537-65538") =
        some (65535, ascii "65537", ascii "65538") := by decide +kernel
    obtain ⟨limit, first, second, heq, hfirst, -⟩ :=
      h (ascii "Transport:server_port=65537-65538") {} (by decide +kernel)
    obtain ⟨⟩ := Option.some.inj (hpair.symm.trans heq)
    exact absurd hfirst.1 (by decide +kernel)

end RtspToRtspClient

import RtsProxy.Clients.RtspToRtsp.Blocks
import RtsProxy.Clients.RtspToRtsp.Progress
import RtsProxy.Regex.Scan
import RtsProxy.Regex.Sound

/-!
# Exceptions in the handlers of a relayed session

The event loop does not catch, so an exception in a handler ends the program. Numbers are
recognised by patterns of any number of digits and read by conversions that throw when they are
out of the range of `int`; the host of the upstream is put into a pattern as it is.

* `requestThrows_iff`, `replyThrows_iff`: which requests and which replies make a handler throw;
* `onDownstreamReadable_returns_iff`, `onUpstreamReadable_returns_iff`: a handler returns if
  no such message comes to the front, and every turn consumes something.
-/

open Text Ecma Interleaved

namespace RtspToRtspClient

/-! ## Pairs of numbers -/

section Pairs

open Regex

theorem mem_digitClass (b : UInt8) : (⟨[(48, 57)], false⟩ : ByteClass).mem b = isDigit b := by
  simp [ByteClass.mem, isDigit]

/-- Literal bytes are read, and capture nothing. -/
theorem steps_ofText {text : Bytes} {ts : List Regex} {c c' : Cursor} {caps caps' : Captures}
    (h : Steps (ofTerms (text.map lit ++ ts)) c caps c' caps') :
    ∃ c₁, c.Reads text c₁ ∧ Steps (ofTerms ts) c₁ caps c' caps' := by
  induction text generalizing c with
  | nil => exact ⟨c, ⟨rfl, rfl⟩, h⟩
  | cons b text ih =>
    obtain ⟨c₁, caps₁, ⟨d, rest, hrest, hd, rfl, rfl⟩, hsteps⟩ := h
    obtain ⟨c₂, hreads, hsteps⟩ := ih hsteps
    obtain rfl := mem_lit.1 hd
    have hbyte : c.Reads [d] ⟨c.idx + 1, some d, rest⟩ := ⟨hrest, rfl⟩
    exact ⟨c₂, hbyte.trans hreads, hsteps⟩

/-- A group of digits reads and captures a run of them. -/
theorem steps_number {i : Nat} {c c' : Cursor} {caps caps' : Captures}
    (h : Steps (group i (ofTerms [digits])) c caps c' caps') :
    ∃ ds, c.Reads ds c' ∧ ds ≠ [] ∧ (∀ b ∈ ds, isDigit b = true) ∧
      caps' = ⟨i, c.idx, ds⟩ :: caps := by
  obtain ⟨caps₁, ⟨c₁, caps₂, ⟨n, hrounds⟩, rfl, rfl⟩, rfl⟩ := h
  obtain ⟨text, hreads, hlen, hall, rfl⟩ := goes_one hrounds
  refine ⟨text, hreads, ?_, fun b hb => mem_digitClass b ▸ hall b hb, ?_⟩
  · rintro rfl
    rw [List.length_nil] at hlen
    omega
  · rw [hreads.text]

/-- The two groups of a pair capture runs of digits, and the match is made of them. -/
theorem search_pair_text {name : String} {s : Bytes} {m : Match}
    (h : (pairGroupsRe name).search s = some m) :
    m.text = ascii name ++ (m.sub 1 ++ (ascii "-" ++ m.sub 2)) ∧
      (m.sub 1 ≠ [] ∧ ∀ b ∈ m.sub 1, isDigit b = true) ∧
      m.sub 2 ≠ [] ∧ ∀ b ∈ m.sub 2, isDigit b = true := by
  obtain ⟨c, c', hsteps, htext⟩ := search_sound h
  obtain ⟨c₁, hname, c₂, caps₂, hfirst, hsteps⟩ := steps_ofText hsteps
  obtain ⟨ds₁, hreads₁, hne₁, hall₁, rfl⟩ := steps_number hfirst
  obtain ⟨c₃, hdash, c₄, caps₄, hsecond, rfl, hcaps⟩ :=
    @steps_ofText (ascii "-") [group 2 (ofTerms [digits])] _ _ _ _ hsteps
  obtain ⟨ds₂, hreads₂, hne₂, hall₂, rfl⟩ := steps_number hsecond
  have h₁ : m.sub 1 = ds₁ := by
    rw [Match.sub, hcaps]
    rfl
  have h₂ : m.sub 2 = ds₂ := by
    rw [Match.sub, hcaps]
    rfl
  rw [h₁, h₂, htext, (hname.trans (hreads₁.trans (hdash.trans hreads₂))).text]
  exact ⟨rfl, ⟨hne₁, hall₁⟩, hne₂, hall₂⟩

/-- The two groups of a pair capture runs of digits. -/
theorem search_pair {name : String} {s : Bytes} {m : Match}
    (h : (pairGroupsRe name).search s = some m) :
    (m.sub 1 ≠ [] ∧ ∀ b ∈ m.sub 1, isDigit b = true) ∧
      m.sub 2 ≠ [] ∧ ∀ b ∈ m.sub 2, isDigit b = true :=
  (search_pair_text h).2

/-- One of the numbers of the pair found in a text is out of the range of `int`. -/
def HasBigPair (re : Regex) (text : Bytes) : Prop :=
  ∃ m ∈ re.search text, intLimit ≤ natOfDigits (m.sub 1) ∨ intLimit ≤ natOfDigits (m.sub 2)

/-- Reading a pair throws exactly if one of its numbers is out of range. -/
theorem throws_readPair {name : String} {text : Bytes} {m : Match} {α : Type}
    {f : Int → Int → Except Exn α} (hf : ∀ a b, ∃ r, f a b = .ok r)
    (h : (pairGroupsRe name).search text = some m) :
    (stoi (m.sub 1) >>= fun a => stoi (m.sub 2) >>= fun b => f a b).Throws ↔
      HasBigPair (pairGroupsRe name) text := by
  obtain ⟨⟨hne₁, hall₁⟩, hne₂, hall₂⟩ := search_pair h
  have hbig : HasBigPair (pairGroupsRe name) text ↔
      intLimit ≤ natOfDigits (m.sub 1) ∨ intLimit ≤ natOfDigits (m.sub 2) := by
    simp [HasBigPair, h]
  have hsecond : ∀ a, (stoi (m.sub 2) >>= fun b => f a b).Throws ↔
      intLimit ≤ natOfDigits (m.sub 2) := by
    intro a
    rw [Except.throws_bind, throws_stoi hne₂ hall₂]
    refine or_iff_left ?_
    rintro ⟨b, _, hthrows⟩
    exact Except.not_throws_iff.2 (hf a b) hthrows
  rw [hbig, Except.throws_bind, throws_stoi hne₁ hall₁]
  by_cases hfirst : intLimit ≤ natOfDigits (m.sub 1)
  · exact iff_of_true (.inl hfirst) (.inl hfirst)
  · obtain ⟨a, ha⟩ := Except.not_throws_iff.1 (mt (throws_stoi hne₁ hall₁).1 hfirst)
    refine or_congr_right ⟨?_, fun hbig₂ => ⟨a, ha, (hsecond a).2 hbig₂⟩⟩
    rintro ⟨b, _, hthrows⟩
    exact (hsecond b).1 hthrows

variable {name : String} {msg : Bytes}

/-- The pair of a transport parameter cannot be read exactly if one of its numbers is out of
    range. -/
theorem throws_extractPair (hnil : (pairGroupsRe name).search [] = none) :
    (extractPair (pairGroupsRe name) msg).Throws ↔
      HasBigPair (pairGroupsRe name) (RtspParser.extractHeaderValue msg (ascii "Transport")) := by
  unfold extractPair
  dsimp only
  split
  case isTrue htransport =>
    rw [htransport]
    refine iff_of_false (Except.not_throws_ok _) ?_
    simp [HasBigPair, hnil]
  case isFalse =>
    split
    case h_1 hnone => exact iff_of_false (Except.not_throws_ok _) (by simp [HasBigPair, hnone])
    case h_2 m hm => exact throws_readPair (fun a b => ⟨some (a, b), rfl⟩) hm

/-- There is no pair exactly if none is found. -/
theorem extractPair_eq_none_iff (hnil : (pairGroupsRe name).search [] = none) :
    extractPair (pairGroupsRe name) msg = .ok none ↔
      (pairGroupsRe name).search (RtspParser.extractHeaderValue msg (ascii "Transport")) = none := by
  unfold extractPair
  dsimp only
  split
  case isTrue htransport =>
    rw [htransport]
    exact iff_of_true rfl hnil
  case isFalse =>
    split
    case h_1 hnone => exact iff_of_true rfl hnone
    case h_2 m hm =>
      rw [hm]
      refine iff_of_false (fun h => ?_) (Option.some_ne_none m)
      obtain ⟨a, _, h⟩ := Except.bind_eq_ok_iff.1 h
      obtain ⟨b, _, h⟩ := Except.bind_eq_ok_iff.1 h
      cases h

end Pairs

/-! ## Requests -/

variable {s t : RtspToRtspClient} {cfg : ServerConfig}

/-- The channels that a client asks for are out of the range of `int`, or, when there are none,
    its ports are. -/
def AsksOutOfRange (transport : Bytes) : Prop :=
  HasBigPair interleavedGroupsRe transport ∨
    interleavedGroupsRe.search transport = none ∧ HasBigPair clientPortGroupsRe transport

/-- A `SETUP` that asks for channels or ports out of range. -/
def SetupOutOfRange (req : Bytes) : Prop :=
  (ascii "SETUP ").isPrefixOf req = true ∧
    AsksOutOfRange (RtspParser.extractHeaderValue req (ascii "Transport"))

theorem throws_extractInterleavedChannels (msg : Bytes) :
    (extractInterleavedChannels msg).Throws ↔
      HasBigPair interleavedGroupsRe (RtspParser.extractHeaderValue msg (ascii "Transport")) :=
  Except.throws_map.trans (throws_extractPair (by decide))

theorem extractInterleavedChannels_eq_none_iff (msg : Bytes) :
    extractInterleavedChannels msg = .ok none ↔
      interleavedGroupsRe.search (RtspParser.extractHeaderValue msg (ascii "Transport")) = none := by
  refine Iff.trans ?_ (extractPair_eq_none_iff (by decide))
  rw [extractInterleavedChannels, Except.map_eq_ok_iff]
  constructor
  · rintro ⟨r, hr, hnone⟩
    rw [Option.map_eq_none_iff.1 hnone] at hr
    exact hr
  · intro h
    exact ⟨none, h, rfl⟩

theorem throws_learnClientTransport (req : Bytes) : (s.learnClientTransport req).Throws ↔
    AsksOutOfRange (RtspParser.extractHeaderValue req (ascii "Transport")) := by
  have hports : (extractClientPort req).Throws ↔
      HasBigPair clientPortGroupsRe (RtspParser.extractHeaderValue req (ascii "Transport")) :=
    Except.throws_map.trans (throws_extractPair (by decide))
  rw [learnClientTransport, Except.throws_bind, throws_extractInterleavedChannels, AsksOutOfRange]
  refine or_congr_right ?_
  rw [← extractInterleavedChannels_eq_none_iff, ← hports]
  constructor
  · rintro ⟨channels, hchannels, h⟩
    cases channels with
    | some pair => exact absurd h (Except.not_throws_ok _)
    | none =>
      rcases Except.throws_bind.1 h with h | ⟨ports, _, h⟩
      · exact ⟨hchannels, h⟩
      · cases ports <;> exact absurd h (Except.not_throws_ok _)
  · rintro ⟨hchannels, h⟩
    exact ⟨none, hchannels, Except.throws_bind.2 (.inl h)⟩

/-- The requests that make a handler throw. -/
theorem requestThrows_iff {ports : RelayPorts} {req : Bytes} :
    (s.handleRequest cfg ports req).Throws ↔ SetupOutOfRange req := by
  unfold handleRequest SetupOutOfRange
  split
  case isTrue hsetup =>
    rw [and_iff_right hsetup, ← throws_learnClientTransport (s := s), handleSetup,
      Except.throws_bind]
    refine or_iff_left ?_
    rintro ⟨u, _, h⟩
    generalize (if u.relayReady = true then (true, u) else u.initRelaySockets ports) = p at h
    refine absurd h (Except.not_throws_iff.2 ?_)
    obtain ⟨ready, v⟩ := p
    dsimp only
    cases ready with
    | false => exact ⟨_, rfl⟩
    | true =>
      cases cfg.usesStun with
      | true => exact ⟨_, rfl⟩
      | false => exact ⟨_, rfl⟩
  case isFalse hsetup =>
    exact iff_of_false (Except.not_throws_ok _) fun h => hsetup h.1

/-! ## Replies -/

/-- A `200` that names channels out of range. -/
def ChannelsOutOfRange (resp : Bytes) : Prop :=
  RtspParser.parseStatusCode resp = 200 ∧ contains (ascii "interleaved=") resp = true ∧
    HasBigPair interleavedGroupsRe (RtspParser.extractHeaderValue resp (ascii "Transport"))

/-- What is found for the URL of the upstream is too short for one. -/
def ShortUrl (re : Regex) (value : Bytes) : Prop :=
  value ≠ [] ∧ ∃ m ∈ re.search value, m.text.length < 7

/-- The URLs of a message cannot be rewritten: the pattern with the host of the upstream is none,
    or what it finds in one of the two fields is too short. -/
def UrlsThrow (s : RtspToRtspClient) (msg : Bytes) : Prop :=
  (Regex.compile s.upstreamPattern).Throws ∨
    ∃ re, Regex.compile s.upstreamPattern = .ok re ∧
      (ShortUrl re (RtspParser.extractHeaderValue msg (ascii "Content-Base")) ∨
        ∃ based, s.patchUriHeader re msg (ascii "Content-Base") = .ok based ∧
          ShortUrl re (RtspParser.extractHeaderValue based (ascii "RTP-Info")))

/-- A reply cannot be patched: the ports of the server are out of range, or its URLs cannot be
    rewritten. -/
def Unpatchable (s : RtspToRtspClient) (resp : Bytes) : Prop :=
  HasBigPair serverPortRe
      (s.restoreProtocol (RtspParser.extractHeaderValue resp (ascii "Transport"))) ∨
    s.UrlsThrow (s.withTransport resp)

/-- A reply to a request of the client that cannot be dealt with. -/
def ReplyThrows (s : RtspToRtspClient) (resp : Bytes) : Prop :=
  isKeepaliveReply resp = false ∧ s.wantsRetry resp = false ∧
    (ChannelsOutOfRange resp ∨ s.Unpatchable resp)

theorem urlsThrow_congr (h : t.clientSide = s.clientSide) (msg : Bytes) :
    t.UrlsThrow msg ↔ s.UrlsThrow msg := by
  rw [UrlsThrow, UrlsThrow, upstreamPattern_congr h, patchUriHeader_congr h]

theorem throws_learnUpstreamTransport (resp : Bytes) :
    (s.learnUpstreamTransport resp).Throws ↔ ChannelsOutOfRange resp := by
  unfold learnUpstreamTransport ChannelsOutOfRange
  rw [← and_assoc]
  split
  case isTrue h =>
    have h' : RtspParser.parseStatusCode resp = 200 ∧ contains (ascii "interleaved=") resp = true :=
      by simpa using h
    rw [and_iff_right h', ← throws_extractInterleavedChannels, Except.throws_bind]
    refine or_iff_left ?_
    rintro ⟨channels, _, h⟩
    cases channels <;> exact absurd h (Except.not_throws_ok _)
  case isFalse h =>
    refine iff_of_false (Except.not_throws_ok _) fun h' => h ?_
    simpa using h'.1

theorem throws_learnServerPorts (transport : Bytes) :
    (s.learnServerPorts cfg transport).Throws ↔ HasBigPair serverPortRe transport := by
  unfold learnServerPorts
  split
  case h_1 hnone => exact iff_of_false (Except.not_throws_ok _) (by simp [HasBigPair, hnone])
  case h_2 m hm => exact throws_readPair (fun _ _ => ⟨_, rfl⟩) hm

theorem restoreProtocol_nil : s.restoreProtocol [] = [] := by
  unfold restoreProtocol
  split
  · rfl
  · rfl

theorem throws_patchTransport (resp : Bytes) :
    (s.patchTransport cfg resp).Throws ↔ HasBigPair serverPortRe
      (s.restoreProtocol (RtspParser.extractHeaderValue resp (ascii "Transport"))) := by
  unfold patchTransport
  dsimp only
  split
  case isTrue hnil =>
    rw [hnil, restoreProtocol_nil]
    exact iff_of_false (Except.not_throws_ok _) (by simp [HasBigPair, show serverPortRe.search [] = none by decide])
  case isFalse =>
    rw [← @throws_learnServerPorts s cfg, Except.throws_bind]
    refine or_iff_left ?_
    rintro ⟨u, _, h⟩
    exact absurd h (Except.not_throws_ok _)

theorem throws_rewriteUrls {re : Regex} {value : Bytes} :
    (s.rewriteUrls re value).Throws ↔ ∃ m ∈ re.search value, m.text.length < 7 := by
  unfold rewriteUrls
  split
  case h_1 hnone => exact iff_of_false (Except.not_throws_ok _) (by simp [hnone])
  case h_2 m hm =>
    split
    case isTrue hshort => exact iff_of_true Except.throws_error ⟨m, hm, hshort⟩
    case isFalse hlong =>
      refine iff_of_false (Except.not_throws_ok _) ?_
      rintro ⟨m', hm', hshort⟩
      cases hm.symm.trans hm'
      exact hlong hshort

theorem throws_patchUriHeader {re : Regex} {msg name : Bytes} :
    (s.patchUriHeader re msg name).Throws ↔
      ShortUrl re (RtspParser.extractHeaderValue msg name) := by
  unfold patchUriHeader ShortUrl
  dsimp only
  split
  case isTrue hnil => exact iff_of_false (Except.not_throws_ok _) fun h => h.1 hnil
  case isFalse hne =>
    rw [and_iff_right hne, ← throws_rewriteUrls (s := s), Except.throws_bind]
    refine or_iff_left ?_
    rintro ⟨value, _, h⟩
    cases value <;> exact absurd h (Except.not_throws_ok _)

/-- The URLs in the two fields are rewritten, unless that throws. -/
theorem throws_urls {α : Type} {f : Bytes → α} (msg : Bytes) :
    (do let re ← Regex.compile s.upstreamPattern
        let msg ← s.patchUriHeader re msg (ascii "Content-Base")
        let msg ← s.patchUriHeader re msg (ascii "RTP-Info")
        return f msg).Throws ↔ s.UrlsThrow msg := by
  rw [UrlsThrow, Except.throws_bind]
  refine or_congr_right (exists_congr fun re => and_congr_right fun _ => ?_)
  rw [Except.throws_bind, throws_patchUriHeader]
  refine or_congr_right (exists_congr fun based => and_congr_right fun _ => ?_)
  rw [Except.throws_bind, throws_patchUriHeader]
  refine or_iff_left ?_
  rintro ⟨located, _, h⟩
  exact absurd h (Except.not_throws_ok _)

/-- The replies that cannot be patched. -/
theorem throws_patchResponseForClient (resp : Bytes) :
    (s.patchResponseForClient cfg resp).Throws ↔ s.Unpatchable resp := by
  unfold patchResponseForClient Unpatchable
  rw [Except.throws_bind, throws_patchTransport]
  refine or_congr_right' fun hports => ?_
  obtain ⟨⟨u, msg⟩, hu⟩ :=
    Except.not_throws_iff.1 (mt (@throws_patchTransport s cfg resp).1 hports)
  obtain ⟨hside, rfl⟩ := patchTransport_eq hu
  rw [hu, ← urlsThrow_congr hside]
  constructor
  · rintro ⟨p, hp, h⟩
    cases hp
    exact (throws_urls _).1 h
  · intro h
    exact ⟨_, rfl, (throws_urls _).2 h⟩

theorem unpatchable_congr (h : t.clientSide = s.clientSide) (resp : Bytes) :
    t.Unpatchable resp ↔ s.Unpatchable resp := by
  rw [Unpatchable, Unpatchable, restoreProtocol_congr h, withTransport_congr h, urlsThrow_congr h]

/-- The replies that make a handler throw. -/
theorem replyThrows_iff {calls : UpstreamCalls} {resp : Bytes} :
    (s.handleResponse cfg calls resp).Throws ↔ s.ReplyThrows resp := by
  unfold handleResponse ReplyThrows
  cases hka : isKeepaliveReply resp with
  | true => simp
  | false =>
    rw [if_neg Bool.false_ne_true, and_iff_right rfl]
    dsimp only
    rw [show (s.learnSession resp).wantsRetry resp = s.wantsRetry resp from rfl]
    cases hretry : s.wantsRetry resp with
    | true => simp
    | false =>
      rw [if_neg Bool.false_ne_true, and_iff_right rfl, Except.throws_bind,
        throws_learnUpstreamTransport]
      refine or_congr_right' fun hchannels => ?_
      obtain ⟨u, hu⟩ := Except.not_throws_iff.1
        (mt (throws_learnUpstreamTransport (s := s.learnSession resp) resp).1 hchannels)
      have hside : u.clientSide = s.clientSide :=
        (clientSide_learnUpstreamTransport hu).trans clientSide_learnSession
      rw [hu, ← unpatchable_congr hside, ← @throws_patchResponseForClient _ cfg]
      constructor
      · rintro ⟨v, hv, h⟩
        cases hv
        rcases Except.throws_bind.1 h with h | ⟨p, _, h⟩
        · exact h
        · exact absurd h (Except.not_throws_ok _)
      · intro h
        exact ⟨u, rfl, Except.throws_bind.2 (.inl h)⟩

/-! ## Handlers -/

/-- The request at the front is handled. -/
theorem downstreamTurn_of_request {ports : RelayPorts} {req : Bytes}
    (h : frontRequest s.downstreamRecvBuf = some req) :
    s.downstreamTurn cfg ports = (s.skipDownstream req.length).handleRequest cfg ports req := by
  unfold frontRequest at h
  unfold downstreamTurn
  extract_lets buf
  change (if buf = [] ∨ buf.head? = some 36 then none else (find crlf2 buf).map _) = _ at h
  split at h
  · cases h
  case isFalse hfront =>
    obtain ⟨hne, hhead⟩ := not_or.1 hfront
    obtain ⟨i, hi, rfl⟩ := Option.map_eq_some_iff.1 h
    have hle : i + 4 ≤ buf.length := find_add_length_le hi
    rw [if_neg hne, if_neg hhead, hi, List.length_take, Nat.min_eq_left hle]

/-- A turn over the bytes of the client throws exactly if it handles a request that does. -/
theorem throws_downstreamTurn {ports : RelayPorts} : (s.downstreamTurn cfg ports).Throws ↔
    ∃ req ∈ frontRequest s.downstreamRecvBuf, SetupOutOfRange req := by
  cases hreq : frontRequest s.downstreamRecvBuf with
  | some req =>
    rw [downstreamTurn_of_request hreq, requestThrows_iff]
    simp
  | none =>
    refine iff_of_false ?_ (by simp)
    unfold frontRequest at hreq
    unfold downstreamTurn
    extract_lets buf
    change (if buf = [] ∨ buf.head? = some 36 then none else (find crlf2 buf).map _) = _ at hreq
    split
    · exact Except.not_throws_ok _
    case isFalse hne =>
      split
      · split <;> exact Except.not_throws_ok _
      case isFalse hhead =>
        rw [if_neg (not_or.2 ⟨hne, hhead⟩)] at hreq
        rw [Option.map_eq_none_iff.1 hreq]
        exact Except.not_throws_ok _

/-- A turn over the bytes of the upstream throws exactly if it handles a reply that does. -/
theorem throws_upstreamTurn {calls : UpstreamCalls} : (s.upstreamTurn cfg calls).Throws ↔
    ∃ msg ∈ frontMessage s.upstreamRecvBuf, s.ReplyThrows msg := by
  cases hmsg : frontMessage s.upstreamRecvBuf with
  | some msg =>
    rw [upstreamTurn_of_message hmsg, Except.throws_map, replyThrows_iff]
    simp only [Option.mem_some_iff, exists_eq_left']
    exact Iff.rfl
  | none =>
    refine iff_of_false ?_ (by simp)
    unfold frontMessage at hmsg
    unfold upstreamTurn
    extract_lets buf
    change (if buf = [] ∨ buf.head? = some 36 then none else _) = _ at hmsg
    split
    · exact Except.not_throws_ok _
    case isFalse hne =>
      split
      · split <;> exact Except.not_throws_ok _
      case isFalse hhead =>
        rw [if_neg (not_or.2 ⟨hne, hhead⟩), show s.upstreamRecvBuf = buf from rfl] at hmsg
        cases hi : find crlf2 buf with
        | none => exact Except.not_throws_ok _
        | some i =>
          rw [hi] at hmsg
          dsimp only at hmsg ⊢
          split at hmsg
          case isTrue hlt =>
            rw [if_pos hlt]
            exact Except.not_throws_ok _
          case isFalse => cases hmsg

/-- Reading from the client returns exactly if no request that comes to the front of the buffer
    throws. -/
theorem onDownstreamReadable_returns_iff {ports : RelayPorts} {received : RecvResult} :
    (∃ turns t, s.onDownstreamReadable cfg ports turns received = some (.ok t)) ↔
      ∀ bytes, received = .data bytes → ∀ t,
        Loop.Reaches (downstreamTurn cfg ports)
            { s with downstreamRecvBuf := s.downstreamRecvBuf ++ bytes } t →
          ∀ req ∈ frontRequest t.downstreamRecvBuf, ¬SetupOutOfRange req := by
  cases received with
  | data bytes =>
    refine Loop.exists_returns_iff.trans ?_
    rw [and_iff_right downstream_terminates]
    constructor
    · rintro h bytes' ⟨rfl⟩ t ht req hreq hbad
      obtain ⟨e, he⟩ := throws_downstreamTurn.2 ⟨req, hreq, hbad⟩
      exact h t ht e he
    · intro h t ht e he
      obtain ⟨req, hreq, hbad⟩ := throws_downstreamTurn.1 ⟨e, he⟩
      exact h bytes rfl t ht req hreq hbad
  | endOfStream | wouldBlock | failed =>
    exact iff_of_true ⟨0, _, rfl⟩ fun bytes h => by cases h

/-- Reading from the upstream returns exactly if no message that comes to the front of the buffer
    throws, or has the length 0. -/
theorem onUpstreamReadable_returns_iff {calls : UpstreamCalls} {received : RecvResult} :
    (∃ turns t, s.onUpstreamReadable cfg calls turns received = some (.ok t)) ↔
      ∀ bytes, received = .data bytes → ∀ t,
        Loop.Reaches (upstreamTurn cfg calls)
            { s with upstreamRecvBuf := s.upstreamRecvBuf ++ bytes } t →
          ¬t.Stuck ∧ ∀ msg ∈ frontMessage t.upstreamRecvBuf, ¬t.ReplyThrows msg := by
  cases received with
  | data bytes =>
    refine Loop.exists_returns_iff.trans ?_
    rw [upstream_terminates_iff]
    constructor
    · rintro ⟨hstuck, h⟩ bytes' ⟨rfl⟩ t ht
      refine ⟨hstuck t ht, fun msg hmsg hbad => ?_⟩
      obtain ⟨e, he⟩ := throws_upstreamTurn.2 ⟨msg, hmsg, hbad⟩
      exact h t ht e he
    · intro h
      refine ⟨fun t ht => (h bytes rfl t ht).1, fun t ht e he => ?_⟩
      obtain ⟨msg, hmsg, hbad⟩ := throws_upstreamTurn.1 ⟨e, he⟩
      exact (h bytes rfl t ht).2 msg hmsg hbad
  | endOfStream | wouldBlock | failed =>
    exact iff_of_true ⟨0, _, rfl⟩ fun bytes h => by cases h

end RtspToRtspClient

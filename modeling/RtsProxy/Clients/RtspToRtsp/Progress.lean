import RtsProxy.Clients.RtspToRtsp.Control

/-!
# Progress of the deframers of a relayed session

A turn of the loop over the bytes of the upstream takes a frame or a message off the buffer.
Its length is computed in `size_t`, from a number that `std::stoul` reads, so it can wrap around
to nothing (`Stuck`).

* `upstreamTurn_shortens_iff`: otherwise something is taken off;
* `upstream_terminates_iff`: the loop terminates unless it gets stuck;
* `downstream_terminates`: the loop over the bytes of the client always does.
-/

open Text Ecma Interleaved

/-- What of the upstream a session keeps while a message of it is handled: the bytes behind the
    message, and the host. -/
def Control.upstreamSide (c : Control) : Bytes × Bytes := (c.upstreamRecvBuf, c.serverIp)

namespace RtspToRtspClient

variable {s t : RtspToRtspClient} {cfg : ServerConfig}

/-! ## What handlers leave in the buffers -/

theorem downstreamRecvBuf_handleRequest {ports : RelayPorts} {req : Bytes}
    {r : Turn RtspToRtspClient} (h : s.handleRequest cfg ports req = .ok r) :
    r.state.downstreamRecvBuf = s.downstreamRecvBuf :=
  (congrArg Control.downstreamRecvBuf (control_handleRequest h)).trans
    Control.downstreamRecvBuf_request

theorem upstreamSide_onUpstreamWritable (calls : UpstreamCalls) :
    (s.onUpstreamWritable calls).control.upstreamSide = s.control.upstreamSide := by
  rw [control_onUpstreamWritable]
  split
  · split <;> rfl
  · rfl

theorem upstreamSide_handleResponse {calls : UpstreamCalls} {resp : Bytes}
    (h : s.handleResponse cfg calls resp = .ok t) :
    t.control.upstreamSide = s.control.upstreamSide := by
  rw [control_handleResponse h]
  split
  · rfl
  split
  · rw [upstreamSide_onUpstreamWritable]
    show (s.learnSession resp).control.upstreamSide = s.control.upstreamSide
    rw [control_learnSession]
  · split <;> rfl

/-! ## The loop over the bytes of the client -/

theorem length_of_frontRequest {buf req : Bytes} (h : frontRequest buf = some req) :
    4 ≤ req.length ∧ req.length ≤ buf.length := by
  unfold frontRequest at h
  split at h
  · cases h
  · obtain ⟨i, hi, rfl⟩ := Option.map_eq_some_iff.1 h
    have hle : i + 4 ≤ buf.length := find_add_length_le hi
    rw [List.length_take, Nat.min_eq_left hle]
    omega

/-- A turn that goes round again has taken a frame or a request off the buffer. -/
theorem downstreamTurn_shortens {ports : RelayPorts}
    (h : Loop.Again (downstreamTurn cfg ports) s t) :
    t.downstreamRecvBuf.length < s.downstreamRecvBuf.length := by
  rcases downstreamTurn_cases h with ⟨hr, _⟩ | ⟨channel, data, hf, hr⟩ | ⟨req, hreq, hr⟩
  · cases hr
  · cases hr
    have hne : s.downstreamRecvBuf ≠ [] := by
      intro hnil
      have hhead := head_of_frontFrame hf
      rw [hnil] at hhead
      cases hhead
    have hpos := List.length_pos_iff.2 hne
    show ((s.handleInterleavedFromClient channel data).downstreamRecvBuf.drop _).length < _
    rw [show (s.handleInterleavedFromClient channel data).downstreamRecvBuf = s.downstreamRecvBuf from
      congrArg Control.downstreamRecvBuf (control_handleInterleavedFromClient channel data),
      List.length_drop]
    omega
  · have hbuf : t.downstreamRecvBuf = s.downstreamRecvBuf.drop req.length :=
      downstreamRecvBuf_handleRequest hr
    obtain ⟨hpos, hle⟩ := length_of_frontRequest hreq
    rw [hbuf, List.length_drop]
    omega

theorem downstream_terminates {ports : RelayPorts} :
    Loop.Terminates (downstreamTurn cfg ports) s :=
  Loop.terminates (fun u => u.downstreamRecvBuf.length) fun _ _ _ h => downstreamTurn_shortens h

/-! ## The loop over the bytes of the upstream -/

/-- The message at the start of the buffer is taken to be empty: the length of its header block
    and that of its body add up to 0 in `size_t`. And its handling does not throw, since the
    pattern of the URLs of the upstream is one. -/
def Stuck (s : RtspToRtspClient) : Prop :=
  s.upstreamRecvBuf.head? ≠ some 36 ∧
    (∃ i ∈ find crlf2 s.upstreamRecvBuf, messageSize s.upstreamRecvBuf i = 0) ∧
    ∃ re, Regex.compile s.upstreamPattern = .ok re

/-- An empty message is at the front exactly if the length comes out as 0. -/
theorem frontMessage_eq_nil_iff {buf : Bytes} : frontMessage buf = some [] ↔
    buf.head? ≠ some 36 ∧ ∃ i ∈ find crlf2 buf, messageSize buf i = 0 := by
  unfold frontMessage
  by_cases hfront : buf = [] ∨ buf.head? = some 36
  · rw [if_pos hfront]
    refine ⟨fun h => (Option.some_ne_none _ h.symm).elim, fun ⟨hhead, i, hi, _⟩ => ?_⟩
    rcases hfront with rfl | hfront
    · cases hi
    · exact absurd hfront hhead
  · rw [if_neg hfront]
    obtain ⟨hne, hhead⟩ := not_or.1 hfront
    cases find crlf2 buf with
    | none => simp
    | some i =>
      dsimp only
      have htake : buf.take (messageSize buf i) = [] ↔ messageSize buf i = 0 := by
        rw [List.take_eq_nil_iff, or_iff_left hne]
      split
      case isTrue hlt =>
        have hpos : messageSize buf i ≠ 0 := by omega
        simp [hpos]
      case isFalse => simp [htake, hhead]

/-- The message at the front is handled. -/
theorem upstreamTurn_of_message {calls : UpstreamCalls} {msg : Bytes}
    (h : frontMessage s.upstreamRecvBuf = some msg) :
    s.upstreamTurn cfg calls =
      ((s.skipUpstream msg.length).handleResponse cfg calls msg).map .again := by
  unfold frontMessage at h
  unfold upstreamTurn
  extract_lets buf
  change (if buf = [] ∨ buf.head? = some 36 then none else _) = some msg at h
  split at h
  · cases h
  case isFalse hfront =>
    obtain ⟨hne, hhead⟩ := not_or.1 hfront
    rw [if_neg hne, if_neg hhead]
    cases hi : find crlf2 buf with
    | none =>
      rw [show s.upstreamRecvBuf = buf from rfl, hi] at h
      cases h
    | some i =>
      rw [show s.upstreamRecvBuf = buf from rfl, hi] at h
      dsimp only at h ⊢
      split at h
      · cases h
      case isFalse hge =>
        cases h
        have hlen : (buf.take (messageSize buf i)).length = messageSize buf i := by
          rw [List.length_take]
          omega
        rw [if_neg hge, hlen]

/-- An empty reply is patched, unless the pattern of the URLs is none. -/
theorem patchResponseForClient_nil_iff : (∃ p, s.patchResponseForClient cfg [] = .ok p) ↔
    ∃ re, Regex.compile s.upstreamPattern = .ok re := by
  constructor
  · rintro ⟨p, hp⟩
    obtain ⟨⟨u, msg⟩, hu, hp⟩ := Except.bind_eq_ok_iff.1 hp
    obtain ⟨re, hre, _⟩ := Except.bind_eq_ok_iff.1 hp
    rw [patchTransport, RtspParser.extractHeaderValue_nil, if_pos rfl] at hu
    cases hu
    exact ⟨re, hre⟩
  · rintro ⟨re, hre⟩
    have htransport : s.patchTransport cfg [] = .ok (s, []) := by
      rw [patchTransport, RtspParser.extractHeaderValue_nil, if_pos rfl]
    have hheader : ∀ name, s.patchUriHeader re [] name = .ok [] := by
      intro name
      rw [patchUriHeader, RtspParser.extractHeaderValue_nil, if_pos rfl]
    exact ⟨(s, s.patchSdp []), Except.bind_eq_ok_iff.2 ⟨(s, []), htransport,
      Except.bind_eq_ok_iff.2 ⟨re, hre, Except.bind_eq_ok_iff.2 ⟨[], hheader _,
        Except.bind_eq_ok_iff.2 ⟨[], hheader _, rfl⟩⟩⟩⟩⟩

/-- An empty message is handled, unless the pattern of the URLs is none. -/
theorem handleResponse_nil_iff {calls : UpstreamCalls} :
    (∃ t, s.handleResponse cfg calls [] = .ok t) ↔
      ∃ re, Regex.compile s.upstreamPattern = .ok re := by
  have hstatus : RtspParser.parseStatusCode [] = -1 := by decide
  have hka : isKeepaliveReply [] = false := by decide
  have hretry : s.wantsRetry [] = false := by
    rw [wantsRetry, hstatus]
    rfl
  have hsession : s.learnSession [] = s := by
    rw [learnSession, RtspParser.parseSessionId, RtspParser.find_nil (by decide)]
  have hlearn : s.learnUpstreamTransport [] = .ok s := by
    rw [learnUpstreamTransport, hstatus]
    rfl
  rw [← @patchResponseForClient_nil_iff _ cfg, handleResponse, hka,
    if_neg Bool.false_ne_true, hsession]
  dsimp only
  rw [hretry, if_neg Bool.false_ne_true]
  constructor
  · rintro ⟨t, ht⟩
    obtain ⟨u, hu, ht⟩ := Except.bind_eq_ok_iff.1 ht
    obtain ⟨p, hp, _⟩ := Except.bind_eq_ok_iff.1 ht
    rw [hlearn] at hu
    cases hu
    exact ⟨p, hp⟩
  · rintro ⟨p, hp⟩
    exact ⟨_, Except.bind_eq_ok_iff.2 ⟨s, hlearn, Except.bind_eq_ok_iff.2 ⟨p, hp, rfl⟩⟩⟩

/-- Where the loop is stuck, its turn goes round again with the same bytes, and is stuck there. -/
theorem stuck_again {calls : UpstreamCalls} (h : s.Stuck) :
    ∃ t, Loop.Again (upstreamTurn cfg calls) s t ∧ t.Stuck ∧
      t.upstreamRecvBuf = s.upstreamRecvBuf := by
  obtain ⟨hhead, hsize, hcompile⟩ := h
  obtain ⟨t, ht⟩ : ∃ t, (s.skipUpstream 0).handleResponse cfg calls [] = .ok t :=
    handleResponse_nil_iff.2 hcompile
  have hside := upstreamSide_handleResponse ht
  have hbuf : t.upstreamRecvBuf = s.upstreamRecvBuf := congrArg Prod.fst hside
  have hpattern : t.upstreamPattern = s.upstreamPattern := by
    rw [upstreamPattern, upstreamPattern, show t.ctx.serverIp = s.ctx.serverIp from
      congrArg Prod.snd hside]
  refine ⟨t, ?_, ⟨hbuf ▸ hhead, hbuf ▸ hsize, hpattern ▸ hcompile⟩, hbuf⟩
  rw [Loop.Again, upstreamTurn_of_message (frontMessage_eq_nil_iff.2 ⟨hhead, hsize⟩)]
  exact congrArg (Except.map Turn.again) ht

theorem length_of_frontMessage {buf msg : Bytes} (h : frontMessage buf = some msg) :
    msg.length ≤ buf.length := by
  unfold frontMessage at h
  split at h
  · cases h
  · split at h
    · cases h
    · split at h
      · cases h
      · cases h
        rw [List.length_take]
        exact Nat.min_le_right _ _

/-- A turn that goes round again takes something off the buffer, exactly if the loop is not
    stuck. -/
theorem upstreamTurn_shortens_iff {calls : UpstreamCalls} :
    (∀ t, Loop.Again (upstreamTurn cfg calls) s t →
      t.upstreamRecvBuf.length < s.upstreamRecvBuf.length) ↔ ¬s.Stuck := by
  constructor
  · intro hshort hstuck
    obtain ⟨t, ht, _, hbuf⟩ : ∃ t, Loop.Again (upstreamTurn cfg calls) s t ∧ _ :=
      stuck_again hstuck
    have := hshort t ht
    rw [hbuf] at this
    exact Nat.lt_irrefl _ this
  · intro hstuck t h
    rcases upstreamTurn_cases h with ⟨hr, _, _⟩ | ⟨channel, data, hf, hr⟩ | ⟨msg, u, _, hm, hu, hr⟩
    · cases hr
    · cases hr
      have hpos : 0 < s.upstreamRecvBuf.length := by
        rw [List.length_pos_iff]
        intro hnil
        have hhead := head_of_frontFrame hf
        rw [hnil] at hhead
        cases hhead
      have hbuf : (s.handleInterleavedFromUpstream cfg channel data).upstreamRecvBuf =
          s.upstreamRecvBuf :=
        congrArg Control.upstreamRecvBuf (control_handleInterleavedFromUpstream channel data)
      show ((s.handleInterleavedFromUpstream cfg channel data).upstreamRecvBuf.drop _).length < _
      rw [hbuf, List.length_drop]
      omega
    · cases hr
      have hbuf : t.upstreamRecvBuf = s.upstreamRecvBuf.drop msg.length :=
        congrArg Prod.fst (upstreamSide_handleResponse hu)
      have hle := length_of_frontMessage hm
      have hne : msg ≠ [] := by
        rintro rfl
        obtain ⟨hhead, hsize⟩ := frontMessage_eq_nil_iff.1 hm
        exact hstuck ⟨hhead, hsize, handleResponse_nil_iff.1 ⟨t, hu⟩⟩
      have hpos := List.length_pos_iff.2 hne
      rw [hbuf, List.length_drop]
      omega

/-- The loop terminates exactly if it does not get stuck. -/
theorem upstream_terminates_iff {calls : UpstreamCalls} :
    Loop.Terminates (upstreamTurn cfg calls) s ↔
      ∀ t, Loop.Reaches (upstreamTurn cfg calls) s t → ¬t.Stuck := by
  constructor
  · intro hterm t ht hstuck
    refine Loop.not_terminates Stuck (fun u hu => ?_) hstuck (hterm.of_reaches ht)
    obtain ⟨v, hv, hstuck', _⟩ := stuck_again hu
    exact ⟨v, hv, hstuck'⟩
  · intro h
    exact Loop.terminates (fun u => u.upstreamRecvBuf.length) fun t u ht hu =>
      upstreamTurn_shortens_iff.2 (h t ht) u hu

end RtspToRtspClient

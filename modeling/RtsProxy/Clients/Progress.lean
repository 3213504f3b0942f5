import RtsProxy.Clients.RtspToHttp.Runs
import RtsProxy.Clients.RtspToRtsp.Progress
import RtsProxy.Clients.RtspToRtsp.Runs

/-!
# Progress of the deframers

Both kinds of sessions take frames and messages off the bytes received from the upstream. The
length of a message is computed in `size_t`; an HTTP session reads the length of the body with
`std::stoi`, a relayed one with `std::stoul`, and both accept a sign.

* `RtspToHttpClient.rtspTurn_shortens_iff`: a turn of an HTTP session takes something off the
  buffer unless the length comes out as 0;
* `deframers_progress_iff`: in both sessions, every turn takes something off and the loop
  terminates exactly if that does not happen.
-/

open Text Interleaved

namespace RtspToHttpClient

variable {cfg : ServerConfig} {s t : RtspToHttpClient}

/-- A message behind which the loop goes on: a request of the upstream, a reply that rejects UDP
    for the first time, or a `200` (to a `SETUP`, one that names ports or channels). -/
def GoesOn (s : RtspToHttpClient) (header : Bytes) : Prop :=
  isServerRequest header = true ∨ s.wantsRetry header = true ∨
    RtspParser.parseStatusCode header = 200 ∧ (s.currentRequest.method = .setup →
      (RtspParser.parseServerPorts header (RtspParser.parseSessionId header s.ctx)).1 = true)

/-- The message at the front is taken to be empty, and does not make the handler return. -/
def Stuck (s : RtspToHttpClient) : Prop :=
  ∃ header body, frontMessage s.respBuf = some (header, body, 0) ∧ s.GoesOn header

/-- The loop goes on behind a `200`, unless it is to a `SETUP` and names no ports or channels. -/
theorem handleOk_again_iff {header body : Bytes} :
    (∃ t, s.handleOk cfg header body = .ok (.again t)) ↔
      (s.currentRequest.method = .setup →
        (RtspParser.parseServerPorts header s.ctx).1 = true) := by
  rw [handleOk]
  rcases s.currentRequest.method with _ | _ | _ | _ | _ | _ | _ | _
  case setup =>
    rw [forall_prop_of_true rfl]
    rcases (RtspParser.parseServerPorts header s.ctx) with ⟨_ | _, ctx⟩
    · refine iff_of_false ?_ Bool.false_ne_true
      rintro ⟨t, ht⟩
      cases ht
    · exact iff_of_true ⟨_, rfl⟩ rfl
  all_goals
    refine iff_of_true ⟨_, rfl⟩ fun h => ?_
    cases h

/-- The loop goes on behind a message, or the handler returns. -/
theorem handleMessage_again_iff {header body : Bytes} :
    (∃ t, s.handleMessage cfg header body = .ok (.again t)) ↔ s.GoesOn header := by
  unfold handleMessage GoesOn
  extract_lets u reply
  by_cases hrequest : isServerRequest header = true
  · rw [if_pos hrequest]
    exact iff_of_true ⟨_, rfl⟩ (.inl hrequest)
  rw [if_neg hrequest, or_iff_right hrequest]
  have hu : u.wantsRetry header = s.wantsRetry header := rfl
  by_cases hretry : s.wantsRetry header = true
  · rw [hu, if_pos hretry]
    exact iff_of_true ⟨_, rfl⟩ (.inl hretry)
  rw [hu, if_neg hretry, or_iff_right hretry]
  by_cases hok : RtspParser.parseStatusCode header = 200
  · rw [if_neg (not_not.2 hok), and_iff_right hok]
    exact handleOk_again_iff (s := u)
  · rw [if_pos hok]
    refine iff_of_false ?_ fun h => hok h.1
    rintro ⟨t, ht⟩
    cases ht

/-- A message at the front is no longer than the buffer, which is not empty. -/
theorem frontMessage_le {buf header body : Bytes} {size : Nat}
    (h : frontMessage buf = some (header, body, size)) : size ≤ buf.length ∧ 0 < buf.length := by
  rw [frontMessage] at h
  split at h
  · cases h
  case isFalse hfront =>
    split at h
    · cases h
    · dsimp only at h
      split at h
      · cases h
      case isFalse hle =>
        cases h
        exact ⟨Nat.not_lt.1 hle, List.length_pos_iff.2 fun hnil => hfront (.inl hnil)⟩

/-- A buffer that starts with a message starts with no frame. -/
theorem frontFrame_of_frontMessage {buf : Bytes} {m : Bytes × Bytes × Nat}
    (h : frontMessage buf = some m) : frontFrame buf = none := by
  rw [frontMessage] at h
  split at h
  · cases h
  case isFalse hfront => exact if_neg (not_or.1 hfront).2

/-- What is left behind a message. -/
theorem respBuf_handleMessage {header body : Bytes}
    (h : s.handleMessage cfg header body = .ok (.again t)) : t.respBuf = s.respBuf := by
  have hbuffers := @buffers_handleMessage cfg s header body
  rw [h] at hbuffers
  exact congrArg Prod.fst hbuffers

/-- Where the loop is stuck, its turn goes round again with the same bytes. -/
theorem stuck_again (h : s.Stuck) :
    ∃ t, Loop.Again (rtspTurn cfg) s t ∧ t.respBuf = s.respBuf := by
  obtain ⟨header, body, hfront, hgoes⟩ := h
  obtain ⟨t, ht⟩ : ∃ t, (s.skipResp 0).handleMessage cfg header body = .ok (.again t) :=
    handleMessage_again_iff.2 hgoes
  refine ⟨t, ?_, respBuf_handleMessage ht⟩
  rw [Loop.Again, rtspTurn_eq, frontFrame_of_frontMessage hfront, hfront]
  exact ht

/-- A turn that goes round again takes something off the buffer, exactly if the loop is not
    stuck. -/
theorem rtspTurn_shortens_iff :
    (∀ t, Loop.Again (rtspTurn cfg) s t → t.respBuf.length < s.respBuf.length) ↔ ¬s.Stuck := by
  constructor
  · intro hshort hstuck
    obtain ⟨t, ht, hbuf⟩ : ∃ t, Loop.Again (rtspTurn cfg) s t ∧ _ := stuck_again hstuck
    have hlt := hshort t ht
    rw [hbuf] at hlt
    exact Nat.lt_irrefl _ hlt
  · intro hstuck t h
    rw [Loop.Again, rtspTurn_eq] at h
    rcases hframe : frontFrame s.respBuf with _ | ⟨channel, packet⟩
    · rw [hframe] at h
      rcases hfront : frontMessage s.respBuf with _ | ⟨header, body, size⟩
      · rw [hfront] at h
        cases h
      · rw [hfront] at h
        obtain ⟨hle, hpos⟩ := frontMessage_le hfront
        have hsize : size ≠ 0 := by
          rintro rfl
          exact hstuck ⟨header, body, hfront, handleMessage_again_iff.1 ⟨t, h⟩⟩
        rw [respBuf_handleMessage h]
        show (s.respBuf.drop size).length < _
        rw [List.length_drop]
        omega
    · rw [hframe] at h
      cases h
      have hpos : 0 < s.respBuf.length := by
        rw [List.length_pos_iff]
        intro hnil
        have hhead := head_of_frontFrame hframe
        rw [hnil] at hhead
        cases hhead
      show ((handleInterleavedPacket cfg channel packet _).respBuf.drop _).length < _
      rw [respBuf_handleInterleavedPacket, List.length_drop]
      show s.respBuf.length - _ < _
      omega

/-- The loop terminates if it does not get stuck. -/
theorem rtsp_terminates (h : ∀ t, Loop.Reaches (rtspTurn cfg) s t → ¬t.Stuck) :
    Loop.Terminates (rtspTurn cfg) s :=
  Loop.terminates (fun u => u.respBuf.length) fun t u ht hu =>
    rtspTurn_shortens_iff.2 (h t ht) u hu

end RtspToHttpClient

/-- In both kinds of sessions, from any state: every turn of the loop over the bytes of the
    upstream takes something off the buffer, and the loop terminates, exactly if no turn finds a
    message of the length 0 at the front. -/
theorem deframers_progress_iff (cfg : ServerConfig) (calls : UpstreamCalls) :
    (∀ s : RtspToHttpClient,
      ((∀ t, Loop.Reaches (RtspToHttpClient.rtspTurn cfg) s t → ∀ u,
          Loop.Again (RtspToHttpClient.rtspTurn cfg) t u → u.respBuf.length < t.respBuf.length) ∧
        Loop.Terminates (RtspToHttpClient.rtspTurn cfg) s) ↔
      ∀ t, Loop.Reaches (RtspToHttpClient.rtspTurn cfg) s t → ¬t.Stuck) ∧
    ∀ s : RtspToRtspClient,
      ((∀ t, Loop.Reaches (RtspToRtspClient.upstreamTurn cfg calls) s t → ∀ u,
          Loop.Again (RtspToRtspClient.upstreamTurn cfg calls) t u →
            u.upstreamRecvBuf.length < t.upstreamRecvBuf.length) ∧
        Loop.Terminates (RtspToRtspClient.upstreamTurn cfg calls) s) ↔
      ∀ t, Loop.Reaches (RtspToRtspClient.upstreamTurn cfg calls) s t → ¬t.Stuck := by
  refine ⟨fun s => ⟨fun h t ht => ?_, fun h => ⟨fun t ht => ?_, ?_⟩⟩,
    fun s => ⟨fun h t ht => ?_, fun h => ⟨fun t ht => ?_, ?_⟩⟩⟩
  · exact RtspToHttpClient.rtspTurn_shortens_iff.1 (h.1 t ht)
  · exact RtspToHttpClient.rtspTurn_shortens_iff.2 (h t ht)
  · exact RtspToHttpClient.rtsp_terminates h
  · exact RtspToRtspClient.upstreamTurn_shortens_iff.1 (h.1 t ht)
  · exact RtspToRtspClient.upstreamTurn_shortens_iff.2 (h t ht)
  · exact RtspToRtspClient.upstream_terminates_iff.2 h

/-- A request of the upstream whose header block has 52 bytes. -/
def wrappingMessage : Bytes :=
  ascii "OPTIONS * RTSP/1.0\r\nCSeq: 7\r\nContent-Length: -52\r\n\r\n"

/-- Over these bytes, the loops of both sessions go round for ever. -/
theorem not_terminates_live :
    ¬Loop.Terminates (RtspToHttpClient.rtspTurn {})
      { RtspToHttpClient.liveSession with respBuf := wrappingMessage } ∧
    ¬Loop.Terminates (RtspToRtspClient.upstreamTurn {} {})
      { RtspToRtspClient.liveSession with upstreamRecvBuf := wrappingMessage } := by
  constructor
  · refine Loop.not_terminates (fun t => t.respBuf = wrappingMessage) (fun t ht => ?_) rfl
    -- the message is a request, which is answered in whatever state the session is
    have hfront : RtspToHttpClient.frontMessage wrappingMessage = some (wrappingMessage, [], 0) := by
      decide +kernel
    have hrequest : RtspToHttpClient.isServerRequest wrappingMessage = true := by decide +kernel
    obtain ⟨u, hu, hbuf⟩ : ∃ u, Loop.Again (RtspToHttpClient.rtspTurn {}) t u ∧ _ :=
      RtspToHttpClient.stuck_again ⟨wrappingMessage, [], by rw [ht]; exact hfront, .inl hrequest⟩
    exact ⟨u, hu, hbuf.trans ht⟩
  · intro h
    refine RtspToRtspClient.upstream_terminates_iff.1 h _ .refl ⟨by decide, ⟨48, ?_, ?_⟩, ?_⟩
    · decide +kernel
    · decide +kernel
    · have hcompile : (Ecma.Regex.compile RtspToRtspClient.liveSession.upstreamPattern).toBool =
          true := by
        decide +kernel
      refine Except.not_throws_iff.1 ?_
      rintro ⟨e, he⟩
      rw [show Ecma.Regex.compile RtspToRtspClient.liveSession.upstreamPattern = .error e from he]
        at hcompile
      cases hcompile

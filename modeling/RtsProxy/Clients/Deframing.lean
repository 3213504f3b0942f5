import RtsProxy.Clients.RtspToHttp.Runs
import RtsProxy.Clients.RtspToRtsp.Exceptions
import RtsProxy.Protocol.Contents

/-!
# What is taken off the bytes of the upstream

Both kinds of sessions read frames and messages from the upstream, each with a loop and a parser of
its own.

* `RtspToHttpClient.reader`, `RtspToRtspClient.reader`: the loops as readers of a stream;
* `frontContent_eq_cutter`: what they find at the start of a buffer;
* `deframed_of_reads`: what has been written by the rules they take off again, however it arrives.
-/

open Text Interleaved Connection

theorem Text.stoi_lt {text : Bytes} {n : Int} (h : stoi text = .ok n) : n < (intLimit : Int) := by
  rw [stoi, readSigned] at h
  split at h
  · cases h
  · split at h
    case isTrue hrange =>
      cases h
      exact hrange.2
    case isFalse => cases h

theorem RtspParser.getContentLength_lt (header : Bytes) :
    RtspParser.getContentLength header < (intLimit : Int) := by
  have hpos : (0 : Int) < (intLimit : Int) := by decide
  rw [RtspParser.getContentLength]
  split
  · exact hpos
  · extract_lets value
    split
    · exact hpos
    · split
      case h_1 n hn => exact stoi_lt hn
      case h_2 => exact hpos

/-! ## A session over HTTP -/

namespace RtspToHttpClient

variable {cfg : ServerConfig} {s t : RtspToHttpClient} {buf header body : Bytes}

/-- What the loop finds at the start of its buffer, and how many bytes it erases. -/
def frontContent : Cutter UInt8 Content := fun buf =>
  match frontFrame buf, frontMessage buf with
  | some (channel, packet), _ => some (.frame channel packet, 4 + packet.length)
  | none, some (header, body, size) => some (.message header body, size)
  | none, none => none

/-- A session that is given up has got a message that is no request of the server, and rejects what
    has been asked for last: it says something else than `200` (and no `SETUP` is tried again over
    TCP), or answers a `SETUP` without ports of the server. -/
def GivesUpAt (t : RtspToHttpClient) : Content → Prop
  | .frame _ _ => False
  | .message header _ => isServerRequest header = false ∧ t.wantsRetry header = false ∧
    (RtspParser.parseStatusCode header ≠ 200 ∨ t.currentRequest.method = .setup ∧
      ∃ ctx, (RtspParser.parseServerPorts header ctx).1 = false)

theorem givesUpAt_notifyClosed {x : Content} (h : s.GivesUpAt x) : s.notifyClosed.GivesUpAt x := by
  rw [notifyClosed]
  split
  · rcases x with _ | ⟨header, body⟩
    · exact h
    · exact h
  · exact h

/-- A message is handled and the loop goes round again, or the session is given up. -/
theorem handleMessage_cases (header body : Bytes) (s : RtspToHttpClient) :
    (∃ t, s.handleMessage cfg header body = .ok (.again t) ∧ t.respBuf = s.respBuf) ∨
    ∃ t, s.handleMessage cfg header body = .error t ∧ t.GivesUpAt (.message header body) := by
  have hbuf := congrArg Prod.fst (@buffers_handleMessage cfg s header body)
  rcases hm : s.handleMessage cfg header body with u | ⟨u | u⟩
  · refine .inr ⟨u, rfl, ?_⟩
    rw [handleMessage] at hm
    dsimp only at hm
    split at hm
    · cases hm
    case isFalse hrequest =>
      have hrequest := Bool.eq_false_iff.2 hrequest
      split at hm
      · cases hm
      case isFalse hretry =>
        have hretry := Bool.eq_false_iff.2 hretry
        split at hm
        case isTrue hstatus =>
          cases hm
          exact givesUpAt_notifyClosed ⟨hrequest, hretry, .inl hstatus⟩
        case isFalse =>
          rw [handleOk] at hm
          split at hm
          case h_3 hsetup =>
            dsimp only at hm
            split at hm
            case isTrue => cases hm
            case isFalse hports =>
              cases hm
              exact givesUpAt_notifyClosed
                ⟨hrequest, hretry, .inr ⟨hsetup, _, Bool.eq_false_iff.2 hports⟩⟩
          all_goals cases hm
  · -- no message makes the loop be left otherwise
    exfalso
    rw [handleMessage] at hm
    dsimp only at hm
    split at hm
    · cases hm
    · split at hm
      · cases hm
      · split at hm
        · cases hm
        · rw [handleOk] at hm
          split at hm
          case h_3 =>
            dsimp only at hm
            split at hm
            all_goals cases hm
          all_goals cases hm
  · rw [hm] at hbuf
    exact .inl ⟨u, rfl, hbuf⟩

/-- The loop over the bytes of the upstream, as a reader. -/
def reader (cfg : ServerConfig) : Reader RtspToHttpClient RtspToHttpClient UInt8 Content where
  body := rtspTurn cfg
  buffer := respBuf
  receive bytes s := { s with respBuf := s.respBuf ++ bytes }
  front := frontContent
  buffer_receive _ _ := rfl
  leave := by
    intro s h
    rw [rtspTurn_eq]
    rw [frontContent] at h
    rcases hf : frontFrame s.respBuf with _ | ⟨channel, packet⟩
    · rcases hm : frontMessage s.respBuf with _ | ⟨header, body, size⟩
      · rfl
      · rw [hf, hm] at h
        cases h
    · rw [hf] at h
      cases h
  take := by
    intro s x k r h hr
    rw [rtspTurn_eq] at hr
    rw [frontContent] at h
    rcases hf : frontFrame s.respBuf with _ | ⟨channel, packet⟩
    · rcases hm : frontMessage s.respBuf with _ | ⟨header, body, size⟩
      · rw [hf, hm] at h
        cases h
      · rw [hf, hm] at h hr
        cases h
        rcases @handleMessage_cases cfg header body (s.skipResp k) with
          ⟨t, ht, hbuf⟩ | ⟨t, ht, -⟩
        · dsimp only at hr
          rw [ht] at hr
          cases hr
          exact ⟨t, rfl, hbuf⟩
        · dsimp only at hr
          rw [ht] at hr
          cases hr
    · rw [hf] at h hr
      cases h
      cases hr
      exact ⟨_, rfl, congrArg (List.drop (4 + packet.length))
        (respBuf_handleInterleavedPacket (s := s.countReceived (4 + packet.length)) channel packet)⟩

/-- The handler is the loop over one part of the stream after the other. -/
theorem onRtspReadable_eq (turns : Nat) (parts : List Bytes) (s : RtspToHttpClient) :
    onRtspReadable cfg turns (parts.map RecvResult.data) s =
      (((reader cfg).reads turns (parts.map fun part => (part, id)) s).map fun x =>
        match x.2 with
        | .ok t => t
        | .error t => t) := by
  induction parts generalizing s with
  | nil => rfl
  | cons part parts ih =>
    have hread : ((reader cfg).read turns ((reader cfg).receive part s)).map Prod.snd =
        Loop.run (rtspTurn cfg) turns { s with respBuf := s.respBuf ++ part } :=
      Reader.read_snd
    rw [List.map_cons, List.map_cons, onRtspReadable, Reader.reads, ← hread]
    rcases (reader cfg).read turns ((reader cfg).receive part s) with _ | ⟨xs, t | t⟩
    · rfl
    · rfl
    · dsimp only [Option.map_some]
      rw [ih, Option.map_map]
      rfl

theorem frontMessage_eq (buf : Bytes) : frontMessage buf = (frontHeader buf).bind fun header =>
    if buf.length < (header.length + toSize (RtspParser.getContentLength header)) % wordSize then none
    else some (header, (buf.drop header.length).take (toSize (RtspParser.getContentLength header)),
      (header.length + toSize (RtspParser.getContentLength header)) % wordSize) := by
  rcases hheader : frontHeader buf with _ | header
  · rw [frontMessage]
    rw [frontHeader] at hheader
    split at hheader
    case isTrue hhead =>
      rw [if_pos (.inr hhead)]
      rfl
    case isFalse =>
      rw [Option.map_eq_none_iff.1 hheader]
      split <;> rfl
  · obtain ⟨hhead, i, hi, rfl⟩ := frontHeader_eq_some_iff.1 hheader
    have hne : buf ≠ [] := by
      rintro rfl
      cases hi
    have hle : i + 4 ≤ buf.length := find_add_length_le hi
    have hlen : (buf.take (i + 4)).length = i + 4 := by
      rw [List.length_take, Nat.min_eq_left hle]
    rw [frontMessage, if_neg (not_or.2 ⟨hne, hhead⟩), hi, Option.bind_some, hlen]
    rfl

/-- Where no length is negative, contents are found with bodies of these lengths. -/
theorem frontContent_eq_cutter (hlen : buf.length ≤ maxSize)
    (h : ∀ header ∈ frontHeader buf, 0 ≤ RtspParser.getContentLength header) :
    frontContent buf = cutter (fun header => (RtspParser.getContentLength header).toNat) buf := by
  rw [frontContent, cutter, frontMessage_eq]
  rcases frontFrame buf with _ | ⟨channel, packet⟩
  · rcases hheader : frontHeader buf with _ | header
    · rfl
    · have hpos := h header hheader
      have hlt := RtspParser.getContentLength_lt header
      obtain ⟨hpre, -⟩ := prefix_of_frontHeader hheader
      have hle := hpre.length_le
      have hmax : maxSize = 2 ^ 63 - 1 := rfl
      have hint : intLimit = 2 ^ 31 := rfl
      have hword : wordSize = 2 ^ 64 := rfl
      have hsize : toSize (RtspParser.getContentLength header) =
          (RtspParser.getContentLength header).toNat := by
        rw [toSize, Int.emod_eq_of_lt hpos (hlt.trans (by decide))]
      rw [Option.bind_some, hsize, Nat.mod_eq_of_lt (by omega)]
      dsimp only
      by_cases hshort : buf.length < header.length + (RtspParser.getContentLength header).toNat
      · rw [if_pos hshort, if_pos hshort]
      · rw [if_neg hshort, if_neg hshort]
  · rfl

theorem readsWell_frontContent :
    ReadsWell frontContent fun header => (RtspParser.getContentLength header).toNat where
  fits := by
    rintro (⟨channel, payload⟩ | ⟨header, body⟩) hu
    · exact Nat.lt_succ_of_le hu
    · obtain ⟨hheader, ⟨hnone, rfl⟩ | hn⟩ := hu
      · exact ⟨hheader, congrArg Int.toNat (getContentLength_of_none hnone)⟩
      · exact ⟨hheader, congrArg Int.toNat (getContentLength_of_announces hn)⟩
  eq_cutter := by
    intro buf more hgood
    have hlen := hgood.1
    rw [List.length_append] at hlen
    refine frontContent_eq_cutter (by omega) fun header hheader => ?_
    rcases hgood.announces (frontHeader_append hheader more) with hnone | ⟨n, hn⟩
    · rw [getContentLength_of_none hnone]
    · rw [getContentLength_of_announces hn]
      exact Int.natCast_nonneg n

end RtspToHttpClient

/-! ## A relayed session -/

namespace RtspToRtspClient

variable {cfg : ServerConfig} {s t : RtspToRtspClient} {buf header body : Bytes}

/-- What the loop finds at the start of its buffer, and how many bytes it erases. A message is its
    header block and what is behind it. -/
def frontContent : Cutter UInt8 Content := fun buf =>
  match frontFrame buf, frontMessage buf with
  | some (channel, data), _ => some (.frame channel data, 4 + data.length)
  | none, some resp =>
    let headerLength := ((frontHeader buf).getD []).length
    some (.message (resp.take headerLength) (resp.drop headerLength), resp.length)
  | none, none => none

/-- The loop over the bytes of the upstream, as a reader. -/
def reader (cfg : ServerConfig) (calls : UpstreamCalls) :
    Reader RtspToRtspClient Exn UInt8 Content where
  body := upstreamTurn cfg calls
  buffer := upstreamRecvBuf
  receive bytes s := { s with upstreamRecvBuf := s.upstreamRecvBuf ++ bytes }
  front := frontContent
  buffer_receive _ _ := rfl
  leave := by
    intro s h
    rw [frontContent] at h
    have hnone : frontFrame s.upstreamRecvBuf = none ∧ frontMessage s.upstreamRecvBuf = none := by
      rcases hf : frontFrame s.upstreamRecvBuf with _ | ⟨channel, data⟩
      · rcases hm : frontMessage s.upstreamRecvBuf with _ | resp
        · exact ⟨rfl, rfl⟩
        · rw [hf, hm] at h
          cases h
      · rw [hf] at h
        cases h
    rcases hr : s.upstreamTurn cfg calls with e | r
    · obtain ⟨msg, hmsg, -⟩ := throws_upstreamTurn.1 ⟨e, hr⟩
      rw [hnone.2] at hmsg
      cases hmsg
    · rcases upstreamTurn_cases hr with ⟨rfl, -, -⟩ | ⟨channel, data, hf, -⟩ | ⟨msg, t, -, hm, -⟩
      · rfl
      · rw [hnone.1] at hf
        cases hf
      · rw [hnone.2] at hm
        cases hm
  take := by
    intro s x k r h hr
    rw [frontContent] at h
    rcases upstreamTurn_cases hr with ⟨-, hf, hm⟩ | ⟨channel, data, hf, rfl⟩ |
      ⟨msg, t, hf, hm, ht, rfl⟩
    · rw [hf, hm] at h
      cases h
    · rw [hf] at h
      cases h
      have hbuf : (s.handleInterleavedFromUpstream cfg channel data).upstreamRecvBuf =
          s.upstreamRecvBuf :=
        congrArg Control.upstreamRecvBuf (control_handleInterleavedFromUpstream channel data)
      exact ⟨_, rfl, congrArg (List.drop (4 + data.length)) hbuf⟩
    · rw [hf, hm] at h
      cases h
      exact ⟨t, rfl, congrArg Prod.fst (upstreamSide_handleResponse ht)⟩

/-- The handler is the loop over what it has received. -/
theorem onUpstreamReadable_eq {calls : UpstreamCalls} (turns : Nat) (part : Bytes)
    (s : RtspToRtspClient) : s.onUpstreamReadable cfg calls turns (.data part) =
      ((reader cfg calls).read turns ((reader cfg calls).receive part s)).map Prod.snd :=
  (@Reader.read_snd _ _ _ _ (reader cfg calls) _ _).symm

theorem frontMessage_eq (buf : Bytes) : frontMessage buf = (frontHeader buf).bind fun header =>
    if buf.length < (header.length + bodyLength header) % wordSize then none
    else some (buf.take ((header.length + bodyLength header) % wordSize)) := by
  rcases hheader : frontHeader buf with _ | header
  · rw [frontMessage]
    rw [frontHeader] at hheader
    split at hheader
    case isTrue hhead =>
      rw [if_pos (.inr hhead)]
      rfl
    case isFalse =>
      rw [Option.map_eq_none_iff.1 hheader]
      split <;> rfl
  · obtain ⟨hhead, i, hi, rfl⟩ := frontHeader_eq_some_iff.1 hheader
    have hne : buf ≠ [] := by
      rintro rfl
      cases hi
    have hle : i + 4 ≤ buf.length := find_add_length_le hi
    have hlen : (buf.take (i + 4)).length = i + 4 := by
      rw [List.length_take, Nat.min_eq_left hle]
    rw [frontMessage, if_neg (not_or.2 ⟨hne, hhead⟩), hi, Option.bind_some, hlen]
    rfl

/-- Where no length makes the size of a message wrap around, contents are found with bodies of these
    lengths. -/
theorem frontContent_eq_cutter
    (h : ∀ header ∈ frontHeader buf, header.length + bodyLength header < wordSize) :
    frontContent buf = cutter bodyLength buf := by
  rw [frontContent, cutter, frontMessage_eq]
  rcases frontFrame buf with _ | ⟨channel, data⟩
  · rcases hheader : frontHeader buf with _ | header
    · rfl
    · obtain ⟨hpre, -⟩ := prefix_of_frontHeader hheader
      rw [Option.bind_some, Nat.mod_eq_of_lt (h header hheader)]
      dsimp only
      by_cases hshort : buf.length < header.length + bodyLength header
      · rw [if_pos hshort, if_pos hshort]
      · have htake : (buf.take (header.length + bodyLength header)).take header.length = header := by
          rw [List.take_take, Nat.min_eq_left (Nat.le_add_right _ _)]
          exact (List.prefix_iff_eq_take.1 hpre).symm
        have hdrop : (buf.take (header.length + bodyLength header)).drop header.length =
            (buf.drop header.length).take (bodyLength header) := by
          rw [List.drop_take, Nat.add_sub_cancel_left]
        rw [if_neg hshort, if_neg hshort, Option.getD_some]
        dsimp only
        rw [htake, hdrop, List.length_take, Nat.min_eq_left (Nat.not_lt.1 hshort)]
  · rfl

theorem bodyLength_of_announces {n : Nat} (h : Announces n header) : bodyLength header = n := by
  rw [bodyLength, stoul_of_announces h]

theorem bodyLength_of_none (h : AnnouncesNone header) : bodyLength header = 0 := by
  rw [bodyLength, extractHeaderValue_of_none h]
  rfl

theorem readsWell_frontContent : ReadsWell frontContent bodyLength where
  fits := by
    rintro (⟨channel, payload⟩ | ⟨header, body⟩) hu
    · exact Nat.lt_succ_of_le hu
    · obtain ⟨hheader, ⟨hnone, rfl⟩ | hn⟩ := hu
      · exact ⟨hheader, bodyLength_of_none hnone⟩
      · exact ⟨hheader, bodyLength_of_announces hn⟩
  eq_cutter := by
    intro buf more hgood
    have hlen := hgood.1
    rw [List.length_append] at hlen
    have hmax : maxSize = 2 ^ 63 - 1 := rfl
    have hword : wordSize = 2 ^ 64 := rfl
    refine frontContent_eq_cutter fun header hheader => ?_
    obtain ⟨hpre, -⟩ := prefix_of_frontHeader hheader
    have hle := hpre.length_le
    rcases hgood.announces (frontHeader_append hheader more) with hnone | ⟨n, hn⟩
    · rw [bodyLength_of_none hnone]
      omega
    · rw [bodyLength_of_announces hn]
      obtain ⟨-, -, -, -, -, -, hlt, -⟩ := hn
      have hint : intLimit = 2 ^ 31 := rfl
      omega

end RtspToRtspClient

/-! ## Both kinds of sessions -/

theorem RtspToHttpClient.givesUpAt_of_throwsAt {cfg : ServerConfig} {t : RtspToHttpClient}
    {x : Content} (h : (reader cfg).ThrowsAt t x) : t.GivesUpAt x := by
  obtain ⟨s, k, hfront, hbody⟩ := h
  have hbody : s.rtspTurn cfg = .error t := hbody
  have hfront : frontContent s.respBuf = some (x, k) := hfront
  rw [rtspTurn_eq] at hbody
  rw [frontContent] at hfront
  rcases hf : frontFrame s.respBuf with _ | ⟨channel, packet⟩
  · rcases hm : frontMessage s.respBuf with _ | ⟨header, body, size⟩
    · rw [hf, hm] at hfront
      cases hfront
    · rw [hf, hm] at hfront hbody
      cases hfront
      rcases @handleMessage_cases cfg header body (s.skipResp k) with ⟨u, hu, -⟩ | ⟨u, hu, hgives⟩
      all_goals
        dsimp only at hbody
        rw [hu] at hbody
        cases hbody
      exact hgives
  · rw [hf] at hbody
    cases hbody

/-- Well-formed contents, written one after the other and received in any parts, are taken off as
    they are, and nothing is left of them. A session over HTTP stops behind a message that it is
    given up at, a relayed session behind one whose handling throws. -/
theorem deframed_of_reads {us : List Content} (hus : ∀ u ∈ us, u.WellFormed)
    (hlen : (us.flatMap Content.text).length ≤ maxSize) :
    (∀ (cfg : ServerConfig) (s : RtspToHttpClient) (parts : List (Bytes × _)) (turns : Nat),
      s.respBuf = [] → (parts.map Prod.fst).flatten = us.flatMap Content.text →
      (∀ p ∈ parts, ∀ t : RtspToHttpClient, (p.2 t).respBuf = t.respBuf) →
      (us.flatMap Content.text).length < turns →
      ∃ xs r, (RtspToHttpClient.reader cfg).reads turns parts s = some (xs, r) ∧
        (∀ t, r = .ok t → xs = us ∧ t.respBuf = []) ∧
        ∀ t, r = .error t → xs <+: us ∧ ∃ x ∈ xs.getLast?, t.GivesUpAt x) ∧
    ∀ (cfg : ServerConfig) (calls : UpstreamCalls) (s : RtspToRtspClient)
      (parts : List (Bytes × _)) (turns : Nat),
      s.upstreamRecvBuf = [] → (parts.map Prod.fst).flatten = us.flatMap Content.text →
      (∀ p ∈ parts, ∀ t : RtspToRtspClient, (p.2 t).upstreamRecvBuf = t.upstreamRecvBuf) →
      (us.flatMap Content.text).length < turns →
      ∃ xs r, (RtspToRtspClient.reader cfg calls).reads turns parts s = some (xs, r) ∧
        (∀ t, r = .ok t → xs = us ∧ t.upstreamRecvBuf = []) ∧
        ∀ e, r = .error e → xs <+: us ∧
          ∃ x ∈ xs.getLast?, (RtspToRtspClient.reader cfg calls).ThrowsAt e x := by
  refine ⟨fun cfg s parts turns hs hparts hother hturns => ?_, fun cfg calls => ?_⟩
  · have hdeframes : (RtspToHttpClient.reader cfg).Deframes us _ :=
      RtspToHttpClient.readsWell_frontContent.deframes hus hlen
    obtain ⟨xs, r, hreads, hok, herror⟩ := hdeframes s parts turns hs hparts hother hturns
    refine ⟨xs, r, hreads, hok, fun t ht => ?_⟩
    obtain ⟨hpre, x, hx, hthrows⟩ := herror t ht
    exact ⟨hpre, x, hx, RtspToHttpClient.givesUpAt_of_throwsAt hthrows⟩
  · have hdeframes : (RtspToRtspClient.reader cfg calls).Deframes us _ :=
      RtspToRtspClient.readsWell_frontContent.deframes hus hlen
    exact hdeframes

/-! ### Streams -/

/-- A place is the only one of a text if it is the first, and there is none behind it. -/
theorem eq_of_prefix_drop {pat text : Bytes} {i : Nat} (h : find pat text = some i)
    (hno : ¬pat <:+: text.drop (i + 1)) : ∀ j, pat <+: text.drop j → j = i := by
  obtain ⟨-, -, hmin⟩ := find_eq_some_iff.1 h
  intro j hj
  rcases Nat.lt_trichotomy j i with hlt | rfl | hgt
  · exact absurd hj (hmin j hlt)
  · rfl
  · refine absurd (hj.isInfix.trans ?_) hno
    rw [show j = i + 1 + (j - (i + 1)) by omega, ← List.drop_drop]
    exact (List.drop_suffix _ _).isInfix

/-- A reply with a session description. -/
def describedHeader : Bytes :=
  ascii "RTSP/1.0 200 OK\r\nCSeq: 2\r\nContent-Length: 5\r\n\r\n"

/-- The reply, and a frame. -/
def describedContents : List Content :=
  [.message describedHeader (ascii "v=0\r\n"), .frame 0 [36, 13, 10, 13, 10]]

theorem wellFormed_describedContents : ∀ u ∈ describedContents, u.WellFormed := by
  refine List.forall_mem_cons.2 ⟨⟨by decide +kernel, .inr ?_⟩, List.forall_mem_singleton.2 ?_⟩
  · exact ⟨ascii "RTSP/1.0 200 OK\r\nCSeq: 2", ascii "5", crlf, by decide +kernel,
      by decide +kernel, by decide, by decide,
      eq_of_prefix_drop (by decide +kernel) (find_eq_none_iff.1 (by decide +kernel))⟩
  · exact Nat.le_of_ble_eq_true rfl

/-- The session over HTTP, connected. -/
def RtspToHttpClient.connectedSession : RtspToHttpClient :=
  liveSession.onRtspWritable { send := ⟨1000, false⟩ }

/-- The reply and the frame are received in two parts, the first of which ends in the body. -/
theorem deframed_of_reads_described : ∃ t,
    (RtspToHttpClient.reader {}).reads 100
      [((describedContents.flatMap Content.text).take 50, id),
        ((describedContents.flatMap Content.text).drop 50, id)] RtspToHttpClient.connectedSession =
      some (describedContents, .ok t) ∧ t.respBuf = [] := by
  obtain ⟨hhttp, -⟩ := deframed_of_reads wellFormed_describedContents (by decide +kernel)
  obtain ⟨xs, r, hreads, hok, -⟩ := hhttp {} RtspToHttpClient.connectedSession
    [((describedContents.flatMap Content.text).take 50, id),
      ((describedContents.flatMap Content.text).drop 50, id)] 100 (by decide +kernel)
    (by decide +kernel) (by simp) (by decide +kernel)
  have hends : ((RtspToHttpClient.reader {}).reads 100
      [((describedContents.flatMap Content.text).take 50, id),
        ((describedContents.flatMap Content.text).drop 50, id)]
      RtspToHttpClient.connectedSession).map (fun x => x.2.toBool) = some true := by
    decide +kernel
  rw [hreads] at hends
  rcases r with t | t
  · cases hends
  · obtain ⟨rfl, hbuf⟩ := hok t rfl
    exact ⟨t, hreads, hbuf⟩

/-- A reply that refuses a request, and a frame. -/
def refusedContents : List Content :=
  [.message (ascii "RTSP/1.0 404 Not Found\r\n\r\n") [], .frame 0 [7]]

/-- A session over HTTP is given up at the reply, and the frame behind it is left. -/
theorem not_deframed_refused : (∀ u ∈ refusedContents, u.WellFormed) ∧
    RtspToHttpClient.Started {} RtspToHttpClient.liveSession ∧
    RtspToHttpClient.Run {} RtspToHttpClient.anyStep RtspToHttpClient.liveSession
      RtspToHttpClient.connectedSession ∧
    RtspToHttpClient.connectedSession.respBuf = [] ∧
    ∃ t, (RtspToHttpClient.reader {}).reads 100 [(refusedContents.flatMap Content.text, id)]
        RtspToHttpClient.connectedSession = some (refusedContents.take 1, .error t) ∧
      RtspToHttpClient.onRtspReadable {} 100 [.data (refusedContents.flatMap Content.text)]
        RtspToHttpClient.connectedSession = some t ∧
      refusedContents.take 1 ≠ refusedContents ∧ t.respBuf = [36, 0, 0, 1, 7] := by
  refine ⟨?_, RtspToHttpClient.started_liveSession,
    .single ⟨.rtspWritable { send := ⟨1000, false⟩ }, by decide +kernel, trivial, rfl⟩,
    by decide +kernel, ?_⟩
  · refine List.forall_mem_cons.2 ⟨⟨by decide +kernel, .inl ⟨?_, rfl⟩⟩,
      List.forall_mem_singleton.2 (Nat.le_of_ble_eq_true rfl)⟩
    exact find_eq_none_iff.1 (by decide +kernel)
  · have hreads : ((RtspToHttpClient.reader {}).reads 100
        [(refusedContents.flatMap Content.text, id)] RtspToHttpClient.connectedSession).map
          (fun x => (x.1, x.2.toBool, match x.2 with
            | .ok t => t.respBuf
            | .error t => t.respBuf)) =
        some (refusedContents.take 1, false, [36, 0, 0, 1, 7]) := by
      decide +kernel
    obtain ⟨⟨xs, r⟩, hx, heq⟩ := Option.map_eq_some_iff.1 hreads
    rcases r with t | t
    · obtain ⟨rfl, hbuf⟩ := Prod.mk.inj heq
      have hbuf : t.respBuf = [36, 0, 0, 1, 7] := (Prod.mk.inj hbuf).2
      refine ⟨t, hx, ?_, by decide, hbuf⟩
      have hhandler := @RtspToHttpClient.onRtspReadable_eq {} 100
        [refusedContents.flatMap Content.text] RtspToHttpClient.connectedSession
      rw [List.map_singleton, List.map_singleton, hx] at hhandler
      exact hhandler
    · cases heq

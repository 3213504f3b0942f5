import RtsProxy.Clients.RtspToRtsp.Changes

/-!
# Blocks of a relayed session

Which writes into blocks stay inside them. What is received is cut to the size of a block,
and so is the payload of a frame, but the header of a frame takes four bytes of any block, and
a reply is copied as long as it has become by the patching (`replyGrowth`).

* `length_patchResponseForClient`: the length of a patched reply;
* `inBounds_of_step`: a step keeps to the blocks if its frame and its reply fit;
* `inBounds_of_run`: so does a run of such steps.
-/

open Text Ecma Interleaved

namespace RtspToRtspClient

/-! ## The length of a patched reply -/

/-- How much longer a message gets when a header field is given a value. -/
def headerGrowth (msg name value : Bytes) : Int :=
  match RtspParser.headerPos msg name with
  | none => 0
  | some pos =>
    match findFrom crlf msg pos with
    | none => 0
    | some stop => (name.length + 2 + value.length : Nat) - (stop - pos : Nat)

theorem length_replaceHeader (msg name value : Bytes) :
    ((replaceHeader msg name value).length : Int) = msg.length + headerGrowth msg name value := by
  unfold replaceHeader headerGrowth
  cases hpos : RtspParser.headerPos msg name with
  | none => exact (Int.add_zero _).symm
  | some pos =>
    dsimp only
    cases hstop : findFrom crlf msg pos with
    | none => exact (Int.add_zero _).symm
    | some stop =>
      obtain ⟨hle, hge⟩ := findFrom_bounds hstop
      have hlen : (replaceAt msg pos (stop - pos) (name ++ ascii ": " ++ value)).length +
          (stop - pos) = _ :=
        length_replaceAt (by omega)
      have hline : (name ++ ascii ": " ++ value).length = name.length + 2 + value.length := by
        rw [List.length_append, List.length_append]
        rfl
      dsimp only
      omega

variable {s t u v : RtspToRtspClient} {cfg : ServerConfig} {re : Regex} {resp msg patched : Bytes}

/-- How much longer the transport makes a reply. -/
def transportGrowth (s : RtspToRtspClient) (resp : Bytes) : Int :=
  let transport := RtspParser.extractHeaderValue resp (ascii "Transport")
  if transport = [] then 0
  else headerGrowth resp (ascii "Transport") (s.clientTransport (s.restoreProtocol transport))

/-- How much longer the URLs of a header field make a message. -/
def urlGrowth (s : RtspToRtspClient) (re : Regex) (msg name : Bytes) : Int :=
  let value := RtspParser.extractHeaderValue msg name
  if value = [] then 0
  else match s.rewriteUrls re value with
    | .ok (some new) => headerGrowth msg name new
    | _ => 0

/-- How much longer the addresses in a session description, and its length, make a message. -/
def sdpGrowth (s : RtspToRtspClient) (msg : Bytes) : Int :=
  match find crlf2 msg with
  | none => 0
  | some i =>
    let headers := msg.take (i + 4)
    let sdp := msg.drop (i + 4)
    if sdp ≠ [] ∧ contains (ascii "application/sdp") headers then
      let new := ip4Re.replace (ascii "IP4 " ++ inetNtoa s.localAddr.addr) sdp
      (new.length : Int) - sdp.length +
        headerGrowth (headers ++ new) (ascii "Content-Length") (decimal new.length)
    else 0

/-- A reply with the transport that the client is to see. -/
def withTransport (s : RtspToRtspClient) (resp : Bytes) : Bytes :=
  let transport := RtspParser.extractHeaderValue resp (ascii "Transport")
  if transport = [] then resp
  else replaceHeader resp (ascii "Transport") (s.clientTransport (s.restoreProtocol transport))

/-- How much longer a reply gets: its transport, the URLs of its two fields that have some,
    and its session description. -/
def replyGrowth (s : RtspToRtspClient) (resp : Bytes) : Except Exn Int := do
  let re ← Regex.compile s.upstreamPattern
  let msg := s.withTransport resp
  let based ← s.patchUriHeader re msg (ascii "Content-Base")
  let located ← s.patchUriHeader re based (ascii "RTP-Info")
  return s.transportGrowth resp + s.urlGrowth re msg (ascii "Content-Base") +
    s.urlGrowth re based (ascii "RTP-Info") + s.sdpGrowth located

/-- What a reply is patched with. -/
def clientSide (s : RtspToRtspClient) :
    Bool × UInt8 × UInt8 × Nat × Nat × SockAddr × SockAddr × SockAddr × Bytes × Bytes :=
  (s.isDownstreamTcp, s.dsInterleavedRtp, s.dsInterleavedRtcp, s.localRtpDsPort,
    s.localRtcpDsPort, s.clientRtpAddr, s.clientRtcpAddr, s.localAddr, s.dsTransportProtocol,
    s.ctx.serverIp)

theorem length_withTransport :
    ((s.withTransport resp).length : Int) = resp.length + s.transportGrowth resp := by
  unfold withTransport transportGrowth
  dsimp only
  split
  · exact (Int.add_zero _).symm
  · exact length_replaceHeader _ _ _

theorem length_patchUriHeader {name : Bytes} (h : s.patchUriHeader re msg name = .ok patched) :
    (patched.length : Int) = msg.length + s.urlGrowth re msg name := by
  unfold patchUriHeader at h
  unfold urlGrowth
  dsimp only at h ⊢
  split at h
  case isTrue hnil =>
    cases h
    rw [if_pos hnil, Int.add_zero]
  case isFalse hnil =>
    obtain ⟨new, hnew, h⟩ := Except.bind_eq_ok_iff.1 h
    rw [if_neg hnil, hnew]
    cases new with
    | none =>
      cases h
      exact (Int.add_zero _).symm
    | some new =>
      cases h
      exact length_replaceHeader _ _ _

theorem length_patchSdp : ((s.patchSdp msg).length : Int) = msg.length + s.sdpGrowth msg := by
  unfold patchSdp sdpGrowth
  cases hi : find crlf2 msg with
  | none => exact (Int.add_zero _).symm
  | some i =>
    dsimp only
    split
    · have hle := find_add_length_le hi
      have hcut : (msg.take (i + 4)).length + (msg.drop (i + 4)).length = msg.length := by
        rw [← List.length_append, List.take_append_drop]
      rw [length_replaceHeader, List.length_append]
      omega
    · exact (Int.add_zero _).symm

/-! ### What a patched reply depends on -/

theorem restoreProtocol_congr (h : t.clientSide = s.clientSide) :
    t.restoreProtocol = s.restoreProtocol := by
  simp only [clientSide, Prod.mk.injEq] at h
  funext transport
  unfold restoreProtocol
  rw [h.2.2.2.2.2.2.2.2.1]

theorem clientTransport_congr (h : t.clientSide = s.clientSide) :
    t.clientTransport = s.clientTransport := by
  simp only [clientSide, Prod.mk.injEq] at h
  obtain ⟨htcp, hrtp, hrtcp, hrtpPort, hrtcpPort, hrtpAddr, hrtcpAddr, haddr, -⟩ := h
  funext transport
  unfold clientTransport
  rw [htcp, hrtp, hrtcp, hrtpPort, hrtcpPort, hrtpAddr, hrtcpAddr, haddr]

theorem withTransport_congr (h : t.clientSide = s.clientSide) (resp : Bytes) :
    t.withTransport resp = s.withTransport resp := by
  unfold withTransport
  rw [clientTransport_congr h, restoreProtocol_congr h]

theorem transportGrowth_congr (h : t.clientSide = s.clientSide) (resp : Bytes) :
    t.transportGrowth resp = s.transportGrowth resp := by
  unfold transportGrowth
  rw [clientTransport_congr h, restoreProtocol_congr h]

theorem rewriteUrls_congr (h : t.clientSide = s.clientSide) : t.rewriteUrls = s.rewriteUrls := by
  have haddr : t.localAddr = s.localAddr := by
    simp only [clientSide, Prod.mk.injEq] at h
    exact h.2.2.2.2.2.2.2.1
  funext re value
  unfold rewriteUrls proxyBase
  rw [haddr]

theorem patchUriHeader_congr (h : t.clientSide = s.clientSide) :
    t.patchUriHeader = s.patchUriHeader := by
  funext re msg name
  unfold patchUriHeader
  rw [rewriteUrls_congr h]

theorem urlGrowth_congr (h : t.clientSide = s.clientSide) : t.urlGrowth = s.urlGrowth := by
  funext re msg name
  unfold urlGrowth
  rw [rewriteUrls_congr h]

theorem sdpGrowth_congr (h : t.clientSide = s.clientSide) : t.sdpGrowth = s.sdpGrowth := by
  have haddr : t.localAddr = s.localAddr := by
    simp only [clientSide, Prod.mk.injEq] at h
    exact h.2.2.2.2.2.2.2.1
  funext msg
  unfold sdpGrowth
  rw [haddr]

theorem upstreamPattern_congr (h : t.clientSide = s.clientSide) :
    t.upstreamPattern = s.upstreamPattern := by
  have hip : t.ctx.serverIp = s.ctx.serverIp := by
    simp only [clientSide, Prod.mk.injEq] at h
    exact h.2.2.2.2.2.2.2.2.2
  unfold upstreamPattern
  rw [hip]

theorem replyGrowth_congr (h : t.clientSide = s.clientSide) (resp : Bytes) :
    t.replyGrowth resp = s.replyGrowth resp := by
  unfold replyGrowth
  rw [upstreamPattern_congr h, withTransport_congr h, transportGrowth_congr h,
    patchUriHeader_congr h, urlGrowth_congr h, sdpGrowth_congr h]

theorem clientSide_learnSession : (s.learnSession resp).clientSide = s.clientSide := by
  unfold learnSession RtspParser.parseSessionId
  split <;> rfl

theorem clientSide_learnUpstreamTransport (h : s.learnUpstreamTransport resp = .ok t) :
    t.clientSide = s.clientSide := by
  unfold learnUpstreamTransport at h
  split at h
  · obtain ⟨channels, _, h⟩ := Except.bind_eq_ok_iff.1 h
    split at h <;> cases h <;> rfl
  · cases h
    rfl

theorem clientSide_openPorts : (s.openPorts cfg).clientSide = s.clientSide := by
  unfold openPorts
  split
  · unfold sendZteHeartbeat
    split <;> rfl
  · unfold sendRtpTrigger
    split
    · rfl
    · dsimp only
      split <;> rfl

theorem clientSide_learnServerPorts {transport : Bytes}
    (h : s.learnServerPorts cfg transport = .ok t) : t.clientSide = s.clientSide := by
  unfold learnServerPorts at h
  split at h
  · cases h
    rfl
  · obtain ⟨rtp, _, h⟩ := Except.bind_eq_ok_iff.1 h
    obtain ⟨rtcp, _, h⟩ := Except.bind_eq_ok_iff.1 h
    cases h
    dsimp only
    split
    · rfl
    · rw [clientSide_openPorts]
      rfl

/-- The transport is patched as `withTransport` says. -/
theorem patchTransport_eq (h : s.patchTransport cfg resp = .ok (t, msg)) :
    t.clientSide = s.clientSide ∧ msg = s.withTransport resp := by
  unfold patchTransport at h
  unfold withTransport
  dsimp only at h ⊢
  split at h
  case isTrue hnil =>
    cases h
    exact ⟨rfl, (if_pos hnil).symm⟩
  case isFalse hnil =>
    obtain ⟨u, hu, h⟩ := Except.bind_eq_ok_iff.1 h
    cases h
    have hside := clientSide_learnServerPorts hu
    refine ⟨hside, ?_⟩
    rw [if_neg hnil, ← clientTransport_congr hside]

/-- The length of a patched reply: what is received, and by how much it grows. -/
theorem length_patchResponseForClient
    (h : s.patchResponseForClient cfg resp = .ok (t, patched)) :
    ∃ n, s.replyGrowth resp = .ok n ∧ (patched.length : Int) = resp.length + n := by
  unfold patchResponseForClient at h
  obtain ⟨⟨u, msg⟩, hu, h⟩ := Except.bind_eq_ok_iff.1 h
  obtain ⟨re, hre, h⟩ := Except.bind_eq_ok_iff.1 h
  obtain ⟨based, hbased, h⟩ := Except.bind_eq_ok_iff.1 h
  obtain ⟨located, hlocated, h⟩ := Except.bind_eq_ok_iff.1 h
  cases h
  obtain ⟨hside, rfl⟩ := patchTransport_eq hu
  rw [← withTransport_congr hside] at hbased
  refine ⟨t.transportGrowth resp + t.urlGrowth re (t.withTransport resp) (ascii "Content-Base") +
    t.urlGrowth re based (ascii "RTP-Info") + t.sdpGrowth located, ?_, ?_⟩
  · rw [← replyGrowth_congr hside, replyGrowth, hre]
    show (t.patchUriHeader re (t.withTransport resp) (ascii "Content-Base") >>= fun based => _) = _
    rw [hbased]
    show (t.patchUriHeader re based (ascii "RTP-Info") >>= fun located => _) = _
    rw [hlocated]
    rfl
  · rw [length_patchSdp, length_patchUriHeader hlocated, length_patchUriHeader hbased,
      length_withTransport]
    omega

/-! ## Runs -/

/-- In a block of four bytes or more, a frame is cut to fit behind its header. -/
theorem four_add_frameLength_le {blockSize : Nat} (h : 4 ≤ blockSize) (len : Nat) :
    4 + frameLength blockSize len ≤ blockSize := by
  unfold frameLength
  split
  · have hsub : blockSize + wordSize - 4 = (blockSize - 4) + wordSize := by omega
    rw [hsub, Nat.add_mod_right]
    have := Nat.mod_le (blockSize - 4) wordSize
    omega
  · omega

theorem inBounds_sendFrame? {c : Core} {frame : Option (UInt8 × Bytes)} (hc : c.pool.InBounds)
    (hframe : frame ≠ none → 4 ≤ c.pool.bufSize) : (c.sendFrame? frame).pool.InBounds := by
  cases frame with
  | none => exact hc
  | some f =>
    have h4 : 4 ≤ c.pool.bufSize := hframe (Option.some_ne_none f)
    have hlen := four_add_frameLength_le h4 f.2.length
    have hwritten : ((((c.pool.acquire.write 1).write 2).write 4).write
        (4 + frameLength c.pool.bufSize f.2.length)).InBounds := by
      simp only [BufferPool.inBounds_write, BufferPool.bufSize_write, BufferPool.bufSize_acquire,
        BufferPool.inBounds_acquire]
      exact ⟨hlen, h4, by omega, by omega, hc⟩
    simp only [Core.sendFrame?, Core.sendFrame]
    split
    · exact hwritten
    · exact hwritten

/-- The frame that a step queues has room for its header, and the reply it queues for what it
    has grown to. -/
def FitsBlocks (cfg : ServerConfig) (s : RtspToRtspClient) (e : Event) : Prop :=
  (s.frameOf cfg e ≠ none → 4 ≤ s.pool.bufSize) ∧
  ∀ resp ∈ s.replyOf e, ∀ n ∈ (s.replyGrowth resp).toOption, (resp.length + n : Int) ≤ s.pool.bufSize

instance (cfg : ServerConfig) (s : RtspToRtspClient) (e : Event) :
    Decidable (FitsBlocks cfg s e) :=
  inferInstanceAs (Decidable ((_ → _) ∧ ∀ resp ∈ s.replyOf e, ∀ n ∈ _, _))

theorem Patches.length (h : s.Patches cfg resp patched) :
    ∃ n, s.replyGrowth resp = .ok n ∧ (patched.length : Int) = resp.length + n := by
  obtain ⟨u, v, hu, hv⟩ := h
  obtain ⟨n, hn, hlen⟩ := length_patchResponseForClient hv
  have hside : u.clientSide = s.clientSide :=
    (clientSide_learnUpstreamTransport hu).trans clientSide_learnSession
  exact ⟨n, (replyGrowth_congr hside resp).symm.trans hn, hlen⟩

/-- A change stays inside the blocks if its frame and its reply fit. -/
theorem Change.inBounds {c c' : Core} {frame : Option (UInt8 × Bytes)} {replies : Bytes → Prop}
    {pushes : List Pushed} (h : Change frame replies pushes c c') (hc : c.pool.InBounds)
    (hframe : frame ≠ none → 4 ≤ c.pool.bufSize)
    (hreplies : ∀ patched, replies patched → patched.length ≤ c.pool.bufSize) :
    c'.pool.InBounds := by
  have hfill : ∀ n ≤ c.pool.bufSize, (c.fill n).pool.InBounds := by
    intro n hn
    simp only [Core.fill, BufferPool.inBounds_write, BufferPool.bufSize_acquire,
      BufferPool.inBounds_acquire]
    exact ⟨hn, hc⟩
  cases h with
  | relayed n hn =>
    cases n with
    | none => exact inBounds_sendFrame? hc hframe
    | some n =>
      refine inBounds_sendFrame? (hfill n (hn n rfl)) fun h => ?_
      rw [Core.bufSize_fill]
      exact hframe h
  | replied patched hpatched _ => exact hfill patched.length (hreplies patched hpatched)
  | sent n _ _ =>
    unfold Core.advance
    split
    · exact hc
    · dsimp only
      split
      · exact hc
      · exact hc

/-- A step whose frame and reply fit stays inside the blocks. -/
theorem inBounds_of_step {e : Event} (hfits : s.FitsBlocks cfg e) (hs : s.pool.InBounds)
    (h : step cfg s e = .ok t) : t.pool.InBounds := by
  obtain ⟨hframe, hreply⟩ := hfits
  refine (change_of_step h).inBounds hs hframe fun patched hpatched => ?_
  obtain ⟨resp, hresp, hpatches⟩ := hpatched
  obtain ⟨n, hn, hlen⟩ := hpatches.length
  have hle := hreply resp hresp n (Option.mem_def.2 (congrArg Except.toOption hn))
  have hsize : s.core.pool.bufSize = s.pool.bufSize := rfl
  omega

/-- A run of such steps stays inside the blocks. -/
theorem inBounds_of_run (h : Run cfg (FitsBlocks cfg) s t) (hs : s.pool.InBounds) :
    t.pool.InBounds :=
  run_invariant (fun _ _ _ hP _ hfits hst => inBounds_of_step hfits hP hst) h hs

end RtspToRtspClient

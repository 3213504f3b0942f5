import RtsProxy.Clients.RtspToRtsp.Asides
import RtsProxy.Clients.RtspToRtsp.Runs

/-!
# The accounts of a relayed session

What a session counts, and what it has written to the client (`RtspToRtspClient.books`). The
totals are kept on each path of the media for itself. The accounts of a step are in order if what
is received from the upstream is counted once, and what is written to the client as sent
(`Balanced`). A datagram that is handed to a socket is counted, but gets to the client only if the
system takes it, and it has the address of the client.

* `balances_iff`: which steps keep the accounts in order;
* `accounts_iff`: the totals behind a run of such steps.
-/

open Text Interleaved

/-- A socket that sends to the client. -/
def RelaySocket.toClient : RelaySocket → Bool
  | .rtpDownstream | .rtcpDownstream => true
  | .rtpUpstream | .rtcpUpstream => false

/-- The bytes of datagrams. -/
def Datagram.bytes (ds : List Datagram) : Nat := (ds.map fun d => d.payload.length).sum

/-- What is counted, and what has been written. -/
structure Books where
  stats : Statistics
  upstreamEst : Nat
  /-- The bytes written to the connection of the client. -/
  written : Bytes
  /-- The datagrams handed to the sockets. -/
  datagrams : List Datagram
  /-- The address of the client. -/
  client : Ipv4

namespace Books

variable {b : Books} {taken : Nat → Bool} {n : Nat} {d : Datagram}

/-- The next datagram gets to the client: it is handed to a socket that sends to it, with its
    address, and the system takes it. -/
def reaches (taken : Nat → Bool) (client : Ipv4) (x : Datagram × Nat) : Bool :=
  x.1.socket.toClient && x.1.dest.addr = client && taken x.2

/-- The bytes written to the client, over its connection and as datagrams, if the system takes these
    datagrams, of all that it is handed. -/
def toClient (taken : Nat → Bool) (b : Books) : Nat :=
  b.written.length +
    Datagram.bytes ((b.datagrams.zipIdx.filter (reaches taken b.client)).map Prod.fst)

/-- The bytes of the datagrams handed to the sockets that send to the server. -/
def toServer (b : Books) : Nat := Datagram.bytes (b.datagrams.filter (! ·.socket.toClient))

/-- A datagram is sent. -/
def sendTo (d : Datagram) (b : Books) : Books := { b with datagrams := b.datagrams ++ [d] }

/-- Bytes received from the upstream are counted. -/
def countReceived (n : Nat) (b : Books) : Books :=
  { b with upstreamEst := b.upstreamEst + n, stats := b.stats.addUpstream n }

/-- Bytes received from the upstream are counted by the session only. -/
def countHere (n : Nat) (b : Books) : Books := { b with upstreamEst := b.upstreamEst + n }

theorem toClient_sendTo : (b.sendTo d).toClient taken = b.toClient taken +
    if reaches taken b.client (d, b.datagrams.length) then d.payload.length else 0 := by
  rw [toClient, toClient, sendTo]
  dsimp only
  rw [List.zipIdx_append, List.filter_append, List.map_append, Nat.zero_add]
  by_cases h : reaches taken b.client (d, b.datagrams.length) = true
  · simp [Datagram.bytes, h, Nat.add_assoc]
  · simp [Datagram.bytes, h]

theorem toServer_sendTo :
    (b.sendTo d).toServer = b.toServer + if d.socket.toClient then 0 else d.payload.length := by
  rw [toServer, toServer, sendTo]
  by_cases h : d.socket.toClient = true
  · simp [Datagram.bytes, h]
  · simp [Datagram.bytes, h]

/-- A packet is written to the client, and counted. -/
def sent (d : Datagram) (b : Books) : Books :=
  { b.sendTo d with stats := b.stats.addDownstream d.payload.length }

/-- A packet of the client is sent on to the server, and counted. -/
def passed (d : Datagram) (b : Books) : Books :=
  { b.sendTo d with stats := b.stats.addUpstream d.payload.length }

/-! ## Accounts in order -/

/-- The accounts of a step are in order in which `n` bytes of media are received from the upstream:
    these are counted once, in the total and by the session; beyond that the total only grows with
    what is sent on for the client, if anything is; and the total towards the client grows with what
    is written to it. -/
structure Balanced (taken : Nat → Bool) (n : Nat) (relays : Bool) (b c : Books) : Prop where
  upstream : c.stats.upstreamBytes =
    b.stats.upstreamBytes + n + if relays then c.toServer - b.toServer else 0
  est : c.upstreamEst = b.upstreamEst + n
  downstream :
    c.stats.downstreamBytes + b.toClient taken = b.stats.downstreamBytes + c.toClient taken

/-- At most datagrams are sent to the server that open its ports. -/
def Opened (b c : Books) : Prop :=
  ∃ ds : List Datagram, (∀ d ∈ ds, d.socket.toClient = false) ∧
    c = { b with datagrams := b.datagrams ++ ds }

variable {c : Books} {relays : Bool}

theorem Opened.refl (b : Books) : b.Opened b := ⟨[], nofun, by rw [List.append_nil]⟩

theorem Opened.of_eq (h : c = b) : b.Opened c := h ▸ .refl b

theorem Opened.trans {a : Books} (hab : a.Opened b) (hbc : b.Opened c) : a.Opened c := by
  obtain ⟨ds, hds, rfl⟩ := hab
  obtain ⟨ds', hds', rfl⟩ := hbc
  refine ⟨ds ++ ds', fun d hd => ?_, by rw [List.append_assoc]⟩
  rcases List.mem_append.1 hd with hd | hd
  · exact hds d hd
  · exact hds' d hd

theorem Opened.sendTo (h : d.socket.toClient = false) : b.Opened (b.sendTo d) :=
  ⟨[d], fun _ hd => List.mem_singleton.1 hd ▸ h, rfl⟩

theorem Balanced.refl (b : Books) : b.Balanced taken 0 relays b :=
  ⟨by rw [Nat.sub_self, ite_self]; rfl, rfl, rfl⟩

theorem Balanced.of_eq (h : c = b) : b.Balanced taken 0 relays c := by
  rw [h]
  exact .refl b

theorem Opened.balanced (h : b.Opened c) : b.Balanced taken 0 false c := by
  obtain ⟨ds, hds, rfl⟩ := h
  have hnone : (ds.zipIdx b.datagrams.length).filter (reaches taken b.client) = [] := by
    refine List.filter_eq_nil_iff.2 fun x hx => ?_
    rw [reaches, hds x.1 (List.fst_mem_of_mem_zipIdx hx)]
    exact Bool.false_ne_true
  refine ⟨rfl, rfl, ?_⟩
  rw [toClient, toClient]
  dsimp only
  rw [List.zipIdx_append, List.filter_append, Nat.zero_add, hnone, List.append_nil]

theorem balanced_countReceived : b.Balanced taken n false (b.countReceived n) := ⟨rfl, rfl, rfl⟩

/-- A packet that is sent to the client keeps the accounts in order exactly if it gets there, or is
    empty. -/
theorem Balanced.sent_iff (h : b.Balanced taken n false c) :
    b.Balanced taken n false (c.sent d) ↔
      (d.payload ≠ [] → reaches taken c.client (d, c.datagrams.length) = true) := by
  have hclient : (c.sent d).toClient taken = (c.sendTo d).toClient taken := rfl
  have hstats : (c.sent d).stats.downstreamBytes = c.stats.downstreamBytes + d.payload.length := rfl
  have hdown := h.downstream
  by_cases hreaches : reaches taken c.client (d, c.datagrams.length) = true
  · refine iff_of_true ⟨h.upstream, h.est, ?_⟩ fun _ => hreaches
    rw [hclient, toClient_sendTo, if_pos hreaches, hstats]
    omega
  · constructor
    · intro hsent hne
      have hdown' := hsent.downstream
      rw [hclient, toClient_sendTo, if_neg hreaches, hstats] at hdown'
      exact absurd (List.length_eq_zero_iff.1 (by omega)) hne
    · intro hempty
      have hnil : d.payload = [] := by_contra fun hne => hreaches (hempty hne)
      refine ⟨h.upstream, h.est, ?_⟩
      rw [hclient, toClient_sendTo, if_neg hreaches, hstats, hnil, List.length_nil]
      exact hdown

/-- A packet of the client that is sent on is counted. -/
theorem balanced_passed (hd : d.socket.toClient = false) : b.Balanced taken 0 true (b.passed d) := by
  have hserver : (b.passed d).toServer = (b.sendTo d).toServer := rfl
  have hclient : (b.passed d).toClient taken = (b.sendTo d).toClient taken := rfl
  refine ⟨?_, rfl, ?_⟩
  · rw [if_pos rfl, hserver, toServer_sendTo, hd, if_neg Bool.false_ne_true, Nat.add_sub_cancel_left]
    rfl
  · rw [hclient, toClient_sendTo, if_neg (by rw [reaches, hd]; exact Bool.false_ne_true)]
    rfl

/-- Bytes that the connection of the client takes are counted. -/
theorem balanced_written {bytes : Bytes} (h : bytes.length = n) : b.Balanced taken 0 false
    { b with stats := b.stats.addDownstream n, written := b.written ++ bytes } := by
  refine ⟨rfl, rfl, ?_⟩
  have hclient : ∀ k m, m = b.stats.downstreamBytes + n →
      m + (b.written.length + k) = b.stats.downstreamBytes + ((b.written ++ bytes).length + k) := by
    intro k m hm
    rw [hm, List.length_append, h]
    omega
  exact hclient _ _ rfl

end Books

namespace RtspToRtspClient

/-- The books of a session. -/
def books (s : RtspToRtspClient) : Books :=
  ⟨s.stats, s.upstreamEst, s.toDownstreamQ.written, s.datagrams, s.clientAddr.addr⟩

variable {s t : RtspToRtspClient} {cfg : ServerConfig} {e : Event} {taken : Nat → Bool} {n : Nat}
  {data : Bytes}

/-! ## Paths of the media -/

/-- A packet is only queued. -/
theorem books_sendInterleavedDownstream (channel : UInt8) (data : Bytes) :
    (s.sendInterleavedDownstream channel data).books = s.books := by
  have hwritten : ∀ (q : SendQueue) (i : Item), (q.pushBounded downstreamLimit i).written = q.written := by
    intro q i
    rw [SendQueue.pushBounded, SendQueue.dropFront]
    split
    · split <;> rfl
    · rfl
  rw [sendInterleavedDownstream]
  split
  · rfl
  · dsimp only [books]
    rw [hwritten]

/-- A packet goes to the client as a datagram. -/
def sendsDatagram (s : RtspToRtspClient) (dest : SockAddr) : Bool :=
  !s.isDownstreamTcp && dest.port ≠ 0

/-- The next datagram gets to the client, if it is sent to this address. -/
def Gets (taken : Nat → Bool) (s : RtspToRtspClient) (dest : SockAddr) : Prop :=
  dest.addr = s.clientAddr.addr ∧ taken s.datagrams.length = true

instance (s : RtspToRtspClient) (dest : SockAddr) : Decidable (s.Gets taken dest) :=
  inferInstanceAs (Decidable (_ ∧ _))

/-- If a packet goes to the client as a datagram, then it gets there. -/
def Arrives (taken : Nat → Bool) (s : RtspToRtspClient) (dest : SockAddr) (packet : Bytes) : Prop :=
  s.sendsDatagram dest → packet ≠ [] → s.Gets taken dest

instance (s : RtspToRtspClient) (dest : SockAddr) (packet : Bytes) :
    Decidable (s.Arrives taken dest packet) :=
  inferInstanceAs (Decidable (_ → _ → _))

/-- The same of what the pipeline makes of an RTP packet. -/
def RtpArrives (cfg : ServerConfig) (taken : Nat → Bool) (s : RtspToRtspClient) (packet : Bytes) :
    Prop :=
  let out := RtpPipeline.process cfg s.waitForKeyframe packet
  out.forward → s.Arrives taken s.clientRtpAddr out.packet

instance (s : RtspToRtspClient) (packet : Bytes) : Decidable (s.RtpArrives cfg taken packet) :=
  inferInstanceAs (Decidable (_ → _))

/-- A packet is queued, or sent and accounted for, or dropped. -/
theorem books_relayToClient (channel : UInt8) (socket : RelaySocket) (dest : SockAddr)
    (account : Nat → RtspToRtspClient → RtspToRtspClient) (data : Bytes) :
    (s.relayToClient channel socket dest account data).books =
      if s.sendsDatagram dest then (account data.length (s.sendTo socket dest data)).books
      else s.books := by
  rw [relayToClient, sendsDatagram]
  cases s.isDownstreamTcp with
  | true =>
    rw [if_pos rfl, if_neg (by simp)]
    exact books_sendInterleavedDownstream channel data
  | false =>
    by_cases hport : dest.port = 0
    · simp [hport]
    · simp [hport]

theorem reaches_iff {socket : RelaySocket} {dest : SockAddr} (h : socket.toClient = true) :
    Books.reaches taken s.clientAddr.addr (⟨socket, dest, data⟩, s.datagrams.length) = true ↔
      s.Gets taken dest := by
  rw [Books.reaches, h, Bool.true_and, Bool.and_eq_true, decide_eq_true_iff, Gets]

/-- What is relayed on a path that counts it keeps the accounts in order exactly if it arrives. -/
theorem balanced_relayToClient_iff {b : Books} {channel : UInt8} {socket : RelaySocket}
    {dest : SockAddr} {account : Nat → RtspToRtspClient → RtspToRtspClient}
    (haccount : ∀ k u, (account k u).books = { u.books with stats := u.stats.addDownstream k })
    (hsocket : socket.toClient = true) (h : b.Balanced taken n false s.books) (data : Bytes) :
    b.Balanced taken n false (s.relayToClient channel socket dest account data).books ↔
      s.Arrives taken dest data := by
  rw [books_relayToClient, Arrives]
  split
  case isTrue hsends =>
    rw [haccount, imp_iff_right hsends]
    exact (h.sent_iff (d := ⟨socket, dest, data⟩)).trans (imp_congr_right fun _ => reaches_iff hsocket)
  case isFalse hsends => exact iff_of_true h fun hyes => absurd hyes hsends

theorem balanced_handleRtpFromUpstream_iff (d : Incoming) :
    s.books.Balanced taken d.payload.length false (s.handleRtpFromUpstream cfg d).books ↔
      s.RtpArrives cfg taken d.payload := by
  unfold handleRtpFromUpstream RtpArrives
  extract_lets out src u
  have hu : s.books.Balanced taken d.payload.length false u.books := Books.balanced_countReceived
  split
  case isTrue hforward =>
    rw [imp_iff_right hforward]
    exact balanced_relayToClient_iff (fun _ _ => rfl) rfl hu _
  case isFalse hforward => exact iff_of_true hu fun hyes => absurd hyes hforward

theorem balanced_handleRtcpFromUpstream_iff (d : Incoming) :
    s.books.Balanced taken d.payload.length false (s.handleRtcpFromUpstream d).books ↔
      s.Arrives taken s.clientRtcpAddr d.payload :=
  balanced_relayToClient_iff (s := s.countReceived d.payload.length) (fun _ _ => rfl) rfl
    Books.balanced_countReceived _

/-- Inside the connection, the RTP packets are counted. -/
theorem balanced_handleInterleavedFromUpstream_iff {channel : UInt8}
    (h : channel = s.usInterleavedRtp) (data : Bytes) :
    s.books.Balanced taken data.length false (s.handleInterleavedFromUpstream cfg channel data).books ↔
      s.RtpArrives cfg taken (data.take s.pool.bufSize) := by
  have hcut : data.take (min data.length s.pool.bufSize) = data.take s.pool.bufSize := by
    rw [Nat.min_comm]
    exact List.take_eq_take_min.symm
  unfold handleInterleavedFromUpstream RtpArrives
  rw [if_pos h]
  extract_lets n out src u v out'
  have hout : out = out' := congrArg (RtpPipeline.process cfg s.waitForKeyframe) hcut
  have hu : s.books.Balanced taken data.length false u.books := Books.balanced_countReceived
  show s.books.Balanced taken data.length false v.books ↔ _
  rw [← hout]
  simp only [v]
  split
  case isTrue hforward =>
    rw [imp_iff_right hforward]
    exact balanced_relayToClient_iff (fun _ _ => rfl) rfl hu _
  case isFalse hforward => exact iff_of_true hu fun hyes => absurd hyes hforward

/-- Control packets are not: at most they are counted as sent to the server when they have been
    sent to the client. -/
theorem books_handleInterleavedFromUpstream {channel : UInt8} (hrtp : channel ≠ s.usInterleavedRtp)
    (hrtcp : channel = s.usInterleavedRtcp) (data : Bytes) :
    (s.handleInterleavedFromUpstream cfg channel data).books =
      if s.sendsDatagram s.clientRtcpAddr then
        (s.books.countHere data.length).passed ⟨.rtcpDownstream, s.clientRtcpAddr, data⟩
      else s.books.countHere data.length := by
  rw [handleInterleavedFromUpstream, if_neg hrtp, if_pos hrtcp]
  exact books_relayToClient (s := { s with upstreamEst := s.upstreamEst + data.length }) _ _ _ _ _

/-- So the accounts are in order only if there is nothing in them, or they are sent to the client,
    and do not get there. -/
theorem balanced_rtcp_iff {channel : UInt8} (hrtp : channel ≠ s.usInterleavedRtp)
    (hrtcp : channel = s.usInterleavedRtcp) (data : Bytes) :
    s.books.Balanced taken data.length false (s.handleInterleavedFromUpstream cfg channel data).books ↔
      (data ≠ [] → s.sendsDatagram s.clientRtcpAddr ∧ ¬s.Gets taken s.clientRtcpAddr) := by
  rw [books_handleInterleavedFromUpstream hrtp hrtcp, ← List.length_pos_iff]
  by_cases hsends : s.sendsDatagram s.clientRtcpAddr = true
  · rw [if_pos hsends, and_iff_right hsends,
      ← @reaches_iff s taken data .rtcpDownstream _ rfl]
    have hclient : ((s.books.countHere data.length).passed
        ⟨.rtcpDownstream, s.clientRtcpAddr, data⟩).toClient taken = s.books.toClient taken +
          if Books.reaches taken s.clientAddr.addr (⟨.rtcpDownstream, s.clientRtcpAddr, data⟩,
            s.datagrams.length) = true then data.length else 0 :=
      Books.toClient_sendTo (b := s.books)
    constructor
    · intro h hne hreaches
      -- The datagram is written to the client, and not counted as such.
      have hdown := h.downstream
      rw [hclient, if_pos hreaches, ← Nat.add_assoc] at hdown
      have hzero : data.length = 0 := Nat.add_left_cancel (hdown.symm.trans rfl)
      omega
    · intro hlost
      have hno : (if Books.reaches taken s.clientAddr.addr (⟨.rtcpDownstream, s.clientRtcpAddr, data⟩,
          s.datagrams.length) = true then data.length else 0) = 0 := by
        split
        case isTrue hreaches => exact Nat.eq_zero_of_not_pos fun hne => hlost hne hreaches
        case isFalse => rfl
      refine ⟨rfl, rfl, ?_⟩
      rw [hclient, hno]
      rfl
  · -- The total does not grow.
    rw [if_neg hsends]
    refine ⟨fun h hne => ?_, fun hnil => ?_⟩
    · have hzero : data.length = 0 := Nat.add_left_cancel (h.upstream.symm.trans rfl)
      omega
    · have hempty : data.length = 0 := Nat.eq_zero_of_not_pos fun hne => hsends (hnil hne).1
      refine ⟨?_, rfl, rfl⟩
      rw [hempty]
      rfl

/-! ## Datagrams -/

/-- A turn over a datagram. -/
theorem balanced_receiveTurn_iff {handle : Incoming → RtspToRtspClient → RtspToRtspClient}
    {relays : Bool} (size : Bytes → Nat) {P : Bytes → Prop} (hnil : size [] = 0)
    (hhandle : ∀ (d : Incoming) (pool : BufferPool),
      s.books.Balanced taken (size d.payload) relays (handle d { s with pool := pool }).books ↔
        P d.payload) (d : Incoming) :
    s.books.Balanced taken (size (s.received d)) relays (receiveTurn handle d s).state.books ↔
      (s.received d ≠ [] → P (s.received d)) := by
  unfold receiveTurn
  extract_lets payload u v
  have hpayload : payload = s.received d := rfl
  split
  case isTrue hempty =>
    rw [← hpayload, hempty, hnil]
    exact iff_of_true (.refl s.books) fun hne => absurd rfl hne
  case isFalse hne =>
    rw [← hpayload, imp_iff_right hne]
    exact hhandle { d with payload := payload } _

/-- A packet of the client is sent on and counted, or dropped. -/
theorem balanced_handleRtpFromClient (d : Incoming) :
    s.books.Balanced taken 0 true (s.handleRtpFromClient d).books := by
  rw [handleRtpFromClient]
  split
  · dsimp only
    split
    · exact .refl s.books
    · exact Books.balanced_passed (d := ⟨.rtpUpstream, s.serverRtpAddr, d.payload⟩) rfl
  · exact .refl s.books

@[inherit_doc balanced_handleRtpFromClient]
theorem balanced_handleRtcpFromClient (d : Incoming) :
    s.books.Balanced taken 0 true (s.handleRtcpFromClient d).books := by
  rw [handleRtcpFromClient]
  split
  · dsimp only
    split
    · exact .refl s.books
    · exact Books.balanced_passed (d := ⟨.rtcpUpstream, s.serverRtcpAddr, d.payload⟩) rfl
  · exact .refl s.books

@[inherit_doc balanced_handleRtpFromClient]
theorem balanced_handleInterleavedFromClient (channel : UInt8) (data : Bytes) :
    s.books.Balanced taken 0 true (s.handleInterleavedFromClient channel data).books := by
  rw [handleInterleavedFromClient]
  dsimp only
  split
  · split
    · exact .refl s.books
    · exact Books.balanced_passed (d := ⟨.rtpUpstream, s.serverRtpAddr, data⟩) rfl
  · split
    · split
      · exact .refl s.books
      · exact Books.balanced_passed (d := ⟨.rtcpUpstream, s.serverRtcpAddr, data⟩) rfl
    · exact .refl s.books

/-! ## Control messages -/

theorem opened_openPorts : s.books.Opened (s.openPorts cfg).books := by
  rw [openPorts]
  split
  case isTrue hzte =>
    rw [sendZteHeartbeat, if_pos hzte]
    exact .sendTo (d := ⟨.rtpUpstream, s.serverRtpAddr, _⟩) rfl
  case isFalse =>
    rw [sendRtpTrigger]
    split
    · exact .refl s.books
    · have hfirst : s.books.Opened (s.sendTo .rtpUpstream s.serverRtpAddr [0]).books :=
        .sendTo (d := ⟨.rtpUpstream, s.serverRtpAddr, [0]⟩) rfl
      dsimp only
      split
      · exact hfirst
      · exact hfirst.trans (.sendTo (d := ⟨.rtcpUpstream, s.serverRtcpAddr, [0]⟩) rfl)

theorem opened_learnServerPorts {transport : Bytes} (h : s.learnServerPorts cfg transport = .ok t) :
    s.books.Opened t.books := by
  rw [learnServerPorts] at h
  split at h
  · cases h
    exact .refl s.books
  · obtain ⟨rtp, -, h⟩ := Except.bind_eq_ok_iff.1 h
    obtain ⟨rtcp, -, h⟩ := Except.bind_eq_ok_iff.1 h
    cases h
    split
    · exact .refl s.books
    · exact opened_openPorts (s := { s with
        serverRtpAddr := s.serverAddr s.serverRtpAddr (toUint16 rtp)
        serverRtcpAddr := s.serverAddr s.serverRtcpAddr (toUint16 rtcp) })

theorem opened_patchResponseForClient {resp msg : Bytes}
    (h : s.patchResponseForClient cfg resp = .ok (t, msg)) : s.books.Opened t.books := by
  obtain ⟨⟨u, transported⟩, hu, h⟩ := Except.bind_eq_ok_iff.1 h
  obtain ⟨re, -, h⟩ := Except.bind_eq_ok_iff.1 h
  obtain ⟨based, -, h⟩ := Except.bind_eq_ok_iff.1 h
  obtain ⟨located, -, h⟩ := Except.bind_eq_ok_iff.1 h
  cases h
  rw [patchTransport] at hu
  dsimp only at hu
  split at hu
  · cases hu
    exact .refl s.books
  · obtain ⟨v, hv, hu⟩ := Except.bind_eq_ok_iff.1 hu
    cases hu
    exact opened_learnServerPorts hv

theorem opened_startStreaming (resp : Bytes) : s.books.Opened (s.startStreaming cfg resp).books := by
  rw [startStreaming]
  split
  · dsimp only
    split
    · exact .refl s.books
    · exact opened_openPorts (s := { s with
        pendingPlay := false, waitForKeyframe := cfg.waitKeyframe, timerArmed := true
        state := .streaming })
  · exact .refl s.books

theorem books_learnUpstreamTransport {resp : Bytes} (h : s.learnUpstreamTransport resp = .ok t) :
    t.books = s.books := by
  rw [learnUpstreamTransport] at h
  split at h
  · obtain ⟨channels, -, h⟩ := Except.bind_eq_ok_iff.1 h
    rcases channels with _ | ⟨rtp, rtcp⟩
    all_goals
      cases h
      rfl
  · cases h
    rfl

theorem books_onUpstreamWritable (calls : UpstreamCalls) :
    (s.onUpstreamWritable calls).books = s.books :=
  (congrArg books (unwritten_onUpstreamWritable (s := s) calls) :)

theorem opened_handleResponse {calls : UpstreamCalls} {resp : Bytes}
    (h : s.handleResponse cfg calls resp = .ok t) : s.books.Opened t.books := by
  rcases handleResponse_cases h with ⟨-, rfl⟩ | ⟨-, -, rfl⟩ | ⟨-, -, u, v, patched, hu, hv, rfl⟩
  · exact .refl _
  · exact .of_eq (books_onUpstreamWritable _)
  · have hstart : u.books.Opened (v.startStreaming cfg resp).books :=
      (opened_patchResponseForClient hv).trans (opened_startStreaming resp)
    rw [books_learnUpstreamTransport hu] at hstart
    exact hstart

theorem books_patchTransportForUpstream (s : RtspToRtspClient) (req : Bytes) :
    (s.patchTransportForUpstream cfg req).1.books = s.books :=
  (congrArg books (unplaced_patchTransportForUpstream (s := s) req) :)

theorem books_handleRequest {ports : RelayPorts} {req : Bytes} {r : Turn RtspToRtspClient}
    (h : s.handleRequest cfg ports req = .ok r) : r.state.books = s.books := by
  rw [handleRequest] at h
  split at h
  · obtain ⟨u, hu, h⟩ := Except.bind_eq_ok_iff.1 h
    have hlearnt : u.books = s.books := (congrArg books (unplaced_learnClientTransport hu) :)
    have hports : (u.initRelaySockets ports).2.books = u.books :=
      (congrArg books (unplaced_initRelaySockets (s := u) ports) :)
    obtain ⟨ready, v, hv, hready⟩ : ∃ ready v, v.books = s.books ∧
        (if u.relayReady = true then (true, u) else u.initRelaySockets ports) = (ready, v) := by
      split
      · exact ⟨true, u, hlearnt, rfl⟩
      · exact ⟨_, _, hports.trans hlearnt, rfl⟩
    rw [hready] at h
    dsimp only at h
    split at h
    · cases h
      exact hv
    · split at h
      · cases h
        exact hv
      · cases h
        exact (books_patchTransportForUpstream
          { v with relayReady := true, lastSetupReq := req } req).trans hv
  · cases h
    rfl

/-! ## Steps -/

/-- The bytes of media that a step receives from the upstream: an RTP or RTCP packet, as a datagram
    or inside the connection. While the answer of the STUN server is waited for, a packet of the
    server may come in its place. -/
def mediaReceived (s : RtspToRtspClient) : Event → Nat
  | .rtpFromUpstream d | .rtcpFromUpstream d => (s.received d).length
  | .stunReply d => if d.src = s.serverRtpAddr then (s.received d).length else 0
  | .upstreamTurn _ =>
    match frontFrame s.upstreamRecvBuf with
    | none => 0
    | some (channel, data) =>
      if channel = s.usInterleavedRtp ∨ channel = s.usInterleavedRtcp then data.length else 0
  | _ => 0

/-- A step in which media of the client may be sent on to the server. -/
def relaysUp : Event → Bool
  | .downstreamTurn _ | .rtpFromClient _ | .rtcpFromClient _ => true
  | _ => false

/-- The accounts of a step are in order. -/
def Balances (taken : Nat → Bool) (s : RtspToRtspClient) (e : Event) (t : RtspToRtspClient) : Prop :=
  s.books.Balanced taken (s.mediaReceived e) (relaysUp e) t.books

/-- A step that counts what it receives and what it writes to the client. A packet that goes to the
    client as a datagram gets there. A control packet inside the connection is empty, or does not get
    there, by which one slip makes up for another one. And no packet of the server comes in the place
    of the answer of the STUN server, unless it is empty. -/
def Counted (cfg : ServerConfig) (taken : Nat → Bool) (s : RtspToRtspClient) : Event → Prop
  | .upstreamTurn _ => ∀ f ∈ frontFrame s.upstreamRecvBuf,
    if f.1 = s.usInterleavedRtp then s.RtpArrives cfg taken (f.2.take s.pool.bufSize)
    else f.1 = s.usInterleavedRtcp → f.2 ≠ [] →
      s.sendsDatagram s.clientRtcpAddr ∧ ¬s.Gets taken s.clientRtcpAddr
  | .rtpFromUpstream d => s.received d ≠ [] → s.RtpArrives cfg taken (s.received d)
  | .rtcpFromUpstream d => s.received d ≠ [] → s.Arrives taken s.clientRtcpAddr (s.received d)
  | .stunReply d => d.src = s.serverRtpAddr → s.received d = []
  | _ => True

theorem balances_sendDownstream (r : SendResult) :
    s.books.Balanced taken 0 false (s.downstreamSendTurn r).state.books := by
  rw [downstreamSendTurn]
  split
  · exact .refl s.books
  next p ps hq =>
    dsimp only
    split
    · have htaken : (p.rest.take (r.taken p.rest.length)).length = r.taken p.rest.length := by
        rw [List.length_take, SendResult.taken]
        omega
      have hwritten : (s.toDownstreamQ.advance (r.taken p.rest.length)).written =
          s.toDownstreamQ.written ++ p.rest.take (r.taken p.rest.length) := by
        rw [SendQueue.advance, hq]
      have hbalanced := @Books.balanced_written s.books taken _ _ htaken
      rw [show s.books.written = s.toDownstreamQ.written from rfl, ← hwritten] at hbalanced
      exact hbalanced
    · split <;> exact .refl s.books

theorem books_handleStunReply (d : Incoming) : (s.handleStunReply cfg d).books = s.books := by
  have hreleased : ∀ u : RtspToRtspClient, (u.processPendingSetup cfg).books = u.books := fun u =>
    books_patchTransportForUpstream { u with
      pendingSetupReq := [], lastSetupReq := u.pendingSetupReq } u.pendingSetupReq
  unfold handleStunReply
  extract_lets data u port v
  show v.books = s.books
  simp only [v]
  split
  · rfl
  · exact hreleased _

/-- A turn over the bytes of the upstream. -/
theorem balances_upstreamTurn_iff {calls : UpstreamCalls} {r : Turn RtspToRtspClient}
    (h : s.upstreamTurn cfg calls = .ok r) :
    s.Balances taken (.upstreamTurn calls) r.state ↔ s.Counted cfg taken (.upstreamTurn calls) := by
  rcases upstreamTurn_cases h with ⟨rfl, hframe, -⟩ | ⟨channel, data, hframe, rfl⟩ |
    ⟨msg, t, hframe, -, ht, rfl⟩
  · have hmedia : s.mediaReceived (.upstreamTurn calls) = 0 := by rw [mediaReceived, hframe]
    rw [Balances, hmedia, Counted, hframe]
    exact iff_of_true (.refl s.books) nofun
  · have hbooks : ((s.handleInterleavedFromUpstream cfg channel data).skipUpstream
        (4 + data.length)).books = (s.handleInterleavedFromUpstream cfg channel data).books := rfl
    have hmedia : s.mediaReceived (.upstreamTurn calls) =
        if channel = s.usInterleavedRtp ∨ channel = s.usInterleavedRtcp then data.length else 0 := by
      rw [mediaReceived, hframe]
    rw [Balances, Turn.state, hbooks, hmedia, Counted, hframe]
    simp only [Option.mem_some, forall_eq']
    by_cases hrtp : channel = s.usInterleavedRtp
    · rw [if_pos (.inl hrtp), if_pos hrtp]
      exact balanced_handleInterleavedFromUpstream_iff hrtp data
    · -- an RTCP packet is counted on one side only, and a packet of no channel on none
      rw [if_neg hrtp]
      by_cases hrtcp : channel = s.usInterleavedRtcp
      · rw [if_pos (.inr hrtcp), imp_iff_right hrtcp]
        exact balanced_rtcp_iff hrtp hrtcp data
      · rw [if_neg (not_or.2 ⟨hrtp, hrtcp⟩)]
        refine iff_of_true (.of_eq ?_) fun heq => absurd heq hrtcp
        rw [handleInterleavedFromUpstream, if_neg hrtp, if_neg hrtcp]
  · have hmedia : s.mediaReceived (.upstreamTurn calls) = 0 := by rw [mediaReceived, hframe]
    rw [Balances, hmedia, Counted, hframe]
    exact iff_of_true (opened_handleResponse ht).balanced nofun

/-- The accounts of a step are in order exactly if it counts what it receives. -/
theorem balances_iff (h : step cfg s e = .ok t) : s.Balances taken e t ↔ s.Counted cfg taken e := by
  cases e with
  | upstreamTurn calls =>
    obtain ⟨r, hr, rfl⟩ := Except.map_eq_ok_iff.1 h
    exact balances_upstreamTurn_iff hr
  | stunReply d =>
    cases h
    rw [Balances, books_handleStunReply, mediaReceived, Counted]
    split
    case isTrue hsrc =>
      -- a packet of the server that is taken for the answer is not counted
      rw [imp_iff_right hsrc, ← List.length_eq_zero_iff]
      refine ⟨fun hb => Nat.add_left_cancel (hb.est.symm.trans rfl), fun hnil => ?_⟩
      rw [hnil]
      exact .refl s.books
    case isFalse hsrc => exact iff_of_true (.refl s.books) fun heq => absurd heq hsrc
  | downstreamTurn ports =>
    refine iff_of_true ?_ trivial
    obtain ⟨r, hr, rfl⟩ := Except.map_eq_ok_iff.1 h
    rcases downstreamTurn_cases hr with ⟨rfl, -, -⟩ | ⟨channel, data, -, rfl⟩ | ⟨req, -, hreq⟩
    · exact .refl s.books
    · exact balanced_handleInterleavedFromClient channel data
    · exact .of_eq (books_handleRequest hreq :)
  | sendDownstream r =>
    cases h
    exact iff_of_true (balances_sendDownstream r) trivial
  | upstreamWritable calls =>
    cases h
    exact iff_of_true (.of_eq (books_onUpstreamWritable calls)) trivial
  | rtpFromUpstream d =>
    cases h
    exact balanced_receiveTurn_iff List.length rfl
      (fun d pool => @balanced_handleRtpFromUpstream_iff { s with pool := pool } cfg taken d) d
  | rtcpFromUpstream d =>
    cases h
    exact balanced_receiveTurn_iff List.length rfl
      (fun d pool => @balanced_handleRtcpFromUpstream_iff { s with pool := pool } taken d) d
  | rtpFromClient d =>
    -- what the client sends is no packet of the server, and is counted when it is sent on
    cases h
    have hhandle : ∀ (d : Incoming) (pool : BufferPool), s.books.Balanced taken 0 true
        ({ s with pool := pool }.handleRtpFromClient d).books := fun d pool =>
      @balanced_handleRtpFromClient { s with pool := pool } taken d
    refine iff_of_true ((balanced_receiveTurn_iff (fun _ => 0) (P := fun _ => True) rfl
      (fun d pool => iff_of_true (hhandle d pool) trivial) d).2 fun _ => trivial) trivial
  | rtcpFromClient d =>
    cases h
    have hhandle : ∀ (d : Incoming) (pool : BufferPool), s.books.Balanced taken 0 true
        ({ s with pool := pool }.handleRtcpFromClient d).books := fun d pool =>
      @balanced_handleRtcpFromClient { s with pool := pool } taken d
    refine iff_of_true ((balanced_receiveTurn_iff (fun _ => 0) (P := fun _ => True) rfl
      (fun d pool => iff_of_true (hhandle d pool) trivial) d).2 fun _ => trivial) trivial
  | downstreamSent =>
    cases h
    refine iff_of_true (.of_eq ?_) trivial
    rw [onDownstreamWritable, drainDownstream]
    split <;> rfl
  | receiveDownstream bytes | receiveUpstream bytes =>
    cases h
    exact iff_of_true (.refl s.books) trivial
  | noDatagram | timer | close =>
    cases h
    exact iff_of_true (.refl s.books) trivial

/-! ## Runs -/

/-- What has been received from the upstream during a run, and sent on for the client. -/
structure Tally where
  received : Nat := 0
  relayed : Nat := 0
  deriving DecidableEq

/-- A step is added to the tally. -/
def tally (c : Tally) (s : RtspToRtspClient) (e : Event) (t : RtspToRtspClient) : Tally where
  received := c.received + s.mediaReceived e
  relayed := c.relayed + if relaysUp e then t.books.toServer - s.books.toServer else 0

/-- The totals of a session agree with a tally and with what it has written since it was another
    one. -/
structure TotalsAgree (taken : Nat → Bool) (s : RtspToRtspClient) (t : RtspToRtspClient × Tally) :
    Prop where
  upstream : t.1.stats.upstreamBytes = s.stats.upstreamBytes + t.2.received + t.2.relayed
  est : t.1.upstreamEst = s.upstreamEst + t.2.received
  downstream :
    t.1.stats.downstreamBytes + s.books.toClient taken =
      s.stats.downstreamBytes + t.1.books.toClient taken

/-- A step whose accounts are in order keeps the totals in agreement. -/
theorem TotalsAgree.step {u : RtspToRtspClient} {c : Tally} (h : TotalsAgree taken s (u, c))
    (hbalanced : u.Balances taken e t) : TotalsAgree taken s (t, tally c u e t) := by
  obtain ⟨hup, hest, hdown⟩ := h
  obtain ⟨hup', hest', hdown'⟩ := hbalanced
  refine ⟨?_, ?_, ?_⟩
  · show t.books.stats.upstreamBytes = _
    rw [hup']
    show u.stats.upstreamBytes + _ + _ = _
    rw [hup]
    simp only [tally]
    omega
  · show t.books.upstreamEst = _
    rw [hest']
    show u.upstreamEst + _ = _
    rw [hest]
    exact Nat.add_assoc _ _ _
  · have hmid : u.books.stats.downstreamBytes + s.books.toClient taken =
        s.stats.downstreamBytes + u.books.toClient taken := hdown
    show t.books.stats.downstreamBytes + s.books.toClient taken =
      s.stats.downstreamBytes + t.books.toClient taken
    omega

theorem totalsAgree_of_run {c : Tally}
    (h : NotedRun cfg tally (fun x e => x.1.Counted cfg taken e) (s, {}) (t, c)) :
    TotalsAgree taken s (t, c) := by
  refine notedRun_invariant (P := TotalsAgree taken s) ?_ h ⟨rfl, rfl, rfl⟩
  intro u c e v hu _ hcounted hstep
  exact hu.step ((balances_iff hstep).2 hcounted)

instance (s : RtspToRtspClient) : ∀ e, Decidable (s.Counted cfg taken e)
  | .upstreamTurn _ => by unfold Counted; infer_instance
  | .rtpFromUpstream _ | .rtcpFromUpstream _ | .stunReply _ => inferInstanceAs (Decidable (_ → _))
  | .receiveDownstream _ | .downstreamTurn _ | .receiveUpstream _ | .rtpFromClient _
  | .rtcpFromClient _ | .noDatagram | .timer | .sendDownstream _ | .downstreamSent
  | .upstreamWritable _ | .close => isTrue trivial

/-- Client and server agree on the channels 0 and 1. -/
def channelEvents : List Event :=
  let transport := ascii "Transport: RTP/AVP/TCP;" ++ ascii "interleaved=0-1" ++ crlf2
  [connectEvent, .receiveDownstream (ascii "SETUP a RTSP/1.0\r\n" ++ transport),
    .downstreamTurn ⟨.bound 20000, .bound 30000⟩,
    .receiveUpstream (ascii "RTSP/1.0 200 OK\r\n" ++ transport), .upstreamTurn {}]

/-- A frame of the server with a packet of three bytes. -/
def frameEvents (channel : UInt8) : List Event :=
  [.receiveUpstream [36, channel, 0, 3, 128, 200, 0], .upstreamTurn {}]

/-- A packet of thirteen bytes from the server. -/
def packetOf13 : Incoming := ⟨⟨⟨10, 0, 0, 9⟩, 7000⟩, 128 :: List.replicate 12 0⟩

/-- The client asks for datagrams, and an RTP packet of the server is one, too. -/
def datagramEvents : List Event :=
  [connectEvent, .receiveDownstream (ascii "SETUP a RTSP/1.0\r\n" ++
      ascii "Transport: RTP/AVP;client_port=6000-6001" ++ crlf2),
    .downstreamTurn ⟨.bound 20000, .bound 30000⟩,
    .rtpFromUpstream packetOf13]

/-- The client names no ports in its `SETUP`, and sends a datagram. What the server then sends goes
    to its port, at an address that has never been set. -/
def unaddressedEvents : List Event :=
  [connectEvent, .receiveDownstream (ascii "SETUP a RTSP/1.0\r\nTransport: RTP/AVP" ++ crlf2),
    .downstreamTurn ⟨.bound 20000, .bound 30000⟩, .rtpFromClient ⟨⟨⟨10, 0, 0, 2⟩, 7000⟩, [0]⟩]

end RtspToRtspClient

import RtsProxy.Clients.RtspToRtsp.Patch
import RtsProxy.Core.PortPool
import RtsProxy.Loop
import RtsProxy.Protocol.Interleaved

/-!
# The event handlers of a relayed RTSP session

The handlers take the results of their system calls as arguments: what is received, how
much is taken by each `send`, which ports can be bound. Each loop of the code is a turn
function and its repetition; a handler that throws ends the program, since the event
loop does not catch.
-/

open Text Interleaved

/-- What becomes of the pairs of the relay, towards the upstream and the client. -/
structure RelayPorts where
  upstream : PairResult
  downstream : PairResult
  deriving DecidableEq, Repr

/-- What the system calls of `on_upstream_writable` return: whether the connection has
    failed, the local address of the socket, and how much each `send` takes (behind the
    last one, the socket would block). -/
structure UpstreamCalls where
  connectFailed : Bool := false
  localName : Option SockAddr := none
  sends : List SendResult := []
  deriving DecidableEq, Repr

namespace RtspToRtspClient

/-! ## Interleaved media -/

/-- How much of a packet is put into a frame. -/
def frameLength (blockSize len : Nat) : Nat :=
  if blockSize < len + 4 then (blockSize + wordSize - 4) % wordSize else len

/-- The frame that `send_interleaved_downstream` builds. -/
def frameItem (blockSize : Nat) (channel : UInt8) (data : Bytes) : Item :=
  let len := frameLength blockSize data.length
  { kind := .frame
    data := (frameHeader channel len ++ data.take len).take ((len + 4) % wordSize) }

/-- `send_interleaved_downstream` -/
def sendInterleavedDownstream (channel : UInt8) (data : Bytes) (s : RtspToRtspClient) :
    RtspToRtspClient :=
  if s.closed then s
  else
    let len := frameLength s.pool.bufSize data.length
    -- the header is written in three pieces, then the payload
    let pool := ((((s.pool.acquire.write 1).write 2).write 4).write (4 + len))
    let pool := if downstreamLimit < s.toDownstreamQ.packets.length then pool.release else pool
    { s with
      pool := pool
      toDownstreamQ :=
        s.toDownstreamQ.pushBounded downstreamLimit (frameItem s.pool.bufSize channel data)
      downstreamEst := s.downstreamEst + (len + 4) % wordSize
      downstreamEvents := { readable := true, writable := true } }

/-- `handle_interleaved_from_client` -/
def handleInterleavedFromClient (channel : UInt8) (data : Bytes) (s : RtspToRtspClient) :
    RtspToRtspClient :=
  let relay := fun socket (dest : SockAddr) =>
    if dest.port = 0 then s
    else { s.sendTo socket dest data with stats := s.stats.addUpstream data.length }
  if channel = s.dsInterleavedRtp then relay .rtpUpstream s.serverRtpAddr
  else if channel = s.dsInterleavedRtcp then relay .rtcpUpstream s.serverRtcpAddr
  else s

/-- A packet of the server goes to the client: in a frame, or as a datagram, which is then
    accounted for. -/
def relayToClient (channel : UInt8) (socket : RelaySocket) (dest : SockAddr)
    (account : Nat → RtspToRtspClient → RtspToRtspClient) (data : Bytes) (s : RtspToRtspClient) :
    RtspToRtspClient :=
  if s.isDownstreamTcp then s.sendInterleavedDownstream channel data
  else if dest.port = 0 then s
  else account data.length (s.sendTo socket dest data)

/-- Bytes received from the server are counted. -/
def countReceived (n : Nat) (s : RtspToRtspClient) : RtspToRtspClient :=
  { s with upstreamEst := s.upstreamEst + n, stats := s.stats.addUpstream n }

/-- Bytes sent to the client are counted in the totals. -/
def countSent (n : Nat) (s : RtspToRtspClient) : RtspToRtspClient :=
  { s with stats := s.stats.addDownstream n }

/-- Bytes sent to the client are counted in the totals and by the session. -/
def countSentHere (n : Nat) (s : RtspToRtspClient) : RtspToRtspClient :=
  { s.countSent n with downstreamEst := s.downstreamEst + n }

/-- `handle_interleaved_from_upstream`. The control packets sent on as datagrams are added
    to the upstream total. -/
def handleInterleavedFromUpstream (cfg : ServerConfig) (channel : UInt8) (data : Bytes)
    (s : RtspToRtspClient) : RtspToRtspClient :=
  if channel = s.usInterleavedRtp then
    let n := min data.length s.pool.bufSize
    let out := RtpPipeline.process cfg s.waitForKeyframe (data.take n)
    let s := { s.countReceived data.length with
      pool := s.pool.acquire.write n, waitForKeyframe := out.waitForKeyframe }
    let s := if out.forward then
        s.relayToClient s.dsInterleavedRtp .rtpDownstream s.clientRtpAddr countSent out.packet
      else s
    { s with pool := s.pool.release }
  else if channel = s.usInterleavedRtcp then
    { s with upstreamEst := s.upstreamEst + data.length }.relayToClient s.dsInterleavedRtcp
      .rtcpDownstream s.clientRtcpAddr (fun n s => { s with stats := s.stats.addUpstream n }) data
  else s

/-! ## Datagrams -/

/-- A packet of the server, received over UDP. -/
def handleRtpFromUpstream (cfg : ServerConfig) (d : Incoming) (s : RtspToRtspClient) :
    RtspToRtspClient :=
  let out := RtpPipeline.process cfg s.waitForKeyframe d.payload
  let s := { s.countReceived d.payload.length with waitForKeyframe := out.waitForKeyframe }
  if out.forward then
    s.relayToClient s.dsInterleavedRtp .rtpDownstream s.clientRtpAddr countSentHere out.packet
  else s

/-- A control packet of the server, received over UDP. -/
def handleRtcpFromUpstream (d : Incoming) (s : RtspToRtspClient) : RtspToRtspClient :=
  (s.countReceived d.payload.length).relayToClient s.dsInterleavedRtcp .rtcpDownstream
    s.clientRtcpAddr countSentHere d.payload

/-- A packet of the client, received over UDP: its port is followed. -/
def handleRtpFromClient (d : Incoming) (s : RtspToRtspClient) : RtspToRtspClient :=
  if d.src.addr = s.clientAddr.addr then
    let s := { s with clientRtpAddr := { s.clientRtpAddr with port := d.src.port } }
    if s.serverRtpAddr.port = 0 then s
    else
      let s := s.sendTo .rtpUpstream s.serverRtpAddr d.payload
      { s with stats := s.stats.addUpstream d.payload.length }
  else s

/-- A control packet of the client, received over UDP: its port is followed. -/
def handleRtcpFromClient (d : Incoming) (s : RtspToRtspClient) : RtspToRtspClient :=
  if d.src.addr = s.clientAddr.addr then
    let s := { s with clientRtcpAddr := { s.clientRtcpAddr with port := d.src.port } }
    if s.serverRtcpAddr.port = 0 then s
    else
      let s := s.sendTo .rtcpUpstream s.serverRtcpAddr d.payload
      { s with stats := s.stats.addUpstream d.payload.length }
  else s

/-- One turn of a loop over `recvfrom`: a datagram, cut to the size of a block, is handled;
    an empty one ends the loop. -/
def receiveTurn (handle : Incoming → RtspToRtspClient → RtspToRtspClient) (d : Incoming)
    (s : RtspToRtspClient) : Turn RtspToRtspClient :=
  let data := d.payload.take s.pool.bufSize
  let s := { s with pool := s.pool.acquire.write data.length }
  if data = [] then .leave { s with pool := s.pool.release }
  else
    let s := handle { d with payload := data } s
    .again { s with pool := s.pool.release }

/-- A loop over `recvfrom`. -/
def receiveAll (handle : Incoming → RtspToRtspClient → RtspToRtspClient) :
    List Incoming → RtspToRtspClient → RtspToRtspClient
  | [], s => { s with pool := (s.pool.acquire.write 0).release }
  | d :: ds, s =>
    match receiveTurn handle d s with
    | .leave s => s
    | .again s => receiveAll handle ds s

/-- `process_pending_setup` -/
def processPendingSetup (cfg : ServerConfig) (s : RtspToRtspClient) : RtspToRtspClient :=
  let req := s.pendingSetupReq
  let s := { s with pendingSetupReq := [], lastSetupReq := req }
  let (s, patched) := s.patchTransportForUpstream cfg req
  let s := s.pushUpstream .released patched (s.rewriteRequestForUpstream patched)
  { s with upstreamEvents := { readable := true, writable := true } }

/-- The reply of the STUN server, in the state that waits for it. -/
def handleStunReply (cfg : ServerConfig) (d : Incoming) (s : RtspToRtspClient) :
    RtspToRtspClient :=
  let data := d.payload.take s.pool.bufSize
  let s := { s with pool := s.pool.acquire.write data.length }
  let s :=
    if data = [] then s
    else
      let port := match StunClient.extractMapping data with
        | some mapped => mapped.port
        | none => s.localRtpUsPort
      processPendingSetup cfg { s with natWanPortUs := port, state := .idle }
  { s with pool := s.pool.release }

/-- The keepalive for the upstream. -/
def keepaliveText (rtspUrl sessionId : Bytes) : Bytes :=
  ascii "GET_PARAMETER " ++ rtspUrl ++ ascii " RTSP/1.0\r\nCSeq: 99\r\nSession: " ++ sessionId ++
    crlf2

/-- `handle_timer`: a keepalive is pushed. -/
def handleTimer (s : RtspToRtspClient) : RtspToRtspClient :=
  { s.pushUpstream .keepalive [] (keepaliveText s.ctx.rtspUrl s.ctx.sessionId) with
    upstreamEvents := { readable := true, writable := true } }

/-! ## The connection to the client -/

/-- `init_relay_sockets`: whether the ports of the relay could be bound. -/
def initRelaySockets (ports : RelayPorts) (s : RtspToRtspClient) : Bool × RtspToRtspClient :=
  match ports.upstream with
  | .failed us => (false, { s with localRtpUsPort := us })
  | .bound us =>
    let s := { s with localRtpUsPort := us, localRtcpUsPort := us + 1 }
    match ports.downstream with
    | .failed ds => (false, { s with localRtpDsPort := ds })
    | .bound ds => (true, { s with localRtpDsPort := ds, localRtcpDsPort := ds + 1 })

/-- What the client asks for in a `SETUP` is remembered: channels, or ports. -/
def learnClientTransport (req : Bytes) (s : RtspToRtspClient) : Except Exn RtspToRtspClient := do
  match ← extractInterleavedChannels req with
  | some (rtp, rtcp) =>
    return { s with dsInterleavedRtp := rtp, dsInterleavedRtcp := rtcp, isDownstreamTcp := true }
  | none =>
    let s := { s with isDownstreamTcp := false }
    match ← extractClientPort req with
    | some (rtp, rtcp) =>
      return { s with
        clientRtpAddr := ⟨s.clientAddr.addr, rtp⟩, clientRtcpAddr := ⟨s.clientAddr.addr, rtcp⟩ }
    | none => return s

/-- A request is forwarded, with its URI rewritten. -/
def forwardRequest (isPlay : Bool) (req : Bytes) (s : RtspToRtspClient) : RtspToRtspClient :=
  let s := { s with pendingPlay := isPlay }
  let s := s.pushUpstream .client req (s.rewriteRequestForUpstream req)
  { s with upstreamEvents := { readable := true, writable := true } }

/-- A `SETUP` of the client. -/
def handleSetup (cfg : ServerConfig) (ports : RelayPorts) (req : Bytes) (s : RtspToRtspClient) :
    Except Exn (Turn RtspToRtspClient) := do
  let s ← s.learnClientTransport req
  let (ready, s) := if s.relayReady then (true, s) else s.initRelaySockets ports
  if !ready then return .leave s.closeAll
  let s := { s with relayReady := true }
  if cfg.usesStun then
    return .leave { s with state := .waitStun, pendingSetupReq := req }
  let (s, req) := { s with lastSetupReq := req }.patchTransportForUpstream cfg req
  return .again (s.forwardRequest false req)

/-- A complete request of the client. -/
def handleRequest (cfg : ServerConfig) (ports : RelayPorts) (req : Bytes) (s : RtspToRtspClient) :
    Except Exn (Turn RtspToRtspClient) :=
  if (ascii "SETUP ").isPrefixOf req then s.handleSetup cfg ports req
  else .ok (.again (s.forwardRequest ((ascii "PLAY ").isPrefixOf req) req))

/-- One turn of the loop of `on_downstream_readable`. -/
def downstreamTurn (cfg : ServerConfig) (ports : RelayPorts) (s : RtspToRtspClient) :
    Except Exn (Turn RtspToRtspClient) :=
  let buf := s.downstreamRecvBuf
  if buf = [] then .ok (.leave s)
  else if buf.head? = some 36 then
    match frameSize buf with
    | none => .ok (.leave s)
    | some size =>
      let s := s.handleInterleavedFromClient (RtpPipeline.byteAt buf 1) ((buf.take size).drop 4)
      .ok (.again (s.skipDownstream size))
  else match find crlf2 buf with
    | none => .ok (.leave s)
    | some i => (s.skipDownstream (i + 4)).handleRequest cfg ports (buf.take (i + 4))

/-- `on_downstream_readable`, its loop in at most so many turns. -/
def onDownstreamReadable (cfg : ServerConfig) (ports : RelayPorts) (turns : Nat)
    (received : RecvResult) (s : RtspToRtspClient) : Option (Except Exn RtspToRtspClient) :=
  match received with
  | .endOfStream | .failed => some (.ok s.closeAll)
  | .wouldBlock => some (.ok s)
  | .data bytes =>
    Loop.run (downstreamTurn cfg ports) turns
      { s with downstreamRecvBuf := s.downstreamRecvBuf ++ bytes }

/-- One turn of the loop of `on_downstream_writable`: the front packet is offered to the
    socket. -/
def downstreamSendTurn (r : SendResult) (s : RtspToRtspClient) : Turn RtspToRtspClient :=
  match s.toDownstreamQ.packets with
  | [] => .leave s
  | p :: _ =>
    let n := r.taken p.rest.length
    if 0 < n then
      .again { s with
        stats := s.stats.addDownstream n
        pool := if p.offset + n = p.data.length then s.pool.release else s.pool
        toDownstreamQ := s.toDownstreamQ.advance n }
    else if r.wouldBlock then .leave s
    else .leave s.closeAll

/-- The loop of `on_downstream_writable`. -/
def drainDownstream : List SendResult → RtspToRtspClient → RtspToRtspClient
  | [], s => s
  | r :: rs, s =>
    match downstreamSendTurn r s with
    | .leave s => s
    | .again s => drainDownstream rs s

/-- `on_downstream_writable` -/
def onDownstreamWritable (sends : List SendResult) (s : RtspToRtspClient) : RtspToRtspClient :=
  let s := s.drainDownstream sends
  if s.toDownstreamQ.packets = [] then { s with downstreamEvents := { readable := true } } else s

/-! ## The connection to the upstream -/

/-- What is done once the upstream is connected: the first request is forwarded. -/
def upstreamConnected (localName : Option SockAddr) (s : RtspToRtspClient) : RtspToRtspClient :=
  let s := { s with state := .idle }
  let s := match localName with
    | none => s
    | some name => { s with localIp := inetNtoa name.addr, localTcpPort := name.port }
  let s :=
    if s.downstreamRecvBuf = [] then s
    else
      let first := s.downstreamRecvBuf
      { s.pushUpstream .first first (s.rewriteRequestForUpstream first) with
        downstreamRecvBuf := [] }
  { s with downstreamEvents := { readable := true } }

/-- How many bytes of the front message `send` takes. -/
def upstreamTaken (r : SendResult) (s : RtspToRtspClient) : Nat :=
  r.taken ((s.toUpstreamQ.headD []).length - s.upstreamSendOffset)

/-- Sending to the upstream fails. -/
def upstreamSendFails (r : SendResult) (s : RtspToRtspClient) : Bool :=
  s.toUpstreamQ ≠ [] && s.upstreamTaken r = 0 && !r.wouldBlock

/-- One turn of the loop that sends to the upstream. -/
def upstreamSendTurn (r : SendResult) (s : RtspToRtspClient) : Turn RtspToRtspClient :=
  match s.toUpstreamQ with
  | [] => .leave s
  | msg :: msgs =>
    if 0 < s.upstreamTaken r then
      let offset := s.upstreamSendOffset + s.upstreamTaken r
      if offset = msg.length then
        .again { s with
          toUpstreamQ := msgs, upstreamSendOffset := 0, state := .waitUpstreamResp }
      else .again { s with upstreamSendOffset := offset }
    else if r.wouldBlock then .leave s
    else .leave s.closeAll

/-- The loop that sends to the upstream, and whether it was not ended by a failure. -/
def drainUpstream : List SendResult → RtspToRtspClient → Bool × RtspToRtspClient
  | [], s => (true, s)
  | r :: rs, s =>
    match upstreamSendTurn r s with
    | .leave t => (!s.upstreamSendFails r, t)
    | .again t => drainUpstream rs t

/-- `on_upstream_writable` -/
def onUpstreamWritable (calls : UpstreamCalls) (s : RtspToRtspClient) : RtspToRtspClient :=
  if s.state = .waitUpstreamConnect && calls.connectFailed then s.closeAll
  else
    let s := if s.state = .waitUpstreamConnect then s.upstreamConnected calls.localName else s
    let (ok, s) := s.drainUpstream calls.sends
    if ok then
      { s with upstreamEvents := { readable := true, writable := !s.toUpstreamQ.isEmpty } }
    else s

/-- The length of the body that a header block announces; `std::stoul` reads it. -/
def bodyLength (header : Bytes) : Nat :=
  match stoul (RtspParser.extractHeaderValue header (ascii "Content-Length")) with
  | .ok n => n
  | .error _ => 0

/-- The length of the message at the start of a buffer whose header block ends at `i`, as the
    code computes it in `size_t`. -/
def messageSize (buf : Bytes) (i : Nat) : Nat :=
  (i + 4 + bodyLength (buf.take (i + 4))) % wordSize

/-- The reply is to a keepalive, by its number. -/
def isKeepaliveReply (resp : Bytes) : Bool := contains (ascii "CSeq: 99\r\n") resp

/-- The reply rejects UDP for the last `SETUP`, which is to be tried again over TCP. -/
def wantsRetry (s : RtspToRtspClient) (resp : Bytes) : Bool :=
  RtspParser.parseStatusCode resp = 461 && !s.setupRetryWithTcp && s.lastSetupReq ≠ []

/-- The session identifier of a reply is taken over. -/
def learnSession (resp : Bytes) (s : RtspToRtspClient) : RtspToRtspClient :=
  { s with ctx := RtspParser.parseSessionId resp s.ctx }

/-- The last `SETUP` is tried again over TCP. -/
def retrySetup (calls : UpstreamCalls) (s : RtspToRtspClient) : RtspToRtspClient :=
  let req := patchTransportForUpstreamTcp s.lastSetupReq
  let s := { s with setupRetryWithTcp := true }
  (s.pushUpstream .retry req (s.rewriteRequestForUpstream req)).onUpstreamWritable calls

/-- A `200` that names channels makes the upstream send inside the connection. -/
def learnUpstreamTransport (resp : Bytes) (s : RtspToRtspClient) : Except Exn RtspToRtspClient :=
  if RtspParser.parseStatusCode resp = 200 && contains (ascii "interleaved=") resp then do
    match ← extractInterleavedChannels resp with
    | none => return s
    | some (rtp, rtcp) =>
      return { s with usInterleavedRtp := rtp, usInterleavedRtcp := rtcp, isUpstreamTcp := true }
  else .ok s

/-- A `200` while a `PLAY` is outstanding starts the stream. -/
def startStreaming (cfg : ServerConfig) (resp : Bytes) (s : RtspToRtspClient) :
    RtspToRtspClient :=
  if RtspParser.parseStatusCode resp = 200 && s.pendingPlay then
    let s := { s with
      pendingPlay := false, waitForKeyframe := cfg.waitKeyframe, timerArmed := true
      state := .streaming }
    if s.isUpstreamTcp then s else s.openPorts cfg
  else s

/-- A reply is copied into a block and queued for the client. -/
def queueResponse (resp : Bytes) (s : RtspToRtspClient) : RtspToRtspClient :=
  { s with
    pool := s.pool.acquire.write resp.length
    toDownstreamQ := s.toDownstreamQ.push { kind := .response, data := resp }
    downstreamEvents := { readable := true, writable := true } }

/-- A complete reply of the upstream. -/
def handleResponse (cfg : ServerConfig) (calls : UpstreamCalls) (resp : Bytes)
    (s : RtspToRtspClient) : Except Exn RtspToRtspClient :=
  if isKeepaliveReply resp then .ok s
  else
    let s := s.learnSession resp
    if s.wantsRetry resp then .ok (s.retrySetup calls)
    else do
      let s ← s.learnUpstreamTransport resp
      let (s, patched) ← s.patchResponseForClient cfg resp
      return (s.startStreaming cfg resp).queueResponse patched

/-- One turn of the loop of `on_upstream_readable`. -/
def upstreamTurn (cfg : ServerConfig) (calls : UpstreamCalls) (s : RtspToRtspClient) :
    Except Exn (Turn RtspToRtspClient) :=
  let buf := s.upstreamRecvBuf
  if buf = [] then .ok (.leave s)
  else if buf.head? = some 36 then
    match frameSize buf with
    | none => .ok (.leave s)
    | some size =>
      let s := s.handleInterleavedFromUpstream cfg (RtpPipeline.byteAt buf 1)
        ((buf.take size).drop 4)
      .ok (.again (s.skipUpstream size))
  else match find crlf2 buf with
    | none => .ok (.leave s)
    | some i =>
      let size := messageSize buf i
      if buf.length < size then .ok (.leave s)
      else ((s.skipUpstream size).handleResponse cfg calls (buf.take size)).map .again

/-- `on_upstream_readable`, its loop in at most so many turns. -/
def onUpstreamReadable (cfg : ServerConfig) (calls : UpstreamCalls) (turns : Nat)
    (received : RecvResult) (s : RtspToRtspClient) : Option (Except Exn RtspToRtspClient) :=
  match received with
  | .endOfStream | .failed => some (.ok s.closeAll)
  | .wouldBlock => some (.ok s)
  | .data bytes =>
    Loop.run (upstreamTurn cfg calls) turns
      { s with upstreamRecvBuf := s.upstreamRecvBuf ++ bytes }

end RtspToRtspClient

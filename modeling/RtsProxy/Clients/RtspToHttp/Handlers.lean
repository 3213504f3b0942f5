import RtsProxy.Clients.RtspToHttp.State
import RtsProxy.Loop
import RtsProxy.Protocol.Interleaved

/-!
# The event handlers of an HTTP session

As in the relayed session, the handlers take the results of their system calls as arguments, and
each loop of the code is a turn function and its repetition. From the loop over the replies of
the upstream the handler can also return; such a turn is an `Except.error`.
-/

open Text Interleaved

/-- What the system calls of `on_rtsp_writable` return: whether the connection has failed, the
    local address of the socket, and how much `send` takes. -/
structure RtspCalls where
  connectFailed : Bool := false
  localName : Option SockAddr := none
  send : SendResult
  deriving DecidableEq, Repr

namespace RtspToHttpClient

/-! ## Media -/

/-- What is pushed for a packet: its payload. -/
def mediaItem (packet : Bytes) : Option Item :=
  (RtpPipeline.payloadOffset packet).map fun off =>
    { kind := .media, data := packet, start := off }

/-- A packet that has passed the pipeline is queued for the client. -/
def queuePacket (packet : Bytes) (s : RtspToHttpClient) : RtspToHttpClient :=
  match mediaItem packet with
  | none => { s with pool := s.pool.release }
  | some item =>
    { s with
      pool := if sendLimit < s.sendQueue.packets.length then s.pool.release else s.pool
      sendQueue := s.sendQueue.pushBounded sendLimit item }

/-- Bytes received from the server are counted. -/
def countReceived (n : Nat) (s : RtspToHttpClient) : RtspToHttpClient :=
  { s with upstreamEst := s.upstreamEst + n, stats := s.stats.addUpstream n }

/-- The reply of the STUN server, or whatever comes in its place, starts the session. -/
def startSession (cfg : ServerConfig) (opened : Bool) (packet : Bytes) (s : RtspToHttpClient) :
    RtspToHttpClient :=
  let s := match if cfg.enableNat then StunClient.extractMapping packet else none with
    | none => s
    | some mapped => { s with natWanIp := inetNtoa mapped.addr, natWanPort := mapped.port }
  { s with isInitOk := true }.sendRtspOption opened

/-- `on_rtp_readable`: one datagram, cut to the size of a block; nothing received is an empty
    one. -/
def onRtpReadable (cfg : ServerConfig) (opened : Bool) (payload : Bytes) (s : RtspToHttpClient) :
    RtspToHttpClient :=
  let data := payload.take s.pool.bufSize
  let s := { s with pool := s.pool.acquire.write data.length }
  if data = [] then { s with pool := s.pool.release }
  else
    let out := RtpPipeline.process cfg s.waitForKeyframe data
    let s := { s.countReceived data.length with waitForKeyframe := out.waitForKeyframe }
    let s :=
      if out.forward then s.queuePacket out.packet
      else
        let s := { s with pool := s.pool.release }
        if s.isInitOk then s else s.startSession cfg opened out.packet
    { s with clientEvents := { writable := true } }

/-- `handle_interleaved_packet` -/
def handleInterleavedPacket (cfg : ServerConfig) (channel : UInt8) (data : Bytes)
    (s : RtspToHttpClient) : RtspToHttpClient :=
  if channel ≠ s.interleavedRtpChannel then s
  else
    let data := data.take s.pool.bufSize
    let out := RtpPipeline.process cfg s.waitForKeyframe data
    let s := { s with
      pool := s.pool.acquire.write data.length, waitForKeyframe := out.waitForKeyframe }
    let s := if out.forward then s.queuePacket out.packet else { s with pool := s.pool.release }
    { s with clientEvents := { readable := true, writable := true } }

/-! ## The client -/

/-- The head of the response. -/
def responseHeader : Bytes :=
  ascii "HTTP/1.1 200 OK\r\nContent-Type: video/mp2t\r\nConnection: close\r\n\r\n"

/-- `send_http_response` -/
def sendHttpResponse (s : RtspToHttpClient) : RtspToHttpClient :=
  { s with
    pool := s.pool.acquire.write responseHeader.length
    sendQueue := s.sendQueue.push { kind := .header, data := responseHeader } }

/-- `on_client_closed` -/
def onClientClosed (s : RtspToHttpClient) : RtspToHttpClient :=
  if s.isClosed then s else { s with isClosed := true }.notifyClosed

/-- One turn of the loop of `on_client_writable`: the front packet is offered to the socket. -/
def clientSendTurn (r : SendResult) (s : RtspToHttpClient) : Turn RtspToHttpClient :=
  match s.sendQueue.packets with
  | [] => .leave s
  | p :: _ =>
    if r.count < 0 then .leave (if r.wouldBlock then s else s.onClientClosed)
    else
      let n := r.taken p.rest.length
      let whole := p.offset + n = p.data.length
      let s := { s with
        stats := s.stats.addDownstream n
        downstreamEst := s.downstreamEst + n
        pool := if whole then s.pool.release else s.pool
        sendQueue := s.sendQueue.advance n }
      if whole then .again s else .leave s

/-- The loop of `on_client_writable`. -/
def drainClient : List SendResult → RtspToHttpClient → RtspToHttpClient
  | [], s => s
  | r :: rs, s =>
    match clientSendTurn r s with
    | .leave s => s
    | .again s => drainClient rs s

/-- `on_client_writable`. When the client is lost the queue is not looked at again. -/
def onClientWritable (sends : List SendResult) (s : RtspToHttpClient) : RtspToHttpClient :=
  let s := s.drainClient sends
  if s.sendQueue.packets = [] then { s with clientEvents := { readable := true } } else s

/-! ## The upstream -/

/-- `handle_timer`: the upstream is sent a sign of life. -/
def handleTimer (s : RtspToHttpClient) : RtspToHttpClient :=
  (s.pushRequestIntoQueue .getParameter (upstreamUrl s.ctx) [] []).buildAndSendRequest

/-- The upstream is connected. -/
def upstreamConnected (localName : Option SockAddr) (s : RtspToHttpClient) : RtspToHttpClient :=
  let s := { s with state := .connected }
  match localName with
  | none => s
  | some name => { s with localIp := inetNtoa name.addr, localTcpPort := name.port }

/-- `on_rtsp_writable` -/
def onRtspWritable (calls : RtspCalls) (s : RtspToHttpClient) : RtspToHttpClient :=
  if s.state = .connecting && calls.connectFailed then s.notifyClosed
  else
    let s := if s.state = .connecting then s.upstreamConnected calls.localName else s
    let n := calls.send.taken (s.reqBuf.length - s.tcpSendOffset)
    if 0 < n then
      let s := { s with tcpSendOffset := s.tcpSendOffset + n }
      if s.tcpSendOffset = s.reqBuf.length then
        { s with rtspEvents := { readable := true }, tcpSendOffset := 0 }
      else s
    else s.notifyClosed

/-- `init_rtp_rtcp_server_addr`. The addresses are kept when that of the upstream is none. -/
def initRtpRtcpServerAddr (s : RtspToHttpClient) : RtspToHttpClient :=
  let addr := fun (old : SockAddr) (port : Nat) =>
    (⟨(inetPton s.ctx.serverIp).getD old.addr, port⟩ : SockAddr)
  { s with
    serverRtpAddr := addr s.serverRtpAddr s.ctx.serverRtpPort
    serverRtcpAddr := addr s.serverRtcpAddr s.ctx.serverRtcpPort }

/-- The server is sent something from the RTP port (`send_zte_heartbeat`, `send_rtp_trigger`). -/
def openPort (cfg : ServerConfig) (s : RtspToHttpClient) : RtspToHttpClient :=
  s.sendTo s.serverRtpAddr
    (if cfg.usesZte then zteHeartbeat s.localIp s.rtpPort s.localTcpPort else [0])

/-- A `200` to the `SETUP`. -/
def setupDone (cfg : ServerConfig) (header : Bytes) (s : RtspToHttpClient) : RtspToHttpClient :=
  let s :=
    if contains (ascii "interleaved=") header then
      { s with
        isTcpMode := true
        interleavedRtpChannel := s.ctx.serverRtpPort.toUInt8
        interleavedRtcpChannel := s.ctx.serverRtcpPort.toUInt8 }
    else { s with isTcpMode := false }.initRtpRtcpServerAddr.openPort cfg
  s.sendRtspPlay cfg

/-- `init_timer_fd` and the start of the stream. -/
def startStreaming (cfg : ServerConfig) (s : RtspToHttpClient) : RtspToHttpClient :=
  { s with waitForKeyframe := cfg.waitKeyframe, timerArmed := true, state := .streaming }

/-- A `200` to the request that is outstanding. -/
def handleOk (cfg : ServerConfig) (header body : Bytes) (s : RtspToHttpClient) :
    Except RtspToHttpClient (Turn RtspToHttpClient) :=
  match s.currentRequest.method with
  | .options => .ok (.again (s.sendRtspDescribe cfg))
  | .describe =>
    let base := RtspParser.extractHeaderValue header (ascii "Content-Base")
    .ok (.again ({ s with ctx := { s.ctx with contentBase := base } }.sendRtspSetup cfg body))
  | .setup =>
    let (ok, ctx) := RtspParser.parseServerPorts header s.ctx
    let s := { s with ctx := ctx }
    if ok then .ok (.again (s.setupDone cfg header)) else .error s.notifyClosed
  | .play => .ok (.again (s.startStreaming cfg))
  | _ => .ok (.again s)

/-- The answer to a request of the upstream. -/
def okReply (cseq : Bytes) : Bytes := ascii "RTSP/1.0 200 OK\r\nCSeq: " ++ cseq ++ crlf2

/-- A request of the upstream: no status, but a number. -/
def isServerRequest (header : Bytes) : Bool :=
  RtspParser.parseStatusCode header = -1 &&
    RtspParser.extractHeaderValue header (ascii "CSeq") ≠ []

/-- The reply rejects UDP for the `SETUP`, which is to be tried again over TCP. -/
def wantsRetry (s : RtspToHttpClient) (header : Bytes) : Bool :=
  RtspParser.parseStatusCode header = 461 && s.currentRequest.method = .setup &&
    !s.setupRetryWithTcp

/-- A complete message of the upstream. -/
def handleMessage (cfg : ServerConfig) (header body : Bytes) (s : RtspToHttpClient) :
    Except RtspToHttpClient (Turn RtspToHttpClient) :=
  let s := { s with ctx := RtspParser.parseSessionId header s.ctx }
  if isServerRequest header then
    let reply := okReply (RtspParser.extractHeaderValue header (ascii "CSeq"))
    .ok (.again { s with replies := s.replies ++ [reply] })
  else if s.wantsRetry header then
    .ok (.again ({ s with setupRetryWithTcp := true }.sendRtspSetup cfg []))
  else if RtspParser.parseStatusCode header ≠ 200 then .error s.notifyClosed
  else s.handleOk cfg header body

/-- The conversion of an `int` to `size_t`. -/
def toSize (n : Int) : Nat := (n % wordSize).toNat

/-- The length of the message at the start of a buffer whose header block ends at `i`, as the
    code computes it: an `int` is added to a `size_t`. -/
def messageSize (buf : Bytes) (i : Nat) : Nat :=
  (i + 4 + toSize (RtspParser.getContentLength (buf.take (i + 4)))) % wordSize

/-- One turn of the loop over the bytes of the upstream. -/
def rtspTurn (cfg : ServerConfig) (s : RtspToHttpClient) :
    Except RtspToHttpClient (Turn RtspToHttpClient) :=
  let buf := s.respBuf
  if buf = [] then .ok (.leave s)
  else if buf.head? = some 36 then
    match frameSize buf with
    | none => .ok (.leave s)
    | some size =>
      let s := (s.countReceived size).handleInterleavedPacket cfg (RtpPipeline.byteAt buf 1)
        ((buf.take size).drop 4)
      .ok (.again (s.skipResp size))
  else match find crlf2 buf with
    | none => .ok (.leave s)
    | some i =>
      let size := messageSize buf i
      if buf.length < size then .ok (.leave s)
      else
        let header := buf.take (i + 4)
        let body := (buf.drop (i + 4)).take (toSize (RtspParser.getContentLength header))
        (s.skipResp size).handleMessage cfg header body

/-- `on_rtsp_readable`, each of its inner loops in at most so many turns. -/
def onRtspReadable (cfg : ServerConfig) (turns : Nat) :
    List RecvResult → RtspToHttpClient → Option RtspToHttpClient
  | [], s | .wouldBlock :: _, s => some s
  | .endOfStream :: _, s | .failed :: _, s => some s.notifyClosed
  | .data bytes :: rs, s =>
    match Loop.run (rtspTurn cfg) turns { s with respBuf := s.respBuf ++ bytes } with
    | none => none
    | some (.error s) => some s
    | some (.ok s) => onRtspReadable cfg turns rs s

/-! ## The start -/

/-- The constructor, and then `set_on_closed_callback`: with STUN the session waits for the
    mapping of its port, otherwise it starts at once. The binding of the ports leaves a port in
    `rtp_port_` even when it fails. -/
def start (cfg : ServerConfig) (pool : BufferPool) (stats : Statistics) (ctx : RtspCtx)
    (rtpPort : Nat) (rtpReady opened : Bool) : RtspToHttpClient :=
  let s : RtspToHttpClient :=
    { pool := pool, stats := stats, ctx := ctx, waitForKeyframe := cfg.waitKeyframe }
  let s := { s.sendHttpResponse with rtpPort := rtpPort, rtpReady := rtpReady }
  let s := if cfg.usesStun then s else { s with isInitOk := true }.sendRtspOption opened
  { s with hasCallback := true }

end RtspToHttpClient

import RtsProxy.Core.BufferPool
import RtsProxy.Core.SendQueue
import RtsProxy.Core.Socket
import RtsProxy.Protocol.RtspParser
import RtsProxy.Utils.StunClient

/-!
# The state of an HTTP session

`RTSPToHttpClient`: for an HTTP client, the proxy plays an RTSP session with the upstream and
sends the payloads of its packets as the body of the response. The requests of the session are
made here (`sendRtspOption` to `sendRtspPlay`).
-/

open Text

/-- The methods of RTSP (`RtspMethod`). -/
inductive RtspMethod
  | options
  | describe
  | setup
  | play
  | pause
  | teardown
  | getParameter
  | setParameter
  deriving DecidableEq, Repr

/-- `RtspMethodToString` -/
def RtspMethod.text : RtspMethod → Bytes
  | options => ascii "OPTIONS"
  | describe => ascii "DESCRIBE"
  | setup => ascii "SETUP"
  | play => ascii "PLAY"
  | pause => ascii "PAUSE"
  | teardown => ascii "TEARDOWN"
  | getParameter => ascii "GET_PARAMETER"
  | setParameter => ascii "SET_PARAMETER"

/-- A request to the upstream (`RtspRequest`). -/
structure RtspRequest where
  method : RtspMethod := .options
  uri : Bytes := []
  headers : Bytes := []
  body : Bytes := []
  cseq : Nat := 0
  deriving DecidableEq, Repr

/-- The states of an HTTP session (`RtspState`). -/
inductive RtspState
  | init
  | connecting
  | connected
  | streaming
  deriving DecidableEq, Repr

/-- The most packets in the queue to the client, before the oldest one is dropped. -/
def sendLimit : Nat := 512

/-- An HTTP session. The fields from `closing` on are not in the code: whether its removal has
    been asked for, what it has answered to requests of the upstream, and the datagrams sent. -/
structure RtspToHttpClient where
  pool : BufferPool
  stats : Statistics := {}
  ctx : RtspCtx := {}
  state : RtspState := .init
  cseq : Nat := 1
  reqBuf : Bytes := []
  respBuf : Bytes := []
  tcpSendOffset : Nat := 0
  requestQueue : List RtspRequest := []
  currentRequest : RtspRequest := {}
  /-- The port of the RTP socket, and whether the socket is there. -/
  rtpPort : Nat := 0
  rtpReady : Bool := false
  serverRtpAddr : SockAddr := .zero
  serverRtcpAddr : SockAddr := .zero
  isClosed : Bool := false
  isInitOk : Bool := false
  isTcpMode : Bool := false
  interleavedRtpChannel : UInt8 := 0
  interleavedRtcpChannel : UInt8 := 1
  setupRetryWithTcp : Bool := false
  localIp : Bytes := []
  localTcpPort : Nat := 0
  natWanIp : Bytes := []
  natWanPort : Nat := 0
  sendQueue : SendQueue := {}
  /-- The bytes counted by the estimators of the session. -/
  upstreamEst : Nat := 0
  downstreamEst : Nat := 0
  /-- The state of the RTP pipeline. -/
  waitForKeyframe : Bool := false
  clientEvents : Interest := {}
  rtspEvents : Interest := {}
  timerArmed : Bool := false
  /-- `on_closed_callback_` has been set. -/
  hasCallback : Bool := false
  closing : Bool := false
  replies : List Bytes := []
  datagrams : List (SockAddr × Bytes) := []
  deriving DecidableEq, Repr

namespace RtspToHttpClient

/-- `on_closed_callback_`: the removal of the session is asked for, once there is someone to
    ask. -/
def notifyClosed (s : RtspToHttpClient) : RtspToHttpClient :=
  if s.hasCallback then { s with closing := true } else s

/-- A datagram is sent from the RTP port. -/
def sendTo (s : RtspToHttpClient) (dest : SockAddr) (payload : Bytes) : RtspToHttpClient :=
  { s with datagrams := s.datagrams ++ [(dest, payload)] }

/-- The first bytes received from the upstream are done with. -/
def skipResp (n : Nat) (s : RtspToHttpClient) : RtspToHttpClient :=
  { s with respBuf := s.respBuf.drop n }

/-! ## Requests -/

/-- `push_request_into_queue` -/
def pushRequestIntoQueue (s : RtspToHttpClient) (method : RtspMethod) (uri headers body : Bytes) :
    RtspToHttpClient :=
  { s with
    requestQueue := s.requestQueue ++ [⟨method, uri, headers, body, s.cseq⟩]
    cseq := s.cseq + 1 }

/-- The text of a request. -/
def requestText (sessionId : Bytes) (req : RtspRequest) : Bytes :=
  req.method.text ++ ascii " " ++ req.uri ++ ascii " RTSP/1.0\r\n" ++
    ascii "CSeq: " ++ decimal req.cseq ++ crlf ++
    (if sessionId = [] then [] else ascii "Session: " ++ sessionId ++ crlf) ++ req.headers ++
    if req.body = [] then crlf
    else ascii "Content-Length: " ++ decimal req.body.length ++ crlf2 ++ req.body

/-- `build_and_send_request`: the next request is to be sent. -/
def buildAndSendRequest (s : RtspToHttpClient) : RtspToHttpClient :=
  match s.requestQueue with
  | [] => s
  | req :: reqs =>
    { s with
      currentRequest := req, requestQueue := reqs, reqBuf := requestText s.ctx.sessionId req
      tcpSendOffset := 0, rtspEvents := { writable := true } }

/-- The URL of the upstream. -/
def upstreamUrl (ctx : RtspCtx) : Bytes :=
  ascii "rtsp://" ++ ctx.serverIp ++ ascii ":" ++ decimal ctx.serverRtspPort ++ ctx.path

/-- `connect_server`; the connection may be refused at once. -/
def connectServer (opened : Bool) (s : RtspToHttpClient) : RtspToHttpClient :=
  if opened then { s with rtspEvents := { writable := true }, state := .connecting }
  else s.notifyClosed

/-- `send_rtsp_option` -/
def sendRtspOption (opened : Bool) (s : RtspToHttpClient) : RtspToHttpClient :=
  let s := s.connectServer opened
  (s.pushRequestIntoQueue .options (upstreamUrl s.ctx) [] []).buildAndSendRequest

/-- The fields that one vendor's servers ask for. -/
def zteHeaders (s : RtspToHttpClient) : Bytes :=
  ascii "User-Agent: HMTL RTSP 1.0; CTC/2.0\r\n" ++
    ascii "x-NAT: " ++ s.localIp ++ ascii ":" ++ decimal s.localTcpPort ++ crlf

/-- `send_rtsp_describe` -/
def sendRtspDescribe (cfg : ServerConfig) (s : RtspToHttpClient) : RtspToHttpClient :=
  let headers := ascii "Accept: application/sdp\r\n" ++
    if cfg.usesZte then
      s.zteHeaders ++ ascii "Timeshift: 1\r\n" ++ ascii "x-BurstSize: 1048576\r\n"
    else []
  (s.pushRequestIntoQueue .describe (upstreamUrl s.ctx) headers []).buildAndSendRequest

/-- The track of the first section of a transport stream (format 33). -/
def findTrack (streams : List Media) : Bytes :=
  match streams.find? fun media => media.formats.contains (ascii "33") with
  | none => []
  | some media => media.trackID

/-- The transport that a `SETUP` asks for. -/
def setupHeaders (cfg : ServerConfig) (s : RtspToHttpClient) : Bytes :=
  let port := if s.natWanPort = 0 then s.rtpPort else s.natWanPort
  let ports := ascii "client_port=" ++ decimal port ++ ascii "-" ++ decimal (port + 1)
  if s.setupRetryWithTcp then ascii "Transport: RTP/AVP/TCP;unicast;interleaved=0-1\r\n"
  else if cfg.usesZte then
    ascii "Transport: MP2T/RTP/UDP;unicast;client_address=" ++ s.localIp ++ ascii ";" ++ ports ++
      ascii ";mode=PLAY\r\n" ++ s.zteHeaders
  else ascii "Transport: RTP/AVP;unicast;" ++ ports ++ crlf

/-- The URL of a track. -/
def trackUrl (ctx : RtspCtx) (track : Bytes) : Bytes :=
  let base := if ctx.contentBase = [] then (upstreamUrl ctx).takeWhile (· ≠ 63)
    else ctx.contentBase
  (if base.getLast? ≠ some 47 ∧ track.head? ≠ some 42 then base ++ ascii "/" else base) ++ track

/-- `send_rtsp_setup` -/
def sendRtspSetup (cfg : ServerConfig) (sdp : Bytes) (s : RtspToHttpClient) : RtspToHttpClient :=
  let s := if sdp = [] then s else { s with ctx := RtspParser.Sdp.parseSDP sdp s.ctx }
  let track := findTrack s.ctx.mediaStreams
  if track = [] then s.notifyClosed
  else
    (s.pushRequestIntoQueue .setup (trackUrl s.ctx track) (s.setupHeaders cfg) []).buildAndSendRequest

/-- `send_rtsp_play` -/
def sendRtspPlay (cfg : ServerConfig) (s : RtspToHttpClient) : RtspToHttpClient :=
  let url := if s.ctx.contentBase = [] then upstreamUrl s.ctx else s.ctx.contentBase
  let headers :=
    if cfg.usesZte then
      (if s.ctx.path.contains 63 then ascii "Range: npt=0.000-\r\n"
        else ascii "Range: clock=end-\r\n") ++
        ascii "User-Agent: HMTL RTSP 1.0; CTC/2.0\r\n" ++ ascii "x-BurstSize: 1048576\r\n" ++
        ascii "Scale: 1.0\r\n"
    else ascii "Range: npt=0.000-\r\n"
  (s.pushRequestIntoQueue .play url headers []).buildAndSendRequest

end RtspToHttpClient

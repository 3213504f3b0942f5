import RtsProxy.Core.BufferPool
import RtsProxy.Core.SendQueue
import RtsProxy.Core.Socket
import RtsProxy.Protocol.RequestParser
import RtsProxy.Protocol.RtspParser

/-!
# The state of a relayed RTSP session

`RTSPToRtspClient`: between an RTSP client (downstream) and the real server (upstream)
the proxy relays the control messages, patched both ways, and the media, over UDP or
inside the control connections.
-/

open Text

/-- The states of a session. -/
inductive RelayState
  /-- The connection to the upstream is being made. -/
  | waitUpstreamConnect
  | idle
  /-- A `SETUP` is held back until the STUN server has answered. -/
  | waitStun
  | waitUpstreamResp
  | streaming
  deriving DecidableEq, Repr

/-- The sockets that relay media. -/
inductive RelaySocket
  | rtpUpstream
  | rtcpUpstream
  | rtpDownstream
  | rtcpDownstream
  deriving DecidableEq, Repr

/-- A datagram sent. -/
structure Datagram where
  socket : RelaySocket
  dest : SockAddr
  payload : Bytes
  deriving DecidableEq, Repr

/-- Why a message is pushed to the upstream. -/
inductive Origin
  /-- The request the session was started with. -/
  | first
  /-- A later request of the client. -/
  | client
  /-- A `SETUP` that was held back. -/
  | released
  /-- A `SETUP` tried again over TCP. -/
  | retry
  | keepalive
  deriving DecidableEq, Repr

/-- A message pushed to the upstream, and the text it was rewritten from (of a keepalive,
    none). -/
structure Pushed where
  origin : Origin
  source : Bytes
  text : Bytes
  deriving DecidableEq, Repr

/-- What a session is set up with (`RtspMitmConfig`). -/
structure RtspMitmConfig where
  ctx : RtspCtx := {}
  proxyUriPrefix : Bytes := []
  upstreamUriBase : Bytes := []
  deriving DecidableEq, Repr

/-- The most packets in the queue to the client, before the oldest one is dropped. -/
def downstreamLimit : Nat := 2048

/-- A session. The fields from `pushed` on are not in the code: the messages ever pushed
    to the upstream, the datagrams sent, and how often `back()` has been called on an empty
    string, which is undefined. -/
structure RtspToRtspClient where
  pool : BufferPool
  stats : Statistics := {}
  /-- The address of the client, and the one it has connected to. -/
  clientAddr : SockAddr := .zero
  localAddr : SockAddr := .zero
  localRtpUsPort : Nat := 0
  localRtcpUsPort : Nat := 0
  localRtpDsPort : Nat := 0
  localRtcpDsPort : Nat := 0
  clientRtpAddr : SockAddr := .zero
  clientRtcpAddr : SockAddr := .zero
  serverRtpAddr : SockAddr := .zero
  serverRtcpAddr : SockAddr := .zero
  state : RelayState := .waitUpstreamConnect
  isDownstreamTcp : Bool := false
  dsInterleavedRtp : UInt8 := 0
  dsInterleavedRtcp : UInt8 := 1
  isUpstreamTcp : Bool := false
  usInterleavedRtp : UInt8 := 0
  usInterleavedRtcp : UInt8 := 1
  setupRetryWithTcp : Bool := false
  lastSetupReq : Bytes := []
  ctx : RtspCtx := {}
  downstreamRecvBuf : Bytes := []
  upstreamRecvBuf : Bytes := []
  toUpstreamQ : List Bytes := []
  toDownstreamQ : SendQueue := {}
  upstreamSendOffset : Nat := 0
  relayReady : Bool := false
  closed : Bool := false
  pendingPlay : Bool := false
  proxyUriPrefix : Bytes := []
  upstreamUriBase : Bytes := []
  localIp : Bytes := []
  localTcpPort : Nat := 0
  dsTransportProtocol : Bytes := []
  natWanPortUs : Nat := 0
  pendingSetupReq : Bytes := []
  /-- The bytes counted by the estimators of the session. -/
  upstreamEst : Nat := 0
  downstreamEst : Nat := 0
  /-- The state of the RTP pipeline. -/
  waitForKeyframe : Bool := false
  downstreamEvents : Interest := {}
  upstreamEvents : Interest := { writable := true }
  timerArmed : Bool := false
  pushed : List Pushed := []
  datagrams : List Datagram := []
  emptyBacks : Nat := 0
  deriving DecidableEq, Repr

namespace RtspToRtspClient

/-- A message is queued for the upstream. -/
def pushUpstream (s : RtspToRtspClient) (origin : Origin) (source text : Bytes) :
    RtspToRtspClient :=
  { s with
    toUpstreamQ := s.toUpstreamQ ++ [text]
    pushed := s.pushed ++ [⟨origin, source, text⟩] }

/-- `close_all`: the removal of the session is scheduled. -/
def closeAll (s : RtspToRtspClient) : RtspToRtspClient := { s with closed := true }

/-- A datagram is sent. -/
def sendTo (s : RtspToRtspClient) (socket : RelaySocket) (dest : SockAddr) (payload : Bytes) :
    RtspToRtspClient :=
  { s with datagrams := s.datagrams ++ [⟨socket, dest, payload⟩] }

/-- The first bytes received from the client, or from the upstream, are done with. -/
def skipDownstream (n : Nat) (s : RtspToRtspClient) : RtspToRtspClient :=
  { s with downstreamRecvBuf := s.downstreamRecvBuf.drop n }

@[inherit_doc skipDownstream]
def skipUpstream (n : Nat) (s : RtspToRtspClient) : RtspToRtspClient :=
  { s with upstreamRecvBuf := s.upstreamRecvBuf.drop n }

/-- `resolve_upstream`: the upstream of a first request, and how its URI and those of later
    requests are rewritten. -/
def resolveUpstream (cfg : ServerConfig) (cal : Calendar) (request : Bytes) :
    Except Exn (Option RtspMitmConfig) := do
  let info ← RequestParser.parse cfg cal request
  if info.upstreamUrl = [] then return none
  return (RtspParser.parseUrl info.upstreamUrl {}).map fun ctx =>
    { ctx := ctx
      proxyUriPrefix := match find ctx.path info.rawUri with
        | none => []
        | some i => info.rawUri.take i
      upstreamUriBase :=
        ascii "rtsp://" ++ ctx.serverIp ++ ascii ":" ++ decimal ctx.serverRtspPort }

/-- The upstream that is resolved is that of the parsed request. -/
theorem ctx_of_resolveUpstream {cfg : ServerConfig} {cal : Calendar} {request : Bytes}
    {info : RequestInfo} {config : RtspMitmConfig}
    (hparse : RequestParser.parse cfg cal request = .ok info)
    (h : resolveUpstream cfg cal request = .ok (some config)) :
    RtspParser.parseUrl info.upstreamUrl {} = some config.ctx := by
  obtain ⟨info', hinfo, h⟩ := Except.bind_eq_ok_iff.1 h
  cases hparse.symm.trans hinfo
  split at h
  case isTrue => cases h
  case isFalse =>
    obtain ⟨ctx, hctx, rfl⟩ := Option.map_eq_some_iff.1 (Except.ok.inj h)
    exact hctx

/-- A session at its start: its first request is kept until the upstream is connected. -/
def start (cfg : ServerConfig) (pool : BufferPool) (stats : Statistics)
    (clientAddr localAddr : SockAddr) (config : RtspMitmConfig) (firstRequest : Bytes) :
    RtspToRtspClient :=
  { pool := pool, stats := stats, clientAddr := clientAddr, localAddr := localAddr
    ctx := config.ctx, proxyUriPrefix := config.proxyUriPrefix
    upstreamUriBase := config.upstreamUriBase, downstreamRecvBuf := firstRequest
    waitForKeyframe := cfg.waitKeyframe }

end RtspToRtspClient

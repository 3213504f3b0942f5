import RtsProxy.Clients.RtspToRtsp.State
import RtsProxy.Regex.Compile
import RtsProxy.Utils.StunClient

/-!
# Patching of relayed messages

What the session changes in the messages it relays: the transport of a `SETUP` on its
way up (`patchTransportForUpstream`), the URI of every request
(`rewriteRequestForUpstream`), and the transport, the URLs and the session description
of replies on their way down (`patchResponseForClient`).
-/

open Text Ecma

/-! ## Patterns -/

namespace Ecma.Regex

/-- `(name\d+)-(\d+)` without the groups. -/
def pairRe (name : String) : Regex :=
  ofTerms (ofText name ++ [digits, lit 45, digits])

/-- `name(\d+)-(\d+)` -/
def pairGroupsRe (name : String) : Regex :=
  let number := fun i => group i (ofTerms [digits])
  ofTerms (ofText name ++ [number 1, lit 45, number 2])

/-- `name[0-9.]+` -/
def addressRe (name : String) : Regex :=
  ofTerms (ofText name ++ [plus (one ⟨[(46, 46), (48, 57)], false⟩) true])

end Ecma.Regex

namespace RtspToRtspClient

/-- `client_port=\d+-\d+` -/
def clientPortRe : Regex := .pairRe "client_port="

/-- `client_port=(\d+)-(\d+)` -/
def clientPortGroupsRe : Regex := .pairGroupsRe "client_port="

/-- `server_port=(\d+)-(\d+)` -/
def serverPortRe : Regex := .pairGroupsRe "server_port="

/-- `interleaved=(\d+)-(\d+)` -/
def interleavedGroupsRe : Regex := .pairGroupsRe "interleaved="

/-- `interleaved=\d+-\d+;?` -/
def interleavedRe : Regex :=
  .ofTerms (Regex.ofText "interleaved=" ++
    [.digits, .lit 45, .digits, .opt (.lit 59) true])

/-- `source=[0-9.]+` -/
def sourceRe : Regex := .addressRe "source="

/-- `IP4 [0-9.]+` -/
def ip4Re : Regex := .addressRe "IP4 "

/-- The expressions are those of the patterns in the code. -/
example :
    Regex.compile (ascii "client_port=\\d+-\\d+") = .ok clientPortRe ∧
    Regex.compile (ascii "client_port=(\\d+)-(\\d+)") = .ok clientPortGroupsRe ∧
    Regex.compile (ascii "server_port=(\\d+)-(\\d+)") = .ok serverPortRe ∧
    Regex.compile (ascii "interleaved=(\\d+)-(\\d+)") = .ok interleavedGroupsRe ∧
    Regex.compile (ascii "interleaved=\\d+-\\d+;?") = .ok interleavedRe ∧
    Regex.compile (ascii "source=[0-9.]+") = .ok sourceRe ∧
    Regex.compile (ascii "IP4 [0-9.]+") = .ok ip4Re := by
  decide +kernel

/-! ## Header fields -/

/-- `replace_header`: the line from the place where the name of the field is found is
    replaced. Without that place, or the end of a line behind it, nothing is. -/
def replaceHeader (msg name value : Bytes) : Bytes :=
  match RtspParser.headerPos msg name with
  | none => msg
  | some pos =>
    match findFrom crlf msg pos with
    | none => msg
    | some stop => replaceAt msg pos (stop - pos) (name ++ ascii ": " ++ value)

theorem replaceHeader_ne_nil {msg name : Bytes} (hmsg : msg ≠ []) (hname : name ≠ [])
    (value : Bytes) : replaceHeader msg name value ≠ [] := by
  rw [replaceHeader]
  split
  · exact hmsg
  · split
    · exact hmsg
    · simp [replaceAt, hname]

/-- The two numbers of a transport parameter, read with the conversion of `std::stoi`.
    `none`: the parameter is not there. -/
def extractPair (re : Regex) (msg : Bytes) : Except Exn (Option (Int × Int)) :=
  let transport := RtspParser.extractHeaderValue msg (ascii "Transport")
  if transport = [] then .ok none
  else match re.search transport with
    | none => .ok none
    | some m => do
      let a ← stoi (m.sub 1)
      let b ← stoi (m.sub 2)
      return some (a, b)

/-- `extract_client_port` -/
def extractClientPort (req : Bytes) : Except Exn (Option (Nat × Nat)) :=
  (extractPair clientPortGroupsRe req).map fun r => r.map fun p => (toUint16 p.1, toUint16 p.2)

/-- `extract_interleaved_channels` -/
def extractInterleavedChannels (msg : Bytes) : Except Exn (Option (UInt8 × UInt8)) :=
  (extractPair interleavedGroupsRe msg).map fun r => r.map fun p => (toUint8 p.1, toUint8 p.2)

/-! ## Datagrams to the server -/

/-- `send_rtp_trigger`: a byte to each port of the server. -/
def sendRtpTrigger (s : RtspToRtspClient) : RtspToRtspClient :=
  if s.serverRtpAddr.port = 0 then s
  else
    let s := s.sendTo .rtpUpstream s.serverRtpAddr [0]
    if s.serverRtcpAddr.port = 0 then s else s.sendTo .rtcpUpstream s.serverRtcpAddr [0]

/-- `send_zte_heartbeat` -/
def sendZteHeartbeat (cfg : ServerConfig) (s : RtspToRtspClient) : RtspToRtspClient :=
  if cfg.usesZte then
    s.sendTo .rtpUpstream s.serverRtpAddr (zteHeartbeat s.localIp s.localRtpUsPort s.localTcpPort)
  else s

/-- The server is sent something from the ports of the relay. -/
def openPorts (cfg : ServerConfig) (s : RtspToRtspClient) : RtspToRtspClient :=
  if cfg.usesZte then s.sendZteHeartbeat cfg else s.sendRtpTrigger

/-! ## Requests -/

/-- A port pair as a transport parameter. -/
def portPair (name : String) (a b : Nat) : Bytes :=
  ascii name ++ decimal a ++ ascii "-" ++ decimal b

/-- The text without a semicolon at its end. An empty one has none (`readsEmptyBack`). -/
def dropSemicolon (s : Bytes) : Bytes := if s.getLast? = some 59 then s.dropLast else s

/-- The first occurrence of a pattern is replaced, if there is one. -/
def replaceFirst (pat new s : Bytes) : Bytes :=
  match find pat s with
  | none => s
  | some i => replaceAt s i pat.length new

/-- The protocol a client asks for, as it is remembered. -/
def transportProtocol (transport : Bytes) : Bytes :=
  if contains (ascii "MP2T/RTP/UDP") transport then ascii "MP2T/RTP/UDP"
  else if contains (ascii "RTP/AVP/TCP") transport then ascii "RTP/AVP/TCP"
  else ascii "RTP/AVP"

/-- The client wants frames, as the relay sees it. -/
def wantsFrames (transport : Bytes) : Bool :=
  contains (ascii "RTP/AVP/TCP") transport || contains (ascii "interleaved=") transport

/-- What remains of a transport when the first `RTP/AVP/TCP` is `RTP/AVP`, and pairs of channels
    are taken out, each with a semicolon behind it. -/
def remainder (transport : Bytes) : Bytes :=
  interleavedRe.replace [] (replaceFirst (ascii "RTP/AVP/TCP") (ascii "RTP/AVP") transport)

/-- `back()` is called on what remains, and nothing does. -/
def readsEmptyBack (cfg : ServerConfig) (transport : Bytes) : Bool :=
  !cfg.usesZte && wantsFrames transport && remainder transport = []

/-- The transport of a `SETUP` as the upstream is to see it: UDP to the relay. -/
def upstreamTransport (cfg : ServerConfig) (s : RtspToRtspClient) (transport : Bytes) : Bytes :=
  if cfg.usesZte then
    ascii "MP2T/RTP/UDP;unicast;client_address=" ++ s.localIp ++ ascii ";" ++
      portPair "client_port=" s.localRtpUsPort s.localRtcpUsPort ++ ascii ";mode=PLAY"
  else
    let mapped := cfg.usesStun && s.natWanPortUs ≠ 0
    let rtpPort := if mapped then s.natWanPortUs else s.localRtpUsPort
    let rtcpPort := if mapped then (s.natWanPortUs + 1) % 65536 else s.localRtcpUsPort
    if wantsFrames transport then
      dropSemicolon (remainder transport) ++ ascii ";" ++ portPair "client_port=" rtpPort rtcpPort
    else clientPortRe.replace (portPair "client_port=" rtpPort rtcpPort) transport

/-- `patch_transport_for_upstream` -/
def patchTransportForUpstream (cfg : ServerConfig) (s : RtspToRtspClient) (req : Bytes) :
    RtspToRtspClient × Bytes :=
  let transport := RtspParser.extractHeaderValue req (ascii "Transport")
  if transport = [] then (s, req)
  else
    ({ s with
        dsTransportProtocol := transportProtocol transport
        emptyBacks := s.emptyBacks + if readsEmptyBack cfg transport then 1 else 0 },
      replaceHeader req (ascii "Transport") (upstreamTransport cfg s transport))

/-- `patch_transport_for_upstream_tcp` -/
def patchTransportForUpstreamTcp (req : Bytes) : Bytes :=
  if RtspParser.extractHeaderValue req (ascii "Transport") = [] then req
  else replaceHeader req (ascii "Transport") (ascii "RTP/AVP/TCP;unicast;interleaved=0-1")

/-- The URI of a request as the upstream is to see it. -/
def rewriteUri (proxyPrefix upstreamBase uri : Bytes) : Bytes :=
  if proxyPrefix.isPrefixOf uri then upstreamBase ++ uri.drop proxyPrefix.length else uri

/-- `rewrite_request_for_upstream`: the URI between the first two blanks of the first line
    is rewritten. -/
def rewriteRequest (proxyPrefix upstreamBase req : Bytes) : Bytes :=
  if proxyPrefix = [] then req
  else match find crlf req with
    | none => req
    | some eol =>
      let line := req.take eol
      match find (ascii " ") line with
      | none => req
      | some sp₁ =>
        match findFrom (ascii " ") line (sp₁ + 1) with
        | none => req
        | some sp₂ =>
          line.take sp₁ ++ ascii " " ++
            rewriteUri proxyPrefix upstreamBase ((line.take sp₂).drop (sp₁ + 1)) ++ ascii " " ++
            line.drop (sp₂ + 1) ++ req.drop eol

/-- `rewrite_request_for_upstream` of a session. -/
def rewriteRequestForUpstream (s : RtspToRtspClient) (req : Bytes) : Bytes :=
  rewriteRequest s.proxyUriPrefix s.upstreamUriBase req

/-! ## Replies -/

/-- Double semicolons are replaced by single ones until none is left. -/
def collapseSemicolons : Nat → Bytes → Bytes
  | 0, s => s
  | fuel + 1, s =>
    match find (ascii ";;") s with
    | none => s
    | some i => collapseSemicolons fuel (replaceAt s i 2 (ascii ";"))

/-- The address of the server, at a port. The address is kept when that of the upstream is
    none. -/
def serverAddr (s : RtspToRtspClient) (old : SockAddr) (port : Nat) : SockAddr :=
  ⟨(inetPton s.ctx.serverIp).getD old.addr, port⟩

/-- The server ports of a transport are remembered, and opened towards the server when it
    sends over UDP. -/
def learnServerPorts (cfg : ServerConfig) (s : RtspToRtspClient) (transport : Bytes) :
    Except Exn RtspToRtspClient :=
  match serverPortRe.search transport with
  | none => .ok s
  | some m => do
    let rtp ← stoi (m.sub 1)
    let rtcp ← stoi (m.sub 2)
    let s := { s with
      serverRtpAddr := s.serverAddr s.serverRtpAddr (toUint16 rtp)
      serverRtcpAddr := s.serverAddr s.serverRtcpAddr (toUint16 rtcp) }
    return if s.isUpstreamTcp then s else s.openPorts cfg

/-- The transport with the protocol the client has asked for in place of `MP2T/RTP/UDP`. -/
def restoreProtocol (s : RtspToRtspClient) (transport : Bytes) : Bytes :=
  if s.dsTransportProtocol = [] then transport
  else replaceFirst (ascii "MP2T/RTP/UDP") s.dsTransportProtocol transport

/-- The transport of a reply as the client is to see it: the ports or the channels of the
    relay. -/
def clientTransport (s : RtspToRtspClient) (transport : Bytes) : Bytes :=
  let transport :=
    if s.isDownstreamTcp then
      let t := if contains (ascii "RTP/AVP/TCP") transport then transport
        else replaceFirst (ascii "RTP/AVP") (ascii "RTP/AVP/TCP") transport
      let t := serverPortRe.replace [] (clientPortRe.replace [] t)
      let t := dropSemicolon (collapseSemicolons t.length t)
      if contains (ascii "interleaved=") t then t
      else t ++ ascii ";" ++
        portPair "interleaved=" s.dsInterleavedRtp.toNat s.dsInterleavedRtcp.toNat
    else
      serverPortRe.replace (portPair "server_port=" s.localRtpDsPort s.localRtcpDsPort)
        (clientPortRe.replace
          (portPair "client_port=" s.clientRtpAddr.port s.clientRtcpAddr.port) transport)
  sourceRe.replace (ascii "source=" ++ inetNtoa s.localAddr.addr) transport

/-- The first part of `patch_response_for_client`: the transport. -/
def patchTransport (cfg : ServerConfig) (s : RtspToRtspClient) (resp : Bytes) :
    Except Exn (RtspToRtspClient × Bytes) :=
  let transport := RtspParser.extractHeaderValue resp (ascii "Transport")
  if transport = [] then .ok (s, resp)
  else do
    let transport := s.restoreProtocol transport
    let s ← s.learnServerPorts cfg transport
    return (s, replaceHeader resp (ascii "Transport") (s.clientTransport transport))

/-- The pattern of the URLs of the upstream. -/
def upstreamPattern (s : RtspToRtspClient) : Bytes :=
  ascii "rtsp://" ++ s.ctx.serverIp ++ ascii "(:[0-9]+)?/"

/-- The start of the URLs that stand for those of the upstream. -/
def proxyBase (s : RtspToRtspClient) : Bytes :=
  ascii "rtsp://" ++ inetNtoa s.localAddr.addr ++ ascii ":" ++ decimal s.localAddr.port ++ ascii "/"

/-- The URLs of the upstream in a header value, with the proxy in front. What is cut out of
    the first one found has to be there. -/
def rewriteUrls (s : RtspToRtspClient) (re : Regex) (value : Bytes) : Except Exn (Option Bytes) :=
  match re.search value with
  | none => .ok none
  | some m =>
    if m.text.length < 7 then .error .outOfRange
    else
      -- `substr(7, size - 8)`, where the length may wrap around
      let hostPort := (m.text.drop 7).take ((m.text.length + wordSize - 8) % wordSize)
      .ok (some (re.replace (s.proxyBase ++ hostPort ++ ascii "/") value))

/-- The URLs in one header field. -/
def patchUriHeader (s : RtspToRtspClient) (re : Regex) (msg name : Bytes) : Except Exn Bytes :=
  let value := RtspParser.extractHeaderValue msg name
  if value = [] then .ok msg
  else do
    match ← s.rewriteUrls re value with
    | none => return msg
    | some value => return replaceHeader msg name value

/-- The last part of `patch_response_for_client`: the addresses in a session description,
    and its length. -/
def patchSdp (s : RtspToRtspClient) (msg : Bytes) : Bytes :=
  match find crlf2 msg with
  | none => msg
  | some i =>
    let headers := msg.take (i + 4)
    let sdp := msg.drop (i + 4)
    if sdp ≠ [] ∧ contains (ascii "application/sdp") headers then
      let sdp := ip4Re.replace (ascii "IP4 " ++ inetNtoa s.localAddr.addr) sdp
      replaceHeader (headers ++ sdp) (ascii "Content-Length") (decimal sdp.length)
    else msg

/-- `patch_response_for_client` -/
def patchResponseForClient (cfg : ServerConfig) (s : RtspToRtspClient) (resp : Bytes) :
    Except Exn (RtspToRtspClient × Bytes) := do
  let (s, msg) ← s.patchTransport cfg resp
  let re ← Regex.compile s.upstreamPattern
  let msg ← s.patchUriHeader re msg (ascii "Content-Base")
  let msg ← s.patchUriHeader re msg (ascii "RTP-Info")
  return (s, s.patchSdp msg)

end RtspToRtspClient

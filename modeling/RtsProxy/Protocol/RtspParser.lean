import RtsProxy.Config

/-!
# RTSP messages

`rtspParser`: URLs, header fields, status lines and session descriptions, as the
proxy reads them. Header fields are found by searching the text of the message for
their name; nothing is checked about where it stands.
-/

open Text

/-- A media section of a session description. -/
structure Media where
  type : Bytes
  port : Int
  protocol : Bytes
  trackID : Bytes
  formats : List Bytes
  attributes : List (Bytes × Bytes)
  deriving DecidableEq, Repr

/-- What is known of the upstream of a session. -/
structure RtspCtx where
  serverRtspPort : Nat := 0
  serverRtpPort : Nat := 0
  serverRtcpPort : Nat := 0
  sessionId : Bytes := []
  serverIp : Bytes := []
  path : Bytes := []
  rtspUrl : Bytes := []
  contentBase : Bytes := []
  mediaStreams : List Media := []
  deriving DecidableEq, Repr

/-- The conversion of an `int` to `uint16_t`. -/
def toUint16 (n : Int) : Nat := (n % 65536).toNat

/-- The conversion of an `int` to `uint8_t`. -/
def toUint8 (n : Int) : UInt8 := (n % 256).toNat.toUInt8

namespace RtspParser

/-- The text without blanks and tabs in front. -/
def skipBlanks (s : Bytes) : Bytes := s.dropWhile fun c => c = 32 || c = 9

/-- The text up to the first CR LF, or all of it. -/
def untilCrlf (s : Bytes) : Bytes := s.take ((find crlf s).getD s.length)

/-- Where a header field is taken to start: the first place where its name and a
    colon stand, in any case. -/
def headerPos (msg name : Bytes) : Option Nat := find (lower name ++ ascii ":") (lower msg)

/-- `extract_header_value`: the value of a header field, empty when there is none. -/
def extractHeaderValue (msg name : Bytes) : Bytes :=
  match headerPos msg name with
  | none => []
  | some pos => untilCrlf (skipBlanks (msg.drop (pos + name.length + 1)))

/-- `get_content_length`: the announced length, 0 when it cannot be read. -/
def getContentLength (resp : Bytes) : Int :=
  match (find (ascii "Content-Length:") resp).or (find (ascii "Content-length:") resp) with
  | none => 0
  | some pos =>
    let value := skipBlanks (resp.drop (pos + 15))
    match findFirstOf crlf value 0 with
    | none => 0
    | some stop =>
      match stoi (value.take stop) with
      | .ok n => n
      | .error _ => 0

/-- A number as `%d` of `scanf` stores it: held to the range of `long`, then cut to
    32 bits. -/
def scanInt (m : Numeral) : Int :=
  let long := max (-(2 ^ 63 : Int)) (min (2 ^ 63 - 1 : Int) m.value)
  (long + 2 ^ 31) % 2 ^ 32 - 2 ^ 31

/-- `parse_status_code`: `sscanf` with the format `RTSP/%*s %d`, which sees the text
    up to the first NUL; -1 when it does not match. -/
def parseStatusCode (resp : Bytes) : Int :=
  let text := resp.takeWhile (· ≠ 0)
  if (ascii "RTSP/").isPrefixOf text then
    let version := (text.drop 5).dropWhile isSpace
    if version.takeWhile (! isSpace ·) = [] then -1
    else
      let m := readNumeral (version.dropWhile (! isSpace ·))
      if m.digits = [] then -1 else scanInt m
  else -1

/-- `parse_session_id`: takes over the session identifier of a reply. -/
def parseSessionId (resp : Bytes) (ctx : RtspCtx) : RtspCtx :=
  match find (ascii "Session:") resp with
  | none => ctx
  | some pos =>
    let value := skipBlanks (resp.drop (pos + 8))
    { ctx with sessionId := value.take ((findFirstOf (ascii ";\r\n") value 0).getD value.length) }

/-- `parse_url`: host, port and path of an `rtsp://` URL. -/
def parseUrl (url : Bytes) (ctx : RtspCtx) : Option RtspCtx :=
  if (ascii "rtsp://").isPrefixOf url then
    let slash := findFrom (ascii "/") url 7
    let hostport := (url.drop 7).take ((slash.getD url.length) - 7)
    let path := match slash with
      | some i => url.drop i
      | none => ascii "/"
    if hostport = [] then none
    else match find (ascii ":") hostport with
      | none =>
        some { ctx with rtspUrl := url, serverIp := hostport, serverRtspPort := 554, path := path }
      | some colon =>
        match stoi (hostport.drop (colon + 1)) with
        | .error _ => none
        | .ok n =>
          some { ctx with
            rtspUrl := url, serverIp := hostport.take colon, serverRtspPort := toUint16 n,
            path := path }
  else none

/-- The pair of numbers of a transport parameter, when a dash follows its name
    somewhere: the ports are stored as far as they could be read. `none`: there is no
    such parameter. -/
def readPortPair (transport param : Bytes) (ctx : RtspCtx) : Option (Bool × RtspCtx) := do
  let pos ← find param transport
  let start := pos + param.length
  let dash ← findFrom (ascii "-") transport start
  return match stoi ((transport.drop start).take (dash - start)) with
    | .error _ => (false, ctx)
    | .ok rtp =>
      let ctx := { ctx with serverRtpPort := toUint16 rtp }
      match stoi (transport.drop (dash + 1)) with
      | .error _ => (false, ctx)
      | .ok rtcp => (true, { ctx with serverRtcpPort := toUint16 rtcp })

/-- `parse_server_ports`: the server ports, or the channels, of a `SETUP` reply, and
    whether they could be read. -/
def parseServerPorts (resp : Bytes) (ctx : RtspCtx) : Bool × RtspCtx :=
  match find (ascii "Transport:") resp with
  | none => (false, ctx)
  | some pos =>
    let transport := untilCrlf (resp.drop pos)
    ((readPortPair transport (ascii "server_port=") ctx).or
      (readPortPair transport (ascii "interleaved=") ctx)).getD (false, ctx)

/-! ## Session descriptions -/

namespace Sdp

/-- The pieces that repeated `std::getline` yields: an empty one at the end is not
    seen. -/
def getlines (delim : UInt8) (s : Bytes) : List Bytes :=
  let parts := s.splitOn delim
  if parts.getLast? = some [] then parts.dropLast else parts

/-- `trim`: no white space around the text. -/
def trim (s : Bytes) : Bytes :=
  let blank := fun c => (ascii " \t\n\r").contains c
  ((s.dropWhile blank).reverse.dropWhile blank).reverse

/-- `parseMedia`: a section is opened when its port is a number. -/
def parseMedia (line : Bytes) (streams : List Media) : List Media :=
  let parts := getlines 32 (line.drop 2)
  match stoi (parts.getD 1 []) with
  | .error _ => streams
  | .ok port =>
    streams ++ [{
      type := parts.getD 0 [], port := port, protocol := parts.getD 2 [], trackID := [],
      formats := parts.drop 3, attributes := [] }]

/-- `parseAttribute`: an attribute with a value; `control` names the track. -/
def parseAttribute (line : Bytes) (media : Media) : Media :=
  let text := line.drop 2
  match find (ascii ":") text with
  | none => media
  | some colon =>
    let key := text.take colon
    let value := text.drop (colon + 1)
    if value = [] then media
    else { media with
      attributes := media.attributes.filter (·.1 ≠ key) ++ [(key, value)]
      trackID := if key = ascii "control" then value else media.trackID }

/-- A line of a description; an attribute belongs to the section opened last. -/
def parseLine (streams : List Media) (line : Bytes) : List Media :=
  if line.take 2 = ascii "m=" then parseMedia line streams
  else if line.take 2 = ascii "a=" then
    match streams.getLast? with
    | none => streams
    | some media => streams.dropLast ++ [parseAttribute line media]
  else streams

/-- `parseSDP`: the sections of a description, added to those of the context. -/
def parseSDP (sdp : Bytes) (ctx : RtspCtx) : RtspCtx :=
  { ctx with mediaStreams := ((getlines 10 sdp).map trim).foldl parseLine ctx.mediaStreams }

end Sdp

/-! ## Facts -/

theorem find_nil {pat : Bytes} (h : pat ≠ []) : find pat [] = none := if_neg h

/-- An empty message has no header fields. -/
theorem extractHeaderValue_nil (name : Bytes) : extractHeaderValue [] name = [] := by
  have hpos : headerPos [] name = none := find_nil (by simp [ascii])
  rw [extractHeaderValue, hpos]

example : parseStatusCode (ascii "RTSP/1.0 461 Unsupported Transport\r\n\r\n") = 461 := by decide

example : parseUrl (ascii "rtsp://10.0.0.7:8554/live?x=1") {} = some {
    rtspUrl := ascii "rtsp://10.0.0.7:8554/live?x=1", serverIp := ascii "10.0.0.7",
    serverRtspPort := 8554, path := ascii "/live?x=1" } := by decide

end RtspParser

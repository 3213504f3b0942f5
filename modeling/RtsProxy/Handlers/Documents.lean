import RtsProxy.Core.Logger
import RtsProxy.Handlers.ClientFd
import RtsProxy.Json.Dump

/-!
# The documents of the administration interface

What `ApiHandle` puts into the documents at `/api/status` and `/api/logs`, the descriptions of the
clients (`get_info`) among it, and what the serializer makes of them.

* `readDocument_of_messages`: the messages that are sent are read as they were recorded;
* `handleFd_status_eq_none_iff`: when the one with the clients cannot be written;
* `handleFd_logs_eq_none_iff`: when the one with the messages cannot.

A document that cannot be written is an exception that nobody catches.
-/

open Text

namespace Json

/-- A field is set: the fields of an object are kept in the order of their names. -/
def insertField (key : Bytes) (x : Json) : List (Bytes × Json) → List (Bytes × Json)
  | [] => [(key, x)]
  | (key', y) :: fields =>
    if key < key' then (key, x) :: (key', y) :: fields
    else if key = key' then (key, x) :: fields
    else (key', y) :: insertField key x fields

/-- An object whose fields are set one after the other. -/
def ofFields (fields : List (Bytes × Json)) : Json :=
  .object (fields.foldl (fun set field => insertField field.1 field.2 set) [])

/-- What is sent of a document that can be written. -/
def written (doc : Json) : Bytes := doc.dump.toOption.getD []

end Json

/-- What a description of a client shows beside its session: for an HTTP session the address of the
    client, and for all how long it has been there and its rates. -/
structure Observed where
  clientAddr : SockAddr := .zero
  duration : Nat := 0
  upstreamBandwidth : Nat := 0
  downstreamBandwidth : Nat := 0
  deriving DecidableEq, Repr

/-- An address and a port as they are shown. -/
def SockAddr.text (a : SockAddr) : Bytes := inetNtoa a.addr ++ ascii ":" ++ decimal a.port

/-- The description of a client of either kind. -/
def clientInfo (type : Bytes) (tcp : Bool) (downstream upstream : Bytes) (o : Observed) : Json :=
  .ofFields [(ascii "type", .string type),
    (ascii "transport", .string (if tcp then ascii "TCP" else ascii "UDP")),
    (ascii "downstream", .string downstream), (ascii "upstream", .string upstream),
    (ascii "proxy", .string (decimal o.duration)),
    (ascii "upstream_bandwidth", .unsigned o.upstreamBandwidth),
    (ascii "downstream_bandwidth", .unsigned o.downstreamBandwidth)]

/-- `RTSPToHttpClient::get_info`: the upstream is shown as the request has named it. -/
def RtspToHttpClient.getInfo (o : Observed) (s : RtspToHttpClient) : Json :=
  clientInfo (ascii "http-proxy") s.isTcpMode o.clientAddr.text
    (s.ctx.serverIp ++ ascii ":" ++ decimal s.ctx.serverRtspPort) o

/-- `RTSPToRtspClient::get_info`: the upstream is shown by the address of its packets. -/
def RtspToRtspClient.getInfo (o : Observed) (s : RtspToRtspClient) : Json :=
  clientInfo (ascii "mitm") s.isDownstreamTcp s.clientAddr.text
    (if s.serverRtpAddr.port ≠ 0 then s.serverRtpAddr.text else ascii "Connecting...") o

namespace ProxyClient

/-- `get_info` -/
def getInfo (o : Observed) : ProxyClient → Json
  | http s => s.getInfo o
  | rtsp s => s.getInfo o

/-- `is_closed` -/
def isClosed : ProxyClient → Bool
  | http s => s.isClosed
  | rtsp s => s.closed

end ProxyClient

namespace ApiHandle

/-- What the documents show beside the pool and the counters. -/
structure Shown where
  logger : Logger := {}
  loop : EpollLoop ProxyClient := {}
  observed : Nat → Observed := fun _ => {}
  upBandwidth : Nat := 0
  downBandwidth : Nat := 0

/-- `get_all_clients_info` -/
def clientsInfo (shown : Shown) : List Json :=
  (shown.loop.clientPtrMap.filter fun c => !c.2.isClosed).map fun c => c.2.getInfo (shown.observed c.1)

/-- The document at `/api/status`. -/
def statusDocument (shown : Shown) (report : StatusReport) : Json :=
  .ofFields [
    (ascii "pool", .ofFields [(ascii "available", .unsigned report.available),
      (ascii "allocated", .unsigned report.allocated), (ascii "used", .unsigned report.used),
      (ascii "peak", .unsigned report.peak), (ascii "buffer_size", .unsigned report.bufferSize),
      (ascii "total_bytes", .unsigned report.totalBytes)]),
    (ascii "stats", .ofFields [(ascii "up_traffic", .unsigned report.upTraffic),
      (ascii "down_traffic", .unsigned report.downTraffic),
      (ascii "traffic", .unsigned report.traffic),
      (ascii "up_bandwidth", .unsigned shown.upBandwidth),
      (ascii "down_bandwidth", .unsigned shown.downBandwidth),
      (ascii "active_clients", .unsigned report.activeClients)]),
    (ascii "clients", .array (clientsInfo shown))]

/-- The document at `/api/logs`. -/
def logsDocument (shown : Shown) : Json :=
  .ofFields [(ascii "logs", .array (shown.logger.getRecentLogs.map .string)),
    (ascii "level", .unsigned shown.logger.currentLevel.toNat)]

/-- The document that is sent for an answer. -/
def Answer.document (shown : Shown) : Answer → Option Json
  | .status report => some (statusDocument shown report)
  | .logs => some (logsDocument shown)
  | _ => none

/-- `send_json_response` can write what it is given. -/
def Answer.renders (shown : Shown) (answer : Answer) : Bool :=
  (answer.document shown).all fun doc => doc.dump.toBool

/-! ## What the documents are made of -/

variable {shown : Shown} {report : StatusReport} {s : Bytes}

/-- The fields of the document stand in the order of their names. -/
theorem statusDocument_eq : statusDocument shown report = .object [
    (ascii "clients", .array (clientsInfo shown)),
    (ascii "pool", .object [(ascii "allocated", .unsigned report.allocated),
      (ascii "available", .unsigned report.available),
      (ascii "buffer_size", .unsigned report.bufferSize), (ascii "peak", .unsigned report.peak),
      (ascii "total_bytes", .unsigned report.totalBytes), (ascii "used", .unsigned report.used)]),
    (ascii "stats", .object [(ascii "active_clients", .unsigned report.activeClients),
      (ascii "down_bandwidth", .unsigned shown.downBandwidth),
      (ascii "down_traffic", .unsigned report.downTraffic),
      (ascii "traffic", .unsigned report.traffic),
      (ascii "up_bandwidth", .unsigned shown.upBandwidth),
      (ascii "up_traffic", .unsigned report.upTraffic)])] := rfl

theorem logsDocument_eq : logsDocument shown = .object [
    (ascii "level", .unsigned shown.logger.currentLevel.toNat),
    (ascii "logs", .array (shown.logger.getRecentLogs.map .string))] := rfl

theorem clientInfo_eq (type : Bytes) (tcp : Bool) (downstream upstream : Bytes) (o : Observed) :
    clientInfo type tcp downstream upstream o = .object [
      (ascii "downstream", .string downstream),
      (ascii "downstream_bandwidth", .unsigned o.downstreamBandwidth),
      (ascii "proxy", .string (decimal o.duration)),
      (ascii "transport", .string (if tcp then ascii "TCP" else ascii "UDP")),
      (ascii "type", .string type), (ascii "upstream", .string upstream),
      (ascii "upstream_bandwidth", .unsigned o.upstreamBandwidth)] := rfl

/-- What the source spells out is ASCII, which `List.all` sees without the search for characters. -/
theorem isUtf8_of_all (h : (s.all fun b => b.toNat < 128) = true) : IsUtf8 s :=
  isUtf8_of_ascii fun b hb => of_decide_eq_true (List.all_eq_true.1 h b hb)

theorem forall_isUtf8_of_all {names : List Bytes}
    (h : (names.all fun s => s.all fun b => b.toNat < 128) = true) : ∀ name ∈ names, IsUtf8 name :=
  fun name hname => isUtf8_of_all (List.all_eq_true.1 h name hname)

theorem isUtf8_decimal (n : Nat) : IsUtf8 (decimal n) := by
  refine isUtf8_of_ascii fun b hb => ?_
  have hdigit := isDigit_of_mem_decimal hb
  rw [isDigit, Bool.and_eq_true, decide_eq_true_eq, decide_eq_true_eq] at hdigit
  exact Nat.lt_of_le_of_lt (UInt8.le_iff_toNat_le.1 hdigit.2) (by decide)

theorem isUtf8_text (a : SockAddr) : IsUtf8 a.text := by
  have hdot : IsUtf8 (ascii ".") := isUtf8_of_all rfl
  have hcolon : IsUtf8 (ascii ":") := isUtf8_of_all rfl
  have hcons : ∀ {a b : Bytes} (n : Nat), IsUtf8 a → IsUtf8 b → IsUtf8 (a ++ b ++ decimal n) :=
    fun n ha hb => isUtf8_append (isUtf8_append ha hb) (isUtf8_decimal n)
  exact hcons _ (hcons _ (hcons _ (hcons _ (isUtf8_decimal _) hdot) hdot) hdot) hcolon

theorem utf8_clientInfo_iff (type : Bytes) (tcp : Bool) (downstream upstream : Bytes)
    (o : Observed) :
    (∀ s ∈ (clientInfo type tcp downstream upstream o).texts, IsUtf8 s) ↔
      IsUtf8 type ∧ IsUtf8 downstream ∧ IsUtf8 upstream := by
  have htransport : IsUtf8 (if tcp then ascii "TCP" else ascii "UDP") := by
    cases tcp <;> exact isUtf8_of_all rfl
  have hnames : ∀ name ∈ [ascii "downstream", ascii "downstream_bandwidth", ascii "proxy",
      ascii "transport", ascii "type", ascii "upstream", ascii "upstream_bandwidth"],
      IsUtf8 name := forall_isUtf8_of_all rfl
  simp only [List.forall_mem_cons] at hnames
  rw [clientInfo_eq]
  simp only [Json.forall_texts_object, List.forall_mem_cons, Json.forall_texts_string,
    Json.forall_texts_unsigned, List.not_mem_nil, hnames, htransport, isUtf8_decimal, false_implies,
    implies_true, true_and, and_true]
  exact and_left_comm

/-- Of a client: what a request has named as the host of its upstream is the only text that may be
    no UTF-8. -/
def ShowsUtf8 : ProxyClient → Prop
  | .http s => IsUtf8 s.ctx.serverIp
  | .rtsp _ => True

theorem utf8_getInfo_iff (o : Observed) (c : ProxyClient) :
    (∀ s ∈ (c.getInfo o).texts, IsUtf8 s) ↔ ShowsUtf8 c := by
  cases c with
  | http s =>
    have hcolon : ascii ":" = [58] := by decide
    rw [ProxyClient.getInfo, RtspToHttpClient.getInfo, utf8_clientInfo_iff, hcolon,
      List.append_assoc, List.singleton_append, Json.isUtf8_append_cons_iff (by decide)]
    simp [isUtf8_text, isUtf8_decimal, ShowsUtf8, (isUtf8_of_all rfl : IsUtf8 (ascii "http-proxy"))]
  | rtsp s =>
    rw [ProxyClient.getInfo, RtspToRtspClient.getInfo, utf8_clientInfo_iff]
    refine iff_of_true ⟨isUtf8_of_all rfl, isUtf8_text _, ?_⟩ trivial
    split
    · exact isUtf8_text _
    · exact isUtf8_of_all rfl

/-- The texts of the status document are UTF-8 exactly if the hosts are that the live HTTP sessions
    have been asked for. -/
theorem utf8_statusDocument_iff :
    (∀ s ∈ (statusDocument shown report).texts, IsUtf8 s) ↔
      ∀ c ∈ shown.loop.clientPtrMap, c.2.isClosed = false → ShowsUtf8 c.2 := by
  have hnames : ∀ name ∈ [ascii "clients", ascii "pool", ascii "allocated", ascii "available",
      ascii "buffer_size", ascii "peak", ascii "total_bytes", ascii "used", ascii "stats",
      ascii "active_clients", ascii "down_bandwidth", ascii "down_traffic", ascii "traffic",
      ascii "up_bandwidth", ascii "up_traffic"], IsUtf8 name := forall_isUtf8_of_all rfl
  simp only [List.forall_mem_cons] at hnames
  rw [statusDocument_eq]
  simp only [List.forall_mem_cons, Json.forall_texts_object, Json.forall_texts_array,
    Json.forall_texts_unsigned, List.not_mem_nil, hnames, false_implies, implies_true, and_true,
    true_and]
  simp only [clientsInfo, List.forall_mem_map, List.mem_filter, utf8_getInfo_iff, Bool.not_eq_true',
    and_imp]

/-- The texts of the other document are the messages. -/
theorem utf8_logsDocument_iff :
    (∀ s ∈ (logsDocument shown).texts, IsUtf8 s) ↔ ∀ line ∈ shown.logger.getRecentLogs, IsUtf8 line := by
  have hnames : ∀ name ∈ [ascii "level", ascii "logs"], IsUtf8 name := forall_isUtf8_of_all rfl
  simp only [List.forall_mem_cons] at hnames
  rw [logsDocument_eq]
  simp only [Json.forall_texts_object, List.forall_mem_cons, Json.forall_texts_array,
    Json.forall_texts_unsigned, Json.forall_texts_string, List.not_mem_nil, hnames, false_implies,
    implies_true, and_true, true_and, List.forall_mem_map]

/-! ## What becomes of a request -/

variable {cfg : ServerConfig} {env : Surroundings} {fd : Nat} {h : Handling} {req : Bytes}
  {info : RequestInfo} {answer : Answer} {doc : Json}

theorem renders_iff (hdoc : answer.document shown = some doc) :
    answer.renders shown = true ↔ ∀ s ∈ doc.texts, IsUtf8 s := by
  rw [← Json.dump_eq_ok_iff, Answer.renders, hdoc]
  rcases hdump : doc.dump with e | w
  · simp [hdump, Except.toBool]
  · simp [hdump, Except.toBool]

/-- The exception of the serializer leaves the handler of the request. -/
theorem handleFd_eq_none_iff (hparse : RequestParser.parse cfg env.cal req = .ok info)
    (hanswer : dispatch env.server info = some answer) (hdoc : answer.document shown = some doc) :
    MasterHandle.handleFd (Answer.renders shown) cfg env fd h (.data req) = none ↔
      ¬∀ s ∈ doc.texts, IsUtf8 s := by
  rw [← renders_iff hdoc]
  have hsent : answer.isSent (Answer.renders shown) = answer.renders shown := by
    cases answer <;> rfl
  simp only [MasterHandle.handleFd, hparse, MasterHandle.dispatchFd, dispatchFd, hanswer, hsent]
  rcases answer.renders shown with _ | _ <;> simp

/-- A request for the status brings the process down exactly if a live HTTP session has been asked
    for an upstream whose name is no UTF-8. -/
theorem handleFd_status_eq_none_iff (hparse : RequestParser.parse cfg env.cal req = .ok info)
    (hanswer : dispatch env.server info = some (.status report)) :
    MasterHandle.handleFd (Answer.renders shown) cfg env fd h (.data req) = none ↔
      ∃ c ∈ shown.loop.clientPtrMap, c.2.isClosed = false ∧ ¬ShowsUtf8 c.2 := by
  rw [handleFd_eq_none_iff hparse hanswer rfl, utf8_statusDocument_iff]
  simp only [not_forall, exists_prop]

/-- A session whose upstream has a name that is no UTF-8. -/
def unnamedClient : ProxyClient :=
  .http { pool := .new 2048 1024, ctx := { serverIp := [255] } }

theorem handleFd_status_eq_none_iff_unnamed :
    MasterHandle.handleFd (Answer.renders { loop := { clientPtrMap := [(7, unnamedClient)] } }) {}
      MasterHandle.namedSurroundings 5 {} (.data (ascii "GET /api/status HTTP/1.1\r\n\r\n")) = none := by
  have hparse : RequestParser.parse {} MasterHandle.namedSurroundings.cal
      (ascii "GET /api/status HTTP/1.1\r\n\r\n") =
        .ok (RequestParser.requestInfo {} (ascii "GET") (ascii "/api/status") (ascii "HTTP/1.1") []) := by
    rfl
  have hname : ¬IsUtf8 [255] := by decide +kernel
  exact (handleFd_status_eq_none_iff hparse (by rfl)).2 ⟨_, List.mem_cons_self, rfl, hname⟩

/-- A request for the messages brings the process down exactly if one of the last hundred that have
    been accepted is no UTF-8. -/
theorem handleFd_logs_eq_none_iff {es : List Logger.Event} (hlogger : shown.logger = Logger.run {} es)
    (hparse : RequestParser.parse cfg env.cal req = .ok info)
    (hanswer : dispatch env.server info = some .logs) :
    MasterHandle.handleFd (Answer.renders shown) cfg env fd h (.data req) = none ↔
      ∃ line ∈ (Logger.run {} es).accepted.rtake 100, ¬IsUtf8 line := by
  rw [handleFd_eq_none_iff hparse hanswer rfl, utf8_logsDocument_iff, hlogger, Logger.recent_of_run]
  simp only [not_forall, exists_prop]

/-- What is sent of a document that can be written: its length, and a text that is read as it. -/
theorem readDocument_of_messages (hdoc : answer.document shown = some doc)
    (hrenders : answer.renders shown = true) :
    ∃ header body, answer.messages (fun report => (statusDocument shown report).written)
        (logsDocument shown).written = [header, body] ∧
      ascii "\r\nContent-Length: " ++ decimal body.length ++ crlf <:+: header ∧ IsUtf8 body ∧
      Json.readDocument body = some doc := by
  obtain ⟨w, hw⟩ := (Json.dump_eq_ok_iff doc).2 ((renders_iff hdoc).1 hrenders)
  have hreads := Json.reads_of_dump doc hw
  have hwritten : doc.written = w := by
    rw [Json.written, hw]
    rfl
  have hmessages : answer.messages (fun report => (statusDocument shown report).written)
      (logsDocument shown).written = okMessages (ascii "application/json")
        (ascii "Access-Control-Allow-Origin: *\r\n") w := by
    cases answer <;> cases hdoc <;> exact congrArg (okMessages _ _) hwritten
  refine ⟨_, w, hmessages, ⟨ascii "HTTP/1.1 200 OK\r\nContent-Type: " ++ ascii "application/json",
    ascii "Access-Control-Allow-Origin: *\r\n" ++ ascii "Connection: close\r\n\r\n", ?_⟩,
    hreads.isUtf8, Json.readDocument_of_reads hreads⟩
  simp only [List.append_assoc]

/-! ## Messages that clients cause -/

/-- The message about a file of the interface that is not there. -/
def notFoundMsg (fs : FileSystem) (uri : Bytes) : Bytes :=
  let path := if uri = ascii "/admin/" then ascii "/admin/index.html" else uri
  ascii "[SERVER] Admin file not found: " ++
    if fs.isThere (cString (localRoot ++ path.drop 6)) then localRoot ++ path.drop 6
    else systemRoot ++ path.drop 6

theorem utf8_formattedMsg_iff {time msg : Bytes} {level : LogLevel} :
    IsUtf8 (Logger.formattedMsg time level msg) ↔ IsUtf8 time ∧ IsUtf8 msg := by
  have hlevel : IsUtf8 (ascii " [" ++ level.text ++ ascii "] ") := by
    cases level <;> exact isUtf8_of_all rfl
  have hformatted : Logger.formattedMsg time level msg = [91] ++ (time ++ 93 ::
      ((ascii " [" ++ level.text ++ ascii "] ") ++ (msg ++ [10]))) := by
    have hopen : ascii "[" = [91] := by decide
    have hbetween : ascii "] [" = 93 :: ascii " [" := by decide
    have hend : ascii "\n" = [10] := by decide
    simp only [Logger.formattedMsg, hopen, hbetween, hend, List.append_assoc, List.cons_append]
  rw [hformatted, Json.isUtf8_append_iff (isUtf8_of_all rfl),
    Json.isUtf8_append_cons_iff (by decide), Json.isUtf8_append_iff hlevel,
    Json.isUtf8_append_cons_iff (by decide)]
  simp [isUtf8_nil]

/-- A request for a file that is not there. -/
theorem isPrefix_of_missing {srv : Server} {path : Bytes}
    (h : dispatch srv info = some (.missing path)) : ascii "/admin" <+: info.cleanUri := by
  rw [← List.isPrefixOf_iff_prefix]
  by_contra hadmin
  simp only [dispatch, Bool.not_eq_true _ ▸ hadmin] at h
  repeat' split at h
  all_goals simp_all

theorem utf8_notFoundMsg_iff {fs : FileSystem} {uri : Bytes} (huri : ascii "/admin" <+: uri) :
    IsUtf8 (notFoundMsg fs uri) ↔ IsUtf8 uri := by
  have hdrop : ∀ {path : Bytes}, ascii "/admin" <+: path → (IsUtf8 (path.drop 6) ↔ IsUtf8 path) := by
    rintro path ⟨tail, rfl⟩
    rw [Json.isUtf8_append_iff (isUtf8_of_all rfl)]
    rfl
  have hindex : IsUtf8 (ascii "/admin/index.html") ∧ IsUtf8 (ascii "/admin/") :=
    ⟨isUtf8_of_all rfl, isUtf8_of_all rfl⟩
  rw [notFoundMsg, Json.isUtf8_append_iff (isUtf8_of_all rfl)]
  have hroot : ∀ tail, IsUtf8 (if fs.isThere (cString (localRoot ++ tail)) then localRoot ++ tail
      else systemRoot ++ tail) ↔ IsUtf8 tail := by
    intro tail
    split
    · exact Json.isUtf8_append_iff (isUtf8_of_all rfl)
    · exact Json.isUtf8_append_iff (isUtf8_of_all rfl)
  rw [hroot]
  split
  · rename_i heq
    rw [hdrop (by decide), heq]
    exact iff_of_true hindex.1 hindex.2
  · exact hdrop huri

/-- Anyone may ask for a file of the interface. If it is not there, and its name is no UTF-8, then
    the next request for the messages brings the process down, unless a hundred other messages have
    been accepted before. -/
theorem handleFd_logs_of_missing {srv : Server} {asked : RequestInfo} {path time : Bytes}
    {before more : List Logger.Event} {calls : FileCalls}
    (hmissing : dispatch srv asked = some (.missing path)) (huri : ¬IsUtf8 asked.cleanUri)
    (hmore : more.length < 100)
    (hlogger : shown.logger = Logger.run {} (before ++
      .log time .error (notFoundMsg srv.fs asked.cleanUri) calls :: more))
    (hparse : RequestParser.parse cfg env.cal req = .ok info)
    (hanswer : dispatch env.server info = some .logs) :
    MasterHandle.handleFd (Answer.renders shown) cfg env fd h (.data req) = none := by
  rw [handleFd_eq_none_iff hparse hanswer rfl, utf8_logsDocument_iff, hlogger, Logger.recent_of_run]
  intro hall
  have hline := hall _ (Logger.mem_recent_of_error before hmore)
  exact huri ((utf8_notFoundMsg_iff (isPrefix_of_missing hmissing)).1
    (utf8_formattedMsg_iff.1 hline).2)

/-- A file that is asked for without the token. -/
def askedFile : RequestInfo :=
  RequestParser.requestInfo { token := ascii "k" } (ascii "GET")
    (ascii "/admin/" ++ 255 :: ascii ".js") (ascii "HTTP/1.1") []

/-- A client without the token asks for a file, and one with it for the messages. -/
theorem handleFd_logs_of_missing_file : askedFile.isAuthorized = false ∧
    MasterHandle.handleFd (Answer.renders { logger := Logger.run {} [.log (ascii "12:00") .error
        (notFoundMsg MasterHandle.namedSurroundings.server.fs askedFile.cleanUri) {}] })
      { token := ascii "k" } MasterHandle.namedSurroundings 5 {}
      (.data (ascii "GET /api/logs?token=k HTTP/1.1\r\n\r\n")) = none := by
  have hmissing : dispatch MasterHandle.namedSurroundings.server askedFile =
      some (.missing (ascii "/usr/share/rtsproxy/www/" ++ 255 :: ascii ".js")) := by decide +kernel
  have hparse : RequestParser.parse { token := ascii "k" } MasterHandle.namedSurroundings.cal
      (ascii "GET /api/logs?token=k HTTP/1.1\r\n\r\n") = .ok (RequestParser.requestInfo
        { token := ascii "k" } (ascii "GET") (ascii "/api/logs?token=k") (ascii "HTTP/1.1") []) := by
    rfl
  exact ⟨by decide +kernel, @handleFd_logs_of_missing _ _ _ _ _ _ _ _ _ _ _ [] [] _ hmissing
    (by decide +kernel) (by decide) rfl hparse (by rfl)⟩

end ApiHandle

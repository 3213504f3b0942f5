import RtsProxy.Core.BufferPool
import RtsProxy.Protocol.RequestParser
import RtsProxy.Text.Path

/-!
# The administration interface

`ApiHandle`: which requests it takes, whom it lets in and what it answers. Routes are
told by how the URI starts, static resources by what it contains anywhere, and the
URI still has its query.

* `dispatch_unauthorized_iff`: what a client without the token can be answered;
* `opened_inside_iff`: which requests keep to the directories of the web interface.
-/

open Text

/-- The file system as a handler sees it: which paths exist (`access`), and what a
    file that can be opened holds. -/
structure FileSystem where
  isThere : Bytes → Bool
  contents : Bytes → Option Bytes

/-- The document at `/api/status`, without the rates and the list of the clients. -/
structure StatusReport where
  available : Nat
  allocated : Nat
  used : Nat
  peak : Nat
  bufferSize : Nat
  totalBytes : Nat
  upTraffic : Nat
  downTraffic : Nat
  traffic : Nat
  activeClients : Nat
  deriving DecidableEq, Repr

namespace ApiHandle

/-- The answer to a request. -/
inductive Answer
  | unauthorized
  | noFavicon
  | status (report : StatusReport)
  | logs
  | redirect
  /-- A file of the web interface: its path and what it holds. -/
  | file (path content : Bytes)
  /-- The path of a file that cannot be opened. -/
  | missing (path : Bytes)
  deriving DecidableEq, Repr

/-- The media type of a file, by what its path contains. -/
def mimeType (path : Bytes) : Bytes :=
  if contains (ascii ".html") path then ascii "text/html"
  else if contains (ascii ".js") path then ascii "application/javascript"
  else if contains (ascii ".css") path then ascii "text/css"
  else if contains (ascii ".ico") path then ascii "image/x-icon"
  else if contains (ascii ".png") path then ascii "image/png"
  else ascii "application/octet-stream"

/-- A reply with a body. -/
def okMessages (type extra body : Bytes) : List Bytes :=
  [ascii "HTTP/1.1 200 OK\r\nContent-Type: " ++ type ++ ascii "\r\nContent-Length: " ++
    decimal body.length ++ crlf ++ extra ++ ascii "Connection: close\r\n\r\n", body]

/-- What is sent for an answer, given the JSON texts of the documents. -/
def Answer.messages (statusJson : StatusReport → Bytes) (logsJson : Bytes) : Answer → List Bytes
  | unauthorized => [ascii ("HTTP/1.1 401 Unauthorized\r\nContent-Type: text/html\r\n" ++
      "Connection: close\r\n\r\n<html><head><title>401 Unauthorized</title></head>" ++
      "<body style=\"font-family:sans-serif;text-align:center;padding-top:50px;\">" ++
      "<h1>401 Unauthorized</h1><p>Invalid or missing access token.</p>" ++
      "<p>Usage: <code>/admin/?token=YOUR_TOKEN</code></p></body></html>")]
  | noFavicon | missing _ => [ascii "HTTP/1.1 404 Not Found\r\nContent-Length: 0\r\n\r\n"]
  | redirect => [ascii ("HTTP/1.1 301 Moved Permanently\r\nLocation: /admin/\r\n" ++
      "Content-Length: 0\r\nConnection: close\r\n\r\n")]
  | status report =>
    okMessages (ascii "application/json") (ascii "Access-Control-Allow-Origin: *\r\n")
      (statusJson report)
  | logs =>
    okMessages (ascii "application/json") (ascii "Access-Control-Allow-Origin: *\r\n") logsJson
  | file path content => okMessages (mimeType path) [] content

/-- The text up to its first NUL: what the system calls see of it. -/
def cString (s : Bytes) : Bytes := s.takeWhile (· ≠ 0)

/-- The directory of the web interface beside the program. -/
def localRoot : Bytes := ascii "webui"

/-- The directory of the installed web interface. -/
def systemRoot : Bytes := ascii "/usr/share/rtsproxy/www"

/-- The path that `serve_admin_file` opens for a URI: in the local directory if there
    is such a file, otherwise in the system one. -/
def openedPath (fs : FileSystem) (uri : Bytes) : Bytes :=
  let path := if uri = ascii "/admin/" then ascii "/admin/index.html" else uri
  let relPath := cString (localRoot ++ path.drop 6)
  if fs.isThere relPath then relPath else cString (systemRoot ++ path.drop 6)

/-- `serve_admin_file` -/
def serveAdminFile (fs : FileSystem) (uri : Bytes) : Answer :=
  if uri = ascii "/admin" then .redirect
  else match fs.contents (openedPath fs uri) with
    | none => .missing (openedPath fs uri)
    | some content => .file (openedPath fs uri) content

/-- The endings by which static resources are told. -/
def staticEndings : List Bytes := [ascii ".js", ascii ".css", ascii ".ico"]

/-- `is_static`: one of the endings stands somewhere in the URI. -/
def isStatic (uri : Bytes) : Bool := staticEndings.any (contains · uri)

/-- The document at `/api/status`. -/
def statusReport (pool : BufferPool) (stats : Statistics) (clients : Nat) : StatusReport :=
  { available := pool.available, allocated := pool.totalAllocated
    used := pool.totalAllocated - pool.available, peak := pool.peakUsed
    bufferSize := pool.bufSize, totalBytes := pool.totalAllocated * pool.bufSize
    upTraffic := stats.upstreamBytes, downTraffic := stats.downstreamBytes
    traffic := stats.totalBytes, activeClients := clients }

/-- The state of the server that the answers show. -/
structure Server where
  pool : BufferPool
  stats : Statistics := {}
  clients : Nat := 0
  fs : FileSystem

/-- `dispatch`: the answer, or `none` for a request that is not for this handler. -/
def dispatch (srv : Server) (info : RequestInfo) : Option Answer :=
  let path := info.cleanUri
  let isApi := (ascii "/api/").isPrefixOf path
  let isAdmin := (ascii "/admin").isPrefixOf path
  let isFavicon := path = ascii "/favicon.ico"
  if !isApi && !isAdmin && !isFavicon then none
  else if !info.isAuthorized && !isStatic path then some .unauthorized
  else if isFavicon then some .noFavicon
  else if isApi && (ascii "/api/status").isPrefixOf path then
    some (.status (statusReport srv.pool srv.stats srv.clients))
  else if isApi && (ascii "/api/logs").isPrefixOf path then some .logs
  else if isAdmin then some (serveAdminFile srv.fs path)
  else none

/-! ## The directories of the web interface -/

/-- The path a request makes the handler open, whether it can be opened or not. -/
def Answer.opened : Answer → Option Bytes
  | file path _ | missing path => some path
  | _ => none

/-- The path lies in one of the directories of the web interface. -/
def InWebUi (path : Bytes) : Prop := Path.Inside localRoot path ∨ Path.Inside systemRoot path

/-- What is glued to the directories: the URI behind `/admin`, up to a NUL. -/
def tail (uri : Bytes) : Bytes := cString (uri.drop 6)

/-- A text that keeps to the directory it is glued to: it is empty or starts with a
    slash, and its segments never go back behind its start. -/
def KeepsInside (text : Bytes) : Prop :=
  (Path.segments text).head? = some [] ∧ Path.staysInside 0 (Path.segments text)

instance (text : Bytes) : Decidable (KeepsInside text) := inferInstanceAs (Decidable (_ ∧ _))

theorem cString_append {root : Bytes} (h : (0 : UInt8) ∉ root) (s : Bytes) :
    cString (root ++ s) = root ++ cString s := by
  rw [cString, List.takeWhile_append_of_pos]
  · rfl
  · intro c hc
    have : c ≠ 0 := fun h' => h (h' ▸ hc)
    simpa using this

/-- The local path in segments. -/
theorem resolve_local {text seg : Bytes} {segs : List Bytes}
    (h : Path.segments text = seg :: segs) :
    Path.resolve (localRoot ++ text) = segs.foldl (Path.enter false) [localRoot ++ seg] := by
  have hsegs : Path.segments (localRoot ++ text) = (localRoot ++ seg) :: segs := by
    rw [Path.segments_append_name (by decide), h]
    rfl
  have hent : Path.enter false [] (localRoot ++ seg) = [localRoot ++ seg] :=
    Path.enter_of_name (by simp [Path.isTrivial, localRoot, ascii])
      (by simp [Path.isParent, localRoot, ascii])
  rw [Path.resolve, hsegs, List.foldl_cons,
    show Path.isAbsolute (localRoot ++ text) = false from rfl, hent]

/-- The segments above the system directory, the innermost first. -/
def systemParents : List Bytes := [ascii "rtsproxy", ascii "share", ascii "usr"]

/-- The system path in segments. -/
theorem resolve_system {text seg : Bytes} {segs : List Bytes}
    (h : Path.segments text = seg :: segs) :
    Path.resolve (systemRoot ++ text) =
      segs.foldl (Path.enter true) ((ascii "www" ++ seg) :: systemParents) := by
  have hsplit : systemRoot ++ text = ascii "/usr/share/rtsproxy" ++ 47 :: (ascii "www" ++ text) := by
    rfl
  have hsegs : Path.segments (systemRoot ++ text) =
      Path.segments (ascii "/usr/share/rtsproxy") ++ (ascii "www" ++ seg) :: segs := by
    rw [hsplit, Path.segments_append_slash, Path.segments_append_name (by decide), h]
    rfl
  have hfold : (Path.segments (ascii "/usr/share/rtsproxy")).foldl (Path.enter true) [] =
      systemParents := by
    decide
  have hent : Path.enter true systemParents (ascii "www" ++ seg) =
      (ascii "www" ++ seg) :: systemParents :=
    Path.enter_of_name (by simp [Path.isTrivial, ascii]) (by simp [Path.isParent, ascii])
  rw [Path.resolve, hsegs, List.foldl_append, List.foldl_cons,
    show Path.isAbsolute (systemRoot ++ text) = true from rfl, hfold, hent]

/-- A text keeps inside exactly if it does so glued to both directories. -/
theorem keepsInside_iff (text : Bytes) :
    KeepsInside text ↔
      Path.Inside localRoot (localRoot ++ text) ∧ Path.Inside systemRoot (systemRoot ++ text) := by
  obtain ⟨seg, segs, hsegs⟩ : ∃ seg segs, Path.segments text = seg :: segs :=
    List.exists_cons_of_ne_nil (List.splitOn_ne_nil _ _)
  have hl := resolve_local hsegs
  have hs := resolve_system hsegs
  have hrl : Path.resolve localRoot = [localRoot] := by decide
  have hrs : Path.resolve systemRoot = ascii "www" :: systemParents := by decide
  have hname : ∀ s : Bytes, Path.isParent (localRoot ++ s) = false ∧
      Path.isParent (ascii "www" ++ s) = false := by
    intro s
    constructor <;> simp [Path.isParent, localRoot, ascii]
  constructor
  · rintro ⟨hhead, hstay⟩
    obtain rfl : seg = [] := by simpa [hsegs] using hhead
    rw [hsegs] at hstay
    have hstay' : Path.staysInside ([] : List Bytes).length segs = true := by
      simpa [Path.staysInside, Path.isTrivial] using hstay
    refine ⟨⟨rfl, ?_⟩, rfl, ?_⟩
    · rw [hrl, hl, List.append_nil]
      exact Path.suffix_of_staysInside (by simp) hstay'
    · rw [hrs, hs, List.append_nil]
      exact Path.suffix_of_staysInside (by simp) hstay'
  · rintro ⟨⟨_, hil⟩, _, his⟩
    rw [hrl, hl] at hil
    rw [hrs, hs] at his
    cases hstay : Path.staysInside ([] : List Bytes).length segs with
    | false =>
      have hout : ¬ascii "www" :: systemParents <:+
          segs.foldl (Path.enter true) ([] ++ (ascii "www" ++ seg) :: systemParents) :=
        Path.not_suffix_of_leaves (by decide) (by decide) (hname seg).1 (hname seg).2 (by simp)
          hstay hil
      exact absurd his hout
    | true =>
      have hkeep : [localRoot ++ seg] <:+ segs.foldl (Path.enter false) [localRoot ++ seg] :=
        Path.suffix_of_staysInside (List.forall_mem_nil _) hstay
      have heq := (List.suffix_of_suffix_length_le hil hkeep (by simp)).eq_of_length rfl
      obtain rfl : seg = [] := by simpa using heq
      rw [KeepsInside, hsegs]
      refine ⟨rfl, ?_⟩
      simpa [Path.staysInside, Path.isTrivial] using hstay

/-! ## What is opened -/

/-- The path opened for a URI other than `/admin/`. -/
theorem openedPath_eq {fs : FileSystem} {uri : Bytes} (h : uri ≠ ascii "/admin/") :
    openedPath fs uri =
      if fs.isThere (localRoot ++ tail uri) then localRoot ++ tail uri
      else systemRoot ++ tail uri := by
  rw [openedPath, if_neg h, cString_append (by decide), cString_append (by decide)]
  rfl

/-- A path in the local directory is not in the system one. -/
theorem inside_of_inWebUi_local {text : Bytes} (h : InWebUi (localRoot ++ text)) :
    Path.Inside localRoot (localRoot ++ text) := by
  rcases h with h | ⟨habs, _⟩
  · exact h
  · exact absurd habs (by simp [Path.isAbsolute, localRoot, systemRoot, ascii])

/-- A path in the system directory is not in the local one. -/
theorem inside_of_inWebUi_system {text : Bytes} (h : InWebUi (systemRoot ++ text)) :
    Path.Inside systemRoot (systemRoot ++ text) := by
  rcases h with ⟨habs, _⟩ | h
  · exact absurd habs (by simp [Path.isAbsolute, localRoot, systemRoot, ascii])
  · exact h

/-- For every file system the path opened for a URI lies in the web interface exactly
    if what is behind `/admin` keeps inside. -/
theorem openedPath_inside_iff (uri : Bytes) :
    (∀ fs, InWebUi (openedPath fs uri)) ↔ KeepsInside (tail uri) := by
  by_cases hroot : uri = ascii "/admin/"
  · subst hroot
    refine iff_of_true (fun fs => ?_) (by decide)
    have hindex := (keepsInside_iff (ascii "/index.html")).1 (by decide)
    have hopen : openedPath fs (ascii "/admin/") =
        if fs.isThere (localRoot ++ ascii "/index.html") then localRoot ++ ascii "/index.html"
        else systemRoot ++ ascii "/index.html" := rfl
    rw [hopen]
    split
    · exact .inl hindex.1
    · exact .inr hindex.2
  · rw [keepsInside_iff]
    constructor
    · intro h
      have hl := h ⟨fun _ => true, fun _ => none⟩
      have hs := h ⟨fun _ => false, fun _ => none⟩
      rw [openedPath_eq hroot] at hl hs
      exact ⟨inside_of_inWebUi_local hl, inside_of_inWebUi_system hs⟩
    · rintro ⟨hl, hs⟩ fs
      rw [openedPath_eq hroot]
      split
      · exact .inl hl
      · exact .inr hs

/-- The admin route takes the request: the URI starts with `/admin`, and the client is
    authorized or the URI counts as a static resource. -/
def Admitted (info : RequestInfo) : Prop :=
  (ascii "/admin").isPrefixOf info.cleanUri ∧ (info.isAuthorized ∨ isStatic info.cleanUri)

instance (info : RequestInfo) : Decidable (Admitted info) := inferInstanceAs (Decidable (_ ∧ _))

/-- A text with a given start does not have another one of other bytes. -/
theorem isPrefixOf_eq_false {a b s : Bytes} (hab : ¬a <+: b) (hba : ¬b <+: a)
    (h : a.isPrefixOf s = true) : b.isPrefixOf s = false := by
  rw [← Bool.not_eq_true, List.isPrefixOf_iff_prefix]
  intro hb
  rw [List.isPrefixOf_iff_prefix] at h
  rcases List.prefix_or_prefix_of_prefix h hb with h' | h'
  · exact hab h'
  · exact hba h'

/-- A request that the admin route takes is answered from the files. -/
theorem dispatch_of_admitted (srv : Server) {info : RequestInfo} (h : Admitted info) :
    dispatch srv info = some (serveAdminFile srv.fs info.cleanUri) := by
  obtain ⟨hadmin, hok⟩ := h
  have hapi : (ascii "/api/").isPrefixOf info.cleanUri = false :=
    isPrefixOf_eq_false (by decide) (by decide) hadmin
  have hfav : info.cleanUri ≠ ascii "/favicon.ico" := by
    intro hfav
    rw [hfav] at hadmin
    exact absurd hadmin (by decide)
  have hauth : (!info.isAuthorized && !isStatic info.cleanUri) = false := by
    rcases hok with hok | hok <;> simp [hok]
  simp [dispatch, hapi, hadmin, hfav, hauth]

/-- The document that a request for one is answered with, once it is past the check for
    the token. -/
def document (srv : Server) (uri : Bytes) : Option Answer :=
  if (ascii "/api/status").isPrefixOf uri then
    some (.status (statusReport srv.pool srv.stats srv.clients))
  else if (ascii "/api/logs").isPrefixOf uri then some .logs
  else none

/-- A static request for a document is answered with it. -/
theorem dispatch_of_document {srv : Server} {info : RequestInfo} {answer : Answer}
    (h : isStatic info.cleanUri = true) (hdoc : document srv info.cleanUri = some answer) :
    dispatch srv info = some answer := by
  have hfav : info.cleanUri ≠ ascii "/favicon.ico" := by
    intro hfav
    rw [hfav] at hdoc
    cases hdoc
  have hapi : (ascii "/api/").isPrefixOf info.cleanUri = true := by
    rw [List.isPrefixOf_iff_prefix]
    unfold document at hdoc
    split at hdoc
    case isTrue hpre =>
      exact .trans (by decide : ascii "/api/" <+: ascii "/api/status")
        (List.isPrefixOf_iff_prefix.1 hpre)
    case isFalse =>
      split at hdoc
      case isTrue hpre =>
        exact .trans (by decide : ascii "/api/" <+: ascii "/api/logs")
          (List.isPrefixOf_iff_prefix.1 hpre)
      case isFalse => cases hdoc
  unfold document at hdoc
  simp only [dispatch, h, hapi, hfav, Bool.not_true, Bool.and_false, Bool.false_and,
    Bool.false_eq_true, Bool.true_and, if_false]
  split at hdoc
  case isTrue hpre => rw [if_pos hpre, hdoc]
  case isFalse hpre =>
    rw [if_neg hpre]
    split at hdoc
    case isTrue hpre => rw [if_pos hpre, hdoc]
    case isFalse => cases hdoc

/-- The path opened by an answer from the files. -/
theorem opened_serveAdminFile (fs : FileSystem) (uri : Bytes) :
    (serveAdminFile fs uri).opened =
      if uri = ascii "/admin" then none else some (openedPath fs uri) := by
  rw [serveAdminFile]
  split
  · rfl
  · split <;> rfl

/-- Whatever files there are, a request that the admin route takes opens paths in the
    web interface only, exactly if what stands behind `/admin` keeps inside. -/
theorem opened_inside_iff (info : RequestInfo) (h : Admitted info) :
    (∀ srv answer path, dispatch srv info = some answer → answer.opened = some path →
      InWebUi path) ↔ KeepsInside (tail info.cleanUri) := by
  rw [← openedPath_inside_iff]
  by_cases hbare : info.cleanUri = ascii "/admin"
  · refine iff_of_true (fun srv answer path hd ho => ?_)
      ((openedPath_inside_iff _).2 (by rw [hbare]; decide))
    obtain rfl := Option.some.inj ((dispatch_of_admitted srv h).symm.trans hd)
    rw [opened_serveAdminFile, if_pos hbare] at ho
    cases ho
  · constructor
    · intro hall fs
      refine hall ⟨.new 0 0, {}, 0, fs⟩ _ _ (dispatch_of_admitted _ h) ?_
      rw [opened_serveAdminFile, if_neg hbare]
    · intro hall srv answer path hd ho
      obtain rfl := Option.some.inj ((dispatch_of_admitted srv h).symm.trans hd)
      rw [opened_serveAdminFile, if_neg hbare] at ho
      obtain rfl := Option.some.inj ho
      exact hall srv.fs

theorem opened_inside_iff_script :
    (∀ srv answer path,
      dispatch srv { cleanUri := ascii "/admin/js/../app.js" } = some answer →
        answer.opened = some path → InWebUi path) ↔
      KeepsInside (tail (ascii "/admin/js/../app.js")) :=
  opened_inside_iff { cleanUri := ascii "/admin/js/../app.js" } (by decide)

/-- A request for `/admin/../config.json` opens the configuration. -/
theorem opened_outside :
    ∃ info srv answer path,
      RequestParser.parse {} default (ascii "GET /admin/../config.json HTTP/1.1\r\n\r\n") =
        .ok info ∧
      Admitted info ∧ dispatch srv info = some answer ∧ answer.opened = some path ∧
      ¬InWebUi path := by
  refine ⟨{
      method := ascii "GET", rawUri := ascii "/admin/../config.json",
      version := ascii "HTTP/1.1", cleanUri := ascii "/admin/../config.json",
      isAuthorized := true },
    ⟨.new 0 0, {}, 0, fun path => path = ascii "webui/../config.json", fun _ => some []⟩,
    .file (ascii "webui/../config.json") [], ascii "webui/../config.json", ?_, ?_, ?_, rfl, ?_⟩
  · decide +kernel
  · decide
  · decide
  · rintro (⟨_, h⟩ | ⟨h, _⟩)
    · exact absurd h (by decide)
    · exact absurd h (by decide)

/-! ## Clients without the token -/

/-- The path of a static resource of the web interface. -/
def StaticFile (path : Bytes) : Prop :=
  InWebUi path ∧ staticEndings.any (·.isSuffixOf path)

/-- What a client without the token may be answered: no document, and of the files only
    static resources of the web interface. -/
def Answer.Harmless : Answer → Prop
  | status _ | logs => False
  | file path _ => StaticFile path
  | _ => True

/-- A URI that does not get past the check for the token by what it contains: counting as
    a static resource it names no document, and below `/admin` a static resource only. -/
def OnlyStatic (uri : Bytes) : Prop :=
  isStatic uri →
    (ascii "/api/status").isPrefixOf uri = false ∧ (ascii "/api/logs").isPrefixOf uri = false ∧
      ((ascii "/admin").isPrefixOf uri →
        KeepsInside (tail uri) ∧ staticEndings.any (·.isSuffixOf (tail uri)))

instance (uri : Bytes) : Decidable (OnlyStatic uri) := inferInstanceAs (Decidable (_ → _))

/-- The endings are those of the text behind a directory without dots. -/
theorem any_isSuffixOf_append {root : Bytes} (h : (46 : UInt8) ∉ root) (text : Bytes) :
    staticEndings.any (·.isSuffixOf (root ++ text)) =
      staticEndings.any (·.isSuffixOf text) := by
  rw [Bool.eq_iff_iff, List.any_eq_true, List.any_eq_true]
  constructor
  · rintro ⟨e, he, hsuf⟩
    refine ⟨e, he, ?_⟩
    rw [List.isSuffixOf_iff_suffix] at hsuf ⊢
    rcases List.suffix_or_suffix_of_suffix hsuf (List.suffix_append root text) with h' | ⟨s, hs⟩
    · exact h'
    · cases s with
      | nil => exact hs ▸ List.suffix_rfl
      | cons c s =>
        -- the dot of the ending would stand in the directory
        have hc : c = 46 := by
          simp only [staticEndings, List.mem_cons, List.not_mem_nil, or_false] at he
          rcases he with rfl | rfl | rfl <;> exact (List.cons.inj hs).1
        rw [← hs] at hsuf
        have : c ∈ root := by
          rw [List.suffix_append_self_iff] at hsuf
          exact hsuf.mem List.mem_cons_self
        exact absurd (hc ▸ this) h
  · rintro ⟨e, he, hsuf⟩
    refine ⟨e, he, ?_⟩
    rw [List.isSuffixOf_iff_suffix] at hsuf ⊢
    exact List.suffix_append_of_suffix hsuf

/-- A URI below `/admin` that counts as a static resource is not one of the two that are
    treated apart. -/
theorem ne_of_isStatic {uri : Bytes} (h : isStatic uri = true) :
    uri ≠ ascii "/admin" ∧ uri ≠ ascii "/admin/" := by
  constructor <;> rintro rfl <;> exact absurd h (by decide)

/-- The files that a URI below `/admin` can make the handler serve are static resources
    of the web interface exactly if the URI names one. -/
theorem serveAdminFile_harmless_iff {uri : Bytes} (h : isStatic uri = true) :
    (∀ fs, (serveAdminFile fs uri).Harmless) ↔
      KeepsInside (tail uri) ∧ staticEndings.any (·.isSuffixOf (tail uri)) := by
  obtain ⟨hbare, hroot⟩ := ne_of_isStatic h
  have hlocal : staticEndings.any (·.isSuffixOf (localRoot ++ tail uri)) = _ :=
    any_isSuffixOf_append (by decide) (tail uri)
  have hsystem : staticEndings.any (·.isSuffixOf (systemRoot ++ tail uri)) = _ :=
    any_isSuffixOf_append (by decide) (tail uri)
  constructor
  · intro hall
    have hfile : ∀ there : Bytes → Bool, StaticFile (openedPath ⟨there, fun _ => some []⟩ uri) := by
      intro there
      have := hall ⟨there, fun _ => some []⟩
      rwa [serveAdminFile, if_neg hbare] at this
    have hl := hfile fun _ => true
    refine ⟨(openedPath_inside_iff uri).1 fun fs => ?_, ?_⟩
    · have hin := (hfile fs.isThere).1
      rwa [openedPath_eq hroot] at hin ⊢
    · rw [openedPath_eq hroot, if_pos rfl] at hl
      exact hlocal ▸ hl.2
  · rintro ⟨hkeep, hend⟩ fs
    have hin : InWebUi (openedPath fs uri) := (openedPath_inside_iff uri).2 hkeep fs
    have hsuf : staticEndings.any (·.isSuffixOf (openedPath fs uri)) := by
      rw [openedPath_eq hroot]
      split
      · rwa [hlocal]
      · rwa [hsystem]
    rw [serveAdminFile, if_neg hbare]
    split
    · trivial
    · exact ⟨hin, hsuf⟩

/-- A client without the token is answered nothing but static resources of the web
    interface, exactly if the URI names nothing else when it counts as one. -/
theorem dispatch_unauthorized_iff {cfg : ServerConfig} {cal : Calendar} {request : Bytes}
    {info : RequestInfo} (hparse : RequestParser.parse cfg cal request = .ok info)
    (htoken : cfg.token ≠ [])
    (hno : ∀ p ∈ RequestParser.queryParams info.rawUri,
      RequestParser.splitParam p ≠ some (ascii "token", cfg.token)) :
    (∀ srv answer, dispatch srv info = some answer → answer.Harmless) ↔
      OnlyStatic info.cleanUri := by
  have hauth := RequestParser.isAuthorized_eq_false hparse htoken hno
  constructor
  · intro hall hstatic
    have hdoc : ∀ srv answer, document srv info.cleanUri = some answer → answer.Harmless :=
      fun srv answer h => hall srv answer (dispatch_of_document hstatic h)
    have hnone := hdoc ⟨.new 0 0, {}, 0, ⟨fun _ => false, fun _ => none⟩⟩
    unfold document at hnone
    refine ⟨?_, ?_, fun hadmin => ?_⟩
    · rw [← Bool.not_eq_true]
      intro hpre
      exact hnone _ (if_pos hpre)
    · rw [← Bool.not_eq_true]
      intro hpre
      have hnot : ¬(ascii "/api/status").isPrefixOf info.cleanUri = true := by
        rw [isPrefixOf_eq_false (by decide) (by decide) hpre]
        exact Bool.false_ne_true
      exact hnone .logs (by rw [if_neg hnot, if_pos hpre])
    · refine (serveAdminFile_harmless_iff hstatic).1 fun fs => ?_
      exact hall ⟨.new 0 0, {}, 0, fs⟩ _ (dispatch_of_admitted _ ⟨hadmin, .inr hstatic⟩)
  · intro honly srv answer hd
    by_cases hstatic : isStatic info.cleanUri = true
    · obtain ⟨hstatus, hlogs, hadmin⟩ := honly hstatic
      simp only [dispatch, hauth, hstatic, hstatus, hlogs, Bool.not_true, Bool.and_false,
        Bool.false_eq_true, if_false] at hd
      split at hd
      · cases hd
      · split at hd
        · cases hd
          trivial
        · split at hd
          case isTrue hpre =>
            cases hd
            exact (serveAdminFile_harmless_iff hstatic).2 (hadmin hpre) srv.fs
          case isFalse => cases hd
    · simp only [dispatch, hauth, hstatic, Bool.not_false, Bool.and_self, if_true] at hd
      split at hd
      · cases hd
      · cases hd
        trivial

theorem dispatch_unauthorized_iff_script :
    (∀ srv answer,
      dispatch srv (RequestParser.requestInfo { token := ascii "k" } (ascii "GET")
        (ascii "/admin/app.js?token=x") (ascii "HTTP/1.1") []) = some answer →
      answer.Harmless) ↔ OnlyStatic (ascii "/admin/app.js") :=
  @dispatch_unauthorized_iff { token := ascii "k" } default
    (ascii "GET /admin/app.js?token=x HTTP/1.1\r\n\r\n") _ (by rfl) (by decide) (by decide)

/-- With a token configured, a client without it is sent the status document for
    `/api/status?x=.js`. -/
theorem status_without_token :
    ∃ info srv report,
      RequestParser.parse { token := ascii "k" } default
        (ascii "GET /api/status?x=.js HTTP/1.1\r\n\r\n") = .ok info ∧
      (∀ p ∈ RequestParser.queryParams info.rawUri,
        RequestParser.splitParam p ≠ some (ascii "token", ascii "k")) ∧
      info.isAuthorized = false ∧ dispatch srv info = some (.status report) :=
  ⟨RequestParser.requestInfo { token := ascii "k" } (ascii "GET") (ascii "/api/status?x=.js")
      (ascii "HTTP/1.1") [], ⟨.new 0 0, {}, 0, ⟨fun _ => false, fun _ => none⟩⟩,
    statusReport (.new 0 0) {} 0, by rfl, by decide, by decide, by rfl⟩

end ApiHandle

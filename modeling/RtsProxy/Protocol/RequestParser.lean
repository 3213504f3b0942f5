import RtsProxy.Utils.UrlRewriter

/-!
# Requests

`RequestParser`: the first line of a request is taken apart, the `token` parameter
is checked and removed, and the upstream URL is resolved.

* `parse_cases`: the outcomes of parsing;
* `isAuthorized_eq_false`: who is not let in.
-/

open Text

/-- What is learnt from the first line of a request. -/
structure RequestInfo where
  method : Bytes := []
  rawUri : Bytes := []
  version : Bytes := []
  /-- The URI without its token parameters. -/
  cleanUri : Bytes := []
  /-- The upstream URL; empty: there is none. -/
  upstreamUrl : Bytes := []
  /-- The parameters of the query in their order; of equal keys the last one counts. -/
  params : List (Bytes × Bytes) := []
  isAuthorized : Bool := false
  isHttp : Bool := true
  deriving DecidableEq, Repr

namespace RequestParser

/-- `split` -/
def split (str : Bytes) (delimiter : UInt8) : List Bytes := str.splitOn delimiter

/-- The key and the value of a parameter, if it has an equals sign. -/
def splitParam (p : Bytes) : Option (Bytes × Bytes) :=
  (find (ascii "=") p).map fun i => (p.take i, p.drop (i + 1))

/-- The parameter is a token. -/
def isTokenParam (p : Bytes) : Bool := (splitParam p).any fun kv => kv.1 = ascii "token"

/-- The parameters of the query of a URI. -/
def queryParams (uri : Bytes) : List Bytes :=
  match find (ascii "?") uri with
  | none => []
  | some q => split (uri.drop (q + 1)) 38

/-- The URI without the token parameters of its query. -/
def cleanUri (uri : Bytes) : Bytes :=
  match find (ascii "?") uri with
  | none => uri
  | some q =>
    let kept := (split (uri.drop (q + 1)) 38).filter (! isTokenParam ·)
    if kept = [] then uri.take q
    else uri.take q ++ ascii "?" ++ (ascii "&").intercalate kept

/-- Authorized: no token is configured, or a parameter of the query is it. -/
def isAuthorized (cfg : ServerConfig) (uri : Bytes) : Bool :=
  cfg.token = [] || (queryParams uri).any fun p => splitParam p = some (ascii "token", cfg.token)

/-- Where the upstream URL starts in a URI: at the first `/rtp/`, or else the first
    `/tv/`. -/
def pathStart (uri : Bytes) : Option Nat :=
  (find (ascii "/rtp/") uri).or (find (ascii "/tv/") uri)

/-- The upstream URL of a URI, empty where there is none. -/
def upstreamUrl (cfg : ServerConfig) (cal : Calendar) (uri : Bytes) : Except Exn Bytes :=
  match pathStart uri with
  | none => .ok []
  | some i => (UrlRewriter.rewritePath cfg cal (uri.drop i)).map fun url => url.getD []

/-- What `parse` makes of a request line of three words whose upstream URL is given. -/
def requestInfo (cfg : ServerConfig) (method rawUri version upstream : Bytes) : RequestInfo :=
  { method := method, rawUri := rawUri, version := version, cleanUri := cleanUri rawUri
    upstreamUrl := upstream, params := (queryParams rawUri).filterMap splitParam
    isAuthorized := isAuthorized cfg rawUri, isHttp := (ascii "HTTP/").isPrefixOf version }

/-- `parse` -/
def parse (cfg : ServerConfig) (cal : Calendar) (request : Bytes) : Except Exn RequestInfo :=
  match words request with
  | method :: rawUri :: version :: _ =>
    (upstreamUrl cfg cal (cleanUri rawUri)).map (requestInfo cfg method rawUri version)
  | ws => .ok { method := ws.getD 0 [], rawUri := ws.getD 1 [] }

variable {cfg : ServerConfig} {cal : Calendar} {request : Bytes} {info : RequestInfo}

/-- A request is parsed as a line of three words, or else nothing is learnt of it but the
    words there are. -/
theorem parse_cases (h : parse cfg cal request = .ok info) :
    (∃ method rawUri version ws upstream, words request = method :: rawUri :: version :: ws ∧
      upstreamUrl cfg cal (cleanUri rawUri) = .ok upstream ∧
      info = requestInfo cfg method rawUri version upstream) ∨
    ∃ method rawUri, info = { method := method, rawUri := rawUri } := by
  unfold parse at h
  split at h
  case h_1 method rawUri version ws hws =>
    cases hup : upstreamUrl cfg cal (cleanUri rawUri) with
    | error e =>
      rw [hup] at h
      cases h
    | ok upstream =>
      rw [hup] at h
      cases h
      exact .inl ⟨method, rawUri, version, ws, upstream, hws, hup, rfl⟩
  case h_2 ws _ =>
    cases h
    exact .inr ⟨_, _, rfl⟩

/-- Where a token is configured, a request is authorized only by a parameter of its
    query that is this token. -/
theorem isAuthorized_eq_false (h : parse cfg cal request = .ok info) (htoken : cfg.token ≠ [])
    (hno : ∀ p ∈ queryParams info.rawUri, splitParam p ≠ some (ascii "token", cfg.token)) :
    info.isAuthorized = false := by
  rcases parse_cases h with ⟨method, rawUri, version, ws, upstream, _, _, rfl⟩ | ⟨_, _, rfl⟩
  · simpa [requestInfo, isAuthorized, htoken] using hno
  · rfl

end RequestParser

import RtsProxy.Config
import RtsProxy.Regex.Compile

/-!
# Rewriting of request paths

`URLRewriter`: the path of a request behind `/rtp/` or `/tv/` is the upstream URL
without its scheme. Paths behind `/tv/` with a query go through the configured
templates first.
-/

open Text Ecma

namespace UrlRewriter

/-! ## Patterns -/

/-- One pass of `simplifyToRegex`: from `pos` on, every `token` is replaced; the
    search goes on `skip` bytes behind the place of the replacement, and `len` bytes
    are taken out for it. -/
def substitute (token new : Bytes) (len skip : Nat) : Nat → Nat → Bytes → Bytes
  | 0, _, s => s
  | fuel + 1, pos, s =>
    match findFrom token s pos with
    | none => s
    | some i => substitute token new len skip fuel (i + skip) (replaceAt s i len new)

/-- `simplifyToRegex`: the regular expression of a template pattern. For `{any}` the
    code takes out 6 bytes, one more than it has. -/
def simplifyToRegex (pattern : Bytes) : Bytes :=
  let pass := fun token new len skip s => substitute token new len skip (s.length + 1) 0 s
  pass (ascii "/") (ascii "\\/") 1 2
    (pass (ascii "\x7bany\x7d") (ascii "(.*?)") 6 5
      (pass (ascii "\x7bword\x7d") (ascii "(\\w+)") 7 6
        (pass (ascii "\x7bnumber\x7d") (ascii "(\\d+)") 8 6 pattern)))

/-! ## Times -/

/-- `shift_hours * 3600`: a product of two `int`s, which wraps. -/
def shiftSeconds (hours : Int) : Int := (hours * 3600).bmod (2 ^ 32)

/-- `shiftTime`: a time of 14 digits in the local zone, or a time stamp, moved by
    some hours. -/
def shiftTime (cal : Calendar) (time : Bytes) (hours : Int) : Except Exn Bytes :=
  if time.length = 14 then
    match cal.parse time with
    | none => .ok time
    | some t => .ok (cal.formatLocal (t + shiftSeconds hours))
  else if time.length ≤ 10 then do
    let t ← stoll time
    return cal.formatUtc (t + shiftSeconds hours)
  else .ok time

/-! ## Templates -/

/-- The text of a match with its first two groups moved in time. The second one is
    looked for behind the first; where a group is not found nothing is changed, and
    `npos` counts on like any position. -/
def shiftGroups (cal : Calendar) (hours : Int) (m : Regex.Match) : Except Exn Bytes := do
  let start := m.sub 1
  let stop := m.sub 2
  let newStart ← shiftTime cal start hours
  let newStop ← shiftTime cal stop hours
  let pos₁ := find start m.text
  let full := match pos₁ with
    | none => m.text
    | some i => replaceAt m.text i start.length newStart
  let behind := (pos₁.getD (wordSize - 1) + newStart.length) % wordSize
  return match findFrom stop full behind with
    | none => full
    | some i => replaceAt full i stop.length newStop

/-- One template applied to a path. -/
def applyTemplate (cal : Calendar) (t : Template) (url : Bytes) : Except Exn Bytes := do
  let rgx ← Regex.compile (simplifyToRegex t.pattern)
  match t.action with
  | .remove => return rgx.replace [] url
  | .replace replacement => return rgx.replace replacement url
  | .timeshift hours =>
    match rgx.search url with
    | none => return url
    | some m =>
      if 2 ≤ rgx.groups then
        let full ← shiftGroups cal hours m
        return replaceAt url m.pos m.text.length full
      else return url
  | .other => return url

/-- The templates in their order. A `regex_error` is caught; other exceptions are not. -/
def applyTemplates (cal : Calendar) (ts : List Template) (url : Bytes) :
    Except Exn (Option Bytes) :=
  match ts.foldlM (fun u t => applyTemplate cal t u) url with
  | .ok u => .ok (some u)
  | .error .regexError => .ok none
  | .error e => .error e

/-- `rewrite_path`: the upstream URL of a path; `none` where there is none. -/
def rewritePath (cfg : ServerConfig) (cal : Calendar) (url : Bytes) :
    Except Exn (Option Bytes) := do
  let isTv := (ascii "/tv/").isPrefixOf url
  let isRtp := (ascii "/rtp/").isPrefixOf url
  if !isTv && !isRtp then return none
  let processed ←
    if isTv && contains (ascii "?") url then applyTemplates cal cfg.replaceTemplates url
    else pure (some url)
  let skip := if isTv then 4 else 5
  return processed.bind fun p =>
    if p.length ≤ skip then none else some (ascii "rtsp://" ++ p.drop skip)

/-- Behind `/rtp/` the rest of the path is the URL, unchanged. -/
theorem rewritePath_rtp (cfg : ServerConfig) (cal : Calendar) {rest : Bytes} (h : rest ≠ []) :
    rewritePath cfg cal (ascii "/rtp/" ++ rest) = .ok (some (ascii "rtsp://" ++ rest)) := by
  have htv : (ascii "/tv/").isPrefixOf (ascii "/rtp/" ++ rest) = false := rfl
  have hrtp : (ascii "/rtp/").isPrefixOf (ascii "/rtp/" ++ rest) = true := rfl
  have hlen : ¬(ascii "/rtp/" ++ rest).length ≤ 5 := by
    have : 0 < rest.length := List.length_pos_iff.2 h
    simp only [List.length_append, show (ascii "/rtp/").length = 5 from rfl]
    omega
  have hdrop : (ascii "/rtp/" ++ rest).drop 5 = rest := rfl
  simp only [rewritePath, htv, hrtp, Bool.not_true, Bool.and_false, Bool.false_and,
    Bool.false_eq_true, if_false, pure_bind, Option.bind_some, hlen, hdrop]
  rfl

end UrlRewriter

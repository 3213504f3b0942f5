import RtsProxy.Protocol.HeaderLines

/-!
# Looking header fields up

A text is looked up in a message by what stands in front of it. What stands there first may not be
the name of a header line: it may be in front of the colon or behind it, or in the body.

* `Lookup.read_message`: a lookup goes line by line, and then to the body;
* `Lookup.stray`: what is read, if it stands elsewhere than at the start of a line;
* `lookups_iff`: when header fields and session identifiers are those of header lines.
-/

open Text

namespace RtspParser

variable {name l s body v : Bytes} {hs : List Bytes} {ctx : RtspCtx} {p : Nat}

/-- A lookup: the place of what is looked for, its length, and how much is read of what stands
    behind it. Lines are looked at one by one, and what is read ends with its line. -/
structure Lookup where
  place : Bytes → Option Nat
  length : Nat
  cut : Bytes → Bytes
  pos : 0 < length
  place_le : ∀ {l p}, place l = some p → p + length ≤ l.length
  place_line : ∀ l rest, place (l ++ (crlf ++ rest)) =
    (place l).or ((place rest).map (· + (l.length + 2)))
  cut_line : ∀ {l}, Unbroken l → ∀ rest, cut (l ++ (crlf ++ rest)) = cut l

namespace Lookup

variable (L : Lookup)

/-- What is read in a text. -/
def read (s : Bytes) : Option Bytes := (L.place s).map fun p => L.cut (skipBlanks (s.drop (p + L.length)))

/-- What is read in a message, if what is looked for does not stand at the start of a header line
    first. -/
def stray : List Bytes → Bytes → Option Bytes
  | [], body => L.read body
  | l :: hs, body =>
    match L.place l with
    | none => stray hs body
    | some 0 => none
    | some (_ + 1) => L.read l

/-- A line is looked at first, and then what is behind it. -/
theorem read_line (hl : Unbroken l) (rest : Bytes) :
    L.read (l ++ (crlf ++ rest)) = (L.read l).or (L.read rest) := by
  rw [read, L.place_line]
  rcases hp : L.place l with _ | p
  · rw [read, hp, Option.none_or, Option.map_none, Option.none_or, read, Option.map_map]
    refine congrArg (Option.map · (L.place rest)) (funext fun q => ?_)
    rw [Function.comp_apply,
      show q + (l.length + 2) + L.length = l.length + (q + L.length + 2) by omega,
      List.drop_length_add_append]
    rfl
  · rw [read, hp, Option.some_or, Option.map_some, Option.map_some, Option.some_or,
      List.drop_append_of_le_length (L.place_le hp), skipBlanks_line,
      L.cut_line (unbroken_value hl _)]

theorem read_nil : L.read [] = none := by
  rw [read, Option.map_eq_none_iff, Option.eq_none_iff_forall_ne_some]
  intro p hp
  have hle := L.place_le hp
  have hpos := L.pos
  rw [List.length_nil] at hle
  omega

theorem read_end (body : Bytes) : L.read (message [] body) = L.read body := by
  have hline := L.read_line unbroken_nil body
  rwa [read_nil, Option.none_or] at hline

/-- A lookup goes line by line, and then to the body. -/
theorem read_message (hfree : ∀ l ∈ hs, Unbroken l) (body : Bytes) :
    L.read (message hs body) = (hs.findSome? L.read).or (L.read body) := by
  induction hs with
  | nil => exact L.read_end body
  | cons l hs ih =>
    obtain ⟨hl, hhs⟩ := List.forall_mem_cons.1 hfree
    rw [message_cons, L.read_line hl, ih hhs, List.findSome?_cons]
    rcases L.read l with _ | v <;> rfl

/-- What is read in a message strays, or stands at the start of the first line that has what is
    looked for. -/
theorem stray_cases (hfree : ∀ l ∈ hs, Unbroken l) (body : Bytes) :
    L.stray hs body = L.read (message hs body) ∨ L.stray hs body = none ∧
      ∃ before l after, hs = before ++ l :: after ∧ (∀ m ∈ before, L.place m = none) ∧
        L.place l = some 0 ∧ L.read (message hs body) = L.read l := by
  induction hs with
  | nil => exact .inl (L.read_end body).symm
  | cons l hs ih =>
    obtain ⟨hl, hhs⟩ := List.forall_mem_cons.1 hfree
    rw [message_cons, L.read_line hl, stray]
    rcases hp : L.place l with _ | _ | p
    · have hnone : L.read l = none := by rw [read, hp, Option.map_none]
      rw [hnone, Option.none_or]
      refine (ih hhs).imp id ?_
      rintro ⟨hstray, before, m, after, rfl, hbefore, hm, hread⟩
      exact ⟨hstray, l :: before, m, after, rfl, List.forall_mem_cons.2 ⟨hp, hbefore⟩, hm, hread⟩
    · have hsome : L.read l = some (L.cut (skipBlanks (l.drop (0 + L.length)))) := by
        rw [read, hp, Option.map_some]
      refine .inr ⟨rfl, [], l, hs, rfl, nofun, hp, ?_⟩
      rw [hsome, Option.some_or]
    · refine .inl ?_
      rw [read, hp, Option.map_some, Option.some_or]

end Lookup

/-! ## The lookups -/

/-- The lookup of a header field. -/
def byName (h : IsName name) : Lookup where
  place s := headerPos s name
  length := name.length + 1
  cut := untilCrlf
  pos := Nat.succ_pos _
  place_le := headerPos_le
  place_line := headerPos_line h
  cut_line {l} hl rest := by
    rw [untilCrlf, untilCrlf, find_crlf_line hl, find_eq_none_iff.2 hl, Option.getD_some,
      Option.getD_none, List.take_left, List.take_length]

theorem extractHeaderValue_eq (h : IsName name) (s : Bytes) :
    extractHeaderValue s name = ((byName h).read s).getD [] := by
  rw [extractHeaderValue, Lookup.read]
  show _ = ((headerPos s name).map _).getD []
  rcases headerPos s name with _ | p <;> rfl

/-- A session identifier: what is in front of a semicolon or an end of a line. -/
def identifier (v : Bytes) : Bytes := v.takeWhile fun c => !(ascii ";\r\n").contains c

theorem take_findFirstOf (set v : Bytes) :
    v.take ((findFirstOf set v 0).getD v.length) = v.takeWhile fun c => !set.contains c := by
  have hwhere : findFirstOf set v 0 = v.findIdx? fun c => set.contains c := Option.map_id'
  rw [hwhere, ← List.findIdx_eq_getD_findIdx?, List.takeWhile_eq_take_findIdx_not]
  simp only [Bool.not_not]

/-- The lookup of a session identifier. -/
def bySession : Lookup where
  place := find (ascii "Session:")
  length := 8
  cut := identifier
  pos := Nat.succ_pos _
  place_le := find_add_length_le
  place_line := find_line (by decide) (by decide) (by decide)
  cut_line {l} _ rest := by
    rw [identifier, List.takeWhile_append]
    split
    case isTrue hall =>
      have hstop : (crlf ++ rest).takeWhile (fun c => !(ascii ";\r\n").contains c) = [] :=
        List.takeWhile_cons_of_neg (by decide)
      rw [hstop, List.append_nil]
      exact ((List.takeWhile_prefix _).eq_of_length hall).symm
    case isFalse => rfl

theorem parseSessionId_eq (s : Bytes) (ctx : RtspCtx) :
    parseSessionId s ctx = match bySession.read s with
      | none => ctx
      | some identifier => { ctx with sessionId := identifier } := by
  rw [parseSessionId, Lookup.read]
  show _ = match (find (ascii "Session:") s).map _ with
    | none => ctx
    | some identifier => { ctx with sessionId := identifier }
  rcases find (ascii "Session:") s with _ | p
  · rfl
  · dsimp only [Option.map_some]
    rw [take_findFirstOf]
    rfl

/-! ## Header lines -/

/-- The name of a header line, in front of its first colon, and its value, behind the blanks that
    follow the colon. -/
def headerLine (l : Bytes) : Option (Bytes × Bytes) :=
  (find (ascii ":") l).map fun colon => (l.take colon, skipBlanks (l.drop (colon + 1)))

/-- The value of a header line that has the name, in some case. -/
def valueOf (name l : Bytes) : Option Bytes :=
  (headerLine l).bind fun field => if lower field.1 = lower name then some field.2 else none

/-- The value of the first header line that has the name. -/
def headerField (name : Bytes) (hs : List Bytes) : Option Bytes := hs.findSome? (valueOf name)

/-- The first header line that has the name. -/
def fieldLine (name : Bytes) (hs : List Bytes) : Option Bytes :=
  hs.find? fun l => (valueOf name l).isSome

theorem fieldLine_cons_of_eq_none (h : valueOf name l = none) (hs : List Bytes) :
    fieldLine name (l :: hs) = fieldLine name hs := by
  refine List.find?_cons_of_neg ?_
  rw [h]
  exact Bool.false_ne_true

theorem fieldLine_cons_of_eq_some (h : valueOf name l = some v) (hs : List Bytes) :
    fieldLine name (l :: hs) = some l := by
  refine List.find?_cons_of_pos ?_
  rw [h]
  rfl

theorem headerField_eq (name : Bytes) (hs : List Bytes) :
    headerField name hs = (fieldLine name hs).bind (valueOf name) := by
  induction hs with
  | nil => rfl
  | cons l hs ih =>
    rw [headerField, List.findSome?_cons]
    rcases hv : valueOf name l with _ | v
    · rw [fieldLine_cons_of_eq_none hv]
      exact ih
    · rw [fieldLine_cons_of_eq_some hv, Option.bind_some, hv]

/-- A header field is that of a header line. -/
def LooksUp (name : Bytes) (hs : List Bytes) (body : Bytes) : Prop :=
  extractHeaderValue (message hs body) name = (headerField name hs).getD []

/-- A session identifier that is taken over is that of a header line. -/
def SetsFromHeader (hs : List Bytes) (body : Bytes) : Prop :=
  (∀ ctx, parseSessionId (message hs body) ctx = ctx) ∨
    ∃ l ∈ hs, ∃ v ∈ valueOf (ascii "Session") l, ∀ ctx,
      parseSessionId (message hs body) ctx = { ctx with sessionId := identifier v }

/-- A name at the start of a line is that of the line. -/
theorem valueOf_of_start (h : IsName name) (hp : headerPos l name = some 0) :
    valueOf name l = some (skipBlanks (l.drop (name.length + 1))) := by
  obtain ⟨m, hm, hl⟩ := eq_of_headerPos hp
  rw [List.take_zero, List.nil_append, Nat.zero_add] at hl
  have hcolon : (58 : UInt8) ∉ m := fun hin => h.2.2.2 (hm ▸ List.mem_map_of_mem hin)
  have hlen : m.length = name.length := by
    rw [← length_lower m, hm, length_lower]
  have hfind : find (ascii ":") l = some m.length := by
    rw [hl]
    exact find_byte hcolon
  have hfront : l.take m.length = m := by
    rw [hl, List.take_left]
  rw [valueOf, headerLine, hfind, Option.map_some, Option.bind_some, hfront, if_pos hm, hlen]

/-- The name of a line is at its start. -/
theorem headerPos_of_valueOf (h : valueOf name l = some v) : headerPos l name = some 0 := by
  rw [valueOf, headerLine] at h
  obtain ⟨field, hfield, hname⟩ := Option.bind_eq_some_iff.1 h
  obtain ⟨colon, hcolon, rfl⟩ := Option.map_eq_some_iff.1 hfield
  obtain ⟨-, ⟨t, ht⟩, -⟩ := find_eq_some_iff.1 hcolon
  split at hname
  case isFalse => cases hname
  case isTrue hlower =>
    refine find_eq_zero ⟨lower t, ?_⟩
    rw [← List.take_append_drop colon l, ← ht, ← hlower]
    simp only [lower, List.map_append, List.append_assoc]
    rfl

theorem read_byName_line (h : IsName name) (hl : Unbroken l) (hp : headerPos l name = some 0) :
    (byName h).read l = valueOf name l := by
  have hfree := unbroken_value hl (name.length + 1)
  have hplace : (byName h).place l = some 0 := hp
  rw [valueOf_of_start h hp, Lookup.read, hplace, Option.map_some, Nat.zero_add]
  refine congrArg some ?_
  show untilCrlf (skipBlanks (l.drop (name.length + 1))) = _
  rw [untilCrlf, find_eq_none_iff.2 hfree, Option.getD_none, List.take_length]

/-- A lookup by a name sees the header line, or something that strays. -/
theorem looksUp_iff (h : IsName name) (hfree : ∀ l ∈ hs, Unbroken l) (body : Bytes) :
    LooksUp name hs body ↔
      ∀ v ∈ (byName h).stray hs body, v = (headerField name hs).getD [] := by
  rw [LooksUp, extractHeaderValue_eq h]
  rcases (byName h).stray_cases hfree body with hstray | ⟨hstray, before, l, after, rfl, hbefore, hl, hread⟩
  · rw [hstray]
    rcases hread : (byName h).read (message hs body) with _ | v
    · -- Where nothing is read, no line has the name.
      rw [(byName h).read_message hfree, Option.or_eq_none_iff, List.findSome?_eq_none_iff] at hread
      have hnone : headerField name hs = none := by
        refine List.findSome?_eq_none_iff.2 fun l hl => ?_
        by_contra hne
        obtain ⟨v, hv⟩ := Option.ne_none_iff_exists'.1 hne
        have hread := hread.1 l hl
        rw [read_byName_line h (hfree l hl) (headerPos_of_valueOf hv), hv] at hread
        cases hread
      rw [hnone]
      exact iff_of_true rfl nofun
    · rw [Option.getD_some]
      exact ⟨fun heq w hw => Option.some.inj hw ▸ heq, fun heq => heq v rfl⟩
  · have hnone : before.findSome? (valueOf name) = none := by
      refine List.findSome?_eq_none_iff.2 fun m hm => ?_
      by_contra hne
      obtain ⟨v, hv⟩ := Option.ne_none_iff_exists'.1 hne
      have hplace : headerPos m name = none := hbefore m hm
      rw [headerPos_of_valueOf hv] at hplace
      cases hplace
    have hline := hfree l (List.mem_append_right _ List.mem_cons_self)
    have hvalue := valueOf_of_start h hl
    have hfield : headerField name (before ++ l :: after) = valueOf name l := by
      rw [headerField, List.findSome?_append, hnone, Option.none_or, List.findSome?_cons, hvalue]
    rw [hstray, hread, read_byName_line h hline hl, hfield]
    exact iff_of_true rfl nofun

/-- A session identifier is that of a header line, or something that strays. -/
theorem setsFromHeader_iff (hfree : ∀ l ∈ hs, Unbroken l) (body : Bytes) :
    SetsFromHeader hs body ↔ ∀ v ∈ bySession.stray hs body,
      ∃ l ∈ hs, ∃ w ∈ valueOf (ascii "Session") l, v = identifier w := by
  simp only [SetsFromHeader, parseSessionId_eq]
  rcases bySession.stray_cases hfree body with hstray | ⟨hstray, before, l, after, rfl, -, hl, hread⟩
  · rw [hstray]
    rcases bySession.read (message hs body) with _ | v
    · exact iff_of_true (.inl fun _ => rfl) nofun
    · have hset : ¬∀ ctx : RtspCtx, { ctx with sessionId := v } = ctx := by
        intro hsame
        have hlonger := congrArg RtspCtx.sessionId (hsame { sessionId := v ++ [0] })
        exact absurd (congrArg List.length hlonger) (by simp)
      rw [or_iff_right hset]
      constructor
      · rintro ⟨l, hl, w, hw, heq⟩ _ ⟨⟩
        exact ⟨l, hl, w, hw, congrArg RtspCtx.sessionId (heq {})⟩
      · intro hline
        obtain ⟨l, hl, w, hw, rfl⟩ := hline v rfl
        exact ⟨l, hl, w, hw, fun _ => rfl⟩
  · have hname : IsName (ascii "Session") := by decide
    have hplace : find (ascii "Session:") l = some 0 := hl
    obtain ⟨-, ⟨t, ht⟩, -⟩ := find_eq_some_iff.1 hplace
    have hstart : headerPos l (ascii "Session") = some 0 := by
      refine find_eq_zero ⟨lower t, ?_⟩
      rw [show l = ascii "Session:" ++ t from ht.symm, lower, lower, lower, List.map_append]
      rfl
    rw [hstray, hread, Lookup.read, hl]
    exact iff_of_true (.inr ⟨l, List.mem_append_right _ List.mem_cons_self, _,
      valueOf_of_start hname hstart, fun _ => rfl⟩) nofun

/-- Header fields, and session identifiers that are taken over, are those of header lines exactly if
    what is read from elsewhere is the same. -/
theorem lookups_iff (h : IsName name) (hs : List Bytes) (hblock : IsBlock hs) (body : Bytes) :
    (LooksUp name hs body ↔
      ∀ v ∈ (byName h).stray hs body, v = (headerField name hs).getD []) ∧
    (SetsFromHeader hs body ↔ ∀ v ∈ bySession.stray hs body,
      ∃ l ∈ hs, ∃ w ∈ valueOf (ascii "Session") l, v = identifier w) :=
  ⟨looksUp_iff h hblock.unbroken body, setsFromHeader_iff hblock.unbroken body⟩

/-- A reply with some header lines. -/
def reply (lines : List Bytes) : List Bytes := ascii "RTSP/1.0 200 OK" :: lines

theorem isBlock_reply {lines : List Bytes} (h : ∀ l ∈ lines, 13 ∉ l ∧ l ≠ []) :
    IsBlock (reply lines) where
  ne_nil := List.cons_ne_nil _ _
  unbroken := by
    have hfree : ∀ l ∈ reply lines, 13 ∉ l :=
      List.forall_mem_cons.2 ⟨by decide, fun l hl => (h l hl).1⟩
    exact fun l hl hin => hfree l hl (hin.subset List.mem_cons_self)
  full l hl := (h l hl).2

theorem lookups_iff_behind :
    LooksUp (ascii "session") (reply [ascii "Session: 2;timeout=60", ascii "X-Session: 1"]) [] ∧
      SetsFromHeader (reply [ascii "Session: 2;timeout=60", ascii "X-Session: 1"]) [] := by
  have hblock := @isBlock_reply [ascii "Session: 2;timeout=60", ascii "X-Session: 1"] (by decide)
  obtain ⟨hfield, hsession⟩ := lookups_iff (by decide : IsName (ascii "session")) _ hblock []
  exact ⟨hfield.2 (by decide +kernel), hsession.2 (by decide +kernel)⟩

/-- A longer name in front is taken for the name. -/
theorem not_lookups :
    (¬∀ name hs body, IsName name → IsBlock hs → LooksUp name hs body) ∧
      ¬∀ hs body, IsBlock hs → SetsFromHeader hs body := by
  have hblock := @isBlock_reply [ascii "X-Session: 1", ascii "Session: 2"] (by decide)
  constructor
  · intro h
    exact absurd (h (ascii "session") _ [] (by decide) hblock) (by
      rw [LooksUp]
      decide +kernel)
  · intro h
    have hread := (setsFromHeader_iff hblock.unbroken []).1 (h _ [] hblock)
    exact absurd hread (by decide +kernel)

end RtspParser

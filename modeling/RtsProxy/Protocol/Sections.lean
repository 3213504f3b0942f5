import Mathlib.Data.List.Forall2
import RtsProxy.Protocol.RtspParser

/-!
# Sections of session descriptions

A description is a session part and sections, each with the lines between its own `m=` line and
the next one. A section whose port cannot be read opens no stream (`Section.opens`), and its lines
stray to the stream opened last, as those of the session part do.

* `describes_parseSDP`: a stream has the last attributes of its own lines and of those that have
  strayed to it;
* `ownLines_iff`: when it has those of its own lines.
-/

open Text

namespace RtspParser.Sdp

/-! ## Lines -/

/-- The attribute of a line, if it has a value. -/
def readAttribute (line : Bytes) : Option (Bytes × Bytes) :=
  if line.take 2 = ascii "a=" then
    match find (ascii ":") (line.drop 2) with
    | none => none
    | some colon =>
      let value := (line.drop 2).drop (colon + 1)
      if value = [] then none else some ((line.drop 2).take colon, value)
  else none

/-- The value that a line gives to an attribute. -/
def valueIn (key line : Bytes) : Option Bytes :=
  (readAttribute line).bind fun p => if p.1 = key then some p.2 else none

/-- The last value that lines give to an attribute. -/
def lastValue (key : Bytes) (ls : List Bytes) : Option Bytes := ls.reverse.findSome? (valueIn key)

/-- The attribute that names the track. -/
def control : Bytes := ascii "control"

/-- `m` is the stream `m₀` with the last attributes of some lines. -/
structure Describes (m₀ : Media) (ls : List Bytes) (m : Media) : Prop where
  type : m.type = m₀.type
  port : m.port = m₀.port
  protocol : m.protocol = m₀.protocol
  formats : m.formats = m₀.formats
  attributes : ∀ key, m.attributes.lookup key = (lastValue key ls).or (m₀.attributes.lookup key)
  trackID : m.trackID = (lastValue control ls).getD m₀.trackID

variable {m₀ m : Media} {ls foreign : List Bytes} {l key value : Bytes}

theorem lastValue_append (key : Bytes) (ls ls' : List Bytes) :
    lastValue key (ls ++ ls') = (lastValue key ls').or (lastValue key ls) := by
  rw [lastValue, List.reverse_append, List.findSome?_append]
  rfl

/-- A line changes a stream as the attribute that it has does. -/
theorem parseAttribute_eq (h : l.take 2 = ascii "a=") (m : Media) : parseAttribute l m =
    match readAttribute l with
    | none => m
    | some (key, value) => { m with
        attributes := m.attributes.filter (·.1 ≠ key) ++ [(key, value)]
        trackID := if key = control then value else m.trackID } := by
  rw [parseAttribute, readAttribute, if_pos h]
  rcases find (ascii ":") (l.drop 2) with _ | colon
  · rfl
  · dsimp only
    split <;> rfl

theorem lookup_upsert (attributes : List (Bytes × Bytes)) (key value k : Bytes) :
    (attributes.filter (·.1 ≠ key) ++ [(key, value)]).lookup k =
      if k = key then some value else attributes.lookup k := by
  induction attributes with
  | nil =>
    rw [List.filter_nil, List.nil_append, List.lookup_cons]
    rcases eq_or_ne k key with rfl | hk
    · rw [beq_self_eq_true, if_pos rfl]
    · rw [beq_false_of_ne hk, if_neg hk]
  | cons p attributes ih =>
    rcases eq_or_ne p.1 key with rfl | hp
    · rw [List.filter_cons_of_neg (by simp), ih, List.lookup_cons]
      rcases eq_or_ne k p.1 with rfl | hk
      · rw [if_pos rfl, if_pos rfl]
      · rw [if_neg hk, if_neg hk, beq_false_of_ne hk]
    · rw [List.filter_cons_of_pos (by simpa using hp), List.cons_append, List.lookup_cons,
        List.lookup_cons, ih]
      rcases eq_or_ne k p.1 with rfl | hk
      · rw [beq_self_eq_true]
        exact (if_neg hp).symm
      · rw [beq_false_of_ne hk]

/-- A line with an attribute is the last one. -/
theorem Describes.attribute (h : Describes m₀ ls m) (hl : l.take 2 = ascii "a=") :
    Describes m₀ (ls ++ [l]) (parseAttribute l m) := by
  have hlast : ∀ key, lastValue key (ls ++ [l]) = (valueIn key l).or (lastValue key ls) := by
    intro key
    rw [lastValue_append]
    congr 1
    rw [lastValue, List.reverse_singleton, List.findSome?_cons]
    rcases valueIn key l <;> rfl
  rw [parseAttribute_eq hl]
  rcases hread : readAttribute l with _ | ⟨key, value⟩
  · have hnone : ∀ key, lastValue key (ls ++ [l]) = lastValue key ls := by
      intro key
      rw [hlast, valueIn, hread]
      rfl
    refine ⟨h.type, h.port, h.protocol, h.formats, fun k => ?_, ?_⟩
    · rw [hnone]
      exact h.attributes k
    · rw [hnone]
      exact h.trackID
  · have hsome : ∀ k, lastValue k (ls ++ [l]) = if key = k then some value else lastValue k ls := by
      intro k
      rw [hlast, valueIn, hread]
      dsimp only [Option.bind_some]
      split <;> rfl
    refine ⟨h.type, h.port, h.protocol, h.formats, fun k => ?_, ?_⟩
    · dsimp only
      rw [hsome, lookup_upsert, h.attributes k]
      by_cases hk : k = key
      · rw [if_pos hk, if_pos hk.symm, Option.some_or]
      · rw [if_neg hk, if_neg (Ne.symm hk)]
    · dsimp only
      rw [hsome, h.trackID]
      split <;> rfl

/-- A line without an attribute changes nothing. -/
theorem Describes.other (h : Describes m₀ ls m) (hl : l.take 2 ≠ ascii "a=") :
    Describes m₀ (ls ++ [l]) m := by
  have hnone : ∀ key, lastValue key (ls ++ [l]) = lastValue key ls := by
    intro key
    rw [lastValue_append]
    have hread : readAttribute l = none := if_neg hl
    rw [lastValue, List.reverse_singleton, List.findSome?_cons, valueIn, hread]
    rfl
  refine ⟨h.type, h.port, h.protocol, h.formats, fun k => ?_, ?_⟩
  · rw [hnone]
    exact h.attributes k
  · rw [hnone]
    exact h.trackID

/-- More lines change nothing exactly if the last value that they give to an attribute is one that
    it has anyway. -/
theorem describes_append_iff (h : Describes m₀ (ls ++ foreign) m) : Describes m₀ ls m ↔
    ∀ key, ∀ value ∈ lastValue key foreign,
      (lastValue key ls).or (m₀.attributes.lookup key) = some value ∧
        (key = control → (lastValue key ls).getD m₀.trackID = value) := by
  constructor
  · intro hown key value hvalue
    have hattributes := (h.attributes key).symm.trans (hown.attributes key)
    rw [lastValue_append, Option.mem_def.1 hvalue] at hattributes
    refine ⟨hattributes.symm.trans rfl, ?_⟩
    rintro rfl
    have htrack := h.trackID.symm.trans hown.trackID
    rw [lastValue_append, Option.mem_def.1 hvalue] at htrack
    exact htrack.symm.trans rfl
  · intro hsame
    refine ⟨h.type, h.port, h.protocol, h.formats, fun key => ?_, ?_⟩
    · rw [h.attributes, lastValue_append]
      rcases hvalue : lastValue key foreign with _ | value
      · rfl
      · exact (hsame key value hvalue).1.symm
    · rw [h.trackID, lastValue_append]
      rcases hvalue : lastValue control foreign with _ | value
      · rfl
      · exact ((hsame control value hvalue).2 rfl).symm

/-! ## Sections -/

/-- The line begins a section. -/
abbrev IsMedia (line : Bytes) : Prop := line.take 2 = ascii "m="

/-- A section: its `m=` line and the lines up to the next one. -/
structure Section where
  line : Bytes
  body : List Bytes
  isMedia : IsMedia line
  plain : ∀ l ∈ body, ¬IsMedia l

/-- A description: the lines in front of the first section, and the sections. -/
structure Description where
  session : List Bytes
  sections : List Section
  plain : ∀ l ∈ session, ¬IsMedia l

namespace Description

/-- The lines of a description. -/
def lines (d : Description) : List Bytes :=
  d.session ++ d.sections.flatMap fun sec => sec.line :: sec.body

/-- Lines as a description. -/
def ofLines : List Bytes → Description
  | [] => ⟨[], [], nofun⟩
  | l :: ls =>
    let rest := ofLines ls
    if h : IsMedia l then ⟨[], ⟨l, rest.session, h, rest.plain⟩ :: rest.sections, nofun⟩
    else ⟨l :: rest.session, rest.sections, List.forall_mem_cons.2 ⟨h, rest.plain⟩⟩

theorem lines_ofLines (ls : List Bytes) : (ofLines ls).lines = ls := by
  induction ls with
  | nil => rfl
  | cons l ls ih =>
    rw [ofLines]
    split
    · exact congrArg (l :: ·) ih
    · exact congrArg (l :: ·) ih

end Description

/-- The description that a text contains. -/
def describe (sdp : Bytes) : Description := .ofLines ((getlines 10 sdp).map trim)

/-- The stream that a section opens, if its port can be read. -/
def Section.opens (sec : Section) : Option Media := (parseMedia sec.line []).head?

theorem parseMedia_eq (sec : Section) (streams : List Media) :
    parseMedia sec.line streams = streams ++ sec.opens.toList := by
  rw [Section.opens, parseMedia, parseMedia]
  rcases stoi ((getlines 32 (sec.line.drop 2)).getD 1 []) with _ | port
  · exact (List.append_nil _).symm
  · rfl

/-- The streams as they are opened, each with the lines of its section: those of the context have
    none. -/
def opened (d : Description) (streams : List Media) : List (Media × List Bytes) :=
  streams.map (·, []) ++ d.sections.filterMap fun sec => sec.opens.map (·, sec.body)

/-- The streams that are read have the attributes of their own sections. -/
def OwnLines (sdp : Bytes) (ctx : RtspCtx) : Prop :=
  List.Forall₂ (fun o media => Describes o.1 o.2 media) (opened (describe sdp) ctx.mediaStreams)
    (parseSDP sdp ctx).mediaStreams

/-! ## Lines that stray -/

/-- A list with another last element. -/
def onLast {α : Type} (f : α → α) : List α → List α
  | [] => []
  | [a] => [f a]
  | a :: b :: l => a :: onLast f (b :: l)

/-- A stream as it is opened, the lines of its section, and those that stray to it. -/
structure Owned where
  opened : Media
  own : List Bytes
  strayed : List Bytes

namespace Owned

/-- More lines stray to the stream. -/
def stray (ls : List Bytes) (o : Owned) : Owned := { o with strayed := o.strayed ++ ls }

/-- The last values in the lines that stray to a stream are those that it has anyway. -/
def Harmless (o : Owned) : Prop :=
  ∀ key, ∀ value ∈ lastValue key o.strayed,
    (lastValue key o.own).or (o.opened.attributes.lookup key) = some value ∧
      (key = control → (lastValue key o.own).getD o.opened.trackID = value)

end Owned

/-- A section opens a stream, or strays to the one opened last. -/
def own (os : List Owned) (sec : Section) : List Owned :=
  match sec.opens with
  | none => onLast (.stray sec.body) os
  | some media => os ++ [⟨media, sec.body, []⟩]

/-- The streams of a description, with the lines that each has. -/
def owned (d : Description) (streams : List Media) : List Owned :=
  d.sections.foldl own (onLast (.stray d.session) (streams.map (⟨·, [], []⟩)))

/-! ### What reading does -/

theorem onLast_concat {α : Type} (f : α → α) (l : List α) (a : α) :
    onLast f (l ++ [a]) = l ++ [f a] := by
  induction l with
  | nil => rfl
  | cons b l ih =>
    rw [List.cons_append, List.cons_append, ← ih]
    rcases l with _ | ⟨c, l⟩ <;> rfl

theorem map_onLast {α β : Type} (f : α → α) (g : α → β) (h : ∀ a, g (f a) = g a) (l : List α) :
    (onLast f l).map g = l.map g := by
  rcases List.eq_nil_or_concat l with rfl | ⟨l, a, rfl⟩
  · rfl
  · rw [List.concat_eq_append, onLast_concat, List.map_append, List.map_append, List.map_singleton,
      List.map_singleton, h]

theorem forall₂_onLast {α β : Type} {R : α → β → Prop} {f : α → α} {g : β → β}
    (hfg : ∀ a b, R a b → R (f a) (g b)) {as : List α} {bs : List β} (h : List.Forall₂ R as bs) :
    List.Forall₂ R (onLast f as) (onLast g bs) := by
  induction h with
  | nil => exact .nil
  | cons hab hrest ih =>
    rcases hrest with _ | ⟨hab', hrest⟩
    · exact .cons (hfg _ _ hab) .nil
    · exact .cons hab ih

/-- A line of a section as it changes the stream that it goes to. -/
def readLine (media : Media) (line : Bytes) : Media :=
  if line.take 2 = ascii "a=" then parseAttribute line media else media

theorem parseLine_eq (h : ¬IsMedia l) (streams : List Media) :
    parseLine streams l = onLast (readLine · l) streams := by
  rw [parseLine, if_neg h]
  by_cases hl : l.take 2 = ascii "a="
  · have hread : (readLine · l) = parseAttribute l := funext fun media => if_pos hl
    rw [if_pos hl, hread]
    rcases List.eq_nil_or_concat streams with rfl | ⟨streams, media, rfl⟩
    · rfl
    · rw [List.concat_eq_append, onLast_concat, List.getLast?_concat, List.dropLast_concat]
  · have hread : (readLine · l) = id := funext fun media => if_neg hl
    rw [if_neg hl, hread]
    rcases List.eq_nil_or_concat streams with rfl | ⟨streams, media, rfl⟩
    · rfl
    · rw [List.concat_eq_append, onLast_concat, id]

/-- Lines that begin no section go to the stream opened last. -/
theorem foldl_parseLine (h : ∀ l ∈ ls, ¬IsMedia l) (streams : List Media) :
    ls.foldl parseLine streams = onLast (ls.foldl readLine) streams := by
  rcases List.eq_nil_or_concat streams with rfl | ⟨streams, media, rfl⟩
  · induction ls with
    | nil => rfl
    | cons l ls ih =>
      rw [List.foldl_cons, parseLine_eq (h l List.mem_cons_self)]
      exact ih fun l' hl' => h l' (List.mem_cons_of_mem l hl')
  · rw [List.concat_eq_append, onLast_concat]
    induction ls generalizing media with
    | nil => rfl
    | cons l ls ih =>
      rw [List.foldl_cons, parseLine_eq (h l List.mem_cons_self), onLast_concat]
      exact ih (fun l' hl' => h l' (List.mem_cons_of_mem l hl')) _

theorem Describes.foldl (h : Describes m₀ ls m) (more : List Bytes) :
    Describes m₀ (ls ++ more) (more.foldl readLine m) := by
  induction more generalizing ls m with
  | nil =>
    rw [List.append_nil]
    exact h
  | cons l more ih =>
    rw [List.append_cons, List.foldl_cons, readLine]
    split
    · next hl => exact ih (h.attribute hl)
    · next hl => exact ih (h.other hl)

/-- A stream that has been opened has no lines yet. -/
theorem describes_nil (m : Media) : Describes m [] m where
  type := rfl
  port := rfl
  protocol := rfl
  formats := rfl
  attributes _ := rfl
  trackID := rfl

/-- A stream has the last attributes of all lines that come to it. -/
abbrev Reads (o : Owned) (media : Media) : Prop := Describes o.opened (o.own ++ o.strayed) media

/-- Lines stray to the stream opened last. -/
theorem reads_stray {os : List Owned} {streams : List Media} (h : List.Forall₂ Reads os streams)
    (hls : ∀ l ∈ ls, ¬IsMedia l) :
    List.Forall₂ Reads (onLast (.stray ls) os) (ls.foldl parseLine streams) := by
  rw [foldl_parseLine hls]
  refine forall₂_onLast (fun o media hreads => ?_) h
  rw [Reads, Owned.stray, ← List.append_assoc]
  exact hreads.foldl ls

/-- One section. -/
theorem reads_own {os : List Owned} {streams : List Media} (h : List.Forall₂ Reads os streams)
    (sec : Section) :
    List.Forall₂ Reads (own os sec) ((sec.line :: sec.body).foldl parseLine streams) := by
  have hline : parseLine streams sec.line = streams ++ sec.opens.toList := by
    rw [parseLine, if_pos sec.isMedia, parseMedia_eq]
  rw [List.foldl_cons, hline, own]
  rcases sec.opens with _ | media
  · -- The section is rejected, and the stream in front of it stays the last one.
    rw [Option.toList_none, List.append_nil]
    exact reads_stray h sec.plain
  · rw [Option.toList_some, foldl_parseLine sec.plain, onLast_concat]
    refine List.rel_append h (.cons ?_ .nil)
    rw [Reads, List.append_nil]
    exact (describes_nil media).foldl sec.body

/-- A stream has the last attributes of its own lines and of those that have strayed to it. -/
theorem describes_parseSDP (sdp : Bytes) (ctx : RtspCtx) :
    List.Forall₂ Reads (owned (describe sdp) ctx.mediaStreams) (parseSDP sdp ctx).mediaStreams := by
  have hlines : (parseSDP sdp ctx).mediaStreams =
      (describe sdp).lines.foldl parseLine ctx.mediaStreams := by
    rw [describe, Description.lines_ofLines]
    rfl
  have hstart : List.Forall₂ Reads (ctx.mediaStreams.map (⟨·, [], []⟩)) ctx.mediaStreams :=
    List.forall₂_map_left_iff.2 (List.forall₂_same.2 fun media _ => describes_nil media)
  rw [hlines, Description.lines, List.foldl_append, List.foldl_flatMap, owned]
  have hsession := reads_stray hstart (describe sdp).plain
  -- Section by section.
  generalize onLast (Owned.stray (describe sdp).session) _ = os at hsession ⊢
  generalize (describe sdp).session.foldl parseLine ctx.mediaStreams = streams at hsession ⊢
  induction (describe sdp).sections generalizing os streams with
  | nil => exact hsession
  | cons sec secs ih => exact ih _ _ (reads_own hsession sec)

theorem map_stray (ls : List Bytes) (os : List Owned) :
    (onLast (.stray ls) os).map (fun o => (o.opened, o.own)) = os.map fun o => (o.opened, o.own) :=
  map_onLast (.stray ls) (fun o => (o.opened, o.own)) (fun _ => rfl) os

/-- Streams are opened by the same sections, whatever strays to them. -/
theorem map_owned (d : Description) (streams : List Media) :
    (owned d streams).map (fun o => (o.opened, o.own)) = opened d streams := by
  rw [owned, opened]
  have hstart : (onLast (Owned.stray d.session) (streams.map (⟨·, [], []⟩))).map
      (fun o => (o.opened, o.own)) = streams.map (·, []) := by
    rw [map_stray, List.map_map]
    rfl
  rw [← hstart]
  generalize onLast (Owned.stray d.session) _ = os
  induction d.sections generalizing os with
  | nil => exact (List.append_nil _).symm
  | cons sec secs ih =>
    rw [List.foldl_cons, ih, own, List.filterMap_cons]
    rcases sec.opens with _ | media
    · dsimp only
      rw [map_stray]
      rfl
    · dsimp only
      rw [List.map_append, List.append_assoc]
      rfl

/-- The streams have the attributes of their own sections exactly if the lines that stray to them
    are harmless. -/
theorem ownLines_iff (sdp : Bytes) (ctx : RtspCtx) :
    OwnLines sdp ctx ↔ ∀ o ∈ owned (describe sdp) ctx.mediaStreams, o.Harmless := by
  have hreads := describes_parseSDP sdp ctx
  rw [OwnLines, ← map_owned, List.forall₂_map_left_iff]
  generalize (parseSDP sdp ctx).mediaStreams = streams at hreads ⊢
  generalize owned (describe sdp) ctx.mediaStreams = os at hreads ⊢
  induction hreads with
  | nil => exact iff_of_true .nil nofun
  | cons hread hreads ih =>
    rw [List.forall₂_cons, List.forall_mem_cons]
    exact and_congr (describes_append_iff hread) ih

/-- The track of a section without a port is asked for in place of the one in front of it. -/
theorem not_ownLines : ¬∀ sdp ctx, OwnLines sdp ctx := by
  intro h
  have hown := h (ascii "m=video 0 RTP/AVP 33\na=control:1\n" ++
    ascii "m=audio x RTP/AVP 0\na=control:2") {}
  rcases hown with _ | ⟨hfirst, -⟩
  exact absurd hfirst.trackID (by decide +kernel)

end RtspParser.Sdp

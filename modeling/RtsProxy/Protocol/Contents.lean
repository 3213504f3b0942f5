import RtsProxy.Protocol.Connection
import RtsProxy.Protocol.RtspParser
import RtsProxy.Reading

/-!
# The contents of an RTSP connection

Frames with their channels, and messages with their bodies, as they are taken off a connection.

* `cutter`: contents with bodies of the lengths that are announced;
* `ReadsWell.deframes`: what is written by the rules is taken off again, however it arrives;
* `getContentLength_of_announcedAs`, `stoul_of_announcedAs`: what is read of a length that is
  announced in one header line.
-/

open Text Interleaved

namespace Connection

/-- The most bytes in a `std::string`. -/
def maxSize : Nat := 2 ^ 63 - 1

/-- What is taken off a connection. -/
inductive Content
  | frame (channel : UInt8) (payload : Bytes)
  | message (header body : Bytes)
  deriving DecidableEq, Repr

/-- The bytes of a frame, or of a message. -/
def Content.text : Content → Bytes
  | .frame channel payload => frameHeader channel payload.length ++ payload
  | .message header body => header ++ body

/-- The header block at the start of a buffer, if it is complete. -/
def frontHeader (buf : Bytes) : Option Bytes :=
  if buf.head? = some 36 then none else (find crlf2 buf).map fun i => buf.take (i + 4)

/-- A frame, or a message with a body of the length that its header block announces. -/
def cutter (announced : Bytes → Nat) : Cutter UInt8 Content := fun buf =>
  match frontFrame buf, frontHeader buf with
  | some (channel, payload), _ => some (.frame channel payload, 4 + payload.length)
  | none, some header =>
    if buf.length < header.length + announced header then none
    else some (.message header ((buf.drop header.length).take (announced header)),
      header.length + announced header)
  | none, none => none

variable {announced : Bytes → Nat} {buf header payload body : Bytes} {channel : UInt8} {x : Content}
  {k : Nat}

/-! ## The start of a buffer -/

theorem frontHeader_of_frontFrame {f : UInt8 × Bytes} (h : frontFrame buf = some f) :
    frontHeader buf = none := if_pos (head_of_frontFrame h)

/-- A frame at the start of a buffer is one of a dollar sign, a channel, a length and a payload. -/
theorem frontFrame_eq_some_iff : frontFrame buf = some (channel, payload) ↔
    payload.length < 65536 ∧ Content.text (.frame channel payload) <+: buf := by
  constructor
  · intro h
    have hlen := length_of_frontFrame h
    refine ⟨hlen, ?_⟩
    have hhead := head_of_frontFrame h
    rw [frontFrame, if_pos hhead] at h
    obtain ⟨size, hsize, heq⟩ := Option.map_eq_some_iff.1 h
    obtain ⟨h4, hle, hword⟩ := frameSize_le hsize
    obtain ⟨rfl, rfl⟩ := Prod.mk.inj heq
    obtain ⟨a, b, c, d, rest, rfl⟩ : ∃ a b c d rest, buf = a :: b :: c :: d :: rest := by
      rcases buf with _ | ⟨a, _ | ⟨b, _ | ⟨c, _ | ⟨d, rest⟩⟩⟩⟩
      all_goals first | exact ⟨_, _, _, _, _, rfl⟩ | (simp at hle h4; omega)
    obtain rfl : a = 36 := Option.some.inj hhead
    have hd := d.toNat_lt
    have hc := c.toNat_lt
    have hword' : size = 4 + (256 * c.toNat + d.toNat) := hword
    have hpayload : (((36 :: b :: c :: d :: rest).take size).drop 4).length =
        256 * c.toNat + d.toNat := by
      rw [List.length_drop, List.length_take, Nat.min_eq_left hle]
      omega
    have hbe : RtpPipeline.be16 ((256 * c.toNat + d.toNat) % 65536) = [c, d] := by
      rw [Nat.mod_eq_of_lt (by omega), RtpPipeline.be16]
      have hhigh : ((256 * c.toNat + d.toNat) / 256).toUInt8 = c := by
        rw [show (256 * c.toNat + d.toNat) / 256 = c.toNat by omega]
        exact UInt8.ofNat_toNat
      have hlow : (256 * c.toNat + d.toNat).toUInt8 = d := by
        refine UInt8.toNat_inj.1 ?_
        rw [Nat.toUInt8_eq, UInt8.toNat_ofNat']
        omega
      rw [hhigh, hlow]
    rw [Content.text, hpayload, frameHeader, hbe]
    have htake : (36 :: b :: c :: d :: rest).take size =
        [36, b, c, d] ++ ((36 :: b :: c :: d :: rest).take size).drop 4 := by
      obtain ⟨n, rfl⟩ : ∃ n, size = n + 4 := ⟨size - 4, by omega⟩
      rfl
    exact htake ▸ List.take_prefix _ _
  · rintro ⟨hlen, rest, rfl⟩
    have hword : RtpPipeline.word16
        (Content.text (.frame channel payload) ++ rest) 2 = payload.length := by
      show 256 * ((payload.length % 65536) / 256).toUInt8.toNat +
        (payload.length % 65536).toUInt8.toNat = payload.length
      rw [Nat.toUInt8_eq, Nat.toUInt8_eq, UInt8.toNat_ofNat', UInt8.toNat_ofNat']
      omega
    have hsize : frameSize (Content.text (.frame channel payload) ++ rest) =
        some (4 + payload.length) := by
      have htext : (Content.text (.frame channel payload) ++ rest).length =
          4 + payload.length + rest.length := by
        rw [List.length_append]
        exact congrArg (· + _) (Nat.add_comm payload.length 4)
      rw [frameSize, if_neg (by omega)]
      dsimp only
      rw [hword, if_neg (by omega)]
    have hdata : ((Content.text (.frame channel payload) ++ rest).take (4 + payload.length)).drop 4 =
        payload := by
      rw [Nat.add_comm]
      exact List.take_left
    have hhead : (Content.text (.frame channel payload) ++ rest).head? = some 36 := rfl
    rw [frontFrame, if_pos hhead, hsize, Option.map_some, hdata]
    rfl

theorem frontFrame_append (h : frontFrame buf = some (channel, payload)) (more : Bytes) :
    frontFrame (buf ++ more) = some (channel, payload) ∧ 4 + payload.length ≤ buf.length := by
  obtain ⟨hlen, hpre⟩ := frontFrame_eq_some_iff.1 h
  refine ⟨frontFrame_eq_some_iff.2 ⟨hlen, hpre.trans (List.prefix_append _ _)⟩, ?_⟩
  have hle := hpre.length_le
  rw [Content.text, List.length_append] at hle
  exact hle

theorem frontHeader_eq_some_iff : frontHeader buf = some header ↔
    buf.head? ≠ some 36 ∧ ∃ i, find crlf2 buf = some i ∧ header = buf.take (i + 4) := by
  rw [frontHeader]
  split
  case isTrue hhead => exact iff_of_false (fun h => by cases h) fun h => h.1 hhead
  case isFalse hhead =>
    rw [Option.map_eq_some_iff]
    exact ⟨fun ⟨i, hi, heq⟩ => ⟨hhead, i, hi, heq.symm⟩, fun ⟨_, i, hi, heq⟩ => ⟨i, hi, heq.symm⟩⟩

/-- A header block ends behind its first empty line. -/
theorem prefix_of_frontHeader (h : frontHeader buf = some header) : header <+: buf ∧
    frontFrame buf = none ∧ ∃ i, find crlf2 buf = some i ∧ header.length = i + 4 := by
  obtain ⟨hhead, i, hi, rfl⟩ := frontHeader_eq_some_iff.1 h
  refine ⟨List.take_prefix _ _, if_neg hhead, i, hi, ?_⟩
  have hle : i + 4 ≤ buf.length := find_add_length_le hi
  rw [List.length_take, Nat.min_eq_left hle]

theorem frontHeader_append (h : frontHeader buf = some header) (more : Bytes) :
    frontHeader (buf ++ more) = some header := by
  obtain ⟨hhead, i, hi, rfl⟩ := frontHeader_eq_some_iff.1 h
  refine frontHeader_eq_some_iff.2 ⟨?_, i, find_append hi more, ?_⟩
  · have hne : buf ≠ [] := by
      rintro rfl
      cases hi
    rwa [List.head?_append_of_ne_nil _ hne]
  · have hle : i + 4 ≤ buf.length := find_add_length_le hi
    rw [List.take_append_of_le_length hle]

/-- A frame is found in what holds the frame. -/
theorem frontFrame_take (h : frontFrame buf = some (channel, payload)) (hk : 4 + payload.length ≤ k) :
    frontFrame (buf.take k) = some (channel, payload) := by
  obtain ⟨hlen, hpre⟩ := frontFrame_eq_some_iff.1 h
  refine frontFrame_eq_some_iff.2 ⟨hlen, ?_⟩
  rw [List.prefix_take_iff]
  refine ⟨hpre, ?_⟩
  rw [Content.text, List.length_append]
  exact hk

/-- A header block is found in what holds it. -/
theorem frontHeader_take (h : frontHeader buf = some header) (hk : header.length ≤ k) :
    frontHeader (buf.take k) = some header := by
  obtain ⟨hpre, -, i, hi, hlen⟩ := prefix_of_frontHeader h
  obtain ⟨hhead, -⟩ := frontHeader_eq_some_iff.1 h
  obtain ⟨rest, rfl⟩ := hpre
  obtain ⟨-, ⟨tail, htail⟩, hmin⟩ := find_eq_some_iff.1 hi
  have hends : crlf2 <+: header.drop i := by
    have hdrop : (header.drop i).length = crlf2.length := by
      rw [List.length_drop, hlen, Nat.add_sub_cancel_left]
      rfl
    rw [List.drop_append_of_le_length (by omega)] at htail
    exact (List.append_inj_left htail hdrop.symm) ▸ List.prefix_rfl
  have hself : frontHeader header = some header := by
    refine frontHeader_eq_some_iff.2 ⟨?_, i, find_eq_some_iff.2 ⟨by omega, hends, ?_⟩, ?_⟩
    · rwa [List.head?_append_of_ne_nil] at hhead
      rintro rfl
      exact absurd hlen (by simp)
    · intro j hj hpre
      refine hmin j hj ?_
      rw [List.drop_append_of_le_length (by omega)]
      exact hpre.trans (List.prefix_append _ _)
    · rw [List.take_of_length_le hlen.le]
  rw [List.take_append, List.take_of_length_le hk]
  exact frontHeader_append hself _

/-! ## Contents -/

theorem cutter_of_frame (h : frontFrame buf = some (channel, payload)) :
    cutter announced buf = some (.frame channel payload, 4 + payload.length) := by
  rw [cutter, h]

theorem cutter_of_header (h : frontHeader buf = some header) : cutter announced buf =
    if buf.length < header.length + announced header then none
    else some (.message header ((buf.drop header.length).take (announced header)),
      header.length + announced header) := by
  rw [cutter, (prefix_of_frontHeader h).2.1, h]

theorem cutter_eq_some (h : cutter announced buf = some (x, k)) :
    (∃ channel payload, frontFrame buf = some (channel, payload) ∧ x = .frame channel payload ∧
      k = 4 + payload.length) ∨
    ∃ header, frontHeader buf = some header ∧ header.length + announced header ≤ buf.length ∧
      x = .message header ((buf.drop header.length).take (announced header)) ∧
      k = header.length + announced header := by
  rcases hframe : frontFrame buf with _ | ⟨channel, payload⟩
  · rcases hheader : frontHeader buf with _ | header
    · rw [cutter, hframe, hheader] at h
      cases h
    · rw [cutter_of_header hheader] at h
      split at h
      case isTrue => cases h
      case isFalse hle =>
        cases h
        exact .inr ⟨header, rfl, Nat.not_lt.1 hle, rfl, rfl⟩
  · rw [cutter_of_frame hframe] at h
    cases h
    exact .inl ⟨channel, payload, rfl, rfl, rfl⟩

/-- Contents that are complete stay what they are. -/
theorem cutter_append (h : cutter announced buf = some (x, k)) (more : Bytes) :
    cutter announced (buf ++ more) = some (x, k) ∧ k ≤ buf.length := by
  rcases cutter_eq_some h with ⟨channel, payload, hframe, rfl, rfl⟩ | ⟨header, hheader, hle, rfl, rfl⟩
  · obtain ⟨hframe', hle⟩ := frontFrame_append hframe more
    exact ⟨cutter_of_frame hframe', hle⟩
  · have hdrop : ((buf ++ more).drop header.length).take (announced header) =
        (buf.drop header.length).take (announced header) := by
      rw [List.drop_append_of_le_length (by omega), List.take_append_of_le_length]
      rw [List.length_drop]
      omega
    refine ⟨?_, hle⟩
    rw [cutter_of_header (frontHeader_append hheader more), hdrop, if_neg]
    rw [List.length_append]
    omega

theorem pos_of_cutter (h : cutter announced buf = some (x, k)) : 0 < k := by
  rcases cutter_eq_some h with ⟨channel, payload, -, -, rfl⟩ | ⟨header, hheader, -, -, rfl⟩
  · omega
  · obtain ⟨-, -, i, -, hlen⟩ := prefix_of_frontHeader hheader
    omega

/-- Contents that are found again: a payload whose length fits into 16 bits; one header block, and a
    body of the announced length. -/
def Content.Fits (announced : Bytes → Nat) : Content → Prop
  | .frame _ payload => payload.length < 65536
  | .message header body => frontHeader header = some header ∧ announced header = body.length

/-- Contents are taken off again, whatever comes behind them. -/
theorem cutter_text (h : x.Fits announced) (more : Bytes) :
    cutter announced (x.text ++ more) = some (x, x.text.length) := by
  rcases x with ⟨channel, payload⟩ | ⟨header, body⟩
  · have hframe : frontFrame (Content.text (.frame channel payload) ++ more) =
        some (channel, payload) :=
      frontFrame_eq_some_iff.2 ⟨h, List.prefix_append _ _⟩
    rw [cutter_of_frame hframe, Content.text, List.length_append]
    rfl
  · obtain ⟨hheader, hbody⟩ := h
    have htext : Content.text (.message header body) ++ more = header ++ (body ++ more) :=
      List.append_assoc header body more
    have hlen : (Content.text (.message header body)).length = header.length + body.length :=
      List.length_append
    rw [htext, cutter_of_header (frontHeader_append hheader _), hbody, List.drop_left, List.take_left,
      hlen, if_neg]
    rw [List.length_append, List.length_append]
    omega

/-! ## Announced lengths -/

/-- No length is announced: the name of the field stands nowhere. -/
def AnnouncesNone (header : Bytes) : Prop := ¬ascii "content-length:" <:+: lower header

/-- A length below `2^31` is announced: the name of the field stands in one place, where a header
    line with the length is. -/
def Announces (n : Nat) (header : Bytes) : Prop :=
  ∃ before digits after, header = before ++ (crlf ++ (ascii "Content-Length: " ++
      (digits ++ (crlf ++ after)))) ∧
    (digits ≠ [] ∧ ∀ c ∈ digits, isDigit c = true) ∧ natOfDigits digits = n ∧ n < intLimit ∧
    ∀ j, ascii "content-length:" <+: (lower header).drop j → j = before.length + 2

/-- What is written as RTSP has it: a frame, or a header block that does not look like one, and a
    body of the length that it announces. -/
def Content.WellFormed : Content → Prop
  | .frame _ payload => payload.length ≤ 65535
  | .message header body => frontHeader header = some header ∧
    ((AnnouncesNone header ∧ body = []) ∨ Announces body.length header)

/-- A name is found in any case. -/
theorem prefix_lower {pat s : Bytes} {j : Nat} (h : pat <+: s.drop j) :
    lower pat <+: (lower s).drop j := by
  rw [lower, lower, ← List.map_drop]
  exact h.map lowerByte

theorem find_eq_none_of_lower {pat s : Bytes} (h : ¬lower pat <:+: lower s) : find pat s = none := by
  rw [find_eq_none_iff]
  exact fun hin => h (hin.map lowerByte)

theorem getContentLength_of_none (h : AnnouncesNone header) :
    RtspParser.getContentLength header = 0 := by
  have hfirst : find (ascii "Content-Length:") header = none := find_eq_none_of_lower h
  have hsecond : find (ascii "Content-length:") header = none := find_eq_none_of_lower h
  rw [RtspParser.getContentLength, hfirst, hsecond]
  rfl

theorem extractHeaderValue_of_none (h : AnnouncesNone header) :
    RtspParser.extractHeaderValue header (ascii "Content-Length") = [] := by
  have hpos : RtspParser.headerPos header (ascii "Content-Length") = none := find_eq_none_iff.2 h
  rw [RtspParser.extractHeaderValue, hpos]

/-- Digits in front of the end of a line are the value that the line goes on with. -/
theorem value_of_digits {digits after : Bytes} (hne : digits ≠ [])
    (hdigits : ∀ c ∈ digits, isDigit c = true) :
    RtspParser.skipBlanks (32 :: (digits ++ (crlf ++ after))) = digits ++ (crlf ++ after) ∧
    RtspParser.untilCrlf (digits ++ (crlf ++ after)) = digits ∧
    findFirstOf crlf (digits ++ (crlf ++ after)) 0 = some digits.length := by
  have hno : ∀ c ∈ digits, isSpace c = false := fun c hc => (not_space_of_isDigit (hdigits c hc)).1
  have hcr : ∀ c ∈ digits, c ≠ 13 ∧ c ≠ 10 ∧ c ≠ 32 ∧ c ≠ 9 := by
    intro c hc
    refine ⟨?_, ?_, ?_, ?_⟩
    all_goals
      rintro rfl
      exact absurd (hno _ hc) (by decide)
  refine ⟨?_, ?_, ?_⟩
  · obtain ⟨c, cs, rfl⟩ := List.exists_cons_of_ne_nil hne
    obtain ⟨-, -, hblank, htab⟩ := hcr c List.mem_cons_self
    rw [RtspParser.skipBlanks, List.dropWhile_cons_of_pos (by decide), List.cons_append,
      List.dropWhile_cons_of_neg (by simp [hblank, htab])]
  · have hfind : find crlf (digits ++ (crlf ++ after)) = some digits.length := by
      refine find_eq_some_iff.2 ⟨?_, ?_, fun j hj hpre => ?_⟩
      · rw [List.length_append]
        exact Nat.le_add_right _ _
      · rw [List.drop_left]
        exact List.prefix_append _ _
      · rw [List.drop_append_of_le_length hj.le, List.drop_eq_getElem_cons hj] at hpre
        exact (hcr _ (List.getElem_mem hj)).1 (List.cons_prefix_cons.1 hpre).1.symm
    rw [RtspParser.untilCrlf, hfind]
    exact List.take_left
  · have hnone : digits.findIdx? (fun c => crlf.contains c) = none := by
      refine List.findIdx?_eq_none_iff.2 fun c hc => ?_
      obtain ⟨h13, h10, -⟩ := hcr c hc
      simp [crlf, ascii, h13, h10]
    have hfirst : (crlf ++ after).findIdx? (fun c => crlf.contains c) = some 0 :=
      List.findIdx?_cons.trans (if_pos (by decide))
    rw [findFirstOf, List.drop_zero, List.findIdx?_append, hnone, hfirst, Option.none_or,
      Option.map_some, Option.map_some, Nat.zero_add, Nat.add_zero]

/-- A length is announced in one header line, whose name may be written in any case. -/
def AnnouncedAs (name : Bytes) (n : Nat) (header : Bytes) : Prop :=
  ∃ before digits after, header = before ++ (crlf ++ (name ++ (ascii ": " ++
      (digits ++ (crlf ++ after))))) ∧ lower name = ascii "content-length" ∧
    (digits ≠ [] ∧ ∀ c ∈ digits, isDigit c = true) ∧ natOfDigits digits = n ∧
    ∀ j, ascii "content-length:" <+: (lower header).drop j → j = before.length + 2

theorem Announces.announcedAs {n : Nat} (h : Announces n header) :
    AnnouncedAs (ascii "Content-Length") n header ∧ n < intLimit := by
  obtain ⟨before, digits, after, rfl, hdigits, hn, hlt, honce⟩ := h
  exact ⟨⟨before, digits, after, rfl, by decide, hdigits, hn, honce⟩, hlt⟩

/-- Where a length is announced, the name of the field is found as it is written, and in any case,
    and the digits behind it. -/
theorem find_of_announcedAs {name : Bytes} {n : Nat} (h : AnnouncedAs name n header) :
    ∃ pos digits after,
    (∀ pat, lower pat = ascii "content-length:" →
      find pat header = if pat = name ++ ascii ":" then some pos else none) ∧
    RtspParser.headerPos header (ascii "Content-Length") = some pos ∧
    header.drop (pos + 15) = 32 :: (digits ++ (crlf ++ after)) ∧
    (digits ≠ [] ∧ ∀ c ∈ digits, isDigit c = true) ∧ natOfDigits digits = n := by
  obtain ⟨before, digits, after, rfl, hname, hdigits, hn, honce⟩ := h
  have hcolon : lower (name ++ ascii ":") = ascii "content-length:" := by
    rw [lower, List.map_append, ← lower, hname]
    rfl
  have hlen : name.length = 14 := by
    rw [← length_lower, hname]
    rfl
  have hat : ∀ more : Bytes, (before ++ (crlf ++ more)).drop (before.length + 2) = more := by
    intro more
    rw [List.drop_append, List.drop_of_length_le (by omega), Nat.add_sub_cancel_left]
    rfl
  have hplace : (before ++ (crlf ++ (name ++ (ascii ": " ++ (digits ++ (crlf ++ after)))))).drop
      (before.length + 2) = (name ++ ascii ":") ++ 32 :: (digits ++ (crlf ++ after)) := by
    rw [hat, List.append_assoc]
    rfl
  generalize hheader : before ++ (crlf ++ (name ++ (ascii ": " ++ (digits ++ (crlf ++ after))))) =
    header at hplace honce
  have hle : before.length + 2 ≤ header.length := by
    rw [← hheader, List.length_append, List.length_append]
    exact Nat.add_le_add_left (Nat.le_add_right 2 _) _
  have hpre : name ++ ascii ":" <+: header.drop (before.length + 2) :=
    hplace.symm ▸ List.prefix_append _ _
  refine ⟨before.length + 2, digits, after, fun pat hpat => ?_, ?_, ?_, hdigits, hn⟩
  · have honly : ∀ {j}, pat <+: header.drop j → j = before.length + 2 := fun hj =>
      honce _ (hpat ▸ prefix_lower hj)
    split
    case isTrue heq =>
      rw [heq] at honly ⊢
      exact find_eq_some_iff.2 ⟨hle, hpre, fun j hj hpre => hj.ne (honly hpre)⟩
    case isFalse hne =>
      -- only one text of this length stands there
      refine find_eq_none_iff.2 fun hin => hne ?_
      obtain ⟨before', after', heq⟩ := hin
      have hfound : pat <+: header.drop before'.length := by
        rw [← heq, List.append_assoc, List.drop_left]
        exact List.prefix_append _ _
      rw [honly hfound] at hfound
      have hsame : pat.length = (name ++ ascii ":").length := by
        rw [← length_lower, ← length_lower (name ++ ascii ":"), hpat, hcolon]
      exact (List.prefix_of_prefix_length_le hfound hpre hsame.le).eq_of_length hsame
  · have hlower := prefix_lower hpre
    rw [hcolon] at hlower
    exact find_eq_some_iff.2 ⟨(length_lower _).symm ▸ hle, hlower,
      fun j hj hpre => hj.ne (honce j hpre)⟩
  · rw [show before.length + 2 + 15 = before.length + 2 + (name ++ ascii ":").length by
      rw [List.length_append, hlen]; rfl, ← List.drop_drop, hplace, List.drop_left]

/-- One reads the length if the name of the field is written in one of two ways and the length fits
    into an `int`. -/
theorem getContentLength_of_announcedAs {name : Bytes} {n : Nat} (h : AnnouncedAs name n header) :
    RtspParser.getContentLength header =
      if (name = ascii "Content-Length" ∨ name = ascii "Content-length") ∧ n < intLimit then (n : Int)
      else 0 := by
  obtain ⟨pos, digits, after, hfind, -, hdrop, ⟨hne, hdigits⟩, rfl⟩ := find_of_announcedAs h
  obtain ⟨hskip, -, hstop⟩ := @value_of_digits digits after hne hdigits
  have hcolon : ∀ {other : Bytes}, other ++ ascii ":" = name ++ ascii ":" ↔ name = other :=
    ⟨fun heq => (List.append_cancel_right heq).symm, fun heq => heq ▸ rfl⟩
  have hplace : (find (ascii "Content-Length:") header).or (find (ascii "Content-length:") header) =
      if name = ascii "Content-Length" ∨ name = ascii "Content-length" then some pos else none := by
    rw [hfind _ (by decide), hfind _ (by decide)]
    have hfirst : ascii "Content-Length:" = name ++ ascii ":" ↔ _ := @hcolon (ascii "Content-Length")
    have hsecond : ascii "Content-length:" = name ++ ascii ":" ↔ _ := @hcolon (ascii "Content-length")
    by_cases hcap : name = ascii "Content-Length"
    · rw [if_pos (hfirst.2 hcap), Option.some_or, if_pos (.inl hcap)]
    · by_cases hlow : name = ascii "Content-length"
      · rw [if_neg (mt hfirst.1 hcap), if_pos (hsecond.2 hlow), if_pos (.inr hlow), Option.none_or]
      · rw [if_neg (mt hfirst.1 hcap), if_neg (mt hsecond.1 hlow), if_neg (not_or.2 ⟨hcap, hlow⟩),
          Option.none_or]
  rw [RtspParser.getContentLength, hplace]
  by_cases hname : name = ascii "Content-Length" ∨ name = ascii "Content-length"
  · rw [if_pos hname]
    dsimp only
    rw [hdrop, hskip, hstop]
    dsimp only
    rw [List.take_left, stoi_of_digits hne hdigits]
    by_cases hlt : natOfDigits digits < intLimit
    · rw [if_pos hlt, if_pos ⟨hname, hlt⟩]
    · rw [if_neg hlt, if_neg (fun h => hlt h.2)]
  · rw [if_neg hname, if_neg (fun h => hname h.1)]

/-- The other reads the length if it fits into an `unsigned long`. -/
theorem stoul_of_announcedAs {name : Bytes} {n : Nat} (h : AnnouncedAs name n header) :
    stoul (RtspParser.extractHeaderValue header (ascii "Content-Length")) =
      if n < wordSize then .ok n else .error .outOfRange := by
  obtain ⟨pos, digits, after, -, hpos, hdrop, ⟨hne, hdigits⟩, rfl⟩ := find_of_announcedAs h
  obtain ⟨hskip, huntil, -⟩ := @value_of_digits digits after hne hdigits
  have hvalue : RtspParser.extractHeaderValue header (ascii "Content-Length") = digits := by
    rw [RtspParser.extractHeaderValue, hpos]
    dsimp only
    rw [show pos + (ascii "Content-Length").length + 1 = pos + 15 from rfl, hdrop, hskip, huntil]
  rw [hvalue, stoul, readNumeral_of_digits hne hdigits]
  dsimp only
  rw [if_neg hne, if_neg Bool.false_ne_true]

theorem getContentLength_of_announces {n : Nat} (h : Announces n header) :
    RtspParser.getContentLength header = n := by
  obtain ⟨has, hlt⟩ := h.announcedAs
  rw [getContentLength_of_announcedAs has, if_pos ⟨.inl rfl, hlt⟩]

theorem stoul_of_announces {n : Nat} (h : Announces n header) :
    stoul (RtspParser.extractHeaderValue header (ascii "Content-Length")) = .ok n := by
  obtain ⟨has, hlt⟩ := h.announcedAs
  rw [stoul_of_announcedAs has, if_pos (hlt.trans (by decide))]

/-! ## Streams that are well written -/

/-- A stream of well-formed contents, one after the other. -/
def WellWritten (stream : Bytes) : Prop :=
  stream.length ≤ maxSize ∧
    ∃ us : List Content, (∀ u ∈ us, u.WellFormed) ∧ us.flatMap Content.text = stream

/-- The header block at the start of such a stream announces a length, or none. -/
theorem WellWritten.announces {stream : Bytes} (h : WellWritten stream)
    (hheader : frontHeader stream = some header) :
    AnnouncesNone header ∨ ∃ n, Announces n header := by
  obtain ⟨-, us, hus, rfl⟩ := h
  rcases us with _ | ⟨⟨channel, payload⟩ | ⟨header', body⟩, us⟩
  · cases hheader
  · have hwell : payload.length ≤ 65535 := hus (.frame channel payload) List.mem_cons_self
    have hframe : frontFrame (Content.text (.frame channel payload) ++ us.flatMap Content.text) =
        some (channel, payload) :=
      frontFrame_eq_some_iff.2 ⟨Nat.lt_succ_of_le hwell, List.prefix_append _ _⟩
    rw [List.flatMap_cons, frontHeader_of_frontFrame hframe] at hheader
    cases hheader
  · obtain ⟨hfront, hlength⟩ : Content.WellFormed (.message header' body) := hus _ List.mem_cons_self
    have htext : (Content.message header' body :: us).flatMap Content.text =
        header' ++ (body ++ us.flatMap Content.text) := by
      rw [List.flatMap_cons]
      exact List.append_assoc header' body _
    rw [htext, frontHeader_append hfront] at hheader
    cases hheader
    exact hlength.imp And.left fun hn => ⟨_, hn⟩

variable {front : Cutter UInt8 Content}

/-- What reads well-written streams as contents of the announced lengths. -/
structure ReadsWell (front : Cutter UInt8 Content) (announced : Bytes → Nat) : Prop where
  fits : ∀ {u : Content}, u.WellFormed → u.Fits announced
  eq_cutter : ∀ {buf more}, WellWritten (buf ++ more) → front buf = cutter announced buf

theorem ReadsWell.stable (h : ReadsWell front announced) : front.Stable WellWritten where
  append := by
    intro buf more x k hgood hfront
    have hwhole : WellWritten ((buf ++ more) ++ []) := (List.append_nil (buf ++ more)).symm ▸ hgood
    rw [h.eq_cutter hgood] at hfront
    rw [h.eq_cutter hwhole]
    exact cutter_append hfront more
  next := by
    intro buf x k hgood hfront
    have hwhole : WellWritten (buf ++ []) := (List.append_nil buf).symm ▸ hgood
    rw [h.eq_cutter hwhole] at hfront
    obtain ⟨hlen, us, hus, rfl⟩ := hgood
    rcases us with _ | ⟨u, us⟩
    · cases hfront
    · rw [List.flatMap_cons, cutter_text (h.fits (hus u List.mem_cons_self))] at hfront
      cases hfront
      rw [List.flatMap_cons, List.drop_left]
      rw [List.flatMap_cons, List.length_append] at hlen
      exact ⟨by omega, us, fun v hv => hus v (List.mem_cons_of_mem _ hv), rfl⟩

theorem ReadsWell.pos {more : Bytes} (h : ReadsWell front announced)
    (hgood : WellWritten (buf ++ more)) (hfront : front buf = some (x, k)) : 0 < k :=
  pos_of_cutter (h.eq_cutter hgood ▸ hfront)

theorem ReadsWell.none_iff (h : ReadsWell front announced) (hgood : WellWritten buf) :
    front buf = none ↔ buf = [] := by
  have hwhole : WellWritten (buf ++ []) := (List.append_nil buf).symm ▸ hgood
  rw [h.eq_cutter hwhole]
  obtain ⟨-, us, hus, rfl⟩ := hgood
  rcases us with _ | ⟨u, us⟩
  · exact iff_of_true rfl rfl
  · have hfront := cutter_text (h.fits (hus u List.mem_cons_self)) (us.flatMap Content.text)
    rw [← List.flatMap_cons] at hfront
    refine iff_of_false (fun hno => ?_) fun hno => ?_
    · rw [hfront] at hno
      cases hno
    · rw [hno] at hfront
      cases hfront

theorem ReadsWell.items {us : List Content} (h : ReadsWell front announced)
    (hus : ∀ u ∈ us, u.WellFormed) (hlen : (us.flatMap Content.text).length ≤ maxSize) (m : Nat) :
    front.items (us.length + m) (us.flatMap Content.text) [] = us := by
  induction us with
  | nil =>
    refine Cutter.items_nil_of_none ?_ _
    exact (h.none_iff ⟨hlen, [], hus, rfl⟩).2 rfl
  | cons u us ih =>
    have hgood : WellWritten ((u :: us).flatMap Content.text ++ []) :=
      (List.append_nil _).symm ▸ ⟨hlen, u :: us, hus, rfl⟩
    have hfront : front ((u :: us).flatMap Content.text) = some (u, u.text.length) := by
      rw [h.eq_cutter hgood, List.flatMap_cons]
      exact cutter_text (h.fits (hus u List.mem_cons_self)) _
    rw [List.flatMap_cons, List.length_append] at hlen
    rw [List.length_cons, Nat.add_right_comm, Cutter.items_of_some hfront, List.flatMap_cons,
      List.drop_left, ih (fun v hv => hus v (List.mem_cons_of_mem _ hv)) (by omega)]

/-- A reader that reads well takes the contents of a well-written stream off. -/
theorem ReadsWell.deframes {σ ε : Type} {R : Reader σ ε UInt8 Content} {us : List Content}
    (h : ReadsWell R.front announced) (hus : ∀ u ∈ us, u.WellFormed)
    (hlen : (us.flatMap Content.text).length ≤ maxSize) :
    R.Deframes us (us.flatMap Content.text) :=
  Reader.deframes h.stable h.pos (fun hgood => h.none_iff hgood)
    ((h.none_iff ⟨Nat.zero_le _, [], fun _ hu => absurd hu List.not_mem_nil, rfl⟩).2 rfl)
    ⟨hlen, us, hus, rfl⟩ (h.items hus hlen)

end Connection

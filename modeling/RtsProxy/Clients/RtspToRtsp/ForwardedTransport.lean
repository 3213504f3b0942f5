import RtsProxy.Clients.RtspToRtsp.Blocks
import RtsProxy.Clients.RtspToRtsp.HeaderBlock
import RtsProxy.Clients.RtspToRtsp.Transport

/-!
# The transport of a forwarded reply

The transport of a reply is edited where its name is found first. This may be inside a line of
another field, and then the transport that the client reads is the one of the server. The edits of
the other fields leave it alone, if it does not have their names inside.

* `Tells`: what a client reads, by the place where the name is found;
* `shows_withTransport_iff`: what it reads in the reply with its transport edited;
* `isReply_patchOthers`: it reads the same in the reply as it is forwarded.
-/

open Text Ecma Regex RtspParser

namespace RtspToRtspClient

variable {cfg : ServerConfig} {s t : RtspToRtspClient} {name l v body msg reply : Bytes}
  {hs : List Bytes} {p : Nat}
  {edited kept : Bytes → Prop}

/-! ## What is not written -/

/-- A text that ends in a digit. -/
def EndsInDigit (text : Bytes) : Prop := ∃ z d, text = z ++ [d] ∧ isDigit d = true

theorem EndsInDigit.append {text : Bytes} (h : EndsInDigit text) (front : Bytes) :
    EndsInDigit (front ++ text) := by
  obtain ⟨z, d, rfl, hd⟩ := h
  exact ⟨front ++ z, d, (List.append_assoc _ _ _).symm, hd⟩

theorem endsInDigit_decimal (n : Nat) : EndsInDigit (decimal n) := by
  rcases List.eq_nil_or_concat' (decimal n) with hnil | ⟨z, d, hz⟩
  · exact absurd hnil (decimal_ne_nil n)
  · exact ⟨z, d, hz, isDigit_of_mem_decimal (hz ▸ List.mem_append_right z (List.mem_singleton.2 rfl))⟩

theorem endsInDigit_portPair (name : String) (a b : Nat) : EndsInDigit (portPair name a b) :=
  (endsInDigit_decimal b).append _

theorem endsInDigit_sourceParam : EndsInDigit s.sourceParam :=
  ((endsInDigit_decimal _).append _).append _

/-- The other fields have no digits in their names. -/
theorem no_digit_otherNames : ∀ name ∈ otherNames, ∀ b ∈ lower name, isDigit b = false := by
  decide +kernel

/-- Text without a colon that ends in a digit makes up no name of another field. -/
theorem names_of_scan {f : Reader} {new : Bytes} (hname : name ∈ otherNames)
    (hnew : EndsInDigit new) (hcolon : (58 : UInt8) ∉ new)
    (h : Names name (scan f new 0 v)) : Names name v := by
  obtain ⟨m, hm, hin⟩ := names_iff.1 h
  obtain ⟨z, d, hz, hd⟩ := hnew
  have hdigit : d ∉ m := by
    intro hmem
    have hlower : lowerByte d ∈ lower name := hm ▸ List.mem_map_of_mem hmem
    have hsame : lowerByte d = d := by
      simp only [isDigit, Bool.and_eq_true, decide_eq_true_eq, UInt8.le_iff_toNat_le] at hd
      rw [lowerByte, if_neg]
      simp only [UInt8.le_iff_toNat_le, not_and, not_le]
      intro hle
      exact absurd (hle.trans hd.2) (by decide)
    rw [hsame] at hlower
    exact Bool.false_ne_true ((no_digit_otherNames name hname d hlower).symm.trans hd)
  have hends : Ends new (m ++ [58]) := by
    refine ⟨⟨m, 58, rfl, hcolon⟩, z, d, hz, fun hmem => ?_⟩
    rcases List.mem_append.1 hmem with hmem | hmem
    · exact hdigit hmem
    · rw [List.mem_singleton.1 hmem] at hd
      exact absurd hd (by decide)
  exact names_iff.2 ⟨m, hm, hends.infix_of_scan hin⟩

/-- A CR or a colon is in no pair of ports or address that is written. -/
theorem not_mem_written {b : UInt8} (hb : b = 13 ∨ b = 58) :
    b ∉ s.sourceParam ∧ ∀ a c, b ∉ portPair "client_port=" a c ∧ b ∉ portPair "server_port=" a c ∧
      b ∉ portPair "interleaved=" a c := by
  rcases hb with rfl | rfl
  all_goals
    refine ⟨not_mem_sourceParam (by decide) (by decide) (by decide), fun a c => ⟨?_, ?_, ?_⟩⟩
    all_goals exact not_mem_portPair (by decide) (by decide) (by decide) a c

/-- What may be left in a transport that is written into a reply: no CR, and no name of another
    field. -/
structure LeavesOthers (v : Bytes) : Prop where
  no_cr : 13 ∉ v
  names : ∀ name ∈ otherNames, ¬Names name v

theorem LeavesOthers.scan {f : Reader} {new : Bytes} (h : LeavesOthers v) (hnew : EndsInDigit new)
    (hcr : 13 ∉ new) (hcolon : 58 ∉ new) : LeavesOthers (scan f new 0 v) where
  no_cr hin := (mem_scan hin).elim h.no_cr hcr
  names name hname hin := h.names name hname (names_of_scan hname hnew hcolon hin)

theorem leavesOthers_udp (htcp : s.isDownstreamTcp = false) (h : LeavesOthers v) :
    LeavesOthers (s.clientTransport v) := by
  obtain ⟨hcr, hpairs⟩ := @not_mem_written s 13 (.inl rfl)
  obtain ⟨hcolon, hpairs'⟩ := @not_mem_written s 58 (.inr rfl)
  rw [clientTransport_udp htcp]
  exact ((h.scan (endsInDigit_portPair _ _ _) (hpairs _ _).1 (hpairs' _ _).1).scan
    (endsInDigit_portPair _ _ _) (hpairs _ _).2.1 (hpairs' _ _).2.1).scan endsInDigit_sourceParam
      hcr hcolon

theorem mem_of_mem_collapseSemicolons {b : UInt8} (hb : b ≠ 59) (fuel : Nat)
    (h : b ∈ collapseSemicolons fuel v) : b ∈ v := by
  induction fuel generalizing v with
  | zero => exact h
  | succ fuel ih =>
    rw [collapseSemicolons] at h
    rcases hi : find (ascii ";;") v with _ | i
    · rwa [hi] at h
    · obtain ⟨u, w, rfl, hreplace⟩ := replaceAt_of_find hi (ascii ";")
      rw [hi] at h
      have hin : b ∈ u ++ (ascii ";" ++ w) := hreplace ▸ ih h
      simp only [List.mem_append] at hin ⊢
      refine hin.imp id fun hin => .inr (hin.resolve_left fun hsemi => hb (List.mem_singleton.1 hsemi))

theorem mem_of_mem_tidy {b : UInt8} (hb : b ≠ 59) (h : b ∈ tidy v) : b ∈ v := by
  rw [tidy, dropSemicolon] at h
  split at h
  · exact mem_of_mem_collapseSemicolons hb _ (List.mem_of_mem_dropLast h)
  · exact mem_of_mem_collapseSemicolons hb _ h

/-- Names of other fields have no separators in them. -/
theorem names_iff_params (hname : name ∈ otherNames) (v : Bytes) :
    Names name v ↔ ∃ param ∈ transportParams v, Names name param := by
  have hno : ∀ m, lower m = lower name → ∀ x ∈ m ++ [58], isSeparator x = false := by
    have hall : ∀ name ∈ otherNames, ∀ b ∈ lower name, isSeparator b = false := by decide +kernel
    intro m hm x hx
    rcases List.mem_append.1 hx with hx | hx
    · have hlower : lowerByte x ∈ lower name := hm ▸ List.mem_map_of_mem hx
      refine Bool.eq_false_iff.2 fun hsep => ?_
      have hsame : lowerByte x = x := by
        simp only [isSeparator, Bool.or_eq_true, decide_eq_true_eq] at hsep
        rcases hsep with ((rfl | rfl) | rfl) | rfl <;> rfl
      rw [hsame] at hlower
      exact Bool.false_ne_true ((hall name hname x hlower).symm.trans hsep)
    · rw [List.mem_singleton.1 hx]
      rfl
  constructor
  · intro hin
    obtain ⟨m, hm, hin⟩ := names_iff.1 hin
    obtain ⟨param, hparam, hin⟩ := (infix_iff_params (by simp) (hno m hm) v).1 hin
    exact ⟨param, hparam, names_iff.2 ⟨m, hm, hin⟩⟩
  · rintro ⟨param, hparam, hin⟩
    obtain ⟨m, hm, hin⟩ := names_iff.1 hin
    exact names_iff.2 ⟨m, hm, (infix_iff_params (by simp) (hno m hm) v).2 ⟨param, hparam, hin⟩⟩

theorem LeavesOthers.tidy (h : LeavesOthers v) : LeavesOthers (tidy v) where
  no_cr hin := h.no_cr (mem_of_mem_tidy (by decide) hin)
  names name hname hin := by
    rw [names_iff_params hname, params_tidy, ← names_iff_params hname] at hin
    exact h.names name hname hin

theorem LeavesOthers.withChannels (h : LeavesOthers v) : LeavesOthers (s.withChannels v) := by
  rw [RtspToRtspClient.withChannels]
  split
  · exact h
  · have hpair : ∀ a c, LeavesOthers (portPair "interleaved=" a c) := fun a c =>
      ⟨((@not_mem_written s 13 (.inl rfl)).2 a c).2.2, fun _ _ =>
        not_names_of_not_mem ((@not_mem_written s 58 (.inr rfl)).2 a c).2.2⟩
    rw [append_sep]
    refine ⟨fun hin => ?_, fun name hname hin => ?_⟩
    · rcases List.mem_append.1 hin with hin | hin
      · exact h.no_cr hin
      · rcases List.mem_cons.1 hin with hin | hin
        · exact absurd hin (by decide)
        · exact (hpair _ _).no_cr hin
    · obtain ⟨param, hparam, hin⟩ := (names_iff_params hname _).1 hin
      rw [params_sep] at hparam
      rcases List.mem_append.1 hparam with hparam | hparam
      · exact h.names name hname ((names_iff_params hname v).2 ⟨param, hparam, hin⟩)
      · exact (hpair _ _).names name hname ((names_iff_params hname _).2 ⟨param, hparam, hin⟩)

theorem leavesOthers_tcp (htcp : s.isDownstreamTcp = true) (h : LeavesOthers (leftForFrames v)) :
    LeavesOthers (s.clientTransport v) := by
  rw [clientTransport_tcp htcp]
  exact h.tidy.withChannels.scan endsInDigit_sourceParam (not_mem_written (.inl rfl)).1
    (not_mem_written (.inr rfl)).1

/-! ## The line of the transport -/

/-- What a client reads of a transport that is edited where its name is found first: if this is at
    the start of a line, the edited value, and else the value of the first line of the field. -/
@[irreducible] def Tells (edited kept : Bytes → Prop) : List Bytes → Prop
  | [] => False
  | l :: hs =>
    match headerPos l (ascii "Transport") with
    | none => Tells edited kept hs
    | some 0 => edited (lineValue (ascii "Transport") l 0)
    | some (_ + 1) => ∃ v ∈ headerField (ascii "Transport") hs, kept v

theorem tells_congr {edited' kept' : Bytes → Prop} (hedited : ∀ v, edited v ↔ edited' v)
    (hkept : ∀ v, kept v ↔ kept' v) : Tells edited kept hs ↔ Tells edited' kept' hs := by
  induction hs with
  | nil => rw [Tells, Tells]
  | cons l hs ih =>
    rw [Tells, Tells]
    rcases headerPos l (ascii "Transport") with _ | _ | p
    · exact ih
    · exact hedited _
    · exact exists_congr fun v => and_congr_right fun _ => hkept v

/-- A reply has an end of its header block, and no CR in the lines of it. Neither its transport nor
    what is left of it for an edit has the names of other fields inside. -/
structure Legible (left reply : Bytes) : Prop where
  whole : crlf2 <:+: reply
  no_cr : ∀ l ∈ headerLines reply, 13 ∉ l
  line : ∀ l ∈ fieldLine (ascii "Transport") (headerLines reply), ∀ name ∈ otherNames,
    ¬Names name l
  left : LeavesOthers left

theorem valueOf_eq_none_of_pos (hp : headerPos l (ascii "Transport") ≠ some 0) :
    valueOf (ascii "Transport") l = none := by
  by_contra hsome
  obtain ⟨v, hv⟩ := Option.ne_none_iff_exists'.1 hsome
  exact hp (headerPos_of_valueOf hv)

/-- The transport as a header line, and what is read of it. -/
theorem valueOf_transportLine (v : Bytes) :
    valueOf (ascii "Transport") (ascii "Transport" ++ 58 :: 32 :: v) = some (skipBlanks v) := by
  have hstart : headerPos (ascii "Transport" ++ 58 :: 32 :: v) (ascii "Transport") = some 0 := by
    refine find_eq_zero ⟨lower (32 :: v), ?_⟩
    simp only [lower, List.map_append, List.map_cons, List.append_assoc]
    rfl
  rw [valueOf_of_start (by decide) hstart]
  rfl

/-- An edit inside a line of another field does not make it one of a transport. -/
theorem valueOf_editLine_transport (hp : headerPos l (ascii "Transport") = some (p + 1))
    (v : Bytes) :
    valueOf (ascii "Transport") (editLine (ascii "Transport") v (p + 1) l) = none := by
  have hle := headerPos_le hp
  have hlen : (ascii "Transport").length = 9 := rfl
  have happart : ∀ q ≤ 9, 0 < q →
      ¬(lower (ascii "Transport") ++ [58]).drop q <+: lower (ascii "Transport") ++ [58, 32] := by
    decide
  refine valueOf_editLine (by decide) (by omega) (by omega) (fun hq => ?_)
    (valueOf_eq_none_of_pos (by rw [hp]; simp)) v
  exact happart _ hq (Nat.succ_pos p)

/-- An edited transport has the names of other fields inside only if its value has. -/
theorem not_names_transportLine (h : LeavesOthers v) :
    ∀ name ∈ otherNames, ¬Names name (ascii "Transport" ++ 58 :: 32 :: v) := by
  intro name hname hin
  have hfront : ∀ name ∈ otherNames, (32 : UInt8) ∉ lower name ++ [58] ∧
      ¬lower name ++ [58] <:+: lower (ascii "Transport:") := by
    decide
  have hline : lower (ascii "Transport" ++ 58 :: 32 :: v) =
      lower (ascii "Transport:") ++ 32 :: lower v := by
    simp only [lower, List.map_append, List.map_cons]
    rfl
  obtain ⟨hblank, hno⟩ := hfront name hname
  rw [Names, hline, infix_append_sep_iff (by simp) hblank] at hin
  exact hin.elim hno (h.names name hname)

section Behind

variable {before : List Bytes} (hbefore : ∀ m ∈ before, ¬Names (ascii "Transport") m)

include hbefore

theorem fieldLine_append (rest : List Bytes) :
    fieldLine (ascii "Transport") (before ++ rest) = fieldLine (ascii "Transport") rest := by
  have hnone : before.find? (fun m => (valueOf (ascii "Transport") m).isSome) = none := by
    refine List.find?_eq_none.2 fun m hm => ?_
    rw [valueOf_eq_none_of_pos (by rw [headerPos_eq_none_iff.2 (hbefore m hm)]; simp)]
    exact Bool.false_ne_true
  rw [fieldLine, List.find?_append, hnone, Option.none_or]
  rfl

theorem fieldIn_append (rest : List Bytes) :
    fieldIn (ascii "Transport") (before ++ rest) = fieldIn (ascii "Transport") rest := by
  rw [fieldIn, List.findSome?_append]
  exact (congrArg (Option.or · _) (fieldIn_eq_none_iff.2 hbefore)).trans Option.none_or

theorem tells_append_iff (edited kept : Bytes → Prop) (rest : List Bytes) :
    Tells edited kept (before ++ rest) ↔ Tells edited kept rest := by
  induction before with
  | nil => rfl
  | cons m before ih =>
    obtain ⟨hm, hbefore⟩ := List.forall_mem_cons.1 hbefore
    rw [List.cons_append, Tells, headerPos_eq_none_iff.2 hm]
    exact ih hbefore

end Behind

/-- In a reply with its transport edited, a client reads what is told by the place of its name. -/
theorem isReply_withTransport {good : Bytes → Prop} (hblock : IsBlock hs) (body : Bytes)
    (hclear : ∀ l ∈ hs, 13 ∉ l)
    (hline : ∀ l ∈ fieldLine (ascii "Transport") hs, ∀ name ∈ otherNames, ¬Names name l)
    (hleft : LeavesOthers (s.clientTransport
      (s.restoreProtocol (extractHeaderValue (message hs body) (ascii "Transport")))))
    (hskip : ∀ v, good (skipBlanks v) ↔ good v)
    (hnil : ¬good [] ∧ ¬good (s.clientTransport (s.restoreProtocol []))) :
    ∃ line, IsReply line (s.withTransport (message hs body)) ∧
      (∀ l ∈ line, ∀ name ∈ otherNames, ¬Names name l) ∧
      ((∃ shown ∈ line.bind (valueOf (ascii "Transport")), good shown) ↔
        Tells (fun v => good (s.clientTransport (s.restoreProtocol v))) good hs) := by
  have hname : IsName (ascii "Transport") := by decide
  have hcr : (13 : UInt8) ∉ ascii "Transport" := by decide
  rw [withTransport]
  by_cases hnames : ∃ l ∈ hs, Names (ascii "Transport") l
  case neg =>
    -- the transport is not in the header block
    have hno : ∀ l ∈ hs, ¬Names (ascii "Transport") l := fun l hl hin => hnames ⟨l, hl, hin⟩
    have hnone := fieldLine_append hno []
    have htells := tells_append_iff hno (fun v => good (s.clientTransport (s.restoreProtocol v)))
      good []
    rw [List.append_nil, Tells, iff_false] at htells
    rw [List.append_nil] at hnone
    refine ⟨none, ?_, fun l hl => absurd hl (Option.not_mem_none l),
      iff_of_false (fun h => h.elim fun v hv => Option.not_mem_none v hv.1) htells⟩
    split
    · exact ⟨hs, body, rfl, ⟨hblock, hclear⟩, hnone⟩
    · rw [replaceHeader_body hname hblock.unbroken hno]
      exact ⟨hs, _, rfl, ⟨hblock, hclear⟩, hnone⟩
  case pos =>
    obtain ⟨before, l, after, p, rfl, hp, hbefore, hset⟩ := setField_eq hnames
      (s.clientTransport (s.restoreProtocol
        (extractHeaderValue (message hs body) (ascii "Transport"))))
    have hfield := fieldLine_append hbefore (l :: after)
    have hvalue : extractHeaderValue (message (before ++ l :: after) body) (ascii "Transport") =
        lineValue (ascii "Transport") l p := by
      rw [extractHeaderValue_message hname hblock.unbroken, fieldIn_append hbefore, fieldIn,
        List.findSome?_cons, hp]
      rfl
    rw [hvalue] at hleft hset ⊢
    rw [tells_append_iff hbefore, Tells, hp]
    have hclear' := ClearBlock.setField ⟨hblock, hclear⟩ hcr hleft.no_cr hnames
    rw [hset] at hclear'
    rw [replaceHeader_message hname hblock.unbroken hnames, hset]
    rcases p with _ | p
    · -- it is the line of the transport that is edited
      have hstart := valueOf_of_start hname hp
      split
      case isTrue hempty =>
        refine ⟨some l, ⟨_, body, rfl, ⟨hblock, hclear⟩, ?_⟩, ?_, ?_⟩
        · rw [hfield, fieldLine_cons_of_eq_some hstart]
        · rw [hfield, fieldLine_cons_of_eq_some hstart] at hline
          exact hline
        · have hread : valueOf (ascii "Transport") l = some [] := hstart.trans (congrArg some hempty)
          rw [Option.bind_some, hread, hempty]
          refine iff_of_false (fun h => ?_) hnil.2
          obtain ⟨shown, hshown, hgood⟩ := h
          exact hnil.1 (Option.some.inj hshown ▸ hgood)
      case isFalse =>
        have hread := valueOf_transportLine (s.clientTransport
          (s.restoreProtocol (lineValue (ascii "Transport") l 0)))
        refine ⟨some (ascii "Transport" ++ 58 :: 32 :: s.clientTransport
          (s.restoreProtocol (lineValue (ascii "Transport") l 0))),
          ⟨_, body, rfl, hclear', ?_⟩, ?_, ?_⟩
        · exact (fieldLine_append hbefore _).trans (fieldLine_cons_of_eq_some hread _)
        · rintro _ ⟨⟩
          exact not_names_transportLine hleft
        · rw [Option.bind_some, hread]
          dsimp only
          rw [← hskip]
          constructor
          · rintro ⟨shown, hshown, hgood⟩
            exact Option.some.inj hshown ▸ hgood
          · exact fun hgood => ⟨_, rfl, hgood⟩
    · -- it is another line, and the first one of the transport is behind it
      have hnone := valueOf_eq_none_of_pos (l := l) (by rw [hp]; simp)
      rw [hfield, fieldLine_cons_of_eq_none hnone] at hline
      refine ⟨fieldLine (ascii "Transport") after, ?_, hline, ?_⟩
      · split
        · exact ⟨_, body, rfl, ⟨hblock, hclear⟩, hfield.trans (fieldLine_cons_of_eq_none hnone _)⟩
        · refine ⟨_, body, rfl, hclear', (fieldLine_append hbefore _).trans ?_⟩
          exact fieldLine_cons_of_eq_none (valueOf_editLine_transport hp _) _
      · rw [← headerField_eq]

/-! ## The other fields -/

/-- The fields of a reply other than the transport are patched. -/
def patchOthers (s : RtspToRtspClient) (msg : Bytes) : Except Exn Bytes := do
  let re ← Regex.compile s.upstreamPattern
  let msg ← s.patchUriHeader re msg (ascii "Content-Base")
  let msg ← s.patchUriHeader re msg (ascii "RTP-Info")
  return s.patchSdp msg

theorem patchOthers_congr (h : t.clientSide = s.clientSide) : t.patchOthers = s.patchOthers := by
  have haddr : t.localAddr = s.localAddr := by
    simp only [clientSide, Prod.mk.injEq] at h
    exact h.2.2.2.2.2.2.2.1
  have hsdp : t.patchSdp = s.patchSdp := by
    funext msg
    unfold patchSdp
    rw [haddr]
  funext msg
  rw [patchOthers, patchOthers, upstreamPattern_congr h, patchUriHeader_congr h, hsdp]

/-- A reply is patched in its transport, and then in its other fields. -/
theorem patchOthers_of_patchResponseForClient {patched : Bytes}
    (h : s.patchResponseForClient cfg reply = .ok (t, patched)) :
    t.clientSide = s.clientSide ∧ t.patchOthers (t.withTransport reply) = .ok patched := by
  unfold patchResponseForClient at h
  obtain ⟨⟨u, msg⟩, hu, h⟩ := Except.bind_eq_ok_iff.1 h
  obtain ⟨re, hre, h⟩ := Except.bind_eq_ok_iff.1 h
  obtain ⟨based, hbased, h⟩ := Except.bind_eq_ok_iff.1 h
  obtain ⟨located, hlocated, h⟩ := Except.bind_eq_ok_iff.1 h
  cases h
  obtain ⟨hside, rfl⟩ := patchTransport_eq hu
  refine ⟨hside, ?_⟩
  rw [← withTransport_congr hside] at hbased
  rw [patchOthers, hre]
  show (t.patchUriHeader re (t.withTransport reply) (ascii "Content-Base") >>= fun based => _) = _
  rw [hbased]
  show (t.patchUriHeader re based (ascii "RTP-Info") >>= fun located => _) = _
  rw [hlocated]
  rfl

/-- The edits of the other fields leave the transport alone. -/
theorem isReply_patchOthers {line : Option Bytes} {patched : Bytes} (h : IsReply line msg)
    (hno : ∀ l ∈ line, ∀ name ∈ otherNames, ¬Names name l)
    (heq : s.patchOthers msg = .ok patched) : IsReply line patched := by
  unfold patchOthers at heq
  obtain ⟨re, -, heq⟩ := Except.bind_eq_ok_iff.1 heq
  obtain ⟨based, hbased, heq⟩ := Except.bind_eq_ok_iff.1 heq
  obtain ⟨located, hlocated, heq⟩ := Except.bind_eq_ok_iff.1 heq
  cases heq
  have hbase := isReply_patchUriHeader (by decide) h (fun l hl => hno l hl _ (by decide)) hbased
  have hinfo := isReply_patchUriHeader (by decide) hbase (fun l hl => hno l hl _ (by decide))
    hlocated
  exact isReply_patchSdp hinfo fun l hl => hno l hl _ (by decide)

end RtspToRtspClient

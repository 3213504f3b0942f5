import RtsProxy.Clients.RtspToRtsp.Patch
import RtsProxy.Protocol.Lookup
import RtsProxy.Regex.Sound

/-!
# Edits of a header block

A field of a message is edited in the first line that has its name, which may be a line of another
field with the name inside it. Without such a line in the header block, it is looked for behind it.

* `replaceHeader_block`: the header block of a message with an edited field;
* `fieldLine_setField`: another field stays where it is, unless its line has the name of the edited
  one inside it;
* `fieldLine_patchUriHeader`, `fieldLine_patchSdp`: so the transport is left alone by the edits of
  the other fields of a reply.
-/

open Text Ecma RtspParser

namespace RtspToRtspClient

variable {s : RtspToRtspClient} {name field l v body msg : Bytes} {hs : List Bytes} {p : Nat}

/-! ## Lines -/

/-- A line with another value of a field, whose name is found at some place. -/
def editLine (name v : Bytes) (p : Nat) (l : Bytes) : Bytes := l.take p ++ (name ++ 58 :: 32 :: v)

/-- The first line that has the name of a field is changed. -/
def setField (name v : Bytes) : List Bytes → List Bytes
  | [] => []
  | l :: hs =>
    match headerPos l name with
    | some p => editLine name v p l :: hs
    | none => l :: setField name v hs

theorem replaceAt_append (u r new : Bytes) (i n : Nat) :
    replaceAt (u ++ r) (i + u.length) n new = u ++ replaceAt r i n new := by
  rw [replaceAt, replaceAt, Nat.add_comm i, List.take_length_add_append, Nat.add_assoc,
    List.drop_length_add_append, List.append_assoc, List.append_assoc, List.append_assoc]

theorem replaceHeader_line (h : IsName name) (hl : Unbroken l) (rest v : Bytes) :
    replaceHeader (l ++ (crlf ++ rest)) name v =
      match headerPos l name with
      | some p => editLine name v p l ++ (crlf ++ rest)
      | none => l ++ (crlf ++ replaceHeader rest name v) := by
  rw [replaceHeader, headerPos_line h]
  rcases hp : headerPos l name with _ | p
  · -- the name is behind the line, and so is the end of its own line
    rw [Option.none_or, replaceHeader]
    rcases headerPos rest name with _ | q
    · rfl
    · have hlen : (l ++ crlf).length = l.length + 2 := List.length_append
      have hfrom : findFrom crlf (l ++ (crlf ++ rest)) (q + (l.length + 2)) =
          (findFrom crlf rest q).map (· + (l.length + 2)) := by
        rw [← List.append_assoc, findFrom, findFrom, List.length_append, ← hlen]
        by_cases hq : q ≤ rest.length
        · rw [if_pos hq, if_pos (by omega), Nat.add_comm q, List.drop_length_add_append]
          rcases find crlf (rest.drop q) with _ | i
          · rfl
          · refine congrArg some ?_
            show i + ((l ++ crlf).length + q) = i + q + (l ++ crlf).length
            omega
        · rw [if_neg hq, if_neg (by omega)]
          rfl
      dsimp only [Option.map_some]
      rw [hfrom]
      rcases findFrom crlf rest q with _ | stop
      · rfl
      · dsimp only [Option.map_some]
        rw [← List.append_assoc, ← hlen, Nat.add_sub_add_right, replaceAt_append, List.append_assoc]
  · -- the name is in the line, which ends where it has ended
    have hle : p ≤ l.length := by
      have hle := headerPos_le hp
      omega
    have hfree : Unbroken (l.drop p) := fun hin => hl (hin.trans (List.drop_suffix p l).isInfix)
    have hstop : findFrom crlf (l ++ (crlf ++ rest)) p = some l.length := by
      rw [findFrom, if_pos (by rw [List.length_append]; omega), List.drop_append_of_le_length hle,
        find_crlf_line hfree, Option.map_some, List.length_drop, Nat.sub_add_cancel hle]
    rw [Option.some_or]
    dsimp only
    rw [hstop]
    dsimp only
    rw [replaceAt, List.take_append_of_le_length hle, Nat.add_sub_of_le hle, List.drop_left, editLine,
      List.append_assoc name]
    rfl

/-- A field is changed in the header block, if some line of it has its name. -/
theorem replaceHeader_message (h : IsName name) (hfree : ∀ l ∈ hs, Unbroken l)
    (hnames : ∃ l ∈ hs, Names name l) (body v : Bytes) :
    replaceHeader (message hs body) name v = message (setField name v hs) body := by
  induction hs with
  | nil =>
    obtain ⟨l, hl, -⟩ := hnames
    exact absurd hl List.not_mem_nil
  | cons l hs ih =>
    obtain ⟨hl, hhs⟩ := List.forall_mem_cons.1 hfree
    rw [message_cons, replaceHeader_line h hl, setField]
    rcases hp : headerPos l name with _ | p
    · obtain ⟨l', hl', hname⟩ := hnames
      rcases List.mem_cons.1 hl' with rfl | hl'
      · exact absurd hname (headerPos_eq_none_iff.1 hp)
      · dsimp only
        rw [ih hhs ⟨l', hl', hname⟩, message_cons]
    · rfl

/-- Otherwise it is looked for behind the block. -/
theorem replaceHeader_body (h : IsName name) (hfree : ∀ l ∈ hs, Unbroken l)
    (hno : ∀ l ∈ hs, ¬Names name l) (body v : Bytes) :
    replaceHeader (message hs body) name v = message hs (replaceHeader body name v) := by
  induction hs with
  | nil =>
    have hnone : headerPos [] name = none :=
      headerPos_eq_none_iff.2 fun hin => absurd (List.infix_nil.1 hin) (by simp)
    have hbody := replaceHeader_line h unbroken_nil body v
    rwa [hnone] at hbody
  | cons l hs ih =>
    obtain ⟨hl, hhs⟩ := List.forall_mem_cons.1 hfree
    obtain ⟨hname, hrest⟩ := List.forall_mem_cons.1 hno
    rw [message_cons, replaceHeader_line h hl, headerPos_eq_none_iff.2 hname]
    dsimp only
    rw [ih hhs hrest, message_cons]

/-- Some line has the name of a field, and its value is changed; the lines in front of it have not
    got the name. -/
theorem setField_eq (h : ∃ l ∈ hs, Names name l) (v : Bytes) : ∃ a l b p, hs = a ++ l :: b ∧
    headerPos l name = some p ∧ (∀ l ∈ a, ¬Names name l) ∧
    setField name v hs = a ++ editLine name v p l :: b := by
  induction hs with
  | nil =>
    obtain ⟨l, hl, -⟩ := h
    exact absurd hl List.not_mem_nil
  | cons l hs ih =>
    rcases hp : headerPos l name with _ | p
    · have hno := headerPos_eq_none_iff.1 hp
      obtain ⟨l', hl', hname⟩ := h
      rcases List.mem_cons.1 hl' with rfl | hl'
      · exact absurd hname hno
      · obtain ⟨a, l₁, b, p, rfl, hp₁, ha, hset⟩ := ih ⟨l', hl', hname⟩
        refine ⟨l :: a, l₁, b, p, rfl, hp₁, List.forall_mem_cons.2 ⟨hno, ha⟩, ?_⟩
        rw [setField, hp, hset]
        rfl
    · refine ⟨[], l, hs, p, rfl, hp, fun _ hm => absurd hm List.not_mem_nil, ?_⟩
      rw [setField, hp]
      rfl

theorem editLine_ne_nil (name v : Bytes) (p : Nat) (l : Bytes) : editLine name v p l ≠ [] := by
  rw [editLine]
  exact List.append_ne_nil_of_right_ne_nil _ (List.append_ne_nil_of_right_ne_nil _ (List.cons_ne_nil _ _))

/-- A header block without a CR in its lines. -/
structure ClearBlock (hs : List Bytes) : Prop where
  block : IsBlock hs
  no_cr : ∀ l ∈ hs, 13 ∉ l

/-- A field is edited in the header block, or behind it. -/
theorem replaceHeader_block (hname : IsName name) (h : IsBlock hs) (body v : Bytes) :
    ∃ hs' body', replaceHeader (message hs body) name v = message hs' body' ∧
      (hs' = hs ∨ hs' = setField name v hs ∧ ∃ l ∈ hs, Names name l) := by
  by_cases hnames : ∃ l ∈ hs, Names name l
  · exact ⟨_, body, replaceHeader_message hname h.unbroken hnames body v, .inr ⟨rfl, hnames⟩⟩
  · have hno : ∀ l ∈ hs, ¬Names name l := fun l hl hin => hnames ⟨l, hl, hin⟩
    exact ⟨hs, _, replaceHeader_body hname h.unbroken hno body v, .inl rfl⟩

theorem ClearBlock.setField (h : ClearBlock hs) (hname : 13 ∉ name) (hv : 13 ∉ v)
    (hnames : ∃ l ∈ hs, Names name l) : ClearBlock (setField name v hs) := by
  obtain ⟨a, l, b, p, rfl, -, -, hset⟩ := setField_eq hnames v
  obtain ⟨⟨-, -, hfull⟩, hcr⟩ := h
  rw [hset]
  have hedit : 13 ∉ editLine name v p l := by
    have hfront : 13 ∉ l.take p := fun hin =>
      hcr l (List.mem_append_right a List.mem_cons_self) ((List.take_prefix p l).subset hin)
    simp only [editLine, List.mem_append, List.mem_cons, not_or]
    exact ⟨hfront, hname, by decide, by decide, hv⟩
  have hall : ∀ l' ∈ a ++ editLine name v p l :: b, 13 ∉ l' := by
    rw [List.forall_mem_append, List.forall_mem_cons] at hcr ⊢
    exact ⟨hcr.1, hedit, hcr.2.2⟩
  refine ⟨⟨by simp, fun l' hl' => unbroken_of_not_mem (hall l' hl'), ?_⟩, hall⟩
  rcases a with _ | ⟨x, a⟩
  · exact hfull
  · rw [List.cons_append, List.tail_cons, List.forall_mem_append, List.forall_mem_cons] at hfull ⊢
    exact ⟨hfull.1, editLine_ne_nil _ _ _ _, hfull.2.2⟩

/-! ## Other fields -/

/-- A field has a name that does not come about by writing another one into a line. -/
def Beside (field name : Bytes) : Prop :=
  field.length ≤ name.length + 1 ∧
    ∀ q ≤ field.length, ¬(lower field ++ [58]).drop q <+: lower name ++ [58, 32]

instance (field name : Bytes) : Decidable (Beside field name) :=
  inferInstanceAs (Decidable (_ ∧ _))

/-- An edit does not make a line one of another field. -/
theorem valueOf_editLine (hfield : IsName field) (hq : p ≤ l.length)
    (hlen : field.length ≤ p + name.length + 1) (hbeside : p ≤ field.length →
      ¬(lower field ++ [58]).drop p <+: lower name ++ [58, 32])
    (h : valueOf field l = none) (v : Bytes) : valueOf field (editLine name v p l) = none := by
  by_contra hsome
  obtain ⟨w, hw⟩ := Option.ne_none_iff_exists'.1 hsome
  have hlower : lower (editLine name v p l) =
      lower (l.take p) ++ ((lower name ++ [58, 32]) ++ lower v) := by
    simp only [editLine, lower, List.map_append, List.map_cons, List.append_assoc]
    rfl
  have hfront : (lower (l.take p)).length = p := by
    rw [length_lower, List.length_take_of_le hq]
  have hpre : lower field ++ [58] <+: lower (l.take p) ++ ((lower name ++ [58, 32]) ++ lower v) := by
    obtain ⟨-, hpre, -⟩ := find_eq_some_iff.1 (headerPos_of_valueOf hw)
    rw [hlower, List.drop_zero] at hpre
    exact hpre
  have hsize : (lower field ++ [58]).length = field.length + 1 := by
    rw [List.length_append, length_lower]
    rfl
  rcases Nat.lt_or_ge field.length p with hlt | hge
  · -- the name of the field was there before
    have hold : lower field ++ [58] <+: lower (l.take p) :=
      List.prefix_of_prefix_length_le hpre (List.prefix_append _ _) (by omega)
    have hstart : headerPos l field = some 0 :=
      find_eq_zero (hold.trans ((List.take_prefix p l).map lowerByte))
    rw [valueOf_of_start hfield hstart] at h
    cases h
  · have hdrop := hpre.drop p
    rw [List.drop_left' hfront] at hdrop
    have hnew : (lower name ++ [58, 32]).length = name.length + 2 := by
      rw [List.length_append, length_lower]
      rfl
    refine hbeside hge (List.prefix_of_prefix_length_le hdrop (List.prefix_append _ (lower v)) ?_)
    rw [List.length_drop]
    omega

/-- Another field stays where it is. -/
theorem fieldLine_setField (hfield : IsName field) (hbeside : Beside field name)
    (hno : ∀ l ∈ fieldLine field hs, ¬Names name l) (v : Bytes) :
    fieldLine field (setField name v hs) = fieldLine field hs := by
  induction hs with
  | nil => rfl
  | cons l hs ih =>
    rw [setField]
    rcases hv : valueOf field l with _ | w
    · rw [fieldLine_cons_of_eq_none hv] at hno ⊢
      rcases hp : headerPos l name with _ | p
      · exact (fieldLine_cons_of_eq_none hv _).trans (ih hno)
      · have hle := headerPos_le hp
        have hlen := hbeside.1
        exact fieldLine_cons_of_eq_none
          (valueOf_editLine hfield (by omega) (by omega) (hbeside.2 p) hv v) hs
    · rw [fieldLine_cons_of_eq_some hv] at hno ⊢
      rw [headerPos_eq_none_iff.2 (hno l rfl)]
      exact fieldLine_cons_of_eq_some hv _

/-! ## The edits of a reply -/

/-- The fields of a reply that are edited besides its transport. -/
def otherNames : List Bytes := [ascii "Content-Base", ascii "RTP-Info", ascii "Content-Length"]

/-- Their names can be edited without a line becoming one of a transport. -/
theorem beside_of_mem_otherNames :
    ∀ name ∈ otherNames, IsName name ∧ Beside (ascii "Transport") name := by
  decide

/-- A message with these header lines, of which none has a CR and the transport is this one. -/
def IsReply (line : Option Bytes) (msg : Bytes) : Prop :=
  ∃ hs body, msg = message hs body ∧ ClearBlock hs ∧ fieldLine (ascii "Transport") hs = line

/-- Another field is edited: the transport stays. -/
theorem isReply_replaceHeader {line : Option Bytes} (hname : name ∈ otherNames)
    (h : IsReply line msg) (hno : ∀ l ∈ line, ¬Names name l) (hv : ∀ hs body,
      msg = message hs body → ClearBlock hs → (∃ l ∈ hs, Names name l) → 13 ∉ v) :
    IsReply line (replaceHeader msg name v) := by
  obtain ⟨hs, body, rfl, hclear, rfl⟩ := h
  obtain ⟨hisName, hbeside⟩ := beside_of_mem_otherNames name hname
  obtain ⟨hs', body', heq, rfl | ⟨rfl, hnames⟩⟩ := replaceHeader_block hisName hclear.block body v
  · exact ⟨_, body', heq, hclear, rfl⟩
  · refine ⟨_, body', heq, hclear.setField hisName.no_cr (hv hs body rfl hclear hnames) hnames, ?_⟩
    exact fieldLine_setField (by decide) hbeside hno v

/-- A value in a header block has no CR in it. -/
theorem not_mem_extractHeaderValue (hname : IsName name) (h : ClearBlock hs)
    (hnames : ∃ l ∈ hs, Names name l) (body : Bytes) :
    13 ∉ extractHeaderValue (message hs body) name := by
  rw [extractHeaderValue_message hname h.block.unbroken]
  obtain ⟨w, hw⟩ := Option.ne_none_iff_exists'.1 fun hnone =>
    hnames.elim fun l hl => fieldIn_eq_none_iff.1 hnone l hl.1 hl.2
  rw [hw, Option.getD_some]
  obtain ⟨l, hl, hvalue⟩ := List.exists_of_findSome?_eq_some hw
  obtain ⟨q, -, rfl⟩ := Option.map_eq_some_iff.1 hvalue
  exact fun hin => h.no_cr l hl ((List.drop_suffix _ l).subset ((List.dropWhile_suffix _).subset hin))

/-- URLs have no CR in them that was not there. -/
theorem not_mem_rewriteUrls {re : Regex} {value new : Bytes}
    (h : s.rewriteUrls re value = .ok (some new)) (hvalue : 13 ∉ value) : 13 ∉ new := by
  rw [rewriteUrls] at h
  split at h
  · cases h
  case h_2 m hm =>
    split at h
    · cases h
    · cases h
      have hdigits : ∀ n, (13 : UInt8) ∉ decimal n := fun n hin =>
        absurd (isDigit_of_mem_decimal hin) (by decide)
      have hbase : (13 : UInt8) ∉ s.proxyBase := by
        simp only [proxyBase, inetNtoa, List.mem_append, hdigits, or_false, false_or, not_or]
        decide
      intro hin
      rcases Regex.mem_replace hin with hfmt | hin
      · rw [List.mem_append, List.mem_append] at hfmt
        rcases hfmt with (hfmt | hfmt) | hfmt
        · exact hbase hfmt
        · have htext := (List.drop_suffix _ _).subset ((List.take_prefix _ _).subset hfmt)
          exact hvalue ((Regex.search_spans hm).subset htext)
        · exact absurd hfmt (by decide)
      · exact hvalue hin

/-- The URLs of another field are edited: the transport stays. -/
theorem isReply_patchUriHeader {line : Option Bytes} {re : Regex} {patched : Bytes}
    (hname : name ∈ otherNames) (h : IsReply line msg) (hno : ∀ l ∈ line, ¬Names name l)
    (heq : s.patchUriHeader re msg name = .ok patched) : IsReply line patched := by
  unfold patchUriHeader at heq
  dsimp only at heq
  split at heq
  · cases heq
    exact h
  · obtain ⟨new, hnew, heq⟩ := Except.bind_eq_ok_iff.1 heq
    rcases new with _ | new
    · cases heq
      exact h
    · cases heq
      refine isReply_replaceHeader hname h hno ?_
      rintro hs body rfl hclear hnames
      exact not_mem_rewriteUrls hnew
        (not_mem_extractHeaderValue (beside_of_mem_otherNames name hname).1 hclear hnames body)

/-- The session description is edited, and its length: the transport stays. -/
theorem isReply_patchSdp {line : Option Bytes} (h : IsReply line msg)
    (hno : ∀ l ∈ line, ¬Names (ascii "Content-Length") l) : IsReply line (s.patchSdp msg) := by
  obtain ⟨hs, body, rfl, hclear, hline⟩ := h
  obtain ⟨i, hi, htake⟩ := find_message hclear.block body
  rw [patchSdp, hi]
  dsimp only
  split
  · rw [htake, message_append]
    refine isReply_replaceHeader (by decide) ⟨hs, _, rfl, hclear, hline⟩ hno ?_
    exact fun _ _ _ _ _ hin => absurd (isDigit_of_mem_decimal hin) (by decide)
  · exact ⟨hs, body, rfl, hclear, hline⟩

/-- The header lines of such a message. -/
theorem IsReply.fieldLine {line : Option Bytes} (h : IsReply line msg) :
    fieldLine (ascii "Transport") (headerLines msg) = line := by
  obtain ⟨hs, body, rfl, hclear, rfl⟩ := h
  rw [headerLines_message hclear.block]

end RtspToRtspClient

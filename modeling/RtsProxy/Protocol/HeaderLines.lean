import RtsProxy.Protocol.RtspParser
import RtsProxy.Text.Lines

/-!
# Header fields and lines

Header fields are looked for in the text of a whole message. As their names hold no end of a line,
they are found in the first line that has the name somewhere.

* `extractHeaderValue_message`: the value is what is left of this line;
* `Names`: a line has a name somewhere;
* `names_iff`: the name is in the line in some case.
-/

open Text

namespace RtspParser

variable {name l rest body v : Bytes} {hs : List Bytes} {p : Nat}

/-- The name of a header field has no blank, colon or end of a line. -/
def IsName (name : Bytes) : Prop :=
  13 ∉ lower name ∧ 10 ∉ lower name ∧ 32 ∉ lower name ∧ 58 ∉ lower name

instance (name : Bytes) : Decidable (IsName name) := inferInstanceAs (Decidable (_ ∧ _))

theorem IsName.no_cr (h : IsName name) : 13 ∉ name := fun hin => h.1 (List.mem_map_of_mem hin)

/-- The name of a header field, with its colon, stands somewhere in a line. -/
def Names (name l : Bytes) : Prop := lower name ++ [58] <:+: lower l

instance (name l : Bytes) : Decidable (Names name l) := inferInstanceAs (Decidable (_ <:+: _))

/-- The value of a header field in a line that has its name at some place. -/
def lineValue (name l : Bytes) (p : Nat) : Bytes := skipBlanks (l.drop (p + name.length + 1))

/-- The value of a header field: what is left of the first line that has its name. -/
def fieldIn (name : Bytes) (hs : List Bytes) : Option Bytes :=
  hs.findSome? fun l => (headerPos l name).map (lineValue name l)

theorem headerPos_eq_none_iff : headerPos l name = none ↔ ¬Names name l := find_eq_none_iff

theorem names_of_headerPos (h : headerPos l name = some p) : Names name l := by
  by_contra hno
  rw [headerPos_eq_none_iff.2 hno] at h
  cases h

theorem fieldIn_eq_none_iff : fieldIn name hs = none ↔ ∀ l ∈ hs, ¬Names name l := by
  rw [fieldIn, List.findSome?_eq_none_iff]
  exact forall₂_congr fun l _ => by rw [Option.map_eq_none_iff, headerPos_eq_none_iff]

theorem headerPos_line (h : IsName name) (l rest : Bytes) : headerPos (l ++ (crlf ++ rest)) name =
    (headerPos l name).or ((headerPos rest name).map (· + (l.length + 2))) := by
  obtain ⟨hcr, hlf, -, -⟩ := h
  have hnot : ∀ {c : UInt8}, c ∉ lower name → c ≠ 58 → c ∉ lower name ++ ascii ":" :=
    fun hc hcolon hm => (List.mem_append.1 hm).elim hc fun hm => hcolon (List.mem_singleton.1 hm)
  have hlower : lower (l ++ (crlf ++ rest)) = lower l ++ (crlf ++ lower rest) := by
    rw [lower, List.map_append, List.map_append]
    rfl
  rw [headerPos, hlower, find_line (hnot hcr (by decide)) (hnot hlf (by decide)) (by simp [ascii]),
    length_lower]
  rfl

/-- A name found in a line ends in it, with its colon. -/
theorem headerPos_le (h : headerPos l name = some p) : p + (name.length + 1) ≤ l.length := by
  have hle := find_add_length_le h
  rwa [List.length_append, length_lower, length_lower] at hle

/-- Only letters are the lower case of something else. -/
theorem eq_of_lowerByte {c d : UInt8} (h : lowerByte c = d) (hd : d.toNat < 97 ∨ 122 < d.toNat) :
    c = d := by
  rw [lowerByte] at h
  split at h
  case isTrue hrange =>
    have hlow : 65 ≤ c.toNat := UInt8.le_iff_toNat_le.1 hrange.1
    have hhigh : c.toNat ≤ 90 := UInt8.le_iff_toNat_le.1 hrange.2
    have hsum : (c.toNat + 32) % 256 = d.toNat := by
      rw [← h, UInt8.toNat_add]
      rfl
    omega
  case isFalse => exact h

/-- An end of a line is no matter of case. -/
theorem unbroken_lower_iff : Unbroken (lower l) ↔ Unbroken l := by
  refine not_congr ⟨?_, fun hin => hin.map lowerByte⟩
  rintro ⟨a, b, heq⟩
  obtain ⟨l₁, b', rfl, hl₁, -⟩ := List.map_eq_append_iff.1 heq.symm
  obtain ⟨a', m, rfl, -, hm⟩ := List.map_eq_append_iff.1 hl₁
  obtain ⟨c, m', rfl, hc, hm'⟩ := List.map_eq_cons_iff.1 hm
  obtain ⟨d, m'', rfl, hd, hnil⟩ := List.map_eq_cons_iff.1 hm'
  obtain rfl := List.map_eq_nil_iff.1 hnil
  obtain rfl := eq_of_lowerByte hc (by decide)
  obtain rfl := eq_of_lowerByte hd (by decide)
  exact ⟨a', b', rfl⟩

/-- A line that has a name: what is in front of it, the name in some case, its colon, and what is
    behind it. -/
theorem eq_of_headerPos (h : headerPos l name = some p) : ∃ m, lower m = lower name ∧
    l = l.take p ++ (m ++ (58 :: l.drop (p + name.length + 1))) := by
  have hle := headerPos_le h
  obtain ⟨-, ⟨t, ht⟩, -⟩ := find_eq_some_iff.1 h
  have hlower : lower ((l.drop p).take (name.length + 1)) = lower name ++ [58] := by
    rw [lower, List.map_take, List.map_drop, ← lower, ← ht, List.take_left']
    · rfl
    · rw [List.length_append, length_lower]
      rfl
  have hlen : ((l.drop p).take (name.length + 1)).length = name.length + 1 := by
    rw [List.length_take, List.length_drop]
    omega
  rcases List.eq_nil_or_concat ((l.drop p).take (name.length + 1)) with hnil | ⟨m, c, hm⟩
  · rw [hnil] at hlen
    cases hlen
  · rw [List.concat_eq_append] at hm
    rw [hm, lower, List.map_append] at hlower
    obtain ⟨hname, hcolon⟩ := List.append_inj' hlower rfl
    have hc : c = 58 := eq_of_lowerByte (List.head_eq_of_cons_eq hcolon) (by decide)
    refine ⟨m, hname, ?_⟩
    have hrest : l.drop p = m ++ 58 :: l.drop (p + name.length + 1) := by
      rw [← List.take_append_drop (name.length + 1) (l.drop p), hm, hc, List.drop_drop,
        List.append_assoc]
      rfl
    rw [← hrest, List.take_append_drop]

theorem skipBlanks_line (l rest : Bytes) :
    skipBlanks (l ++ (crlf ++ rest)) = skipBlanks l ++ (crlf ++ rest) := by
  rw [skipBlanks, List.dropWhile_append]
  split
  case isTrue hnil =>
    rw [skipBlanks, List.isEmpty_iff.1 hnil]
    exact List.dropWhile_cons_of_neg (by decide)
  case isFalse => rfl

theorem unbroken_value (hl : Unbroken l) (k : Nat) : Unbroken (skipBlanks (l.drop k)) := fun hin =>
  hl (hin.trans ((List.dropWhile_suffix _).isInfix.trans (List.drop_suffix k l).isInfix))

/-- The value of a field in a line ends with the line. -/
theorem untilCrlf_line (hl : Unbroken l) (rest : Bytes) {k : Nat} (hk : k ≤ l.length) :
    untilCrlf (skipBlanks ((l ++ (crlf ++ rest)).drop k)) = skipBlanks (l.drop k) := by
  rw [List.drop_append_of_le_length hk, skipBlanks_line, untilCrlf,
    find_crlf_line (unbroken_value hl k), Option.getD_some, List.take_left]

theorem extractHeaderValue_line (h : IsName name) (hl : Unbroken l) (rest : Bytes) :
    extractHeaderValue (l ++ (crlf ++ rest)) name =
      ((headerPos l name).map (lineValue name l)).getD (extractHeaderValue rest name) := by
  rw [extractHeaderValue, headerPos_line h]
  rcases hp : headerPos l name with _ | p
  · rw [Option.none_or, extractHeaderValue]
    rcases headerPos rest name with _ | q
    · rfl
    · dsimp only [Option.map_some, Option.map_none, Option.getD_none]
      rw [show q + (l.length + 2) + name.length + 1 = l.length + (q + name.length + 1 + 2) by omega,
        List.drop_length_add_append]
      rfl
  · exact untilCrlf_line hl rest (headerPos_le hp)

/-- The value of a header field is what is left of the first line that has its name; behind the
    header block it is only looked for if there is none. -/
theorem extractHeaderValue_message (h : IsName name) (hfree : ∀ l ∈ hs, Unbroken l) (body : Bytes) :
    extractHeaderValue (message hs body) name =
      (fieldIn name hs).getD (extractHeaderValue body name) := by
  induction hs with
  | nil =>
    have hnone : headerPos [] name = none :=
      headerPos_eq_none_iff.2 fun hin => absurd (List.infix_nil.1 hin) (by simp)
    have hbody := extractHeaderValue_line h unbroken_nil body
    rwa [hnone] at hbody
  | cons l hs ih =>
    obtain ⟨hl, hhs⟩ := List.forall_mem_cons.1 hfree
    rw [message_cons, extractHeaderValue_line h hl, ih hhs]
    rw [fieldIn, fieldIn, List.findSome?_cons]
    rcases headerPos l name with _ | p
    · rfl
    · rfl

/-- A name is in a line as some text, whatever its case. -/
theorem names_iff : Names name l ↔ ∃ m, lower m = lower name ∧ m ++ [58] <:+: l := by
  constructor
  · intro hin
    obtain ⟨p, hp⟩ := Option.ne_none_iff_exists'.1 fun hno => headerPos_eq_none_iff.1 hno hin
    obtain ⟨m, hm, hl⟩ := eq_of_headerPos hp
    refine ⟨m, hm, l.take p, l.drop (p + name.length + 1), ?_⟩
    rw [List.append_assoc, List.append_assoc]
    exact hl.symm
  · rintro ⟨m, hm, hin⟩
    have hlower := hin.map lowerByte
    rw [List.map_append] at hlower
    rw [Names, ← hm]
    exact hlower

/-- A text without a colon has no name. -/
theorem not_names_of_not_mem (h : (58 : UInt8) ∉ v) : ¬Names name v := by
  intro hin
  obtain ⟨c, hc, hcolon⟩ := List.mem_map.1 (hin.subset (List.mem_append_right _ List.mem_cons_self))
  exact h (eq_of_lowerByte hcolon (by decide) ▸ hc)

end RtspParser

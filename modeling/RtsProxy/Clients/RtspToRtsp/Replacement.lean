import RtsProxy.Clients.RtspToRtsp.Patch
import RtsProxy.Protocol.HeaderLines

/-!
# Replacing header fields

A field is found where its name first stands in a message, and is replaced from there to the end
of the line. The replacement starts with the name again: it stands at the same place, and what
would stand in front of it would have been found before.

* `headerPos_replaced`: the field is found at the place where it was;
* `replaceHeader_laws`: what is put is read, and putting twice is putting once.
-/

open Text RtspParser

namespace RtspToRtspClient

variable {msg name v w rest : Bytes} {pos stop : Nat}

/-- A field is found in a message, on a line that ends with CR LF. -/
structure FoundOnLine (msg name : Bytes) (pos stop : Nat) : Prop where
  found : headerPos msg name = some pos
  ends : findFrom crlf msg pos = some stop
  /-- The line goes on to the colon behind the name. -/
  on_line : pos + name.length + 1 ≤ stop

/-- A value that can be put: in one line, and without a blank or a tab in front. -/
structure IsValue (v : Bytes) : Prop where
  no_cr : 13 ∉ v
  no_lf : 10 ∉ v
  no_blank : ∀ c ∈ v.head?, c ≠ 32 ∧ c ≠ 9

/-- The text of a field. -/
def field (name v : Bytes) : Bytes := name ++ ascii ": " ++ v

/-! ## The place of the field -/

/-- The field is found at the place where it was. -/
theorem headerPos_replaced (h : headerPos msg name = some pos) (v rest : Bytes) :
    headerPos (msg.take pos ++ (field name v ++ rest)) name = some pos := by
  have hlower : lower (msg.take pos ++ (field name v ++ rest)) =
      (lower msg).take pos ++ ((lower name ++ ascii ":") ++ lower (32 :: (v ++ rest))) := by
    simp only [field, lower, List.map_append, List.map_cons, List.map_take, List.append_assoc]
    rfl
  rw [headerPos, hlower]
  exact find_kept h _

/-! ## Lines -/

/-- The name of a field that is found on a line has no end of a line in it. -/
theorem FoundOnLine.unbroken_name (h : FoundOnLine msg name pos stop) : Unbroken name := by
  obtain ⟨hfound, hends, hline⟩ := h
  obtain ⟨m, hm, hmsg⟩ := eq_of_headerPos hfound
  have hlen : m.length = name.length := by
    rw [← length_lower m, hm, length_lower]
  have hle := headerPos_le hfound
  rw [← unbroken_lower_iff, ← hm, unbroken_lower_iff]
  rintro ⟨a, b, rfl⟩
  rw [findFrom, if_pos (by omega)] at hends
  obtain ⟨k, hk, rfl⟩ := Option.map_eq_some_iff.1 hends
  simp only [List.length_append] at hlen
  -- An end of a line in the name would be found before that of the line.
  refine (find_eq_some_iff.1 hk).2.2 a.length (by omega) ?_
  rw [hmsg, List.drop_left' (List.length_take_of_le (by omega)), List.append_assoc, List.append_assoc,
    List.drop_left]
  exact List.prefix_append _ _

/-- The text of a field is in one line. -/
theorem unbroken_field (hname : Unbroken name) (hv : 13 ∉ v) : Unbroken (field name v) := by
  have hapart : ∀ c ∈ ascii ": ", c ∉ crlf := by decide +kernel
  rw [Unbroken, field, List.append_assoc,
    infix_append_apart_iff (by decide) (by decide) hapart, not_or]
  exact ⟨hname, unbroken_of_not_mem hv⟩

/-- What is behind the line of a field starts with its end. -/
theorem FoundOnLine.drop_eq (h : FoundOnLine msg name pos stop) :
    msg.drop stop = crlf ++ msg.drop (stop + 2) := by
  obtain ⟨-, hends, -⟩ := h
  rw [findFrom] at hends
  split at hends
  case isFalse => cases hends
  obtain ⟨k, hk, rfl⟩ := Option.map_eq_some_iff.1 hends
  obtain ⟨-, ⟨t, ht⟩, -⟩ := find_eq_some_iff.1 hk
  rw [List.drop_drop, Nat.add_comm] at ht
  have hrest : msg.drop (k + pos + 2) = t := by
    rw [← List.drop_drop, ← ht]
    rfl
  rw [hrest, ht]

/-! ## Putting and reading -/

/-- The line is replaced from the name on; all else stays. -/
theorem FoundOnLine.replaceHeader_eq (h : FoundOnLine msg name pos stop) (v : Bytes) :
    replaceHeader msg name v = msg.take pos ++ (field name v ++ msg.drop stop) := by
  have hle := (findFrom_bounds h.ends).1
  rw [replaceHeader, h.found]
  dsimp only
  rw [h.ends]
  dsimp only
  rw [replaceAt, Nat.add_sub_of_le hle, List.append_assoc]
  rfl

/-- A field that has been put is found on its line. -/
theorem FoundOnLine.replaced (h : FoundOnLine msg name pos stop) (hv : 13 ∉ v) :
    FoundOnLine (replaceHeader msg name v) name pos (pos + (field name v).length) := by
  have hpos : (msg.take pos).length = pos :=
    List.length_take_of_le (by have := headerPos_le h.found; omega)
  rw [h.replaceHeader_eq]
  refine ⟨headerPos_replaced h.found v _, ?_, ?_⟩
  · rw [findFrom, if_pos (by rw [List.length_append, hpos]; exact Nat.le_add_right _ _),
      List.drop_left' hpos, h.drop_eq, find_crlf_line (unbroken_field h.unbroken_name hv),
      Option.map_some, Nat.add_comm]
  · have hlen : (field name v).length = name.length + 2 + v.length := by
      rw [field, List.length_append, List.length_append]
      rfl
    omega

theorem FoundOnLine.get_put (h : FoundOnLine msg name pos stop) (hv : IsValue v) :
    extractHeaderValue (replaceHeader msg name v) name = v := by
  have hpos : (msg.take pos).length = pos :=
    List.length_take_of_le (by have := headerPos_le h.found; omega)
  have hskip : skipBlanks (v ++ (crlf ++ msg.drop (stop + 2))) =
      v ++ (crlf ++ msg.drop (stop + 2)) := by
    rcases v with _ | ⟨c, r⟩
    · rfl
    · obtain ⟨hblank, htab⟩ := hv.no_blank c rfl
      exact List.dropWhile_cons_of_neg (by simp [hblank, htab])
  have hdrop : (msg.take pos ++ (field name v ++ msg.drop stop)).drop (pos + name.length + 1) =
      32 :: (v ++ msg.drop stop) := by
    rw [Nat.add_assoc, ← List.drop_drop, List.drop_left' hpos, ← List.drop_drop, field,
      List.append_assoc, List.append_assoc, List.drop_left]
    rfl
  have hblank : skipBlanks (32 :: (v ++ msg.drop stop)) = skipBlanks (v ++ msg.drop stop) := rfl
  rw [extractHeaderValue, (h.replaced hv.no_cr).found, h.replaceHeader_eq]
  dsimp only
  rw [hdrop, hblank, h.drop_eq, hskip, untilCrlf, find_crlf_line (unbroken_of_not_mem hv.no_cr),
    Option.getD_some, List.take_left]

theorem FoundOnLine.put_put (h : FoundOnLine msg name pos stop) (hv : 13 ∉ v) (w : Bytes) :
    replaceHeader (replaceHeader msg name v) name w = replaceHeader msg name w := by
  have hpos : (msg.take pos).length = pos :=
    List.length_take_of_le (by have := headerPos_le h.found; omega)
  rw [(h.replaced hv).replaceHeader_eq, h.replaceHeader_eq, h.replaceHeader_eq, List.take_left' hpos,
    ← List.drop_drop, List.drop_left' hpos, List.drop_left]

/-- A field that is found on a line that ends with CR LF is put there and nothing else changes;
    what is put is read, and putting twice is putting once. A field that is not found is not
    put. -/
theorem replaceHeader_laws (msg name : Bytes) :
    (headerPos msg name = none → ∀ v, replaceHeader msg name v = msg) ∧
    ∀ pos stop, FoundOnLine msg name pos stop →
      (∀ v, IsValue v → extractHeaderValue (replaceHeader msg name v) name = v) ∧
      (∀ v w, IsValue v → IsValue w →
        replaceHeader (replaceHeader msg name v) name w = replaceHeader msg name w) ∧
      ∀ v, IsValue v → replaceHeader msg name v = msg.take pos ++ (field name v ++ msg.drop stop) := by
  refine ⟨fun hnone v => ?_, fun pos stop h => ⟨fun v hv => h.get_put hv,
    fun v w hv _ => h.put_put hv.no_cr w, fun v _ => h.replaceHeader_eq v⟩⟩
  rw [replaceHeader, hnone]

/-- A field with a name inside another one, in another case, and a value that looks like a field. -/
theorem replaceHeader_laws_inside :
    let msg := ascii "OK\r\nx-CSEQ: 1\r\nCSeq: 2\r\n\r\n"
    extractHeaderValue (replaceHeader msg (ascii "cseq") (ascii "cseq: 7")) (ascii "cseq") =
        ascii "cseq: 7" ∧
      replaceHeader (replaceHeader msg (ascii "cseq") (ascii "cseq: 7")) (ascii "cseq") [] =
        replaceHeader msg (ascii "cseq") [] ∧
      replaceHeader msg (ascii "cseq") (ascii "cseq: 7") =
        ascii "OK\r\nx-cseq: cseq: 7" ++ ascii "\r\nCSeq: 2\r\n\r\n" := by
  intro msg
  have hfound : FoundOnLine msg (ascii "cseq") 6 13 :=
    ⟨by decide +kernel, by decide +kernel, by decide⟩
  have hv : IsValue (ascii "cseq: 7") := ⟨by decide, by decide, by decide +kernel⟩
  have hnil : IsValue [] := ⟨by decide, by decide, by decide +kernel⟩
  obtain ⟨hget, hput, hframe⟩ := (replaceHeader_laws msg (ascii "cseq")).2 6 13 hfound
  exact ⟨hget _ hv, hput _ _ hv hnil, hframe _ hv⟩

end RtspToRtspClient

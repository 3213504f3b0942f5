import RtsProxy.Framing
import RtsProxy.Protocol.Interleaved

/-!
# The pieces of an RTSP connection

A connection carries messages, which end behind their header block or their body, and
interleaved frames. How long the body of a message is taken to be is a parameter (`framing`):
what reads its header block says so.

* `framing`: frames and messages as the pieces of a stream;
* `framing_front_iff`: which piece a connection starts with.
-/

open Text Interleaved

namespace Connection

variable {body : Bytes → Nat} {buf piece : Bytes}

/-- The frame, or the message with its body, at the start of a connection. -/
def front (body : Bytes → Nat) (buf : Bytes) : Option Bytes :=
  if buf.head? = some 36 then (frameSize buf).map buf.take
  else match find crlf2 buf with
    | none => none
    | some i =>
      let size := i + 4 + body (buf.take (i + 4))
      if buf.length < size then none else some (buf.take size)

theorem front_eq_some_iff : front body buf = some piece ↔
    (buf.head? = some 36 ∧ ∃ size, frameSize buf = some size ∧ piece = buf.take size) ∨
    (buf.head? ≠ some 36 ∧ ∃ i, find crlf2 buf = some i ∧
      i + 4 + body (buf.take (i + 4)) ≤ buf.length ∧
      piece = buf.take (i + 4 + body (buf.take (i + 4)))) := by
  rw [front]
  by_cases hhead : buf.head? = some 36
  · rw [if_pos hhead, Option.map_eq_some_iff]
    simp only [hhead, true_and, ne_eq, not_true_eq_false, false_and, or_false, eq_comm (a := piece)]
  · rw [if_neg hhead]
    rcases find crlf2 buf with _ | i
    · simp [hhead]
    · dsimp only
      by_cases hlt : buf.length < i + 4 + body (buf.take (i + 4))
      · rw [if_pos hlt]
        refine iff_of_false (fun h => by cases h) ?_
        rintro (⟨h, _⟩ | ⟨_, j, hj, hle, _⟩)
        · exact hhead h
        · cases hj
          omega
      · rw [if_neg hlt]
        simp only [hhead, false_and, false_or, ne_eq, not_false_eq_true, true_and,
          Option.some.injEq, exists_eq_left', Nat.not_lt.1 hlt, eq_comm]

theorem frameSize_append {size : Nat} (h : frameSize buf = some size) (more : Bytes) :
    frameSize (buf ++ more) = some size := by
  obtain ⟨h4, hle, hsize⟩ := frameSize_le h
  have hbyte : ∀ i, i < buf.length → RtpPipeline.byteAt (buf ++ more) i = RtpPipeline.byteAt buf i := by
    intro i hi
    rw [RtpPipeline.byteAt, RtpPipeline.byteAt, List.getD_eq_getElem?_getD,
      List.getElem?_append_left hi, ← List.getD_eq_getElem?_getD]
  have hword : RtpPipeline.word16 (buf ++ more) 2 = RtpPipeline.word16 buf 2 := by
    rw [RtpPipeline.word16, RtpPipeline.word16, hbyte 2 (by omega), hbyte 3 (by omega)]
  have hlen : buf.length ≤ (buf ++ more).length := by
    rw [List.length_append]
    exact Nat.le_add_right _ _
  rw [frameSize, if_neg (by omega)]
  dsimp only
  rw [hword, ← hsize, if_neg (by omega)]

/-- Pieces of a connection, of messages with bodies of the given length. -/
def framing (body : Bytes → Nat) : Framing UInt8 where
  front := front body
  ne_nil_of_front := by
    intro buf piece h
    apply List.length_pos_iff.1
    rcases front_eq_some_iff.1 h with ⟨_, size, hsize, rfl⟩ | ⟨_, i, _, hle, rfl⟩
    · obtain ⟨h4, hle, _⟩ := frameSize_le hsize
      rw [List.length_take]
      omega
    · rw [List.length_take]
      omega
  prefix_of_front := by
    intro buf piece h
    rcases front_eq_some_iff.1 h with ⟨_, size, _, rfl⟩ | ⟨_, i, _, _, rfl⟩
    · exact List.take_prefix _ _
    · exact List.take_prefix _ _
  front_append := by
    intro buf piece h more
    rcases front_eq_some_iff.1 h with ⟨hhead, size, hsize, rfl⟩ | ⟨hhead, i, hi, hle, rfl⟩
    · obtain ⟨_, hle, _⟩ := frameSize_le hsize
      refine front_eq_some_iff.2 (.inl ⟨?_, size, frameSize_append hsize more, ?_⟩)
      · rw [List.head?_append, hhead]
        rfl
      · rw [List.take_append_of_le_length hle]
    · have hheader : (buf ++ more).take (i + 4) = buf.take (i + 4) :=
        List.take_append_of_le_length (find_add_length_le hi)
      refine front_eq_some_iff.2 (.inr ⟨?_, i, find_append hi more, ?_, ?_⟩)
      · have hne : buf ≠ [] := by
          rintro rfl
          rw [show find crlf2 [] = none from rfl] at hi
          cases hi
        rwa [List.head?_append_of_ne_nil _ hne]
      · rw [hheader, List.length_append]
        omega
      · rw [hheader, List.take_append_of_le_length hle]

theorem framing_front_iff : (framing body).front buf = some piece ↔
    (buf.head? = some 36 ∧ ∃ size, frameSize buf = some size ∧ piece = buf.take size) ∨
    (buf.head? ≠ some 36 ∧ ∃ i, find crlf2 buf = some i ∧
      i + 4 + body (buf.take (i + 4)) ≤ buf.length ∧
      piece = buf.take (i + 4 + body (buf.take (i + 4)))) :=
  front_eq_some_iff

end Connection

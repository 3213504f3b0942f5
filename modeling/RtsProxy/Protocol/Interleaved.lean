import RtsProxy.Protocol.RtpPipeline

/-!
# Interleaved frames

Media inside an RTSP connection: a dollar sign, a channel, the length of the packet in
16 bits, and the packet.

* `IsFrame`: what a whole frame is;
* `length_of_frontFrame`: what is read as a frame is one of at most 65535 bytes.
-/

open Text RtpPipeline

namespace Interleaved

/-- The header of an interleaved frame. -/
def frameHeader (channel : UInt8) (len : Nat) : Bytes := [36, channel] ++ be16 (len % 65536)

/-- The length of an interleaved frame at the start of a buffer, its header included, if the
    frame is complete. -/
def frameSize (buf : Bytes) : Option Nat :=
  if buf.length < 4 then none
  else
    let size := 4 + RtpPipeline.word16 buf 2
    if buf.length < size then none else some size

/-- The channel and the packet of the complete frame at the start of a buffer. -/
def frontFrame (buf : Bytes) : Option (UInt8 × Bytes) :=
  if buf.head? = some 36 then
    (frameSize buf).map fun size => (RtpPipeline.byteAt buf 1, (buf.take size).drop 4)
  else none

theorem head_of_frontFrame {buf : Bytes} {f : UInt8 × Bytes} (h : frontFrame buf = some f) :
    buf.head? = some 36 := by
  unfold frontFrame at h
  split at h
  · assumption
  · cases h

theorem frameSize_le {buf : Bytes} {size : Nat} (h : frameSize buf = some size) :
    4 ≤ size ∧ size ≤ buf.length ∧ size = 4 + RtpPipeline.word16 buf 2 := by
  unfold frameSize at h
  split at h
  · cases h
  · dsimp only at h
    split at h
    · cases h
    · cases h
      omega

/-- A whole frame: its length is that of the packet in it. -/
def IsFrame (bytes : Bytes) : Prop :=
  ∃ channel packet, packet.length < 65536 ∧ bytes = frameHeader channel packet.length ++ packet

theorem word16_lt (buf : Bytes) (i : Nat) : word16 buf i < 65536 := by
  have h₁ := (byteAt buf i).toNat_lt
  have h₂ := (byteAt buf (i + 1)).toNat_lt
  unfold word16
  omega

theorem length_of_frontFrame {buf packet : Bytes} {channel : UInt8}
    (h : frontFrame buf = some (channel, packet)) : packet.length < 65536 := by
  unfold frontFrame at h
  split at h
  · obtain ⟨size, hsize, heq⟩ := Option.map_eq_some_iff.1 h
    cases heq
    obtain ⟨_, _, rfl⟩ := frameSize_le hsize
    have := word16_lt buf 2
    rw [List.length_drop, List.length_take]
    omega
  · cases h

end Interleaved

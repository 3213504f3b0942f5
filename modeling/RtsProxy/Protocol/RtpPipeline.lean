import RtsProxy.Config

/-!
# The RTP pipeline

`RtpPipeline`: what is done to each RTP packet before it is forwarded. Until the
first key frame packets are held back; padding and null cells of the transport
stream are stripped where this is configured, in the buffer of the packet.

* `length_process_le`: no packet gets longer;
* `payloadOffset_le`: the payload starts inside the packet.
-/

open Text

namespace RtpPipeline

/-- The byte at an index; the buffer is large enough for every index that is read. -/
def byteAt (buf : Bytes) (i : Nat) : UInt8 := buf.getD i 0

/-- The 16-bit number at an index, in network order. -/
def word16 (buf : Bytes) (i : Nat) : Nat := 256 * (byteAt buf i).toNat + (byteAt buf (i + 1)).toNat

/-- A 16-bit number in network order. -/
def be16 (n : Nat) : Bytes := [(n / 256).toUInt8, n.toUInt8]

/-- The buffer with `n` bytes moved from `src` to `dst` (`memmove`). -/
def memmove (buf : Bytes) (dst src n : Nat) : Bytes :=
  replaceAt buf dst n ((buf.drop src).take n)

/-- The size of a cell of the transport stream. -/
abbrev cellSize : Nat := 188

/-- The packet has a header of RTP version 2. -/
def isRtp (pkt : Bytes) : Bool := 12 ≤ pkt.length && byteAt pkt 0 &&& 0xC0 = 0x80

/-- `get_payload_offset`: where the payload starts, behind the header, the sources and
    the extension. -/
def payloadOffset (pkt : Bytes) : Option Nat :=
  if isRtp pkt then
    let fixed := 12 + (byteAt pkt 0 &&& 0x0F).toNat * 4
    if byteAt pkt 0 &&& 0x10 = 0 then (if fixed ≤ pkt.length then some fixed else none)
    else if pkt.length < fixed + 4 then none
    else
      let offset := fixed + 4 + 4 * word16 pkt (fixed + 2)
      if offset ≤ pkt.length then some offset else none
  else none

/-- The packet identifier of the cell at an index. -/
def pid (buf : Bytes) (i : Nat) : Nat :=
  256 * (byteAt buf (i + 1) &&& 0x1F).toNat + (byteAt buf (i + 2)).toNat

/-! ## Key frames -/

/-- A start code of a parameter set or a key frame of H.264 or H.265 stands at an index. -/
def isKeyNal (buf : Bytes) (i : Nat) : Bool :=
  byteAt buf i = 0 && byteAt buf (i + 1) = 0 && byteAt buf (i + 2) = 1 &&
    (let h264 := (byteAt buf (i + 3) &&& 0x1F).toNat
     let h265 := ((byteAt buf (i + 3) >>> 1) &&& 0x3F).toNat
     h264 = 7 || h264 = 8 || h264 = 5 || (32 ≤ h265 && h265 ≤ 34) || h265 = 19 || h265 = 20)

/-- The cell at an index is one to start from: it belongs to the program association
    table, is marked for random access, or holds a key unit. -/
def isKeyCell (buf : Bytes) (ts : Nat) : Bool :=
  let afc := ((byteAt buf (ts + 3) &&& 0x30) >>> 4).toNat
  let payload := if afc = 2 ∨ afc = 3 then 5 + (byteAt buf (ts + 4)).toNat else 4
  pid buf ts = 0 ||
    (2 ≤ afc && 0 < byteAt buf (ts + 4) && byteAt buf (ts + 5) &&& 0x40 ≠ 0) ||
    (payload < cellSize &&
      (List.range (cellSize - payload - 4)).any fun j => isKeyNal buf (ts + payload + j))

/-- `check_keyframe`: some whole cell of the payload is one to start from. -/
def checkKeyframe (pkt : Bytes) : Bool :=
  match payloadOffset pkt with
  | none => false
  | some off =>
    off + cellSize ≤ pkt.length && byteAt pkt off = 0x47 &&
      (List.range ((pkt.length - off) / cellSize)).any fun i => isKeyCell pkt (off + cellSize * i)

/-! ## Stripping -/

/-- The loop over the cells of a payload: from cell `i` on, those that are not null
    cells are moved down behind the `kept` bytes. -/
def stripCells (off payloadLen : Nat) : Nat → Nat → Nat → Bytes → Bytes × Nat
  | 0, _, kept, buf => (buf, kept)
  | fuel + 1, i, kept, buf =>
    if i + cellSize ≤ payloadLen then
      if pid buf (off + i) = 0x1FFF then
        stripCells off payloadLen fuel (i + cellSize) kept buf
      else
        let buf := if kept = i then buf else memmove buf (off + kept) (off + i) cellSize
        stripCells off payloadLen fuel (i + cellSize) (kept + cellSize) buf
    else (buf, kept)

/-- The packet with the padding bit cleared. -/
def clearPaddingBit (buf : Bytes) : Bytes := buf.set 0 (byteAt buf 0 &&& 0xDF)

/-- The packet without its RTP padding, when its padding bit is set. -/
def stripPadding (off : Nat) (pkt : Bytes) : Bytes :=
  if byteAt pkt 0 &&& 0x20 = 0 then pkt
  else
    let padding := (byteAt pkt (pkt.length - 1)).toNat
    if 0 < padding ∧ padding ≤ pkt.length - off then
      clearPaddingBit (pkt.take (pkt.length - padding))
    else clearPaddingBit pkt

/-- The packet without the null cells of its payload, when this is a transport stream.
    Without a cell left nothing is left of the packet. -/
def stripNullCells (off : Nat) (pkt : Bytes) : Bytes :=
  let payloadLen := pkt.length - off
  if cellSize ≤ payloadLen ∧ byteAt pkt off = 0x47 then
    let (buf, kept) := stripCells off payloadLen (payloadLen + 1) 0 0 pkt
    if kept = 0 then [] else clearPaddingBit (buf.take (off + kept))
  else pkt

/-- `strip_rtp_padding_and_ts_null` -/
def strip (cfg : ServerConfig) (pkt : Bytes) : Bytes :=
  match payloadOffset pkt with
  | none => pkt
  | some off => if cfg.stripPadding then stripNullCells off (stripPadding off pkt) else pkt

/-! ## The pipeline -/

/-- What is made of a packet: whether it is forwarded, what is left of it, and whether
    the pipeline still waits for a key frame. -/
structure Processed where
  forward : Bool
  packet : Bytes
  waitForKeyframe : Bool
  deriving DecidableEq, Repr

/-- `process` -/
def process (cfg : ServerConfig) (wait : Bool) (pkt : Bytes) : Processed :=
  if !isRtp pkt then ⟨false, pkt, wait⟩
  else if wait && !checkKeyframe pkt then ⟨false, pkt, wait⟩
  else
    let out := strip cfg pkt
    ⟨0 < out.length, out, false⟩

/-! ## Bounds -/

theorem payloadOffset_le {pkt : Bytes} {off : Nat} (h : payloadOffset pkt = some off) :
    off ≤ pkt.length := by
  simp only [payloadOffset] at h
  split at h
  · split at h
    · split at h
      · cases h
        assumption
      · cases h
    · split at h
      · cases h
      · split at h
        · cases h
          assumption
        · cases h
  · cases h

/-- The loop keeps no more than it has passed. -/
theorem kept_stripCells_le {off payloadLen fuel i kept : Nat} {buf : Bytes} (hkept : kept ≤ i)
    (hi : i ≤ payloadLen) : (stripCells off payloadLen fuel i kept buf).2 ≤ payloadLen := by
  induction fuel generalizing i kept buf with
  | zero => exact hkept.trans hi
  | succ fuel ih =>
    rw [stripCells]
    split
    · split
      · exact ih (hkept.trans (Nat.le_add_right _ _)) ‹_›
      · exact ih (Nat.add_le_add_right hkept _) ‹_›
    · exact hkept.trans hi

theorem length_clearPaddingBit (buf : Bytes) : (clearPaddingBit buf).length = buf.length := by
  rw [clearPaddingBit, List.length_set]

theorem length_stripPadding_le (off : Nat) (pkt : Bytes) :
    (stripPadding off pkt).length ≤ pkt.length := by
  rw [stripPadding]
  split
  · exact Nat.le_refl _
  · dsimp only
    split
    · rw [length_clearPaddingBit, List.length_take]
      exact Nat.min_le_right _ _
    · rw [length_clearPaddingBit]

theorem length_stripNullCells_le (off : Nat) (pkt : Bytes) :
    (stripNullCells off pkt).length ≤ pkt.length := by
  rw [stripNullCells]
  dsimp only
  split
  case isTrue h =>
    split
    · exact Nat.zero_le _
    · have hkept : (stripCells off (pkt.length - off) (pkt.length - off + 1) 0 0 pkt).2 ≤ pkt.length - off :=
        kept_stripCells_le (Nat.le_refl 0) (Nat.zero_le _)
      rw [length_clearPaddingBit, List.length_take]
      refine (Nat.min_le_left _ _).trans ?_
      have hoff : off ≤ pkt.length := by
        have := h.1
        omega
      calc off + _ ≤ off + (pkt.length - off) := Nat.add_le_add_left hkept off
        _ = pkt.length := Nat.add_sub_cancel' hoff
  case isFalse => exact Nat.le_refl _

theorem length_strip_le (cfg : ServerConfig) (pkt : Bytes) :
    (strip cfg pkt).length ≤ pkt.length := by
  rw [strip]
  split
  · exact Nat.le_refl _
  · split
    · exact (length_stripNullCells_le _ _).trans (length_stripPadding_le _ _)
    · exact Nat.le_refl _

/-- No packet gets longer. -/
theorem length_process_le (cfg : ServerConfig) (wait : Bool) (pkt : Bytes) :
    (process cfg wait pkt).packet.length ≤ pkt.length := by
  rw [process]
  split
  · exact Nat.le_refl _
  · split
    · exact Nat.le_refl _
    · exact length_strip_le cfg pkt

end RtpPipeline

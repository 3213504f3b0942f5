import RtsProxy.Buffer
import RtsProxy.Protocol.Keyframes

/-!
# The pipeline inside its buffer

The functions of `RtpPipeline` as they go over the buffer of a packet: every byte is read and
written at a computed place, and every difference is one of unsigned numbers. The length is
passed in, and a new one is returned.

* `payloadOffset_run`, `checkKeyframe_run`: reading a packet stays inside it;
* `strip_ensures`: so does stripping, in place, and what is left is at the front of the buffer;
* `process_ensures`, `staysInside`: no packet leads the pipeline outside its buffer.
-/

open Text Buffer

namespace RtpPipeline

namespace InBuffer

/-! ## The functions -/

/-- A 16-bit number in network order. -/
def readWord (i : Nat) : Prog UInt8 Nat := do
  let a ← read i
  let b ← read (i + 1)
  return 256 * a.toNat + b.toNat

/-- The packet identifier of the cell at a place. -/
def readPid (ts : Nat) : Prog UInt8 Nat := do
  let a ← read (ts + 1)
  let b ← read (ts + 2)
  return 256 * (a &&& 0x1F).toNat + b.toNat

/-- Where the payload starts behind the extension. -/
def skipExtension (len offset : Nat) : Prog UInt8 (Option Nat) := do
  if len < offset + 4 then return none
  let extLen ← readWord (offset + 2)
  return some (offset + 4 + 4 * extLen)

/-- Where the payload starts behind the header, whose first byte is given. -/
def skipHeader (len : Nat) (b : UInt8) : Prog UInt8 (Option Nat) :=
  let fixed := 12 + (b &&& 0x0F).toNat * 4
  if b &&& 0x10 = 0 then return some fixed else skipExtension len fixed

/-- `get_payload_offset` -/
def payloadOffset (len : Nat) : Prog UInt8 (Option Nat) := do
  if len < 12 then return none
  let b ← read 0
  if b &&& 0xC0 ≠ 0x80 then return none
  match ← skipHeader len b with
  | none => return none
  | some offset => return if len < offset then none else some offset

/-- The bytes at a place are a start code and the header of a key unit; later ones are not
    read when an earlier one does not fit. -/
def readKeyNal (i : Nat) : Prog UInt8 Bool := do
  if (← read i) ≠ 0 then return false
  if (← read (i + 1)) ≠ 0 then return false
  if (← read (i + 2)) ≠ 1 then return false
  return isKeyHeader (← read (i + 3))

/-- The scan of a payload for a key unit. -/
def scanUnits (data dataLen : Nat) : Prog UInt8 Bool :=
  loop (fun j => do
    if j + 4 < dataLen then
      if ← readKeyNal (data + j) then return .inr true
      return .inl (j + 1)
    else return .inr false) (dataLen + 1) 0

/-- The random access indicator of a cell, whose adaptation field control is given. -/
def readRandomAccess (ts afc : Nat) : Prog UInt8 Bool := do
  if afc < 2 then return false
  if (← read (ts + 4)) = 0 then return false
  return (← read (ts + 5)) &&& 0x40 ≠ 0

/-- Where the payload of a cell starts, whose adaptation field control is given. -/
def readCellPayload (ts afc : Nat) : Prog UInt8 Nat := do
  if afc = 2 ∨ afc = 3 then
    let b ← read (ts + 4)
    return 5 + b.toNat
  else return 4

/-- One turn of `check_keyframe`: the cell at a place. -/
def checkCell (ts : Nat) : Prog UInt8 Bool := do
  if (← readPid ts) = 0 then return true
  let b ← read (ts + 3)
  let afc := ((b &&& 0x30) >>> 4).toNat
  if ← readRandomAccess ts afc then return true
  let payload ← readCellPayload ts afc
  if payload < cellSize then
    let dataLen ← minus cellSize payload
    scanUnits (ts + payload) dataLen
  else return false

/-- `check_keyframe` -/
def checkKeyframe (len : Nat) : Prog UInt8 Bool := do
  match ← payloadOffset len with
  | none => return false
  | some off =>
    if len < off + cellSize then return false
    if (← read off) ≠ 0x47 then return false
    loop (fun i => do
      if off + i + cellSize ≤ len then
        if ← checkCell (off + i) then return .inr true
        return .inl (i + cellSize)
      else return .inr false) (len + 1) 0

/-- The padding bit is cleared. -/
def clearPaddingBit : Prog UInt8 Unit := do
  let b ← read 0
  write 0 (b &&& 0xDF)

/-- The new length behind the padding. -/
def stripPadding (off len : Nat) : Prog UInt8 Nat := do
  if (← read 0) &&& 0x20 = 0 then return len
  let last ← minus len 1
  let padding ← read last
  let room ← minus len off
  if 0 < padding.toNat ∧ padding.toNat ≤ room then
    let newLen ← minus len padding.toNat
    clearPaddingBit
    return newLen
  else
    clearPaddingBit
    return len

/-- The loop over the cells: the null cells are left out. -/
def stripCells (off payloadLen : Nat) : Prog UInt8 Nat :=
  loop (fun (i, kept) => do
    if i + cellSize ≤ payloadLen then
      if (← readPid (off + i)) = 0x1FFF then return .inl (i + cellSize, kept)
      if kept = i then return .inl (i + cellSize, kept + cellSize)
      move (off + kept) (off + i) cellSize
      return .inl (i + cellSize, kept + cellSize)
    else return .inr kept) (payloadLen + 1) (0, 0)

/-- The new length without the null cells. -/
def stripNullCells (off len : Nat) : Prog UInt8 Nat := do
  let payloadLen ← minus len off
  if payloadLen < cellSize then return len
  if (← read off) ≠ 0x47 then return len
  let kept ← stripCells off payloadLen
  clearPaddingBit
  return if kept = 0 then 0 else off + kept

/-- `strip_rtp_padding_and_ts_null` -/
def strip (cfg : ServerConfig) (len : Nat) : Prog UInt8 Nat := do
  match ← payloadOffset len with
  | none => return len
  | some off =>
    if cfg.stripPadding then
      let len ← stripPadding off len
      stripNullCells off len
    else return len

/-- What `process` returns: whether the packet is forwarded, the new length, and whether the
    pipeline still waits for a key frame. -/
structure Outcome where
  forward : Bool
  len : Nat
  waitForKeyframe : Bool
  deriving DecidableEq, Repr

/-- The packet passes the gate: the pipeline does not wait, or it is a key frame. -/
def passGate (wait : Bool) (len : Nat) : Prog UInt8 Bool :=
  if wait then checkKeyframe len else return true

/-- `process` -/
def process (cfg : ServerConfig) (wait : Bool) (len : Nat) : Prog UInt8 Outcome := do
  if len < 12 then return ⟨false, len, wait⟩
  if (← read 0) &&& 0xC0 ≠ 0x80 then return ⟨false, len, wait⟩
  if ← passGate wait len then
    let newLen ← strip cfg len
    return ⟨0 < newLen, newLen, false⟩
  else return ⟨false, len, true⟩

/-! ## Reading -/

variable {buf : Bytes} {i ts off len : Nat}

theorem read_byteAt (h : i < buf.length) : read i buf = some (byteAt buf i, buf) := by
  rw [read_eq h, byteAt, List.getD_eq_getElem?_getD, List.getElem?_eq_getElem h]
  rfl

theorem readWord_run (h : i + 1 < buf.length) :
    readWord i buf = some (word16 buf i, buf) := by
  rw [readWord, bind_of_eq (read_byteAt (by omega)), bind_of_eq (read_byteAt h)]
  rfl

theorem readPid_run (h : ts + 2 < buf.length) : readPid ts buf = some (pid buf ts, buf) := by
  rw [readPid, bind_of_eq (read_byteAt (by omega)), bind_of_eq (read_byteAt h)]
  rfl

theorem payloadOffset_run :
    payloadOffset buf.length buf = some (RtpPipeline.payloadOffset buf, buf) := by
  rw [payloadOffset, RtpPipeline.payloadOffset, isRtp]
  by_cases hlen : buf.length < 12
  · rw [if_pos hlen, decide_eq_false (Nat.not_le_of_lt hlen)]
    rfl
  rw [if_neg hlen, bind_of_eq (read_byteAt (by omega)), decide_eq_true (Nat.le_of_not_lt hlen), Bool.true_and]
  by_cases hrtp : byteAt buf 0 &&& 0xC0 = 0x80
  · rw [if_neg (not_not_intro hrtp), if_pos (decide_eq_true hrtp)]
    dsimp only
    by_cases hext : byteAt buf 0 &&& 0x10 = 0
    · have hskip : skipHeader buf.length (byteAt buf 0) buf =
          some (some (12 + (byteAt buf 0 &&& 0x0F).toNat * 4), buf) := by
        rw [skipHeader, if_pos hext]
        rfl
      rw [bind_of_eq hskip, if_pos hext]
      dsimp only
      split <;> split <;> first | rfl | omega
    · rw [if_neg hext]
      by_cases hshort : buf.length < 12 + (byteAt buf 0 &&& 0x0F).toNat * 4 + 4
      · have hskip : skipHeader buf.length (byteAt buf 0) buf = some (none, buf) := by
          rw [skipHeader, if_neg hext, skipExtension, if_pos hshort]
          rfl
        rw [bind_of_eq hskip, if_pos hshort]
        rfl
      · have hskip : skipHeader buf.length (byteAt buf 0) buf =
            some (some (12 + (byteAt buf 0 &&& 0x0F).toNat * 4 + 4 +
              4 * word16 buf (12 + (byteAt buf 0 &&& 0x0F).toNat * 4 + 2)), buf) := by
          rw [skipHeader, if_neg hext, skipExtension, if_neg hshort,
            bind_of_eq (readWord_run (by omega))]
          rfl
        rw [bind_of_eq hskip, if_neg hshort]
        dsimp only
        split <;> split <;> first | rfl | omega
  · rw [if_pos hrtp, if_neg (by simpa using hrtp)]
    rfl

/-! ## Key frames -/

theorem readKeyNal_run (h : i + 3 < buf.length) :
    readKeyNal i buf = some (isKeyNal buf i, buf) := by
  rw [isKeyNal_eq, startCode, readKeyNal, bind_of_eq (read_byteAt (by omega))]
  by_cases h0 : byteAt buf i = 0
  · rw [if_neg (not_not_intro h0), bind_of_eq (read_byteAt (by omega)), decide_eq_true h0]
    by_cases h1 : byteAt buf (i + 1) = 0
    · rw [if_neg (not_not_intro h1), bind_of_eq (read_byteAt (by omega)), decide_eq_true h1]
      by_cases h2 : byteAt buf (i + 2) = 1
      · rw [if_neg (not_not_intro h2), bind_of_eq (read_byteAt (by omega)), decide_eq_true h2]
        rfl
      · rw [if_pos h2, decide_eq_false h2]
        rfl
    · rw [if_pos h1, decide_eq_false h1]
      rfl
  · rw [if_pos h0, decide_eq_false h0]
    rfl

/-- The scan finds the first key unit that does not end with the payload, if there is one. -/
theorem scanUnits_run {data dataLen : Nat} (h : data + dataLen ≤ buf.length) :
    scanUnits data dataLen buf =
      some ((List.range (dataLen - 4)).any fun j => isKeyNal buf (data + j), buf) := by
  refine Ensures.eq ?_
  refine @loop_ensures _ _ _ _ _ _ (fun j b => b = buf ∧ j ≤ dataLen ∧
    ∀ j' < j, ¬isKeyNal buf (data + j')) (fun j => dataLen - j) ?_ _ _
    ⟨rfl, Nat.zero_le _, nofun⟩ (by omega)
  rintro j b ⟨rfl, hj, hbefore⟩
  by_cases hin : j + 4 < dataLen
  · have hread : readKeyNal (data + j) b = some (isKeyNal b (data + j), b) :=
      readKeyNal_run (by omega)
    rw [if_pos hin]
    by_cases hkey : isKeyNal b (data + j)
    · refine @ensures_of_eq _ _ _ _ _ (.inr true) b ?_ ⟨?_, rfl⟩
      · rw [bind_of_eq hread, hkey]
        rfl
      · exact (List.any_eq_true.2 ⟨j, List.mem_range.2 (by omega), hkey⟩).symm
    · refine @ensures_of_eq _ _ _ _ _ (.inl (j + 1)) b ?_ ⟨⟨rfl, by omega, ?_⟩, by omega⟩
      · rw [bind_of_eq hread, Bool.eq_false_iff.2 hkey]
        rfl
      · intro j' hj'
        rcases Nat.lt_succ_iff_lt_or_eq.1 hj' with hlt | rfl
        · exact hbefore j' hlt
        · exact hkey
  · rw [if_neg hin]
    refine ensures_pure ⟨(List.any_eq_false.2 fun j' hj' => hbefore j' ?_).symm, rfl⟩
    have hlt := List.mem_range.1 hj'
    omega

theorem readRandomAccess_run (h : ts + 5 < buf.length) :
    readRandomAccess ts (adaptation buf ts) buf = some (hasRandomAccess buf ts, buf) := by
  rw [readRandomAccess, hasRandomAccess]
  by_cases hafc : adaptation buf ts < 2
  · rw [if_pos hafc, decide_eq_false (Nat.not_le_of_lt hafc)]
    rfl
  rw [if_neg hafc, decide_eq_true (Nat.le_of_not_lt hafc), bind_of_eq (read_byteAt (by omega))]
  by_cases hlen : byteAt buf (ts + 4) = 0
  · rw [if_pos hlen, hlen]
    rfl
  · rw [if_neg hlen, bind_of_eq (read_byteAt h), decide_eq_true (UInt8.pos_iff_ne_zero.2 hlen)]
    rfl

theorem readCellPayload_run (h : ts + 4 < buf.length) :
    readCellPayload ts (adaptation buf ts) buf = some (cellPayload buf ts, buf) := by
  rw [readCellPayload, cellPayload]
  by_cases hafc : adaptation buf ts = 2 ∨ adaptation buf ts = 3
  · rw [if_pos hafc, if_pos hafc, bind_of_eq (read_byteAt h)]
    rfl
  · rw [if_neg hafc, if_neg hafc]
    rfl

theorem checkCell_run (h : ts + cellSize ≤ buf.length) :
    checkCell ts buf = some (isKeyCell buf ts, buf) := by
  have hword : cellSize = 188 := rfl
  have hcell : isKeyCell buf ts = (decide (pid buf ts = 0) || hasRandomAccess buf ts ||
      (decide (cellPayload buf ts < cellSize) &&
        (List.range (cellSize - cellPayload buf ts - 4)).any fun j =>
          isKeyNal buf (ts + cellPayload buf ts + j))) := rfl
  rw [checkCell, hcell, bind_of_eq (readPid_run (by omega))]
  by_cases hpat : pid buf ts = 0
  · rw [if_pos hpat, decide_eq_true hpat]
    rfl
  rw [if_neg hpat, decide_eq_false hpat, Bool.false_or, bind_of_eq (read_byteAt (by omega))]
  have hafc : ((byteAt buf (ts + 3) &&& 0x30) >>> 4).toNat = adaptation buf ts := rfl
  rw [hafc]
  rw [bind_of_eq (readRandomAccess_run (by omega))]
  by_cases hmark : hasRandomAccess buf ts
  · rw [if_pos hmark, hmark]
    rfl
  rw [if_neg hmark, Bool.eq_false_iff.2 hmark, Bool.false_or,
    bind_of_eq (readCellPayload_run (by omega))]
  by_cases hpay : cellPayload buf ts < cellSize
  · rw [if_pos hpay, decide_eq_true hpay, Bool.true_and, bind_of_eq (minus_eq hpay.le)]
    exact scanUnits_run (by omega)
  · rw [if_neg hpay, decide_eq_false hpay]
    rfl

theorem checkKeyframe_run :
    checkKeyframe buf.length buf = some (RtpPipeline.checkKeyframe buf, buf) := by
  have hword : cellSize = 188 := rfl
  rw [checkKeyframe, RtpPipeline.checkKeyframe, bind_of_eq payloadOffset_run]
  rcases hoff : RtpPipeline.payloadOffset buf with _ | off
  · rfl
  dsimp only
  by_cases hfits : buf.length < off + cellSize
  · rw [if_pos hfits, decide_eq_false (Nat.not_le_of_lt hfits)]
    rfl
  rw [if_neg hfits, decide_eq_true (Nat.le_of_not_lt hfits), Bool.true_and,
    bind_of_eq (read_byteAt (by omega))]
  by_cases hsync : byteAt buf off = 0x47
  swap
  · rw [if_pos hsync, decide_eq_false hsync]
    rfl
  rw [if_neg (not_not_intro hsync), decide_eq_true hsync, Bool.true_and]
  -- The loop is at a multiple of the size of a cell, and has found nothing so far.
  refine Ensures.eq ?_
  refine @loop_ensures _ _ _ _ _ _ (fun i b => b = buf ∧ ∃ k, i = cellSize * k ∧
    k ≤ (buf.length - off) / cellSize ∧ ∀ k' < k, ¬isKeyCell buf (off + cellSize * k'))
    (fun i => buf.length - off - i) ?_ _ _
    ⟨rfl, 0, rfl, Nat.zero_le _, fun _ h => absurd h (Nat.not_lt_zero _)⟩ (by omega)
  rintro i b ⟨rfl, k, rfl, hk, hbefore⟩
  by_cases hin : off + cellSize * k + cellSize ≤ b.length
  · have hlt : k < (b.length - off) / 188 := by
      have hin' : off + 188 * k + 188 ≤ b.length := hin
      omega
    rw [if_pos hin]
    by_cases hkey : isKeyCell b (off + cellSize * k)
    · refine @ensures_of_eq _ _ _ _ _ (.inr true) b ?_ ⟨?_, rfl⟩
      · rw [bind_of_eq (checkCell_run hin), hkey]
        rfl
      · exact (List.any_eq_true.2 ⟨k, List.mem_range.2 hlt, hkey⟩).symm
    · refine @ensures_of_eq _ _ _ _ _ (.inl (cellSize * k + cellSize)) b ?_
        ⟨⟨rfl, k + 1, rfl, hlt, ?_⟩, by omega⟩
      · rw [bind_of_eq (checkCell_run hin), Bool.eq_false_iff.2 hkey]
        rfl
      · intro k' hk'
        rcases Nat.lt_succ_iff_lt_or_eq.1 hk' with hlt | rfl
        · exact hbefore k' hlt
        · exact hkey
  · rw [if_neg hin]
    refine ensures_pure ⟨(List.any_eq_false.2 fun k' hk' => hbefore k' ?_).symm, rfl⟩
    have hin' : ¬off + 188 * k + 188 ≤ b.length := hin
    have hlt : k' < (b.length - off) / 188 := List.mem_range.1 hk'
    omega

/-! ## Stripping -/

variable {b : Bytes} {payloadLen kept : Nat} {cfg : ServerConfig}

theorem clearPaddingBit_run (h : 0 < buf.length) :
    clearPaddingBit buf = some ((), RtpPipeline.clearPaddingBit buf) := by
  rw [clearPaddingBit, bind_of_eq (read_byteAt h)]
  exact if_pos h

/-- The front of a buffer whose padding bit is cleared. -/
theorem take_clearPaddingBit' (h : 0 < len) :
    (RtpPipeline.clearPaddingBit buf).take len = RtpPipeline.clearPaddingBit (buf.take len) := by
  rw [RtpPipeline.clearPaddingBit, RtpPipeline.clearPaddingBit, List.take_set, byteAt_take buf h]

/-- The padding is taken off the length, and the padding bit cleared. -/
theorem stripPadding_ensures (hpos : 0 < off) (hoff : off ≤ buf.length) :
    Ensures (stripPadding off buf.length) buf fun len b =>
      b.length = buf.length ∧ off ≤ len ∧ len ≤ buf.length ∧
        b.take len = RtpPipeline.stripPadding off buf := by
  have hlen : 0 < buf.length := Nat.lt_of_lt_of_le hpos hoff
  have hclear := length_clearPaddingBit buf
  rw [stripPadding, RtpPipeline.stripPadding, ensures_bind (read_byteAt hlen)]
  by_cases hbit : byteAt buf 0 &&& 0x20 = 0
  · rw [if_pos hbit, if_pos hbit]
    exact ensures_pure ⟨rfl, hoff, Nat.le_refl _, List.take_length⟩
  rw [if_neg hbit, if_neg hbit, ensures_bind (minus_eq hlen),
    ensures_bind (read_byteAt (Nat.sub_lt hlen Nat.one_pos)), ensures_bind (minus_eq hoff)]
  dsimp only
  by_cases hpad : 0 < (byteAt buf (buf.length - 1)).toNat ∧
      (byteAt buf (buf.length - 1)).toNat ≤ buf.length - off
  · have hnew : off ≤ buf.length - (byteAt buf (buf.length - 1)).toNat := by omega
    rw [if_pos hpad, if_pos hpad, ensures_bind (minus_eq (by omega)),
      ensures_bind (clearPaddingBit_run hlen)]
    exact ensures_pure ⟨hclear, hnew, Nat.sub_le _ _,
      take_clearPaddingBit' (Nat.lt_of_lt_of_le hpos hnew)⟩
  · rw [if_neg hpad, if_neg hpad, ensures_bind (clearPaddingBit_run hlen)]
    exact ensures_pure ⟨hclear, hoff, Nat.le_refl _, List.take_of_length_le hclear.le⟩

/-- A move inside the front of a buffer is a move in the front. -/
theorem take_move {dst src : Nat} (hdst : dst + cellSize ≤ len) (hsrc : src + cellSize ≤ len)
    (hlen : len ≤ buf.length) :
    (buf.take dst ++ (buf.drop src).take cellSize ++ buf.drop (dst + cellSize)).take len =
      memmove (buf.take len) dst src cellSize := by
  have hfront : ((buf.take dst ++ (buf.drop src).take cellSize)).length = dst + cellSize := by
    rw [List.length_append, List.length_take, List.length_take, List.length_drop]
    omega
  have hcell : ((buf.take len).drop src).take cellSize = (buf.drop src).take cellSize := by
    rw [List.drop_take, List.take_take, Nat.min_eq_left (by omega)]
  rw [memmove, replaceAt, hcell, List.take_take, Nat.min_eq_left (by omega), List.take_append,
    hfront, List.take_of_length_le (hfront.trans_le hdst), List.drop_take]

theorem pid_take (h : ts + 2 < len) : pid (buf.take len) ts = pid buf ts := by
  rw [pid, pid, byteAt_take buf (by omega), byteAt_take buf h]

/-- The loop over the cells does in the front of the buffer what it does in the packet: what the
    loop over the packet still has to do leads to the same end. -/
theorem stripCells_ensures (h : off + payloadLen ≤ b.length) :
    Ensures (stripCells off payloadLen) b fun kept b' => b'.length = b.length ∧ kept ≤ payloadLen ∧
      (b'.take (off + payloadLen), kept) =
        RtpPipeline.stripCells off payloadLen (payloadLen + 1) 0 0 (b.take (off + payloadLen)) := by
  have hword : cellSize = 188 := rfl
  refine @loop_ensures _ _ _ _ _ _ (fun s b' => b'.length = b.length ∧ s.2 ≤ s.1 ∧ s.1 ≤ payloadLen ∧
    ∃ fuel, payloadLen < s.1 + fuel ∧
      RtpPipeline.stripCells off payloadLen fuel s.1 s.2 (b'.take (off + payloadLen)) =
        RtpPipeline.stripCells off payloadLen (payloadLen + 1) 0 0 (b.take (off + payloadLen)))
    (fun s => payloadLen - s.1) ?_ _ _
    ⟨rfl, Nat.le_refl _, Nat.zero_le _, payloadLen + 1, by omega, rfl⟩ (by dsimp only; omega)
  rintro ⟨i, kept⟩ b' ⟨hlen, hkept, hi, fuel, hfuel, hend⟩
  dsimp only at hkept hi hfuel hend ⊢
  obtain ⟨fuel, rfl⟩ : ∃ n, fuel = n + 1 := ⟨fuel - 1, by omega⟩
  rw [RtpPipeline.stripCells] at hend
  by_cases hin : i + cellSize ≤ payloadLen
  swap
  · rw [if_neg hin] at hend ⊢
    exact ensures_pure ⟨hlen, hkept.trans hi, hend⟩
  rw [if_pos hin, pid_take (by omega)] at hend
  rw [if_pos hin, ensures_bind (readPid_run (by omega))]
  by_cases hnull : pid b' (off + i) = 0x1FFF
  · rw [if_pos hnull] at hend ⊢
    exact ensures_pure ⟨⟨hlen, by omega, hin, fuel, by omega, hend⟩, by omega⟩
  rw [if_neg hnull] at hend ⊢
  by_cases hsame : kept = i
  · rw [if_pos hsame] at hend ⊢
    exact ensures_pure ⟨⟨hlen, by omega, hin, fuel, by omega, hend⟩, by omega⟩
  · -- The cell is moved down, inside the front of the buffer.
    rw [if_neg hsame, ensures_bind (move_eq (by omega) (by omega))]
    rw [if_neg hsame, ← take_move (by omega) (by omega) (by omega)] at hend
    refine ensures_pure ⟨⟨?_, by dsimp only; omega, hin, fuel, by dsimp only; omega, hend⟩,
      by dsimp only; omega⟩
    rw [List.length_append, List.length_append, List.length_take, List.length_take,
      List.length_drop, List.length_drop]
    omega

theorem stripNullCells_ensures (hpos : 0 < off) (hoff : off ≤ len) (hlen : len ≤ b.length) :
    Ensures (stripNullCells off len) b fun len' b' => b'.length = b.length ∧ len' ≤ len ∧
      b'.take len' = RtpPipeline.stripNullCells off (b.take len) := by
  have hword : cellSize = 188 := rfl
  have htake : (b.take len).length = len := by
    rw [List.length_take, Nat.min_eq_left hlen]
  rw [stripNullCells, RtpPipeline.stripNullCells, htake, ensures_bind (minus_eq hoff)]
  by_cases hshort : len - off < cellSize
  · have hno : ¬(cellSize ≤ len - off ∧ byteAt (b.take len) off = 0x47) := fun h =>
      Nat.not_le_of_lt hshort h.1
    rw [if_pos hshort, if_neg hno]
    exact ensures_pure ⟨rfl, Nat.le_refl _, rfl⟩
  have hfirst : byteAt (b.take len) off = byteAt b off := byteAt_take b (by omega)
  rw [if_neg hshort, ensures_bind (read_byteAt (by omega)), hfirst]
  by_cases hsync : byteAt b off = 0x47
  swap
  · rw [if_pos hsync, if_neg fun h => hsync h.2]
    exact ensures_pure ⟨rfl, Nat.le_refl _, rfl⟩
  rw [if_neg (not_not_intro hsync), if_pos ⟨Nat.le_of_not_lt hshort, hsync⟩]
  have hwhole : off + (len - off) = len := Nat.add_sub_cancel' hoff
  refine (stripCells_ensures (hwhole.trans_le hlen)).bind ?_
  rintro kept b' ⟨hsize, hkept, hend⟩
  rw [hwhole] at hend
  have hpos' : 0 < b'.length := by omega
  rw [ensures_bind (clearPaddingBit_run hpos'), ← hend]
  dsimp only
  refine ensures_pure ⟨(length_clearPaddingBit b').trans hsize, ?_, ?_⟩
  · split <;> omega
  · by_cases hnone : kept = 0
    · rw [if_pos hnone, if_pos hnone]
      rfl
    · rw [if_neg hnone, if_neg hnone, take_clearPaddingBit' (by omega), List.take_take,
        Nat.min_eq_left (by omega)]

/-- Stripping stays inside the buffer, and leaves at its front what is left of the packet. -/
theorem strip_ensures : Ensures (strip cfg buf.length) buf fun len b =>
    b.length = buf.length ∧ len ≤ buf.length ∧ b.take len = RtpPipeline.strip cfg buf := by
  rw [strip, RtpPipeline.strip, ensures_bind payloadOffset_run]
  rcases hoff : RtpPipeline.payloadOffset buf with _ | off
  · exact ensures_pure ⟨rfl, Nat.le_refl _, List.take_length⟩
  dsimp only
  by_cases hon : cfg.stripPadding
  · have hpos : 0 < off := Nat.lt_of_lt_of_le (by decide) (le_payloadOffset hoff)
    rw [if_pos hon, if_pos hon]
    refine (stripPadding_ensures hpos (payloadOffset_le hoff)).bind ?_
    rintro len b ⟨hsize, hle, hlen, htake⟩
    refine (stripNullCells_ensures hpos hle (hsize ▸ hlen)).weaken ?_
    rintro len' b' ⟨hsize', hlen', htake'⟩
    exact ⟨hsize'.trans hsize, hlen'.trans hlen, htake'.trans (by rw [htake])⟩
  · rw [if_neg hon, if_neg hon]
    exact ensures_pure ⟨rfl, Nat.le_refl _, List.take_length⟩

/-! ## The pipeline -/

/-- What is made of a packet in its buffer: the outcome, and the front of the buffer. -/
def Outcome.processed (o : Outcome) (b : Bytes) : Processed :=
  ⟨o.forward, b.take o.len, o.waitForKeyframe⟩

theorem passGate_run {wait : Bool} : passGate wait buf.length buf =
    some (!(wait && !RtpPipeline.checkKeyframe buf), buf) := by
  rw [passGate]
  rcases wait with _ | _
  · rfl
  · rw [if_pos rfl, checkKeyframe_run, Bool.true_and, Bool.not_not]

/-- The pipeline stays inside its buffer, and makes of the packet what it should. -/
theorem process_ensures {wait : Bool} : Ensures (process cfg wait buf.length) buf fun o b =>
    b.length = buf.length ∧ o.len ≤ buf.length ∧
      o.processed b = RtpPipeline.process cfg wait buf := by
  rw [process, RtpPipeline.process, isRtp]
  by_cases hlen : buf.length < 12
  · rw [if_pos hlen, decide_eq_false (Nat.not_le_of_lt hlen)]
    exact ensures_pure ⟨rfl, Nat.le_refl _, by rw [Outcome.processed, List.take_length]; rfl⟩
  rw [if_neg hlen, decide_eq_true (Nat.le_of_not_lt hlen), Bool.true_and,
    ensures_bind (read_byteAt (by omega))]
  by_cases hrtp : byteAt buf 0 &&& 0xC0 = 0x80
  swap
  · rw [if_pos hrtp, decide_eq_false hrtp]
    exact ensures_pure ⟨rfl, Nat.le_refl _, by rw [Outcome.processed, List.take_length]; rfl⟩
  rw [if_neg (not_not_intro hrtp), decide_eq_true hrtp, ensures_bind passGate_run, Bool.not_true,
    if_neg Bool.false_ne_true]
  rcases hgate : wait && !RtpPipeline.checkKeyframe buf with _ | _
  · rw [if_pos (by rfl), if_neg (by decide)]
    refine strip_ensures.bind ?_
    rintro len b ⟨hsize, hle, htake⟩
    refine ensures_pure ⟨hsize, hle, ?_⟩
    have hlen' : (RtpPipeline.strip cfg buf).length = len := by
      rw [← htake, List.length_take, Nat.min_eq_left (hsize ▸ hle)]
    rw [Outcome.processed, htake]
    dsimp only
    rw [hlen']
  · rw [if_neg (by decide), if_pos (by rfl)]
    refine ensures_pure ⟨rfl, Nat.le_refl _, ?_⟩
    rw [Outcome.processed, List.take_length, (Bool.and_eq_true_iff.1 hgate).1]

/-- Whatever the packet and the settings: none of the functions fails on the buffer of the packet,
    reading leaves it, and no length grows. -/
theorem staysInside (cfg : ServerConfig) (wait : Bool) (buf : Bytes) :
    payloadOffset buf.length buf = some (RtpPipeline.payloadOffset buf, buf) ∧
      checkKeyframe buf.length buf = some (RtpPipeline.checkKeyframe buf, buf) ∧
      (Ensures (strip cfg buf.length) buf fun len b =>
        b.length = buf.length ∧ len ≤ buf.length ∧ b.take len = RtpPipeline.strip cfg buf) ∧
      Ensures (process cfg wait buf.length) buf fun o b =>
        b.length = buf.length ∧ o.len ≤ buf.length ∧
          o.processed b = RtpPipeline.process cfg wait buf :=
  ⟨payloadOffset_run, checkKeyframe_run, strip_ensures, process_ensures⟩

end InBuffer

end RtpPipeline

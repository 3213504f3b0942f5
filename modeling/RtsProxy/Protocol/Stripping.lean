import RtsProxy.Chunks
import RtsProxy.Protocol.RtpPipeline

/-!
# Stripping is a filter

What `strip` leaves of a packet, told without its loop: the payload without the padding is cut
into cells, and those that are not null are put one behind the other. The loop does this inside
the buffer it reads from. Its invariant (`stripCells_spec`): what is kept so far stands behind the
header, and the cells that are still to be read have not been touched.

* `strip_eq`: the packet that is left is that of `stripped`;
* `payloadOffset_stripped`: its payload starts where it did.
-/

open Text Chunks

namespace RtpPipeline

/-- The padding bit of the packet is set. -/
def padded (pkt : Bytes) : Bool := byteAt pkt 0 &&& 0x20 ≠ 0

/-- The count of padding bytes, the last byte of the packet. -/
def paddingCount (pkt : Bytes) : Nat := (byteAt pkt (pkt.length - 1)).toNat

/-- The payload without the padding, where its count is possible. -/
def unpadded (off : Nat) (pkt : Bytes) : Bytes :=
  let payload := pkt.drop off
  if padded pkt ∧ 0 < paddingCount pkt ∧ paddingCount pkt ≤ payload.length then
    payload.take (payload.length - paddingCount pkt)
  else payload

/-- The payload is taken for a transport stream. -/
def isTransportStream (payload : Bytes) : Bool :=
  cellSize ≤ payload.length && byteAt payload 0 = 0x47

/-- A null cell. -/
def isNull (cell : Bytes) : Bool := pid cell 0 = 0x1FFF

/-- The cells of a payload that are not null. -/
def keptCells (payload : Bytes) : List Bytes := (chunks cellSize payload).filter (!isNull ·)

/-- The header that is left: the padding bit is cleared when padding was signalled or cells were
    filtered. -/
def strippedHeader (off : Nat) (pkt : Bytes) : Bytes :=
  if padded pkt ∨ isTransportStream (unpadded off pkt) then clearPaddingBit (pkt.take off)
  else pkt.take off

/-- What is left of a packet: of a transport stream its header and the cells that are not null, or
    nothing when all of them are. -/
def stripped (off : Nat) (pkt : Bytes) : Bytes :=
  let payload := unpadded off pkt
  if isTransportStream payload then
    if keptCells payload = [] then [] else strippedHeader off pkt ++ (keptCells payload).flatten
  else strippedHeader off pkt ++ payload

/-! ## Reading in a part of the packet -/

variable {cfg : ServerConfig} {pkt buf : Bytes} {off i kept payloadLen fuel : Nat}

theorem byteAt_drop (l : Bytes) (s i : Nat) : byteAt (l.drop s) i = byteAt l (s + i) := by
  rw [byteAt, byteAt, List.getD_eq_getElem?_getD, List.getD_eq_getElem?_getD, List.getElem?_drop]

theorem byteAt_take {n : Nat} (l : Bytes) (h : i < n) : byteAt (l.take n) i = byteAt l i := by
  rw [byteAt, byteAt, List.getD_eq_getElem?_getD, List.getD_eq_getElem?_getD,
    List.getElem?_take_of_lt h]

theorem byteAt_append_left {l r : Bytes} (h : i < l.length) : byteAt (l ++ r) i = byteAt l i := by
  rw [byteAt, byteAt, List.getD_eq_getElem?_getD, List.getD_eq_getElem?_getD,
    List.getElem?_append_left h]

/-- Clearing the padding bit changes the first byte only. -/
theorem byteAt_clearPaddingBit (h : i ≠ 0) : byteAt (clearPaddingBit buf) i = byteAt buf i := by
  rw [byteAt, byteAt, clearPaddingBit, List.getD_eq_getElem?_getD, List.getD_eq_getElem?_getD,
    List.getElem?_set_ne (Ne.symm h)]

theorem byteAt_clearPaddingBit_zero (h : 0 < buf.length) :
    byteAt (clearPaddingBit buf) 0 = byteAt buf 0 &&& 0xDF := by
  rw [byteAt, clearPaddingBit, List.getD_eq_getElem?_getD, List.getElem?_set_self h]
  rfl

theorem clearPaddingBit_append {l r : Bytes} (h : 0 < l.length) :
    clearPaddingBit (l ++ r) = clearPaddingBit l ++ r := by
  rw [clearPaddingBit, clearPaddingBit, byteAt_append_left h, List.set_append_left _ _ h]

/-- Clearing twice is clearing once. -/
theorem clearPaddingBit_clearPaddingBit (h : 0 < buf.length) :
    clearPaddingBit (clearPaddingBit buf) = clearPaddingBit buf := by
  have hbyte : byteAt (clearPaddingBit buf) 0 &&& 0xDF = byteAt buf 0 &&& 0xDF := by
    rw [byteAt_clearPaddingBit_zero h, UInt8.and_assoc]
    rfl
  conv_lhs => rw [clearPaddingBit, hbyte]
  rw [clearPaddingBit, List.set_set]

/-- The identifier of a cell is read inside the cell. -/
theorem pid_take_drop (buf : Bytes) (s : Nat) : pid ((buf.drop s).take cellSize) 0 = pid buf s := by
  rw [pid, pid, byteAt_take _ (by decide), byteAt_take _ (by decide), byteAt_drop, byteAt_drop]

/-! ## The loop -/

/-- The next cell is kept or not, and then those behind it. -/
theorem keptCells_of_le {payload : Bytes} (h : cellSize ≤ payload.length) :
    keptCells payload =
      if isNull (payload.take cellSize) then keptCells (payload.drop cellSize)
      else payload.take cellSize :: keptCells (payload.drop cellSize) := by
  rw [keptCells, chunks_of_le (by decide) h, List.filter_cons]
  cases isNull (payload.take cellSize) <;> rfl

/-- The loop puts the cells that are not null behind what it has kept. -/
theorem stripCells_spec (hkept : kept ≤ i) (hi : i ≤ payloadLen) (hfuel : payloadLen < i + fuel)
    (hlen : buf.length = off + payloadLen) :
    (stripCells off payloadLen fuel i kept buf).1.take
        (off + (stripCells off payloadLen fuel i kept buf).2) =
      buf.take (off + kept) ++ (keptCells (buf.drop (off + i))).flatten ∧
    (stripCells off payloadLen fuel i kept buf).2 =
      kept + cellSize * (keptCells (buf.drop (off + i))).length := by
  induction fuel generalizing i kept buf with
  | zero => omega
  | succ fuel ih =>
    have hrest : (buf.drop (off + i)).length = payloadLen - i := by
      rw [List.length_drop, hlen]
      omega
    rw [stripCells]
    by_cases hcell : i + cellSize ≤ payloadLen
    · rw [if_pos hcell, keptCells_of_le (by omega)]
      have hpid : isNull ((buf.drop (off + i)).take cellSize) ↔ pid buf (off + i) = 0x1FFF := by
        rw [isNull, pid_take_drop, decide_eq_true_eq]
      have hfits : off + i + cellSize ≤ buf.length := by omega
      have hword : cellSize = 188 := rfl
      by_cases hnull : pid buf (off + i) = 0x1FFF
      · -- a null cell: nothing is moved
        rw [if_pos hnull, if_pos (hpid.2 hnull), List.drop_drop, Nat.add_assoc]
        exact ih (by omega) hcell (by omega) hlen
      · rw [if_neg hnull, if_neg (mt hpid.1 hnull)]
        extract_lets moved
        -- the cell stands behind what was kept, whether it had to be moved or not
        have hlen' : moved.length = off + payloadLen := by
          simp only [moved]
          split
          · exact hlen
          · exact (length_move (by omega) hfits).trans hlen
        have htake : moved.take (off + (kept + cellSize)) =
            buf.take (off + kept) ++ (buf.drop (off + i)).take cellSize := by
          simp only [moved]
          split
          case isTrue heq => rw [heq, ← Nat.add_assoc, List.take_add]
          case isFalse =>
            rw [← Nat.add_assoc]
            exact take_move (by omega) hfits
        have hdrop : moved.drop (off + (i + cellSize)) = (buf.drop (off + i)).drop cellSize := by
          rw [List.drop_drop, ← Nat.add_assoc]
          simp only [moved]
          split
          · rfl
          · exact drop_move (by omega) hfits
        obtain ⟨hfront, hcount⟩ := @ih moved (i + cellSize) (kept + cellSize)
          (by omega) hcell (by omega) hlen'
        rw [hdrop] at hfront hcount
        refine ⟨?_, ?_⟩
        · rw [hfront, htake, List.flatten_cons, List.append_assoc]
        · rw [hcount, List.length_cons, Nat.mul_succ]
          omega
    · -- what is left is no whole cell
      have hnone : keptCells (buf.drop (off + i)) = [] := by
        rw [keptCells, chunks_of_lt (by omega)]
        rfl
      rw [if_neg hcell, hnone]
      exact ⟨(List.append_nil _).symm, rfl⟩

/-! ## The header -/

/-- The header is at least the fixed part. -/
theorem le_payloadOffset (h : payloadOffset pkt = some off) : 12 ≤ off := by
  simp only [payloadOffset] at h
  split at h
  · split at h
    · split at h
      · cases h
        exact Nat.le_add_right _ _
      · cases h
    · split at h
      · cases h
      · split at h
        · cases h
          omega
        · cases h
  · cases h

theorem drop_clearPaddingBit (h : 0 < off) : (clearPaddingBit buf).drop off = buf.drop off := by
  rw [clearPaddingBit, List.drop_set_of_lt h]

theorem take_clearPaddingBit (h : 0 < off) :
    (clearPaddingBit buf).take off = clearPaddingBit (buf.take off) := by
  rw [clearPaddingBit, clearPaddingBit, List.take_set, byteAt_take _ h]

/-- Without its padding, a packet has the payload without the padding. -/
theorem drop_stripPadding (hpos : 0 < off) (hoff : off ≤ pkt.length) :
    (stripPadding off pkt).drop off = unpadded off pkt := by
  unfold stripPadding unpadded
  extract_lets count payload
  have hlen : payload.length = pkt.length - off := List.length_drop
  by_cases hbit : byteAt pkt 0 &&& 0x20 = 0
  · rw [if_pos hbit, if_neg (by simp [padded, hbit])]
  · have hpad : padded pkt = true := by simpa [padded] using hbit
    rw [if_neg hbit]
    by_cases hcount : 0 < count ∧ count ≤ pkt.length - off
    · rw [if_pos hcount, if_pos ⟨hpad, hcount.1, hlen ▸ hcount.2⟩, drop_clearPaddingBit hpos, hlen]
      -- the padding is behind the header
      rw [show pkt.length - count = off + (pkt.length - off - count) by omega, List.drop_take,
        Nat.add_sub_cancel_left]
      rfl
    · rw [if_neg hcount, if_neg (fun h => hcount ⟨h.2.1, hlen ▸ h.2.2⟩), drop_clearPaddingBit hpos]

/-- Without its padding, a packet has its header, with the padding bit cleared. -/
theorem take_stripPadding (hpos : 0 < off) :
    (stripPadding off pkt).take off =
      if padded pkt then clearPaddingBit (pkt.take off) else pkt.take off := by
  unfold stripPadding
  extract_lets count
  by_cases hbit : byteAt pkt 0 &&& 0x20 = 0
  · rw [if_pos hbit, if_neg (by simp [padded, hbit])]
  · have hpad : padded pkt = true := by simpa [padded] using hbit
    rw [if_neg hbit, if_pos hpad]
    split
    case isTrue hcount =>
      rw [take_clearPaddingBit hpos, List.take_take, Nat.min_eq_left (by omega)]
    case isFalse => exact take_clearPaddingBit hpos

/-- The padding ends behind the header. -/
theorem le_length_stripPadding (hpos : 0 < off) (h : off ≤ pkt.length) :
    off ≤ (stripPadding off pkt).length := by
  have hlen := congrArg List.length (@take_stripPadding pkt off hpos)
  rw [List.length_take] at hlen
  split at hlen
  · rw [length_clearPaddingBit, List.length_take] at hlen
    omega
  · rw [List.length_take] at hlen
    omega

/-- The loop over the whole of a payload: the header stays, and behind it stand the cells that are
    not null. -/
theorem stripCells_payload (h : off ≤ buf.length) :
    (stripCells off (buf.length - off) (buf.length - off + 1) 0 0 buf).1.take
        (off + cellSize * (keptCells (buf.drop off)).length) =
      buf.take off ++ (keptCells (buf.drop off)).flatten ∧
    (stripCells off (buf.length - off) (buf.length - off + 1) 0 0 buf).2 =
      cellSize * (keptCells (buf.drop off)).length := by
  obtain ⟨hfront, hcount⟩ := stripCells_spec (Nat.le_refl 0) (Nat.zero_le _)
    (show buf.length - off < 0 + (buf.length - off + 1) by omega)
    (show buf.length = off + (buf.length - off) by omega)
  rw [Nat.add_zero] at hfront hcount
  rw [Nat.zero_add] at hcount
  rw [hcount] at hfront
  exact ⟨hfront, hcount⟩

/-- What is left of a packet without padding. -/
theorem stripNullCells_eq (hpos : 0 < off) (h : off ≤ buf.length) :
    stripNullCells off buf =
      if isTransportStream (buf.drop off) then
        if keptCells (buf.drop off) = [] then []
        else clearPaddingBit (buf.take off) ++ (keptCells (buf.drop off)).flatten
      else buf := by
  unfold stripNullCells
  extract_lets size
  have hsize : (buf.drop off).length = size := List.length_drop
  obtain ⟨hfront, hcount⟩ := stripCells_payload h
  have hts : (cellSize ≤ size ∧ byteAt buf off = 0x47) ↔ isTransportStream (buf.drop off) := by
    rw [isTransportStream, byteAt_drop, hsize, Bool.and_eq_true, decide_eq_true_eq,
      decide_eq_true_eq, Nat.add_zero]
  by_cases hstream : isTransportStream (buf.drop off)
  · rw [if_pos (hts.2 hstream), if_pos hstream]
    dsimp only
    rw [hcount]
    by_cases hnone : keptCells (buf.drop off) = []
    · rw [if_pos hnone, hnone]
      rfl
    · have hsome : cellSize * (keptCells (buf.drop off)).length ≠ 0 :=
        Nat.mul_ne_zero (by decide) (mt List.length_eq_zero_iff.1 hnone)
      have hheader : 0 < (buf.take off).length := by
        rw [List.length_take]
        omega
      rw [if_neg hsome, if_neg hnone, hfront, clearPaddingBit_append hheader]
  · rw [if_neg (mt hts.1 hstream), if_neg hstream]

/-- What is left of a packet, told without the loop. -/
theorem strip_eq (hon : cfg.stripPadding) (h : payloadOffset pkt = some off) :
    strip cfg pkt = stripped off pkt := by
  have hpos : 0 < off := Nat.lt_of_lt_of_le (by decide) (le_payloadOffset h)
  have hoff := payloadOffset_le h
  have hdrop := drop_stripPadding hpos hoff
  have htake := @take_stripPadding pkt off hpos
  have hheader : 0 < (pkt.take off).length := by
    rw [List.length_take]
    omega
  have hoff' := le_length_stripPadding hpos hoff
  rw [strip, h]
  dsimp only
  rw [if_pos hon, stripNullCells_eq hpos hoff', hdrop, stripped]
  by_cases hstream : isTransportStream (unpadded off pkt)
  · rw [if_pos hstream, if_pos hstream, strippedHeader,
      if_pos (show padded pkt ∨ isTransportStream (unpadded off pkt) from .inr hstream), htake]
    by_cases hpad : padded pkt
    · rw [if_pos hpad, clearPaddingBit_clearPaddingBit hheader]
    · rw [if_neg hpad]
  · rw [if_neg hstream, if_neg hstream, strippedHeader]
    have hsplit := List.take_append_drop off (stripPadding off pkt)
    rw [hdrop, htake] at hsplit
    rw [← hsplit]
    by_cases hpad : padded pkt
    · rw [if_pos hpad, if_pos (.inl hpad)]
    · rw [if_neg hpad, if_neg (not_or.2 ⟨hpad, hstream⟩)]

/-- The payload starts where the header says, whatever the padding bit and the payload are. -/
theorem payloadOffset_congr {out : Bytes} (h : payloadOffset pkt = some off)
    (hlen : off ≤ out.length) (hzero : byteAt out 0 &&& 0xDF = byteAt pkt 0 &&& 0xDF)
    (hbytes : ∀ i, 0 < i → i < off → byteAt out i = byteAt pkt i) :
    payloadOffset out = some off := by
  have hmask : ∀ m : UInt8, 0xDF &&& m = m → byteAt out 0 &&& m = byteAt pkt 0 &&& m := by
    intro m hm
    rw [← hm, ← UInt8.and_assoc, ← UInt8.and_assoc, hzero]
  have hfixed := le_payloadOffset h
  simp only [payloadOffset, isRtp, Bool.and_eq_true, decide_eq_true_eq] at h ⊢
  rw [hmask 0xC0 rfl, hmask 0x10 rfl, hmask 0x0F rfl]
  split at h
  case isFalse => cases h
  case isTrue hrtp =>
    rw [if_pos ⟨hfixed.trans hlen, hrtp.2⟩]
    by_cases hext : byteAt pkt 0 &&& 0x10 = 0
    · rw [if_pos hext] at h ⊢
      split at h
      · cases h
        rw [if_pos hlen]
      · cases h
    · rw [if_neg hext] at h ⊢
      split at h
      · cases h
      · split at h
        · -- the length of the extension is read inside the header
          obtain rfl := Option.some.inj h
          have hword : word16 out (12 + (byteAt pkt 0 &&& 0x0F).toNat * 4 + 2) =
              word16 pkt (12 + (byteAt pkt 0 &&& 0x0F).toNat * 4 + 2) := by
            rw [word16, word16, hbytes _ (by omega) (by omega), hbytes _ (by omega) (by omega)]
          rw [hword, if_neg (by omega), if_pos hlen]
        · cases h

/-- The header that is left is that of the packet, apart from the padding bit. -/
theorem length_strippedHeader (h : off ≤ pkt.length) : (strippedHeader off pkt).length = off := by
  rw [strippedHeader]
  split
  · rw [length_clearPaddingBit, List.length_take, Nat.min_eq_left h]
  · rw [List.length_take, Nat.min_eq_left h]

/-- Behind the header that is left the payload starts where it did. -/
theorem payloadOffset_strippedHeader (h : payloadOffset pkt = some off) (q : Bytes) :
    payloadOffset (strippedHeader off pkt ++ q) = some off := by
  have hpos : 0 < off := Nat.lt_of_lt_of_le (by decide) (le_payloadOffset h)
  have hoff := payloadOffset_le h
  have hlen := length_strippedHeader hoff
  have hheader : 0 < (pkt.take off).length := by
    rw [List.length_take]
    omega
  refine payloadOffset_congr h ?_ ?_ fun i hi hlt => ?_
  · rw [List.length_append, hlen]
    exact Nat.le_add_right _ _
  · rw [byteAt_append_left (hpos.trans_eq hlen.symm), strippedHeader]
    split
    · rw [byteAt_clearPaddingBit_zero hheader, byteAt_take _ hpos, UInt8.and_assoc]
      rfl
    · rw [byteAt_take _ hpos]
  · rw [byteAt_append_left (hlt.trans_eq hlen.symm), strippedHeader]
    split
    · rw [byteAt_clearPaddingBit hi.ne', byteAt_take _ hlt]
    · rw [byteAt_take _ hlt]

/-- What is left of a packet, unless it is nothing, has its payload where it was. -/
theorem payloadOffset_stripped (h : payloadOffset pkt = some off) (hne : stripped off pkt ≠ []) :
    payloadOffset (stripped off pkt) = some off := by
  rw [stripped] at hne ⊢
  split at hne
  case isTrue hstream =>
    rw [if_pos hstream]
    split at hne
    · exact absurd rfl hne
    · rw [if_neg ‹_›]
      exact payloadOffset_strippedHeader h _
  case isFalse hstream =>
    rw [if_neg hstream]
    exact payloadOffset_strippedHeader h _

/-- Stripping is exactly a filter: what is left of a packet is `stripped`, with its payload where
    it was unless nothing is left, and the loop over the cells of a transport stream leaves the
    header as it is and behind it the cells that are not null. -/
theorem strip_filters (hon : cfg.stripPadding) (h : payloadOffset pkt = some off) :
    strip cfg pkt = stripped off pkt ∧
    (strip cfg pkt ≠ [] → payloadOffset (strip cfg pkt) = some off) ∧
    (stripPadding off pkt).drop off = unpadded off pkt ∧
    (stripPadding off pkt).take off =
      (if padded pkt then clearPaddingBit (pkt.take off) else pkt.take off) ∧
    let size := (stripPadding off pkt).length - off
    let left := stripCells off size (size + 1) 0 0 (stripPadding off pkt)
    left.1.take (off + left.2) =
      (stripPadding off pkt).take off ++ (keptCells (unpadded off pkt)).flatten ∧
    left.2 = cellSize * (keptCells (unpadded off pkt)).length := by
  have hpos : 0 < off := Nat.lt_of_lt_of_le (by decide) (le_payloadOffset h)
  have hdrop := drop_stripPadding hpos (payloadOffset_le h)
  have hstrip := strip_eq hon h
  refine ⟨hstrip, fun hne => ?_, hdrop, take_stripPadding hpos, ?_⟩
  · rw [hstrip] at hne ⊢
    exact payloadOffset_stripped h hne
  · extract_lets size left
    obtain ⟨hfront, hcount⟩ := stripCells_payload (le_length_stripPadding hpos (payloadOffset_le h))
    rw [hdrop] at hfront hcount
    exact ⟨hcount ▸ hfront, hcount⟩

/-- A cell with an identifier and a filling. -/
def cell (high low fill : UInt8) : Bytes := [0x47, high, low] ++ List.replicate 185 fill

/-- Of a padded packet with a null cell, the other cell is left, behind a header without the
    padding bit. -/
theorem strip_filters_described :
    strip { stripPadding := true }
        (0xA0 :: List.replicate 11 7 ++ cell 0x1F 0xFF 1 ++ cell 0x01 0x00 2 ++ [0, 2]) =
      0x80 :: List.replicate 11 7 ++ cell 0x01 0x00 2 := by
  have hstrip := (@strip_filters { stripPadding := true }
    (0xA0 :: List.replicate 11 7 ++ cell 0x1F 0xFF 1 ++ cell 0x01 0x00 2 ++ [0, 2]) 12 rfl
    (by decide +kernel)).1
  exact hstrip.trans (by decide +kernel)

end RtpPipeline

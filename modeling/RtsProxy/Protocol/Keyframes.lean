import RtsProxy.Protocol.Stripping

/-!
# Starting at a key frame

With `wait_keyframe`, packets are held back until one is taken for a key frame.

* The gate over a sequence of packets: once it is open, every packet that stripping leaves
  something of is forwarded. But it is opened before the packet is stripped, so a packet that opens
  it can be emptied, and then forwarding starts at whatever comes next (`gateKept_iff`).
* The detection of key frames in H.264: the byte behind a start code is read as a header of H.265
  as well, and so some slices and some headers of elementary streams are taken for parameter sets
  (`checkKeyframe_eq_false_iff`).
* The scan of a cell ends one place too early: a key unit whose header is the last byte of its cell
  is passed over, unless there is something else to start from (`checkKeyframe_iff_of_keyUnit`).
-/

open Text Chunks

namespace RtpPipeline

variable {cfg : ServerConfig} {pkt : Bytes} {pkts : List Bytes} {off : Nat}

/-! ## The gate -/

/-- The results for a sequence of packets, the pipeline at first waiting for a key frame or not. -/
def processAll (cfg : ServerConfig) : Bool → List Bytes → List Processed
  | _, [] => []
  | wait, pkt :: pkts =>
    process cfg wait pkt :: processAll cfg (process cfg wait pkt).waitForKeyframe pkts

/-- The packets that are processed after a `reset`, each with what is made of it. -/
def afterReset (cfg : ServerConfig) (pkts : List Bytes) : List (Bytes × Processed) :=
  pkts.zip (processAll cfg cfg.waitKeyframe pkts)

/-- Stripping leaves something of the packet. -/
def survives (cfg : ServerConfig) (pkt : Bytes) : Bool := isRtp pkt && !(strip cfg pkt).isEmpty

/-- The gate: the first packet that is forwarded is a key frame, and from then on every packet that
    stripping leaves something of is forwarded. -/
structure GateKept (cfg : ServerConfig) (pkts : List Bytes) : Prop where
  starts : ∀ x, (afterReset cfg pkts).find? (·.2.forward) = some x → checkKeyframe x.1
  goesOn : ∀ before x after, afterReset cfg pkts = before ++ x :: after → x.2.forward →
    ∀ y ∈ after, isRtp y.1 → strip cfg y.1 ≠ [] → y.2.forward

theorem isRtp_of_checkKeyframe (h : checkKeyframe pkt) : isRtp pkt := by
  by_contra hrtp
  rw [checkKeyframe, payloadOffset, if_neg hrtp] at h
  cases h

/-- An open gate lets through what stripping leaves. -/
theorem forward_process_false : (process cfg false pkt).forward = survives cfg pkt := by
  rw [process, survives]
  cases isRtp pkt with
  | false => rfl
  | true =>
    show decide (0 < (strip cfg pkt).length) = !(strip cfg pkt).isEmpty
    cases strip cfg pkt <;> rfl

/-- It stays open. -/
theorem waitForKeyframe_process_false : (process cfg false pkt).waitForKeyframe = false := by
  rw [process]
  split
  · rfl
  · rfl

/-- A key frame opens the gate. -/
theorem process_of_checkKeyframe (h : checkKeyframe pkt) :
    process cfg true pkt = process cfg false pkt := by
  rw [process, process, isRtp_of_checkKeyframe h, h]
  rfl

/-- Other packets are held back, and the gate stays closed. -/
theorem process_of_not_checkKeyframe (h : ¬checkKeyframe pkt) :
    process cfg true pkt = ⟨false, pkt, true⟩ := by
  rw [process, Bool.eq_false_iff.2 h]
  cases isRtp pkt <;> rfl

/-- What is made of the packets once the gate is open. -/
theorem zip_processAll_false :
    pkts.zip (processAll cfg false pkts) = pkts.map fun pkt => (pkt, process cfg false pkt) := by
  induction pkts with
  | nil => rfl
  | cons pkt pkts ih =>
    rw [processAll, waitForKeyframe_process_false, List.zip_cons_cons, ih, List.map_cons]

/-- An open gate: the first packet that survives is the first one to be forwarded. -/
theorem find_processAll_false :
    (pkts.zip (processAll cfg false pkts)).find? (·.2.forward) =
      (pkts.find? (survives cfg)).map fun pkt => (pkt, process cfg false pkt) := by
  rw [zip_processAll_false, List.find?_map]
  congr 2
  funext pkt
  exact forward_process_false

/-- A closed gate: nothing is forwarded up to the first key frame, and then it is open. -/
theorem find_processAll_true :
    (pkts.zip (processAll cfg true pkts)).find? (·.2.forward) =
      ((pkts.dropWhile (!checkKeyframe ·)).find? (survives cfg)).map
        fun pkt => (pkt, process cfg false pkt) := by
  induction pkts with
  | nil => rfl
  | cons pkt pkts ih =>
    by_cases hkey : checkKeyframe pkt
    · have hopen : processAll cfg true (pkt :: pkts) = processAll cfg false (pkt :: pkts) := by
        rw [processAll, processAll, process_of_checkKeyframe hkey]
      rw [hopen, find_processAll_false, List.dropWhile_cons_of_neg (by rw [hkey]; decide)]
    · rw [processAll, process_of_not_checkKeyframe hkey, List.zip_cons_cons,
        List.find?_cons_of_neg Bool.false_ne_true,
        List.dropWhile_cons_of_pos (by rw [Bool.eq_false_iff.2 hkey]; rfl)]
      exact ih

/-- What is forwarded has passed the gate. -/
theorem waitForKeyframe_of_forward {wait : Bool} (h : (process cfg wait pkt).forward) :
    (process cfg wait pkt).waitForKeyframe = false := by
  rw [process] at h ⊢
  split at h
  · cases h
  · split at h
    · cases h
    · rw [if_neg ‹_›, if_neg ‹_›]

/-- Behind a packet that is forwarded, the gate is open. -/
theorem open_of_forward {wait : Bool} {before after : List (Bytes × Processed)}
    {x : Bytes × Processed} (h : pkts.zip (processAll cfg wait pkts) = before ++ x :: after)
    (hx : x.2.forward) : ∀ y ∈ after, y.2 = process cfg false y.1 := by
  induction pkts generalizing wait before with
  | nil => exact absurd h.symm (List.append_ne_nil_of_right_ne_nil _ (List.cons_ne_nil _ _))
  | cons pkt pkts ih =>
    rw [processAll, List.zip_cons_cons] at h
    rcases before with - | ⟨b, before⟩
    · obtain ⟨rfl, rfl⟩ := List.cons.inj h
      rw [waitForKeyframe_of_forward hx, zip_processAll_false]
      intro y hy
      obtain ⟨p, -, rfl⟩ := List.mem_map.1 hy
      rfl
    · exact ih (List.cons.inj h).2

/-- The gate is kept exactly when, from the first key frame on, the first packet that stripping
    leaves something of is itself a key frame. -/
theorem gateKept_iff (hwait : cfg.waitKeyframe) :
    GateKept cfg pkts ↔
      ∀ pkt, (pkts.dropWhile (!checkKeyframe ·)).find? (survives cfg) = some pkt →
        checkKeyframe pkt := by
  have hafter : afterReset cfg pkts = pkts.zip (processAll cfg true pkts) := by
    rw [afterReset, hwait]
  constructor
  · intro h pkt hpkt
    refine h.starts (pkt, process cfg false pkt) ?_
    rw [hafter, find_processAll_true, hpkt]
    rfl
  · intro h
    refine ⟨fun x hx => ?_, fun before x after happ hx y hy hrtp hleft => ?_⟩
    · rw [hafter, find_processAll_true] at hx
      obtain ⟨pkt, hpkt, rfl⟩ := Option.map_eq_some_iff.1 hx
      exact h pkt hpkt
    · rw [open_of_forward happ hx y hy, forward_process_false, survives, hrtp]
      simpa using hleft

/-- A packet with one cell, its header and its first bytes as given. -/
def onePacket (first : Bytes) : Bytes :=
  0x80 :: List.replicate 11 0 ++ first ++ List.replicate (cellSize - first.length) 0xFF

/-- A null cell that is marked for random access. -/
def markedNull : Bytes := onePacket [0x47, 0x1F, 0xFF, 0x20, 0xB7, 0x40]

/-- A packet with the start of a unit of H.264, its header as given. -/
def unitPacket (header : UInt8) : Bytes :=
  onePacket [0x47, 0x01, 0x00, 0x10, 0x00, 0x00, 0x01, header]

/-- A slice that is no key frame (of type 1) and no reference. -/
def plainSlice : Bytes := unitPacket 0x01

/-- The gate is kept when the first packet is a key frame that stripping does not empty. -/
theorem gateKept_described :
    GateKept { waitKeyframe := true, stripPadding := true }
      [[0x00], onePacket [0x47, 0x00, 0x00, 0x10], plainSlice] :=
  (gateKept_iff rfl).2 (by decide +kernel)

/-- The null cell opens the gate, and what is forwarded first is the slice. -/
theorem not_gateKept_markedNull :
    ¬GateKept { waitKeyframe := true, stripPadding := true } [markedNull, plainSlice] := by
  intro h
  have hslice := h.starts (plainSlice, ⟨true, plainSlice, false⟩) (by decide +kernel)
  exact absurd hslice (by decide +kernel)

/-! ## Key frames of H.264 -/

/-- The adaptation field control of the cell at an index. -/
def adaptation (buf : Bytes) (ts : Nat) : Nat := ((byteAt buf (ts + 3) &&& 0x30) >>> 4).toNat

/-- The random access indicator of the cell is set, in an adaptation field that is not empty. -/
def hasRandomAccess (buf : Bytes) (ts : Nat) : Bool :=
  2 ≤ adaptation buf ts && 0 < byteAt buf (ts + 4) && byteAt buf (ts + 5) &&& 0x40 ≠ 0

/-- Where the payload of the cell starts, behind its adaptation field. -/
def cellPayload (buf : Bytes) (ts : Nat) : Nat :=
  if adaptation buf ts = 2 ∨ adaptation buf ts = 3 then 5 + (byteAt buf (ts + 4)).toNat else 4

/-- A start code stands at an index. -/
def startCode (buf : Bytes) (i : Nat) : Bool :=
  byteAt buf i = 0 && byteAt buf (i + 1) = 0 && byteAt buf (i + 2) = 1

/-- A header of a unit of H.264 that is no key frame and no parameter set. -/
def isOtherNal (b : UInt8) : Bool := b &&& 0x1F ≠ 5 && b &&& 0x1F ≠ 7 && b &&& 0x1F ≠ 8

/-- The identifier of an elementary stream. -/
def isStreamId (b : UInt8) : Bool := 0xBC ≤ b

/-- A packet with cells of H.264 none of which is one to start from: no program association table,
    no random access, and behind each start code a unit of another type or a stream. -/
structure NoKeyframe (pkt : Bytes) (off : Nat) : Prop where
  offset : payloadOffset pkt = some off
  stream : isTransportStream (pkt.drop off)
  table : ∀ k < (pkt.length - off) / cellSize, pid pkt (off + cellSize * k) ≠ 0
  access : ∀ k < (pkt.length - off) / cellSize, ¬hasRandomAccess pkt (off + cellSize * k)
  units : ∀ k < (pkt.length - off) / cellSize, ∀ j,
    let ts := off + cellSize * k
    let i := ts + cellPayload pkt ts + j
    cellPayload pkt ts + j + 3 < cellSize → startCode pkt i →
      isOtherNal (byteAt pkt (i + 3)) ∨ isStreamId (byteAt pkt (i + 3))

/-- The bytes of other units and of streams that are read as headers of key units: as parameter
    sets or key frames of H.265, or, those of streams, of H.264. -/
def misread : List UInt8 :=
  [0x26, 0x29, 0x40, 0x41, 0x42, 0x43, 0x44, 0xA6, 0xA9,
    0xC0, 0xC1, 0xC2, 0xC3, 0xC4, 0xC5, 0xC7, 0xC8, 0xE5, 0xE7, 0xE8]

/-- The byte behind a start code is read as the header of a key unit. -/
def isKeyHeader (b : UInt8) : Bool :=
  let h264 := (b &&& 0x1F).toNat
  let h265 := ((b >>> 1) &&& 0x3F).toNat
  h264 = 7 || h264 = 8 || h264 = 5 || (32 ≤ h265 && h265 ≤ 34) || h265 = 19 || h265 = 20

theorem isKeyNal_eq (buf : Bytes) (i : Nat) :
    isKeyNal buf i = (startCode buf i && isKeyHeader (byteAt buf (i + 3))) := rfl

/-- Of the headers that are no key units of H.264, exactly these are read as such. -/
theorem isKeyHeader_iff {b : UInt8} (h : isOtherNal b ∨ isStreamId b) :
    isKeyHeader b ↔ b ∈ misread := by
  have hall : ∀ n < 256, isOtherNal (UInt8.ofNat n) ∨ isStreamId (UInt8.ofNat n) →
      (isKeyHeader (UInt8.ofNat n) ↔ UInt8.ofNat n ∈ misread) := by decide +kernel
  have hb := hall b.toNat b.toNat_lt
  rw [UInt8.ofNat_toNat] at hb
  exact hb h

/-- A cell with nothing to start from is passed over exactly when no start code in it is followed
    by one of the bytes that are misread. The last byte of the cell is not looked at. -/
theorem not_isKeyCell_iff {ts : Nat} (htable : pid pkt ts ≠ 0) (haccess : ¬hasRandomAccess pkt ts)
    (hunits : ∀ j, cellPayload pkt ts + j + 3 < cellSize →
      startCode pkt (ts + cellPayload pkt ts + j) →
      isOtherNal (byteAt pkt (ts + cellPayload pkt ts + j + 3)) ∨
        isStreamId (byteAt pkt (ts + cellPayload pkt ts + j + 3))) :
    ¬isKeyCell pkt ts ↔ ∀ j, cellPayload pkt ts + j + 4 < cellSize →
      startCode pkt (ts + cellPayload pkt ts + j) →
        byteAt pkt (ts + cellPayload pkt ts + j + 3) ∉ misread := by
  have hcell : isKeyCell pkt ts = (decide (pid pkt ts = 0) || hasRandomAccess pkt ts ||
      (decide (cellPayload pkt ts < cellSize) &&
        (List.range (cellSize - cellPayload pkt ts - 4)).any fun j =>
          isKeyNal pkt (ts + cellPayload pkt ts + j))) := rfl
  rw [hcell, decide_eq_false htable, Bool.eq_false_iff.2 haccess, Bool.false_or, Bool.false_or,
    Bool.and_eq_true, decide_eq_true_eq, List.any_eq_true]
  constructor
  · intro hnone j hj hcode hmis
    refine hnone ⟨by omega, j, List.mem_range.2 (by omega), ?_⟩
    rw [isKeyNal_eq, hcode, Bool.true_and]
    exact (isKeyHeader_iff (hunits j (by omega) hcode)).2 hmis
  · rintro hall ⟨hlt, j, hj, hkey⟩
    rw [isKeyNal_eq, Bool.and_eq_true] at hkey
    have hj' := List.mem_range.1 hj
    exact hall j (by omega) hkey.1 ((isKeyHeader_iff (hunits j (by omega) hkey.1)).1 hkey.2)

/-- A packet with nothing to start from is held back exactly when no start code in one of its cells
    is followed by one of the bytes that are misread. -/
theorem checkKeyframe_eq_false_iff (h : NoKeyframe pkt off) :
    checkKeyframe pkt = false ↔ ∀ k < (pkt.length - off) / cellSize, ∀ j,
      let ts := off + cellSize * k
      let i := ts + cellPayload pkt ts + j
      cellPayload pkt ts + j + 4 < cellSize → startCode pkt i → byteAt pkt (i + 3) ∉ misread := by
  have hstream := h.stream
  rw [isTransportStream, byteAt_drop, Nat.add_zero, Bool.and_eq_true, decide_eq_true_eq,
    List.length_drop] at hstream
  have hfits : off + cellSize ≤ pkt.length := by
    have hle := payloadOffset_le h.offset
    have hcell : cellSize = 188 := rfl
    omega
  rw [checkKeyframe, h.offset]
  dsimp only
  rw [hstream.2, decide_eq_true hfits, Bool.true_and, Bool.true_and, List.any_eq_false]
  refine forall_congr' fun k => ?_
  rw [List.mem_range]
  exact forall_congr' fun hk => not_isKeyCell_iff (h.table k hk) (h.access k hk) (h.units k hk)

theorem length_onePacket {first : Bytes} (h : first.length ≤ cellSize) :
    (onePacket first).length = 12 + cellSize := by
  rw [onePacket, List.length_append, List.length_append, List.length_replicate]
  show 12 + first.length + (cellSize - first.length) = 12 + cellSize
  omega

/-- The filling of a packet with one cell. -/
theorem byteAt_onePacket {first : Bytes} {i : Nat} (hlow : 12 + first.length ≤ i)
    (hhigh : i < 12 + cellSize) : byteAt (onePacket first) i = 0xFF := by
  have hlen : (0x80 :: List.replicate 11 (0 : UInt8) ++ first).length = 12 + first.length := by
    rw [List.length_append]
    rfl
  rw [byteAt, onePacket, List.getD_eq_getElem?_getD, List.getElem?_append_right (hlen ▸ hlow),
    List.getElem?_replicate, if_pos (by omega)]
  rfl

/-- There is one cell, which starts behind the header. -/
theorem unitPacket_cell {header : UInt8} {k : Nat}
    (h : k < ((unitPacket header).length - 12) / cellSize) : 12 + cellSize * k = 12 := by
  have hlen : (unitPacket header).length = 12 + cellSize := length_onePacket (Nat.le_of_ble_eq_true rfl)
  rw [hlen] at h
  rw [Nat.lt_one_iff.1 h, Nat.mul_zero]

theorem cellPayload_unitPacket (header : UInt8) : cellPayload (unitPacket header) 12 = 4 := by
  rw [cellPayload, adaptation, show byteAt (unitPacket header) (12 + 3) = 0x10 from rfl]
  rfl

/-- The one start code of such a packet is the first thing in its cell. -/
theorem startCode_unitPacket {header : UInt8} {j : Nat} (hj : 4 + j + 3 < cellSize)
    (h : startCode (unitPacket header) (12 + 4 + j)) : j = 0 := by
  have hword : cellSize = 188 := rfl
  match j with
  | 0 => rfl
  | 1 | 2 => cases h
  | 3 =>
    rw [startCode, show byteAt (unitPacket header) (12 + 4 + 3 + 1) = 0xFF from rfl] at h
    simp at h
  | j + 4 =>
    have hfill : byteAt (unitPacket header) (12 + 4 + (j + 4)) = 0xFF :=
      byteAt_onePacket (by simp; omega) (by omega)
    rw [startCode, hfill] at h
    cases h

/-- A slice of type 1, whether or not it is a reference (`nal_ref_idc`), is no key frame. -/
theorem noKeyframe_unitPacket {header : UInt8} (h : header = 0x01 ∨ header = 0x41) :
    NoKeyframe (unitPacket header) 12 := by
  have hoffset : payloadOffset (unitPacket header) = some 12 := by
    rcases h with rfl | rfl <;> decide +kernel
  have hstream : isTransportStream ((unitPacket header).drop 12) := by
    rcases h with rfl | rfl <;> decide +kernel
  refine ⟨hoffset, hstream, fun k hk => ?_, fun k hk => ?_, fun k hk j => ?_⟩
  · rw [unitPacket_cell hk, pid, show byteAt (unitPacket header) (12 + 1) = 0x01 from rfl]
    exact Nat.ne_of_gt (Nat.lt_add_right _ (by decide))
  · rw [unitPacket_cell hk, hasRandomAccess, adaptation,
      show byteAt (unitPacket header) (12 + 3) = 0x10 from rfl]
    exact Bool.false_ne_true
  · simp only [unitPacket_cell hk, cellPayload_unitPacket]
    intro hj hcode
    obtain rfl := startCode_unitPacket hj hcode
    rcases h with rfl | rfl
    · exact .inl rfl
    · exact .inl rfl

/-- The slice that is no reference is passed over. -/
theorem checkKeyframe_eq_false_described : checkKeyframe plainSlice = false := by
  rw [plainSlice]
  refine (checkKeyframe_eq_false_iff (noKeyframe_unitPacket (.inl rfl))).2 fun k hk j => ?_
  simp only [unitPacket_cell hk, cellPayload_unitPacket]
  intro hj hcode
  obtain rfl := startCode_unitPacket (by omega) hcode
  exact (by decide : (0x01 : UInt8) ∉ misread)

/-- The slice that is a reference (`nal_ref_idc` 2) is not: its header is also that of a parameter
    set of H.265. -/
theorem checkKeyframe_misreads :
    ¬∀ pkt off, NoKeyframe pkt off → checkKeyframe pkt = false := by
  intro h
  have hslice := h (unitPacket 0x41) 12 (noKeyframe_unitPacket (.inr rfl))
  exact absurd hslice (by decide +kernel)

/-! ## Units at the end of a cell -/

/-- A key unit of H.264 at a place of the payload of a cell: its start code and its header lie
    inside the cell. -/
structure KeyUnit (pkt : Bytes) (off k j : Nat) : Prop where
  offset : payloadOffset pkt = some off
  stream : byteAt pkt off = 0x47
  cell : k < (pkt.length - off) / cellSize
  inside : cellPayload pkt (off + cellSize * k) + j + 4 ≤ cellSize
  code : startCode pkt (off + cellSize * k + cellPayload pkt (off + cellSize * k) + j)
  header : (byteAt pkt (off + cellSize * k + cellPayload pkt (off + cellSize * k) + j + 3)).toNat % 32 ∈
    [5, 7, 8]

/-- A unit that is read as a key unit stands at a place of a cell, and does not end with it. -/
def UnitBefore (pkt : Bytes) (off k j : Nat) : Prop :=
  cellPayload pkt (off + cellSize * k) + j + 4 < cellSize ∧
    startCode pkt (off + cellSize * k + cellPayload pkt (off + cellSize * k) + j) ∧
    isKeyHeader (byteAt pkt (off + cellSize * k + cellPayload pkt (off + cellSize * k) + j + 3))

/-- Apart from the unit at one place, the packet has something to start from: a cell of the program
    association table, one marked for random access, or another unit, which does not end with its
    cell. -/
def OtherStart (pkt : Bytes) (off k j : Nat) : Prop :=
  ∃ k' < (pkt.length - off) / cellSize, pid pkt (off + cellSize * k') = 0 ∨
    hasRandomAccess pkt (off + cellSize * k') ∨ ∃ j', (k', j') ≠ (k, j) ∧ UnitBefore pkt off k' j'

/-- What makes a cell one to start from. -/
theorem isKeyCell_iff {k : Nat} : isKeyCell pkt (off + cellSize * k) ↔
    pid pkt (off + cellSize * k) = 0 ∨ hasRandomAccess pkt (off + cellSize * k) ∨
      ∃ j, UnitBefore pkt off k j := by
  have hcell : isKeyCell pkt (off + cellSize * k) = (decide (pid pkt (off + cellSize * k) = 0) ||
      hasRandomAccess pkt (off + cellSize * k) ||
      (decide (cellPayload pkt (off + cellSize * k) < cellSize) &&
        (List.range (cellSize - cellPayload pkt (off + cellSize * k) - 4)).any fun j =>
          isKeyNal pkt (off + cellSize * k + cellPayload pkt (off + cellSize * k) + j))) := rfl
  rw [hcell, Bool.or_eq_true, Bool.or_eq_true, Bool.and_eq_true, decide_eq_true_eq,
    decide_eq_true_eq, List.any_eq_true, or_assoc]
  refine or_congr_right (or_congr_right ?_)
  constructor
  · rintro ⟨hlt, j, hj, hkey⟩
    rw [isKeyNal_eq, Bool.and_eq_true] at hkey
    have hj' := List.mem_range.1 hj
    exact ⟨j, by omega, hkey⟩
  · rintro ⟨j, hj, hcode, hhead⟩
    refine ⟨by omega, j, List.mem_range.2 (by omega), ?_⟩
    rw [isKeyNal_eq, hcode, hhead]
    rfl

/-- A packet with cells is one to start from when one of its cells is. -/
theorem checkKeyframe_iff {k : Nat} (hoff : payloadOffset pkt = some off)
    (hstream : byteAt pkt off = 0x47) (hcell : k < (pkt.length - off) / cellSize) :
    checkKeyframe pkt ↔
      ∃ k' < (pkt.length - off) / cellSize, isKeyCell pkt (off + cellSize * k') := by
  have hfits : off + cellSize ≤ pkt.length := by
    have hpos : 0 < (pkt.length - off) / cellSize := Nat.lt_of_le_of_lt (Nat.zero_le k) hcell
    have hone := (Nat.div_pos_iff.1 hpos).2
    have hword : cellSize = 188 := rfl
    omega
  rw [checkKeyframe, hoff]
  dsimp only
  rw [decide_eq_true hfits, decide_eq_true hstream, Bool.true_and, Bool.true_and, List.any_eq_true]
  simp only [List.mem_range]

/-- A key unit of H.264 has a header that is read as such. -/
theorem KeyUnit.isKeyHeader {k j : Nat} (h : KeyUnit pkt off k j) : isKeyHeader
    (byteAt pkt (off + cellSize * k + cellPayload pkt (off + cellSize * k) + j + 3)) := by
  have hall : ∀ n < 256, n % 32 ∈ [5, 7, 8] → RtpPipeline.isKeyHeader (UInt8.ofNat n) := by
    decide +kernel
  have hb := hall _ (UInt8.toNat_lt _) h.header
  rwa [UInt8.ofNat_toNat] at hb

/-- A packet with a key unit is one to start from exactly when the unit does not end with its cell,
    or there is something else to start from. -/
theorem checkKeyframe_iff_of_keyUnit {k j : Nat} (h : KeyUnit pkt off k j) :
    checkKeyframe pkt ↔
      cellPayload pkt (off + cellSize * k) + j + 4 < cellSize ∨ OtherStart pkt off k j := by
  rw [checkKeyframe_iff h.offset h.stream h.cell]
  constructor
  · rintro ⟨k', hk', hkey⟩
    rcases isKeyCell_iff.1 hkey with htable | haccess | ⟨j', hunit⟩
    · exact .inr ⟨k', hk', .inl htable⟩
    · exact .inr ⟨k', hk', .inr (.inl haccess)⟩
    · -- The unit that is found may be the one that is given.
      by_cases heq : (k', j') = (k, j)
      · obtain ⟨rfl, rfl⟩ := Prod.mk.inj heq
        exact .inl hunit.1
      · exact .inr ⟨k', hk', .inr (.inr ⟨j', heq, hunit⟩)⟩
  · rintro (hbefore | ⟨k', hk', hother⟩)
    · exact ⟨k, h.cell, isKeyCell_iff.2 (.inr (.inr ⟨j, hbefore, h.code, h.isKeyHeader⟩))⟩
    · refine ⟨k', hk', isKeyCell_iff.2 ?_⟩
      rcases hother with htable | haccess | ⟨j', -, hunit⟩
      · exact .inl htable
      · exact .inr (.inl haccess)
      · exact .inr (.inr ⟨j', hunit⟩)

/-- A key frame at the start of a cell is found. -/
theorem checkKeyframe_of_keyUnit : checkKeyframe (unitPacket 0x65) := by
  have hunit : KeyUnit (unitPacket 0x65) 12 0 0 :=
    ⟨by decide +kernel, by decide +kernel, by decide +kernel, by decide +kernel,
      by decide +kernel, by decide +kernel⟩
  exact (checkKeyframe_iff_of_keyUnit hunit).2 (.inl (by decide +kernel))

/-- A packet with one cell, which ends with the header of a key frame. -/
def endPacket : Bytes :=
  onePacket ([0x47, 0x01, 0x00, 0x10] ++ List.replicate 180 0xFF ++ [0x00, 0x00, 0x01, 0x65])

/-- It is passed over. -/
theorem checkKeyframe_misses :
    ¬∀ pkt off k j, KeyUnit pkt off k j → checkKeyframe pkt = true := by
  intro h
  have hunit : KeyUnit endPacket 12 0 180 :=
    ⟨by decide +kernel, by decide +kernel, by decide +kernel, by decide +kernel,
      by decide +kernel, by decide +kernel⟩
  exact absurd (h endPacket 12 0 180 hunit) (by decide +kernel)

end RtpPipeline

import RtsProxy.Outbox
import RtsProxy.Text.Basic

/-!
# Send queues

The queue of packets in front of a client socket (`std::deque<Packet>`), together
with its history: the bytes written to the socket, the packets ever pushed and those
dropped. Every operation of the code on such a queue is made of the four below.

The queue is an outbox (`outbox`): pushing, sending and popping are steps of it, and so
is dropping the front when it is a media packet of which nothing has been sent. Hence
queues that drop nothing else keep the stream whole (`Whole.advance`, `Whole.push`,
`Whole.pushBounded`).
-/

/-- What a packet holds: a reply of the upstream, a frame of interleaved media, the head
    of an HTTP response, or media as such. -/
inductive PacketKind
  | response
  | frame
  | header
  | media
  deriving DecidableEq, Repr

/-- Media may be dropped. -/
def PacketKind.droppable : PacketKind → Bool
  | frame | media => true
  | response | header => false

/-- What is pushed into a queue: a block, of which the bytes from `start` on are to be
    sent. -/
structure Item where
  kind : PacketKind
  data : Bytes
  start : Nat := 0
  deriving DecidableEq, Repr

/-- The bytes to be sent. -/
def Item.body (i : Item) : Bytes := i.data.drop i.start

/-- A packet (`Packet`): its length is that of `data`, and `offset` bytes of the block are
    skipped or sent. -/
structure Packet extends Item where
  offset : Nat
  deriving DecidableEq, Repr

/-- The packet of an item. -/
def Item.packet (i : Item) : Packet := ⟨i, i.start⟩

/-- The bytes of a packet that are still to be sent. -/
def Packet.rest (p : Packet) : Bytes := p.data.drop p.offset

/-- The result of `send`: how many bytes it took, or a negative number, and whether `errno`
    says that it would block. -/
structure SendResult where
  count : Int
  wouldBlock : Bool
  deriving DecidableEq, Repr

/-- No more than what was offered is taken. -/
def SendResult.taken (r : SendResult) (offered : Nat) : Nat := min r.count.toNat offered

/-- A queue of packets and its history. -/
structure SendQueue where
  packets : List Packet := []
  written : Bytes := []
  pushed : List Item := []
  dropped : List Packet := []
  deriving DecidableEq, Repr

namespace SendQueue

/-- A packet is pushed at the back. -/
def push (q : SendQueue) (i : Item) : SendQueue :=
  { q with packets := q.packets ++ [i.packet], pushed := q.pushed ++ [i] }

/-- The front packet is dropped. -/
def dropFront (q : SendQueue) : SendQueue :=
  match q.packets with
  | [] => q
  | p :: ps => { q with packets := ps, dropped := q.dropped ++ [p] }

/-- A packet is pushed, and the oldest one dropped if there are more than `limit`. -/
def pushBounded (limit : Nat) (q : SendQueue) (i : Item) : SendQueue :=
  if limit < q.packets.length then q.dropFront.push i else q.push i

/-- The socket takes `n` more bytes of the front packet, which leaves the queue when all of
    it is sent. -/
def advance (q : SendQueue) (n : Nat) : SendQueue :=
  match q.packets with
  | [] => q
  | p :: ps =>
    let sent := { p with offset := p.offset + n }
    { q with
      packets := if sent.offset = p.data.length then ps else sent :: ps
      written := q.written ++ p.rest.take n }

@[simp] theorem pushed_pushBounded (limit : Nat) (q : SendQueue) (i : Item) :
    (q.pushBounded limit i).pushed = q.pushed ++ [i] := by
  unfold pushBounded dropFront
  split
  · split <;> rfl
  · rfl

@[simp] theorem pushed_advance (q : SendQueue) (n : Nat) : (q.advance n).pushed = q.pushed := by
  unfold advance
  split <;> rfl

/-- A bounded push makes the queue longer, if nothing is dropped. -/
theorem length_pushBounded (limit : Nat) (q : SendQueue) (i : Item) :
    (q.pushBounded limit i).packets.length =
      if limit < q.packets.length then q.packets.length else q.packets.length + 1 := by
  rw [pushBounded]
  split
  case isTrue hfull =>
    rw [dropFront]
    rcases hq : q.packets with _ | ⟨p, ps⟩
    · rw [hq] at hfull
      exact absurd hfull (Nat.not_lt_zero limit)
    · simp [push]
  case isFalse => simp [push]

/-- When all of the front packet has been sent, it leaves the queue. -/
theorem length_advance {q : SendQueue} {p : Packet} {ps : List Packet} (hq : q.packets = p :: ps)
    (n : Nat) : (q.advance n).packets.length =
      if p.offset + n = p.data.length then ps.length else ps.length + 1 := by
  rw [advance, hq]
  dsimp only
  split <;> rfl

/-! ## Queues as outboxes -/

/-- The queue as an outbox. -/
def outbox (q : SendQueue) : Outbox Item UInt8 :=
  ⟨q.packets.map fun p => (p.toItem, p.offset - p.start), q.written, q.pushed⟩

/-- The packets are cut within their blocks. -/
def Sound (q : SendQueue) : Prop :=
  ∀ p ∈ q.packets, p.start ≤ p.offset ∧ p.offset ≤ p.data.length

/-- Items that may not be dropped. -/
def keep (i : Item) : Bool := !i.kind.droppable

/-- What is written to the socket is made of whole items, in the order they were pushed,
    only the last one cut short, and only media has been dropped, before any of it was sent. -/
structure Whole (q : SendQueue) : Prop where
  sound : q.Sound
  whole : q.outbox.Whole Item.body keep
  droppedFresh : ∀ p ∈ q.dropped, p.kind.droppable = true ∧ p.offset = p.start

/-- The front of the queue may be dropped: it is media of which nothing has been sent. -/
def FrontFresh (q : SendQueue) : Prop :=
  ∀ p ∈ q.packets.head?, p.kind.droppable = true ∧ p.offset = p.start

instance (q : SendQueue) : Decidable q.FrontFresh :=
  inferInstanceAs (Decidable (∀ p ∈ q.packets.head?, _))

theorem whole_empty : (({} : SendQueue)).Whole :=
  ⟨by simp [Sound], Outbox.whole_empty, by simp⟩

variable {q : SendQueue} {i : Item} {n limit : Nat}

/-- Pushing keeps the stream whole. -/
theorem Whole.push (h : q.Whole) (hi : i.start ≤ i.data.length) : (q.push i).Whole := by
  refine ⟨fun p hp => ?_, ?_, h.droppedFresh⟩
  · rcases List.mem_append.1 hp with hp | hp
    · exact h.sound p hp
    · rw [List.mem_singleton.1 hp]
      exact ⟨Nat.le_refl _, hi⟩
  · have hstep : Outbox.Step Item.body keep q.outbox (q.push i).outbox := by
      have hpush : Outbox.Step Item.body keep q.outbox _ := .push q.outbox i
      simpa [outbox, SendQueue.push, Item.packet] using hpush
    exact hstep.whole h.whole

/-- Dropping keeps the stream whole, if the front is media of which nothing has been sent. -/
theorem Whole.dropFront (h : q.Whole) (hf : q.FrontFresh) : q.dropFront.Whole := by
  obtain ⟨hsound, hwhole, hdropped⟩ := h
  cases hq : q.packets with
  | nil => simpa [SendQueue.dropFront, hq] using Whole.mk hsound hwhole hdropped
  | cons p ps =>
    obtain ⟨hkind, hoff⟩ := hf p (by simp [hq])
    have hdrop : q.dropFront = { q with packets := ps, dropped := q.dropped ++ [p] } := by
      simp [SendQueue.dropFront, hq]
    rw [hdrop]
    refine ⟨fun p' hp' => hsound p' (by simp [hq, hp']), ?_, fun p' hp' => ?_⟩
    · have hbox : q.outbox = ⟨(p.toItem, 0) :: ps.map fun p => (p.toItem, p.offset - p.start),
          q.written, q.pushed⟩ := by
        simp [outbox, hq, hoff]
      rw [hbox] at hwhole
      have hstep : Outbox.Step Item.body keep
          ⟨(p.toItem, 0) :: ps.map fun p => (p.toItem, p.offset - p.start), q.written, q.pushed⟩ _ :=
        .drop q.written q.pushed (by simp [keep, hkind])
      exact hstep.whole hwhole
    · rcases List.mem_append.1 hp' with hp' | hp'
      · exact hdropped p' hp'
      · rw [List.mem_singleton.1 hp']
        exact ⟨hkind, hoff⟩

/-- A bounded push keeps the stream whole, if what it drops may be dropped. -/
theorem Whole.pushBounded (h : q.Whole) (hi : i.start ≤ i.data.length)
    (hf : limit < q.packets.length → q.FrontFresh) : (q.pushBounded limit i).Whole := by
  rw [SendQueue.pushBounded]
  split
  · exact (h.dropFront (hf ‹_›)).push hi
  · exact h.push hi

/-- Sending keeps the stream whole. -/
theorem Whole.advance (h : q.Whole) (hn : ∀ p ∈ q.packets.head?, n ≤ p.rest.length) :
    (q.advance n).Whole := by
  obtain ⟨hsound, hwhole, hdropped⟩ := h
  cases hq : q.packets with
  | nil => simpa [SendQueue.advance, hq] using Whole.mk hsound hwhole hdropped
  | cons p ps =>
    obtain ⟨hstart, hend⟩ := hsound p (by simp [hq])
    have hle : p.offset + n ≤ p.data.length := by
      have := hn p (by simp [hq])
      rw [Packet.rest, List.length_drop] at this
      omega
    have hbox : q.outbox = ⟨(p.toItem, p.offset - p.start) ::
        ps.map fun p => (p.toItem, p.offset - p.start), q.written, q.pushed⟩ := by
      simp [outbox, hq]
    rw [hbox] at hwhole
    have hlen : p.toItem.body.length = p.data.length - p.start := List.length_drop
    have hsend : Outbox.Step Item.body keep
        ⟨(p.toItem, p.offset - p.start) :: ps.map fun p => (p.toItem, p.offset - p.start),
          q.written, q.pushed⟩ _ :=
      .send n q.written q.pushed (by omega)
    have hrest : p.toItem.body.drop (p.offset - p.start) = p.rest := by
      rw [Item.body, List.drop_drop, Packet.rest]
      congr 1
      omega
    rw [hrest] at hsend
    have hsent := hsend.whole hwhole
    have hadv : (q.advance n).outbox = ⟨if p.offset + n = p.data.length then
          ps.map fun p => (p.toItem, p.offset - p.start)
        else (p.toItem, p.offset - p.start + n) :: ps.map fun p => (p.toItem, p.offset - p.start),
        q.written ++ p.rest.take n, q.pushed⟩ := by
      simp only [SendQueue.advance, outbox, hq]
      split
      · rfl
      · have : p.offset + n - p.start = p.offset - p.start + n := by omega
        simp [this]
    refine ⟨fun p' hp' => ?_, ?_, by simpa [SendQueue.advance, hq] using hdropped⟩
    · have hmem : p' = { p with offset := p.offset + n } ∨ p' ∈ ps := by
        simp only [SendQueue.advance, hq] at hp'
        split at hp'
        · exact .inr hp'
        · exact List.mem_cons.1 hp'
      rcases hmem with rfl | hmem
      · exact ⟨by show p.start ≤ p.offset + n; omega, hle⟩
      · exact hsound p' (by simp [hq, hmem])
    · rw [hadv]
      split
      case isTrue hall =>
        have hpop : Outbox.Step Item.body keep
            ⟨(p.toItem, p.offset - p.start + n) :: ps.map fun p => (p.toItem, p.offset - p.start),
              q.written ++ p.rest.take n, q.pushed⟩ _ :=
          .pop (q.written ++ p.rest.take n) q.pushed (by omega)
        exact hpop.whole hsent
      case isFalse => exact hsent

/-- The bytes written are a beginning of whole items, in the order they were pushed; none that
    may not be dropped is missing. -/
theorem Whole.exists_items (h : q.Whole) :
    ∃ items : List Item, items.Sublist q.pushed ∧ items.filter keep = q.pushed.filter keep ∧
      q.written <+: items.flatMap Item.body :=
  h.whole.exists_stream

end SendQueue

import RtsProxy.Core.PortPool
import RtsProxy.Text.Basic
import Mathlib.Data.List.Perm.Basic
import Mathlib.Tactic.Tauto

/-!
# Opening sockets

`socket_helper`: the functions that open sockets, with what their system calls return. Beside
the results stands which descriptors a call has opened and closed.

* `bindPair_opened`: what stays open after `bind_udp_pair_from_pool`;
* `descriptors_clean_iff`: when a call that fails has closed what it opened;
* `bindPair_ports`: which port is left, and what is then in use.
-/

/-- The descriptors that a call has opened, and those it has closed, in order. -/
structure Descriptors where
  opened : List Nat := []
  closed : List Nat := []
  deriving DecidableEq, Repr

namespace Descriptors

/-- A descriptor is opened. -/
def opening (fd : Nat) (k : Descriptors) : Descriptors := { k with opened := fd :: k.opened }

/-- `close`; nothing happens to a number that is none. -/
def closing (fd : Option Nat) (k : Descriptors) : Descriptors :=
  { k with closed := fd.toList ++ k.closed }

/-- Every descriptor that has been opened has been closed, and that once. -/
def AllClosed (k : Descriptors) : Prop := k.opened.Perm k.closed

/-- The number is not that of a descriptor that has been closed. -/
def NotStale (k : Descriptors) (fd : Option Nat) : Prop := ∀ d ∈ fd, d ∉ k.closed

instance (k : Descriptors) : Decidable k.AllClosed :=
  inferInstanceAs (Decidable (k.opened.Perm k.closed))

instance (k : Descriptors) (fd : Option Nat) : Decidable (k.NotStale fd) :=
  inferInstanceAs (Decidable (∀ d ∈ fd, d ∉ k.closed))

end Descriptors

/-- What the system calls that open a socket return: the descriptor, and whether
    `SO_BINDTODEVICE`, `bind`, `listen` and `connect` (which may be in progress) succeed. -/
structure SocketCalls where
  socket : Option Nat := none
  bindToDevice : Bool := true
  bind : Bool := true
  listen : Bool := true
  connect : Bool := true
  deriving DecidableEq, Repr

/-- The calls for the two sockets of a pair. -/
structure PairCalls where
  rtp : SocketCalls := {}
  rtcp : SocketCalls := {}
  deriving DecidableEq, Repr

namespace SocketHelper

/-- `create_listen_socket` -/
def createListenSocket (iface : Bytes) (calls : SocketCalls) (k : Descriptors) :
    Option Nat × Descriptors :=
  match calls.socket with
  | none => (none, k)
  | some fd =>
    let k := k.opening fd
    if iface ≠ [] ∧ !calls.bindToDevice then (none, k.closing (some fd))
    else if !calls.bind then (none, k)
    else if !calls.listen then (none, k)
    else (some fd, k)

/-- `create_nonblocking_tcp`. That there is no socket is not looked at: the calls on it fail. -/
def createNonblockingTcp (iface : Bytes) (calls : SocketCalls) (k : Descriptors) :
    Option Nat × Descriptors :=
  let k := match calls.socket with
    | none => k
    | some fd => k.opening fd
  if iface ≠ [] ∧ (calls.socket = none ∨ !calls.bindToDevice) then
    (none, k.closing calls.socket)
  else if calls.socket = none ∨ !calls.connect then (none, k)
  else (calls.socket, k)

/-- `bind_udp_socket`: whether it succeeds, and what is left in its output parameter. -/
def bindUdpSocket (iface : Bytes) (calls : SocketCalls) (k : Descriptors) :
    Bool × Option Nat × Descriptors :=
  match calls.socket with
  | none => (false, none, k)
  | some fd =>
    let k := k.opening fd
    if iface ≠ [] ∧ !calls.bindToDevice then (false, some fd, k.closing (some fd))
    else if !calls.bind then (false, some fd, k)
    else (true, some fd, k)

/-- What `bind_udp_pair_from_pool` works on: the pool, its output parameters and the
    descriptors. The callers pass numbers of no descriptors (-1). -/
structure PairState where
  pool : PortPool
  rtpFd : Option Nat := none
  rtcpFd : Option Nat := none
  rtpPort : Nat := 0
  descriptors : Descriptors := {}
  deriving DecidableEq

/-- The loop of `bind_udp_pair_from_pool`, with so many pairs to be tried. -/
def bindPairIn (iface : Bytes) (calls : Nat → PairCalls) : Nat → PairState → Bool × PairState
  | 0, s => (false, s)
  | tries + 1, s =>
    let (port, pool) := s.pool.acquirePair
    if port = 0 then (false, { s with pool := pool, rtpPort := port })
    else match bindUdpSocket iface (calls tries).rtp s.descriptors with
      | (false, fd, k) =>
        bindPairIn iface calls tries { s with
          pool := pool.markOccupied port, rtpPort := port, rtpFd := fd, descriptors := k }
      | (true, rtpFd, k) =>
        match bindUdpSocket iface (calls tries).rtcp k with
        | (true, rtcpFd, k) => (true, ⟨pool, rtpFd, rtcpFd, port, k⟩)
        | (false, rtcpFd, k) =>
          -- the first socket is closed again
          bindPairIn iface calls tries
            ⟨pool.markOccupied (PortPool.second port), none, rtcpFd, port, k.closing rtpFd⟩

/-- `bind_udp_pair_from_pool`: ten pairs are tried. -/
def bindUdpPairFromPool (iface : Bytes) (calls : Nat → PairCalls) (pool : PortPool) :
    Bool × PairState :=
  bindPairIn iface calls 10 { pool := pool }

/-- What is left in the session that binds a pair. -/
def pairResult (r : Bool × PairState) : PairResult :=
  if r.1 then .bound r.2.rtpPort else .failed r.2.rtpPort

/-! ## One socket -/

/-- A descriptor is there, but cannot be bound to the device. -/
def OffDevice (iface : Bytes) (calls : SocketCalls) : Prop :=
  calls.socket ≠ none ∧ iface ≠ [] ∧ calls.bindToDevice = false

/-- A descriptor is there, and is on the device. -/
def OnDevice (iface : Bytes) (calls : SocketCalls) : Prop :=
  calls.socket ≠ none ∧ (iface = [] ∨ calls.bindToDevice = true)

/-- The socket is bound. -/
def Binds (iface : Bytes) (calls : SocketCalls) : Prop :=
  OnDevice iface calls ∧ calls.bind = true

instance (iface : Bytes) (calls : SocketCalls) : Decidable (OffDevice iface calls) :=
  inferInstanceAs (Decidable (_ ∧ _))

instance (iface : Bytes) (calls : SocketCalls) : Decidable (OnDevice iface calls) :=
  inferInstanceAs (Decidable (_ ∧ _))

instance (iface : Bytes) (calls : SocketCalls) : Decidable (Binds iface calls) :=
  inferInstanceAs (Decidable (_ ∧ _))

/-- The descriptors that an attempt to bind a socket leaves open when it fails. -/
def leaked (iface : Bytes) (calls : SocketCalls) : List Nat :=
  if OnDevice iface calls ∧ calls.bind = false then calls.socket.toList else []

variable {iface : Bytes} {calls : SocketCalls} {k : Descriptors}

theorem not_offDevice_of_onDevice (h : OnDevice iface calls) : ¬OffDevice iface calls := by
  rintro ⟨-, hiface, hdevice⟩
  rcases h.2 with h | h
  · exact hiface h
  · rw [hdevice] at h
    cases h

theorem leaked_eq_nil_iff : leaked iface calls = [] ↔
    (OnDevice iface calls → calls.bind = true) := by
  unfold leaked
  rcases hsocket : calls.socket with _ | fd
  · simp [OnDevice, hsocket]
  · simp [OnDevice, hsocket]

/-- What `bind_udp_socket` does: it binds the socket, or fails for one of three reasons. -/
theorem bindUdpSocket_cases (iface : Bytes) (calls : SocketCalls) (k : Descriptors) :
    (Binds iface calls ∧ leaked iface calls = [] ∧ ∃ fd, calls.socket = some fd ∧
      bindUdpSocket iface calls k = (true, some fd, k.opening fd)) ∨
    (calls.socket = none ∧ ¬Binds iface calls ∧ ¬OffDevice iface calls ∧ leaked iface calls = [] ∧
      bindUdpSocket iface calls k = (false, none, k)) ∨
    (¬Binds iface calls ∧ OffDevice iface calls ∧ leaked iface calls = [] ∧ ∃ fd,
      bindUdpSocket iface calls k = (false, some fd, (k.opening fd).closing (some fd))) ∨
    (calls.socket ≠ none ∧ ¬Binds iface calls ∧ ¬OffDevice iface calls ∧ ∃ fd,
      leaked iface calls = [fd] ∧
      bindUdpSocket iface calls k = (false, some fd, k.opening fd)) := by
  unfold bindUdpSocket
  rcases hsocket : calls.socket with _ | fd
  · -- there is no socket
    refine .inr (.inl ⟨rfl, ?_, ?_, ?_, rfl⟩)
    · rintro ⟨⟨hne, -⟩, -⟩
      exact hne hsocket
    · rintro ⟨hne, -⟩
      exact hne hsocket
    · simp [leaked, hsocket]
  · have hne : calls.socket ≠ none := by simp [hsocket]
    by_cases hoff : iface ≠ [] ∧ calls.bindToDevice = false
    · have hnot : ¬OnDevice iface calls := by
        intro h
        exact not_offDevice_of_onDevice h ⟨hne, hoff⟩
      refine .inr (.inr (.inl ⟨fun h => hnot h.1, ⟨hne, hoff⟩, ?_, fd, ?_⟩))
      · exact if_neg fun h => hnot h.1
      · simp [hoff]
    · have hon : OnDevice iface calls := by
        refine ⟨hne, ?_⟩
        rw [not_and_or, not_not, Bool.not_eq_false] at hoff
        exact hoff
      rcases hbind : calls.bind with _ | _
      · refine .inr (.inr (.inr ⟨by simp, ?_, not_offDevice_of_onDevice hon, fd, ?_, ?_⟩))
        · rintro ⟨-, h⟩
          rw [hbind] at h
          cases h
        · rw [leaked, if_pos ⟨hon, hbind⟩, hsocket]
          rfl
        · simp [hoff]
      · refine .inl ⟨⟨hon, hbind⟩, leaked_eq_nil_iff.2 fun _ => hbind, fd, rfl, ?_⟩
        simp [hoff]

/-- What a number left in an output parameter says of the try that has left it: it is a closed
    descriptor exactly if that one could not be bound to the device. -/
def Leaves (iface : Bytes) (k : Descriptors) (fd : Option Nat) (calls : SocketCalls) : Prop :=
  (OffDevice iface calls ∧ ∃ d ∈ fd, d ∈ k.closed) ∨ (¬OffDevice iface calls ∧ fd = none)

theorem Leaves.mono {k k' : Descriptors} {fd : Option Nat} {c : SocketCalls}
    (h : Leaves iface k fd c) (hk : k.closed ⊆ k'.closed) : Leaves iface k' fd c := by
  rcases h with ⟨hoff, d, hd, hclosed⟩ | h
  · exact .inl ⟨hoff, d, hd, hk hclosed⟩
  · exact .inr h

theorem Leaves.notStale_iff {k : Descriptors} {fd : Option Nat} {c : SocketCalls}
    (h : Leaves iface k fd c) : k.NotStale fd ↔ ¬OffDevice iface c := by
  rcases h with ⟨hoff, d, hd, hclosed⟩ | ⟨hoff, rfl⟩
  · exact iff_of_false (fun hfresh => hfresh d hd hclosed) (not_not_intro hoff)
  · exact iff_of_true (fun d hd => absurd hd (Option.not_mem_none d)) hoff

theorem bindUdpSocket_of_binds (h : Binds iface calls) (k : Descriptors) :
    leaked iface calls = [] ∧ ∃ fd, bindUdpSocket iface calls k = (true, some fd, k.opening fd) := by
  rcases bindUdpSocket_cases iface calls k with ⟨-, hleaked, fd, -, heq⟩ | ⟨-, hno, -⟩ |
    ⟨hno, -⟩ | ⟨-, hno, -⟩
  · exact ⟨hleaked, fd, heq⟩
  all_goals exact absurd h hno

/-- What a socket that cannot be bound leaves. -/
theorem bindUdpSocket_of_not_binds (h : ¬Binds iface calls) (k : Descriptors) : ∃ fd k',
    bindUdpSocket iface calls k = (false, fd, k') ∧
    (∀ left, k.opened.Perm (left ++ k.closed) →
      k'.opened.Perm (leaked iface calls ++ left ++ k'.closed)) ∧
    k.closed ⊆ k'.closed ∧ (leaked iface calls = [] → Leaves iface k' fd calls) := by
  rcases bindUdpSocket_cases iface calls k with ⟨hbinds, -⟩ | ⟨-, -, hoff, hleaked, heq⟩ |
    ⟨-, hoff, hleaked, fd, heq⟩ | ⟨-, -, hoff, fd, hleaked, heq⟩
  · exact absurd hbinds h
  · refine ⟨none, k, heq, fun left hleft => ?_, fun _ hd => hd, fun _ => .inr ⟨hoff, rfl⟩⟩
    rwa [hleaked]
  · refine ⟨some fd, _, heq, fun left hleft => ?_, fun d hd => List.mem_cons_of_mem _ hd,
      fun _ => .inl ⟨hoff, fd, rfl, List.mem_cons_self⟩⟩
    -- it has been opened and closed
    rw [hleaked]
    exact (hleft.cons fd).trans List.perm_middle.symm
  · refine ⟨some fd, _, heq, fun left hleft => ?_, fun _ hd => hd, fun hnil => ?_⟩
    · rw [hleaked]
      exact hleft.cons fd
    · rw [hleaked] at hnil
      cases hnil

/-! ## A pair -/

section Pair

variable {calls : Nat → PairCalls} {s t : PairState} {tries : Nat} {pool : PortPool}

/-- Both sockets of a pair are bound. -/
def PairBinds (iface : Bytes) (calls : PairCalls) : Prop :=
  Binds iface calls.rtp ∧ Binds iface calls.rtcp

instance (iface : Bytes) (calls : PairCalls) : Decidable (PairBinds iface calls) :=
  inferInstanceAs (Decidable (_ ∧ _))

/-- The descriptors that a try leaves open: the second socket is tried when the first is bound. -/
def pairLeaked (iface : Bytes) (calls : PairCalls) : List Nat :=
  leaked iface calls.rtp ++ if Binds iface calls.rtp then leaked iface calls.rtcp else []

/-- The tries that are made: until a pair is bound, or the pool has none. -/
def triesMade (iface : Bytes) (calls : Nat → PairCalls) : Nat → PortPool → List PairCalls
  | 0, _ => []
  | tries + 1, pool =>
    if pool.acquirePair.1 = 0 then []
    else calls tries :: if PairBinds iface (calls tries) then []
      else triesMade iface calls tries pool.acquirePair.2

/-- The state after a pair has been acquired that could not be bound. -/
theorem markOccupied_of_acquirePair {x : Nat} (h : pool.acquirePair.1 ≠ 0)
    (hx : x = pool.acquirePair.1 ∨ x = PortPool.second pool.acquirePair.1) :
    pool.acquirePair.2.markOccupied x = pool.acquirePair.2 := by
  rcases pool.acquirePair_cases with ⟨hzero, -⟩ | ⟨_, hpair, hport, -, -, hused⟩
  · exact absurd hzero h
  · rw [hport, hpair.second_eq] at hx
    have hmem : x ∈ pool.acquirePair.2.usedPorts := by
      rw [hused]
      rcases hx with rfl | rfl <;> simp
    rw [PortPool.markOccupied, Finset.insert_eq_of_mem hmem]

/-- What a try for a pair that cannot be bound does. -/
structure Tried (iface : Bytes) (c : PairCalls) (s u : PairState) : Prop where
  pool : u.pool = s.pool.acquirePair.2
  rtpPort : u.rtpPort = s.pool.acquirePair.1
  opened : ∀ left, s.descriptors.opened.Perm (left ++ s.descriptors.closed) →
    u.descriptors.opened.Perm (pairLeaked iface c ++ left ++ u.descriptors.closed)
  closed : s.descriptors.closed ⊆ u.descriptors.closed
  rtpFd : pairLeaked iface c = [] → Leaves iface u.descriptors u.rtpFd c.rtp
  rtcpFd : pairLeaked iface c = [] →
    if Binds iface c.rtp then Leaves iface u.descriptors u.rtcpFd c.rtcp else u.rtcpFd = s.rtcpFd

/-- The pool has no pair. -/
theorem bindPairIn_of_zero (hport : s.pool.acquirePair.1 = 0) :
    bindPairIn iface calls (tries + 1) s =
      (false, { s with pool := s.pool.acquirePair.2, rtpPort := 0 }) := by
  have hturn := bindPairIn.eq_2 iface calls s tries
  rcases hacquire : s.pool.acquirePair with ⟨port, pool⟩
  rw [hacquire] at hport hturn
  rw [hturn]
  dsimp only at hport ⊢
  rw [if_pos hport, hport]

/-- A try binds the pair, and opens two descriptors, or the next one is made. -/
theorem bindPairIn_cases (hport : s.pool.acquirePair.1 ≠ 0) :
    (PairBinds iface (calls tries) ∧ pairLeaked iface (calls tries) = [] ∧
      ∃ a b, bindPairIn iface calls (tries + 1) s = (true, ⟨s.pool.acquirePair.2, some a, some b,
        s.pool.acquirePair.1, (s.descriptors.opening a).opening b⟩)) ∨
    (¬PairBinds iface (calls tries) ∧ ∃ u, Tried iface (calls tries) s u ∧
      bindPairIn iface calls (tries + 1) s = bindPairIn iface calls tries u) := by
  have hmark := markOccupied_of_acquirePair (x := PortPool.second s.pool.acquirePair.1) hport (.inr rfl)
  have hmark' := markOccupied_of_acquirePair (x := s.pool.acquirePair.1) hport (.inl rfl)
  have hturn : bindPairIn iface calls (tries + 1) s = _ := bindPairIn.eq_2 iface calls s tries
  rcases hacquire : s.pool.acquirePair with ⟨port, pool⟩
  rw [hacquire] at hport hmark hmark' hturn
  rw [hturn]
  dsimp only
  rw [if_neg hport]
  by_cases hrtp : Binds iface (calls tries).rtp
  · obtain ⟨hleaked, a, ha⟩ := bindUdpSocket_of_binds hrtp s.descriptors
    have hpair : pairLeaked iface (calls tries) = leaked iface (calls tries).rtcp := by
      rw [pairLeaked, hleaked, if_pos hrtp, List.nil_append]
    rw [ha]
    by_cases hrtcp : Binds iface (calls tries).rtcp
    · obtain ⟨hleaked', b, hb⟩ := bindUdpSocket_of_binds hrtcp (s.descriptors.opening a)
      dsimp only
      rw [hb]
      exact .inl ⟨⟨hrtp, hrtcp⟩, hpair.trans hleaked', a, b, rfl⟩
    · obtain ⟨fd, k, hfd, hopened, hclosed, hleaves⟩ :=
        bindUdpSocket_of_not_binds hrtcp (s.descriptors.opening a)
      dsimp only
      rw [hfd]
      refine .inr ⟨fun h => hrtcp h.2, _, ?_, rfl⟩
      refine ⟨hmark.trans (by rw [hacquire]), by rw [hacquire], fun left hleft => ?_, ?_, fun _ => ?_,
        fun hnil => ?_⟩
      · -- the first socket is closed again
        have hmore := hopened (a :: left) (hleft.cons a)
        rw [hpair]
        rw [List.perm_iff_count] at hmore ⊢
        intro d
        have hd := hmore d
        simp only [Descriptors.closing, Option.toList_some, List.cons_append, List.nil_append,
          List.append_assoc, List.count_append, List.count_cons] at hd ⊢
        omega
      · exact fun d hd => List.mem_cons_of_mem _ (hclosed hd)
      · exact .inr ⟨not_offDevice_of_onDevice hrtp.1, rfl⟩
      · rw [if_pos hrtp]
        exact (hleaves (hpair.symm.trans hnil)).mono fun d hd => List.mem_cons_of_mem _ hd
  · obtain ⟨fd, k, hfd, hopened, hclosed, hleaves⟩ := bindUdpSocket_of_not_binds hrtp s.descriptors
    have hpair : pairLeaked iface (calls tries) = leaked iface (calls tries).rtp := by
      rw [pairLeaked, if_neg hrtp, List.append_nil]
    rw [hfd]
    refine .inr ⟨fun h => hrtp h.1, _, ?_, rfl⟩
    refine ⟨hmark'.trans (by rw [hacquire]), by rw [hacquire], fun left hleft => ?_, hclosed,
      fun hnil => ?_, fun _ => ?_⟩
    · rw [hpair]
      exact hopened left hleft
    · exact hleaves (hpair.symm.trans hnil)
    · rw [if_neg hrtp]


/-- What is left in an output parameter by the tries that have set it. -/
def LeftBy (iface : Bytes) (k : Descriptors) (before fd : Option Nat) : Option SocketCalls → Prop
  | none => fd = before
  | some c => Leaves iface k fd c

/-- The calls for the socket tried last, of the first sockets and of the second ones. -/
def lastRtp (made : List PairCalls) : Option SocketCalls := made.getLast?.map PairCalls.rtp

@[inherit_doc lastRtp]
def lastRtcp (iface : Bytes) (made : List PairCalls) : Option SocketCalls :=
  (made.filter fun c => Binds iface c.rtp).getLast?.map PairCalls.rtcp

/-- How the loop over the tries ends. -/
structure Ends (iface : Bytes) (made : List PairCalls) (s : PairState) (r : Bool × PairState) :
    Prop where
  binds : r.1 = true ↔ ∃ c ∈ made, PairBinds iface c
  fds : r.1 = true → ∃ a b, r.2.rtpFd = some a ∧ r.2.rtcpFd = some b
  opened : ∀ left, s.descriptors.opened.Perm (left ++ s.descriptors.closed) →
    r.2.descriptors.opened.Perm ((if r.1 then r.2.rtpFd.toList ++ r.2.rtcpFd.toList else []) ++
      (made.flatMap (pairLeaked iface) ++ left) ++ r.2.descriptors.closed)
  closed : s.descriptors.closed ⊆ r.2.descriptors.closed
  rtpFd : r.1 = false → made.flatMap (pairLeaked iface) = [] →
    LeftBy iface r.2.descriptors s.rtpFd r.2.rtpFd (lastRtp made)
  rtcpFd : r.1 = false → made.flatMap (pairLeaked iface) = [] →
    LeftBy iface r.2.descriptors s.rtcpFd r.2.rtcpFd (lastRtcp iface made)

theorem LeftBy.cons {k k' : Descriptors} {before mid fd : Option Nat} {c : SocketCalls}
    {last : Option SocketCalls} (hlast : LeftBy iface k' mid fd last) (hc : Leaves iface k mid c)
    (hk : k.closed ⊆ k'.closed) : LeftBy iface k' before fd (some (last.getD c)) := by
  rcases last with _ | c'
  · rw [show fd = mid from hlast]
    exact hc.mono hk
  · exact hlast

/-- A try that could not bind its pair, before the others. -/
theorem Ends.cons {c : PairCalls} {made : List PairCalls} {u : PairState} {r : Bool × PairState}
    (hc : ¬PairBinds iface c) (hu : Tried iface c s u) (h : Ends iface made u r) :
    Ends iface (c :: made) s r := by
  refine ⟨?_, h.fds, fun left hleft => ?_, fun d hd => h.closed (hu.closed hd), ?_, ?_⟩
  · rw [h.binds, List.exists_mem_cons_iff]
    exact ⟨.inr, fun hor => hor.resolve_left hc⟩
  · have hmore := h.opened _ (hu.opened left hleft)
    rw [List.perm_iff_count] at hmore ⊢
    intro d
    have hd := hmore d
    simp only [List.flatMap_cons, List.count_append] at hd ⊢
    omega
  · intro hr hnil
    rw [List.flatMap_cons, List.append_eq_nil_iff] at hnil
    have hlast := h.rtpFd hr hnil.2
    rw [lastRtp, List.getLast?_cons, Option.map_some, ← Option.getD_map PairCalls.rtp]
    exact hlast.cons (hu.rtpFd hnil.1) h.closed
  · intro hr hnil
    rw [List.flatMap_cons, List.append_eq_nil_iff] at hnil
    have hlast := h.rtcpFd hr hnil.2
    have hset := hu.rtcpFd hnil.1
    rw [lastRtcp, List.filter_cons]
    by_cases hrtp : Binds iface c.rtp
    · rw [if_pos hrtp] at hset
      rw [if_pos (decide_eq_true hrtp), List.getLast?_cons, Option.map_some,
        ← Option.getD_map PairCalls.rtcp]
      exact hlast.cons hset h.closed
    · rw [if_neg hrtp] at hset
      rw [if_neg (by simpa using hrtp)]
      rwa [hset] at hlast

/-- The loop over the tries, by induction on them. -/
theorem ends_bindPairIn (tries : Nat) (s : PairState) :
    Ends iface (triesMade iface calls tries s.pool) s (bindPairIn iface calls tries s) := by
  induction tries generalizing s with
  | zero =>
    refine ⟨by simp [bindPairIn, triesMade], fun h => absurd h Bool.false_ne_true, fun left hleft => hleft,
      fun _ hd => hd, fun _ _ => rfl, fun _ _ => rfl⟩
  | succ tries ih =>
    rw [triesMade]
    by_cases hport : s.pool.acquirePair.1 = 0
    · rw [if_pos hport, bindPairIn_of_zero hport]
      exact ⟨by simp, fun h => absurd h Bool.false_ne_true, fun left hleft => hleft, fun _ hd => hd,
        fun _ _ => rfl, fun _ _ => rfl⟩
    · rw [if_neg hport]
      rcases @bindPairIn_cases iface calls s tries hport with
        ⟨hbinds, hleaked, a, b, hturn⟩ | ⟨hbinds, u, hu, hturn⟩
      · rw [if_pos hbinds, hturn]
        refine ⟨by simpa using hbinds, fun _ => ⟨a, b, rfl, rfl⟩, fun left hleft => ?_,
          fun _ hd => hd, fun h => absurd h.symm Bool.false_ne_true, fun h => absurd h.symm Bool.false_ne_true⟩
        rw [List.flatMap_singleton, hleaked]
        exact ((hleft.cons a).cons b).trans (List.Perm.swap a b _)
      · rw [if_neg hbinds, hturn, ← hu.pool]
        exact (ih u).cons hbinds hu

end Pair

/-! ## What a call leaves open -/

/-- A call that returns no descriptor has closed those it has opened. -/
def CreateClean (r : Option Nat × Descriptors) : Prop := r.1 = none → r.2.AllClosed

/-- When the call fails, it has closed the descriptors it has opened, and none of them is left in
    its output parameter. -/
def BindClean (r : Bool × Option Nat × Descriptors) : Prop :=
  r.1 = false → r.2.2.AllClosed ∧ r.2.2.NotStale r.2.1

/-- When the call succeeds, of the descriptors it has opened the two it returns are open; when it
    fails, none is, nor left in an output parameter. -/
def PairClean (r : Bool × PairState) : Prop :=
  if r.1 then r.2.rtpFd ≠ none ∧ r.2.rtcpFd ≠ none ∧
    r.2.descriptors.opened.Perm (r.2.rtpFd.toList ++ r.2.rtcpFd.toList ++ r.2.descriptors.closed)
  else r.2.descriptors.AllClosed ∧ r.2.descriptors.NotStale r.2.rtpFd ∧
    r.2.descriptors.NotStale r.2.rtcpFd

instance (r : Option Nat × Descriptors) : Decidable (CreateClean r) :=
  inferInstanceAs (Decidable (_ → _))

instance (r : Bool × Option Nat × Descriptors) : Decidable (BindClean r) :=
  inferInstanceAs (Decidable (_ → _))

instance (r : Bool × PairState) : Decidable (PairClean r) := by
  unfold PairClean
  infer_instance

theorem createListenSocket_clean_iff : CreateClean (createListenSocket iface calls {}) ↔
    (OnDevice iface calls → calls.bind = true ∧ calls.listen = true) := by
  unfold createListenSocket
  rcases hsocket : calls.socket with _ | fd
  · simp [CreateClean, Descriptors.AllClosed, OnDevice, hsocket]
  · by_cases hoff : iface ≠ [] ∧ calls.bindToDevice = false
    · -- the descriptor is closed
      have hnot : ¬OnDevice iface calls := by
        intro h
        exact not_offDevice_of_onDevice h ⟨by simp [hsocket], hoff⟩
      simp [CreateClean, Descriptors.AllClosed, Descriptors.opening, Descriptors.closing, hoff, hnot]
    · have hon : OnDevice iface calls := by
        rw [not_and_or, not_not, Bool.not_eq_false] at hoff
        exact ⟨by simp [hsocket], hoff⟩
      rcases calls.bind with _ | _ <;> rcases calls.listen with _ | _ <;>
        simp [CreateClean, Descriptors.AllClosed, Descriptors.opening, hoff, hon]

theorem createNonblockingTcp_clean_iff : CreateClean (createNonblockingTcp iface calls {}) ↔
    (OnDevice iface calls → calls.connect = true) := by
  unfold createNonblockingTcp
  rcases hsocket : calls.socket with _ | fd
  · by_cases hiface : iface = []
    all_goals
      simp [CreateClean, Descriptors.AllClosed, Descriptors.closing, OnDevice, hsocket, hiface]
  · by_cases hoff : iface ≠ [] ∧ calls.bindToDevice = false
    · have hnot : ¬OnDevice iface calls := by
        intro h
        exact not_offDevice_of_onDevice h ⟨by simp [hsocket], hoff⟩
      simp [CreateClean, Descriptors.AllClosed, Descriptors.opening, Descriptors.closing, hoff, hnot]
    · have hon : OnDevice iface calls := by
        rw [not_and_or, not_not, Bool.not_eq_false] at hoff
        exact ⟨by simp [hsocket], hoff⟩
      rcases calls.connect with _ | _ <;>
        simp [CreateClean, Descriptors.AllClosed, Descriptors.opening, hoff, hon]

theorem bindUdpSocket_clean_iff : BindClean (bindUdpSocket iface calls {}) ↔
    (calls.socket ≠ none → Binds iface calls) := by
  rcases bindUdpSocket_cases iface calls {} with ⟨hbinds, -, fd, -, heq⟩ |
    ⟨hsocket, -, -, -, heq⟩ | ⟨hbinds, hoff, -, fd, heq⟩ | ⟨hsocket, hbinds, -, fd, -, heq⟩
  all_goals rw [heq]
  · exact iff_of_true (fun h => absurd h.symm Bool.false_ne_true) fun _ => hbinds
  · exact iff_of_true (fun _ => ⟨.refl _, fun d hd => absurd hd (Option.not_mem_none d)⟩)
      fun h => absurd hsocket h
  · -- the number of the closed descriptor is left
    exact iff_of_false (fun h => (h rfl).2 fd rfl List.mem_cons_self) fun h => hbinds (h hoff.1)
  · exact iff_of_false (fun h => List.not_perm_cons_nil (h rfl).1) fun h => hbinds (h hsocket)

/-- A try for a pair leaves nothing open: a socket that is on the device is bound. -/
def BindsWhatItOpens (iface : Bytes) (c : PairCalls) : Prop :=
  (OnDevice iface c.rtp → c.rtp.bind = true) ∧
    (Binds iface c.rtp → OnDevice iface c.rtcp → c.rtcp.bind = true)

theorem pairLeaked_eq_nil_iff {c : PairCalls} :
    pairLeaked iface c = [] ↔ BindsWhatItOpens iface c := by
  rw [pairLeaked, List.append_eq_nil_iff, leaked_eq_nil_iff, BindsWhatItOpens]
  refine and_congr_right fun _ => ?_
  by_cases hrtp : Binds iface c.rtp
  · rw [if_pos hrtp, leaked_eq_nil_iff]
    exact ⟨fun h _ => h, fun h => h hrtp⟩
  · rw [if_neg hrtp]
    exact iff_of_true rfl fun h => absurd h hrtp

theorem LeftBy.notStale_iff {k : Descriptors} {fd : Option Nat} {last : Option SocketCalls}
    (h : LeftBy iface k none fd last) : k.NotStale fd ↔ ∀ c ∈ last, ¬OffDevice iface c := by
  rcases last with _ | c
  · rw [show fd = none from h]
    exact iff_of_true (fun d hd => absurd hd (Option.not_mem_none d)) fun c hc =>
      absurd hc (Option.not_mem_none c)
  · rw [Leaves.notStale_iff h]
    simp

/-- A pair is bound, or given up, without leaks exactly if no try leaves a descriptor that cannot
    be bound open, and what is left at the end is not the number of one that was closed for the
    device. -/
theorem bindUdpPairFromPool_clean_iff (iface : Bytes) (pairs : Nat → PairCalls)
    (pool : PortPool) : PairClean (bindUdpPairFromPool iface pairs pool) ↔
    (∀ c ∈ triesMade iface pairs 10 pool, BindsWhatItOpens iface c) ∧
      ((∃ c ∈ triesMade iface pairs 10 pool, PairBinds iface c) ∨
        (∀ c ∈ lastRtp (triesMade iface pairs 10 pool), ¬OffDevice iface c) ∧
        ∀ c ∈ lastRtcp iface (triesMade iface pairs 10 pool), ¬OffDevice iface c) := by
  have hends := @ends_bindPairIn iface pairs 10 { pool := pool }
  have hopened := hends.opened [] (.refl _)
  rw [List.append_nil] at hopened
  have hleaks : (∀ c ∈ triesMade iface pairs 10 pool, BindsWhatItOpens iface c) ↔
      (triesMade iface pairs 10 pool).flatMap (pairLeaked iface) = [] := by
    rw [List.flatMap_eq_nil_iff]
    exact forall₂_congr fun c _ => pairLeaked_eq_nil_iff.symm
  rw [hleaks, ← hends.binds]
  unfold PairClean bindUdpPairFromPool
  generalize bindPairIn iface pairs 10 { pool := pool } = r at hends hopened ⊢
  rcases hok : r.1 with _ | _
  · -- it has failed: what has been opened is what leaks and what has been closed
    rw [hok] at hopened
    have hall : r.2.descriptors.AllClosed ↔
        (triesMade iface pairs 10 pool).flatMap (pairLeaked iface) = [] := by
      constructor
      · intro hclosed
        have hlen := (hopened.symm.trans hclosed).length_eq
        simp only [Bool.false_eq_true, if_false, List.nil_append, List.length_append] at hlen
        exact List.length_eq_zero_iff.1 (by omega)
      · intro hnil
        rw [hnil] at hopened
        exact hopened
    rw [if_neg Bool.false_ne_true, hall]
    refine and_congr_right fun hnil => ?_
    rw [(hends.rtpFd hok hnil).notStale_iff, (hends.rtcpFd hok hnil).notStale_iff]
    simp
  · rw [hok] at hopened
    obtain ⟨a, b, ha, hb⟩ := hends.fds hok
    rw [if_pos rfl] at hopened ⊢
    refine ⟨fun h => ⟨?_, .inl rfl⟩, fun h => ⟨by simp [ha], by simp [hb], ?_⟩⟩
    · have hlen := (hopened.symm.trans h.2.2).length_eq
      simp only [List.length_append] at hlen
      exact List.length_eq_zero_iff.1 (by omega)
    · rw [h.1, List.append_nil] at hopened
      exact hopened

/-- What each of the calls that open sockets leaves open, whatever the system calls return. -/
theorem descriptors_clean_iff (iface : Bytes) (calls : SocketCalls) (pairs : Nat → PairCalls)
    (pool : PortPool) :
    (CreateClean (createListenSocket iface calls {}) ↔
      (OnDevice iface calls → calls.bind = true ∧ calls.listen = true)) ∧
    (CreateClean (createNonblockingTcp iface calls {}) ↔
      (OnDevice iface calls → calls.connect = true)) ∧
    (BindClean (bindUdpSocket iface calls {}) ↔ (calls.socket ≠ none → Binds iface calls)) ∧
    (PairClean (bindUdpPairFromPool iface pairs pool) ↔
      (∀ c ∈ triesMade iface pairs 10 pool, BindsWhatItOpens iface c) ∧
        ((∃ c ∈ triesMade iface pairs 10 pool, PairBinds iface c) ∨
          (∀ c ∈ lastRtp (triesMade iface pairs 10 pool), ¬OffDevice iface c) ∧
          ∀ c ∈ lastRtcp iface (triesMade iface pairs 10 pool), ¬OffDevice iface c)) :=
  ⟨createListenSocket_clean_iff, createNonblockingTcp_clean_iff, bindUdpSocket_clean_iff,
    bindUdpPairFromPool_clean_iff iface pairs pool⟩

/-- The second port of a pair is taken, and the next pair is bound: the socket stays open. -/
theorem not_descriptors_clean : ¬∀ iface calls pairs pool,
    CreateClean (createListenSocket iface calls {}) ∧
    CreateClean (createNonblockingTcp iface calls {}) ∧
    BindClean (bindUdpSocket iface calls {}) ∧
    PairClean (bindUdpPairFromPool iface pairs pool) := by
  intro h
  have hpairs := (h [] {} (fun tries =>
    if tries = 9 then ⟨{ socket := some 5 }, { socket := some 6, bind := false }⟩
    else ⟨{ socket := some 5 }, { socket := some 7 }⟩) {}).2.2.2
  revert hpairs
  decide +kernel

/-! ## Which port is left -/

/-- A port that has been reserved since the pool was another: none, or a pair that was free and is
    in use. -/
structure Reserved (before pool : PortPool) (port : Nat) : Prop where
  subset : before.usedPorts ⊆ pool.usedPorts
  fresh : port ≠ 0 → PortPool.IsPair port ∧ port ∉ before.usedPorts ∧ port + 1 ∉ before.usedPorts ∧
    port ∈ pool.usedPorts ∧ port + 1 ∈ pool.usedPorts

/-- The next pair is acquired: it is free, also of what was in use before. -/
theorem Reserved.acquirePair {before pool : PortPool} {port : Nat} (h : Reserved before pool port) :
    Reserved before pool.acquirePair.2 pool.acquirePair.1 := by
  rcases pool.acquirePair_cases with ⟨hzero, hused⟩ | ⟨next, hpair, hnext, hfree, hfree', hused⟩
  · refine ⟨?_, fun hne => absurd hzero hne⟩
    rw [hused]
    exact h.subset
  · rw [hnext]
    refine ⟨fun x hx => ?_, fun _ => ⟨hpair, fun hx => hfree (h.subset hx),
      fun hx => hfree' (h.subset hx), ?_, ?_⟩⟩
    · rw [hused]
      exact Finset.mem_insert_of_mem (Finset.mem_insert_of_mem (h.subset hx))
    all_goals simp [hused]

/-- What is left by the tries is reserved, by induction on them. -/
theorem reserved_bindPairIn {before : PortPool} {pairs : Nat → PairCalls} {tries : Nat}
    {s : PairState} (h : Reserved before s.pool s.rtpPort) :
    Reserved before (bindPairIn iface pairs tries s).2.pool
        (bindPairIn iface pairs tries s).2.rtpPort ∧
      ((bindPairIn iface pairs tries s).1 = true → (bindPairIn iface pairs tries s).2.rtpPort ≠ 0) := by
  induction tries generalizing s with
  | zero => exact ⟨h, fun hok => absurd hok Bool.false_ne_true⟩
  | succ tries ih =>
    by_cases hport : s.pool.acquirePair.1 = 0
    · rw [bindPairIn_of_zero hport]
      refine ⟨?_, fun hok => absurd hok Bool.false_ne_true⟩
      have hnext := h.acquirePair
      rwa [hport] at hnext
    · rcases @bindPairIn_cases iface pairs s tries hport with
        ⟨-, -, a, b, hturn⟩ | ⟨-, u, hu, hturn⟩
      · rw [hturn]
        exact ⟨h.acquirePair, fun _ => hport⟩
      · rw [hturn]
        refine ih ?_
        rw [hu.pool, hu.rtpPort]
        exact h.acquirePair

/-- The port that is left in a session has been reserved, whether the pair could be bound or not;
    if it could, there is one. -/
theorem bindPair_ports (iface : Bytes) (pairs : Nat → PairCalls) (pool : PortPool) :
    Reserved pool (bindUdpPairFromPool iface pairs pool).2.pool
        (bindUdpPairFromPool iface pairs pool).2.rtpPort ∧
      ((bindUdpPairFromPool iface pairs pool).1 = true →
        (bindUdpPairFromPool iface pairs pool).2.rtpPort ≠ 0) :=
  reserved_bindPairIn ⟨fun _ hx => hx, fun h => absurd rfl h⟩

end SocketHelper

import Mathlib.Data.Finset.Basic

/-!
# The port pool

`PortPool` hands out pairs of UDP ports, an even one and the next, out of a range. A pair
handed out is in use until it is released.

* `acquirePair_cases`: a pair that is acquired was free, and is in use afterwards;
* `mem_used_release`: what a release takes out of use;
* `acquireIn_eq_zero`: a search finds nothing when none of the pairs it looks at is free,
  and from any start it looks at each pair (`exists_pairAt`);
* `acquirePair_of_history`: whatever was called before, `acquire_pair` finds a pair exactly
  when there is one.
-/

/-- What is left in a session where a pair of sockets was to be bound: whether it was, and
    the port, which is also left when it was not. -/
inductive PairResult
  | failed (port : Nat)
  | bound (port : Nat)
  deriving DecidableEq, Repr

namespace PairResult

/-- The pair has been bound. -/
def isBound : PairResult → Bool
  | failed _ => false
  | bound _ => true

@[simp] theorem isBound_failed (port : Nat) : (failed port).isBound = false := rfl

@[simp] theorem isBound_bound (port : Nat) : (bound port).isBound = true := rfl

/-- The port that is left in the session. -/
def port : PairResult → Nat
  | failed port => port
  | bound port => port

end PairResult

namespace PortPool

/-- The first port of the range (`start_port_`), and the one behind the last (`end_port_`). -/
def startPort : Nat := 20000

@[inherit_doc startPort]
def endPort : Nat := 40000

end PortPool

/-- The pool: the ports in use, and the port at which the next search starts. -/
structure PortPool where
  usedPorts : Finset Nat := ∅
  nextPort : Nat := PortPool.startPort
  start_le : PortPool.startPort ≤ nextPort := by decide
  lt_end : nextPort < PortPool.endPort := by decide
  deriving DecidableEq

namespace PortPool

/-- The second port of a pair, of 16 bits. -/
def second (port : Nat) : Nat := (port + 1) % 65536

/-- The even port that a turn of the search looks at. -/
def candidate (p : PortPool) : Nat :=
  let port := if p.nextPort % 2 ≠ 0 then p.nextPort + 1 else p.nextPort
  if endPort ≤ port then startPort else port

/-- Where the search goes on behind a port. -/
def following (port : Nat) : Nat := if endPort ≤ port + 2 then startPort else port + 2

theorem candidate_bounds (p : PortPool) :
    startPort ≤ p.candidate ∧ p.candidate < endPort ∧ p.candidate % 2 = 0 := by
  have hstart := p.start_le
  have hend := p.lt_end
  unfold candidate
  unfold startPort endPort at *
  dsimp only
  split <;> split <;> omega

theorem following_bounds {port : Nat} (h : startPort ≤ port) :
    startPort ≤ following port ∧ following port < endPort := by
  unfold following
  unfold startPort endPort at *
  split <;> omega

/-- The search goes on behind the port it looks at. -/
def advance (p : PortPool) : PortPool :=
  { usedPorts := p.usedPorts
    nextPort := following p.candidate
    start_le := (following_bounds p.candidate_bounds.1).1
    lt_end := (following_bounds p.candidate_bounds.1).2 }

/-- The search for a pair, in at most so many turns; 0: none has been found. -/
def acquireIn : Nat → PortPool → Nat × PortPool
  | 0, p => (0, p)
  | turns + 1, p =>
    let port := p.candidate
    let p := p.advance
    if port ∉ p.usedPorts ∧ second port ∉ p.usedPorts then
      (port, { p with usedPorts := insert (second port) (insert port p.usedPorts) })
    else acquireIn turns p

/-- `acquire_pair` -/
def acquirePair (p : PortPool) : Nat × PortPool := acquireIn ((endPort - startPort) / 2) p

/-- `release_pair` -/
def releasePair (port : Nat) (p : PortPool) : PortPool :=
  if port = 0 then p else { p with usedPorts := (p.usedPorts.erase port).erase (second port) }

/-- `mark_occupied` -/
def markOccupied (port : Nat) (p : PortPool) : PortPool :=
  { p with usedPorts := insert port p.usedPorts }

variable {p : PortPool} {port x : Nat}

@[simp] theorem usedPorts_advance : p.advance.usedPorts = p.usedPorts := rfl

/-- A pair of the range. -/
structure IsPair (port : Nat) : Prop where
  start_le : startPort ≤ port
  lt_end : port < endPort
  even : port % 2 = 0

theorem IsPair.ne_zero (h : IsPair port) : port ≠ 0 := by
  rintro rfl
  exact absurd h.start_le (by decide)

theorem IsPair.second_eq (h : IsPair port) : second port = port + 1 := by
  have hend := h.lt_end
  unfold endPort at hend
  exact Nat.mod_eq_of_lt (by omega)

/-- What a search finds: nothing, or a pair that was free. -/
theorem acquireIn_cases (turns : Nat) (p : PortPool) :
    ((acquireIn turns p).1 = 0 ∧ (acquireIn turns p).2.usedPorts = p.usedPorts) ∨
      ∃ port, IsPair port ∧ (acquireIn turns p).1 = port ∧
        port ∉ p.usedPorts ∧ port + 1 ∉ p.usedPorts ∧
        (acquireIn turns p).2.usedPorts = insert (port + 1) (insert port p.usedPorts) := by
  induction turns generalizing p with
  | zero => exact .inl ⟨rfl, rfl⟩
  | succ turns ih =>
    have hpair : IsPair p.candidate :=
      ⟨p.candidate_bounds.1, p.candidate_bounds.2.1, p.candidate_bounds.2.2⟩
    rw [acquireIn]
    by_cases hfree : p.candidate ∉ p.usedPorts ∧ second p.candidate ∉ p.usedPorts
    · rw [usedPorts_advance, if_pos hfree]
      rw [hpair.second_eq] at hfree ⊢
      exact .inr ⟨p.candidate, hpair, rfl, hfree.1, hfree.2, rfl⟩
    · rw [usedPorts_advance, if_neg hfree]
      exact ih p.advance

/-- A pair that is acquired was free, and is in use afterwards; otherwise nothing changes. -/
theorem acquirePair_cases (p : PortPool) :
    (p.acquirePair.1 = 0 ∧ p.acquirePair.2.usedPorts = p.usedPorts) ∨
      ∃ port, IsPair port ∧ p.acquirePair.1 = port ∧
        port ∉ p.usedPorts ∧ port + 1 ∉ p.usedPorts ∧
        p.acquirePair.2.usedPorts = insert (port + 1) (insert port p.usedPorts) :=
  acquireIn_cases _ p

@[simp] theorem mem_usedPorts_markOccupied :
    x ∈ (markOccupied port p).usedPorts ↔ x = port ∨ x ∈ p.usedPorts := by
  simp [markOccupied]

@[simp] theorem releasePair_zero : releasePair 0 p = p := if_pos rfl

/-- A release takes the two ports of the pair out of use. -/
theorem mem_used_release (h : IsPair port) :
    x ∈ (releasePair port p).usedPorts ↔ x ≠ port ∧ x ≠ port + 1 ∧ x ∈ p.usedPorts := by
  rw [releasePair, if_neg h.ne_zero, h.second_eq, Finset.mem_erase, Finset.mem_erase]
  tauto

example : (({} : PortPool).acquirePair).1 = 20000 := by decide +kernel

/-! ## The search looks at every pair

The pairs of the range lie on a circle, in their order; a search goes round it once, from
the pair at which the previous one ended. -/

/-- Neither port of the pair is in use. -/
def IsFree (p : PortPool) (port : Nat) : Prop := port ∉ p.usedPorts ∧ port + 1 ∉ p.usedPorts

/-- The number of pairs, and of the turns of a search. -/
def pairs : Nat := (endPort - startPort) / 2

/-- The pair at a place of the circle. -/
def pairAt (place : Nat) : Nat := startPort + 2 * (place % pairs)

theorem isPair_pairAt (place : Nat) : IsPair (pairAt place) := by
  have hplace : place % 10000 < 10000 := Nat.mod_lt _ (by decide)
  have heq : pairAt place = 20000 + 2 * (place % 10000) := rfl
  refine ⟨?_, ?_, ?_⟩ <;> rw [heq]
  · exact Nat.le_add_right _ _
  · unfold endPort
    omega
  · omega

theorem exists_place (h : IsPair port) : ∃ place, port = pairAt place := by
  obtain ⟨hstart, hend, heven⟩ := h
  refine ⟨(port - 20000) / 2, ?_⟩
  have heq : pairAt ((port - 20000) / 2) = 20000 + 2 * ((port - 20000) / 2 % 10000) := rfl
  unfold startPort at hstart
  unfold endPort at hend
  omega

/-- Once round the circle, from any place, is at every pair. -/
theorem exists_pairAt (place : Nat) (h : IsPair port) :
    ∃ turn < pairs, pairAt (place + turn) = port := by
  obtain ⟨goal, rfl⟩ := exists_place h
  refine ⟨(goal % 10000 + (10000 - place % 10000)) % 10000, Nat.mod_lt _ (by decide), ?_⟩
  have hmod : (place + (goal % 10000 + (10000 - place % 10000)) % 10000) % 10000 =
      goal % 10000 := by omega
  exact congrArg (fun r => 20000 + 2 * r) hmod

/-- The search goes on at the next place, and behind the last at the first. -/
theorem following_pairAt (place : Nat) : following (pairAt place) = pairAt (place + 1) := by
  have heq : ∀ i, pairAt i = 20000 + 2 * (i % 10000) := fun i => rfl
  rw [following, heq, heq]
  unfold endPort startPort
  split <;> omega

/-- At a pair, the search looks at that pair. -/
theorem candidate_of_isPair (h : IsPair p.nextPort) : p.candidate = p.nextPort := by
  have hodd : ¬p.nextPort % 2 ≠ 0 := not_not_intro h.even
  unfold candidate
  dsimp only
  rw [if_neg hodd, if_neg (Nat.not_le_of_lt h.lt_end)]

theorem nextPort_advance {place : Nat} (h : p.nextPort = pairAt place) :
    p.advance.nextPort = pairAt (place + 1) := by
  have hpair : IsPair p.nextPort := h ▸ isPair_pairAt place
  calc p.advance.nextPort = following p.candidate := rfl
    _ = following (pairAt place) := by rw [candidate_of_isPair hpair, h]
    _ = pairAt (place + 1) := following_pairAt place

/-- A search finds nothing when none of the pairs that it looks at is free. -/
theorem acquireIn_eq_zero {turns place : Nat} (h : p.nextPort = pairAt place) :
    (acquireIn turns p).1 = 0 ↔ ∀ turn < turns, ¬p.IsFree (pairAt (place + turn)) := by
  induction turns generalizing p place with
  | zero => simp [acquireIn]
  | succ turns ih =>
    have hpair : IsPair (pairAt place) := isPair_pairAt place
    have hat : p.candidate = pairAt place := (candidate_of_isPair (h ▸ hpair)).trans h
    have hlater : (acquireIn turns p.advance).1 = 0 ↔
        ∀ turn < turns, ¬p.IsFree (pairAt (place + (turn + 1))) := by
      rw [ih (nextPort_advance h)]
      simp only [IsFree, usedPorts_advance, Nat.add_comm 1, Nat.add_assoc]
    rw [acquireIn, usedPorts_advance, hat, hpair.second_eq]
    by_cases hfree : pairAt place ∉ p.usedPorts ∧ pairAt place + 1 ∉ p.usedPorts
    · -- The first pair is free, and no pair has the port 0.
      rw [if_pos hfree]
      exact ⟨fun hz => absurd hz hpair.ne_zero, fun hall => absurd hfree (hall 0 turns.succ_pos)⟩
    · rw [if_neg hfree, hlater]
      constructor
      · intro hall turn hturn
        rcases turn with _ | turn
        · exact hfree
        · exact hall turn (Nat.lt_of_succ_lt_succ hturn)
      · intro hall turn hturn
        exact hall (turn + 1) (Nat.succ_lt_succ hturn)

/-- A search ends at a pair, if it begins at one. -/
theorem isPair_nextPort_acquireIn (turns : Nat) (h : IsPair p.nextPort) :
    IsPair (acquireIn turns p).2.nextPort := by
  induction turns generalizing p with
  | zero => exact h
  | succ turns ih =>
    obtain ⟨place, hplace⟩ := exists_place h
    have hnext : IsPair p.advance.nextPort := nextPort_advance hplace ▸ isPair_pairAt (place + 1)
    rw [acquireIn]
    split
    · exact hnext
    · exact ih hnext

/-! ## Histories -/

/-- A call of the pool. -/
inductive Call
  | acquirePair
  | releasePair (port : Nat)
  | markOccupied (port : Nat)
  deriving DecidableEq, Repr

/-- The pool after a call. -/
def call (p : PortPool) : Call → PortPool
  | .acquirePair => p.acquirePair.2
  | .releasePair port => p.releasePair port
  | .markOccupied port => p.markOccupied port

/-- The pool after a history of calls, from the pool as it is built. -/
def history (calls : List Call) : PortPool := calls.foldl call {}

/-- A release and a mark leave the place of the search, and a search ends at a pair. -/
theorem isPair_nextPort_call (h : IsPair p.nextPort) (c : Call) :
    IsPair (p.call c).nextPort := by
  rcases c with _ | port | port
  · exact isPair_nextPort_acquireIn _ h
  · rw [call, releasePair]
    split <;> exact h
  · exact h

theorem isPair_nextPort_history (calls : List Call) : IsPair (history calls).nextPort := by
  have hrun : ∀ (calls : List Call) (p : PortPool), IsPair p.nextPort →
      IsPair (calls.foldl call p).nextPort := by
    intro calls
    induction calls with
    | nil => exact fun p h => h
    | cons c calls ih => exact fun p h => ih (p.call c) (isPair_nextPort_call h c)
  exact hrun calls {} ⟨by decide, by decide, by decide⟩

/-- Whatever was called before: the search is at a pair of the range; a port that
    `acquire_pair` returns is that of a pair of the range that was free and is in use now; and
    it returns 0, and leaves the ports in use, exactly when no pair of the range is free. -/
theorem acquirePair_of_history (calls : List Call) :
    IsPair (history calls).nextPort ∧
      ((history calls).acquirePair.1 ≠ 0 →
        IsPair (history calls).acquirePair.1 ∧ (history calls).acquirePair.1 + 1 < endPort ∧
          (history calls).IsFree (history calls).acquirePair.1 ∧
          (history calls).acquirePair.2.usedPorts =
            insert ((history calls).acquirePair.1 + 1)
              (insert (history calls).acquirePair.1 (history calls).usedPorts)) ∧
      ((history calls).acquirePair.1 = 0 ↔
        ¬∃ port, IsPair port ∧ (history calls).IsFree port) ∧
      ((history calls).acquirePair.1 = 0 →
        (history calls).acquirePair.2.usedPorts = (history calls).usedPorts) := by
  have hpair := isPair_nextPort_history calls
  obtain ⟨place, hplace⟩ := exists_place hpair
  refine ⟨hpair, ?_, ?_, ?_⟩
  · intro hne
    rcases acquirePair_cases (history calls) with ⟨hz, -⟩ | ⟨port, hport, heq, h0, h1, hused⟩
    · exact absurd hz hne
    · have hlast : port + 1 < endPort := by
        have hend := hport.lt_end
        have heven := hport.even
        unfold endPort at *
        omega
      rw [heq]
      exact ⟨hport, hlast, ⟨h0, h1⟩, hused⟩
  · rw [acquirePair, acquireIn_eq_zero hplace]
    constructor
    · rintro hall ⟨port, hport, hfree⟩
      obtain ⟨turn, hturn, rfl⟩ := exists_pairAt place hport
      exact hall turn hturn hfree
    · intro hnone turn _ hfree
      exact hnone ⟨_, isPair_pairAt _, hfree⟩
  · intro hz
    rcases acquirePair_cases (history calls) with ⟨-, hused⟩ | ⟨port, hport, heq, -⟩
    · exact hused
    · exact absurd (heq ▸ hz) hport.ne_zero

end PortPool

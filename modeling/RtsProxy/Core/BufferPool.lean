import Mathlib.Data.Nat.Basic

/-!
# The buffer pool

`BufferPool` hands out blocks of one size and takes them back. The model counts the
blocks, and records of every write into a block how far it reaches: `InBounds` says
that none reaches beyond its block, `Balanced` how many blocks are out.
-/

/-- The pool: the size of its blocks, how many are at hand, how many exist, and the
    most that were ever out. `writes` is not in the code: the end of each write into a
    block, the latest first. -/
structure BufferPool where
  bufSize : Nat
  available : Nat
  totalAllocated : Nat
  peakUsed : Nat := 0
  writes : List Nat := []
  deriving DecidableEq, Repr

namespace BufferPool

/-- The pool at the start. -/
def new (bufSize poolSize : Nat) : BufferPool :=
  { bufSize := bufSize, available := poolSize, totalAllocated := poolSize }

/-- `acquire`: a block at hand, or a new one. -/
def acquire (p : BufferPool) : BufferPool :=
  if p.available = 0 then
    let used := p.totalAllocated + 1
    { p with totalAllocated := used, peakUsed := max p.peakUsed used }
  else
    let left := p.available - 1
    { p with available := left, peakUsed := max p.peakUsed (p.totalAllocated - left) }

/-- `release` -/
def release (p : BufferPool) : BufferPool := { p with available := p.available + 1 }

/-- The bytes up to `stop` of a block are written. -/
def write (p : BufferPool) (stop : Nat) : BufferPool := { p with writes := stop :: p.writes }

/-- No write has gone beyond its block. -/
def InBounds (p : BufferPool) : Prop := ∀ stop ∈ p.writes, stop ≤ p.bufSize

instance (p : BufferPool) : Decidable p.InBounds :=
  inferInstanceAs (Decidable (∀ stop ∈ p.writes, stop ≤ p.bufSize))

variable (p : BufferPool) (stop : Nat)

@[simp] theorem bufSize_acquire : p.acquire.bufSize = p.bufSize := by
  rw [acquire]
  split <;> rfl

@[simp] theorem writes_acquire : p.acquire.writes = p.writes := by
  rw [acquire]
  split <;> rfl

@[simp] theorem bufSize_release : p.release.bufSize = p.bufSize := rfl

@[simp] theorem writes_release : p.release.writes = p.writes := rfl

@[simp] theorem bufSize_write : (p.write stop).bufSize = p.bufSize := rfl

@[simp] theorem inBounds_new (bufSize poolSize : Nat) : (new bufSize poolSize).InBounds := by
  simp [InBounds, new]

@[simp] theorem inBounds_acquire : p.acquire.InBounds ↔ p.InBounds := by
  simp [InBounds]

@[simp] theorem inBounds_release : p.release.InBounds ↔ p.InBounds := Iff.rfl

/-- A write keeps the bounds exactly if it stays inside its block. -/
@[simp] theorem inBounds_write : (p.write stop).InBounds ↔ stop ≤ p.bufSize ∧ p.InBounds := by
  simp [InBounds, write]

/-- So many blocks are out; the pool has counted them, and the most there ever were. -/
structure Balanced (p : BufferPool) (out : Nat) : Prop where
  total : p.totalAllocated = p.available + out
  peak : out ≤ p.peakUsed

variable {p} {out : Nat}

theorem balanced_new (bufSize poolSize : Nat) : (new bufSize poolSize).Balanced 0 :=
  ⟨rfl, Nat.zero_le _⟩

theorem Balanced.acquire (h : p.Balanced out) : p.acquire.Balanced (out + 1) := by
  obtain ⟨htotal, hpeak⟩ := h
  rw [BufferPool.acquire]
  split
  · refine ⟨?_, ?_⟩ <;> dsimp only <;> omega
  · refine ⟨?_, ?_⟩ <;> dsimp only <;> omega

theorem Balanced.write (h : p.Balanced out) (stop : Nat) : (p.write stop).Balanced out :=
  ⟨h.total, h.peak⟩

theorem Balanced.release (h : p.Balanced (out + 1)) : p.release.Balanced out := by
  obtain ⟨htotal, hpeak⟩ := h
  refine ⟨?_, ?_⟩
  · rw [BufferPool.release]
    dsimp only
    omega
  · exact Nat.le_trans (Nat.le_succ out) hpeak

end BufferPool

/-- The traffic counters (`Statistics`). -/
structure Statistics where
  upstreamBytes : Nat := 0
  downstreamBytes : Nat := 0
  deriving DecidableEq, Repr

namespace Statistics

/-- `addUpstreamBytes` -/
def addUpstream (s : Statistics) (n : Nat) : Statistics :=
  { s with upstreamBytes := s.upstreamBytes + n }

/-- `addDownstreamBytes` -/
def addDownstream (s : Statistics) (n : Nat) : Statistics :=
  { s with downstreamBytes := s.downstreamBytes + n }

/-- `getTotalBytes` -/
def totalBytes (s : Statistics) : Nat := s.upstreamBytes + s.downstreamBytes

end Statistics

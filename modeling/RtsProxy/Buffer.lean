import Mathlib.Data.List.Basic

/-!
# Programs over a buffer

A program reads and writes a buffer of a fixed size at places it computes, in numbers that
cannot be negative. It fails when a place lies outside the buffer, when a subtraction would
go below 0, and when a loop has not ended within its turns.

* `Ensures`: a program does not fail, and what holds when it has ended;
* an equation for each instruction whose place is inside (`read_eq`, `readMany_eq`,
  `move_eq`, `minus_eq`), and for a sequence (`bind_of_eq`, `ensures_bind`, `Ensures.bind`);
* `loop_ensures`: a loop ends, by an invariant and a variant;
* `Ensures.eq`: a program that is known by what it ensures has that result.
-/

namespace Buffer

variable {α β γ σ : Type}

/-- A program over a buffer of elements of `α`. -/
abbrev Prog (α β : Type) := StateT (List α) Option β

/-! ## Instructions -/

/-- The element at a place. -/
def read (i : Nat) : Prog α α := fun buf => buf[i]?.map (·, buf)

/-- The `n` elements from a place on. -/
def readMany (i n : Nat) : Prog α (List α) := fun buf =>
  if i + n ≤ buf.length then some ((buf.drop i).take n, buf) else none

/-- An element is put at a place. -/
def write (i : Nat) (a : α) : Prog α Unit := fun buf =>
  if i < buf.length then some ((), buf.set i a) else none

/-- `n` elements are moved from `src` to `dst`. -/
def move (dst src n : Nat) : Prog α Unit := fun buf =>
  if dst + n ≤ buf.length ∧ src + n ≤ buf.length then
    some ((), buf.take dst ++ (buf.drop src).take n ++ buf.drop (dst + n))
  else none

/-- The difference of two numbers. -/
def minus (a b : Nat) : Prog α Nat := fun buf => if b ≤ a then some (a - b, buf) else none

/-- A loop: the body goes on with another state, or ends with a result. At most so many
    turns are taken. -/
def loop (body : σ → Prog α (σ ⊕ β)) : Nat → σ → Prog α β
  | 0, _ => fun _ => none
  | turns + 1, s => do
    match ← body s with
    | .inl s' => loop body turns s'
    | .inr b => pure b

/-! ## What a program ensures -/

variable {p : Prog α β} {f : β → Prog α γ} {buf : List α} {Q : β → List α → Prop}

/-- The program does not fail on the buffer, and its result and what is in the buffer then are
    as stated. -/
def Ensures (p : Prog α β) (buf : List α) (Q : β → List α → Prop) : Prop :=
  ∃ b buf', p buf = some (b, buf') ∧ Q b buf'

theorem ensures_of_eq {b : β} {buf' : List α} (h : p buf = some (b, buf')) (hq : Q b buf') :
    Ensures p buf Q :=
  ⟨b, buf', h, hq⟩

theorem ensures_pure {b : β} (h : Q b buf) : Ensures (pure b) buf Q := ⟨b, buf, rfl, h⟩

theorem bind_of_eq {b : β} {buf' : List α} (h : p buf = some (b, buf')) :
    (p >>= f) buf = f b buf' :=
  congrArg (· >>= fun r : β × List α => f r.1 r.2) h

/-- A first part whose result is known is left out. -/
theorem ensures_bind {b : β} {buf' : List α} {R : γ → List α → Prop}
    (h : p buf = some (b, buf')) : Ensures (p >>= f) buf R ↔ Ensures (f b) buf' R := by
  rw [Ensures, bind_of_eq h]
  rfl

theorem Ensures.bind {R : γ → List α → Prop} (hp : Ensures p buf Q)
    (hf : ∀ b buf', Q b buf' → Ensures (f b) buf' R) : Ensures (p >>= f) buf R := by
  obtain ⟨b, buf', heq, hq⟩ := hp
  obtain ⟨c, buf'', heq', hr⟩ := hf b buf' hq
  exact ⟨c, buf'', (bind_of_eq heq).trans heq', hr⟩

theorem Ensures.weaken {R : β → List α → Prop} (hp : Ensures p buf Q)
    (h : ∀ b buf', Q b buf' → R b buf') : Ensures p buf R := by
  obtain ⟨b, buf', heq, hq⟩ := hp
  exact ⟨b, buf', heq, h b buf' hq⟩

/-- A program that ensures one result and leaves one buffer has these. -/
theorem Ensures.eq {b : β} {buf' : List α}
    (h : Ensures p buf fun b' buf'' => b' = b ∧ buf'' = buf') : p buf = some (b, buf') := by
  obtain ⟨_, _, heq, rfl, rfl⟩ := h
  exact heq

/-! ## Instructions inside the buffer -/

theorem read_eq {i : Nat} (h : i < buf.length) : read i buf = some (buf[i], buf) := by
  rw [read, List.getElem?_eq_getElem h]
  rfl

theorem readMany_eq {i n : Nat} (h : i + n ≤ buf.length) :
    readMany i n buf = some ((buf.drop i).take n, buf) := if_pos h

theorem move_eq {dst src n : Nat} (hdst : dst + n ≤ buf.length) (hsrc : src + n ≤ buf.length) :
    move dst src n buf =
      some ((), buf.take dst ++ (buf.drop src).take n ++ buf.drop (dst + n)) :=
  if_pos ⟨hdst, hsrc⟩

theorem minus_eq {a b : Nat} (h : b ≤ a) : minus a b buf = some (a - b, buf) := if_pos h

/-! ## Loops -/

/-- A loop whose body keeps an invariant and lowers a variant ends, within more turns than
    the variant counts, with what the body ensures in its last turn. -/
theorem loop_ensures {body : σ → Prog α (σ ⊕ β)} {I : σ → List α → Prop} {variant : σ → Nat}
    (hbody : ∀ s buf, I s buf → Ensures (body s) buf fun r buf' =>
      match r with
      | .inl s' => I s' buf' ∧ variant s' < variant s
      | .inr b => Q b buf')
    {turns : Nat} {s : σ} (hI : I s buf) (hturns : variant s < turns) :
    Ensures (loop body turns s) buf Q := by
  induction turns generalizing s buf with
  | zero => exact absurd hturns (Nat.not_lt_zero _)
  | succ turns ih =>
    refine (hbody s buf hI).bind fun r buf' hr => ?_
    rcases r with s' | b
    · exact ih hr.1 (Nat.lt_of_lt_of_le hr.2 (Nat.le_of_lt_succ hturns))
    · exact ensures_pure hr

end Buffer

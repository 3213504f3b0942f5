import Mathlib.Data.List.Basic

/-!
# Pieces of a list

* A list is read in pieces of `n` elements, and what is left over at its end is not looked at.
* In place, pieces are moved down: the front of the list becomes the old front with the piece
  behind it (`take_move`), and what lies behind the piece is not touched (`drop_move`).
* A list is put together of given pieces, the last one possibly cut short (`Composed`), which can
  be searched for (`composes_of_flatten`).
-/

namespace Chunks

variable {α : Type*} {n : Nat} {l c : List α}

/-- The whole pieces of `n` elements, in order. -/
def chunks (n : Nat) (l : List α) : List (List α) :=
  (List.range (l.length / n)).map fun k => (l.drop (n * k)).take n

/-- What is left over behind the whole pieces. -/
def leftover (n : Nat) (l : List α) : List α := l.drop (n * (l.length / n))

theorem chunks_of_lt (h : l.length < n) : chunks n l = [] := by
  rw [chunks, Nat.div_eq_of_lt h]
  rfl

/-- The first piece, and the pieces behind it. -/
theorem chunks_of_le (hn : 0 < n) (h : n ≤ l.length) :
    chunks n l = l.take n :: chunks n (l.drop n) := by
  have hcount : l.length / n = (l.drop n).length / n + 1 := by
    rw [List.length_drop, Nat.div_eq_sub_div hn h]
  rw [chunks, hcount, List.range_succ_eq_map, List.map_cons, List.map_map, chunks]
  congr 1
  refine List.map_congr_left fun k _ => ?_
  -- the pieces are counted from one further on
  simp only [Function.comp_apply, List.drop_drop]
  rw [Nat.mul_succ, Nat.add_comm]

/-! ## Moving a piece down -/

variable {d s : Nat}

/-- The list with the `n` elements at `s` copied to `d`. -/
def move (l : List α) (d s n : Nat) : List α := l.take d ++ (l.drop s).take n ++ l.drop (d + n)

theorem length_move (hds : d ≤ s) (h : s + n ≤ l.length) : (move l d s n).length = l.length := by
  simp only [move, List.length_append, List.length_take, List.length_drop]
  omega

/-- The front is the old one with the piece behind it. -/
theorem take_move (hds : d ≤ s) (h : s + n ≤ l.length) :
    (move l d s n).take (d + n) = l.take d ++ (l.drop s).take n := by
  have hlen : (l.take d ++ (l.drop s).take n).length = d + n := by
    simp only [List.length_append, List.length_take, List.length_drop]
    omega
  rw [move, ← hlen, List.take_left]

/-- What lies behind the piece is not touched. -/
theorem drop_move (hds : d ≤ s) (h : s + n ≤ l.length) :
    (move l d s n).drop (s + n) = l.drop (s + n) := by
  have hlen : (l.take d ++ (l.drop s).take n).length = d + n := by
    simp only [List.length_append, List.length_take, List.length_drop]
    omega
  obtain ⟨k, rfl⟩ := Nat.exists_eq_add_of_le hds
  rw [move, show d + k + n = (d + n) + k by omega, ← List.drop_drop, ← hlen, List.drop_left, hlen,
    List.drop_drop]

/-! ## Lists put together of given pieces -/

/-- The list is made of pieces that are given, one behind the other, only the last one cut short. -/
def Composed (pieces : List (List α)) (l : List α) : Prop :=
  ∃ ms, (∀ m ∈ ms, m ∈ pieces) ∧ l <+: List.flatten ms

variable {pieces : List (List α)}

variable [DecidableEq α]

/-- A search for the pieces, at most so many of them. -/
def composes (pieces : List (List α)) : Nat → List α → Bool
  | _, [] => true
  | 0, _ => false
  | n + 1, l => pieces.any fun m =>
      m ≠ [] && (l.isPrefixOf m || (m.isPrefixOf l && composes pieces n (l.drop m.length)))

/-- The search finds the pieces, of which there are no more than elements. -/
theorem composes_of_flatten {ms : List (List α)} (hms : ∀ m ∈ ms, m ∈ pieces)
    (hl : l <+: ms.flatten) {k : Nat} (hk : l.length ≤ k) : composes pieces k l := by
  induction ms generalizing l k with
  | nil =>
    obtain rfl := List.prefix_nil.1 hl
    cases k <;> rfl
  | cons m ms ih =>
    rcases l with - | ⟨a, l⟩
    · cases k <;> rfl
    rcases k with - | k
    · exact absurd hk (Nat.not_succ_le_zero _)
    rcases m with - | ⟨b, m⟩
    · exact ih (fun m hm => hms m (List.mem_cons_of_mem _ hm)) hl hk
    rw [composes, List.any_eq_true]
    case x_2 => exact List.cons_ne_nil a l
    refine ⟨b :: m, hms _ List.mem_cons_self, ?_⟩
    rw [List.flatten_cons] at hl
    rcases Nat.le_total (a :: l).length (b :: m).length with hle | hle
    · -- the list ends inside the first piece
      have hpre : (a :: l) <+: (b :: m) :=
        List.prefix_of_prefix_length_le hl (List.prefix_append _ _) hle
      simp [hpre]
    · have hpre : (b :: m) <+: (a :: l) :=
        List.prefix_of_prefix_length_le (List.prefix_append _ _) hl hle
      obtain ⟨r, hr⟩ := hpre
      rw [← hr] at hl hk ⊢
      have hrest := ih (fun m hm => hms m (List.mem_cons_of_mem _ hm))
        ((List.prefix_append_right_inj _).1 hl)
        (show r.length ≤ k by rw [List.length_append, List.length_cons] at hk; omega)
      rw [List.drop_left, hrest]
      simp

end Chunks

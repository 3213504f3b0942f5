import Mathlib.Data.List.Infix

/-!
# Framings

How a stream is cut into pieces from its front: a piece that is complete is taken off, and
bytes behind it do not change which one that is (`Framing`). It does not matter then how the
stream arrives.

* `pieces_append`, `rest_append`: a stream that arrives in two parts;
* `pieces_flatten`: pieces behind one another are found again;
* `front_of_prefix`: what is taken off is the next piece.
-/

/-- A way to take pieces off the front of a stream. -/
structure Framing (α : Type*) where
  /-- The piece at the start, if it is complete. -/
  front : List α → Option (List α)
  ne_nil_of_front : ∀ {buf piece}, front buf = some piece → piece ≠ []
  prefix_of_front : ∀ {buf piece}, front buf = some piece → piece <+: buf
  front_append : ∀ {buf piece}, front buf = some piece → ∀ more, front (buf ++ more) = some piece

namespace Framing

variable {α : Type*}

/-- At most so many pieces, and what is left behind them. -/
def splitN (F : Framing α) : Nat → List α → List (List α) × List α
  | 0, buf => ([], buf)
  | n + 1, buf =>
    match F.front buf with
    | none => ([], buf)
    | some piece =>
      let (pieces, rest) := F.splitN n (buf.drop piece.length)
      (piece :: pieces, rest)

/-- The complete pieces of a stream. -/
def pieces (F : Framing α) (buf : List α) : List (List α) := (F.splitN buf.length buf).1

/-- What is left behind the complete pieces. -/
def rest (F : Framing α) (buf : List α) : List α := (F.splitN buf.length buf).2

/-- One complete piece. -/
def IsPiece (F : Framing α) (piece : List α) : Prop := F.front piece = some piece

variable {F : Framing α} {buf piece : List α} {us : List (List α)}

/-- A piece is there to be taken off. -/
theorem length_drop_lt (h : F.front buf = some piece) :
    (buf.drop piece.length).length < buf.length := by
  have hpos : 0 < piece.length := List.length_pos_iff.2 (F.ne_nil_of_front h)
  have hle : piece.length ≤ buf.length := (F.prefix_of_front h).length_le
  rw [List.length_drop]
  omega

theorem append_drop (h : F.front buf = some piece) : piece ++ buf.drop piece.length = buf :=
  (List.prefix_append_drop (F.prefix_of_front h)).symm

/-- More turns than there are bytes do not matter. -/
theorem splitN_of_le {n : Nat} (h : buf.length ≤ n) : F.splitN n buf = (F.pieces buf, F.rest buf) := by
  have hstable : ∀ (n m : Nat) (buf : List α), buf.length ≤ n → buf.length ≤ m →
      F.splitN n buf = F.splitN m buf := by
    intro n
    induction n with
    | zero =>
      intro m buf hn _
      obtain rfl : buf = [] := List.length_eq_zero_iff.1 (Nat.le_zero.1 hn)
      rcases m with _ | m
      · rfl
      · rcases hfront : F.front [] with _ | piece
        · rw [splitN, splitN, hfront]
        · exact absurd (length_drop_lt hfront) (Nat.not_lt_zero _)
    | succ n ih =>
      intro m buf hn hm
      rcases hfront : F.front buf with _ | piece
      · rcases m with _ | m <;> simp only [splitN, hfront]
      · have hlt := length_drop_lt hfront
        obtain ⟨m, rfl⟩ : ∃ k, m = k + 1 := ⟨m - 1, by omega⟩
        rw [splitN, splitN, hfront]
        dsimp only
        rw [ih m (buf.drop piece.length) (by omega) (by omega)]
  exact hstable n buf.length buf h le_rfl

theorem pieces_of_none (h : F.front buf = none) : F.pieces buf = [] ∧ F.rest buf = buf := by
  rw [pieces, rest]
  rcases buf.length with _ | n
  · exact ⟨rfl, rfl⟩
  · rw [splitN, h]
    exact ⟨rfl, rfl⟩

theorem pieces_of_front (h : F.front buf = some piece) :
    F.pieces buf = piece :: F.pieces (buf.drop piece.length) ∧
      F.rest buf = F.rest (buf.drop piece.length) := by
  have hlt := length_drop_lt h
  obtain ⟨n, hn⟩ : ∃ n, buf.length = n + 1 := ⟨buf.length - 1, by omega⟩
  have hsplit : F.splitN n (buf.drop piece.length) = _ := splitN_of_le (by omega)
  rw [pieces, rest, hn, splitN, h]
  dsimp only
  rw [hsplit]
  exact ⟨rfl, rfl⟩

/-- Induction along the pieces of a stream. -/
theorem front_induction {P : List α → Prop} (hnone : ∀ buf, F.front buf = none → P buf)
    (hfront : ∀ buf piece, F.front buf = some piece → P (buf.drop piece.length) → P buf)
    (buf : List α) : P buf := by
  induction hn : buf.length using Nat.strong_induction_on generalizing buf with
  | _ n ih =>
    rcases h : F.front buf with _ | piece
    · exact hnone buf h
    · exact hfront buf piece h (ih _ (hn ▸ length_drop_lt h) _ rfl)

/-- No complete piece is left. -/
theorem front_rest (buf : List α) : F.front (F.rest buf) = none := by
  induction buf using F.front_induction with
  | hnone buf h =>
    rw [(pieces_of_none h).2]
    exact h
  | hfront buf piece h ih =>
    rw [(pieces_of_front h).2]
    exact ih

/-- A stream in two parts has the pieces of the first part, and those of what is left of it and
    the second. -/
theorem pieces_append (buf more : List α) :
    F.pieces (buf ++ more) = F.pieces buf ++ F.pieces (F.rest buf ++ more) ∧
      F.rest (buf ++ more) = F.rest (F.rest buf ++ more) := by
  induction buf using F.front_induction with
  | hnone buf h =>
    obtain ⟨hpieces, hrest⟩ := pieces_of_none h
    rw [hpieces, hrest]
    exact ⟨rfl, rfl⟩
  | hfront buf piece h ih =>
    obtain ⟨hpieces, hrest⟩ := pieces_of_front h
    obtain ⟨hpieces', hrest'⟩ := pieces_of_front (F.front_append h more)
    rw [List.drop_append_of_le_length (F.prefix_of_front h).length_le] at hpieces' hrest'
    rw [hpieces', hrest', hpieces, hrest, ih.1, ih.2]
    exact ⟨rfl, rfl⟩

/-- What is taken off a sequence of pieces is the next of them. -/
theorem front_of_prefix (hus : ∀ u ∈ us, F.IsPiece u) (h : buf <+: us.flatten)
    (hfront : F.front buf = some piece) : ∃ rest, us = piece :: rest := by
  obtain ⟨more, hmore⟩ := h
  have hwhole : F.front us.flatten = some piece := hmore ▸ F.front_append hfront more
  rcases us with _ | ⟨u, us⟩
  · have hlt := length_drop_lt hwhole
    exact absurd hlt (Nat.not_lt_zero _)
  · have hnext : F.front (u ++ us.flatten) = some u :=
      F.front_append (hus u List.mem_cons_self) us.flatten
    rw [List.flatten_cons, hnext] at hwhole
    exact ⟨us, by rw [Option.some.inj hwhole]⟩

/-- Pieces behind one another are found again. -/
theorem pieces_flatten (hus : ∀ u ∈ us, F.IsPiece u) :
    F.pieces us.flatten = us ∧ F.rest us.flatten = [] := by
  induction us with
  | nil => exact ⟨rfl, rfl⟩
  | cons u us ih =>
    obtain ⟨hpieces, hrest⟩ := pieces_of_front
      (F.front_append (hus u List.mem_cons_self) us.flatten)
    rw [List.drop_left] at hpieces hrest
    obtain ⟨ihpieces, ihrest⟩ := ih fun v hv => hus v (List.mem_cons_of_mem _ hv)
    rw [List.flatten_cons, hpieces, hrest, ihpieces, ihrest]
    exact ⟨rfl, rfl⟩

end Framing

import Mathlib.Logic.Relation
import Mathlib.Data.Set.Basic

/-!
# Loops

A loop `while (true) { body }` whose body may leave the loop or throw. It need not
terminate: its runs are bounded by a number of turns (`Loop.run`), of which any
large enough one gives the result.

* `Loop.Reaches`: the states from which a turn starts;
* `Loop.returns_iff`, `Loop.throws_iff`: a loop returns, or throws, where a state
  reached leaves it, or throws (and at most one of these happens,
  `Loop.run_unique`);
* `Loop.exists_returns_iff`: it returns if it terminates and does not throw;
* `Loop.exists_returns_guarded_iff`: a loop that breaks off where another one would go on;
* `Loop.terminates`: a measure that every turn lowers;
* `Loop.not_terminates`: a set of states that no turn leaves;
* `Loop.run_invariant`: what every turn keeps, the loop keeps.
-/

/-- The end of a turn of a loop: it is left, or goes round again. -/
inductive Turn (σ : Type*)
  | leave (s : σ)
  | again (s : σ)
  deriving DecidableEq, Repr

/-- The state at the end of a turn. -/
def Turn.state {σ : Type*} : Turn σ → σ
  | leave s => s
  | again s => s

namespace Loop

variable {σ ε : Type*} (body : σ → Except ε (Turn σ))

/-- The loop from a state, in at most so many turns; `none`: it is still going. -/
def run : Nat → σ → Option (Except ε σ)
  | 0, _ => none
  | n + 1, s =>
    match body s with
    | .error e => some (.error e)
    | .ok (.leave s) => some (.ok s)
    | .ok (.again s) => run n s

/-- A turn that goes round again. -/
def Again (s t : σ) : Prop := body s = .ok (.again t)

/-- The states from which a turn of the loop started in `s` starts. -/
def Reaches : σ → σ → Prop := Relation.ReflTransGen (Again body)

variable {body}

/-- The loop terminates: it returns or throws. -/
def Terminates (body : σ → Except ε (Turn σ)) (s : σ) : Prop := ∃ n r, run body n s = some r

theorem run_again {s t : σ} (h : Again body s t) (n : Nat) :
    run body (n + 1) s = run body n t := by
  rw [run, show body s = .ok (.again t) from h]

/-- More turns do not change the result. -/
theorem run_mono {s : σ} {m n : Nat} {r : Except ε σ} (h : run body m s = some r) (hmn : m ≤ n) :
    run body n s = some r := by
  induction m generalizing s n with
  | zero => simp [run] at h
  | succ m ih =>
    obtain ⟨n, rfl⟩ : ∃ k, n = k + 1 := ⟨n - 1, by omega⟩
    unfold run at h ⊢
    split at h
    · exact h
    · exact h
    · exact ih h (by omega)

/-- A loop has at most one result. -/
theorem run_unique {s : σ} {m n : Nat} {r r' : Except ε σ} (h : run body m s = some r)
    (h' : run body n s = some r') : r = r' := by
  have h₁ := run_mono h (Nat.le_max_left m n)
  have h₂ := run_mono h' (Nat.le_max_right m n)
  exact Option.some.inj (h₁.symm.trans h₂)

/-- The result from a state reached is the result of the loop. -/
theorem exists_run_of_reaches {s t : σ} (h : Reaches body s t) {n : Nat} {r : Except ε σ}
    (hr : run body n t = some r) : ∃ m, run body m s = some r := by
  induction h using Relation.ReflTransGen.head_induction_on with
  | refl => exact ⟨n, hr⟩
  | head hst _ ih =>
    obtain ⟨m, hm⟩ := ih
    exact ⟨m + 1, by rw [run_again hst, hm]⟩

/-- A result comes from the last turn: one that leaves the loop or throws. -/
theorem exists_last_turn {s : σ} {n : Nat} {r : Except ε σ} (h : run body n s = some r) :
    ∃ t, Reaches body s t ∧ ((∃ u, body t = .ok (.leave u) ∧ r = .ok u) ∨
      ∃ e, body t = .error e ∧ r = .error e) := by
  induction n generalizing s with
  | zero => simp [run] at h
  | succ n ih =>
    unfold run at h
    split at h
    case h_1 e he => exact ⟨s, .refl, .inr ⟨e, he, (Option.some.inj h).symm⟩⟩
    case h_2 u hu => exact ⟨s, .refl, .inl ⟨u, hu, (Option.some.inj h).symm⟩⟩
    case h_3 u hu =>
      obtain ⟨t, ht, hlast⟩ := ih h
      exact ⟨t, .head hu ht, hlast⟩

/-- A loop returns `u` exactly if a turn from a state reached leaves it with `u`. -/
theorem returns_iff {s u : σ} :
    (∃ n, run body n s = some (.ok u)) ↔ ∃ t, Reaches body s t ∧ body t = .ok (.leave u) := by
  constructor
  · rintro ⟨n, h⟩
    obtain ⟨t, ht, ⟨v, hv, hr⟩ | ⟨e, _, hr⟩⟩ := exists_last_turn h
    · cases hr
      exact ⟨t, ht, hv⟩
    · cases hr
  · rintro ⟨t, ht, hu⟩
    exact exists_run_of_reaches ht (n := 1) (by rw [run, hu])

/-- A loop throws exactly if a turn from a state reached throws. -/
theorem throws_iff {s : σ} {e : ε} :
    (∃ n, run body n s = some (.error e)) ↔ ∃ t, Reaches body s t ∧ body t = .error e := by
  constructor
  · rintro ⟨n, h⟩
    obtain ⟨t, ht, ⟨v, _, hr⟩ | ⟨e', he, hr⟩⟩ := exists_last_turn h
    · cases hr
    · cases hr
      exact ⟨t, ht, he⟩
  · rintro ⟨t, ht, he⟩
    exact exists_run_of_reaches ht (n := 1) (by rw [run, he])

/-- A loop returns exactly if it terminates, and no turn from a state reached throws. -/
theorem exists_returns_iff {s : σ} : (∃ n u, run body n s = some (.ok u)) ↔
    Terminates body s ∧ ∀ t, Reaches body s t → ∀ e, body t ≠ .error e := by
  constructor
  · rintro ⟨n, u, h⟩
    refine ⟨⟨n, _, h⟩, fun t ht e he => ?_⟩
    obtain ⟨m, hm⟩ := throws_iff.2 ⟨t, ht, he⟩
    cases run_unique h hm
  · rintro ⟨⟨n, r, h⟩, hthrows⟩
    cases r with
    | ok u => exact ⟨n, u, h⟩
    | error e =>
      obtain ⟨t, ht, he⟩ := throws_iff.1 ⟨n, h⟩
      exact absurd he (hthrows t ht e)

/-- A loop that breaks off where another one would go on returns exactly if the other one does, and
    passes no such place on its way. -/
theorem exists_returns_guarded_iff {δ : Type*} {guarded : σ → Except δ (Turn σ)} {P : σ → Prop}
    (hguarded : ∀ s r, guarded s = .ok r ↔ body s = .ok r ∧ P s) {s : σ} :
    (∃ n u, run guarded n s = some (.ok u)) ↔
      (∃ n u, run body n s = some (.ok u)) ∧ ∀ t, Reaches body s t → P t := by
  constructor
  · rintro ⟨n, u, h⟩
    obtain ⟨t, ht, hu⟩ := returns_iff.1 ⟨n, h⟩
    clear h
    induction ht using Relation.ReflTransGen.head_induction_on with
    | refl =>
      obtain ⟨hleave, hP⟩ := (hguarded t _).1 hu
      obtain ⟨m, hm⟩ := returns_iff.2 ⟨t, .refl, hleave⟩
      refine ⟨⟨m, u, hm⟩, fun v hv => ?_⟩
      rcases hv.cases_head with rfl | ⟨w, hw, -⟩
      · exact hP
      · cases hleave.symm.trans hw
    | @head v w hvw _ ih =>
      obtain ⟨hagain, hP⟩ := (hguarded v _).1 hvw
      obtain ⟨⟨m, u, hm⟩, hall⟩ := ih
      refine ⟨⟨m + 1, u, by rw [run_again hagain, hm]⟩, fun x hx => ?_⟩
      rcases hx.cases_head with rfl | ⟨y, hy, hyx⟩
      · exact hP
      · obtain rfl : w = y := Turn.again.inj (Except.ok.inj (hagain.symm.trans hy))
        exact hall x hyx
  · rintro ⟨⟨n, u, h⟩, hP⟩
    obtain ⟨t, ht, hu⟩ := returns_iff.1 ⟨n, h⟩
    have hreaches : Reaches guarded s t := by
      clear hu
      induction ht with
      | refl => exact .refl
      | @tail v w hv hvw ih => exact ih.tail ((hguarded v _).2 ⟨hvw, hP v hv⟩)
    obtain ⟨m, hm⟩ := returns_iff.2 ⟨t, hreaches, (hguarded t _).2 ⟨hu, hP t ht⟩⟩
    exact ⟨m, u, hm⟩

/-- A loop terminates if every turn that goes round again, from a state reached,
    lowers a measure. -/
theorem terminates (μ : σ → Nat) {s : σ}
    (h : ∀ t u, Reaches body s t → Again body t u → μ u < μ t) : Terminates body s := by
  induction hn : μ s using Nat.strong_induction_on generalizing s with
  | _ n ih =>
    cases hb : body s with
    | error e => exact ⟨1, .error e, by rw [run, hb]⟩
    | ok r =>
      cases r with
      | leave t => exact ⟨1, .ok t, by rw [run, hb]⟩
      | again t =>
        have hlt : μ t < μ s := h s t .refl hb
        obtain ⟨m, r, hm⟩ := ih (μ t) (hn ▸ hlt)
          (fun u v hu hv => h u v (.head hb hu) hv) rfl
        exact ⟨m + 1, r, by rw [run_again hb, hm]⟩

/-- A loop that terminates does so from every state reached. -/
theorem Terminates.of_reaches {s t : σ} (h : Terminates body s) (ht : Reaches body s t) :
    Terminates body t := by
  obtain ⟨n, r, hr⟩ := h
  induction ht using Relation.ReflTransGen.head_induction_on generalizing n with
  | refl => exact ⟨n, r, hr⟩
  | head hst _ ih =>
    cases n with
    | zero => simp [run] at hr
    | succ n => exact ih n (by rwa [run_again hst] at hr)

/-- A loop does not terminate in a set of states that every turn goes round in. -/
theorem not_terminates (P : σ → Prop) (h : ∀ t, P t → ∃ u, Again body t u ∧ P u) {s : σ}
    (hs : P s) : ¬Terminates body s := by
  rintro ⟨n, r, hr⟩
  induction n generalizing s with
  | zero => simp [run] at hr
  | succ n ih =>
    obtain ⟨u, hu, hPu⟩ := h s hs
    exact ih hPu (by rw [← run_again hu]; exact hr)

/-- A relation to the start that turns keep holds of every state reached. -/
theorem reaches_invariant {P : σ → Prop} (h : ∀ t u, P t → Again body t u → P u) {s t : σ}
    (hs : P s) (ht : Reaches body s t) : P t := by
  induction ht with
  | refl => exact hs
  | tail _ htu ih => exact h _ _ ih htu

/-- What every turn keeps, the loop keeps. -/
theorem run_invariant {P : σ → Prop} (h : ∀ t r, P t → body t = .ok r → P r.state) {s t : σ}
    {n : Nat} (hs : P s) (hr : run body n s = some (.ok t)) : P t := by
  obtain ⟨u, hu, hleave⟩ := returns_iff.1 ⟨n, hr⟩
  have hPu : P u := reaches_invariant (fun v w hv hw => h v (.again w) hv hw) hs hu
  exact h u (.leave t) hPu hleave

end Loop

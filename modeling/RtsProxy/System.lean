import Mathlib.Logic.Relation

/-!
# Systems that take steps

A system goes from one state to the next by an event, if that can take place. A run is any number
of such steps.

* `System.run_invariant`: what every step keeps, runs keep;
* `System.run_of_runEvents`: a run can be computed from its events.
-/

/-- A system: the state after an event; `none`: the event cannot take place. -/
structure System (σ ε : Type*) where
  step : σ → ε → Option σ

namespace System

variable {σ ε : Type*} (S : System σ ε)

/-- A step of the system. -/
def Next (s t : σ) : Prop := ∃ e, S.step s e = some t

/-- Any number of steps. -/
def Run : σ → σ → Prop := Relation.ReflTransGen S.Next

/-- The state after a list of events, if each of them can take place. -/
def runEvents (s : σ) : List ε → Option σ
  | [] => some s
  | e :: es => (S.step s e).bind fun t => runEvents t es

variable {S} {s t : σ}

/-- What every step keeps, runs keep. -/
theorem run_invariant {P : σ → Prop} (hstep : ∀ s e t, P s → S.step s e = some t → P t)
    (h : S.Run s t) (hs : P s) : P t := by
  induction h with
  | refl => exact hs
  | tail _ hnext ih =>
    obtain ⟨e, he⟩ := hnext
    exact hstep _ e _ ih he

theorem run_of_runEvents {es : List ε} (h : S.runEvents s es = some t) : S.Run s t := by
  induction es generalizing s with
  | nil =>
    cases h
    exact .refl
  | cons e es ih =>
    obtain ⟨u, hu, hrest⟩ := Option.bind_eq_some_iff.1 h
    exact .head ⟨e, hu⟩ (ih hrest)

end System

import Mathlib.Data.List.Basic
import Mathlib.Data.List.Infix

/-!
# Outboxes

A queue of items in front of a byte stream. Items are pushed at the back, the
front one is written out piece by piece and popped when all of it is out; to keep
the queue short, items may be dropped from the front.

The stream stays made of whole items as long as only items are dropped of which
nothing has been written (`Outbox.Step`): then what is written is always a
concatenation of items, in the order they were pushed, followed by the part of
the front item that is out (`Outbox.Whole`, `Step.whole`). In particular it can be
continued to a concatenation of whole items, among which those that are never dropped
are all there (`Whole.exists_stream`); if none may be dropped, what is written and what is not
out yet are all that has been pushed (`Whole.conserved`).
-/

/-- An outbox of items `ι` on a stream of `α`: the queued items, each with how
    much of it has been written, what has been written, and all the items ever
    pushed. -/
structure Outbox (ι α : Type*) where
  queue : List (ι × Nat)
  written : List α
  log : List ι

namespace Outbox

variable {ι α : Type*}

/-- The empty outbox. -/
def empty : Outbox ι α := ⟨[], [], []⟩

/-- A step, for items standing for `bytes`, of which those in `keep` may not be
    dropped, and those begun may not either. -/
inductive Step (bytes : ι → List α) (keep : ι → Bool) : Outbox ι α → Outbox ι α → Prop
  | push (o : Outbox ι α) (i : ι) :
      Step bytes keep o ⟨o.queue ++ [(i, 0)], o.written, o.log ++ [i]⟩
  | drop {i : ι} {q : List (ι × Nat)} (w : List α) (l : List ι) : keep i = false →
      Step bytes keep ⟨(i, 0) :: q, w, l⟩ ⟨q, w, l⟩
  | send {i : ι} {k : Nat} {q : List (ι × Nat)} (n : Nat) (w : List α) (l : List ι) :
      k + n ≤ (bytes i).length →
      Step bytes keep ⟨(i, k) :: q, w, l⟩
        ⟨(i, k + n) :: q, w ++ ((bytes i).drop k).take n, l⟩
  | pop {i : ι} {k : Nat} {q : List (ι × Nat)} (w : List α) (l : List ι) :
      (bytes i).length ≤ k → Step bytes keep ⟨(i, k) :: q, w, l⟩ ⟨q, w, l⟩

/-- The part of the front item that is out. -/
def begun (bytes : ι → List α) : List (ι × Nat) → List α
  | [] => []
  | (i, k) :: _ => (bytes i).take k

/-- What is written is the items `done`, whole and in order, and the begun part of
    the front item; only that one is begun; and the items of the stream and of the
    queue are among those pushed, none of `keep` missing. -/
structure WholeBy (bytes : ι → List α) (keep : ι → Bool) (o : Outbox ι α) (done : List ι) :
    Prop where
  written : o.written = done.flatMap bytes ++ begun bytes o.queue
  fresh : ∀ e ∈ o.queue.tail, e.2 = 0
  sublist : (done ++ o.queue.map Prod.fst).Sublist o.log
  kept : (done ++ o.queue.map Prod.fst).filter keep = o.log.filter keep

/-- The stream is made of whole items. -/
def Whole (bytes : ι → List α) (keep : ι → Bool) (o : Outbox ι α) : Prop :=
  ∃ done, WholeBy bytes keep o done

variable {bytes : ι → List α} {keep : ι → Bool} {o o' : Outbox ι α}

theorem whole_empty : Whole bytes keep (empty : Outbox ι α) :=
  ⟨[], rfl, by simp [empty], by simp [empty], by simp [empty]⟩

/-- An untouched front item has no begun part. -/
theorem begun_of_fresh {q : List (ι × Nat)} (h : ∀ e ∈ q, e.2 = 0) : begun bytes q = [] := by
  cases q with
  | nil => rfl
  | cons e q =>
    obtain ⟨i, k⟩ := e
    have hk : k = 0 := h (i, k) (by simp)
    simp [begun, hk]

/-- Pushing an item behind a queue does not touch what has begun. -/
theorem begun_append_fresh (q : List (ι × Nat)) (i : ι) :
    begun bytes (q ++ [(i, 0)]) = begun bytes q := by
  cases q with
  | nil => rfl
  | cons e q => rfl

/-- A step keeps the stream made of whole items. -/
theorem Step.whole (h : Step bytes keep o o') (ho : Whole bytes keep o) :
    Whole bytes keep o' := by
  obtain ⟨done, hw, hf, hs, hk⟩ := ho
  cases h with
  | push _ i =>
    refine ⟨done, ?_, ?_, ?_, ?_⟩
    · rw [begun_append_fresh]
      exact hw
    · intro e he
      cases hq : o.queue with
      | nil => simp [hq] at he
      | cons e' q =>
        rw [hq, List.cons_append, List.tail_cons] at he
        rcases List.mem_append.1 he with h | h
        · exact hf e (by rwa [hq, List.tail_cons])
        · rw [List.mem_singleton.1 h]
    · simpa [← List.append_assoc] using hs.append (List.Sublist.refl [i])
    · have : done ++ (o.queue ++ [(i, 0)]).map Prod.fst = (done ++ o.queue.map Prod.fst) ++ [i] := by
        simp
      rw [this, List.filter_append, hk, ← List.filter_append]
  | @drop i q w l hi =>
    have hb : begun bytes q = [] := begun_of_fresh hf
    refine ⟨done, ?_, ?_, ?_, ?_⟩
    · rw [hb]
      simpa [begun] using hw
    · exact fun e he => hf e (List.mem_of_mem_tail he)
    · exact ((List.Sublist.refl done).append (List.sublist_cons_self i _)).trans hs
    · simpa [List.filter_append, hi] using hk
  | @send i k q n w l hn =>
    refine ⟨done, ?_, hf, hs, hk⟩
    have hw' : w = done.flatMap bytes ++ (bytes i).take k := hw
    show w ++ _ = done.flatMap bytes ++ (bytes i).take (k + n)
    rw [hw', List.append_assoc, List.take_add]
  | @pop i k q w l hk' =>
    have hb : begun bytes q = [] := begun_of_fresh hf
    refine ⟨done ++ [i], ?_, ?_, ?_, ?_⟩
    · have hw' : w = done.flatMap bytes ++ (bytes i).take k := hw
      rw [hb, hw', List.take_of_length_le hk']
      simp
    · exact fun e he => hf e (List.mem_of_mem_tail he)
    · simpa using hs
    · simpa using hk

/-- The part of the queue that is not out. -/
def unsent (bytes : ι → List α) (q : List (ι × Nat)) : List α :=
  q.flatMap fun e => (bytes e.1).drop e.2

/-- Of a queue only whose front is begun, the begun part and the rest are all of it. -/
theorem begun_append_unsent {q : List (ι × Nat)} (h : ∀ e ∈ q.tail, e.2 = 0) :
    begun bytes q ++ unsent bytes q = (q.map Prod.fst).flatMap bytes := by
  rcases q with _ | ⟨⟨i, k⟩, q⟩
  · rfl
  · have hrest : unsent bytes q = (q.map Prod.fst).flatMap bytes := by
      rw [unsent, List.flatMap_map]
      refine List.flatMap_congr fun e he => ?_
      rw [h e he, List.drop_zero]
    show (bytes i).take k ++ ((bytes i).drop k ++ unsent bytes q) = bytes i ++ _
    rw [← List.append_assoc, List.take_append_drop, hrest]
    rfl

/-- If nothing may be dropped, what has been pushed is what is written and what is not out yet. -/
theorem Whole.conserved (h : Whole bytes (fun _ => true) o) :
    o.log.flatMap bytes = o.written ++ unsent bytes o.queue := by
  obtain ⟨done, hw, hf, -, hk⟩ := h
  rw [List.filter_true, List.filter_true] at hk
  rw [← hk, List.flatMap_append, hw, List.append_assoc, begun_append_unsent hf]

/-- What is written can be continued to the stream of all that is left, in the order it was
    pushed: the items that may not be dropped are all in it. -/
theorem Whole.exists_stream (h : Whole bytes keep o) :
    ∃ items : List ι, items.Sublist o.log ∧ items.filter keep = o.log.filter keep ∧
      o.written <+: items.flatMap bytes := by
  obtain ⟨done, hw, _, hs, hk⟩ := h
  refine ⟨_, hs, hk, ?_⟩
  have hbegun : begun bytes o.queue <+: (o.queue.map Prod.fst).flatMap bytes := by
    cases o.queue with
    | nil => exact List.nil_prefix
    | cons e q => exact (List.take_prefix e.2 (bytes e.1)).trans (List.prefix_append _ _)
  rw [hw, List.flatMap_append]
  exact (List.prefix_append_right_inj _).2 hbegun

end Outbox

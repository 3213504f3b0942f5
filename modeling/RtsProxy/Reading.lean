import RtsProxy.Loop
import Mathlib.Data.List.Infix

/-!
# Reading a stream

A reader keeps what it has received in a buffer. Whenever more is received, a loop takes items off
the front of the buffer, until what is left is not complete.

* `Cutter.items`: the items of a stream that arrives in parts;
* `Cutter.items_parts`: it does not matter how the stream arrives, as long as what is complete stays
  what it is;
* `Reader.reads_spec`: a reader takes off the items of the stream, as far as its loop does not throw;
* `Reader.exists_reads`: its loops end if every item takes something off;
* `Reader.deframes`: the items that a stream consists of are taken off, however it arrives.
-/

/-- What a buffer starts with, if it is complete: an item, and how much of the buffer it takes. -/
abbrev Cutter (α ι : Type*) := List α → Option (ι × Nat)

namespace Cutter

variable {α ι : Type*} (front : Cutter α ι)

/-- The buffer once an item is complete, and the parts that are still to arrive. -/
def fill : List α → List (List α) → List α × List (List α)
  | buf, [] => (buf, [])
  | buf, part :: parts =>
    if (front buf).isSome then (buf, part :: parts) else fill (buf ++ part) parts

/-- The first items, at most so many, of a buffer and the parts that are still to arrive. -/
def items : Nat → List α → List (List α) → List ι
  | 0, _, _ => []
  | n + 1, buf, parts =>
    match front (fill front buf parts).1 with
    | none => []
    | some (x, k) =>
      x :: items n ((fill front buf parts).1.drop k) (fill front buf parts).2

/-- What is complete in a stream stays what it is, in what is left of it too. -/
structure Stable (Good : List α → Prop) : Prop where
  append : ∀ {buf more x k}, Good (buf ++ more) → front buf = some (x, k) →
    front (buf ++ more) = some (x, k) ∧ k ≤ buf.length
  next : ∀ {buf x k}, Good buf → front buf = some (x, k) → Good (buf.drop k)

variable {front} {buf : List α} {part : List α} {parts : List (List α)} {x : ι} {k n : Nat}
  {Good : List α → Prop}

theorem items_of_some (h : front buf = some (x, k)) (n : Nat) (parts : List (List α)) :
    front.items (n + 1) buf parts = x :: front.items n (buf.drop k) parts := by
  have hfill : front.fill buf parts = (buf, parts) := by
    rcases parts with _ | ⟨part, parts⟩
    · rfl
    · rw [fill, h]
      rfl
  rw [items, hfill]
  dsimp only
  rw [h]

theorem items_nil_of_none (h : front buf = none) (n : Nat) : front.items n buf [] = [] := by
  rcases n with _ | n
  · rfl
  · rw [items, fill]
    dsimp only
    rw [h]

theorem items_one (buf : List α) : front.items 1 buf [] = ((front buf).map Prod.fst).toList := by
  rcases h : front buf with _ | ⟨x, k⟩
  · exact items_nil_of_none h 1
  · exact items_of_some h 0 []

theorem items_cons_of_none (h : front buf = none) (n : Nat) (part : List α)
    (parts : List (List α)) :
    front.items n buf (part :: parts) = front.items n (buf ++ part) parts := by
  rcases n with _ | n
  · rfl
  · have hfill : front.fill buf (part :: parts) = front.fill (buf ++ part) parts := by
      rw [fill, h]
      rfl
    rw [items, items, hfill]

/-- The first item may arrive on its own. -/
theorem items_first {first : List α} (hempty : front [] = none)
    (h : front first = some (x, first.length)) (n : Nat) (parts : List (List α)) :
    front.items (n + 1) [] (first :: parts) = x :: front.items n [] parts := by
  rw [items_cons_of_none hempty, List.nil_append, items_of_some h, List.drop_length]

/-- It does not matter how a stream arrives. -/
theorem items_parts (hstable : front.Stable Good) (h : Good (buf ++ parts.flatten)) :
    front.items n buf parts = front.items n (buf ++ parts.flatten) [] := by
  induction n generalizing buf parts with
  | zero => rfl
  | succ n ih =>
    induction parts generalizing buf with
    | nil => rw [List.flatten_nil, List.append_nil]
    | cons part parts ihparts =>
      rcases hfront : front buf with _ | ⟨x, k⟩
      · rw [List.flatten_cons, ← List.append_assoc] at h ⊢
        rw [items_cons_of_none hfront]
        exact ihparts h
      · obtain ⟨hwhole, hle⟩ := hstable.append h hfront
        have hnext := hstable.next h hwhole
        rw [items_of_some hfront, items_of_some hwhole, List.drop_append_of_le_length hle]
        rw [List.drop_append_of_le_length hle] at hnext
        exact congrArg (x :: ·) (ih hnext)

/-- Fewer items are the first of more. -/
theorem items_take {m : Nat} (h : m ≤ n) (buf : List α) (parts : List (List α)) :
    front.items m buf parts = (front.items n buf parts).take m := by
  induction m generalizing n buf parts with
  | zero => rfl
  | succ m ih =>
    obtain ⟨n, rfl⟩ : ∃ j, n = j + 1 := ⟨n - 1, by omega⟩
    rw [items, items]
    rcases front (front.fill buf parts).1 with _ | ⟨x, k⟩
    · rfl
    · exact congrArg (x :: ·) (ih (by omega) _ _)

end Cutter

/-- A loop that reads a stream: each turn takes the item at the front of its buffer off, and the
    loop is left when none is complete. -/
structure Reader (σ ε α ι : Type*) where
  body : σ → Except ε (Turn σ)
  buffer : σ → List α
  receive : List α → σ → σ
  front : Cutter α ι
  buffer_receive : ∀ bytes s, buffer (receive bytes s) = buffer s ++ bytes
  leave : ∀ {s}, front (buffer s) = none → body s = .ok (.leave s)
  take : ∀ {s x k r}, front (buffer s) = some (x, k) → body s = .ok r →
    ∃ t, r = .again t ∧ buffer t = (buffer s).drop k

namespace Reader

variable {σ ε α ι : Type*} (R : Reader σ ε α ι)

/-- The item that a turn takes off. -/
def taken (s : σ) : List ι := ((R.front (R.buffer s)).map Prod.fst).toList

/-- The loop, in at most so many turns: the items that it takes off, and how it ends. -/
def read : Nat → σ → Option (List ι × Except ε σ)
  | 0, _ => none
  | n + 1, s =>
    match R.body s with
    | .error e => some (R.taken s, .error e)
    | .ok (.leave t) => some (R.taken s, .ok t)
    | .ok (.again t) => (read n t).map fun x => (R.taken s ++ x.1, x.2)

/-- A stream arrives in parts. Each is read in a loop of at most so many turns, and something else
    happens behind it. -/
def reads (turns : Nat) : List (List α × (σ → σ)) → σ → Option (List ι × Except ε σ)
  | [], s => some ([], .ok s)
  | (part, other) :: parts, s =>
    match R.read turns (R.receive part s) with
    | none => none
    | some (xs, .error e) => some (xs, .error e)
    | some (xs, .ok t) => (reads turns parts (other t)).map fun x => (xs ++ x.1, x.2)

/-- The loop throws at an item. -/
def ThrowsAt (e : ε) (x : ι) : Prop :=
  ∃ s k, R.front (R.buffer s) = some (x, k) ∧ R.body s = .error e

variable {R} {s t : σ} {n : Nat} {xs : List ι} {r : Except ε σ} {Good : List α → Prop}

/-- The loop is the one that the items are noted down of. -/
theorem read_snd : (R.read n s).map Prod.snd = Loop.run R.body n s := by
  induction n generalizing s with
  | zero => rfl
  | succ n ih =>
    rw [read, Loop.run]
    rcases R.body s with e | t | t
    · rfl
    · rfl
    · dsimp only
      rw [← ih, Option.map_map]
      rfl

/-- Where a loop ends, nothing complete is left, or it throws at the last item. -/
theorem read_spec (h : R.read n s = some (xs, r)) :
    (∀ t, r = .ok t → R.front (R.buffer t) = none ∧ ∀ m parts,
      R.front.items (xs.length + m) (R.buffer s) parts = xs ++ R.front.items m (R.buffer t) parts) ∧
    ∀ e, r = .error e → (∃ x ∈ xs.getLast?, R.ThrowsAt e x) ∧
      ∀ parts, R.front.items xs.length (R.buffer s) parts = xs := by
  induction n generalizing s xs with
  | zero => cases h
  | succ n ih =>
    rw [read] at h
    rcases hfront : R.front (R.buffer s) with _ | ⟨x, k⟩
    · have htaken : R.taken s = [] := by
        rw [taken, hfront]
        rfl
      rw [R.leave hfront, htaken] at h
      cases h
      refine ⟨?_, fun e he => by cases he⟩
      rintro t ht
      cases ht
      refine ⟨hfront, fun m parts => ?_⟩
      rw [List.length_nil, Nat.zero_add, List.nil_append]
    · have htaken : R.taken s = [x] := by
        rw [taken, hfront]
        rfl
      rw [htaken] at h
      rcases hbody : R.body s with e | r'
      · rw [hbody] at h
        cases h
        refine ⟨(fun t ht => by cases ht), ?_⟩
        rintro e' he
        cases he
        exact ⟨⟨x, rfl, s, k, hfront, hbody⟩, fun parts => Cutter.items_of_some hfront 0 parts⟩
      · obtain ⟨t, rfl, hbuf⟩ := R.take hfront hbody
        rw [hbody] at h
        obtain ⟨⟨ys, r'⟩, hread, heq⟩ := Option.map_eq_some_iff.1 h
        cases heq
        obtain ⟨hok, herror⟩ := ih hread
        refine ⟨fun u hu => ?_, fun e he => ?_⟩
        · obtain ⟨hnone, hitems⟩ := hok u hu
          refine ⟨hnone, fun m parts => ?_⟩
          rw [List.singleton_append, List.length_cons, Nat.add_right_comm,
            Cutter.items_of_some hfront, ← hbuf, hitems, List.cons_append]
        · obtain ⟨⟨y, hy, hthrows⟩, hitems⟩ := herror e he
          refine ⟨⟨y, ?_, hthrows⟩, fun parts => ?_⟩
          · rcases ys with _ | ⟨z, zs⟩
            · cases hy
            · rw [List.singleton_append, List.getLast?_cons_cons]
              exact hy
          · rw [List.singleton_append, List.length_cons, Cutter.items_of_some hfront, ← hbuf, hitems]

/-- A reader takes off the items of the stream: all that are complete, or those up to one that its
    loop throws at. -/
theorem reads_spec {turns : Nat} {parts : List (List α × (σ → σ))}
    (hother : ∀ p ∈ parts, ∀ t, R.buffer (p.2 t) = R.buffer t)
    (hs : R.front (R.buffer s) = none) (h : R.reads turns parts s = some (xs, r)) :
    (∀ t, r = .ok t → R.front (R.buffer t) = none ∧ ∀ m,
      R.front.items (xs.length + m) (R.buffer s) (parts.map Prod.fst) = xs) ∧
    ∀ e, r = .error e → (∃ x ∈ xs.getLast?, R.ThrowsAt e x) ∧
      R.front.items xs.length (R.buffer s) (parts.map Prod.fst) = xs := by
  induction parts generalizing s xs with
  | nil =>
    cases h
    refine ⟨?_, fun e he => by cases he⟩
    rintro t ht
    cases ht
    exact ⟨hs, fun m => Cutter.items_nil_of_none hs _⟩
  | cons p parts ih =>
    obtain ⟨part, other⟩ := p
    have hbuf := R.buffer_receive part s
    rw [reads] at h
    rcases hread : R.read turns (R.receive part s) with _ | ⟨ys, e | t⟩
    · rw [hread] at h
      cases h
    · rw [hread] at h
      cases h
      obtain ⟨-, herror⟩ := read_spec hread
      refine ⟨(fun t ht => by cases ht), fun e' he => ?_⟩
      obtain ⟨hlast, hitems⟩ := herror e' he
      refine ⟨hlast, ?_⟩
      rw [List.map_cons, Cutter.items_cons_of_none hs, ← hbuf]
      exact hitems _
    · rw [hread] at h
      obtain ⟨⟨zs, r'⟩, hreads, heq⟩ := Option.map_eq_some_iff.1 h
      cases heq
      obtain ⟨hok, -⟩ := read_spec hread
      obtain ⟨hnone, hitems⟩ := hok t rfl
      have hkept : R.buffer (other t) = R.buffer t := hother _ List.mem_cons_self t
      obtain ⟨ihok, iherror⟩ := ih (fun p hp => hother p (List.mem_cons_of_mem _ hp))
        (hkept ▸ hnone) hreads
      rw [hkept] at ihok iherror
      refine ⟨fun u hu => ?_, fun e he => ?_⟩
      · obtain ⟨hrest, hmore⟩ := ihok u hu
        refine ⟨hrest, fun m => ?_⟩
        rw [List.map_cons, Cutter.items_cons_of_none hs, ← hbuf, List.length_append, Nat.add_assoc,
          hitems, hmore]
      · obtain ⟨⟨x, hx, hthrows⟩, hmore⟩ := iherror e he
        refine ⟨⟨x, ?_, hthrows⟩, ?_⟩
        · rw [List.getLast?_append, Option.mem_def.1 hx]
          rfl
        · rw [List.map_cons, Cutter.items_cons_of_none hs, ← hbuf, List.length_append, hitems, hmore]

/-- A loop ends if every item takes something off. What is left is as good as before. -/
theorem exists_read {rest : List α} (hstable : R.front.Stable Good)
    (hpos : ∀ {buf more x k}, Good (buf ++ more) → R.front buf = some (x, k) → 0 < k)
    (hgood : Good (R.buffer s ++ rest)) (hn : (R.buffer s).length < n) :
    ∃ xs r, R.read n s = some (xs, r) ∧ ∀ t, r = .ok t →
      Good (R.buffer t ++ rest) ∧ (R.buffer t).length ≤ (R.buffer s).length := by
  induction n generalizing s with
  | zero => exact absurd hn (Nat.not_lt_zero _)
  | succ n ih =>
    rw [read]
    rcases hfront : R.front (R.buffer s) with _ | ⟨x, k⟩
    · rw [R.leave hfront]
      refine ⟨_, _, rfl, ?_⟩
      rintro t ht
      cases ht
      exact ⟨hgood, le_rfl⟩
    · rcases hbody : R.body s with e | r'
      · exact ⟨_, _, rfl, fun t ht => by cases ht⟩
      · obtain ⟨t, rfl, hbuf⟩ := R.take hfront hbody
        obtain ⟨hwhole, hle⟩ := hstable.append hgood hfront
        have hnext := hstable.next hgood hwhole
        have hk := hpos hgood hfront
        rw [List.drop_append_of_le_length hle, ← hbuf] at hnext
        have hlen : (R.buffer t).length + k = (R.buffer s).length := by
          rw [hbuf, List.length_drop]
          omega
        obtain ⟨xs, r, hread, hok⟩ := ih hnext (by omega)
        refine ⟨R.taken s ++ xs, r, ?_, fun u hu => ?_⟩
        · dsimp only
          rw [hread]
          rfl
        · obtain ⟨hgood', hle'⟩ := hok u hu
          exact ⟨hgood', by omega⟩

/-- The loops over the parts of a good stream end. What is left is good, too. -/
theorem exists_reads {turns : Nat} {parts : List (List α × (σ → σ))}
    (hstable : R.front.Stable Good)
    (hpos : ∀ {buf more x k}, Good (buf ++ more) → R.front buf = some (x, k) → 0 < k)
    (hother : ∀ p ∈ parts, ∀ t, R.buffer (p.2 t) = R.buffer t)
    (hgood : Good (R.buffer s ++ (parts.map Prod.fst).flatten))
    (hturns : (R.buffer s ++ (parts.map Prod.fst).flatten).length < turns) :
    ∃ xs r, R.reads turns parts s = some (xs, r) ∧ ∀ t, r = .ok t → Good (R.buffer t) := by
  induction parts generalizing s with
  | nil =>
    refine ⟨_, _, rfl, ?_⟩
    rintro t ht
    cases ht
    rwa [List.map_nil, List.flatten_nil, List.append_nil] at hgood
  | cons p parts ih =>
    obtain ⟨part, other⟩ := p
    have hbuf := R.buffer_receive part s
    rw [List.map_cons, List.flatten_cons, ← List.append_assoc, ← hbuf] at hgood hturns
    have hlen := @List.length_append _ (R.buffer (R.receive part s)) (parts.map Prod.fst).flatten
    obtain ⟨xs, r, hread, hok⟩ := exists_read hstable hpos hgood (n := turns) (by omega)
    rw [reads, hread]
    rcases r with e | t
    · exact ⟨_, _, rfl, fun t ht => by cases ht⟩
    · obtain ⟨hnext, hle⟩ := hok t rfl
      have hkept : R.buffer (other t) = R.buffer t := hother _ List.mem_cons_self t
      obtain ⟨ys, r', hreads, hleft⟩ := ih (fun p hp => hother p (List.mem_cons_of_mem _ hp))
        (hkept ▸ hnext) (by rw [hkept, List.length_append]; omega)
      refine ⟨xs ++ ys, r', ?_, hleft⟩
      dsimp only
      rw [hreads]
      rfl

/-- Items that a stream consists of are taken off: all of them, and nothing is left, or those up to
    one that the loop throws at. -/
def Deframes (R : Reader σ ε α ι) (us : List ι) (stream : List α) : Prop :=
  ∀ s parts turns, R.buffer s = [] → (parts.map Prod.fst).flatten = stream →
    (∀ p ∈ parts, ∀ t, R.buffer (p.2 t) = R.buffer t) → stream.length < turns →
    ∃ xs r, R.reads turns parts s = some (xs, r) ∧
      (∀ t, r = .ok t → xs = us ∧ R.buffer t = []) ∧
      ∀ e, r = .error e → xs <+: us ∧ ∃ x ∈ xs.getLast?, R.ThrowsAt e x

theorem deframes {us : List ι} {stream : List α} (hstable : R.front.Stable Good)
    (hpos : ∀ {buf more x k}, Good (buf ++ more) → R.front buf = some (x, k) → 0 < k)
    (hnil : ∀ {buf}, Good buf → (R.front buf = none ↔ buf = [])) (hempty : R.front [] = none)
    (hgood : Good stream) (hitems : ∀ m, R.front.items (us.length + m) stream [] = us) :
    R.Deframes us stream := by
  rintro s parts turns hs rfl hother hturns
  have hwhole : R.buffer s ++ (parts.map Prod.fst).flatten = (parts.map Prod.fst).flatten := by
    rw [hs, List.nil_append]
  obtain ⟨xs, r, hreads, hleft⟩ := @exists_reads _ _ _ _ R s Good turns parts hstable hpos hother
    (hwhole.symm ▸ hgood) (hwhole.symm ▸ hturns)
  obtain ⟨hok, herror⟩ := reads_spec hother (hs ▸ hempty) hreads
  -- however the stream has arrived, these are its first items
  have hfirst : ∀ n, R.front.items n (R.buffer s) (parts.map Prod.fst) = us.take n := by
    intro n
    rw [Cutter.items_parts hstable (hwhole.symm ▸ hgood), hwhole,
      Cutter.items_take (Nat.le_add_left n us.length), hitems]
  refine ⟨xs, r, hreads, fun t ht => ?_, fun e he => ?_⟩
  · obtain ⟨hnone, hxs⟩ := hok t ht
    refine ⟨?_, (hnil (hleft t ht)).1 hnone⟩
    rw [← hxs us.length, hfirst, List.take_of_length_le (Nat.le_add_left _ _)]
  · obtain ⟨hlast, hxs⟩ := herror e he
    refine ⟨?_, hlast⟩
    rw [← hxs, hfirst]
    exact List.take_prefix _ _

end Reader

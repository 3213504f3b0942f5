import RtsProxy.Regex.Basic
import RtsProxy.Text.Parts

/-!
# Expressions that read texts and runs

An expression that is a sequence of literal texts and of runs of a class, no run being followed
by a byte of its class, reads one text only at a place: its matches can be found by scanning.

* `run_text`, `run_plus`: what the matcher does with a text, and with a run;
* `Scans.search_eq_none_iff`: there is no match where nothing is read anywhere;
* `replace_eq_scan`: to replace the matches, the text is scanned once;
* `splitOnP_scan`: where bytes cannot be read, the parts between them are scanned on their own.
-/

namespace Ecma

open Text

namespace Regex

/-! ## Readers -/

/-- How many bytes are read at the start of a text, if something is there to be read. -/
abbrev Reader := Bytes → Option Nat

/-- A literal text. -/
def readText (pat : Bytes) : Reader := fun s =>
  if pat.isPrefixOf s then some pat.length else none

/-- The longest run of a class, which is not empty. -/
def readRun (k : ByteClass) : Reader := fun s =>
  if (s.takeWhile k.mem).length = 0 then none else some (s.takeWhile k.mem).length

/-- One thing after the other. -/
def readAll : List Reader → Reader
  | [], _ => some 0
  | f :: fs, s => (f s).bind fun n => (readAll fs (s.drop n)).map (n + ·)

/-- An expression matches exactly what a reader reads, which is not empty. -/
structure Scans (r : Regex) (f : Reader) : Prop where
  found : ∀ (c : Cursor) (n : Nat), f c.rest = some n → 0 < n ∧ n ≤ c.rest.length ∧
    ∃ caps, matchHere r false c = some (⟨c.idx, c.rest.take n, caps⟩, c.skip n)
  missed : ∀ c : Cursor, f c.rest = none → matchHere r false c = none

/-- A text with what a reader finds in it replaced, and the first bytes of it left out. -/
def scan (f : Reader) (new : Bytes) : Nat → Bytes → Bytes
  | _, [] => []
  | n + 1, _ :: s => scan f new n s
  | 0, c :: s =>
    match f (c :: s) with
    | none => c :: scan f new 0 s
    | some n => new ++ scan f new (n - 1) s

variable {i : Nat} {c : Cursor} {p : Trail} {k : Cont} {K : ByteClass} {ts : List Regex}

/-! ## Matching -/

theorem skip_of_le {n : Nat} (h : n ≤ c.rest.length) :
    (c.skip n).idx = c.idx + n ∧ (c.skip n).rest = c.rest.drop n := by
  induction n generalizing c with
  | zero => exact ⟨rfl, rfl⟩
  | succ n ih =>
    rcases hrest : c.rest with _ | ⟨b, rest⟩
    · rw [hrest] at h
      exact absurd h (Nat.not_succ_le_zero n)
    · rw [hrest] at h
      rw [Cursor.skip, hrest]
      obtain ⟨hidx, hdrop⟩ := @ih ⟨c.idx + 1, some b, rest⟩ (Nat.le_of_succ_le_succ h)
      refine ⟨?_, hdrop⟩
      rw [hidx, Nat.add_assoc, Nat.add_comm 1]

theorem skip_of_nil {n : Nat} (h : c.rest = []) : c.skip n = c := by
  rcases n with _ | n
  · rfl
  · rw [Cursor.skip, h]

theorem skip_skip {m n : Nat} : (c.skip m).skip n = c.skip (m + n) := by
  induction m generalizing c with
  | zero => rw [Nat.zero_add, Cursor.skip]
  | succ m ih =>
    rcases hrest : c.rest with _ | ⟨b, rest⟩
    · rw [skip_of_nil hrest, skip_of_nil hrest, skip_of_nil hrest]
    · rw [Nat.succ_add, Cursor.skip, Cursor.skip, hrest]
      exact ih

theorem mem_lit {b d : UInt8} : (⟨[(b, b)], false⟩ : ByteClass).mem d = true ↔ d = b := by
  simp only [ByteClass.mem, List.any_cons, List.any_nil, Bool.or_false, Bool.bne_false,
    Bool.and_eq_true, decide_eq_true_eq]
  exact ⟨fun h => UInt8.le_antisymm h.2 h.1, fun h => h ▸ ⟨UInt8.le_refl _, UInt8.le_refl _⟩⟩

/-- A literal text is there, and what is behind it matches. -/
theorem run_text (text : Bytes) : run ((text.map lit ++ ts).foldr seq empty) i c p k =
    if text.isPrefixOf c.rest then run (ts.foldr seq empty) i (c.skip text.length) p k
    else none := by
  induction text generalizing c with
  | nil => rfl
  | cons b text ih =>
    rw [List.map_cons, List.cons_append, List.foldr_cons, run, lit, run]
    rcases hrest : c.rest with _ | ⟨d, rest⟩
    · rfl
    · dsimp only
      have hloops : (one ⟨[(b, b)], false⟩).loops = 0 := rfl
      by_cases hd : d = b
      · rw [if_pos (mem_lit.2 hd), hloops, Nat.add_zero, ih, List.length_cons, Cursor.skip, hrest,
          hd]
        simp only [List.isPrefixOf, beq_self_eq_true, Bool.true_and]
      · rw [if_neg (mt mem_lit.1 hd)]
        simp only [List.isPrefixOf, Bool.and_eq_true, beq_iff_eq]
        rw [if_neg fun h => hd h.1.symm]

/-- The loops that have been gone round have smaller numbers. -/
def Trail.Below (p : Trail) (i : Nat) : Prop := ∀ n ∈ p.rounds, n.loop < i

/-- A loop has been reached before a cursor only. -/
def Trail.Before (p : Trail) (loop : Nat) (c : Cursor) : Prop :=
  ∀ n ∈ p.rounds, n.loop = loop → n.place < c.idx

theorem Trail.Below.before (h : p.Below i) : p.Before i c := fun n hn hloop =>
  absurd (h n hn) (hloop ▸ Nat.lt_irrefl _)

theorem begun_of_before {loop : Nat} (h : p.Before loop c) : p.begun loop c = 0 := by
  rw [Trail.begun]
  split
  · rfl
  case h_2 n hn =>
    have hloop : n.loop = loop := of_decide_eq_true (List.find?_eq_some_iff_append.1 hn).1
    exact if_neg (h n (List.mem_of_find?_eq_some hn) hloop).ne

/-- What is carried along behind so many rounds that take a byte each. -/
def Trail.after (loop : Nat) : Nat → Cursor → Trail → Trail
  | 0, _, p => p
  | m + 1, c, p => Trail.after loop m (c.skip 1) (p.begin loop c)

theorem Trail.Below.after (h : p.Below i) (m : Nat) (c : Cursor) :
    (Trail.after i m c p).Below (i + 1) := by
  have hafter : ∀ m c (q : Trail), q.Below (i + 1) → (Trail.after i m c q).Below (i + 1) := by
    intro m
    induction m with
    | zero => exact fun c q hq => hq
    | succ m ih =>
      intro c q hq
      refine ih _ _ fun n hn => ?_
      rcases List.mem_cons.1 hn with rfl | hn
      · exact Nat.lt_succ_self i
      · exact hq n hn
  exact hafter m c p fun n hn => Nat.lt_succ_of_lt (h n hn)

/-- A run is matched as a whole, if what is behind it fails at a shorter one whenever it does at
    the whole. -/
theorem repeatFrom_run {loop fuel : Nat} (hfuel : c.rest.length < fuel) (hp : p.Before loop c)
    (hk : ∀ m < (c.rest.takeWhile K.mem).length,
      k (c.skip (c.rest.takeWhile K.mem).length)
          (Trail.after loop (c.rest.takeWhile K.mem).length c p) = none →
        k (c.skip m) (Trail.after loop m c p) = none) :
    repeatFrom (run (one K) i) loop true fuel c p k =
      k (c.skip (c.rest.takeWhile K.mem).length)
        (Trail.after loop (c.rest.takeWhile K.mem).length c p) := by
  induction fuel generalizing c p with
  | zero => exact absurd hfuel (Nat.not_lt_zero _)
  | succ fuel ih =>
    have hbegin : p.mayBegin loop c = true := by
      rw [Trail.mayBegin, begun_of_before hp]
      rfl
    rw [repeatFrom, if_pos hbegin, if_pos rfl, run]
    rcases hrest : c.rest with _ | ⟨b, rest⟩
    · rfl
    · rw [hrest] at hfuel hk
      dsimp only
      by_cases hb : K.mem b = true
      · rw [List.takeWhile_cons_of_pos hb, List.length_cons] at hk ⊢
        have hskip : ∀ n, c.skip (n + 1) = Cursor.skip ⟨c.idx + 1, some b, rest⟩ n := by
          intro n
          rw [Cursor.skip, hrest]
        have hone : c.skip 1 = ⟨c.idx + 1, some b, rest⟩ := hskip 0
        have hbefore : (p.begin loop c).Before loop ⟨c.idx + 1, some b, rest⟩ := by
          intro n hn hloop
          rcases List.mem_cons.1 hn with rfl | hn
          · exact Nat.lt_succ_self _
          · exact Nat.lt_succ_of_lt (hp n hn hloop)
        have hmore := @ih ⟨c.idx + 1, some b, rest⟩ (p.begin loop c) (Nat.lt_of_succ_lt_succ hfuel)
          hbefore ?_
        · rw [if_pos hb, hmore, Trail.after, hone, hskip]
          -- the whole run is tried first
          rcases hwhole : k (Cursor.skip ⟨c.idx + 1, some b, rest⟩ (rest.takeWhile K.mem).length)
            (Trail.after loop (rest.takeWhile K.mem).length ⟨c.idx + 1, some b, rest⟩
              (p.begin loop c)) with _ | out
          · refine hk 0 (Nat.succ_pos _) ?_
            rw [Trail.after, hone, hskip]
            exact hwhole
          · rfl
        · intro m hm hnone
          have hshort := hk (m + 1) (Nat.succ_lt_succ hm)
          rw [Trail.after, Trail.after, hone, hskip, hskip] at hshort
          exact hshort hnone
      · rw [List.takeWhile_cons_of_neg hb, if_neg hb]
        rfl

/-- A run of a class, and what is behind it. -/
theorem run_plus (hp : p.Below i) (hk : ∀ m < (c.rest.takeWhile K.mem).length, 0 < m →
      k (c.skip (c.rest.takeWhile K.mem).length)
          (Trail.after i ((c.rest.takeWhile K.mem).length - 1) (c.skip 1) p) = none →
        k (c.skip m) (Trail.after i (m - 1) (c.skip 1) p) = none) :
    run (plus (one K) true) i c p k = (readRun K c.rest).bind fun n =>
      k (c.skip n) (Trail.after i (n - 1) (c.skip 1) p) := by
  rw [run, run, readRun]
  rcases hrest : c.rest with _ | ⟨b, rest⟩
  · rfl
  · dsimp only
    by_cases hb : K.mem b = true
    · rw [hrest, List.takeWhile_cons_of_pos hb, List.length_cons] at hk
      have hskip : ∀ n, c.skip (n + 1) = Cursor.skip ⟨c.idx + 1, some b, rest⟩ n := by
        intro n
        rw [Cursor.skip, hrest]
      have hone : c.skip 1 = ⟨c.idx + 1, some b, rest⟩ := hskip 0
      have hmore := @repeatFrom_run (i + 1) ⟨c.idx + 1, some b, rest⟩ p k K i
        (roundLimit ⟨c.idx + 1, some b, rest⟩) (by rw [roundLimit]; omega) hp.before ?_
      · rw [if_pos hb, hmore, List.takeWhile_cons_of_pos hb, List.length_cons,
          if_neg (Nat.succ_ne_zero _), Option.bind_some, hskip, Nat.add_sub_cancel, hone]
      · intro m hm hnone
        have hshort := hk (m + 1) (Nat.succ_lt_succ hm) (Nat.succ_pos _)
        rw [hone, hskip, hskip, Nat.add_sub_cancel, Nat.add_sub_cancel] at hshort
        exact hshort hnone
    · rw [if_neg hb, List.takeWhile_cons_of_neg hb]
      rfl

/-! ## Sequences -/

/-- A continuation that takes whatever it is given. -/
def Total (k : Cont) : Prop := ∀ c p, k c p ≠ none

/-- Expressions, one behind the other, match exactly what readers read. -/
def Follows (ts : List Regex) (fs : List Reader) : Prop :=
  ∀ (i : Nat) (c : Cursor) (p : Trail) (k : Cont), p.Below i → Total k →
    ∃ p', run (ts.foldr seq empty) i c p k = (readAll fs c.rest).bind fun n => k (c.skip n) p'

/-- They do not match in front of a byte of a class. -/
def Rejects (ts : List Regex) (K : ByteClass) : Prop :=
  ∀ (i : Nat) (c : Cursor) (p : Trail) (k : Cont), (∃ b ∈ c.rest.head?, K.mem b = true) →
    run (ts.foldr seq empty) i c p k = none

theorem readText_le {pat s : Bytes} {n : Nat} (h : readText pat s = some n) :
    n = pat.length ∧ pat <+: s := by
  rw [readText] at h
  split at h
  case isTrue hpre => exact ⟨(Option.some.inj h).symm, List.isPrefixOf_iff_prefix.1 hpre⟩
  case isFalse => cases h

theorem readRun_le {s : Bytes} {n : Nat} (h : readRun K s = some n) :
    0 < n ∧ n ≤ s.length ∧ n = (s.takeWhile K.mem).length := by
  rw [readRun] at h
  split at h
  · cases h
  case isFalse hne =>
    cases h
    exact ⟨Nat.pos_of_ne_zero hne, (List.takeWhile_sublist _).length_le, rfl⟩

/-- Readers that stay inside the text, one after the other. -/
theorem readAll_le {fs : List Reader} (hfs : ∀ f ∈ fs, ∀ s n, f s = some n → n ≤ s.length)
    {s : Bytes} {n : Nat} (h : readAll fs s = some n) : n ≤ s.length := by
  induction fs generalizing s n with
  | nil =>
    cases h
    exact Nat.zero_le _
  | cons f fs ih =>
    obtain ⟨m, hm, h⟩ := Option.bind_eq_some_iff.1 h
    obtain ⟨i, hi, rfl⟩ := Option.map_eq_some_iff.1 h
    have hle := hfs f List.mem_cons_self s m hm
    have hmore := ih (fun g hg => hfs g (List.mem_cons_of_mem _ hg)) hi
    rw [List.length_drop] at hmore
    omega

theorem follows_nil : Follows [] [] := fun _ _ p _ _ _ => ⟨p, rfl⟩

theorem follows_text {fs : List Reader} (text : Bytes) (h : Follows ts fs) :
    Follows (text.map lit ++ ts) (readText text :: fs) := by
  intro i c p k hp hk
  rw [run_text, readAll, readText]
  split
  case isTrue hpre =>
    have hle := (List.isPrefixOf_iff_prefix.1 hpre).length_le
    obtain ⟨p', hrun⟩ := h i (c.skip text.length) p k hp hk
    refine ⟨p', ?_⟩
    rw [hrun, (skip_of_le hle).2, Option.bind_some, Option.bind_map]
    simp only [skip_skip, Function.comp_def]
  case isFalse => exact ⟨p, rfl⟩

/-- A run, perhaps captured, is matched as a whole if nothing of its class matches behind it. -/
theorem follows_run_of {t : Regex} {fs : List Reader} (h : Follows ts fs)
    (hts : ts = [] ∨ Rejects ts K) (hloops : t.loops = 1)
    (ht : ∀ i c p, ∃ note : Cursor → Trail → Trail, (∀ c' p', (note c' p').rounds = p'.rounds) ∧
      ∀ k, run t i c p k = run (plus (one K) true) i c p fun c' p' => k c' (note c' p')) :
    Follows (t :: ts) (readRun K :: fs) := by
  intro i c p k hp hk
  obtain ⟨note, hrounds, hnote⟩ := ht i c p
  rw [List.foldr_cons, run, hnote, readAll, run_plus hp, hloops]
  · rcases hn : readRun K c.rest with _ | n
    · exact ⟨p, rfl⟩
    · obtain ⟨-, hle, -⟩ := readRun_le hn
      have hbelow : (note (c.skip n) (Trail.after i (n - 1) (c.skip 1) p)).Below (i + 1) := by
        rw [Trail.Below, hrounds]
        exact hp.after _ _
      obtain ⟨p', hrun⟩ := h (i + 1) (c.skip n) _ k hbelow hk
      refine ⟨p', ?_⟩
      rw [Option.bind_some, Option.bind_some, hrun, (skip_of_le hle).2, Option.bind_map]
      simp only [skip_skip, Function.comp_def]
  · -- what is behind a shorter run begins with a byte of the class, and so it fails
    intro m hm hpos hnone
    rcases hts with rfl | hrejects
    · exact absurd hnone (hk _ _)
    · refine hrejects _ _ _ _ ?_
      have hle : m < c.rest.length := hm.trans_le (List.takeWhile_sublist _).length_le
      have hget : (c.rest.takeWhile K.mem)[m] = c.rest[m] :=
        (List.takeWhile_prefix K.mem).getElem hm
      rw [(skip_of_le hle.le).2, List.head?_drop]
      refine ⟨c.rest[m], List.getElem?_eq_getElem hle, ?_⟩
      rw [← hget]
      exact List.mem_takeWhile_imp (List.getElem_mem hm)

theorem follows_run {fs : List Reader} (h : Follows ts fs) (hts : ts = [] ∨ Rejects ts K) :
    Follows (plus (one K) true :: ts) (readRun K :: fs) :=
  follows_run_of h hts rfl fun _ _ _ => ⟨fun _ p' => p', fun _ _ => rfl, fun _ => rfl⟩

theorem follows_group {n : Nat} {fs : List Reader} (h : Follows ts fs)
    (hts : ts = [] ∨ Rejects ts K) :
    Follows (group n (seq (plus (one K) true) empty) :: ts) (readRun K :: fs) :=
  follows_run_of h hts rfl fun _ c _ =>
    ⟨fun c' p' => { p' with caps := ⟨n, c.idx, c.rest.take (c'.idx - c.idx)⟩ :: p'.caps },
      fun _ _ => rfl, fun _ => rfl⟩

theorem rejects_text {b : UInt8} {text : Bytes} (hb : K.mem b = false) :
    Rejects ((b :: text).map lit ++ ts) K := by
  rintro i c p k ⟨d, hd, hmem⟩
  rw [run_text, if_neg]
  rcases hrest : c.rest with _ | ⟨e, rest⟩
  · exact Bool.false_ne_true
  · rw [hrest] at hd
    obtain rfl : e = d := Option.some.inj hd
    simp only [List.isPrefixOf, Bool.and_eq_true, beq_iff_eq]
    rintro ⟨rfl, -⟩
    exact Bool.false_ne_true (hb.symm.trans hmem)

/-- A sequence that starts with a text is a match of what is read. -/
theorem scans_of_follows {text : Bytes} {fs : List Reader} (htext : text ≠ [])
    (hfs : ∀ f ∈ fs, ∀ s n, f s = some n → n ≤ s.length)
    (h : Follows ts (readText text :: fs)) :
    Scans (ts.foldr seq empty) (readAll (readText text :: fs)) where
  found := by
    intro c n hn
    have hpos : 0 < n := by
      obtain ⟨m, hm, hmore⟩ := Option.bind_eq_some_iff.1 hn
      obtain ⟨i, -, rfl⟩ := Option.map_eq_some_iff.1 hmore
      have hlen := List.length_pos_iff.2 htext
      have htake := (readText_le hm).1
      omega
    have hle : n ≤ c.rest.length := by
      refine readAll_le (fun f hf => ?_) hn
      rcases List.mem_cons.1 hf with rfl | hf
      · intro s m hm
        obtain ⟨rfl, hpre⟩ := readText_le hm
        exact hpre.length_le
      · exact hfs f hf
    refine ⟨hpos, hle, ?_⟩
    obtain ⟨p, hrun⟩ := h 0 c { fresh := c.prev.isNone } (fun c' p =>
      if false = true ∧ c'.idx = c.idx then none else some (c', p)) nofun fun c' p => by simp
    refine ⟨p.caps, ?_⟩
    rw [matchHere, hrun, hn, Option.bind_some]
    simp [(skip_of_le hle).1]
  missed := by
    intro c hn
    obtain ⟨p, hrun⟩ := h 0 c { fresh := c.prev.isNone } (fun c' p =>
      if false = true ∧ c'.idx = c.idx then none else some (c', p)) nofun fun c' p => by simp
    rw [matchHere, hrun, hn]
    rfl

/-! ## Replacing -/

variable {r : Regex} {f : Reader} {new s : Bytes}

theorem Scans.nil (h : Scans r f) : f [] = none := by
  rcases hf : f [] with _ | n
  · rfl
  · obtain ⟨hpos, hle, -⟩ := h.found (Cursor.start []) n hf
    exact absurd (hpos.trans_le hle) (Nat.lt_irrefl 0)

theorem Scans.searchFrom_eq_none_iff (h : Scans r f) (idx : Nat) (prev : Option UInt8) :
    searchFrom r idx prev s = none ↔ ∀ t, t <:+ s → f t = none := by
  have hhere : ∀ idx prev s, matchHere r false ⟨idx, prev, s⟩ = none ↔ f s = none := by
    intro idx prev s
    refine ⟨fun hmissed => ?_, h.missed ⟨idx, prev, s⟩⟩
    rcases hf : f s with _ | n
    · rfl
    · obtain ⟨-, -, caps, hfound⟩ := h.found ⟨idx, prev, s⟩ n hf
      rw [hmissed] at hfound
      cases hfound
  induction s generalizing idx prev with
  | nil =>
    rw [searchFrom, hhere]
    constructor
    · intro hnil t ht
      rw [List.suffix_nil.1 ht, hnil]
    · exact fun hall => hall [] List.suffix_rfl
  | cons b s ih =>
    have hnext : searchFrom r idx prev (b :: s) = none ↔
        matchHere r false ⟨idx, prev, b :: s⟩ = none ∧ searchFrom r (idx + 1) (some b) s = none := by
      rw [searchFrom]
      rcases matchHere r false ⟨idx, prev, b :: s⟩ with _ | found
      · exact (and_iff_right rfl).symm
      · exact ⟨nofun, nofun⟩
    rw [hnext, hhere]
    simp only [List.suffix_cons_iff, forall_eq_or_imp]
    exact and_congr_right fun _ => ih (idx + 1) (some b)

/-- Nothing is found exactly when nothing is read anywhere. -/
theorem Scans.search_eq_none_iff (h : Scans r f) :
    r.search s = none ↔ ∀ t, t <:+ s → f t = none := by
  rw [search, Option.map_eq_none_iff, h.searchFrom_eq_none_iff]

/-- What is found is what is read at the first place where anything is. -/
theorem Scans.searchFrom_append (h : Scans r f) {a b : Bytes} {n : Nat} (hb : f b = some n)
    (ha : ∀ j < a.length, f ((a ++ b).drop j) = none) (idx : Nat) (prev : Option UInt8) :
    ∃ caps c, searchFrom r idx prev (a ++ b) = some (⟨idx + a.length, b.take n, caps⟩, c) := by
  induction a generalizing idx prev with
  | nil =>
    obtain ⟨hpos, hle, caps, hfound⟩ := h.found ⟨idx, prev, b⟩ n hb
    rcases b with _ | ⟨d, b⟩
    · exact absurd (hpos.trans_le hle) (Nat.lt_irrefl 0)
    · exact ⟨caps, _, by rw [List.nil_append, searchFrom, hfound]; rfl⟩
  | cons d a ih =>
    have hhere := h.missed ⟨idx, prev, d :: (a ++ b)⟩ (ha 0 (Nat.zero_lt_succ _))
    obtain ⟨caps, c, hfound⟩ := ih (fun j hj => ha (j + 1) (Nat.succ_lt_succ hj)) (idx + 1) (some d)
    refine ⟨caps, c, ?_⟩
    rw [List.cons_append, searchFrom, hhere]
    dsimp only
    rw [hfound, List.length_cons, Nat.add_right_comm, Nat.add_assoc]

theorem scan_drop {n : Nat} : scan f new n s = scan f new 0 (s.drop n) := by
  induction n generalizing s with
  | zero => rfl
  | succ n ih =>
    rcases s with _ | ⟨b, s⟩
    · rfl
    · exact ih

theorem scan_of_some {n : Nat} (h : f s = some n) (hpos : 0 < n) (hnil : s ≠ []) :
    scan f new 0 s = new ++ scan f new 0 (s.drop n) := by
  obtain ⟨n, rfl⟩ : ∃ m, n = m + 1 := ⟨n - 1, by omega⟩
  rcases s with _ | ⟨b, s⟩
  · exact absurd rfl hnil
  · rw [scan, h]
    exact congrArg (new ++ ·) scan_drop

theorem scan_of_none {b : UInt8} (h : f (b :: s) = none) :
    scan f new 0 (b :: s) = b :: scan f new 0 s := by
  rw [scan, h]

/-- The matches from a place on, spliced in. -/
theorem splice_search (h : Scans r f) (hnew : 36 ∉ new) {g : Nat} {rest : Bytes} :
    ∀ (idx : Nat) (prev : Option UInt8) (last fuel : Nat), rest = s.drop idx → idx ≤ s.length →
      last ≤ idx → rest.length ≤ fuel →
      splice new g s last (match searchFrom r idx prev rest with
        | none => []
        | some (m, c') => m :: matchesAfter r fuel (m.text = []) c') =
      (s.take idx).drop last ++ scan f new 0 rest := by
  induction hlen : rest.length using Nat.strong_induction_on generalizing rest with
  | _ len ih =>
    intro idx prev last fuel hrest hidx hlast hfuel
    rcases rest with _ | ⟨b, rest⟩
    · have hall : s.take idx = s := List.take_of_length_le (List.drop_eq_nil_iff.1 hrest.symm)
      rw [searchFrom, h.missed ⟨idx, prev, []⟩ h.nil, hall]
      exact (List.append_nil _).symm
    · rw [List.length_cons] at hlen
      have hlt : idx < s.length := by
        refine lt_of_le_of_ne hidx fun heq => ?_
        rw [heq, List.drop_length] at hrest
        cases hrest
      rcases hf : f (b :: rest) with _ | n
      · -- nothing is read here
        have hnext : rest = s.drop (idx + 1) := by
          rw [← List.drop_drop, ← hrest]
          rfl
        have hb : s.take (idx + 1) = s.take idx ++ [b] := by
          rw [List.take_add, ← hrest]
          rfl
        rw [searchFrom, h.missed ⟨idx, prev, b :: rest⟩ hf, scan_of_none hf]
        dsimp only
        rw [ih rest.length (by omega) rfl (idx + 1) (some b) last fuel hnext hlt (by omega)
          (by omega), hb, List.drop_append_of_le_length (by rw [List.length_take]; omega),
          List.append_assoc]
        rfl
      · obtain ⟨hpos, hle, caps, hmatch⟩ := h.found ⟨idx, prev, b :: rest⟩ n hf
        have hcount : n ≤ rest.length + 1 := hle
        obtain ⟨hskip, hdrop⟩ := skip_of_le (c := ⟨idx, prev, b :: rest⟩) hle
        have hne : (b :: rest).take n ≠ [] := by
          obtain ⟨n, rfl⟩ : ∃ m, n = m + 1 := ⟨n - 1, by omega⟩
          exact List.cons_ne_nil _ _
        obtain ⟨fuel, rfl⟩ : ∃ m, fuel = m + 1 := ⟨fuel - 1, by omega⟩
        have hstop : Match.stop ⟨idx, (b :: rest).take n, caps⟩ = idx + n := by
          rw [Match.stop, List.length_take, Nat.min_eq_left hle]
        have hlen' : ((b :: rest).drop n).length < len := by
          rw [List.length_drop, List.length_cons]
          omega
        have hmore : (b :: rest).drop n = s.drop (idx + n) := by
          rw [hrest, List.drop_drop]
        have hend : idx + n ≤ s.length := by
          have hsum := congrArg List.length hrest
          rw [List.length_cons, List.length_drop] at hsum
          omega
        rw [searchFrom, hmatch]
        dsimp only
        rw [splice, expand_of_not_mem hnew, hstop, decide_eq_false hne, matchesAfter, hskip, hdrop]
        dsimp only
        refine (congrArg (fun more => (s.take idx).drop last ++ new ++ more)
          (ih _ hlen' rfl (idx + n) _ (idx + n) fuel hmore hend le_rfl (by omega))).trans ?_
        rw [scan_of_some hf hpos (List.cons_ne_nil _ _), List.drop_take_self, List.append_assoc]
        rfl

/-- What replaces the matches of an expression that reads texts and runs. -/
theorem replace_eq_scan (h : Scans r f) (hnew : 36 ∉ new) (s : Bytes) :
    r.replace new s = scan f new 0 s := by
  have hsplice := splice_search (s := s) (g := r.groups) h hnew 0 none 0 (2 * s.length + 1)
    (List.drop_zero (l := s)).symm (Nat.zero_le _) le_rfl (by omega)
  rw [replace, allMatches, matchesAfter]
  exact hsplice

/-! ## Scanned texts -/

/-- A reader that starts with a name, reads something and stays inside the text. -/
structure Named (name : Bytes) (f : Reader) : Prop where
  ne_nil : name ≠ []
  le : ∀ s n, f s = some n → name.length ≤ n ∧ n ≤ s.length
  prefix_of : ∀ s n, f s = some n → name <+: s

/-- A byte that a reader does not get past. -/
def Blind (f : Reader) (x : UInt8) : Prop := ∀ a b, f (a ++ x :: b) = f a

variable {name : Bytes} {x : UInt8}

theorem blind_text {pat : Bytes} (hx : x ∉ pat) : Blind (readText pat) x := by
  intro a b
  have hiff : pat <+: a ++ x :: b ↔ pat <+: a := by
    refine ⟨fun h => ?_, fun h => h.trans (List.prefix_append _ _)⟩
    rcases List.prefix_or_prefix_of_prefix h (List.prefix_append a (x :: b)) with hpre | ⟨r, rfl⟩
    · exact hpre
    · rcases r with _ | ⟨d, r⟩
      · rw [List.append_nil]
      · obtain ⟨rfl, -⟩ := List.cons_prefix_cons.1 ((List.prefix_append_right_inj a).1 h)
        exact absurd (List.mem_append_right a List.mem_cons_self) hx
  simp only [readText, List.isPrefixOf_iff_prefix, hiff]

theorem blind_run (hx : K.mem x = false) : Blind (readRun K) x := by
  intro a b
  have htake : (a ++ x :: b).takeWhile K.mem = a.takeWhile K.mem := by
    induction a with
    | nil => exact List.takeWhile_cons_of_neg (by rw [hx]; exact Bool.false_ne_true)
    | cons d a ih =>
      by_cases hd : K.mem d = true
      · rw [List.cons_append, List.takeWhile_cons_of_pos hd, List.takeWhile_cons_of_pos hd, ih]
      · rw [List.cons_append, List.takeWhile_cons_of_neg hd, List.takeWhile_cons_of_neg hd]
  rw [readRun, readRun, htake]

theorem blind_all {fs : List Reader} (hle : ∀ f ∈ fs, ∀ s n, f s = some n → n ≤ s.length)
    (hx : ∀ f ∈ fs, Blind f x) : Blind (readAll fs) x := by
  induction fs with
  | nil => exact fun _ _ => rfl
  | cons f fs ih =>
    intro a b
    have hmore := ih (fun g hg => hle g (List.mem_cons_of_mem _ hg))
      fun g hg => hx g (List.mem_cons_of_mem _ hg)
    rw [readAll, readAll, hx f List.mem_cons_self a b]
    rcases hn : f a with _ | n
    · rfl
    · have hn' := hle f List.mem_cons_self a n hn
      rw [Option.bind_some, Option.bind_some, List.drop_append_of_le_length hn', hmore]

theorem mem_scan {b : UInt8} {n : Nat} (h : b ∈ scan f new n s) : b ∈ s ∨ b ∈ new := by
  induction s generalizing n with
  | nil =>
    rcases n with _ | n
    all_goals cases h
  | cons c s ih =>
    rcases n with _ | n
    · rw [scan] at h
      split at h
      · rcases List.mem_cons.1 h with rfl | h
        · exact .inl List.mem_cons_self
        · exact (ih h).imp_left (List.mem_cons_of_mem c)
      · rcases List.mem_append.1 h with h | h
        · exact .inr h
        · exact (ih h).imp_left (List.mem_cons_of_mem c)
    · exact (ih h).imp_left (List.mem_cons_of_mem c)

/-- What shares no byte with what is put in, and starts the result, starts the text. -/
theorem prefix_of_scan {y : Bytes} (hne : new ≠ []) (hnew : ∀ c ∈ new, c ∉ y)
    (h : y <+: scan f new 0 s) : y <+: s := by
  induction y generalizing s with
  | nil => exact List.nil_prefix
  | cons b y ih =>
    rcases s with _ | ⟨c, s⟩
    · exact h
    · rw [scan] at h
      split at h
      · obtain ⟨rfl, hmore⟩ := List.cons_prefix_cons.1 h
        exact List.cons_prefix_cons.2
          ⟨rfl, ih (fun c hc hy => hnew c hc (List.mem_cons_of_mem _ hy)) hmore⟩
      · obtain ⟨d, more, rfl⟩ := List.exists_cons_of_ne_nil hne
        obtain ⟨rfl, -⟩ := List.cons_prefix_cons.1 h
        exact absurd List.mem_cons_self (hnew b List.mem_cons_self)

/-- What shares no byte with what is put in, and stands in the result, stands in the text. -/
theorem infix_of_scan {y : Bytes} {n : Nat} (hne : new ≠ []) (hnew : ∀ c ∈ new, c ∉ y)
    (h : y <:+: scan f new n s) : y <:+: s := by
  induction s generalizing n with
  | nil =>
    rcases n with _ | n
    all_goals exact h
  | cons c s ih =>
    rcases n with _ | n
    · rw [scan] at h
      split at h
      case h_1 =>
        rcases List.infix_cons_iff.1 h with hpre | hin
        · rcases y with _ | ⟨b, y⟩
          · exact List.nil_infix
          · obtain ⟨rfl, hmore⟩ := List.cons_prefix_cons.1 hpre
            refine (List.cons_prefix_cons.2 ⟨rfl, prefix_of_scan hne (fun c hc hy => ?_) hmore⟩).isInfix
            exact hnew c hc (List.mem_cons_of_mem _ hy)
        · exact (ih hin).trans (List.suffix_cons c s).isInfix
      case h_2 n _ =>
        rcases List.eq_nil_or_concat' y with rfl | ⟨_, _, hy⟩
        · exact List.nil_infix
        · have hy : y ≠ [] := hy ▸ List.append_ne_nil_of_right_ne_nil _ (List.cons_ne_nil _ _)
          rcases (@infix_append_apart_iff y [] new _ hy hne hnew).1 h with hnil | hin
          · exact absurd (List.infix_nil.1 hnil) hy
          · exact (ih hin).trans (List.suffix_cons c s).isInfix
    · exact (ih h).trans (List.suffix_cons c s).isInfix

/-- A text that ends with a byte which is not put in. It has no end of what is put in. -/
structure Ends (new y : Bytes) : Prop where
  last : ∃ z c, y = z ++ [c] ∧ c ∉ new
  apart : ∃ z d, new = z ++ [d] ∧ d ∉ y

theorem Ends.of_cons {y : Bytes} {b : UInt8} (h : Ends new (b :: y)) (hy : y ≠ []) : Ends new y := by
  obtain ⟨⟨z, c, hz, hc⟩, z', d, hd, hno⟩ := h
  refine ⟨?_, z', d, hd, fun hmem => hno (List.mem_cons_of_mem b hmem)⟩
  rcases z with _ | ⟨e, z⟩
  · exact absurd (List.cons.inj hz).2 hy
  · exact ⟨z, c, (List.cons.inj hz).2, hc⟩

theorem Ends.infix_of_append {y r : Bytes} (h : Ends new y) (hin : y <:+: new ++ r) : y <:+: r := by
  obtain ⟨⟨z, c, rfl, hc⟩, z', d, rfl, hd⟩ := h
  obtain ⟨a, b, heq⟩ := hin
  rw [List.append_assoc] at heq
  rcases List.append_eq_append_iff.1 heq with ⟨v, hnew, hrest⟩ | ⟨v, rfl, hrest⟩
  · -- it starts in what is put in, and holds its end or ends there
    rcases List.append_eq_append_iff.1 hrest with ⟨v', hv, -⟩ | ⟨v', hv, rfl⟩
    · refine absurd ?_ hc
      rw [hnew, hv]
      exact List.mem_append_right _ (List.mem_append_left _ (List.mem_append_right _ (by simp)))
    · rcases List.eq_nil_or_concat' v with rfl | ⟨v, e, rfl⟩
      · rw [List.nil_append] at hv
        exact ⟨[], b, by rw [List.nil_append, hv]⟩
      · rw [← List.append_assoc] at hnew
        obtain ⟨-, he⟩ := List.append_inj' hnew rfl
        cases he
        refine absurd ?_ hd
        rw [hv]
        exact List.mem_append_left _ (List.mem_append_right _ (by simp))
  · exact ⟨v, b, by rw [List.append_assoc, hrest]⟩

theorem Ends.prefix_of_scan {y : Bytes} (h : Ends new y) (hpre : y <+: scan f new 0 s) : y <+: s := by
  induction y generalizing s with
  | nil => exact List.nil_prefix
  | cons b y ih =>
    rcases s with _ | ⟨c, s⟩
    · exact hpre
    · rw [scan] at hpre
      split at hpre
      · obtain ⟨rfl, hmore⟩ := List.cons_prefix_cons.1 hpre
        rcases y with _ | ⟨e, y⟩
        · exact List.cons_prefix_cons.2 ⟨rfl, List.nil_prefix⟩
        · exact List.cons_prefix_cons.2 ⟨rfl, ih (h.of_cons (List.cons_ne_nil e y)) hmore⟩
      · obtain ⟨⟨z, d, hz, hd⟩, z', e, he, hno⟩ := h
        rcases List.prefix_or_prefix_of_prefix hpre (List.prefix_append new _) with hin | hin
        · exact absurd (hin.subset (hz ▸ List.mem_append_right z (by simp))) hd
        · exact absurd (hin.subset (he ▸ List.mem_append_right z' (by simp))) hno

/-- Such a text stands in the result only if it stands in the text that is scanned. -/
theorem Ends.infix_of_scan {y : Bytes} {n : Nat} (h : Ends new y) (hin : y <:+: scan f new n s) :
    y <:+: s := by
  induction s generalizing n with
  | nil =>
    rcases n with _ | n
    all_goals exact hin
  | cons c s ih =>
    rcases n with _ | n
    · have hfirst := fun hpre => (h.prefix_of_scan (f := f) (s := c :: s) hpre).isInfix
      rw [scan] at hin hfirst
      split at hin
      case h_1 =>
        rcases List.infix_cons_iff.1 hin with hpre | hin
        · exact hfirst (by rwa [‹f (c :: s) = none›])
        · exact (ih hin).trans (List.suffix_cons c s).isInfix
      case h_2 => exact (ih (h.infix_of_append hin)).trans (List.suffix_cons c s).isInfix
    · exact (ih hin).trans (List.suffix_cons c s).isInfix

/-- Nothing is read in a text, or something is: at the first place where it is, it is replaced. -/
theorem scan_cases (h : Named name f) (new s : Bytes) :
    (scan f new 0 s = s ∧ ∀ q, q <:+ s → f q = none) ∨
    ∃ a m b, s = a ++ (m ++ b) ∧ f (m ++ b) = some m.length ∧ m ≠ [] ∧
      scan f new 0 s = a ++ (new ++ scan f new 0 b) := by
  have hnil : f [] = none := by
    rcases hf : f [] with _ | n
    · rfl
    · obtain ⟨hlen, hle⟩ := h.le [] n hf
      exact absurd (List.length_eq_zero_iff.1 (Nat.le_zero.1 (hlen.trans hle))) h.ne_nil
  induction s with
  | nil => exact .inl ⟨rfl, fun q hq => List.suffix_nil.1 hq ▸ hnil⟩
  | cons c s ih =>
    rcases hf : f (c :: s) with _ | n
    · rw [scan_of_none hf]
      rcases ih with ⟨hsame, hnone⟩ | ⟨a, m, b, rfl, hm, hne, hscan⟩
      · refine .inl ⟨by rw [hsame], fun q hq => ?_⟩
        rcases List.suffix_cons_iff.1 hq with rfl | hq
        · exact hf
        · exact hnone q hq
      · exact .inr ⟨c :: a, m, b, rfl, hm, hne, by rw [hscan]; rfl⟩
    · obtain ⟨hlen, hle⟩ := h.le _ n hf
      have hpos : 0 < n := (List.length_pos_iff.2 h.ne_nil).trans_le hlen
      refine .inr ⟨[], (c :: s).take n, (c :: s).drop n, ?_, ?_, ?_, ?_⟩
      · rw [List.take_append_drop]
        rfl
      · rw [List.take_append_drop, hf, List.length_take, Nat.min_eq_left hle]
      · exact fun hempty => absurd (congrArg List.length hempty) (by
          rw [List.length_take, Nat.min_eq_left hle]
          exact hpos.ne')
      · exact scan_of_some hf hpos (List.cons_ne_nil _ _)

/-- Beside a byte that cannot be read, a text is scanned on its own. -/
theorem scan_append_sep (h : Named name f) (hx : Blind f x) (a b : Bytes) :
    scan f new 0 (a ++ x :: b) = scan f new 0 a ++ x :: scan f new 0 b := by
  induction hlen : a.length using Nat.strong_induction_on generalizing a with
  | _ len ih =>
    rcases a with _ | ⟨c, a⟩
    · have hnone : f (x :: b) = none := by
        rcases hf : f (x :: b) with _ | n
        · rfl
        · obtain ⟨hle, hlt⟩ := h.le [] n ((hx [] b).symm.trans hf)
          exact absurd (List.length_eq_zero_iff.1 (Nat.le_zero.1 (hle.trans hlt))) h.ne_nil
      exact scan_of_none hnone
    · have hsame : f (c :: (a ++ x :: b)) = f (c :: a) := hx (c :: a) b
      rcases hf : f (c :: a) with _ | n
      · rw [List.cons_append, scan_of_none (hsame.trans hf), scan_of_none hf,
          ih a.length (hlen ▸ Nat.lt_succ_self _) a rfl]
        rfl
      · obtain ⟨hname, hle⟩ := h.le _ n hf
        have hpos : 0 < n := (List.length_pos_iff.2 h.ne_nil).trans_le hname
        have hshort : ((c :: a).drop n).length < len := by
          rw [← hlen, List.length_drop, List.length_cons]
          omega
        rw [List.cons_append, scan_of_some (hsame.trans hf) hpos (List.cons_ne_nil _ _),
          scan_of_some hf hpos (List.cons_ne_nil _ _), ← List.cons_append,
          List.drop_append_of_le_length hle, ih _ hshort _ rfl, List.append_assoc]

/-- What stands between such bytes is scanned on its own. -/
theorem splitOnP_scan {sep : UInt8 → Bool} (h : Named name f)
    (hx : ∀ x, sep x = true → Blind f x) (hnew : ∀ x ∈ new, sep x = false) (s : Bytes) :
    (scan f new 0 s).splitOnP sep = (s.splitOnP sep).map (scan f new 0) := by
  induction hlen : s.length using Nat.strong_induction_on generalizing s with
  | _ len ih =>
    rcases sep_cases sep s with hno | ⟨a, x, b, rfl, hsep, ha⟩
    · have hscan : ∀ x ∈ scan f new 0 s, sep x = false := fun x hmem =>
        (mem_scan hmem).elim (hno x) (hnew x)
      rw [List.splitOnP_eq_singleton hscan, List.splitOnP_eq_singleton hno]
      rfl
    · have hscan : ∀ x ∈ scan f new 0 a, sep x = false := fun x hmem =>
        (mem_scan hmem).elim (ha x) (hnew x)
      rw [List.length_append, List.length_cons] at hlen
      rw [scan_append_sep h (hx x hsep), List.splitOnP_append_cons_of_forall_mem hscan _ hsep,
        List.splitOnP_append_cons_of_forall_mem ha _ hsep, List.map_cons,
        ih b.length (by omega) b rfl]

theorem scan_eq_nil_iff (h : Named name f) (hnew : new ≠ []) : scan f new 0 s = [] ↔ s = [] := by
  refine ⟨fun hnil => ?_, ?_⟩
  rotate_left
  · rintro rfl
    rfl
  rcases scan_cases h new s with ⟨hsame, -⟩ | ⟨a, m, b, -, -, -, hscan⟩
  · exact hsame.symm.trans hnil
  · exact absurd (List.append_eq_nil_iff.1 (List.append_eq_nil_iff.1 (hscan.symm.trans hnil)).2).1
      hnew

/-- The parts of a text are scanned on their own. -/
theorem parts_scan {sep : UInt8 → Bool} (h : Named name f) (hx : ∀ x, sep x = true → Blind f x)
    (hnew : ∀ x ∈ new, sep x = false) (hne : new ≠ []) (s : Bytes) :
    parts sep (scan f new 0 s) = (parts sep s).map (scan f new 0) := by
  rw [parts, splitOnP_scan h hx hnew, List.filter_map, parts]
  refine congrArg (List.map _) (List.filter_congr fun p _ => ?_)
  exact decide_eq_decide.2 (not_congr (scan_eq_nil_iff h hne))

/-- Without a byte of the name, nothing is replaced. -/
theorem scan_of_not_mem (h : Named name f) (hx : x ∈ name) (hs : x ∉ s) : scan f new 0 s = s := by
  rcases scan_cases h new s with ⟨hsame, -⟩ | ⟨a, m, b, rfl, hm, -, -⟩
  · exact hsame
  · have hmem := (h.prefix_of _ _ hm).subset hx
    exact absurd (List.mem_append_right a hmem) hs

/-- A text without a byte of the name comes from itself only. -/
theorem scan_eq_iff_of_not_mem {y : Bytes} (h : Named name f) (hx : x ∈ name) (hnew : x ∈ new)
    (hy : x ∉ y) : scan f new 0 s = y ↔ s = y := by
  refine ⟨fun heq => ?_, fun heq => heq ▸ scan_of_not_mem h hx (heq ▸ hy)⟩
  rcases scan_cases h new s with ⟨hsame, -⟩ | ⟨a, m, b, -, -, -, hscan⟩
  · exact hsame.symm.trans heq
  · rw [← heq, hscan] at hy
    exact absurd (List.mem_append_right a (List.mem_append_left _ hnew)) hy

/-- What replaces a match comes from a text that is one, as a whole. -/
theorem scan_eq_new_iff (h : Named name f) (hnew : f new = some new.length) :
    scan f new 0 s = new ↔ f s = some s.length := by
  have hne : new ≠ [] := by
    rintro rfl
    exact absurd (List.length_eq_zero_iff.1 (Nat.le_zero.1 (h.le _ _ hnew).1)) h.ne_nil
  constructor
  · intro heq
    rcases scan_cases h new s with ⟨hsame, hnone⟩ | ⟨a, m, b, rfl, hm, -, hscan⟩
    · have hnone' := hnone s List.suffix_rfl
      rw [← hsame, heq, hnew] at hnone'
      cases hnone'
    · have hlen := congrArg List.length (hscan.symm.trans heq)
      simp only [List.length_append] at hlen
      obtain rfl : a = [] := List.length_eq_zero_iff.1 (by omega)
      have hb : scan f new 0 b = [] := List.length_eq_zero_iff.1 (by omega)
      rcases b with _ | ⟨c, b⟩
      · rw [List.append_nil] at hm ⊢
        exact hm
      · rw [scan] at hb
        split at hb
        · cases hb
        · exact absurd (List.append_eq_nil_iff.1 hb).1 hne
  · intro hs
    obtain ⟨hlen, -⟩ := h.le _ _ hs
    have hpos : 0 < s.length := (List.length_pos_iff.2 h.ne_nil).trans_le hlen
    rw [scan_of_some hs hpos (List.length_pos_iff.1 hpos), List.drop_length]
    exact List.append_nil _

/-- If a match and what replaces it start with the same name, a text starts as before, unless
    the name is only a part of that. -/
theorem prefix_scan_iff {y : Bytes} (h : Named name f) (hnew : name <+: new)
    (hy : y = name ∨ ¬name <:+: y) : y <+: scan f new 0 s ↔ y <+: s := by
  induction s generalizing y with
  | nil => rfl
  | cons c s ih =>
    rcases hf : f (c :: s) with _ | n
    · rw [scan_of_none hf]
      rcases y with _ | ⟨d, y⟩
      · exact iff_of_true List.nil_prefix List.nil_prefix
      · rw [List.cons_prefix_cons, List.cons_prefix_cons]
        refine and_congr_right fun _ => ih (.inr fun hoccurs => ?_)
        rcases hy with rfl | hy
        · exact absurd hoccurs.length_le (Nat.not_succ_le_self _)
        · exact hy (hoccurs.trans (List.suffix_cons d y).isInfix)
    · obtain ⟨hlen, -⟩ := h.le _ _ hf
      rw [scan_of_some hf ((List.length_pos_iff.2 h.ne_nil).trans_le hlen) (List.cons_ne_nil _ _)]
      have hstart : ∀ z, name <+: z → (y <+: z ↔ y <+: name) := by
        intro z hz
        refine ⟨fun hpre => ?_, fun hpre => hpre.trans hz⟩
        rcases List.prefix_or_prefix_of_prefix hpre hz with hpre | hpre
        · exact hpre
        · rcases hy with rfl | hy
          · exact List.prefix_rfl
          · exact absurd hpre.isInfix hy
      rw [hstart _ (hnew.trans (List.prefix_append _ _)), hstart _ (h.prefix_of _ _ hf)]

end Regex

end Ecma

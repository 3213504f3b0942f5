import RtsProxy.Text.Basic
import Mathlib

/-!
# Passes of find and replace

A pass goes over a text once: wherever its token is found, some bytes are taken out and others put
in, and some of the following ones are not looked at. Taking out as many as the token has, and
looking at the very next one, is to replace the token (`Pass.exact`).

* `Pass.induction`: a text is empty, or starts with the token, or with another byte;
* `Pass.run_append`, `Pass.prefix_of_cons_run`, `Pass.followed_run`: what a pass does not touch;
* `Pass.weigh_run_lt_of_followed`, `Pass.run_eq_exact_of_not_followed`: a pass that takes out one
  byte too many goes wrong exactly where something follows the token;
* `Pass.weigh_run_lt_of_adjacent`, `Pass.run_eq_exact_of_not_adjacent`: a pass that does not look at
  the next byte goes wrong exactly where two tokens are adjacent.

That a pass goes wrong is seen in the weight of its result, which later passes do not make up for.
-/

namespace Text

/-- A pass: its token, a mark and what follows it, which is free of the mark; what is put in; and
    how many bytes are taken out, and then not looked at. -/
structure Pass where
  mark : UInt8
  body : Bytes
  new : Bytes
  taken : Nat
  held : Nat
  mark_not_mem : mark ∉ body

namespace Pass

/-- The token. -/
def token (P : Pass) : Bytes := P.mark :: P.body

/-- The pass over what is left of a text, of which the first `drop` bytes are taken out and the
    next `hold` not looked at. -/
def go (P : Pass) : Nat → Nat → Bytes → Bytes
  | _, _, [] => []
  | drop + 1, hold, _ :: s => P.go drop hold s
  | 0, hold + 1, c :: s => c :: P.go 0 hold s
  | 0, 0, c :: s =>
    if P.token <+: c :: s then P.new ++ P.go (P.taken - 1) P.held s else c :: P.go 0 0 s

/-- The pass over a text. -/
def run (P : Pass) (s : Bytes) : Bytes := P.go 0 0 s

/-- The pass that replaces the token. -/
def exact (P : Pass) : Pass := { P with taken := P.token.length, held := 0 }

variable {P Q : Pass} {c : UInt8} {r s t w : Bytes} {drop hold : Nat}

@[simp] theorem go_nil : P.go drop hold [] = [] := by
  rcases drop with _ | drop <;> rcases hold with _ | hold <;> rfl

theorem go_drop : P.go drop hold s = P.go 0 hold (s.drop drop) := by
  induction drop generalizing s with
  | zero => rfl
  | succ drop ih =>
    rcases s with _ | ⟨c, s⟩
    · rw [List.drop_nil, go_nil, go_nil]
    · rw [go, ih, List.drop_succ_cons]

theorem go_hold : P.go 0 hold s = s.take hold ++ P.run (s.drop hold) := by
  induction hold generalizing s with
  | zero => rfl
  | succ hold ih =>
    rcases s with _ | ⟨c, s⟩
    · rw [go_nil, List.take_nil, List.drop_nil, run, go_nil]
      rfl
    · rw [go, ih, List.take_succ_cons, List.drop_succ_cons]
      rfl

theorem run_nil : P.run [] = [] := rfl

theorem run_cons_of_not (h : ¬P.token <+: c :: s) : P.run (c :: s) = c :: P.run s := if_neg h

theorem run_cons_of_ne (h : c ≠ P.mark) : P.run (c :: s) = c :: P.run s :=
  run_cons_of_not fun hpre => h (List.cons_prefix_cons.1 hpre).1.symm

/-- At a token, so many bytes of it and of what follows are taken out. -/
theorem run_token (hpos : 0 < P.taken) :
    P.run (P.token ++ s) = P.new ++ P.go 0 P.held ((P.token ++ s).drop P.taken) := by
  obtain ⟨n, hn⟩ : ∃ n, P.taken = n + 1 := ⟨P.taken - 1, by omega⟩
  have hpre : P.token <+: P.mark :: (P.body ++ s) := List.prefix_append P.token s
  refine (if_pos hpre).trans ?_
  rw [go_drop, hn]
  rfl

/-- What is free of the mark stays. -/
theorem run_append (h : P.mark ∉ w) : P.run (w ++ s) = w ++ P.run s := by
  induction w with
  | nil => rfl
  | cons d w ih =>
    obtain ⟨hd, hw⟩ := not_or.1 (mt List.mem_cons.2 h)
    rw [List.cons_append, run_cons_of_ne (Ne.symm hd), ih hw]
    rfl

/-- So does another token. -/
theorem run_append_of_apart (hmark : P.mark = Q.mark) (h : ∀ r, ¬P.token <+: Q.token ++ r) :
    P.run (Q.token ++ s) = Q.token ++ P.run s := by
  have hbody : P.run (Q.body ++ s) = Q.body ++ P.run s := run_append (hmark ▸ Q.mark_not_mem)
  have hnot : ¬P.token <+: Q.mark :: (Q.body ++ s) := h s
  rw [token, List.cons_append, run_cons_of_not hnot, hbody]
  rfl

/-- A text is empty, starts with the token, or with another byte. -/
theorem induction (P : Pass) {motive : Bytes → Prop} (nil : motive [])
    (token : ∀ r, motive r → motive (P.token ++ r))
    (byte : ∀ c r, ¬P.token <+: c :: r → motive r → motive (c :: r)) (s : Bytes) : motive s := by
  have hall : ∀ n (s : Bytes), s.length ≤ n → motive s := by
    intro n
    induction n with
    | zero =>
      intro s hs
      rw [List.length_eq_zero_iff.1 (Nat.le_zero.1 hs)]
      exact nil
    | succ n ih =>
      intro s hs
      rcases s with _ | ⟨c, s⟩
      · exact nil
      · by_cases hpre : P.token <+: c :: s
        · obtain ⟨r, hr⟩ := hpre
          rw [← hr] at hs ⊢
          rw [List.length_append, Pass.token, List.length_cons] at hs
          exact token r (ih r (by omega))
        · exact byte c s hpre (ih s (Nat.le_of_succ_le_succ hs))
  exact hall s.length s (Nat.le_refl _)

/-! ## Replacing the token -/

theorem exact_run_token : P.exact.run (P.token ++ s) = P.new ++ P.exact.run s := by
  have hrun := @run_token P.exact s (Nat.succ_pos _)
  have hdrop : (P.exact.token ++ s).drop P.exact.taken = s := List.drop_left
  rw [hdrop] at hrun
  exact hrun

theorem exact_run_ne_nil (hnew : P.new ≠ []) (hs : s ≠ []) : P.exact.run s ≠ [] := by
  rcases s with _ | ⟨c, s⟩
  · exact absurd rfl hs
  · by_cases hpre : P.token <+: c :: s
    · obtain ⟨r, hr⟩ := hpre
      rw [← hr, exact_run_token]
      exact List.append_ne_nil_of_left_ne_nil hnew _
    · rw [@run_cons_of_not P.exact _ _ hpre]
      exact List.cons_ne_nil _ _

/-- What is free of the first byte that is put in, and starts the result, starts the text. -/
theorem prefix_of_exact_run (hnew : P.new ≠ []) (ht : ∀ d ∈ P.new.head?, d ∉ t)
    (h : t <+: P.exact.run s) : t <+: s := by
  induction t generalizing s with
  | nil => exact List.nil_prefix
  | cons b t ih =>
    rcases s with _ | ⟨c, s⟩
    · exact h
    · by_cases hpre : P.token <+: c :: s
      · obtain ⟨r, hr⟩ := hpre
        obtain ⟨d, more, hmore⟩ := List.exists_cons_of_ne_nil hnew
        rw [← hr, exact_run_token, hmore] at h
        obtain ⟨rfl, -⟩ := List.cons_prefix_cons.1 h
        exact absurd List.mem_cons_self (ht b (by rw [hmore]; rfl))
      · rw [@run_cons_of_not P.exact _ _ hpre] at h
        obtain ⟨rfl, hmore⟩ := List.cons_prefix_cons.1 h
        exact List.cons_prefix_cons.2
          ⟨rfl, ih (fun d hd hmem => ht d hd (List.mem_cons_of_mem _ hmem)) hmore⟩

/-- A token behind a byte that is kept was there before. -/
theorem prefix_of_cons_run (hnew : P.new ≠ []) (hQ : ∀ d ∈ P.new.head?, d ∉ Q.body)
    (h : Q.token <+: c :: P.exact.run s) : Q.token <+: c :: s := by
  obtain ⟨hmark, hbody⟩ := List.cons_prefix_cons.1 h
  exact List.cons_prefix_cons.2 ⟨hmark, prefix_of_exact_run hnew hQ hbody⟩

/-! ## What follows a token -/

/-- Something follows the token somewhere in the text. -/
def Followed (P : Pass) (s : Bytes) : Prop := ∃ d, P.token ++ [d] <:+: s

/-- The token stands twice in a row somewhere in the text. -/
def Adjacent (P : Pass) (s : Bytes) : Prop := P.token ++ P.token <:+: s

/-- A pattern that starts with a byte is not found to start where the byte is not. -/
theorem infix_append_iff (h : c ∉ w) : c :: t <:+: w ++ s ↔ c :: t <:+: s := by
  induction w with
  | nil => rfl
  | cons d w ih =>
    obtain ⟨hd, hw⟩ := not_or.1 (mt List.mem_cons.2 h)
    rw [List.cons_append, List.infix_cons_iff, ih hw]
    exact or_iff_right fun hpre => hd (List.cons_prefix_cons.1 hpre).1

/-- A pattern that starts with the mark, in a text that starts with the token: it starts there, or
    behind it. -/
theorem infix_token_append_iff :
    P.mark :: t <:+: P.token ++ s ↔ P.mark :: t <+: P.token ++ s ∨ P.mark :: t <:+: s := by
  rw [token, List.cons_append, List.infix_cons_iff, infix_append_iff P.mark_not_mem]

theorem followed_append (h : P.mark ∉ w) : P.Followed (w ++ s) ↔ P.Followed s :=
  exists_congr fun _ => infix_append_iff h

theorem followed_cons :
    P.Followed (c :: s) ↔ (∃ d, P.token ++ [d] <+: c :: s) ∨ P.Followed s := by
  simp only [Followed, List.infix_cons_iff, exists_or]

theorem followed_token : P.Followed (P.token ++ s) ↔ s ≠ [] := by
  constructor
  · rintro ⟨d, hd⟩ rfl
    rw [List.append_nil] at hd
    have hlen := hd.length_le
    rw [List.length_append] at hlen
    exact absurd hlen (Nat.not_succ_le_self _)
  · intro hs
    obtain ⟨d, r, rfl⟩ := List.exists_cons_of_ne_nil hs
    exact ⟨d, [], r, by simp⟩

theorem adjacent_token :
    P.Adjacent (P.token ++ s) ↔ P.token <+: s ∨ P.Adjacent s := by
  refine infix_token_append_iff.trans (or_congr_left ?_)
  exact List.prefix_append_right_inj P.token

theorem adjacent_cons_of_not (h : ¬P.token <+: c :: s) : P.Adjacent (c :: s) ↔ P.Adjacent s := by
  rw [Adjacent, List.infix_cons_iff]
  exact or_iff_right fun hpre => h ((List.prefix_append P.token P.token).trans hpre)

theorem followed_cons_of_not (h : ¬P.token <+: c :: s) : P.Followed (c :: s) ↔ P.Followed s := by
  rw [followed_cons]
  exact or_iff_right fun ⟨d, hpre⟩ => h ((List.prefix_append P.token [d]).trans hpre)

/-- Replacing one token does not change whether something follows another. -/
theorem followed_run (hmark : Q.mark = P.mark) (hnew : P.new ≠ []) (hfree : P.mark ∉ P.new)
    (hQ : ∀ d ∈ P.new.head?, d ∉ Q.body) (hapart : ∀ r, ¬Q.token <+: P.token ++ r) (s : Bytes) :
    Q.Followed (P.exact.run s) ↔ Q.Followed s := by
  induction s using P.induction with
  | nil => rfl
  | token r ih =>
    have hskip : Q.Followed (P.token ++ r) ↔ Q.Followed r := by
      have hbody : Q.mark ∉ P.body := hmark ▸ P.mark_not_mem
      rw [token, List.cons_append, followed_cons, followed_append hbody]
      exact or_iff_right fun ⟨d, hpre⟩ =>
        hapart r ((List.prefix_append Q.token [d]).trans hpre)
    rw [exact_run_token, followed_append (hmark ▸ hfree), ih, hskip]
  | byte c r hnot ih =>
    have hbody : P.mark ∉ Q.body := hmark ▸ Q.mark_not_mem
    rw [@run_cons_of_not P.exact _ _ hnot, followed_cons, followed_cons, ih]
    refine or_congr_left ?_
    constructor
    · rintro ⟨d, hd⟩
      obtain ⟨r', hr'⟩ := prefix_of_cons_run hnew hQ ((List.prefix_append Q.token [d]).trans hd)
      rw [token, List.cons_append] at hr'
      obtain ⟨rfl, rfl⟩ := List.cons.inj hr'
      rcases r' with _ | ⟨d', r'⟩
      · rw [List.append_nil, ← List.append_nil Q.body, @run_append P.exact _ _ hbody, run_nil] at hd
        exact absurd (followed_token.1 ⟨d, hd.isInfix⟩) (not_not_intro rfl)
      · exact ⟨d', r', by simp [token]⟩
    · rintro ⟨d, r', hr'⟩
      rw [token, List.cons_append, List.cons_append, List.append_assoc] at hr'
      obtain ⟨rfl, rfl⟩ := List.cons.inj hr'
      obtain ⟨d', r'', hne⟩ := List.exists_cons_of_ne_nil
        (exact_run_ne_nil hnew (List.cons_ne_nil d r'))
      refine ⟨d', r'', ?_⟩
      rw [List.append_assoc, @run_append P.exact _ _ hbody]
      exact congrArg (fun x => Q.mark :: (Q.body ++ x)) hne.symm

/-! ## Weights -/

section Weights

variable (weight : UInt8 → Nat)

/-- The weight of a text. -/
def weigh (s : Bytes) : Nat := (s.map weight).sum

@[simp] theorem weigh_nil : weigh weight [] = 0 := rfl

@[simp] theorem weigh_cons : weigh weight (c :: s) = weight c + weigh weight s := by
  rw [weigh, List.map_cons, List.sum_cons, weigh]

@[simp] theorem weigh_append : weigh weight (s ++ t) = weigh weight s + weigh weight t := by
  rw [weigh, List.map_append, List.sum_append, weigh, weigh]

theorem weigh_drop_le (n : Nat) : weigh weight (s.drop n) ≤ weigh weight s := by
  calc weigh weight (s.drop n) ≤ weigh weight (s.take n) + weigh weight (s.drop n) :=
        Nat.le_add_left _ _
    _ = weigh weight s := by rw [← weigh_append, List.take_append_drop]

variable {weight}

/-- Where the token weighs what is put in for it, replacing it changes no weight. -/
theorem weigh_exact_run (h : weigh weight P.token = weigh weight P.new) (s : Bytes) :
    weigh weight (P.exact.run s) = weigh weight s := by
  induction s using P.induction with
  | nil => rfl
  | token r ih => rw [exact_run_token, weigh_append, weigh_append, ih, h]
  | byte c r hnot ih => rw [@run_cons_of_not P.exact _ _ hnot, weigh_cons, weigh_cons, ih]

/-! ### A pass that takes out a byte too many -/

/-- What such a pass does at a token. -/
theorem run_token_of_taken (htaken : P.taken = P.token.length + 1) :
    P.run (P.token ++ s) = P.new ++ P.go 0 P.held (s.drop 1) := by
  have hdrop : (P.token ++ s).drop P.taken = s.drop 1 := by
    rw [htaken, ← List.drop_drop, List.drop_left]
  rw [run_token (by omega), hdrop]

/-- It makes nothing heavier. -/
theorem weigh_run_le (htaken : P.taken = P.token.length + 1)
    (hw : weigh weight P.token = weigh weight P.new) (s : Bytes) :
    weigh weight (P.run s) ≤ weigh weight s := by
  have hall : ∀ n (s : Bytes), s.length ≤ n → weigh weight (P.run s) ≤ weigh weight s := by
    intro n
    induction n with
    | zero =>
      intro s hs
      rw [List.length_eq_zero_iff.1 (Nat.le_zero.1 hs), run_nil]
    | succ n ih =>
      intro s hs
      rcases s with _ | ⟨c, s⟩
      · rw [run_nil]
      by_cases hpre : P.token <+: c :: s
      · obtain ⟨r, hr⟩ := hpre
        rw [← hr] at hs ⊢
        rw [List.length_append, token, List.length_cons] at hs
        have hlater : weigh weight (P.run ((r.drop 1).drop P.held)) ≤
            weigh weight ((r.drop 1).drop P.held) := by
          refine ih _ ?_
          rw [List.length_drop, List.length_drop]
          omega
        have hheld : weigh weight (P.go 0 P.held (r.drop 1)) ≤ weigh weight (r.drop 1) := by
          calc weigh weight (P.go 0 P.held (r.drop 1))
              ≤ weigh weight ((r.drop 1).take P.held) + weigh weight ((r.drop 1).drop P.held) := by
                rw [go_hold, weigh_append]
                exact Nat.add_le_add_left hlater _
            _ = weigh weight (r.drop 1) := by rw [← weigh_append, List.take_append_drop]
        rw [run_token_of_taken htaken, weigh_append, weigh_append, hw]
        exact Nat.add_le_add_left (hheld.trans (weigh_drop_le weight 1)) _
      · rw [run_cons_of_not hpre, weigh_cons, weigh_cons]
        exact Nat.add_le_add_left (ih s (Nat.le_of_succ_le_succ hs)) _
  exact hall s.length s (Nat.le_refl _)

/-- And where something follows a token, it takes weight out. -/
theorem weigh_run_lt_of_followed (htaken : P.taken = P.token.length + 1)
    (hw : weigh weight P.token = weigh weight P.new) (hpos : ∀ d, 0 < weight d)
    (h : P.Followed s) : weigh weight (P.run s) < weigh weight s := by
  induction s using P.induction with
  | nil => exact absurd (List.infix_nil.1 h.choose_spec) (List.cons_ne_nil _ _)
  | token r _ =>
    obtain ⟨d, r, rfl⟩ := List.exists_cons_of_ne_nil (followed_token.1 h)
    have hlater : weigh weight (P.go 0 P.held r) ≤ weigh weight r := by
      calc weigh weight (P.go 0 P.held r)
          ≤ weigh weight (r.take P.held) + weigh weight (r.drop P.held) := by
            rw [go_hold, weigh_append]
            exact Nat.add_le_add_left (weigh_run_le htaken hw _) _
        _ = weigh weight r := by rw [← weigh_append, List.take_append_drop]
    have hd := hpos d
    rw [run_token_of_taken htaken, List.drop_one, List.tail_cons, weigh_append, weigh_append,
      weigh_cons, hw]
    omega
  | byte c r hnot ih =>
    rw [run_cons_of_not hnot, weigh_cons, weigh_cons]
    exact Nat.add_lt_add_left (ih ((followed_cons_of_not hnot).1 h)) _

/-- Where nothing follows a token, the pass replaces it. -/
theorem run_eq_exact_of_not_followed (htaken : P.taken = P.token.length + 1)
    (h : ¬P.Followed s) : P.run s = P.exact.run s := by
  induction s using P.induction with
  | nil => rfl
  | token r _ =>
    obtain rfl : r = [] := not_not.1 (mt followed_token.2 h)
    rw [run_token_of_taken htaken, exact_run_token, List.drop_nil, go_nil, run_nil]
  | byte c r hnot ih =>
    rw [run_cons_of_not hnot, @run_cons_of_not P.exact _ _ hnot,
      ih (mt (followed_cons_of_not hnot).2 h)]

/-! ### A pass that does not look at the next byte -/

theorem run_token_of_held (htaken : P.taken = P.token.length) (hheld : P.held = 1) :
    P.run (P.token ++ s) = P.new ++ P.go 0 1 s := by
  have hpos : 0 < P.taken := htaken ▸ Nat.succ_pos _
  rw [run_token hpos, htaken, hheld, List.drop_left]

/-- The byte makes no difference where no token starts at it. -/
theorem go_one_of_not (h : ¬P.token <+: s) : P.go 0 1 s = P.run s := by
  rcases s with _ | ⟨c, s⟩
  · rfl
  · rw [run_cons_of_not h]
    rfl

/-- A token that starts at it stays. -/
theorem go_one_token : P.go 0 1 (P.token ++ s) = P.token ++ P.run s := by
  refine go_hold.trans ?_
  exact congrArg (P.mark :: ·) (run_append P.mark_not_mem)

theorem weigh_run_le_exact (htaken : P.taken = P.token.length) (hheld : P.held = 1)
    (hw : weigh weight P.token < weigh weight P.new) (s : Bytes) :
    weigh weight (P.run s) ≤ weigh weight (P.exact.run s) ∧
      weigh weight (P.go 0 1 s) ≤ weigh weight (P.exact.run s) := by
  induction s using P.induction with
  | nil => exact ⟨Nat.le_refl _, Nat.le_refl _⟩
  | token r ih =>
    rw [run_token_of_held htaken hheld, go_one_token, exact_run_token, weigh_append, weigh_append,
      weigh_append]
    exact ⟨Nat.add_le_add_left ih.2 _, Nat.add_le_add hw.le ih.1⟩
  | byte c r hnot ih =>
    rw [go_one_of_not hnot, run_cons_of_not hnot, @run_cons_of_not P.exact _ _ hnot, weigh_cons,
      weigh_cons]
    exact ⟨Nat.add_le_add_left ih.1 _, Nat.add_le_add_left ih.1 _⟩

/-- Of two adjacent tokens the second one stays, and is lighter. -/
theorem weigh_run_lt_of_adjacent (htaken : P.taken = P.token.length) (hheld : P.held = 1)
    (hw : weigh weight P.token < weigh weight P.new) (h : P.Adjacent s) :
    weigh weight (P.run s) < weigh weight (P.exact.run s) := by
  induction s using P.induction with
  | nil => exact absurd (List.infix_nil.1 h) (List.cons_ne_nil _ _)
  | token r ih =>
    rw [run_token_of_held htaken hheld, exact_run_token, weigh_append, weigh_append]
    refine Nat.add_lt_add_left ?_ _
    by_cases hpre : P.token <+: r
    · obtain ⟨r, rfl⟩ := hpre
      rw [go_one_token, exact_run_token, weigh_append, weigh_append]
      exact Nat.add_lt_add_of_lt_of_le hw (weigh_run_le_exact htaken hheld hw r).1
    · rw [go_one_of_not hpre]
      exact ih ((adjacent_token.1 h).resolve_left hpre)
  | byte c r hnot ih =>
    rw [run_cons_of_not hnot, @run_cons_of_not P.exact _ _ hnot, weigh_cons, weigh_cons]
    exact Nat.add_lt_add_left (ih ((adjacent_cons_of_not hnot).1 h)) _

/-- Where no tokens are adjacent, the pass replaces them. -/
theorem run_eq_exact_of_not_adjacent (htaken : P.taken = P.token.length) (hheld : P.held = 1)
    (h : ¬P.Adjacent s) : P.run s = P.exact.run s := by
  induction s using P.induction with
  | nil => rfl
  | token r ih =>
    have hboth := not_or.1 (mt adjacent_token.2 h)
    rw [run_token_of_held htaken hheld, exact_run_token, go_one_of_not hboth.1, ih hboth.2]
  | byte c r hnot ih =>
    rw [run_cons_of_not hnot, @run_cons_of_not P.exact _ _ hnot,
      ih (mt (adjacent_cons_of_not hnot).2 h)]

end Weights

end Pass

end Text

import RtsProxy.Regex.Basic

/-!
# What matches mean

A relation `Steps` says which cursors and captures an expression leads to, whatever way the
matcher prefers and however often it may go round; matches are among them.

* `run_sound`: the matcher only finds such ways;
* `search_sound`: so does `search`;
* `search_spans`: a match and its captures are where they say;
* `mem_replace`: a replacement makes up no bytes;
* `goes_one`: rounds over a class of bytes.
-/

namespace Ecma

open Text

namespace Regex

/-- So many rounds of a relation between places, each with its captures. -/
def Goes (R : Cursor → Captures → Cursor → Captures → Prop) :
    Nat → Cursor → Captures → Cursor → Captures → Prop
  | 0, c, caps, c', caps' => c' = c ∧ caps' = caps
  | n + 1, c, caps, c', caps' => ∃ c₁ caps₁, R c caps c₁ caps₁ ∧ Goes R n c₁ caps₁ c' caps'

/-- An expression leads from a cursor with captures to another. -/
def Steps : Regex → Cursor → Captures → Cursor → Captures → Prop
  | empty, c, caps, c', caps' => c' = c ∧ caps' = caps
  | one k, c, caps, c', caps' =>
    ∃ b rest, c.rest = b :: rest ∧ k.mem b = true ∧ c' = ⟨c.idx + 1, some b, rest⟩ ∧ caps' = caps
  | seq a b, c, caps, c', caps' => ∃ c₁ caps₁, Steps a c caps c₁ caps₁ ∧ Steps b c₁ caps₁ c' caps'
  | alt a b, c, caps, c', caps' => Steps a c caps c' caps' ∨ Steps b c caps c' caps'
  | group i r, c, caps, c', caps' =>
    ∃ caps₁, Steps r c caps c' caps₁ ∧
      caps' = ⟨i, c.idx, c.rest.take (c'.idx - c.idx)⟩ :: caps₁
  | star r _, c, caps, c', caps' => ∃ n, Goes (Steps r) n c caps c' caps'
  | plus r _, c, caps, c', caps' => ∃ n, Goes (Steps r) (n + 1) c caps c' caps'
  | opt r _, c, caps, c', caps' => ∃ n ≤ 1, Goes (Steps r) n c caps c' caps'
  | braces r lo hi _, c, caps, c', caps' =>
    ∃ n, lo ≤ n ∧ (∀ m ∈ hi, n ≤ max lo m) ∧ Goes (Steps r) n c caps c' caps'
  | bol, c, caps, c', caps' => c.prev = none ∧ c' = c ∧ caps' = caps
  | eol, c, caps, c', caps' => c.rest = [] ∧ c' = c ∧ caps' = caps
  | wordEdge here, c, caps, c', caps' => atWordEdge c = here ∧ c' = c ∧ caps' = caps
  | look ahead r, c, caps, c', caps' =>
    c' = c ∧ if ahead then
        ∃ c₀ c₁, (c₀ = c ∨ c₀ = { c with prev := none }) ∧ Steps r c₀ caps c₁ caps'
      else caps' = caps
  | backref i, c, caps, c', caps' =>
    ∃ p ∈ caps.find? (fun p => p.group = i), p.text.isPrefixOf c.rest = true ∧
      c' = c.skip p.text.length ∧ caps' = caps

variable {r : Regex} {i : Nat} {c c' : Cursor} {caps caps' : Captures} {p p' : Trail} {k : Cont}
  {out : Cursor × Trail}

theorem orElse_eq_some {α : Type} {a b : Option α} {x : α} (h : (a <|> b) = some x) :
    a = some x ∨ b = some x := by
  rw [Option.orElse_eq_orElse, Option.orElse_eq_or, Option.or_eq_some_iff] at h
  exact h.imp_right And.right

theorem goes_append {R : Cursor → Captures → Cursor → Captures → Prop} {m n : Nat} {c₁ : Cursor}
    {caps₁ : Captures} (h : Goes R m c caps c₁ caps₁) (h' : Goes R n c₁ caps₁ c' caps') :
    Goes R (m + n) c caps c' caps' := by
  induction m generalizing c caps with
  | zero =>
    obtain ⟨rfl, rfl⟩ := h
    rwa [Nat.zero_add]
  | succ m ih =>
    obtain ⟨c₂, caps₂, hround, hrest⟩ := h
    rw [Nat.add_right_comm]
    exact ⟨c₂, caps₂, hround, ih hrest⟩

/-- What a matcher finds is a way that a relation goes, and the continuation matches behind it. -/
def Finds (m : Matcher) (R : Cursor → Captures → Cursor → Captures → Prop) : Prop :=
  ∀ c p k out, m c p k = some out → ∃ c' p', R c p.caps c' p'.caps ∧ k c' p' = some out

/-- A choice between another round and what is behind the loop. -/
theorem choice_eq_some {α : Type} {greedy : Bool} {more stop : Option α} {x : α}
    (h : (if greedy then more <|> stop else stop <|> more) = some x) :
    more = some x ∨ stop = some x := by
  split at h
  · exact orElse_eq_some h
  · exact (orElse_eq_some h).symm

/-- A loop makes some rounds. -/
theorem repeatFrom_sound {body : Matcher} {R : Cursor → Captures → Cursor → Captures → Prop}
    (hbody : Finds body R) (loop : Nat) (greedy : Bool) (fuel : Nat) :
    Finds (repeatFrom body loop greedy fuel)
      (fun c caps c' caps' => ∃ n, Goes R n c caps c' caps') := by
  intro c p k out h
  induction fuel generalizing c p with
  | zero => cases h
  | succ fuel ih =>
    rw [repeatFrom] at h
    rcases choice_eq_some h with hmore | hstop
    · split at hmore
      · obtain ⟨c₁, p₁, hround, hrest⟩ := hbody _ _ _ _ hmore
        obtain ⟨c', p', ⟨n, hgoes⟩, hk⟩ := ih _ _ hrest
        exact ⟨c', p', ⟨n + 1, c₁, p₁.caps, hround, hgoes⟩, hk⟩
      · cases hmore
    · exact ⟨c, p, ⟨0, rfl, rfl⟩, hstop⟩

/-- Copies are made one behind the other. -/
theorem repeatCopies_sound {body : Nat → Matcher} {R : Cursor → Captures → Cursor → Captures → Prop}
    (hbody : ∀ j, Finds (body j) R) (n j : Nat) : Finds (repeatCopies body n j) (Goes R n) := by
  intro c p k out h
  induction n generalizing c p j with
  | zero => exact ⟨c, p, ⟨rfl, rfl⟩, h⟩
  | succ n ih =>
    obtain ⟨c₁, p₁, hround, hrest⟩ := hbody j _ _ _ _ h
    obtain ⟨c', p', hgoes, hk⟩ := ih (j + 1) _ _ hrest
    exact ⟨c', p', ⟨c₁, p₁.caps, hround, hgoes⟩, hk⟩

/-- So many copies are made at most. -/
theorem repeatUpTo_sound {body : Nat → Matcher} {R : Cursor → Captures → Cursor → Captures → Prop}
    (hbody : ∀ j, Finds (body j) R) (loop : Nat) (greedy : Bool) (n j : Nat) :
    Finds (repeatUpTo body loop greedy n j)
      (fun c caps c' caps' => ∃ m ≤ n, Goes R m c caps c' caps') := by
  intro c p k out h
  induction n generalizing c p j with
  | zero => exact ⟨c, p, ⟨0, le_rfl, rfl, rfl⟩, h⟩
  | succ n ih =>
    rw [repeatUpTo] at h
    rcases choice_eq_some h with hmore | hstop
    · split at hmore
      · obtain ⟨c₁, p₁, hround, hrest⟩ := hbody j _ _ _ _ hmore
        obtain ⟨c', p', ⟨m, hle, hgoes⟩, hk⟩ := ih (j + 1) _ _ hrest
        exact ⟨c', p', ⟨m + 1, Nat.succ_le_succ hle, c₁, p₁.caps, hround, hgoes⟩, hk⟩
      · cases hmore
    · exact ⟨c, p, ⟨0, Nat.zero_le _, rfl, rfl⟩, hstop⟩

/-- What the matcher finds is a way through the expression, and the continuation matches
    behind it. -/
theorem run_sound (r : Regex) (i : Nat) : Finds (run r i) (Steps r) := by
  induction r generalizing i with
  | empty => exact fun c p k out h => ⟨c, p, ⟨rfl, rfl⟩, h⟩
  | one cls =>
    intro c p k out h
    rw [run] at h
    split at h
    · cases h
    case h_2 b rest hrest =>
      split at h
      case isTrue hmem => exact ⟨_, p, ⟨b, rest, hrest, hmem, rfl, rfl⟩, h⟩
      case isFalse => cases h
  | seq a b iha ihb =>
    intro c p k out h
    obtain ⟨c₁, p₁, ha, h⟩ := iha i _ _ _ _ h
    obtain ⟨c₂, p₂, hb, h⟩ := ihb _ _ _ _ _ h
    exact ⟨c₂, p₂, ⟨c₁, p₁.caps, ha, hb⟩, h⟩
  | alt a b iha ihb =>
    intro c p k out h
    rw [run] at h
    rcases orElse_eq_some h with h | h
    · obtain ⟨c', p', ha, hk⟩ := iha _ _ _ _ _ h
      exact ⟨c', p', .inl ha, hk⟩
    · obtain ⟨c', p', hb, hk⟩ := ihb _ _ _ _ _ h
      exact ⟨c', p', .inr hb, hk⟩
  | group n r ih =>
    intro c p k out h
    obtain ⟨c₁, p₁, hr, h⟩ := ih _ _ _ _ _ h
    exact ⟨c₁, _, ⟨p₁.caps, hr, rfl⟩, h⟩
  | star r greedy ih => exact fun c => repeatFrom_sound (ih _) i greedy (roundLimit c) c
  | plus r greedy ih =>
    -- one round, and the others as for a star
    intro c p k out h
    obtain ⟨c₁, p₁, hround, h⟩ := ih _ _ _ _ _ h
    obtain ⟨c', p', ⟨n, hgoes⟩, hk⟩ := repeatFrom_sound (ih _) i greedy _ _ _ _ _ h
    exact ⟨c', p', ⟨n, c₁, p₁.caps, hround, hgoes⟩, hk⟩
  | opt r greedy ih =>
    intro c p k out h
    rw [run] at h
    rcases choice_eq_some h with hmore | hstop
    · split at hmore
      · obtain ⟨c', p', hround, hk⟩ := ih _ _ _ _ _ hmore
        exact ⟨c', p', ⟨1, le_rfl, c', p'.caps, hround, rfl, rfl⟩, hk⟩
      · cases hmore
    · exact ⟨c, p, ⟨0, Nat.zero_le _, rfl, rfl⟩, hstop⟩
  | braces r lo hi greedy ih =>
    -- the copies that have to match, and then a loop, or as many copies as there may be more
    intro c p k out h
    obtain ⟨c₁, p₁, hcopies, h⟩ := repeatCopies_sound (fun j => ih _) lo 0 _ _ _ _ h
    rcases hi with _ | hi
    · obtain ⟨c', p', ⟨n, hgoes⟩, hk⟩ := repeatFrom_sound (ih _) _ greedy _ _ _ _ _ h
      exact ⟨c', p', ⟨lo + n, Nat.le_add_right _ _, fun m hm => (by cases hm),
        goes_append hcopies hgoes⟩, hk⟩
    · obtain ⟨c', p', ⟨n, hle, hgoes⟩, hk⟩ :=
        repeatUpTo_sound (fun j => ih _) _ greedy (hi - lo) lo _ _ _ _ h
      refine ⟨c', p', ⟨lo + n, Nat.le_add_right _ _, fun m hm => ?_, goes_append hcopies hgoes⟩, hk⟩
      cases hm
      omega
  | bol | eol | wordEdge here =>
    intro c p k out h
    rw [run] at h
    split at h
    case isTrue hc => exact ⟨c, p, ⟨hc, rfl, rfl⟩, h⟩
    case isFalse => cases h
  | look ahead r ih =>
    intro c p k out h
    rw [run] at h
    split at h
    case h_1 c₁ p₁ hahead =>
      obtain ⟨c₂, p₂, hr, heq⟩ := ih _ _ _ _ _ hahead
      cases heq
      have hfrom : lookFrom c p = c ∨ lookFrom c p = { c with prev := none } := by
        rw [lookFrom]
        split
        · exact .inr rfl
        · exact .inl rfl
      split at h
      case isTrue htrue =>
        exact ⟨c, _, ⟨rfl, by rw [if_pos htrue]; exact ⟨_, c₁, hfrom, hr⟩⟩, h⟩
      case isFalse => cases h
    case h_2 =>
      split at h
      · cases h
      case isFalse hfalse => exact ⟨c, p, ⟨rfl, by rw [if_neg hfalse]⟩, h⟩
  | backref n =>
    intro c p k out h
    rw [run] at h
    split at h
    · cases h
    case h_2 q hq =>
      split at h
      case isTrue hpre => exact ⟨_, p, ⟨q, hq, hpre, rfl, rfl⟩, h⟩
      case isFalse => cases h

/-! ## Searching -/

theorem matchHere_sound {nonempty : Bool} {m : Match} (h : matchHere r nonempty c = some (m, c')) :
    Steps r c [] c' m.caps ∧ m.pos = c.idx ∧ m.text = c.rest.take (c'.idx - c.idx) := by
  unfold matchHere at h
  split at h
  · cases h
  case h_2 c₁ p₁ hrun =>
    cases h
    obtain ⟨c₂, p₂, hsteps, hk⟩ := run_sound r 0 _ _ _ _ hrun
    split at hk
    · cases hk
    · cases hk
      exact ⟨hsteps, rfl, rfl⟩

theorem searchFrom_sound {idx : Nat} {prev : Option UInt8} {s : Bytes} {m : Match}
    (h : searchFrom r idx prev s = some (m, c')) :
    ∃ c, Steps r c [] c' m.caps ∧ m.text = c.rest.take (c'.idx - c.idx) := by
  induction s generalizing idx prev with
  | nil =>
    obtain ⟨hsteps, -, htext⟩ := matchHere_sound h
    exact ⟨_, hsteps, htext⟩
  | cons b rest ih =>
    unfold searchFrom at h
    split at h
    case h_1 found hfound =>
      cases h
      obtain ⟨hsteps, -, htext⟩ := matchHere_sound hfound
      exact ⟨_, hsteps, htext⟩
    case h_2 => exact ih h

/-- A match comes from a way through the expression. -/
theorem search_sound {s : Bytes} {m : Match} (h : r.search s = some m) :
    ∃ c c', Steps r c [] c' m.caps ∧ m.text = c.rest.take (c'.idx - c.idx) := by
  obtain ⟨⟨m', c'⟩, hfound, rfl⟩ := Option.map_eq_some_iff.1 h
  obtain ⟨c, hsteps, htext⟩ := searchFrom_sound hfound
  exact ⟨c, c', hsteps, htext⟩

/-! ## Places -/

/-- What is captured stands where the capture says. -/
def Captures.In (caps : Captures) (s : Bytes) : Prop := ∀ p ∈ caps, p.text <+: s.drop p.pos

theorem Cursor.skip_in {s : Bytes} {n : Nat} (hc : c.rest = s.drop c.idx) :
    (c.skip n).rest = s.drop (c.skip n).idx := by
  induction n generalizing c with
  | zero => exact hc
  | succ n ih =>
    rw [Cursor.skip]
    split
    · exact hc
    case h_2 b rest hrest =>
      refine ih ?_
      rw [← List.tail_drop, ← hc, hrest]
      rfl

theorem goes_in {R : Cursor → Captures → Cursor → Captures → Prop} {s : Bytes} {n : Nat}
    (hR : ∀ {c caps c' caps'}, R c caps c' caps' → c.rest = s.drop c.idx → caps.In s →
      c'.rest = s.drop c'.idx ∧ caps'.In s)
    (h : Goes R n c caps c' caps') (hc : c.rest = s.drop c.idx) (hcaps : caps.In s) :
    c'.rest = s.drop c'.idx ∧ caps'.In s := by
  induction n generalizing c caps with
  | zero =>
    obtain ⟨rfl, rfl⟩ := h
    exact ⟨hc, hcaps⟩
  | succ n ih =>
    obtain ⟨c₁, caps₁, hround, hrest⟩ := h
    obtain ⟨hc₁, hcaps₁⟩ := hR hround hc hcaps
    exact ih hrest hc₁ hcaps₁

/-- On its way through an expression a cursor stays in the subject, and so do the captures. -/
theorem steps_in {s : Bytes} (h : Steps r c caps c' caps') (hc : c.rest = s.drop c.idx)
    (hcaps : caps.In s) : c'.rest = s.drop c'.idx ∧ caps'.In s := by
  induction r generalizing c caps c' caps' with
  | empty =>
    obtain ⟨rfl, rfl⟩ := h
    exact ⟨hc, hcaps⟩
  | one k =>
    obtain ⟨b, rest, hrest, -, rfl, rfl⟩ := h
    refine ⟨?_, hcaps⟩
    rw [← List.tail_drop, ← hc, hrest]
    rfl
  | seq a b iha ihb =>
    obtain ⟨c₁, caps₁, ha, hb⟩ := h
    obtain ⟨hc₁, hcaps₁⟩ := iha ha hc hcaps
    exact ihb hb hc₁ hcaps₁
  | alt a b iha ihb =>
    rcases h with ha | hb
    · exact iha ha hc hcaps
    · exact ihb hb hc hcaps
  | group i r ih =>
    obtain ⟨caps₁, hr, rfl⟩ := h
    obtain ⟨hc', hcaps₁⟩ := ih hr hc hcaps
    refine ⟨hc', fun p hp => ?_⟩
    rcases List.mem_cons.1 hp with rfl | hp
    · rw [← hc]
      exact List.take_prefix _ _
    · exact hcaps₁ p hp
  | star r greedy ih | plus r greedy ih =>
    obtain ⟨n, hgoes⟩ := h
    exact goes_in ih hgoes hc hcaps
  | opt r greedy ih =>
    obtain ⟨n, -, hgoes⟩ := h
    exact goes_in ih hgoes hc hcaps
  | braces r lo hi greedy ih =>
    obtain ⟨n, -, -, hgoes⟩ := h
    exact goes_in ih hgoes hc hcaps
  | bol | eol | wordEdge =>
    obtain ⟨-, rfl, rfl⟩ := h
    exact ⟨hc, hcaps⟩
  | look ahead r ih =>
    obtain ⟨rfl, h⟩ := h
    rcases ahead with _ | _
    · rw [if_neg Bool.false_ne_true] at h
      exact ⟨hc, h ▸ hcaps⟩
    · rw [if_pos rfl] at h
      obtain ⟨c₀, c₁, hfrom, hr⟩ := h
      have hc₀ : c₀.rest = s.drop c₀.idx := by
        rcases hfrom with rfl | rfl <;> exact hc
      exact ⟨hc, (ih hr hc₀ hcaps).2⟩
  | backref i =>
    obtain ⟨p, -, -, rfl, rfl⟩ := h
    exact ⟨Cursor.skip_in hc, hcaps⟩

/-- A match is part of a subject: it and its captures stand where they say. -/
def Match.In (m : Match) (s : Bytes) : Prop := m.text <+: s.drop m.pos ∧ m.caps.In s

theorem matchHere_spans {nonempty : Bool} {m : Match} {s : Bytes} (hc : c.rest = s.drop c.idx)
    (h : matchHere r nonempty c = some (m, c')) : m.In s ∧ c'.rest = s.drop c'.idx := by
  obtain ⟨hsteps, hpos, htext⟩ := matchHere_sound h
  obtain ⟨hc', hcaps⟩ := steps_in hsteps hc (by rintro _ ⟨⟩)
  refine ⟨⟨?_, hcaps⟩, hc'⟩
  rw [hpos, htext, ← hc]
  exact List.take_prefix _ _

theorem searchFrom_spans {idx : Nat} {prev : Option UInt8} {s rest : Bytes} {m : Match}
    (hrest : rest = s.drop idx) (h : searchFrom r idx prev rest = some (m, c')) :
    m.In s ∧ c'.rest = s.drop c'.idx := by
  induction rest generalizing idx prev with
  | nil => exact matchHere_spans hrest h
  | cons b rest ih =>
    unfold searchFrom at h
    split at h
    case h_1 found hfound =>
      cases h
      exact matchHere_spans hrest hfound
    case h_2 =>
      refine ih ?_ h
      rw [← List.tail_drop, ← hrest]
      rfl

/-- A match and its captures stand where they say. -/
theorem search_spans {s : Bytes} {m : Match} (h : r.search s = some m) : m.In s := by
  obtain ⟨⟨m', c'⟩, hfound, rfl⟩ := Option.map_eq_some_iff.1 h
  exact (searchFrom_spans rfl hfound).1

/-! ## Replacing -/

theorem matchesAfter_spans {s : Bytes} {fuel : Nat} {wasEmpty : Bool} (hc : c.rest = s.drop c.idx) :
    ∀ m ∈ matchesAfter r fuel wasEmpty c, m.In s := by
  induction fuel generalizing wasEmpty c with
  | zero => exact nofun
  | succ fuel ih =>
    rcases wasEmpty with _ | _
    · rw [matchesAfter]
      split
      · exact nofun
      case h_2 m c' hfound =>
        obtain ⟨hm, hc'⟩ := searchFrom_spans hc hfound
        exact List.forall_mem_cons.2 ⟨hm, ih hc'⟩
    · rw [matchesAfter]
      split
      · exact nofun
      case h_2 b rest hrest =>
        split
        case h_1 m c' hfound =>
          obtain ⟨hm, hc'⟩ := matchHere_spans hc hfound
          exact List.forall_mem_cons.2 ⟨hm, ih hc'⟩
        case h_2 =>
          refine ih ?_
          rw [← List.tail_drop, ← hc, hrest]
          rfl

theorem Match.In.subset {m : Match} {s : Bytes} (h : m.In s) : m.text ⊆ s :=
  fun _ hb => (List.drop_suffix m.pos s).subset (h.1.subset hb)

theorem Match.In.sub_subset {m : Match} {s : Bytes} (h : m.In s) (i : Nat) : m.sub i ⊆ s := by
  rw [Match.sub]
  split
  · exact h.subset
  split
  · exact List.nil_subset s
  case h_2 p hp =>
    have hcap := h.2 p (List.mem_of_find?_eq_some hp)
    exact fun b hb => (List.drop_suffix p.pos s).subset (hcap.subset hb)

/-- A byte of an expanded format comes from the format or from the subject. -/
theorem mem_expand {m : Match} {s before after fmt : Bytes} {n : Nat} {b : UInt8} (hm : m.In s)
    (hbefore : before ⊆ s) (hafter : after ⊆ s) (h : b ∈ expand m n before after fmt) :
    b ∈ fmt ∨ b ∈ s := by
  have hgroup : ∀ i, b ∈ (if i ≤ n then m.sub i else []) → b ∈ s := by
    intro i hb
    split at hb
    · exact hm.sub_subset i hb
    · cases hb
  have htext : b ∈ m.text → b ∈ s := fun hb => hm.subset hb
  fun_induction expand m n before after fmt
  case case1 => cases h
  case case2 => exact .inl h
  all_goals simp only [List.mem_append, List.mem_cons] at *
  all_goals grind

/-- A byte of the result of a replacement comes from the format or from the subject. -/
theorem mem_replace {s fmt : Bytes} {b : UInt8} (h : b ∈ r.replace fmt s) : b ∈ fmt ∨ b ∈ s := by
  have hsplice : ∀ (ms : List Match) last, (∀ m ∈ ms, m.In s) →
      b ∈ splice fmt r.groups s last ms → b ∈ fmt ∨ b ∈ s := by
    intro ms
    induction ms with
    | nil => exact fun last _ hb => .inr ((List.drop_suffix last s).subset hb)
    | cons m ms ih =>
      intro last hms hb
      obtain ⟨hm, hms⟩ := List.forall_mem_cons.1 hms
      have hbetween : (s.take m.pos).drop last ⊆ s := fun d hd =>
        (List.take_prefix m.pos s).subset ((List.drop_suffix last _).subset hd)
      rw [splice, List.mem_append, List.mem_append] at hb
      rcases hb with (hb | hb) | hb
      · exact .inr (hbetween hb)
      · exact mem_expand hm hbetween (List.drop_suffix _ s).subset hb
      · exact ih _ hms hb
  exact hsplice _ 0 (matchesAfter_spans rfl) h

/-! ## Reading text -/

/-- A cursor reads a text and gets to another. -/
def Cursor.Reads (c : Cursor) (text : Bytes) (c' : Cursor) : Prop :=
  c.rest = text ++ c'.rest ∧ c'.idx = c.idx + text.length

theorem Cursor.Reads.text {text : Bytes} (h : c.Reads text c') :
    c.rest.take (c'.idx - c.idx) = text := by
  obtain ⟨hrest, hidx⟩ := h
  rw [hrest, hidx, Nat.add_sub_cancel_left, List.take_left]

theorem Cursor.Reads.trans {a b : Bytes} {c₁ c₂ c₃ : Cursor} (h₁ : c₁.Reads a c₂)
    (h₂ : c₂.Reads b c₃) : c₁.Reads (a ++ b) c₃ := by
  obtain ⟨hrest₁, hidx₁⟩ := h₁
  obtain ⟨hrest₂, hidx₂⟩ := h₂
  refine ⟨by rw [hrest₁, hrest₂, List.append_assoc], ?_⟩
  rw [hidx₂, hidx₁, List.length_append, Nat.add_assoc]

/-- Rounds over one class read as many bytes of it. -/
theorem goes_one {k : ByteClass} {n : Nat} (h : Goes (Steps (one k)) n c caps c' caps') :
    ∃ text, c.Reads text c' ∧ text.length = n ∧ (∀ b ∈ text, k.mem b = true) ∧ caps' = caps := by
  induction n generalizing c caps with
  | zero =>
    obtain ⟨rfl, rfl⟩ := h
    exact ⟨[], ⟨rfl, rfl⟩, rfl, by simp, rfl⟩
  | succ n ih =>
    obtain ⟨c₁, caps₁, ⟨b, rest, hrest, hmem, rfl, rfl⟩, hrounds⟩ := h
    obtain ⟨text, hreads, hlen, hall, rfl⟩ := ih hrounds
    refine ⟨b :: text, ⟨?_, ?_⟩, by rw [List.length_cons, hlen], ?_, rfl⟩
    · rw [hrest, List.cons_append, ← hreads.1]
    · rw [hreads.2, List.length_cons, Nat.add_comm text.length 1, ← Nat.add_assoc]
    · intro d hd
      rcases List.mem_cons.1 hd with rfl | hd
      · exact hmem
      · exact hall d hd

end Regex

end Ecma

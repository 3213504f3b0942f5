import RtsProxy.Text.Basic
import RtsProxy.Text.Lines

/-!
# Parts of a text

What stands between separators. Of things that are listed, each with parts, `firsts` are the first
parts.

* `infix_iff_parts`: what has no separator in it stands in one of the parts;
* `forall_firsts_append_iff`: parts put behind the last thing listed are not first ones, unless it
  has none.
-/

namespace Text

variable {sep outer : UInt8 → Bool} {s u w p pat : Bytes} {x : UInt8}

/-- The parts of a text between separators. An empty one is none. -/
def parts (sep : UInt8 → Bool) (s : Bytes) : List Bytes := (s.splitOnP sep).filter (· ≠ [])

/-- The first part of a text. -/
def firstPart (sep : UInt8 → Bool) (s : Bytes) : Bytes := (parts sep s).headD []

/-- The first parts of the things that a text lists. -/
def firsts (outer sep : UInt8 → Bool) (s : Bytes) : List Bytes :=
  (s.splitOnP outer).map (firstPart sep)

theorem parts_append_sep (hx : sep x = true) (u w : Bytes) :
    parts sep (u ++ x :: w) = parts sep u ++ parts sep w := by
  rw [parts, List.splitOnP_append_cons _ _ hx, List.filter_append]
  rfl

theorem parts_cons_sep (hx : sep x = true) (w : Bytes) : parts sep (x :: w) = parts sep w :=
  parts_append_sep hx [] w

theorem parts_of_no_sep (h : ∀ x ∈ u, sep x = false) (hne : u ≠ []) : parts sep u = [u] := by
  rw [parts, List.splitOnP_eq_singleton h]
  exact List.filter_cons_of_pos (decide_eq_true hne)

theorem parts_nil : parts sep [] = [] := rfl

/-- A text is in front of a separator and behind it, or has none. -/
theorem sep_cases (sep : UInt8 → Bool) (s : Bytes) : (∀ x ∈ s, sep x = false) ∨
    ∃ u x w, s = u ++ x :: w ∧ sep x = true ∧ ∀ y ∈ u, sep y = false := by
  induction s with
  | nil => exact .inl nofun
  | cons c s ih =>
    rcases hc : sep c with _ | _
    · rcases ih with hno | ⟨u, x, w, rfl, hx, hu⟩
      · exact .inl (List.forall_mem_cons.2 ⟨hc, hno⟩)
      · exact .inr ⟨c :: u, x, w, rfl, hx, List.forall_mem_cons.2 ⟨hc, hu⟩⟩
    · exact .inr ⟨[], c, s, rfl, hc, nofun⟩

/-- What has no separator in it stands in one of the parts. -/
theorem infix_iff_parts (hne : pat ≠ []) (hpat : ∀ x ∈ pat, sep x = false) (s : Bytes) :
    pat <:+: s ↔ ∃ p ∈ parts sep s, pat <:+: p := by
  induction hlen : s.length using Nat.strong_induction_on generalizing s with
  | _ len ih =>
    rcases sep_cases sep s with hno | ⟨u, x, w, rfl, hx, hu⟩
    · rcases s with _ | ⟨c, s⟩
      · simpa [parts_nil] using hne
      · rw [parts_of_no_sep hno (List.cons_ne_nil c s)]
        simp only [List.mem_singleton, exists_eq_left]
    · have hshort : ∀ v : Bytes, v.length < len → (pat <:+: v ↔ ∃ p ∈ parts sep v, pat <:+: p) :=
        fun v hv => ih _ hv v rfl
      have hxpat : x ∉ pat := fun hmem => Bool.false_ne_true ((hpat x hmem).symm.trans hx)
      rw [List.length_append, List.length_cons] at hlen
      rw [infix_append_sep_iff hne hxpat, parts_append_sep hx, hshort u (by omega),
        hshort w (by omega)]
      simp only [List.mem_append, or_and_right, exists_or]

theorem firstPart_append_sep (hx : sep x = true) (u w : Bytes) : firstPart sep (u ++ x :: w) =
    if parts sep u = [] then firstPart sep w else firstPart sep u := by
  rw [firstPart, firstPart, firstPart, parts_append_sep hx]
  rcases parts sep u with _ | ⟨p, ps⟩ <;> rfl

/-- A separator in front does not matter. -/
theorem firsts_cons_sep (hx : sep x = true) (hout : outer x = false) (w : Bytes) :
    firsts outer sep (x :: w) = firsts outer sep w := by
  have hne : w.splitOnP outer ≠ [] := List.splitOnP_ne_nil outer w
  obtain ⟨u, us, hu⟩ := List.exists_cons_of_ne_nil hne
  rw [firsts, List.splitOnP_cons_eq_if_modifyHead, hout, if_neg Bool.false_ne_true, firsts, hu,
    List.modifyHead_cons, List.map_cons, List.map_cons, firstPart, parts_cons_sep hx, firstPart]

/-- Parts put behind the last thing listed are not first ones, unless it has none. -/
theorem forall_firsts_append_iff {P : Bytes → Prop} (hx : sep x = true) (hout : outer x = false)
    (hw : ∀ y ∈ w, outer y = false) (hnil : P []) (hfirst : P (firstPart sep w)) (u : Bytes) :
    (∀ p ∈ firsts outer sep (u ++ x :: w), P p) ↔ ∀ p ∈ firsts outer sep u, P p := by
  induction hlen : u.length using Nat.strong_induction_on generalizing u with
  | _ len ih =>
    rcases sep_cases outer u with hno | ⟨a, y, b, rfl, hy, ha⟩
    · have hwhole : ∀ z ∈ u ++ x :: w, outer z = false :=
        List.forall_mem_append.2 ⟨hno, List.forall_mem_cons.2 ⟨hout, hw⟩⟩
      rw [firsts, firsts, List.splitOnP_eq_singleton hwhole, List.splitOnP_eq_singleton hno,
        List.map_singleton, List.map_singleton, List.forall_mem_singleton,
        List.forall_mem_singleton, firstPart_append_sep hx]
      split
      case isTrue hu =>
        have hempty : firstPart sep u = [] := by rw [firstPart, hu, List.headD_nil]
        rw [hempty]
        exact iff_of_true hfirst hnil
      case isFalse => rfl
    · rw [List.length_append, List.length_cons] at hlen
      have hb := ih b.length (by omega) b rfl
      simp only [firsts, List.append_assoc, List.cons_append, List.splitOnP_append_cons _ _ hy,
        List.map_append, List.forall_mem_append] at hb ⊢
      exact and_congr_right fun _ => hb

end Text

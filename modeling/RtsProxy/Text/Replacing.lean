import RtsProxy.Text.Basic

/-!
# Replacing what is found

A part of a text is to be replaced. Its place is known, but it is looked for: what is replaced is
the first part that reads like it.

* `place_of_looks`: only at its own place does the replacement look right, unless the new text
  starts with the old one;
* `replaceFirst_eq_iff`: when one part is replaced where it stands;
* `replaceTwo_of_places`, `places_of_replaceTwo`: when two are, of which the second is looked for
  behind the first.
-/

namespace Text

variable {s t n a b c x : Bytes} {i : Nat}

theorem replaceAt_append : replaceAt (a ++ (t ++ b)) a.length t.length n = a ++ (n ++ b) := by
  rw [replaceAt, List.take_left, List.drop_length_add_append, List.drop_left, List.append_assoc]

theorem replaceAt_self (h : t <+: s.drop i) : replaceAt s i t.length t = s := by
  obtain ⟨b, hb⟩ := h
  rw [replaceAt, ← List.drop_drop, ← hb, List.drop_left, List.append_assoc, hb,
    List.take_append_drop]

/-- A text that is repeated after a start of it goes on after that start with a start of itself. -/
theorem exists_of_repeated (ht : t <+: x ++ t) (hlt : x.length < t.length) :
    ∃ u, t = x ++ u ∧ u <+: x ++ u := by
  obtain ⟨u, rfl⟩ := List.prefix_of_prefix_length_le (List.prefix_append x t) ht hlt.le
  exact ⟨u, rfl, (List.prefix_append_right_inj x).1 ht⟩

/-- Of two texts that are repeated after the same start one is the start of the other. -/
theorem prefix_of_repeated (hx : x ≠ []) (ht : t <+: x ++ t) (hn : n <+: x ++ n)
    (hle : t.length ≤ n.length) : t <+: n := by
  have hpos : 0 < x.length := List.length_pos_iff.2 hx
  induction hlen : t.length using Nat.strong_induction_on generalizing t n with
  | _ k ih =>
    subst hlen
    by_cases hlt : x.length < t.length
    · -- Both go on after the start with shorter texts of the same kind.
      obtain ⟨u, rfl, hu⟩ := exists_of_repeated ht hlt
      obtain ⟨v, rfl, hv⟩ := exists_of_repeated hn (hlt.trans_le hle)
      rw [List.length_append, List.length_append, Nat.add_le_add_iff_left] at hle
      have hshort : u.length < (x ++ u).length := by
        rw [List.length_append]
        omega
      exact (List.prefix_append_right_inj x).2 (ih _ hshort hu hv hle rfl)
    · have htx : t <+: x := List.prefix_of_prefix_length_le ht (List.prefix_append x t) (not_lt.1 hlt)
      exact List.prefix_of_prefix_length_le (htx.trans (List.prefix_append x n)) hn hle

/-- A part of a text is found at its place or before it. -/
theorem find_le (h : find t (a ++ (t ++ b)) = some i) : i ≤ a.length := by
  by_contra hlt
  refine (find_eq_some_iff.1 h).2.2 a.length (by omega) ?_
  rw [List.drop_left]
  exact List.prefix_append t b

theorem exists_find : ∃ i, find t (a ++ (t ++ b)) = some i := by
  refine Option.ne_none_iff_exists'.1 fun h => find_eq_none_iff.1 h ⟨a, b, ?_⟩
  rw [List.append_assoc]

/-- Where the new text is put at the place that is found and this looks as if it were put at the
    part's own, the places are the same, unless the new text starts with the old one. -/
theorem place_of_looks {w z : Bytes} (hfind : find t (a ++ (t ++ b)) = some i)
    (hle : t.length ≤ n.length)
    (h : (a ++ (t ++ b)).take i ++ (n ++ w) = a ++ (n ++ z)) : i = a.length ∨ t <+: n := by
  have hi := find_le hfind
  rcases Nat.eq_or_lt_of_le hi with heq | hlt
  · exact .inl heq
  · right
    -- Between the two places stands the start after which both texts repeat themselves.
    have hne : a.drop i ≠ [] := mt List.drop_eq_nil_iff.1 (by omega)
    have hpre := (find_eq_some_iff.1 hfind).2.1
    rw [List.drop_append_of_le_length hi, ← List.append_assoc] at hpre
    have ht : t <+: a.drop i ++ t :=
      List.prefix_of_prefix_length_le hpre (List.prefix_append _ _)
        (by rw [List.length_append]; omega)
    rw [List.take_append_of_le_length hi] at h
    nth_rewrite 2 [← List.take_append_drop i a] at h
    rw [List.append_assoc, List.append_cancel_left_eq, ← List.append_assoc] at h
    have hn : n <+: a.drop i ++ n :=
      List.prefix_of_prefix_length_le ⟨w, h⟩ (List.prefix_append _ _)
        (by rw [List.length_append]; omega)
    exact prefix_of_repeated hne ht hn hle

/-! ## One part -/

/-- The first part of a text that reads like `t` is replaced. -/
def replaceFirst (t n s : Bytes) : Bytes :=
  match find t s with
  | none => s
  | some i => replaceAt s i t.length n

/-- A new text is no shorter than the old one, and starts with it only when it is the same. -/
def Fresh (t n : Bytes) : Prop := t.length ≤ n.length ∧ (t <+: n → n = t)

instance (t n : Bytes) : Decidable (Fresh t n) := inferInstanceAs (Decidable (_ ∧ _))

/-- What is looked for behind a text is replaced behind it. -/
theorem replaceFirst_behind : (match findFrom t (a ++ s) a.length with
    | none => a ++ s
    | some i => replaceAt (a ++ s) i t.length n) = a ++ replaceFirst t n s := by
  rw [findFrom, if_pos (by rw [List.length_append]; omega), List.drop_left, replaceFirst]
  rcases find t s with _ | i
  · rfl
  · simp only [Option.map_some, replaceAt]
    rw [Nat.add_comm i, List.take_length_add_append, Nat.add_assoc, List.drop_length_add_append]
    simp only [List.append_assoc]

theorem replaceFirst_of_place (h : n = t ∨ find t (a ++ (t ++ b)) = some a.length) :
    replaceFirst t n (a ++ (t ++ b)) = a ++ (n ++ b) := by
  obtain ⟨i, hi⟩ := @exists_find t a b
  rw [replaceFirst, hi]
  rcases h with rfl | h
  · exact replaceAt_self (find_eq_some_iff.1 hi).2.1
  · obtain rfl := Option.some.inj (hi.symm.trans h)
    exact replaceAt_append

/-- A part is replaced where it stands exactly when it is not replaced, or found there. -/
theorem replaceFirst_eq_iff (hfresh : Fresh t n) :
    replaceFirst t n (a ++ (t ++ b)) = a ++ (n ++ b) ↔
      n = t ∨ find t (a ++ (t ++ b)) = some a.length := by
  refine ⟨fun h => ?_, replaceFirst_of_place⟩
  obtain ⟨i, hi⟩ := @exists_find t a b
  rw [replaceFirst, hi] at h
  rw [hi, Option.some_inj]
  simp only [replaceAt, List.append_assoc] at h
  exact (place_of_looks hi hfresh.1 h).symm.imp_left hfresh.2

/-! ## Two parts -/

variable {t' n' : Bytes}

/-- In a text with two parts that are to be replaced, the first one is found at `i`. What
    follows it, up to the second part, is `u`: also in the result, where the first part is
    replaced well. -/
theorem exists_between (hfind : find t (a ++ (t ++ (b ++ (t' ++ c)))) = some i) :
    ∃ u, (a ++ (t ++ (b ++ (t' ++ c)))).drop (i + t.length) = u ++ (t' ++ c) ∧
      i + t.length + u.length = (a ++ (t ++ b)).length ∧
      ∀ n z, n = t ∨ i = a.length →
        (a ++ (t ++ (b ++ (t' ++ c)))).take i ++ (n ++ (u ++ z)) = a ++ (n ++ (b ++ z)) := by
  have hi := find_le hfind
  have hlen : i + t.length ≤ (a ++ (t ++ b)).length := by
    simp only [List.length_append]
    omega
  obtain ⟨rest, hrest⟩ := (find_eq_some_iff.1 hfind).2.1
  have hsplit : a ++ (t ++ (b ++ (t' ++ c))) = a ++ (t ++ b) ++ (t' ++ c) := by
    simp only [List.append_assoc]
  have htake : (a ++ (t ++ (b ++ (t' ++ c)))).take i ++ t = (a ++ (t ++ b)).take (i + t.length) := by
    rw [← List.take_append_of_le_length hlen, ← hsplit, List.take_add, ← hrest, List.take_left]
  refine ⟨(a ++ (t ++ b)).drop (i + t.length), ?_, ?_, ?_⟩
  · rw [hsplit, List.drop_append_of_le_length hlen]
  · rw [List.length_drop]
    omega
  · rintro n z (rfl | rfl)
    · rw [← List.append_assoc, htake, ← List.append_assoc, List.take_append_drop]
      simp only [List.append_assoc]
    · rw [List.take_left, ← List.append_assoc a t b, ← List.length_append, List.drop_left]

/-- The second part is found at its place in the text, or in what is left of it. -/
theorem findFrom_iff {u : Bytes} {p : Nat} (hin : p ≤ s.length) (hdrop : s.drop p = u ++ (t ++ c)) :
    findFrom t s p = some (p + u.length) ↔ find t (u ++ (t ++ c)) = some u.length := by
  rw [findFrom, if_pos hin, hdrop, Option.map_eq_some_iff]
  constructor
  · rintro ⟨j, hj, hplace⟩
    rw [hj, show j = u.length by omega]
  · exact fun h => ⟨u.length, h, Nat.add_comm _ _⟩

/-- Two parts are replaced where they stand when each of them is not replaced, or found there. -/
theorem replaceTwo_of_places (hfind : find t (a ++ (t ++ (b ++ (t' ++ c)))) = some i)
    (hfirst : n = t ∨ i = a.length)
    (hsecond : n' = t' ∨ findFrom t' (a ++ (t ++ (b ++ (t' ++ c)))) (i + t.length) =
      some (a ++ (t ++ b)).length) :
    (a ++ (t ++ (b ++ (t' ++ c)))).take i ++
        (n ++ replaceFirst t' n' ((a ++ (t ++ (b ++ (t' ++ c)))).drop (i + t.length))) =
      a ++ (n ++ (b ++ (n' ++ c))) := by
  obtain ⟨u, hdrop, hlen, hfront⟩ := exists_between hfind
  rw [← hlen, findFrom_iff (find_add_length_le hfind) hdrop] at hsecond
  rw [hdrop, replaceFirst_of_place hsecond, hfront n _ hfirst]

/-- Of two parts that are replaced where they stand each one is not replaced, or found there. -/
theorem places_of_replaceTwo (hfind : find t (a ++ (t ++ (b ++ (t' ++ c)))) = some i)
    (hfresh : Fresh t n) (hfresh' : Fresh t' n')
    (h : (a ++ (t ++ (b ++ (t' ++ c)))).take i ++
        (n ++ replaceFirst t' n' ((a ++ (t ++ (b ++ (t' ++ c)))).drop (i + t.length))) =
      a ++ (n ++ (b ++ (n' ++ c)))) :
    (n = t ∨ i = a.length) ∧
      (n' = t' ∨ findFrom t' (a ++ (t ++ (b ++ (t' ++ c)))) (i + t.length) =
        some (a ++ (t ++ b)).length) := by
  obtain ⟨u, hdrop, hlen, hfront⟩ := exists_between hfind
  have hfirst : n = t ∨ i = a.length :=
    (place_of_looks hfind hfresh.1 h).symm.imp_left hfresh.2
  rw [← hfront n _ hfirst, List.append_cancel_left_eq, List.append_cancel_left_eq, hdrop] at h
  rw [← hlen, findFrom_iff (find_add_length_le hfind) hdrop]
  exact ⟨hfirst, (replaceFirst_eq_iff hfresh').1 h⟩

end Text

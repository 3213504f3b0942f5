import RtsProxy.Text.Basic

/-!
# Lines

A text is lines that are separated by CR LF. A line may well contain a CR or an LF alone.

* `splitLines`: the lines of a text (`intercalate_splitLines`, `splitLines_intercalate`);
* `find_line`, `find_crlf2_line`: searching goes line by line;
* `exists_message`: a text with an empty line is a header block, and what is behind its first empty
  line (`find_message`);
* `headerLines`: the lines of the header block of a text (`headerLines_message`).
-/

namespace Text

variable {pat s l rest : Bytes} {ls hs : List Bytes} {i n : Nat}

/-- A text in which no line ends. -/
def Unbroken (l : Bytes) : Prop := ¬crlf <:+: l

theorem unbroken_nil : Unbroken [] := fun hin => absurd (List.infix_nil.1 hin) (by decide)

theorem unbroken_of_not_mem (h : 13 ∉ l) : Unbroken l := fun hin =>
  h (hin.subset List.mem_cons_self)

/-- The lines of a text. -/
def splitLines : Bytes → List Bytes
  | [] => [[]]
  | [c] => [[c]]
  | c :: d :: s =>
    if c = 13 ∧ d = 10 then [] :: splitLines s else (splitLines (d :: s)).modifyHead (c :: ·)

example : splitLines (ascii "a\r\n\r\nb\r") = [ascii "a", [], ascii "b\r"] := by decide

/-! ## Splitting and joining -/

theorem splitLines_ne_nil (s : Bytes) : splitLines s ≠ [] := by
  fun_induction splitLines s with
  | case1 => exact List.cons_ne_nil _ _
  | case2 => exact List.cons_ne_nil _ _
  | case3 => exact List.cons_ne_nil _ _
  | case4 c d s _ ih =>
    obtain ⟨h, t, heq⟩ := List.exists_cons_of_ne_nil ih
    rw [heq]
    exact List.cons_ne_nil _ _

theorem intercalate_splitLines (s : Bytes) : crlf.intercalate (splitLines s) = s := by
  fun_induction splitLines s with
  | case1 => rfl
  | case2 => rfl
  | case3 c d s h ih =>
    obtain ⟨rfl, rfl⟩ := h
    rw [List.intercalate_cons_of_ne_nil (splitLines_ne_nil s), ih]
    rfl
  | case4 c d s _ ih =>
    obtain ⟨h, t, heq⟩ := List.exists_cons_of_ne_nil (splitLines_ne_nil (d :: s))
    rw [heq] at ih ⊢
    rw [List.modifyHead_cons, List.intercalate_cons_cons_left, ih]

/-- Where a line ends in a text that starts with one, the line is over. -/
theorem not_crlf_prefix (h : Unbroken l) (rest : Bytes) {j : Nat} (hj : j < l.length) :
    ¬crlf <+: (l ++ (crlf ++ rest)).drop j := by
  rw [List.drop_append_of_le_length hj.le]
  intro hpre
  obtain ⟨c, t, ht⟩ := List.exists_cons_of_ne_nil (List.ne_nil_of_length_pos
    (by rw [List.length_drop]; omega : 0 < (l.drop j).length))
  rw [ht, show crlf = [13, 10] from rfl] at hpre
  obtain ⟨rfl, htail⟩ := List.cons_prefix_cons.1 hpre
  rcases t with _ | ⟨d, t⟩
  · obtain ⟨hne, -⟩ := List.cons_prefix_cons.1 htail
    exact absurd hne (by decide)
  · obtain ⟨rfl, -⟩ := List.cons_prefix_cons.1 htail
    have hin : crlf <:+: 13 :: 10 :: t := ⟨[], t, rfl⟩
    exact h (hin.trans (ht ▸ (List.drop_suffix j l).isInfix))

theorem splitLines_line (h : Unbroken l) (rest : Bytes) :
    splitLines (l ++ (crlf ++ rest)) = l :: splitLines rest := by
  induction l with
  | nil => rfl
  | cons c l ih =>
    have hl : Unbroken l := fun hin => h (hin.trans (List.suffix_cons c l).isInfix)
    obtain ⟨d, t, ht⟩ := List.exists_cons_of_ne_nil
      (List.append_ne_nil_of_right_ne_nil l (List.cons_ne_nil 13 (10 :: rest)))
    have ht : l ++ (crlf ++ rest) = d :: t := ht
    have hno : ¬(c = 13 ∧ d = 10) := by
      rintro ⟨rfl, rfl⟩
      refine not_crlf_prefix h rest (Nat.zero_lt_succ _) ?_
      rw [List.drop_zero, List.cons_append, ht]
      exact ⟨t, rfl⟩
    rw [List.cons_append, ht, splitLines, if_neg hno, ← ht, ih hl]
    rfl

theorem splitLines_of_unbroken (h : Unbroken l) : splitLines l = [l] := by
  induction l with
  | nil => rfl
  | cons c l ih =>
    have hl : Unbroken l := fun hin => h (hin.trans (List.suffix_cons c l).isInfix)
    rcases l with _ | ⟨d, l⟩
    · rfl
    · have hno : ¬(c = 13 ∧ d = 10) := by
        rintro ⟨rfl, rfl⟩
        exact h ⟨[], l, rfl⟩
      rw [splitLines, if_neg hno, ih hl]
      rfl

theorem splitLines_intercalate (hne : ls ≠ []) (h : ∀ l ∈ ls, Unbroken l) :
    splitLines (crlf.intercalate ls) = ls := by
  induction ls with
  | nil => exact absurd rfl hne
  | cons l ls ih =>
    obtain ⟨hl, hls⟩ := List.forall_mem_cons.1 h
    rcases ls with _ | ⟨l', ls⟩
    · rw [List.intercalate_singleton, splitLines_of_unbroken hl]
    · rw [List.intercalate_cons_cons, List.append_assoc, splitLines_line hl,
        ih (List.cons_ne_nil _ _) hls]

/-- The first line of a text starts like the text, unless it is empty. -/
theorem head_splitLines_cons (c : UInt8) (s : Bytes) : ∃ h t, splitLines (c :: s) = h :: t ∧
    (h = [] ∨ ∃ h', h = c :: h') := by
  rcases s with _ | ⟨d, s⟩
  · exact ⟨[c], [], rfl, .inr ⟨[], rfl⟩⟩
  · rw [splitLines]
    by_cases hends : c = 13 ∧ d = 10
    · rw [if_pos hends]
      exact ⟨[], _, rfl, .inl rfl⟩
    · obtain ⟨h, t, heq⟩ := List.exists_cons_of_ne_nil (splitLines_ne_nil (d :: s))
      rw [if_neg hends, heq]
      exact ⟨c :: h, t, rfl, .inr ⟨h, rfl⟩⟩

theorem unbroken_of_mem_splitLines (h : l ∈ splitLines s) : Unbroken l := by
  have hshort : ∀ {l : Bytes}, l.length < 2 → Unbroken l := fun hlt hin =>
    absurd hin.length_le (Nat.not_le.2 hlt)
  fun_induction splitLines s generalizing l with
  | case1 =>
    obtain rfl := List.mem_singleton.1 h
    exact hshort (Nat.zero_lt_succ _)
  | case2 =>
    obtain rfl := List.mem_singleton.1 h
    exact hshort (Nat.lt_succ_self _)
  | case3 c d s _ ih =>
    rcases List.mem_cons.1 h with rfl | h
    · exact hshort (Nat.zero_lt_succ _)
    · exact ih h
  | case4 c d s hno ih =>
    obtain ⟨first, t, heq, hfirst⟩ := head_splitLines_cons d s
    rw [heq] at h ih
    rcases List.mem_cons.1 h with rfl | h
    · -- a line that ended in here would end behind its first byte
      intro hin
      rcases List.infix_cons_iff.1 hin with hpre | hin
      · obtain ⟨hc, hpre⟩ := List.cons_prefix_cons.1 (show (13 : UInt8) :: [10] <+: c :: first from hpre)
        rcases hfirst with rfl | ⟨first, rfl⟩
        · exact absurd (List.prefix_nil.1 hpre) (by decide)
        · obtain ⟨hd, -⟩ := List.cons_prefix_cons.1 hpre
          exact hno ⟨hc.symm, hd.symm⟩
      · exact ih List.mem_cons_self hin
    · exact ih (List.mem_cons_of_mem _ h)

/-! ## Searching -/

/-- What is not found at the first places is looked for behind them. -/
theorem find_drop (hn : n ≤ s.length) (h : ∀ j < n, ¬pat <+: s.drop j) :
    find pat s = (find pat (s.drop n)).map (· + n) := by
  rcases hfind : find pat (s.drop n) with _ | i
  · refine find_eq_none_iff.2 fun hin => ?_
    obtain ⟨a, b, rfl⟩ := hin
    have hpre : pat <+: (a ++ pat ++ b).drop a.length := by
      rw [List.append_assoc, List.drop_left]
      exact List.prefix_append _ _
    have hle : n ≤ a.length := Nat.not_lt.1 fun hlt => h _ hlt hpre
    refine find_eq_none_iff.1 hfind (hpre.isInfix.trans ?_)
    rw [← Nat.add_sub_of_le hle, ← List.drop_drop]
    exact (List.drop_suffix _ _).isInfix
  · obtain ⟨hle, hpre, hmin⟩ := find_eq_some_iff.1 hfind
    rw [List.length_drop] at hle
    rw [List.drop_drop, Nat.add_comm] at hpre
    refine find_eq_some_iff.2 ⟨Nat.add_le_of_le_sub hn hle, hpre, fun j hj hj' => ?_⟩
    have hj : j < i + n := hj
    rcases Nat.lt_or_ge j n with hlt | hge
    · exact h j hlt hj'
    · refine hmin (j - n) (by omega) ?_
      rwa [List.drop_drop, Nat.add_sub_of_le hge]

/-- What holds no end of a line is found in the first line, or looked for behind it. -/
theorem find_line (hcr : 13 ∉ pat) (hlf : 10 ∉ pat) (hne : pat ≠ []) (l rest : Bytes) :
    find pat (l ++ (crlf ++ rest)) =
      (find pat l).or ((find pat rest).map (· + (l.length + 2))) := by
  rcases hl : find pat l with _ | i
  · have hnil : ¬pat <:+: [] := fun h => hne (List.infix_nil.1 h)
    have hrest : find pat ([] ++ 10 :: rest) = (find pat rest).map (· + 1) :=
      find_append_sep hlf hnil
    have hwhole : find pat (l ++ 13 :: (10 :: rest)) = _ :=
      find_append_sep hcr (find_eq_none_iff.1 hl)
    rw [List.nil_append] at hrest
    rw [show l ++ (crlf ++ rest) = l ++ 13 :: (10 :: rest) from rfl, hwhole, hrest, Option.map_map,
      Option.none_or]
    refine congrArg (Option.map · (find pat rest)) (funext fun i => ?_)
    show i + 1 + (l.length + 1) = i + (l.length + 2)
    omega
  · rw [find_append hl, Option.some_or]

theorem find_crlf_line (h : Unbroken l) (rest : Bytes) :
    find crlf (l ++ (crlf ++ rest)) = some l.length := by
  have hpre : crlf <+: crlf ++ rest := List.prefix_append _ _
  rw [find_drop (List.length_append ▸ Nat.le_add_right _ _) fun j hj => not_crlf_prefix h rest hj,
    List.drop_left, find_eq_zero hpre, Option.map_some, Nat.zero_add]

/-- An empty line is behind the first line, or looked for behind its end. -/
theorem find_crlf2_line (h : Unbroken l) (rest : Bytes) : find crlf2 (l ++ (crlf ++ rest)) =
    if crlf <+: rest then some l.length else (find crlf2 rest).map (· + (l.length + 2)) := by
  have hends : crlf <+: crlf2 := ⟨crlf, rfl⟩
  rw [find_drop (List.length_append ▸ Nat.le_add_right _ _) fun j hj hpre =>
    not_crlf_prefix h rest hj (hends.trans hpre), List.drop_left]
  split
  case isTrue hpre =>
    have hwhole : crlf2 <+: crlf ++ rest := (List.prefix_append_right_inj crlf).2 hpre
    rw [find_eq_zero hwhole, Option.map_some, Nat.zero_add]
  case isFalse hno =>
    have hnot : ∀ j < 2, ¬crlf2 <+: (crlf ++ rest).drop j := by
      intro j hj hpre
      obtain rfl | rfl : j = 0 ∨ j = 1 := by omega
      · exact hno ((List.prefix_append_right_inj crlf).1 hpre)
      · exact absurd (List.cons_prefix_cons.1 hpre).1 (by decide)
    have hle : 2 ≤ (crlf ++ rest).length := by
      rw [List.length_append]
      exact Nat.le_add_right _ _
    rw [find_drop hle hnot,
      Option.map_map, show (crlf ++ rest).drop 2 = rest from rfl]
    rcases find crlf2 rest with _ | i
    · rfl
    · refine congrArg some ?_
      show i + 2 + l.length = i + (l.length + 2)
      omega

/-! ## Messages -/

/-- Lines, an empty line, and what is behind it. -/
def message (hs : List Bytes) (body : Bytes) : Bytes :=
  hs.foldr (fun l rest => l ++ (crlf ++ rest)) (crlf ++ body)

/-- The lines of a header block: no line is empty, but the first may be. -/
structure IsBlock (hs : List Bytes) : Prop where
  ne_nil : hs ≠ []
  unbroken : ∀ l ∈ hs, Unbroken l
  full : ∀ l ∈ hs.tail, l ≠ []

theorem message_cons (l : Bytes) (hs : List Bytes) (body : Bytes) :
    message (l :: hs) body = l ++ (crlf ++ message hs body) := rfl

theorem message_append (hs : List Bytes) (body : Bytes) :
    message hs [] ++ body = message hs body := by
  induction hs with
  | nil => rfl
  | cons l hs ih => rw [message_cons, message_cons, List.append_assoc, List.append_assoc, ih]

/-- A line that has something in it does not end where it starts. -/
theorem not_crlf_prefix_of_ne_nil (h : Unbroken l) (hne : l ≠ []) (rest : Bytes) :
    ¬crlf <+: l ++ (crlf ++ rest) :=
  not_crlf_prefix h rest (List.length_pos_of_ne_nil hne)

/-- A header block ends with the first empty line. -/
theorem find_message (h : IsBlock hs) (body : Bytes) :
    ∃ i, find crlf2 (message hs body) = some i ∧ (message hs body).take (i + 4) = message hs [] := by
  obtain ⟨hne, hfree, hfull⟩ := h
  induction hs with
  | nil => exact absurd rfl hne
  | cons l hs ih =>
    obtain ⟨hl, hhs⟩ := List.forall_mem_cons.1 hfree
    have hlen : crlf.length = 2 := rfl
    rcases hs with _ | ⟨l', hs⟩
    · have hends : crlf <+: message [] body := List.prefix_append _ _
      refine ⟨l.length, by rw [message_cons, find_crlf2_line hl, if_pos hends], ?_⟩
      rw [message_cons, List.take_length_add_append]
      rfl
    · obtain ⟨hl', hrest⟩ := List.forall_mem_cons.1 hfull
      have hno : ¬crlf <+: message (l' :: hs) body :=
        not_crlf_prefix_of_ne_nil (List.forall_mem_cons.1 hhs).1 hl' _
      obtain ⟨i, hi, htake⟩ := ih (List.cons_ne_nil _ _) hhs hrest
      refine ⟨i + (l.length + 2), ?_, ?_⟩
      · rw [message_cons, find_crlf2_line hl, if_neg hno, hi, Option.map_some]
      · rw [message_cons, show i + (l.length + 2) + 4 = l.length + (crlf.length + (i + 4)) by omega,
          List.take_length_add_append, List.take_length_add_append, htake]
        rfl

/-- A text with an empty line is a header block, and what is behind its first empty line. -/
theorem exists_message (h : find crlf2 s = some i) : ∃ hs body, IsBlock hs ∧ s = message hs body := by
  have hfree : ∀ l ∈ splitLines s, Unbroken l := fun _ => unbroken_of_mem_splitLines
  rw [← intercalate_splitLines s] at h ⊢
  generalize splitLines s = ls at h hfree
  induction ls generalizing i with
  | nil => cases h
  | cons l ls ih =>
    obtain ⟨hl, htail⟩ := List.forall_mem_cons.1 hfree
    rcases ls with _ | ⟨l', ls⟩
    · rw [List.intercalate_singleton] at h
      obtain ⟨-, hpre, -⟩ := find_eq_some_iff.1 h
      have hin : crlf <:+: crlf2 := ⟨[], crlf, rfl⟩
      exact absurd (hin.trans (hpre.isInfix.trans (List.drop_suffix i l).isInfix)) hl
    · have hfirst : Unbroken l' := (List.forall_mem_cons.1 htail).1
      have hwhole : crlf.intercalate (l :: l' :: ls) = l ++ (crlf ++ crlf.intercalate (l' :: ls)) := by
        rw [List.intercalate_cons_cons, List.append_assoc]
      rw [hwhole, find_crlf2_line hl] at h
      rw [hwhole]
      by_cases hends : crlf <+: crlf.intercalate (l' :: ls)
      · -- the next line is empty, and another follows it
        obtain ⟨body, hbody⟩ := hends
        refine ⟨[l], body, ⟨List.cons_ne_nil _ _, List.forall_mem_singleton.2 hl,
          fun _ hm => absurd hm List.not_mem_nil⟩, ?_⟩
        rw [← hbody]
        rfl
      · rw [if_neg hends] at h
        obtain ⟨j, hj, -⟩ := Option.map_eq_some_iff.1 h
        obtain ⟨hs, body, ⟨hne, hhs, hfull⟩, heq⟩ := ih hj htail
        refine ⟨l :: hs, body, ⟨List.cons_ne_nil _ _, List.forall_mem_cons.2 ⟨hl, hhs⟩, ?_⟩, ?_⟩
        · obtain ⟨l₀, hs, rfl⟩ := List.exists_cons_of_ne_nil hne
          refine List.forall_mem_cons.2 ⟨?_, hfull⟩
          rintro rfl
          exact hends (heq ▸ List.prefix_append _ _)
        · rw [heq, message_cons]

/-- The lines of a text in front of its first empty line. -/
def headerLines (s : Bytes) : List Bytes :=
  match find crlf2 s with
  | none => []
  | some i => splitLines (s.take i)

theorem message_nil_eq (hne : hs ≠ []) : message hs [] = crlf.intercalate hs ++ crlf2 := by
  induction hs with
  | nil => exact absurd rfl hne
  | cons l hs ih =>
    rcases hs with _ | ⟨l', hs⟩
    · rw [List.intercalate_singleton]
      rfl
    · rw [message_cons, ih (List.cons_ne_nil _ _), List.intercalate_cons_cons, List.append_assoc,
        List.append_assoc]

/-- The lines of a header block are those of the message. -/
theorem headerLines_message (h : IsBlock hs) (body : Bytes) : headerLines (message hs body) = hs := by
  obtain ⟨i, hi, htake⟩ := find_message h body
  have hle : i + 4 ≤ (message hs body).length := find_add_length_le hi
  have hfront : (message hs body).take i ++ ((message hs body).drop i).take 4 =
      crlf.intercalate hs ++ crlf2 := by
    rw [← message_nil_eq h.ne_nil, ← htake, List.take_add]
  have hfour : (((message hs body).drop i).take 4).length = 4 := by
    rw [List.length_take, List.length_drop]
    omega
  rw [headerLines, hi]
  dsimp only
  rw [(List.append_inj' hfront hfour).1, splitLines_intercalate h.ne_nil h.unbroken]

end Text

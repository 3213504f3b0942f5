import Mathlib.Data.List.Basic
import Mathlib.Data.List.Infix

/-!
# Byte strings

The operations of `std::string` that text protocols are written with, on lists
of bytes. A position is an index, `std::string::npos` is `none`.

* `find`: the first occurrence of a pattern (`find_eq_some_iff`,
  `find_eq_none_iff`), and `findFrom`, the first one from a position on;
* `replaceAt`: replacing a range of a string;
* `lower`: ASCII case folding;
* `words`: the white-space separated words a stream extraction reads
  (`wordsFrom_append`).
-/

/-- A byte string. -/
abbrev Bytes := List UInt8

namespace Text

/-- The bytes of an ASCII literal. -/
def ascii (s : String) : Bytes := s.toList.map fun c => c.toNat.toUInt8

/-- CR LF. -/
def crlf : Bytes := ascii "\r\n"

/-- An empty line: the end of a header block. -/
def crlf2 : Bytes := ascii "\r\n\r\n"

/-! ## Searching -/

/-- The position of the first occurrence of `pat`. -/
def find (pat : Bytes) : Bytes → Option Nat
  | [] => if pat = [] then some 0 else none
  | c :: s => if pat.isPrefixOf (c :: s) then some 0 else (find pat s).map (· + 1)

/-- The position of the first occurrence of `pat` from `pos` on. -/
def findFrom (pat s : Bytes) (pos : Nat) : Option Nat :=
  if pos ≤ s.length then (find pat (s.drop pos)).map (· + pos) else none

/-- `pat` occurs in the string. -/
def contains (pat s : Bytes) : Bool := (find pat s).isSome

/-- The position of the first byte out of `set` from `pos` on. -/
def findFirstOf (set s : Bytes) (pos : Nat) : Option Nat :=
  ((s.drop pos).findIdx? fun c => set.contains c).map (· + pos)

/-- The string with the `n` bytes from `pos` on replaced. -/
def replaceAt (s : Bytes) (pos n : Nat) (new : Bytes) : Bytes :=
  s.take pos ++ new ++ s.drop (pos + n)

theorem find_eq_some_iff {pat s : Bytes} {i : Nat} :
    find pat s = some i ↔
      i ≤ s.length ∧ pat <+: s.drop i ∧ ∀ j < i, ¬pat <+: s.drop j := by
  induction s generalizing i with
  | nil =>
    by_cases hp : pat = []
    · simp only [find, hp, if_true, Option.some.injEq, List.length_nil, Nat.le_zero_eq,
        List.drop_nil, List.nil_prefix, not_true_eq_false, imp_false, true_and]
      exact ⟨fun h => ⟨h.symm, fun j hj => by omega⟩, fun h => h.1.symm⟩
    · simp [find, hp]
  | cons c s ih =>
    by_cases hp : pat <+: c :: s
    · have hp' : pat.isPrefixOf (c :: s) = true := List.isPrefixOf_iff_prefix.2 hp
      simp only [find, hp', if_true, Option.some.injEq]
      refine ⟨fun h => h ▸ ⟨Nat.zero_le _, hp, by simp⟩, fun ⟨_, _, h⟩ => ?_⟩
      by_contra hne
      exact h 0 (by omega) hp
    · have hp' : pat.isPrefixOf (c :: s) = false := by
        rw [← Bool.not_eq_true, List.isPrefixOf_iff_prefix]; exact hp
      simp only [find, hp', Bool.false_eq_true, if_false, Option.map_eq_some_iff]
      constructor
      · rintro ⟨k, hk, rfl⟩
        obtain ⟨hle, hpre, hmin⟩ := ih.1 hk
        refine ⟨by simpa using hle, by simpa using hpre, fun j hj => ?_⟩
        cases j with
        | zero => simpa using hp
        | succ j => simpa using hmin j (by omega)
      · rintro ⟨hle, hpre, hmin⟩
        cases i with
        | zero => exact absurd (by simpa using hpre) hp
        | succ i =>
          refine ⟨i, ih.2 ⟨by simpa using hle, by simpa using hpre, fun j hj => ?_⟩, rfl⟩
          simpa using hmin (j + 1) (by omega)

theorem find_eq_none_iff {pat s : Bytes} : find pat s = none ↔ ¬pat <:+: s := by
  induction s with
  | nil => simp [find]
  | cons c s ih =>
    rw [List.infix_cons_iff, ← List.isPrefixOf_iff_prefix]
    by_cases hp : pat.isPrefixOf (c :: s)
    · simp [find, hp]
    · simp [find, hp, ih]

theorem contains_iff {pat s : Bytes} : contains pat s = true ↔ pat <:+: s := by
  rw [contains, Option.isSome_iff_ne_none, ne_eq, find_eq_none_iff, not_not]

/-- An occurrence found lies inside the string. -/
theorem find_add_length_le {pat s : Bytes} {i : Nat} (h : find pat s = some i) :
    i + pat.length ≤ s.length := by
  obtain ⟨hle, hpre, _⟩ := find_eq_some_iff.1 h
  have := hpre.length_le
  rw [List.length_drop] at this
  omega

/-- An occurrence found stays the first one when the string goes on. -/
theorem find_append {pat s : Bytes} {i : Nat} (h : find pat s = some i) (rest : Bytes) :
    find pat (s ++ rest) = some i := by
  have hend := find_add_length_le h
  obtain ⟨hle, hpre, hmin⟩ := find_eq_some_iff.1 h
  refine find_eq_some_iff.2 ⟨?_, ?_, fun j hj hbefore => hmin j hj ?_⟩
  · rw [List.length_append]
    omega
  · rw [List.drop_append_of_le_length hle]
    exact hpre.trans (List.prefix_append _ _)
  · -- an earlier occurrence would end inside the string
    rw [List.drop_append_of_le_length (by omega)] at hbefore
    refine List.prefix_of_prefix_length_le hbefore (List.prefix_append _ _) ?_
    rw [List.length_drop]
    omega

/-- An occurrence found from a position on lies behind it, inside the string. -/
theorem findFrom_bounds {pat s : Bytes} {pos i : Nat} (h : findFrom pat s pos = some i) :
    pos ≤ i ∧ i + pat.length ≤ s.length := by
  unfold findFrom at h
  split at h
  case isTrue hle =>
    obtain ⟨j, hj, rfl⟩ := Option.map_eq_some_iff.1 h
    have := find_add_length_le hj
    rw [List.length_drop] at this
    omega
  case isFalse => cases h

/-- A pattern standing at the start is found there. -/
theorem find_eq_zero {pat s : Bytes} (h : pat <+: s) : find pat s = some 0 :=
  find_eq_some_iff.2 ⟨Nat.zero_le _, h, by simp⟩

/-- A pattern is not found to start in what its first byte does not occur in. -/
theorem find_append_of_not_mem {c : UInt8} {pat x s : Bytes} (h : c ∉ x) :
    find (c :: pat) (x ++ s) = (find (c :: pat) s).map (· + x.length) := by
  induction x with
  | nil => exact Option.map_id'.symm
  | cons d x ih =>
    obtain ⟨hd, hx⟩ := not_or.1 (mt List.mem_cons.2 h)
    have hne : ¬(c :: pat).isPrefixOf (d :: (x ++ s)) = true := by
      rw [List.isPrefixOf_iff_prefix]
      exact fun hpre => hd (List.cons_prefix_cons.1 hpre).1
    rw [List.cons_append, find, if_neg hne, ih hx, Option.map_map]
    rfl

theorem find_byte {c : UInt8} {a b : Bytes} (h : c ∉ a) : find [c] (a ++ c :: b) = some a.length := by
  have hhere : find [c] (c :: b) = some 0 := find_eq_zero (List.prefix_append [c] b)
  rw [find_append_of_not_mem h, hhere, Option.map_some, Nat.zero_add]

theorem find_byte_eq_none {c : UInt8} {s : Bytes} (h : c ∉ s) : find [c] s = none :=
  find_eq_none_iff.2 fun hin => h (hin.subset List.mem_cons_self)

/-- The first place of a byte splits a text. -/
theorem split_of_find {c : UInt8} {s : Bytes} {i : Nat} (h : find [c] s = some i) :
    s = s.take i ++ c :: s.drop (i + 1) ∧ c ∉ s.take i := by
  obtain ⟨hle, ⟨t, ht⟩, hmin⟩ := find_eq_some_iff.1 h
  have hdrop : s.drop (i + 1) = t := by
    rw [← List.drop_drop, ← ht]
    rfl
  have hsplit : s = s.take i ++ c :: t := by
    nth_rewrite 1 [← List.take_append_drop i s]
    rw [← ht]
    rfl
  refine ⟨hdrop ▸ hsplit, fun hin => ?_⟩
  obtain ⟨a, b, hab⟩ := List.append_of_mem hin
  have hlen : a.length < i := by
    rw [← List.length_take_of_le hle, hab, List.length_append, List.length_cons]
    omega
  refine hmin a.length hlen ?_
  rw [hsplit, hab, List.append_assoc, List.drop_left]
  exact List.prefix_append [c] _

/-- What is found is found again with something else behind it. -/
theorem find_kept {pat s : Bytes} {i : Nat} (h : find pat s = some i) (rest : Bytes) :
    find pat (s.take i ++ (pat ++ rest)) = some i := by
  obtain ⟨hle, ⟨t, ht⟩, hmin⟩ := find_eq_some_iff.1 h
  have hlen : (s.take i).length = i := List.length_take_of_le hle
  refine find_eq_some_iff.2 ⟨?_, ?_, fun j hj hpre => hmin j hj ?_⟩
  · rw [List.length_append, hlen]
    exact Nat.le_add_right _ _
  · rw [List.drop_left' hlen]
    exact List.prefix_append _ _
  · -- An earlier occurrence ends in the pattern, where the two texts agree.
    have hsame : (s.take i ++ (pat ++ rest)).take (i + pat.length) = s.take (i + pat.length) := by
      rw [← List.append_assoc, List.take_left' (by rw [List.length_append, hlen]), List.take_add, ← ht,
        List.take_left]
    have htake : ((s.take i ++ (pat ++ rest)).drop j).take pat.length = pat :=
      (List.prefix_iff_eq_take.1 hpre).symm
    rw [List.take_drop, ← Nat.min_eq_left (show j + pat.length ≤ i + pat.length by omega),
      ← List.take_take, hsame, List.take_take,
      Nat.min_eq_left (show j + pat.length ≤ i + pat.length by omega), ← List.take_drop] at htake
    exact List.prefix_iff_eq_take.2 htake.symm

/-- A pattern without the separator occurs on one side of it. -/
theorem infix_append_sep_iff {pat a b : Bytes} {c : UInt8} (hne : pat ≠ []) (hc : c ∉ pat) :
    pat <:+: a ++ c :: b ↔ pat <:+: a ∨ pat <:+: b := by
  have hpre : ∀ a : Bytes, pat <+: a ++ c :: b ↔ pat <+: a := by
    intro a
    refine ⟨fun h => ?_, fun h => h.trans (List.prefix_append a _)⟩
    rcases List.prefix_or_prefix_of_prefix h (List.prefix_append a (c :: b)) with h' | ⟨r, rfl⟩
    · exact h'
    · -- what is left of the pattern starts with the separator
      cases r with
      | nil => simp
      | cons d r =>
        obtain ⟨rfl, -⟩ := List.cons_prefix_cons.1 ((List.prefix_append_right_inj a).1 h)
        simp at hc
  induction a with
  | nil =>
    rw [List.nil_append, List.infix_cons_iff, List.infix_nil, ← List.nil_append (c :: b), hpre,
      List.prefix_nil]
  | cons d a ih =>
    rw [List.cons_append, List.infix_cons_iff, List.infix_cons_iff, or_assoc]
    exact or_congr (hpre (d :: a)) ih

/-- What has no byte in common with a pattern keeps it on one of its sides. -/
theorem infix_append_apart_iff {pat a m b : Bytes} (hne : pat ≠ []) (hm : m ≠ [])
    (hapart : ∀ c ∈ m, c ∉ pat) : pat <:+: a ++ (m ++ b) ↔ pat <:+: a ∨ pat <:+: b := by
  induction m generalizing a with
  | nil => exact absurd rfl hm
  | cons c m ih =>
    obtain ⟨hc, hrest⟩ := List.forall_mem_cons.1 hapart
    rw [List.cons_append, infix_append_sep_iff hne hc]
    rcases m with _ | ⟨d, m⟩
    · rfl
    · have hnil : ¬pat <:+: [] := fun hin => hne (List.infix_nil.1 hin)
      have hnext := @ih [] (List.cons_ne_nil _ _) hrest
      rw [List.nil_append, or_iff_right hnil] at hnext
      rw [hnext]

/-- A pattern without the separator, not found in front of it, is looked for behind it. -/
theorem find_append_sep {pat u w : Bytes} {x : UInt8} (hx : x ∉ pat) (hu : ¬pat <:+: u) :
    find pat (u ++ x :: w) = (find pat w).map (· + (u.length + 1)) := by
  have hstart : ∀ u : Bytes, ¬pat <:+: u → ¬pat.isPrefixOf (u ++ x :: w) = true := by
    intro u hu hpre
    rcases List.prefix_or_prefix_of_prefix (List.isPrefixOf_iff_prefix.1 hpre)
      (List.prefix_append u (x :: w)) with h | ⟨r, rfl⟩
    · exact hu h.isInfix
    · rcases r with _ | ⟨d, r⟩
      · rw [List.append_nil] at hu
        exact hu List.infix_rfl
      · obtain ⟨rfl, -⟩ := List.cons_prefix_cons.1
          ((List.prefix_append_right_inj u).1 (List.isPrefixOf_iff_prefix.1 hpre))
        exact hx (List.mem_append_right u List.mem_cons_self)
  induction u with
  | nil => exact if_neg (hstart [] hu)
  | cons d u ih =>
    have hu' : ¬pat <:+: u := fun h => hu (h.trans (List.suffix_cons d u).isInfix)
    have hnext : find pat (d :: u ++ x :: w) = (find pat (u ++ x :: w)).map (· + 1) :=
      if_neg (hstart (d :: u) hu)
    rw [hnext, ih hu', Option.map_map]
    rfl

theorem length_replaceAt {s new : Bytes} {pos n : Nat} (h : pos + n ≤ s.length) :
    (replaceAt s pos n new).length + n = s.length + new.length := by
  simp only [replaceAt, List.length_append, List.length_take, List.length_drop]
  omega

/-! ## Case folding -/

/-- `tolower` in the C locale. -/
def lowerByte (c : UInt8) : UInt8 := if 65 ≤ c ∧ c ≤ 90 then c + 32 else c

/-- The string in lower case. -/
def lower (s : Bytes) : Bytes := s.map lowerByte

@[simp] theorem length_lower (s : Bytes) : (lower s).length = s.length := by simp [lower]

/-! ## White space -/

/-- `isspace` in the C locale: blank, tab, LF, VT, FF and CR. -/
def isSpace (c : UInt8) : Bool := c = 32 || (9 ≤ c && c ≤ 13)

/-- A digit. -/
def isDigit (c : UInt8) : Bool := 48 ≤ c && c ≤ 57

/-- The words of a string: `cur` is the word being read. -/
def wordsFrom (cur : Bytes) : Bytes → List Bytes
  | [] => if cur = [] then [] else [cur]
  | c :: s =>
    if isSpace c then (if cur = [] then wordsFrom [] s else cur :: wordsFrom [] s)
    else wordsFrom (cur ++ [c]) s

/-- The maximal runs of bytes that are not white space, in order: what repeated
    stream extraction (`>>`) yields. -/
def words (s : Bytes) : List Bytes := wordsFrom [] s

theorem wordsFrom_ne_nil {cur : Bytes} (hcur : cur ≠ []) (s : Bytes) :
    ∃ w ws, wordsFrom cur s = w :: ws := by
  induction s generalizing cur with
  | nil => exact ⟨cur, [], if_neg hcur⟩
  | cons c s ih =>
    rw [wordsFrom, if_neg hcur]
    split
    · exact ⟨_, _, rfl⟩
    · exact ih (List.append_ne_nil_of_right_ne_nil _ (List.cons_ne_nil _ _))

/-- The words but the last one are settled: more text can only make the last one longer. -/
theorem wordsFrom_append {cur a w : Bytes} {ws : List Bytes} (h : wordsFrom cur a = ws ++ [w])
    (b : Bytes) : ∃ w' ws', wordsFrom cur (a ++ b) = ws ++ w' :: ws' := by
  induction a generalizing cur ws with
  | nil =>
    rw [wordsFrom] at h
    by_cases hcur : cur = []
    · rw [if_pos hcur] at h
      exact absurd h.symm (List.append_ne_nil_of_right_ne_nil _ (List.cons_ne_nil _ _))
    · rw [if_neg hcur] at h
      rcases List.append_eq_singleton_iff.1 h.symm with ⟨rfl, -⟩ | ⟨-, hnil⟩
      · exact wordsFrom_ne_nil hcur b
      · exact absurd hnil (List.cons_ne_nil _ _)
  | cons c a ih =>
    rw [List.cons_append, wordsFrom]
    rw [wordsFrom] at h
    by_cases hc : isSpace c = true
    · rw [if_pos hc] at h ⊢
      by_cases hcur : cur = []
      · rw [if_pos hcur] at h ⊢
        exact ih h
      · rw [if_neg hcur] at h ⊢
        rcases ws with _ | ⟨v, ws⟩
        · exact ⟨cur, _, rfl⟩
        · -- the word that has been read is the first one
          obtain ⟨rfl, hrest⟩ := List.cons.inj h
          obtain ⟨w', ws', hmore⟩ := ih hrest
          exact ⟨w', ws', by rw [hmore]; rfl⟩
    · rw [if_neg hc] at h ⊢
      exact ih h

end Text

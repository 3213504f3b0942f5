import Mathlib.Data.Nat.Find
import RtsProxy.Clients.RtspToRtsp.Numerals
import RtsProxy.Protocol.HeaderLines

/-!
# Server ports in both modes

The reply to a `SETUP` names the ports of the server. One mode looks for the parameter and then
for the next dash, the other one for the parameter with a pair of numbers. They look for the
header field in different ways, too.

* `reports_iff_offers`, `relayReads_iff`: what stands where the one and the other mode look;
* `texts_of_same_place`: if that is one place, then both find the same there;
* `readsAlike_iff`: when both read the same, and nothing out of another parameter.
-/

open Text Ecma Regex RtspParser

namespace RtspToRtspClient

variable {resp s t x y first second tail param : Bytes} {a b : Nat} {ctx : RtspCtx} {name : String}

/-! ## The two readers -/

/-- Two texts are read, and these are the ports that are stored of them. -/
def Stores (x y : Bytes) (a b : Nat) : Prop :=
  ∃ i j, stoi x = .ok i ∧ stoi y = .ok j ∧ a = toUint16 i ∧ b = toUint16 j

/-- The texts of the server ports in a reply: up to the next dash, and behind it. -/
def portTexts (resp : Bytes) : Option (Bytes × Bytes) :=
  (find (ascii "Transport:") resp).bind fun pos =>
    pairText (untilCrlf (resp.drop pos)) (ascii "server_port=")

/-- These server ports are reported: a pair is read, and it is one of ports. -/
def Reports (resp : Bytes) (ctx : RtspCtx) (a b : Nat) : Prop :=
  (∃ texts, serverPair resp = some (65535, texts)) ∧
    parseServerPorts resp ctx = (true, { ctx with serverRtpPort := a, serverRtcpPort := b })

/-- The transport of a reply. -/
def transportOf (resp : Bytes) : Bytes := extractHeaderValue resp (ascii "Transport")

/-- The expression of the relay reads the numerals of these server ports. -/
def RelayReads (resp : Bytes) (a b : Nat) : Prop :=
  ∃ m ∈ serverPortRe.search (transportOf resp), a = natOfDigits (m.sub 1) ∧ b = natOfDigits (m.sub 2)

/-- Both modes read the same server ports, and none of them behind the end of their parameter. -/
def ReadsAlike (resp : Bytes) (ctx : RtspCtx) : Prop :=
  (∀ a b, Reports resp ctx a b ↔ RelayReads resp a b) ∧
    ∀ a b, Reports resp ctx a b → ∀ p ∈ portTexts resp, ∀ c ∈ p.1, endsParam c = false

/-- The first `server_port=` on the line of the first `Transport:` stands at this place of the
    reply, and the next dash is between these texts. -/
def SpelledAt (resp : Bytes) (k : Nat) (x y : Bytes) : Prop :=
  ∃ pos i, find (ascii "Transport:") resp = some pos ∧
    find (ascii "server_port=") (untilCrlf (resp.drop pos)) = some i ∧ k = pos + i ∧
    (untilCrlf (resp.drop pos)).drop i = ascii "server_port=" ++ (x ++ (ascii "-" ++ y)) ∧ 45 ∉ x

/-- Integers in the range of `int` are offered there: one behind the parameter, and one behind the
    next dash. -/
def Offers (resp : Bytes) (k : Nat) (x : Bytes) (i j : Int) : Prop :=
  ∃ y, SpelledAt resp k x y ∧ (Opens i x ∧ -(intLimit : Int) ≤ i ∧ i < intLimit) ∧
    (Opens j y ∧ -(intLimit : Int) ≤ j ∧ j < intLimit)

/-- The parameter stands here with a pair of numbers directly behind it. -/
def PairAt (t : Bytes) (j : Nat) (first second : Bytes) : Prop :=
  IsNumber first ∧ IsNumber second ∧ ∃ tail,
    t.drop j = ascii "server_port=" ++ (first ++ (ascii "-" ++ (second ++ tail))) ∧
      ∀ c ∈ tail.head?, isDigit c = false

/-- Where the value of the transport starts. -/
def valueStart (resp : Bytes) : Option Nat :=
  (headerPos resp (ascii "Transport")).map fun pos =>
    pos + 10 + ((resp.drop (pos + 10)).takeWhile fun c => c = 32 || c = 9).length

/-- The first pair in the value of the transport stands at this place of the reply. -/
def FirstPairAt (resp : Bytes) (k : Nat) (first second : Bytes) : Prop :=
  ∃ start j, valueStart resp = some start ∧ k = start + j ∧
    PairAt (transportOf resp) j first second ∧
    ∀ j' < j, ∀ first second, ¬PairAt (transportOf resp) j' first second

/-- The first parameter on the line that is spelled `Transport:` is the first one with a pair in the
    value of the field in any spelling, and its numbers are those of ports. -/
def Straight (resp : Bytes) : Prop :=
  ∃ k first second rest, SpelledAt resp k first (second ++ rest) ∧ FirstPairAt resp k first second ∧
    natOfDigits first ≤ 65535 ∧ natOfDigits second ≤ 65535

/-- The first parameter there is another one than the first with a pair, and offers the same. -/
def Coincides (resp : Bytes) : Prop :=
  ∃ k x i j k' first second, Offers resp k x i j ∧ FirstPairAt resp k' first second ∧ k ≠ k' ∧
    (∀ c ∈ x, endsParam c = false) ∧ toUint16 i = natOfDigits first ∧ toUint16 j = natOfDigits second

/-- The first parameter there offers nothing, and there is no pair in the value. -/
def Silent (resp : Bytes) : Prop :=
  (∀ k x i j, ¬Offers resp k x i j) ∧ ∀ k first second, ¬FirstPairAt resp k first second

/-! ## Numbers -/

theorem Stores.eq {a' b' : Nat} (h : Stores x y a b) (h' : Stores x y a' b') : a = a' ∧ b = b' := by
  obtain ⟨i, j, hi, hj, rfl, rfl⟩ := h
  obtain ⟨i', j', hi', hj', rfl, rfl⟩ := h'
  obtain rfl := Except.ok.inj (hi.symm.trans hi')
  obtain rfl := Except.ok.inj (hj.symm.trans hj')
  exact ⟨rfl, rfl⟩

theorem not_throws_of_stores (h : Stores x y a b) : ¬((stoi x).Throws ∨ (stoi y).Throws) := by
  obtain ⟨i, j, hi, hj, -, -⟩ := h
  rw [hi, hj]
  exact not_or.2 ⟨Except.not_throws_ok i, Except.not_throws_ok j⟩

/-- Texts are read exactly if they open with integers in the range of `int`. -/
theorem stores_iff : Stores x y a b ↔ ∃ i j, (Opens i x ∧ -(intLimit : Int) ≤ i ∧ i < intLimit) ∧
    (Opens j y ∧ -(intLimit : Int) ≤ j ∧ j < intLimit) ∧ a = toUint16 i ∧ b = toUint16 j := by
  simp only [Stores, stoi_eq_ok_iff]

/-- A text opens with the number in front of it, which is stored as it is if it is a port. -/
theorem opens_number (h : IsNumber x) (htail : ∀ c ∈ tail.head?, isDigit c = false) :
    Opens (natOfDigits x) (x ++ tail) :=
  ⟨[], [], x, tail, rfl, nofun, h.1, h.2, htail, .inl ⟨.inl rfl, rfl⟩⟩

/-- The ports that are reported. -/
theorem reports_iff : Reports resp ctx a b ↔ ∃ p ∈ portTexts resp, Stores p.1 p.2 a b := by
  have hpair : ∀ texts, serverPair resp = some (65535, texts) ↔ portTexts resp = some texts := by
    intro texts
    rw [serverPair, portTexts]
    rcases find (ascii "Transport:") resp with _ | pos
    · simp only [Option.bind_none, reduceCtorEq]
    dsimp only [Option.bind_some]
    rcases pairText (untilCrlf (resp.drop pos)) (ascii "server_port=") with _ | p
    · -- What is read in place of ports is channels.
      rcases pairText (untilCrlf (resp.drop pos)) (ascii "interleaved=") with _ | p
      · simp
      · simp
    · rw [Option.map_some, Option.some_or, Option.some_inj, Option.some_inj, Prod.mk.injEq,
        and_iff_right rfl]
  rw [Reports]
  simp only [hpair]
  rcases htexts : portTexts resp with _ | ⟨x, y⟩
  · simp
  rw [and_iff_right ⟨_, rfl⟩, parseServerPorts_eq, (hpair _).2 htexts]
  simp only [Option.map_some, Option.getD_some, Option.mem_some, exists_eq_left']
  rcases hx : stoi x with e | n
  · refine iff_of_false (fun h => ?_) fun h => not_throws_of_stores h (.inl ⟨e, hx⟩)
    exact absurd (Prod.mk.inj h).1 Bool.false_ne_true
  rcases hy : stoi y with e | m
  · refine iff_of_false (fun h => ?_) fun h => not_throws_of_stores h (.inr ⟨e, hy⟩)
    exact absurd (Prod.mk.inj h).1 Bool.false_ne_true
  constructor
  · intro h
    have hctx := (Prod.mk.inj h).2
    exact ⟨n, m, hx, hy, (congrArg RtspCtx.serverRtpPort hctx).symm,
      (congrArg RtspCtx.serverRtcpPort hctx).symm⟩
  · intro h
    obtain ⟨rfl, rfl⟩ := h.eq ⟨n, m, hx, hy, rfl, rfl⟩
    rfl

/-! ## A pair behind the parameter -/

theorem readPair_append (hfirst : IsNumber first) (hsecond : IsNumber second)
    (htail : ∀ c ∈ tail.head?, isDigit c = false) :
    readPair name (ascii name ++ (first ++ (ascii "-" ++ (second ++ tail)))) =
      some (ascii name ++ (first ++ (ascii "-" ++ second))).length := by
  have htext : ∀ pat rest : Bytes, readText pat (pat ++ rest) = some pat.length :=
    fun pat rest => if_pos (List.isPrefixOf_iff_prefix.2 (List.prefix_append pat rest))
  have hdash : ∀ b ∈ (ascii "-" ++ (second ++ tail)).head?, isDigit b = false := by
    rintro b ⟨⟩
    rfl
  rw [readPair, readAll, htext, Option.bind_some, List.drop_left, readAll,
    readRun_of_number hfirst hdash, Option.bind_some, List.drop_left, readAll, htext,
    Option.bind_some, List.drop_left, readAll, readRun_of_number hsecond htail]
  simp only [readAll, Option.bind_some, Option.map_some, List.length_append]
  rfl

/-- A text in which a pair is read. -/
theorem exists_pair {n : Nat} (h : readPair name s = some n) :
    ∃ first second tail, s = ascii name ++ (first ++ (ascii "-" ++ (second ++ tail))) ∧
      IsNumber first ∧ IsNumber second ∧ ∀ c ∈ tail.head?, isDigit c = false := by
  obtain ⟨first, digits, htake, hfirst, hdigits⟩ := isPair_of_readPair h
  have hsplit := @List.takeWhile_append_dropWhile _ isDigit (digits ++ s.drop n)
  have hnumber : IsNumber ((digits ++ s.drop n).takeWhile isDigit) := by
    refine ⟨?_, fun c hc => List.mem_takeWhile_imp hc⟩
    rw [List.takeWhile_append_of_pos hdigits.2]
    exact List.append_ne_nil_of_left_ne_nil hdigits.1 _
  refine ⟨first, _, (digits ++ s.drop n).dropWhile isDigit, ?_, hfirst, hnumber, ?_⟩
  · rw [hsplit]
    nth_rewrite 1 [← List.take_append_drop n s]
    rw [htake, List.append_assoc, List.append_assoc, List.append_assoc]
  · intro c hc
    have hhead := List.head?_dropWhile_not isDigit (digits ++ s.drop n)
    rw [Option.mem_def.1 hc] at hhead
    exact hhead

theorem not_dash (h : IsNumber x) : (45 : UInt8) ∉ x := fun hin =>
  absurd (h.2 45 hin) (by decide)

/-- A text is split at its first dash in one way. -/
theorem dash_inj (hfirst : (45 : UInt8) ∉ first) (hx : (45 : UInt8) ∉ x)
    (h : first ++ (ascii "-" ++ second) = x ++ (ascii "-" ++ y)) : first = x ∧ second = y := by
  have hleft : find (ascii "-") (first ++ (ascii "-" ++ second)) = some first.length :=
    find_byte hfirst
  have hright : find (ascii "-") (x ++ (ascii "-" ++ y)) = some x.length := find_byte hx
  rw [h, hright] at hleft
  obtain ⟨hfirst, hrest⟩ := List.append_inj h (Option.some.inj hleft).symm
  exact ⟨hfirst, List.append_cancel_left hrest⟩

theorem exists_pairAt_iff {j : Nat} :
    (∃ first second, PairAt t j first second) ↔ (readPair "server_port=" (t.drop j)).isSome = true := by
  constructor
  · rintro ⟨first, second, hfirst, hsecond, tail, hdrop, htail⟩
    rw [hdrop, readPair_append hfirst hsecond htail]
    rfl
  · intro h
    obtain ⟨n, hread⟩ := Option.isSome_iff_exists.1 h
    obtain ⟨first, second, tail, hdrop, hfirst, hsecond, htail⟩ := exists_pair hread
    exact ⟨first, second, hfirst, hsecond, tail, hdrop, htail⟩

/-- Where a pair first stands, the relay reads it. -/
theorem search_of_pair {j : Nat} (h : PairAt t j first second)
    (hbefore : ∀ j' < j, ∀ first second, ¬PairAt t j' first second) :
    ∃ m, serverPortRe.search t = some m ∧ m.sub 1 = first ∧ m.sub 2 = second := by
  obtain ⟨hfirst, hsecond, tail, hdrop, htail⟩ := h
  have hscans : Scans serverPortRe (readPair "server_port=") := scans_pairGroupsRe (by decide)
  have hhere := @readPair_append _ _ _ "server_port=" hfirst hsecond htail
  rw [← hdrop] at hhere
  have hlt : j < t.length := by
    by_contra hge
    rw [List.drop_eq_nil_of_le (Nat.not_lt.1 hge), hscans.nil] at hhere
    cases hhere
  have hlen : (t.take j).length = j := List.length_take_of_le hlt.le
  -- the expression starts nowhere before, so that it is found here
  have hnone : ∀ i < (t.take j).length, readPair "server_port=" ((t.take j ++ t.drop j).drop i) = none := by
    intro i hi
    rw [List.take_append_drop]
    refine Option.not_isSome_iff_eq_none.1 fun hsome => ?_
    obtain ⟨first, second, hpair⟩ := exists_pairAt_iff.2 hsome
    exact hbefore i (hlen ▸ hi) first second hpair
  obtain ⟨caps, c, hsearch⟩ := hscans.searchFrom_append hhere hnone 0 none
  rw [List.take_append_drop] at hsearch
  have hfound : serverPortRe.search t = some ⟨0 + (t.take j).length, (t.drop j).take _, caps⟩ :=
    congrArg (Option.map Prod.fst) hsearch
  have hsplit : t.drop j = (ascii "server_port=" ++ (first ++ (ascii "-" ++ second))) ++ tail := by
    rw [hdrop]
    simp only [List.append_assoc]
  have hpair : (t.drop j).take (ascii "server_port=" ++ (first ++ (ascii "-" ++ second))).length =
      ascii "server_port=" ++ (first ++ (ascii "-" ++ second)) := by
    rw [hsplit, List.take_left]
  -- the text of the match has one dash between digits, so that its groups are the two numbers
  obtain ⟨htext, hsub, -⟩ := search_pair_text hfound
  obtain ⟨h₁, h₂⟩ := dash_inj (not_dash hfirst) (not_dash hsub) (List.append_cancel_left (hpair.symm.trans htext))
  exact ⟨_, hfound, h₁.symm, h₂.symm⟩

/-- What the relay reads is the first pair. -/
theorem pairAt_of_search {m : Match} (h : serverPortRe.search t = some m) :
    ∃ j, PairAt t j (m.sub 1) (m.sub 2) ∧ ∀ j' < j, ∀ first second, ¬PairAt t j' first second := by
  have hscans : Scans serverPortRe (readPair "server_port=") := scans_pairGroupsRe (by decide)
  have hsome : ∃ j, (readPair "server_port=" (t.drop j)).isSome = true := by
    by_contra hno
    have hnone : serverPortRe.search t = none := by
      refine hscans.search_eq_none_iff.2 fun q hq => Option.not_isSome_iff_eq_none.1 fun hq' => ?_
      rw [List.suffix_iff_eq_drop.1 hq] at hq'
      exact hno ⟨_, hq'⟩
    rw [hnone] at h
    cases h
  obtain ⟨first, second, hpair⟩ := exists_pairAt_iff.2 (Nat.find_spec hsome)
  have hbefore : ∀ j' < Nat.find hsome, ∀ first second, ¬PairAt t j' first second :=
    fun j' hj' first second hin => Nat.find_min hsome hj' (exists_pairAt_iff.1 ⟨first, second, hin⟩)
  obtain ⟨m', hm', rfl, rfl⟩ := search_of_pair hpair hbefore
  obtain rfl := Option.some.inj (h.symm.trans hm')
  exact ⟨_, hpair, hbefore⟩

theorem relayReads_iff : RelayReads resp a b ↔ ∃ k first second, FirstPairAt resp k first second ∧
    a = natOfDigits first ∧ b = natOfDigits second := by
  constructor
  · rintro ⟨m, hm, ha, hb⟩
    obtain ⟨j, hpair, hbefore⟩ := pairAt_of_search hm
    rcases hfound : headerPos resp (ascii "Transport") with _ | pos
    · -- Without the field its value is empty, and no pair is in it.
      have hempty : transportOf resp = [] := by
        rw [transportOf, extractHeaderValue, hfound]
      obtain ⟨-, -, tail, hdrop, -⟩ := hpair
      rw [hempty, List.drop_nil] at hdrop
      exact absurd hdrop.symm (List.append_ne_nil_of_left_ne_nil (by decide) _)
    · exact ⟨_, _, _, ⟨_, j, congrArg (Option.map _) hfound, rfl, hpair, hbefore⟩, ha, hb⟩
  · rintro ⟨k, first, second, ⟨start, j, -, -, hpair, hbefore⟩, ha, hb⟩
    obtain ⟨m, hm, rfl, rfl⟩ := search_of_pair hpair hbefore
    exact ⟨m, hm, ha, hb⟩

/-! ## What stands behind the parameter -/

/-- The texts of a pair are those in front of the next dash and behind it. -/
theorem pairText_eq_some_iff :
    pairText t param = some (x, y) ↔ ∃ i, find param t = some i ∧
      t.drop i = param ++ (x ++ (ascii "-" ++ y)) ∧ 45 ∉ x := by
  have hbehind : ∀ {i : Nat}, find param t = some i →
      ∃ r, t.drop i = param ++ r ∧ t.drop (i + param.length) = r ∧ i + param.length ≤ t.length := by
    intro i hi
    obtain ⟨-, ⟨r, hr⟩, -⟩ := find_eq_some_iff.1 hi
    refine ⟨r, hr.symm, ?_, find_add_length_le hi⟩
    rw [← List.drop_drop, ← hr, List.drop_left]
  rcases hfind : find param t with _ | i
  · simp only [pairText, hfind, bind, Option.bind, reduceCtorEq, false_and, exists_false]
  obtain ⟨r, hr, hrest, hle⟩ := hbehind hfind
  simp only [Option.some.injEq, exists_eq_left', hr, List.append_cancel_left_eq]
  have htext : pairText t param = (find (ascii "-") r).map fun dash => (r.take dash, r.drop (dash + 1)) := by
    simp only [pairText, hfind, bind, Option.bind, pure, findFrom, if_pos hle, hrest]
    rcases find (ascii "-") r with _ | dash
    · rfl
    · rw [Option.map_some]
      dsimp only
      rw [Nat.add_sub_cancel, Nat.add_right_comm, Nat.add_comm (dash + 1), ← List.drop_drop, hrest,
        Option.map_some]
  rw [htext, Option.map_eq_some_iff]
  constructor
  · rintro ⟨dash, hdash, hpair⟩
    obtain ⟨rfl, rfl⟩ := Prod.mk.inj hpair
    obtain ⟨hsplit, hfree⟩ := split_of_find hdash
    exact ⟨hsplit, hfree⟩
  · rintro ⟨rfl, hfree⟩
    refine ⟨x.length, find_byte hfree, ?_⟩
    rw [List.take_left, List.drop_length_add_append]
    rfl

theorem portTexts_eq_some_iff : portTexts resp = some (x, y) ↔ ∃ k, SpelledAt resp k x y := by
  rw [portTexts, Option.bind_eq_some_iff]
  simp only [pairText_eq_some_iff]
  constructor
  · rintro ⟨pos, hpos, i, hi, hdrop, hfree⟩
    exact ⟨_, pos, i, hpos, hi, rfl, hdrop, hfree⟩
  · rintro ⟨k, pos, i, hpos, hi, -, hdrop, hfree⟩
    exact ⟨pos, hpos, i, hi, hdrop, hfree⟩

/-- What is reported are the integers that are offered. -/
theorem reports_iff_offers : Reports resp ctx a b ↔
    ∃ k x i j, Offers resp k x i j ∧ a = toUint16 i ∧ b = toUint16 j := by
  rw [reports_iff]
  constructor
  · rintro ⟨⟨x, y⟩, htexts, hstores⟩
    obtain ⟨k, hspelled⟩ := portTexts_eq_some_iff.1 htexts
    obtain ⟨i, j, hi, hj, hports⟩ := stores_iff.1 hstores
    exact ⟨k, x, i, j, ⟨y, hspelled, hi, hj⟩, hports⟩
  · rintro ⟨k, x, i, j, ⟨y, hspelled, hi, hj⟩, hports⟩
    exact ⟨(x, y), portTexts_eq_some_iff.2 ⟨k, hspelled⟩, stores_iff.2 ⟨i, j, hi, hj, hports⟩⟩

/-! ## The two places -/

/-- A line from one of its places on. -/
theorem untilCrlf_drop {k : Nat} (hk : k ≤ (untilCrlf s).length) :
    (untilCrlf s).drop k = untilCrlf (s.drop k) := by
  have hle : k ≤ s.length := hk.trans (List.length_take_le' _ _)
  have hbefore : ∀ j < k, ¬crlf <+: s.drop j := by
    intro j hj hpre
    rcases hfind : find crlf s with _ | n
    · exact find_eq_none_iff.1 hfind (hpre.isInfix.trans (List.drop_suffix j s).isInfix)
    · rw [untilCrlf, hfind, Option.getD_some] at hk
      exact (find_eq_some_iff.1 hfind).2.2 j (hj.trans_le (hk.trans (List.length_take_le _ _))) hpre
  rw [untilCrlf, untilCrlf, List.drop_take, List.length_drop, find_drop hle hbefore]
  rcases find crlf (s.drop k) with _ | n
  · rfl
  · rw [Option.map_some, Option.getD_some, Option.getD_some, Nat.add_sub_cancel]

theorem transportOf_eq {start : Nat} (h : valueStart resp = some start) :
    transportOf resp = untilCrlf (resp.drop start) := by
  obtain ⟨pos, hpos, rfl⟩ := Option.map_eq_some_iff.1 h
  have hskip : ∀ t : Bytes, skipBlanks t = t.drop (t.takeWhile fun c => c = 32 || c = 9).length := by
    intro t
    have hblanks := @List.drop_left _ (t.takeWhile fun c => c = 32 || c = 9)
      (t.dropWhile fun c => c = 32 || c = 9)
    rw [List.takeWhile_append_dropWhile] at hblanks
    rw [skipBlanks, hblanks]
  rw [transportOf, extractHeaderValue, hpos]
  dsimp only
  rw [hskip, List.drop_drop]
  rfl

/-- At one place both modes find the same texts. -/
theorem texts_of_same_place {k : Nat} (hx : SpelledAt resp k x y)
    (hpair : FirstPairAt resp k first second) :
    x = first ∧ ∃ rest, y = second ++ rest ∧ ∀ c ∈ rest.head?, isDigit c = false := by
  obtain ⟨pos, i, -, hi, rfl, hdrop, hfree⟩ := hx
  obtain ⟨start, j, hstart, hplace, ⟨hfirst, -, tail, hvalue, htail⟩, -⟩ := hpair
  rw [transportOf_eq hstart] at hvalue
  have hj : j ≤ (untilCrlf (resp.drop start)).length := by
    by_contra hlt
    rw [List.drop_eq_nil_of_le (Nat.not_le.1 hlt).le] at hvalue
    exact List.append_ne_nil_of_left_ne_nil (by decide) _ hvalue.symm
  rw [untilCrlf_drop (find_eq_some_iff.1 hi).1, List.drop_drop, hplace] at hdrop
  rw [untilCrlf_drop hj, List.drop_drop, hdrop] at hvalue
  obtain ⟨hsame, hrest⟩ := dash_inj hfree (not_dash hfirst) (List.append_cancel_left hvalue)
  exact ⟨hsame, tail, hrest, htail⟩

/-! ## When both modes agree -/

theorem Reports.eq {a' b' : Nat} (h : Reports resp ctx a b) (h' : Reports resp ctx a' b') :
    a = a' ∧ b = b' := by
  obtain ⟨p, hp, hstores⟩ := reports_iff.1 h
  obtain ⟨p', hp', hstores'⟩ := reports_iff.1 h'
  obtain rfl := Option.some.inj (hp.symm.trans hp')
  exact hstores.eq hstores'

theorem RelayReads.eq {a' b' : Nat} (h : RelayReads resp a b) (h' : RelayReads resp a' b') :
    a = a' ∧ b = b' := by
  obtain ⟨m, hm, rfl, rfl⟩ := h
  obtain ⟨m', hm', rfl, rfl⟩ := h'
  obtain rfl := Option.some.inj (hm.symm.trans hm')
  exact ⟨rfl, rfl⟩

/-- A port is offered by the text of its number, which has no end of a parameter in it. -/
theorem Straight.offers (h : Straight resp) : ∃ k x i j first second, Offers resp k x i j ∧
    FirstPairAt resp k first second ∧ (∀ c ∈ x, endsParam c = false) ∧
      toUint16 i = natOfDigits first ∧ toUint16 j = natOfDigits second := by
  obtain ⟨k, first, second, rest, hspelled, hpair, hfirst, hsecond⟩ := h
  obtain ⟨start, j, -, -, ⟨hnumber, hnumber', -⟩, -⟩ := id hpair
  obtain ⟨-, tail, hrest, htail⟩ := texts_of_same_place hspelled hpair
  have hrange : ∀ n : Nat, n ≤ 65535 → -(intLimit : Int) ≤ n ∧ (n : Int) < intLimit := by
    intro n hn
    have : (intLimit : Int) = 2147483648 := rfl
    omega
  have hopens : Opens (natOfDigits second) (second ++ rest) := hrest ▸ opens_number hnumber' htail
  refine ⟨k, first, _, _, first, second, ⟨_, hspelled, ⟨?_, hrange _ hfirst⟩, hopens, hrange _ hsecond⟩,
    hpair, fun c hc => ?_, toUint16_of_le _ hfirst, toUint16_of_le _ hsecond⟩
  · have hopens := @opens_number _ [] hnumber nofun
    rwa [List.append_nil] at hopens
  · have hdigit := hnumber.2 c hc
    by_contra hends
    have hcases : c = 59 ∨ c = 44 := or_iff_not_imp_left.2 (by simpa [endsParam] using hends)
    rcases hcases with rfl | rfl
    all_goals exact absurd hdigit (by decide)

/-- Both modes read the same server ports exactly if the parameter that the one finds is the pair
    that the other one matches, or another one with the same ports, or neither finds any. -/
theorem readsAlike_iff (resp : Bytes) (ctx : RtspCtx) :
    ReadsAlike resp ctx ↔ Straight resp ∨ Coincides resp ∨ Silent resp := by
  constructor
  · rintro ⟨hsame, hinside⟩
    by_cases hoffers : ∃ k x i j, Offers resp k x i j
    · obtain ⟨k, x, i, j, hoffer⟩ := hoffers
      have hreports : Reports resp ctx (toUint16 i) (toUint16 j) :=
        reports_iff_offers.2 ⟨k, x, i, j, hoffer, rfl, rfl⟩
      obtain ⟨k', first, second, hpair, hi, hj⟩ := relayReads_iff.1 ((hsame _ _).1 hreports)
      obtain ⟨y, hspelled, -⟩ := id hoffer
      by_cases hplace : k = k'
      · -- at one place the two read one text
        subst hplace
        obtain ⟨rfl, rest, rfl, -⟩ := texts_of_same_place hspelled hpair
        have hport : ∀ n : Int, toUint16 n ≤ 65535 := fun n => by
          rw [toUint16]
          omega
        exact .inl ⟨k, x, second, rest, hspelled, hpair, hi ▸ hport i, hj ▸ hport j⟩
      · -- at two places it is by chance that the numbers agree
        have hends := hinside _ _ hreports (x, y) (portTexts_eq_some_iff.2 ⟨k, hspelled⟩)
        exact .inr (.inl ⟨k, x, i, j, k', first, second, hoffer, hpair, hplace, hends, hi, hj⟩)
    · refine .inr (.inr ⟨fun k x i j hoffer => hoffers ⟨k, x, i, j, hoffer⟩, fun k f s hpair => ?_⟩)
      obtain ⟨k, x, i, j, hoffer, -⟩ :=
        reports_iff_offers.1 ((hsame _ _).2 (relayReads_iff.2 ⟨k, f, s, hpair, rfl, rfl⟩))
      exact hoffers ⟨k, x, i, j, hoffer⟩
  · -- wherever the two read, they agree if the numbers do
    have hmeet : (∃ k x i j k' first second, Offers resp k x i j ∧ FirstPairAt resp k' first second ∧
        (∀ c ∈ x, endsParam c = false) ∧ toUint16 i = natOfDigits first ∧
          toUint16 j = natOfDigits second) → ReadsAlike resp ctx := by
      rintro ⟨k, x, i, j, k', first, second, hoffer, hpair, hends, hi, hj⟩
      have hreports : Reports resp ctx (natOfDigits first) (natOfDigits second) :=
        reports_iff_offers.2 ⟨k, x, i, j, hoffer, hi.symm, hj.symm⟩
      have hrelay : RelayReads resp (natOfDigits first) (natOfDigits second) :=
        relayReads_iff.2 ⟨k', first, second, hpair, rfl, rfl⟩
      refine ⟨fun a b => ⟨fun h => ?_, fun h => ?_⟩, fun a b _ p hp => ?_⟩
      · obtain ⟨rfl, rfl⟩ := hreports.eq h
        exact hrelay
      · obtain ⟨rfl, rfl⟩ := hrelay.eq h
        exact hreports
      · obtain ⟨y, hspelled, -⟩ := hoffer
        obtain rfl := Option.some.inj (hp.symm.trans (portTexts_eq_some_iff.2 ⟨k, hspelled⟩))
        exact hends
    rintro (hstraight | hcoincides | ⟨hoffers, hpairs⟩)
    · obtain ⟨k, x, i, j, first, second, hoffer, hpair, hsame⟩ := hstraight.offers
      exact hmeet ⟨k, x, i, j, k, first, second, hoffer, hpair, hsame⟩
    · obtain ⟨k, x, i, j, k', first, second, hoffer, hpair, -, hsame⟩ := hcoincides
      exact hmeet ⟨k, x, i, j, k', first, second, hoffer, hpair, hsame⟩
    · have hreports : ∀ a b, ¬Reports resp ctx a b := by
        intro a b h
        obtain ⟨k, x, i, j, hoffer, -⟩ := reports_iff_offers.1 h
        exact hoffers k x i j hoffer
      refine ⟨fun a b => iff_of_false (hreports a b) fun h => ?_, fun a b h => absurd h (hreports a b)⟩
      obtain ⟨k, first, second, hpair, -⟩ := relayReads_iff.1 h
      exact hpairs k first second hpair

/-- The number of another parameter is taken for the second port, and a field that is spelled in
    lower case is not found. -/
theorem not_readsAlike :
    ¬ReadsAlike (ascii "RTSP/1.0 200 OK\r\n" ++
      ascii "Transport: RTP/AVP;server_port=5000;ttl=1-2\r\n\r\n") {} ∧
    ¬ReadsAlike (ascii "RTSP/1.0 200 OK\r\n" ++
      ascii "transport: RTP/AVP;server_port=5000-5001\r\n\r\n") {} := by
  constructor
  · rintro ⟨-, hinside⟩
    have hreports : Reports (ascii "RTSP/1.0 200 OK\r\n" ++
        ascii "Transport: RTP/AVP;server_port=5000;ttl=1-2\r\n\r\n") {} 5000 2 :=
      reports_iff.2 ⟨(ascii "5000;ttl=1", ascii "2"), by decide +kernel, 5000, 2,
        by decide +kernel, by decide +kernel, rfl, rfl⟩
    exact absurd (hinside _ _ hreports (ascii "5000;ttl=1", ascii "2") (by decide +kernel))
      (by decide +kernel)
  · rintro ⟨hsame, -⟩
    have htexts : portTexts (ascii "RTSP/1.0 200 OK\r\n" ++
        ascii "transport: RTP/AVP;server_port=5000-5001\r\n\r\n") = none := by decide +kernel
    have hrelay : RelayReads (ascii "RTSP/1.0 200 OK\r\n" ++
        ascii "transport: RTP/AVP;server_port=5000-5001\r\n\r\n") 5000 5001 := by
      refine ⟨⟨8, ascii "server_port=5000-5001",
        [⟨2, 25, ascii "5001"⟩, ⟨1, 20, ascii "5000"⟩]⟩, by decide +kernel, ?_⟩
      exact ⟨by decide +kernel, by decide +kernel⟩
    obtain ⟨p, hp, -⟩ := reports_iff.1 ((hsame _ _).2 hrelay)
    rw [htexts] at hp
    cases hp

end RtspToRtspClient

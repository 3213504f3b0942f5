import RtsProxy.Regex.Sound
import RtsProxy.Text.Replacing
import RtsProxy.Utils.UrlRewriter

/-!
# Timeshift templates

A timeshift template moves the times in the first two groups of its match. The code knows where the
groups are, but looks for their texts in the text of the match.

* `shiftGroups_eq`: what becomes of the match;
* `applyTemplate_timeshift`: when the two groups are changed in the URL, and nothing else.
-/

open Text Ecma

namespace UrlRewriter

/-- A part of a text, and what is to stand in its place. -/
structure Edit where
  pos : Nat
  old : Bytes
  new : Bytes
  deriving DecidableEq, Repr

namespace Edit

/-- Where the part ends. -/
def stop (e : Edit) : Nat := e.pos + e.old.length

/-- The text with the part replaced. -/
def apply (e : Edit) (s : Bytes) : Bytes := replaceAt s e.pos e.old.length e.new

/-- The text with two parts replaced that do not overlap: the one behind goes first, so that the
    other one is still in its place. -/
def applyBoth (e₁ e₂ : Edit) (s : Bytes) : Bytes :=
  if e₁.pos ≤ e₂.pos then e₁.apply (e₂.apply s) else e₂.apply (e₁.apply s)

/-- Two parts stand in a match one behind the other. -/
def InOrder (m : Regex.Match) (e₁ e₂ : Edit) : Prop :=
  m.pos ≤ e₁.pos ∧ e₁.stop ≤ e₂.pos ∧ e₂.stop ≤ m.stop

instance (m : Regex.Match) (e₁ e₂ : Edit) : Decidable (InOrder m e₁ e₂) :=
  inferInstanceAs (Decidable (_ ∧ _))

end Edit

/-- What is captured by a group, if it took part in the match. -/
def capture (m : Regex.Match) (i : Nat) : Option Regex.Capture := m.caps.find? fun p => p.group = i

/-- The move in time of a group, if it captured a time. -/
def edit (cal : Calendar) (hours : Int) (m : Regex.Match) (i : Nat) : Option Edit :=
  (capture m i).bind fun p => (shiftTime cal p.text hours).toOption.map (⟨p.pos, p.text, ·⟩)

variable {cal : Calendar} {hours : Int} {m : Regex.Match} {url pattern : Bytes} {rgx : Regex}
  {e e₁ e₂ : Edit} {i : Nat}

theorem edit_eq_some (h : edit cal hours m (i + 1) = some e) :
    m.sub (i + 1) = e.old ∧ shiftTime cal e.old hours = .ok e.new ∧
      ⟨i + 1, e.pos, e.old⟩ ∈ m.caps := by
  obtain ⟨p, hp, h⟩ := Option.bind_eq_some_iff.1 h
  obtain ⟨new, hnew, rfl⟩ := Option.map_eq_some_iff.1 h
  rw [capture] at hp
  have hgroup : p.group = i + 1 := of_decide_eq_true (List.find?_some hp :)
  refine ⟨?_, ?_, ?_⟩
  · rw [Regex.Match.sub, if_neg i.succ_ne_zero, hp]
  · rcases hshift : shiftTime cal p.text hours with _ | n
    · rw [hshift] at hnew
      cases hnew
    · rw [hshift] at hnew
      rw [Option.some.inj hnew]
  · rw [← hgroup]
    exact List.mem_of_find?_eq_some hp

/-- What becomes of the text of a match whose first group is found at `i`. -/
theorem shiftGroups_eq (h₁ : edit cal hours m 1 = some e₁) (h₂ : edit cal hours m 2 = some e₂)
    (hfind : find e₁.old m.text = some i) (hsize : m.text.length + e₁.new.length < wordSize) :
    shiftGroups cal hours m = .ok (m.text.take i ++
      (e₁.new ++ replaceFirst e₂.old e₂.new (m.text.drop (i + e₁.old.length)))) := by
  obtain ⟨hold₁, hnew₁, -⟩ := edit_eq_some h₁
  obtain ⟨hold₂, hnew₂, -⟩ := edit_eq_some h₂
  have hend := find_add_length_le hfind
  have hbehind : (i + e₁.new.length) % wordSize = (m.text.take i ++ e₁.new).length := by
    rw [Nat.mod_eq_of_lt (by omega), List.length_append, List.length_take]
    omega
  simp only [shiftGroups, hold₁, hold₂, hnew₁, hnew₂, hfind, Option.getD_some, hbehind, replaceAt,
    bind, Except.bind, pure, Except.pure, Except.ok.injEq]
  rw [← List.append_assoc, ← replaceFirst_behind]
  rfl

/-! ## Places -/

theorem exists_split {s t : Bytes} {q : Nat} (h : t <+: s.drop q) (hq : q ≤ s.length) :
    ∃ a b, s = a ++ (t ++ b) ∧ a.length = q := by
  obtain ⟨b, hb⟩ := h
  exact ⟨s.take q, b, by rw [hb, List.take_append_drop], List.length_take_of_le hq⟩

theorem old_ne_nil (h : shiftTime cal e.old hours = .ok e.new) : e.old ≠ [] := by
  intro hnil
  rw [hnil] at h
  cases h

/-- Two groups in order split the URL, and the text of the match. -/
theorem exists_parts (hsearch : rgx.search url = some m) (h₁ : edit cal hours m 1 = some e₁)
    (h₂ : edit cal hours m 2 = some e₂) (hin : Edit.InOrder m e₁ e₂) :
    ∃ front a b c back, m.text = a ++ (e₁.old ++ (b ++ (e₂.old ++ c))) ∧
      url = front ++ (m.text ++ back) ∧ front.length = m.pos ∧
      m.pos + a.length = e₁.pos ∧ m.pos + (a ++ (e₁.old ++ b)).length = e₂.pos := by
  obtain ⟨hpos, horder, hstop⟩ := hin
  obtain ⟨htext, hcaps⟩ := Regex.search_spans hsearch
  obtain ⟨-, hnew₁, hmem₁⟩ := edit_eq_some h₁
  obtain ⟨-, -, hmem₂⟩ := edit_eq_some h₂
  have hold₁ : e₁.old <+: url.drop e₁.pos := hcaps _ hmem₁
  have hold₂ : e₂.old <+: url.drop e₂.pos := hcaps _ hmem₂
  have hlen₁ : 0 < e₁.old.length := List.length_pos_iff.2 (old_ne_nil hnew₁)
  have hin₁ := hold₁.length_le
  rw [List.length_drop] at hin₁
  obtain ⟨front, back, hurl, hfront⟩ := exists_split htext (by omega)
  -- What stands in the URL and ends in the match stands in the match.
  have hwithin : ∀ t q, m.pos ≤ q → q + t.length ≤ m.stop → t <+: url.drop q →
      t <+: m.text.drop (q - m.pos) := by
    intro t q hle hend h
    rw [Regex.Match.stop] at hend
    rw [hurl, show q = front.length + (q - m.pos) by omega, List.drop_length_add_append,
      List.drop_append_of_le_length (by omega)] at h
    refine List.prefix_of_prefix_length_le h (List.prefix_append _ back) ?_
    rw [List.length_drop]
    omega
  simp only [Edit.stop, Regex.Match.stop] at horder hstop
  obtain ⟨a, rest, hsplit, ha⟩ :=
    exists_split (hwithin e₁.old e₁.pos hpos (by rw [Regex.Match.stop]; omega) hold₁) (by omega)
  have hrest := hwithin e₂.old e₂.pos (by omega) (by rw [Regex.Match.stop]; omega) hold₂
  have hlen := congrArg List.length hsplit
  rw [List.length_append, List.length_append] at hlen
  rw [hsplit, ← List.append_assoc,
    show e₂.pos - m.pos = (a ++ e₁.old).length + (e₂.pos - e₁.pos - e₁.old.length) by
      rw [List.length_append]; omega, List.drop_length_add_append] at hrest
  obtain ⟨b, c, rfl, hb⟩ := exists_split hrest (by omega)
  refine ⟨front, a, b, c, back, hsplit, hurl, hfront, by omega, ?_⟩
  rw [List.length_append, List.length_append]
  omega

theorem applyBoth_parts {front a b c back : Bytes} (h₁ : front.length + a.length = e₁.pos)
    (h₂ : front.length + (a ++ (e₁.old ++ b)).length = e₂.pos) :
    e₁.applyBoth e₂ (front ++ (a ++ (e₁.old ++ (b ++ (e₂.old ++ c))) ++ back)) =
      front ++ (a ++ (e₁.new ++ (b ++ (e₂.new ++ c))) ++ back) := by
  have hle : e₁.pos ≤ e₂.pos := by
    rw [List.length_append] at h₂
    omega
  have hsecond : front ++ (a ++ (e₁.old ++ (b ++ (e₂.old ++ c))) ++ back) =
      (front ++ (a ++ (e₁.old ++ b))) ++ (e₂.old ++ (c ++ back)) := by
    simp only [List.append_assoc]
  have hfirst : front ++ (a ++ (e₁.old ++ b)) ++ (e₂.new ++ (c ++ back)) =
      (front ++ a) ++ (e₁.old ++ (b ++ (e₂.new ++ (c ++ back)))) := by
    simp only [List.append_assoc]
  rw [← List.length_append] at h₁ h₂
  rw [Edit.applyBoth, if_pos hle, Edit.apply, Edit.apply, hsecond, ← h₂, replaceAt_append, hfirst,
    ← h₁, replaceAt_append]
  simp only [List.append_assoc]

/-! ## What is changed -/

/-- In the URL the first two groups of the match are moved in time, and nothing else is changed. -/
def Moves (cal : Calendar) (pattern : Bytes) (hours : Int) (url : Bytes) (m : Regex.Match) : Prop :=
  ∃ e₁ e₂, edit cal hours m 1 = some e₁ ∧ edit cal hours m 2 = some e₂ ∧
    applyTemplate cal ⟨pattern, .timeshift hours⟩ url = .ok (e₁.applyBoth e₂ url)

/-- Two groups are found where they are: the first text that reads like the first one is that
    group, and the first text behind it that reads like the second one is that group. A group
    that does not change need not be found. -/
structure Edit.Found (m : Regex.Match) (e₁ e₂ : Edit) : Prop where
  inOrder : Edit.InOrder m e₁ e₂
  first : e₁.new = e₁.old ∨ find e₁.old m.text = some (e₁.pos - m.pos)
  second : e₂.new = e₂.old ∨ ∃ i, find e₁.old m.text = some i ∧
    findFrom e₂.old m.text (i + e₁.old.length) = some (e₂.pos - m.pos)

/-- The two groups of a match stand in it in order, and no new time is one that takes up the
    captured text. -/
def Regular (cal : Calendar) (hours : Int) (m : Regex.Match) : Prop :=
  ∀ e₁ ∈ edit cal hours m 1, ∀ e₂ ∈ edit cal hours m 2,
    Edit.InOrder m e₁ e₂ ∧ Fresh e₁.old e₁.new ∧ Fresh e₂.old e₂.new

/-- What becomes of a URL whose match has its first group found at `i`. -/
theorem applyTemplate_found {front back : Bytes}
    (hcompile : Regex.compile (simplifyToRegex pattern) = .ok rgx)
    (hsearch : rgx.search url = some m) (hgroups : 2 ≤ rgx.groups)
    (h₁ : edit cal hours m 1 = some e₁) (h₂ : edit cal hours m 2 = some e₂)
    (hsize : url.length + e₁.new.length < wordSize) (hurl : url = front ++ (m.text ++ back))
    (hfront : front.length = m.pos) (hfind : find e₁.old m.text = some i) :
    applyTemplate cal ⟨pattern, .timeshift hours⟩ url = .ok (front ++ (m.text.take i ++
      (e₁.new ++ replaceFirst e₂.old e₂.new (m.text.drop (i + e₁.old.length))) ++ back)) := by
  have hlen : m.text.length ≤ url.length := by
    rw [hurl, List.length_append, List.length_append]
    omega
  simp only [applyTemplate, hcompile, hsearch, if_pos hgroups, bind, Except.bind, pure, Except.pure,
    shiftGroups_eq h₁ h₂ hfind (by omega)]
  rw [hurl, ← hfront, replaceAt_append]

/-- A timeshift template changes its two groups, and nothing else, when they are found where they
    are; and, for groups in order and new times that are really new, only then. -/
theorem applyTemplate_timeshift (hcompile : Regex.compile (simplifyToRegex pattern) = .ok rgx)
    (hsearch : rgx.search url = some m) (hgroups : 2 ≤ rgx.groups)
    (hsize : ∀ e ∈ edit cal hours m 1, url.length + e.new.length < wordSize) :
    ((∃ e₁ e₂, edit cal hours m 1 = some e₁ ∧ edit cal hours m 2 = some e₂ ∧ Edit.Found m e₁ e₂) →
      Moves cal pattern hours url m) ∧
    (Regular cal hours m → Moves cal pattern hours url m →
      ∃ e₁ e₂, edit cal hours m 1 = some e₁ ∧ edit cal hours m 2 = some e₂ ∧
        Edit.Found m e₁ e₂) := by
  constructor
  · rintro ⟨e₁, e₂, h₁, h₂, ⟨hin, hfirst, hsecond⟩⟩
    obtain ⟨front, a, b, c, back, htext, hurl, hfront, ha, hb⟩ := exists_parts hsearch h₁ h₂ hin
    obtain ⟨i, hi⟩ := @exists_find e₁.old a (b ++ (e₂.old ++ c))
    rw [← htext] at hi
    refine ⟨e₁, e₂, h₁, h₂, ?_⟩
    rw [applyTemplate_found hcompile hsearch hgroups h₁ h₂ (hsize _ h₁) hurl hfront hi]
    rw [hi, Option.some_inj, ← ha, Nat.add_sub_cancel_left] at hfirst
    have hsecond' : e₂.new = e₂.old ∨ findFrom e₂.old m.text (i + e₁.old.length) =
        some (a ++ (e₁.old ++ b)).length := by
      rcases hsecond with heq | ⟨j, hj, hplace⟩
      · exact .inl heq
      · rw [Option.some.inj (hi.symm.trans hj), hplace, ← hb, Nat.add_sub_cancel_left]
        exact .inr rfl
    rw [htext] at hi hsecond' hurl ⊢
    rw [replaceTwo_of_places hi hfirst hsecond', hurl,
      applyBoth_parts (by rw [hfront, ha]) (by rw [hfront, hb])]
  · rintro hregular ⟨e₁, e₂, h₁, h₂, h⟩
    obtain ⟨hin, hfresh₁, hfresh₂⟩ := hregular e₁ h₁ e₂ h₂
    obtain ⟨front, a, b, c, back, htext, hurl, hfront, ha, hb⟩ := exists_parts hsearch h₁ h₂ hin
    obtain ⟨i, hi⟩ := @exists_find e₁.old a (b ++ (e₂.old ++ c))
    rw [← htext] at hi
    rw [applyTemplate_found hcompile hsearch hgroups h₁ h₂ (hsize _ h₁) hurl hfront hi] at h
    have hplaces : (e₁.new = e₁.old ∨ i = a.length) ∧ (e₂.new = e₂.old ∨
        findFrom e₂.old m.text (i + e₁.old.length) = some (a ++ (e₁.old ++ b)).length) := by
      rw [htext] at hi hurl h ⊢
      rw [hurl, applyBoth_parts (by rw [hfront, ha]) (by rw [hfront, hb]), Except.ok.injEq,
        List.append_cancel_left_eq, List.append_cancel_right_eq] at h
      exact places_of_replaceTwo hi hfresh₁ hfresh₂ h
    refine ⟨e₁, e₂, h₁, h₂, ⟨hin, ?_, ?_⟩⟩
    · rw [hi, Option.some_inj, ← ha, Nat.add_sub_cancel_left]
      exact hplaces.1
    · refine hplaces.2.imp_right fun hplace => ⟨i, hi, ?_⟩
      rw [hplace, ← hb, Nat.add_sub_cancel_left]

/-- The clock around an hour past midnight. -/
def nightClock : Calendar :=
  ⟨fun _ => none, fun _ => [], fun t => ascii "1970010101000" ++ decimal (t - 3600).toNat⟩

/-- `start(\d+)&to=(\d+)` -/
def fromToRe (start : String) : Regex :=
  let number := fun i => .group i (.ofTerms [.digits])
  .ofTerms (Regex.ofText start ++ [number 1] ++ Regex.ofText "&to=" ++ [number 2])

theorem applyTemplate_timeshift_clear :
    Moves nightClock (ascii "from=\x7bnumber\x7d&to=\x7bnumber\x7d") 1 (ascii "/tv/a?from=5&to=7")
      ⟨6, ascii "from=5&to=7", [⟨2, 16, ascii "7"⟩, ⟨1, 11, ascii "5"⟩]⟩ :=
  (@applyTemplate_timeshift nightClock 1 _ _ _ (fromToRe "from=") (by decide +kernel)
    (by decide +kernel) (by decide) (by decide +kernel)).1
    ⟨⟨11, ascii "5", ascii "19700101010005"⟩, ⟨16, ascii "7", ascii "19700101010007"⟩,
      by decide +kernel, by decide +kernel, by decide +kernel, .inr (by decide +kernel),
      .inr ⟨5, by decide +kernel, by decide +kernel⟩⟩

/-- The digit in front of the first group reads like it, and is changed in its place. -/
theorem applyTemplate_timeshift_astray :
    ¬∀ (pattern url : Bytes) (rgx : Regex) (m : Regex.Match),
      Regex.compile (simplifyToRegex pattern) = .ok rgx → rgx.search url = some m →
        2 ≤ rgx.groups → Moves nightClock pattern 1 url m := by
  intro h
  obtain ⟨e₁, e₂, h₁, h₂, happly⟩ := h (ascii "from5=\x7bnumber\x7d&to=\x7bnumber\x7d")
    (ascii "/tv/a?from5=5&to=7") (fromToRe "from5=")
    ⟨6, ascii "from5=5&to=7", [⟨2, 17, ascii "7"⟩, ⟨1, 12, ascii "5"⟩]⟩ (by decide +kernel)
    (by decide +kernel) (by decide)
  have hstart : edit nightClock 1 ⟨6, ascii "from5=5&to=7", [⟨2, 17, ascii "7"⟩, ⟨1, 12, ascii "5"⟩]⟩
      1 = some ⟨12, ascii "5", ascii "19700101010005"⟩ := by decide +kernel
  have hstop : edit nightClock 1 ⟨6, ascii "from5=5&to=7", [⟨2, 17, ascii "7"⟩, ⟨1, 12, ascii "5"⟩]⟩
      2 = some ⟨17, ascii "7", ascii "19700101010007"⟩ := by decide +kernel
  obtain rfl := Option.some.inj (hstart.symm.trans h₁)
  obtain rfl := Option.some.inj (hstop.symm.trans h₂)
  revert happly
  decide +kernel

end UrlRewriter

import RtsProxy.Clients.RtspToRtsp.Exceptions
import RtsProxy.Clients.RtspToRtsp.Transport
import RtsProxy.Protocol.Route
import RtsProxy.Utils.Patterns

/-!
# The templates for catch-up addresses

The configuration comes with four templates. The third one marks the times of a catch-up address
as GMT, so that the fourth one can find them there and move them. Its replacement names the
numbers of the match by placeholders.

* `expand_eq_fill_iff`: a placeholder in a replacement is not filled;
* `applyTemplates_shipped`: what the four templates make of a catch-up address.
-/

open Text Ecma Regex

namespace UrlRewriter

open PatternToken Route RtspToRtspClient

/-! ## Placeholders in a replacement -/

/-- A replacement with the numbers of a match in place of its placeholders for numbers. -/
def fill : List Bytes → List PatternToken → Bytes
  | _, [] => []
  | v :: vs, number :: ts => v ++ fill vs ts
  | vs, t :: ts => t.text ++ fill vs ts

variable {v : Bytes} {vs : List Bytes} {ts : List PatternToken}

theorem fill_cons_of_ne {t : PatternToken} (h : t ≠ number) :
    fill vs (t :: ts) = t.text ++ fill vs ts := by
  rcases t with _ | _ | _ | _ | c
  · exact absurd rfl h
  all_goals rcases vs with _ | ⟨v, vs⟩ <;> rfl

/-- The text of a replacement is what it is filled to only if there is nothing to fill. -/
theorem flatMap_text_eq_fill_iff (hv : IsNumber v) :
    ts.flatMap text = fill (v :: vs) ts ↔ number ∉ ts := by
  induction ts with
  | nil => exact ⟨fun _ => List.not_mem_nil, fun _ => rfl⟩
  | cons t ts ih =>
    rw [List.flatMap_cons]
    by_cases ht : t = number
    · subst ht
      refine iff_of_false ?_ fun h => h List.mem_cons_self
      obtain ⟨hne, hall⟩ := hv
      rcases v with _ | ⟨d, v⟩
      · exact absurd rfl hne
      · intro h
        -- The placeholder starts with a brace, the number with a digit.
        have hhead : 123 = d := (List.cons.inj h).1
        exact absurd (hall d List.mem_cons_self) (hhead ▸ (by decide))
    · rw [fill_cons_of_ne ht, List.append_cancel_left_eq, ih, List.mem_cons, not_or]
      exact (and_iff_right (Ne.symm ht)).symm

/-- What a replacement is expanded to has the numbers of the match in it exactly if it has no
    placeholder for a number. -/
theorem expand_eq_fill_iff {m : Match} {groups : Nat} {before after replacement : Bytes}
    (hfmt : 36 ∉ replacement) (hv : IsNumber v) :
    expand m groups before after replacement = fill (v :: vs) (tokens replacement) ↔
      number ∉ tokens replacement := by
  rw [expand_of_not_mem hfmt]
  nth_rewrite 1 [← flatMap_text replacement]
  exact flatMap_text_eq_fill_iff hv

/-! ## The templates -/

/-- The file name behind a channel is superfluous. -/
def dropSuffix : Template := ⟨ascii "/\x7bnumber\x7d_Uni.sdp", .remove⟩

/-- `/iptv` for `/iptv/import`. -/
def shortenImport : Template := ⟨ascii "/iptv/import", .replace (ascii "/iptv")⟩

/-- The times of a catch-up address are marked as GMT. -/
def completeTimes : Template :=
  ⟨ascii "tvdr=\x7bnumber\x7d-\x7bnumber\x7d",
    .replace (ascii "tvdr=\x7bnumber\x7dGMT-\x7bnumber\x7dGMT")⟩

/-- The times so marked are moved by eight hours. -/
def shiftTimes : Template := ⟨ascii "tvdr=\x7bnumber\x7dGMT-\x7bnumber\x7dGMT", .timeshift (-8)⟩

/-- `replace_templates` in `config.json`. -/
def shippedTemplates : List Template := [dropSuffix, shortenImport, completeTimes, shiftTimes]

/-! ## Where times marked as GMT are found -/

/-- `tvdr=(\d+)GMT-(\d+)GMT` -/
def gmtRe : Regex :=
  .ofTerms (ofText "tvdr=" ++ .group 1 (.ofTerms [.digits]) :: (ofText "GMT-" ++
    .group 2 (.ofTerms [.digits]) :: (ofText "GMT" ++ [])))

/-- What is read by it. -/
def readGmt : Reader :=
  readAll [readText (ascii "tvdr="), readRun digitClass, readText (ascii "GMT-"),
    readRun digitClass, readText (ascii "GMT")]

theorem scans_gmtRe : Scans gmtRe readGmt := by
  refine scans_of_follows (by decide) ?_ (follows_text _ (follows_group (follows_text _
    (follows_group (follows_text _ follows_nil) (.inr (rejects_text (by decide)))))
    (.inr (rejects_text (by decide)))))
  have hrun : ∀ s n, readRun digitClass s = some n → n ≤ s.length := fun _ _ h => (readRun_le h).2.1
  simp only [List.forall_mem_cons, List.not_mem_nil, false_imp_iff, implies_true, and_true]
  exact ⟨hrun, fun _ _ => readText_bound, hrun, fun _ _ => readText_bound⟩

variable {a b s : Bytes} {fs : List Reader}

theorem readAll_text {pat : Bytes} :
    readAll (readText pat :: fs) s ≠ none ↔ ∃ rest, s = pat ++ rest ∧ readAll fs rest ≠ none := by
  rw [readAll, readText]
  constructor
  · intro h
    split at h
    case isTrue hpre =>
      obtain ⟨rest, rfl⟩ := List.isPrefixOf_iff_prefix.1 hpre
      rw [Option.bind_some, List.drop_left, ne_eq, Option.map_eq_none_iff] at h
      exact ⟨rest, rfl, h⟩
    case isFalse => exact absurd rfl h
  · rintro ⟨rest, rfl, hrest⟩
    rw [if_pos (List.isPrefixOf_iff_prefix.2 (List.prefix_append pat rest)), Option.bind_some,
      List.drop_left, ne_eq, Option.map_eq_none_iff]
    exact hrest

theorem readAll_number : readAll (readRun digitClass :: fs) s ≠ none ↔
    ∃ v rest, s = v ++ rest ∧ IsNumber v ∧ (∀ c ∈ rest.head?, isDigit c = false) ∧
      readAll fs rest ≠ none := by
  rw [readAll]
  constructor
  · intro h
    rcases hrun : readRun digitClass s with _ | n
    · rw [hrun] at h
      exact absurd rfl h
    · rw [hrun, Option.bind_some, ne_eq, Option.map_eq_none_iff] at h
      refine ⟨s.take n, s.drop n, (List.take_append_drop n s).symm, number_of_readRun hrun, ?_, h⟩
      -- The run ends where there is no digit any more.
      have hdrop : s.drop n = s.dropWhile digitClass.mem := by
        have hsplit := @List.takeWhile_append_dropWhile _ digitClass.mem s
        nth_rewrite 1 [← hsplit]
        rw [(readRun_le hrun).2.2, List.drop_left]
      intro c hc
      have hend := List.head?_dropWhile_not digitClass.mem s
      rw [← hdrop, Option.mem_def.1 hc] at hend
      rw [← mem_digitClass_iff]
      exact hend
  · rintro ⟨v, rest, rfl, hv, hrest, h⟩
    rw [readRun_of_number hv hrest, Option.bind_some, List.drop_left, ne_eq, Option.map_eq_none_iff]
    exact h

/-- Two times that are marked as GMT. -/
def gmtTimes (a b : Bytes) : Bytes :=
  ascii "tvdr=" ++ (a ++ (ascii "GMT-" ++ (b ++ ascii "GMT")))

/-- What is read is two marked times. -/
theorem readGmt_ne_none_iff :
    readGmt s ≠ none ↔ ∃ a b, IsNumber a ∧ IsNumber b ∧ gmtTimes a b <+: s := by
  rw [readGmt, readAll_text]
  simp only [readAll_number, readAll_text]
  constructor
  · rintro ⟨_, rfl, a, _, rfl, ha, -, _, rfl, b, _, rfl, hb, -, rest, rfl, -⟩
    refine ⟨a, b, ha, hb, rest, ?_⟩
    simp only [gmtTimes, List.append_assoc]
  · rintro ⟨a, b, ha, hb, rest, rfl⟩
    refine ⟨_, by simp only [gmtTimes, List.append_assoc], a, _, rfl, ha, ?_, _, rfl, b, _, rfl,
      hb, ?_, rest, rfl, nofun⟩
    all_goals
      intro c hc
      obtain rfl : 71 = c := Option.some.inj hc
      rfl

/-- Marked times are found wherever they stand. -/
theorem gmtRe_search_eq_none_iff :
    gmtRe.search s = none ↔ ∀ a b, IsNumber a → IsNumber b → ¬gmtTimes a b <:+: s := by
  rw [scans_gmtRe.search_eq_none_iff]
  constructor
  · intro h a b ha hb hin
    obtain ⟨t, hpre, hsuf⟩ := List.infix_iff_prefix_suffix.1 hin
    exact readGmt_ne_none_iff.2 ⟨a, b, ha, hb, hpre⟩ (h t hsuf)
  · intro h t ht
    by_contra hread
    obtain ⟨a, b, ha, hb, hpre⟩ := readGmt_ne_none_iff.1 hread
    exact h a b ha hb (hpre.isInfix.trans ht.isInfix)

/-! ## Times that are put in -/

/-- What ends with a byte that the text behind does not have stands in front of it. -/
theorem infix_of_last {w p u : Bytes} {c : UInt8} (hc : c ∉ u) (h : w ++ [c] <:+: p ++ u) :
    w ++ [c] <:+: p := by
  rcases List.infix_append_iff_ne_nil.1 h with hin | hin | ⟨l₁, l₂, hne₁, hne₂, heq, -, hpre⟩
  · exact hin
  · exact absurd (hin.subset (List.mem_append_right w List.mem_cons_self)) hc
  · -- The last byte would be one of the text behind.
    have hlast := congrArg List.getLast? heq
    rw [List.getLast?_append_of_ne_nil _ hne₂, List.getLast?_concat] at hlast
    exact absurd (hpre.subset (List.mem_of_getLast? hlast.symm)) hc

/-- What starts with a byte that the text in front does not have stands behind it. -/
theorem infix_of_first {w p u : Bytes} {c : UInt8} (hc : c ∉ p) (h : c :: w <:+: p ++ u) :
    c :: w <:+: u := by
  rcases List.infix_append_iff_ne_nil.1 h with hin | hin | ⟨l₁, l₂, hne₁, hne₂, heq, hsuf, -⟩
  · exact absurd (hin.subset List.mem_cons_self) hc
  · exact hin
  · obtain ⟨d, l₁, rfl⟩ := List.exists_cons_of_ne_nil hne₁
    rw [(List.cons.inj heq).1] at hc
    exact absurd (hsuf.subset List.mem_cons_self) hc

/-- What the third template puts in for two times. -/
def unfilled : Bytes := ascii "tvdr=\x7bnumber\x7dGMT-\x7bnumber\x7dGMT"

theorem not_mem_gmtTimes {c : UInt8} (ha : IsNumber a) (hb : IsNumber b)
    (hdigit : isDigit c = false) (hc : c ∉ ascii "tvdr=GMT-") : c ∉ gmtTimes a b := by
  have hnumber : ∀ {v}, IsNumber v → c ∉ v := fun hv hmem =>
    Bool.false_ne_true (hdigit.symm.trans (hv.2 c hmem))
  have htext : ∀ u, u ⊆ ascii "tvdr=GMT-" → c ∉ u := fun u hu hmem => hc (hu hmem)
  simp only [gmtTimes, List.mem_append, not_or]
  exact ⟨htext _ (by decide), hnumber ha, htext _ (by decide), hnumber hb, htext _ (by decide)⟩

/-- Where it is put in no times are found. -/
theorem gmtTimes_unfilled {p q : Bytes} (ha : IsNumber a) (hb : IsNumber b)
    (h : gmtTimes a b <:+: p ++ (unfilled ++ q)) : gmtTimes a b <:+: p ∨ gmtTimes a b <:+: q := by
  have hne : gmtTimes a b ≠ [] := List.cons_ne_nil _ _
  have hopen : 123 ∉ gmtTimes a b := not_mem_gmtTimes ha hb rfl (by decide)
  have hclose : 125 ∉ gmtTimes a b := not_mem_gmtTimes ha hb rfl (by decide)
  have hequals : 61 ∈ gmtTimes a b := List.mem_append_left _ (by decide)
  have hsplit : p ++ (unfilled ++ q) = (p ++ ascii "tvdr=") ++ 123 :: (ascii "number\x7dGMT-" ++
      123 :: (ascii "number" ++ 125 :: (ascii "GMT" ++ q))) := by
    rw [List.append_assoc]
    rfl
  rw [hsplit, infix_append_sep_iff hne hopen, infix_append_sep_iff hne hopen,
    infix_append_sep_iff hne hclose] at h
  rcases h with hin | hin | hin | hin
  · left
    have hend : gmtTimes a b = (ascii "tvdr=" ++ (a ++ (ascii "GMT-" ++ (b ++ ascii "GM")))) ++ [84] := by
      simp only [gmtTimes, List.append_assoc]
      rfl
    rw [hend] at hin ⊢
    exact infix_of_last (by decide) hin
  · exact absurd (hin.subset hequals) (by decide)
  · exact absurd (hin.subset hequals) (by decide)
  · right
    exact infix_of_first (c := 116) (by decide) hin

/-! ## Catch-up addresses -/

/-- A template has no match in a URL. -/
def Misses (t : Template) (url : Bytes) : Prop :=
  ∀ rgx, Regex.compile (simplifyToRegex t.pattern) = .ok rgx → rgx.search url = none

theorem misses_iff {t : Template} {url : Bytes} : Misses t url ↔
    (Regex.compile (simplifyToRegex t.pattern)).toOption.bind (·.search url) = none := by
  rw [Misses]
  rcases Regex.compile (simplifyToRegex t.pattern) with e | rgx
  · exact ⟨fun _ => rfl, fun _ => nofun⟩
  · exact ⟨fun h => h rgx rfl, fun h _ heq => Except.ok.inj heq ▸ h⟩

instance (t : Template) (url : Bytes) : Decidable (Misses t url) := decidable_of_iff' _ misses_iff

/-- A request path with a query in which one pair of times stands, and which is otherwise of no
    interest to the templates. -/
structure Catchup (url : Bytes) (m : Match) : Prop where
  tv : ascii "/tv/" <+: url
  query : 63 ∈ url
  times : ∃ rgx, Regex.compile (simplifyToRegex completeTimes.pattern) = .ok rgx ∧
    rgx.allMatches url = [m]
  others : ∀ t ∈ [dropSuffix, shortenImport, shiftTimes], Misses t url

/-- The path with the times of its match moved, and marked as GMT. -/
def filled (url : Bytes) (m : Match) (a b : Bytes) : Bytes :=
  url.take m.pos ++ (gmtTimes a b ++ url.drop m.stop)

/-- The calendar writes no braces: the format of its dates has digits only. -/
def Plain (cal : Calendar) : Prop := ∀ t, 123 ∉ cal.formatLocal t ∧ 123 ∉ cal.formatUtc t

variable {cal : Calendar} {url : Bytes} {m : Match}

theorem compile_completeTimes :
    Regex.compile (simplifyToRegex completeTimes.pattern) = .ok (pairGroupsRe "tvdr=") := by
  decide +kernel

theorem compile_shiftTimes :
    Regex.compile (simplifyToRegex shiftTimes.pattern) = .ok gmtRe := by
  decide +kernel

theorem search_of_allMatches {r : Regex} {ms : List Match} (h : r.allMatches s = m :: ms) :
    r.search s = some m := by
  rw [allMatches, matchesAfter] at h
  rw [search]
  have hstart : searchFrom r 0 none s = searchFrom r (Cursor.start s).idx (Cursor.start s).prev
    (Cursor.start s).rest := rfl
  rw [hstart]
  rcases hfound : searchFrom r (Cursor.start s).idx (Cursor.start s).prev (Cursor.start s).rest with
    _ | ⟨m', c'⟩
  · rw [hfound] at h
    cases h
  · rw [hfound] at h
    exact congrArg some (List.cons.inj h).1

theorem applyTemplate_of_misses {t : Template} (hc : Compiles t) (h : Misses t url) :
    applyTemplate cal t url = .ok url := by
  rcases hcompile : Regex.compile (simplifyToRegex t.pattern) with e | rgx
  · rw [Compiles, hcompile] at hc
    cases hc
  · exact applyTemplate_of_none hcompile (h rgx hcompile)

/-- The third template puts its replacement in, as it is. -/
theorem applyTemplate_completeTimes (h : Catchup url m) :
    applyTemplate cal completeTimes url =
      .ok (url.take m.pos ++ (unfilled ++ url.drop m.stop)) := by
  obtain ⟨rgx, hcompile, hmatches⟩ := h.times
  have hreplace : applyTemplate cal completeTimes url = .ok (rgx.replace unfilled url) := by
    rw [applyTemplate, hcompile]
    rfl
  rw [hreplace, replace, hmatches, splice, splice, expand_of_not_mem (by decide), List.drop_zero,
    List.append_assoc]

/-- In what it makes of the path the fourth one finds nothing. -/
theorem misses_shiftTimes (h : Catchup url m) :
    Misses shiftTimes (url.take m.pos ++ (unfilled ++ url.drop m.stop)) := by
  intro rgx hcompile
  have hnone := h.others shiftTimes (by decide) rgx hcompile
  obtain rfl := Except.ok.inj (compile_shiftTimes.symm.trans hcompile)
  rw [gmtRe_search_eq_none_iff] at hnone ⊢
  intro a b ha hb hin
  rcases gmtTimes_unfilled ha hb hin with hin | hin
  · exact hnone a b ha hb (hin.trans (List.take_prefix _ _).isInfix)
  · exact hnone a b ha hb (hin.trans (List.drop_suffix _ _).isInfix)

/-- What the four templates make of a catch-up address. -/
theorem applyTemplates_shipped (h : Catchup url m) :
    applyTemplates cal shippedTemplates url =
      .ok (some (url.take m.pos ++ (unfilled ++ url.drop m.stop))) := by
  have hdrop : applyTemplate cal dropSuffix url = .ok url :=
    applyTemplate_of_misses (by decide +kernel) (h.others _ (by decide))
  have hshorten : applyTemplate cal shortenImport url = .ok url :=
    applyTemplate_of_misses (by decide +kernel) (h.others _ (by decide))
  have hshift := @applyTemplate_of_misses cal _ shiftTimes (by decide +kernel) (misses_shiftTimes h)
  simp only [applyTemplates, shippedTemplates, List.foldlM_cons, List.foldlM_nil, hdrop, hshorten,
    applyTemplate_completeTimes h, hshift, bind, Except.bind, pure, Except.pure]

theorem not_mem_shiftTime {hours : Int} {time new : Bytes} (hcal : Plain cal)
    (htime : IsNumber time) (h : shiftTime cal time hours = .ok new) : 123 ∉ new := by
  have hsame : 123 ∉ time := fun hmem => absurd (htime.2 123 hmem) (by decide)
  rw [shiftTime] at h
  split at h
  · split at h
    · cases h
      exact hsame
    · cases h
      exact (hcal _).1
  · split at h
    · obtain ⟨t, -, h⟩ := Except.bind_eq_ok_iff.1 h
      cases h
      exact (hcal _).2
    · cases h
      exact hsame

/-- A placeholder in a replacement is not filled: not by the templates of the configuration, for
    any catch-up address, and not by the expansion of any replacement that has one. -/
theorem shipped_never_fill (hcal : Plain cal) :
    (∀ url m a b, Catchup url m → shiftTime cal (m.sub 1) (-8) = .ok a →
      shiftTime cal (m.sub 2) (-8) = .ok b →
      applyTemplates cal shippedTemplates url ≠ .ok (some (filled url m a b))) ∧
    ∀ replacement, 36 ∉ replacement → ∀ m groups before after v vs, IsNumber v →
      (expand m groups before after replacement = fill (v :: vs) (tokens replacement) ↔
        number ∉ tokens replacement) := by
  refine ⟨fun url m a b h ha hb heq => ?_, fun replacement hfmt m groups before after v vs =>
    expand_eq_fill_iff hfmt⟩
  obtain ⟨rgx, hcompile, hmatches⟩ := h.times
  obtain rfl := Except.ok.inj (compile_completeTimes.symm.trans hcompile)
  obtain ⟨hfirst, hsecond⟩ := search_pair (search_of_allMatches hmatches)
  -- What is put in has a brace, and the moved times have none.
  rw [applyTemplates_shipped h, filled, Except.ok.injEq, Option.some_inj,
    List.append_cancel_left_eq, List.append_cancel_right_eq] at heq
  have hbrace : 123 ∈ gmtTimes a b := heq ▸ (by decide : 123 ∈ unfilled)
  simp only [gmtTimes, List.mem_append] at hbrace
  rcases hbrace with hmem | hmem | hmem | hmem | hmem
  · exact absurd hmem (by decide)
  · exact not_mem_shiftTime hcal hfirst ha hmem
  · exact absurd hmem (by decide)
  · exact not_mem_shiftTime hcal hsecond hb hmem
  · exact absurd hmem (by decide)

/-- The clock around the beginning of the epoch. -/
def epochClock : Calendar :=
  ⟨fun _ => none, fun _ => [],
    fun t => if t = -28800 then ascii "19691231160000" else ascii "19691231170000"⟩

/-- The first hour of the epoch, as a catch-up address. -/
theorem catchup_epoch : Catchup (ascii "/tv/a?tvdr=0-3600&b=1")
    ⟨6, ascii "tvdr=0-3600", [⟨2, 13, ascii "3600"⟩, ⟨1, 11, ascii "0"⟩]⟩ where
  tv := by decide +kernel
  query := by decide +kernel
  times := ⟨pairGroupsRe "tvdr=", compile_completeTimes, by decide +kernel⟩
  others := by decide +kernel

theorem shipped_never_fill_epoch :
    applyTemplates epochClock shippedTemplates (ascii "/tv/a?tvdr=0-3600&b=1") ≠
      .ok (some (ascii "/tv/a?tvdr=19691231160000GMT-19691231170000GMT&b=1")) := by
  have hcal : Plain epochClock := by
    intro t
    refine ⟨List.not_mem_nil, ?_⟩
    simp only [epochClock]
    split <;> decide
  exact (shipped_never_fill hcal).1 _ _ (ascii "19691231160000") (ascii "19691231170000")
    catchup_epoch (by decide +kernel) (by decide +kernel)

/-- The first hour of the epoch is not moved. -/
theorem shipped_leave :
    ¬∀ url m a b, Catchup url m → shiftTime epochClock (m.sub 1) (-8) = .ok a →
      shiftTime epochClock (m.sub 2) (-8) = .ok b →
      applyTemplates epochClock shippedTemplates url = .ok (some (filled url m a b)) := by
  intro h
  exact absurd (h _ _ (ascii "19691231160000") (ascii "19691231170000") catchup_epoch
    (by decide +kernel) (by decide +kernel)) (by decide +kernel)

end UrlRewriter

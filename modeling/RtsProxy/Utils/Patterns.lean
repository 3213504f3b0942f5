import RtsProxy.Text.Passes
import RtsProxy.Utils.UrlRewriter

/-!
# Template patterns

A pattern is a sequence of tokens: the three placeholders, slashes and other bytes. Its regular
expression is meant to be the tokens' translations, one behind the other. `simplifyToRegex` makes
it in four passes of find and replace, which count bytes.

* `substitute_eq_run`: the loop of a pass is a pass over the text;
* `flatMap_translate`: the translations are what four exact passes make of a pattern;
* `simplifyToRegex_eq_iff`: exactly which patterns are translated token by token.
-/

open Text

/-- A token of a pattern. -/
inductive PatternToken
  | number
  | word
  | any
  | slash
  /-- Any other byte. -/
  | byte (c : UInt8)
  deriving DecidableEq, Repr

namespace PatternToken

/-- What a token looks like in a pattern. -/
def text : PatternToken → Bytes
  | number => ascii "\x7bnumber\x7d"
  | word => ascii "\x7bword\x7d"
  | any => ascii "\x7bany\x7d"
  | slash => ascii "/"
  | byte c => [c]

/-- What it stands for in a regular expression. -/
def translate : PatternToken → Bytes
  | number => ascii "(\\d+)"
  | word => ascii "(\\w+)"
  | any => ascii "(.*?)"
  | slash => ascii "\\/"
  | byte c => [c]

end PatternToken

namespace UrlRewriter

open PatternToken

/-- The tokens of a pattern, of which the first bytes belong to a token that has been read. -/
def tokensFrom : Nat → Bytes → List PatternToken
  | _, [] => []
  | n + 1, _ :: s => tokensFrom n s
  | 0, c :: s =>
    if number.text <+: c :: s then number :: tokensFrom 7 s
    else if word.text <+: c :: s then word :: tokensFrom 5 s
    else if any.text <+: c :: s then any :: tokensFrom 4 s
    else if c = 47 then slash :: tokensFrom 0 s
    else byte c :: tokensFrom 0 s

/-- The tokens of a pattern. -/
def tokens (pattern : Bytes) : List PatternToken := tokensFrom 0 pattern

/-! ## The passes -/

/-- The pass for `number`: the byte behind what is put in is not looked at. -/
def numberPass : Pass := ⟨123, ascii "number\x7d", ascii "(\\d+)", 8, 1, by decide⟩

/-- The pass for `word`: it takes out a byte too many, and does not look at the next one. -/
def wordPass : Pass := ⟨123, ascii "word\x7d", ascii "(\\w+)", 7, 1, by decide⟩

/-- The pass for `any`: it takes out a byte too many. -/
def anyPass : Pass := ⟨123, ascii "any\x7d", ascii "(.*?)", 6, 0, by decide⟩

/-- The pass for slashes. -/
def slashPass : Pass := ⟨47, [], ascii "\\/", 1, 0, by decide⟩

variable {P : Pass} {s u r : Bytes} {i : Nat}

theorem run_of_absent (h : ¬P.token <:+: s) : P.run s = s := by
  induction s with
  | nil => rfl
  | cons c s ih =>
    rw [List.infix_cons_iff, not_or] at h
    rw [Pass.run_cons_of_not h.1, ih h.2]

/-- Up to the first token, a pass changes nothing. -/
theorem run_of_find (h : find P.token u = some i) : P.run u = u.take i ++ P.run (u.drop i) := by
  induction u generalizing i with
  | nil => cases i <;> rfl
  | cons c u ih =>
    rw [find] at h
    by_cases hpre : P.token <+: c :: u
    · rw [if_pos (List.isPrefixOf_iff_prefix.2 hpre)] at h
      obtain rfl := Option.some.inj h
      rfl
    · rw [if_neg (mt List.isPrefixOf_iff_prefix.1 hpre)] at h
      obtain ⟨j, hj, rfl⟩ := Option.map_eq_some_iff.1 h
      rw [Pass.run_cons_of_not hpre, ih hj]
      rfl

/-- The loop of `simplifyToRegex` for one token goes over the text as a pass does. -/
theorem substitute_eq_run (hpos : 0 < P.taken) (fuel pos : Nat) (s : Bytes)
    (hfuel : s.length < pos + fuel) :
    substitute P.token P.new P.taken (P.new.length + P.held) fuel pos s =
      s.take pos ++ P.run (s.drop pos) := by
  induction fuel generalizing pos s with
  | zero =>
    rw [List.drop_eq_nil_iff.2 (by omega), List.take_of_length_le (by omega), Pass.run_nil,
      List.append_nil]
    rfl
  | succ fuel ih =>
    rw [substitute, findFrom]
    by_cases hin : pos ≤ s.length
    swap
    · rw [if_neg hin, List.drop_eq_nil_iff.2 (by omega), List.take_of_length_le (by omega),
        Pass.run_nil, List.append_nil]
    rw [if_pos hin]
    rcases hfind : find P.token (s.drop pos) with _ | j
    · rw [run_of_absent (find_eq_none_iff.1 hfind), List.take_append_drop]
      rfl
    -- A token has been found: the rest of the text is a token and what follows it.
    have hend := find_add_length_le hfind
    obtain ⟨-, ⟨rest, hrest⟩, -⟩ := find_eq_some_iff.1 hfind
    have htoken : 0 < P.token.length := Nat.succ_pos _
    rw [List.length_drop] at hend
    rw [Option.map_some]
    dsimp only
    have hfront : (s.take (j + pos) ++ P.new).length = j + pos + P.new.length := by
      rw [List.length_append, List.length_take]
      omega
    have hafter : P.run ((s.drop pos).drop j) =
        P.new ++ P.go 0 P.held (s.drop (j + pos + P.taken)) := by
      rw [← hrest, Pass.run_token hpos, hrest, List.drop_drop, List.drop_drop]
      congr 3
      omega
    have hplace : j + pos + (P.new.length + P.held) =
        (s.take (j + pos) ++ P.new).length + P.held := by omega
    rw [ih _ _ ?_, replaceAt, hplace, List.take_length_add_append, List.drop_length_add_append,
      run_of_find hfind, hafter, Pass.go_hold, Nat.add_comm j pos, List.take_add]
    · simp only [List.append_assoc]
    · rw [replaceAt, List.length_append, hfront, List.length_drop]
      omega

/-- The regular expression of a pattern, by the four passes. -/
theorem simplifyToRegex_eq_run (pattern : Bytes) : simplifyToRegex pattern =
    slashPass.run (anyPass.run (wordPass.run (numberPass.run pattern))) := by
  have hpass : ∀ (P : Pass) (s : Bytes), 0 < P.taken →
      substitute P.token P.new P.taken (P.new.length + P.held) (s.length + 1) 0 s = P.run s :=
    fun P s hpos => substitute_eq_run hpos (s.length + 1) 0 s (by omega)
  rw [← hpass numberPass pattern (by decide), ← hpass wordPass _ (by decide),
    ← hpass anyPass _ (by decide), ← hpass slashPass _ (by decide)]
  rfl

/-! ## Tokens -/

variable {c : UInt8} {n : Nat}

theorem tokensFrom_eq_drop : tokensFrom n s = tokens (s.drop n) := by
  induction n generalizing s with
  | zero => rfl
  | succ n ih =>
    rcases s with _ | ⟨c, s⟩
    · rfl
    · exact ih

theorem tokens_cons : tokens (c :: s) =
    if number.text <+: c :: s then number :: tokens (s.drop 7)
    else if word.text <+: c :: s then word :: tokens (s.drop 5)
    else if any.text <+: c :: s then any :: tokens (s.drop 4)
    else if c = 47 then slash :: tokens s
    else byte c :: tokens s := by
  rw [tokens, tokensFrom, tokensFrom_eq_drop, tokensFrom_eq_drop, tokensFrom_eq_drop]
  rfl

/-- No placeholder is the start of another. -/
theorem apart {t u v w : Bytes} {a b : UInt8} (ht : t = 123 :: a :: v) (hu : u = 123 :: b :: w)
    (hne : a ≠ b) (r : Bytes) : ¬t <+: u ++ r := by
  rw [ht, hu]
  exact fun h => hne (List.cons_prefix_cons.1 (List.cons_prefix_cons.1 h).2).1

theorem tokens_number : tokens (numberPass.token ++ r) = number :: tokens r := by
  have hnumber : number.text <+: 123 :: (numberPass.body ++ r) := List.prefix_append number.text r
  change tokens (123 :: (numberPass.body ++ r)) = _
  rw [tokens_cons, if_pos hnumber]
  rfl

theorem tokens_word : tokens (wordPass.token ++ r) = word :: tokens r := by
  have hnumber : ¬number.text <+: 123 :: (wordPass.body ++ r) :=
    @apart _ word.text _ _ _ _ rfl rfl (by decide) r
  have hword : word.text <+: 123 :: (wordPass.body ++ r) := List.prefix_append word.text r
  change tokens (123 :: (wordPass.body ++ r)) = _
  rw [tokens_cons, if_neg hnumber, if_pos hword]
  rfl

theorem tokens_any : tokens (anyPass.token ++ r) = any :: tokens r := by
  have hnumber : ¬number.text <+: 123 :: (anyPass.body ++ r) :=
    @apart _ any.text _ _ _ _ rfl rfl (by decide) r
  have hword : ¬word.text <+: 123 :: (anyPass.body ++ r) :=
    @apart _ any.text _ _ _ _ rfl rfl (by decide) r
  have hany : any.text <+: 123 :: (anyPass.body ++ r) := List.prefix_append any.text r
  change tokens (123 :: (anyPass.body ++ r)) = _
  rw [tokens_cons, if_neg hnumber, if_neg hword, if_pos hany]
  rfl

theorem tokens_byte (hnumber : ¬numberPass.token <+: c :: r) (hword : ¬wordPass.token <+: c :: r)
    (hany : ¬anyPass.token <+: c :: r) :
    tokens (c :: r) = (if c = 47 then slash else byte c) :: tokens r := by
  have hnumber' : ¬number.text <+: c :: r := hnumber
  have hword' : ¬word.text <+: c :: r := hword
  have hany' : ¬any.text <+: c :: r := hany
  rw [tokens_cons, if_neg hnumber', if_neg hword', if_neg hany']
  split <;> rfl

/-- A text is empty, or starts with one of the placeholders, or with another byte. -/
theorem tokens_induction {motive : Bytes → Prop} (nil : motive [])
    (number : ∀ r, motive r → motive (numberPass.token ++ r))
    (word : ∀ r, motive r → motive (wordPass.token ++ r))
    (any : ∀ r, motive r → motive (anyPass.token ++ r))
    (byte : ∀ c r, ¬numberPass.token <+: c :: r → ¬wordPass.token <+: c :: r →
      ¬anyPass.token <+: c :: r → motive r → motive (c :: r)) (s : Bytes) : motive s := by
  have hall : ∀ n (s : Bytes), s.length ≤ n → motive s := by
    intro n
    induction n with
    | zero =>
      intro s hs
      rw [List.length_eq_zero_iff.1 (Nat.le_zero.1 hs)]
      exact nil
    | succ n ih =>
      intro s hs
      have hstep : ∀ (P : Pass) r, P.token ++ r = s → motive r := by
        intro P r hr
        rw [← hr, List.length_append, Pass.token, List.length_cons] at hs
        exact ih r (by omega)
      rcases s with _ | ⟨c, s⟩
      · exact nil
      by_cases hnumber : numberPass.token <+: c :: s
      · obtain ⟨r, hr⟩ := hnumber
        exact hr ▸ number r (hstep numberPass r hr)
      by_cases hword : wordPass.token <+: c :: s
      · obtain ⟨r, hr⟩ := hword
        exact hr ▸ word r (hstep wordPass r hr)
      by_cases hany : anyPass.token <+: c :: s
      · obtain ⟨r, hr⟩ := hany
        exact hr ▸ any r (hstep anyPass r hr)
      exact byte c s hnumber hword hany (ih s (Nat.le_of_succ_le_succ hs))
  exact hall s.length s (Nat.le_refl _)

/-- A pattern is the text of its tokens. -/
theorem flatMap_text (pattern : Bytes) : (tokens pattern).flatMap text = pattern := by
  induction pattern using tokens_induction with
  | nil => rfl
  | number r ih => rw [tokens_number, List.flatMap_cons, ih]; rfl
  | word r ih => rw [tokens_word, List.flatMap_cons, ih]; rfl
  | any r ih => rw [tokens_any, List.flatMap_cons, ih]; rfl
  | byte c r hnumber hword hany ih =>
    rw [tokens_byte hnumber hword hany, List.flatMap_cons, ih]
    split
    case isTrue h => rw [h]; rfl
    case isFalse => rfl

/-- The translations of the tokens are what exact passes make of a pattern. -/
theorem flatMap_translate (pattern : Bytes) : (tokens pattern).flatMap translate =
    slashPass.run (anyPass.exact.run (wordPass.exact.run (numberPass.exact.run pattern))) := by
  induction pattern using tokens_induction with
  | nil => rfl
  | number r ih =>
    rw [tokens_number, List.flatMap_cons, ih, Pass.exact_run_token,
      @Pass.run_append wordPass.exact _ _ (by decide), @Pass.run_append anyPass.exact _ _ (by decide),
      @Pass.run_append slashPass _ _ (by decide)]
    rfl
  | word r ih =>
    rw [tokens_word, List.flatMap_cons, ih,
      @Pass.run_append_of_apart numberPass.exact wordPass _ rfl (apart rfl rfl (by decide)),
      Pass.exact_run_token, @Pass.run_append anyPass.exact _ _ (by decide),
      @Pass.run_append slashPass _ _ (by decide)]
    rfl
  | any r ih =>
    rw [tokens_any, List.flatMap_cons, ih,
      @Pass.run_append_of_apart numberPass.exact anyPass _ rfl (apart rfl rfl (by decide)),
      @Pass.run_append_of_apart wordPass.exact anyPass _ rfl (apart rfl rfl (by decide)),
      Pass.exact_run_token, @Pass.run_append slashPass _ _ (by decide)]
    rfl
  | byte c r hnumber hword hany ih =>
    have hword' : ¬wordPass.token <+: c :: numberPass.exact.run r :=
      mt (Pass.prefix_of_cons_run (by decide +kernel) (by decide +kernel)) hword
    have hany' : ¬anyPass.token <+: c :: wordPass.exact.run (numberPass.exact.run r) :=
      mt (Pass.prefix_of_cons_run (by decide +kernel) (by decide +kernel))
        (mt (Pass.prefix_of_cons_run (by decide +kernel) (by decide +kernel)) hany)
    rw [tokens_byte hnumber hword hany, List.flatMap_cons, ih,
      @Pass.run_cons_of_not numberPass.exact _ _ hnumber,
      @Pass.run_cons_of_not wordPass.exact _ _ hword', @Pass.run_cons_of_not anyPass.exact _ _ hany']
    by_cases hslash : c = 47
    · subst hslash
      exact (@Pass.exact_run_token slashPass _).symm
    · rw [if_neg hslash, @Pass.run_cons_of_ne slashPass _ _ hslash]
      rfl

/-! ## Where the passes count wrong -/

/-- Nothing follows `word` or `any` in a pattern, and no two `number` are adjacent. -/
structure Spaced (pattern : Bytes) : Prop where
  numbers : ¬number.text ++ number.text <:+: pattern
  words : ¬∃ c, word.text ++ [c] <:+: pattern
  anys : ¬∃ c, any.text ++ [c] <:+: pattern

/-- The weight of a byte of a regular expression: a placeholder `word` or `any` weighs what it
    stands for, `number` less. -/
def weight (c : UInt8) : Nat := if c = 100 then 3 else if c = 43 then 4 else 1

/-- The weight of a byte that a slash is still to be put in front of. -/
def unescapedWeight (c : UInt8) : Nat := if c = 47 then 2 else weight c

theorem unescapedWeight_pos (c : UInt8) : 0 < unescapedWeight c := by
  unfold unescapedWeight weight
  split
  · decide
  · split
    · decide
    · split <;> decide

/-- The last pass gives slashes their weight. -/
theorem weigh_slashPass (s : Bytes) :
    Pass.weigh weight (slashPass.run s) = Pass.weigh unescapedWeight s := by
  induction s using slashPass.induction with
  | nil => rfl
  | token r ih =>
    have hrun : slashPass.run (slashPass.token ++ r) = ascii "\\/" ++ slashPass.run r :=
      @Pass.exact_run_token slashPass r
    rw [hrun, Pass.weigh_append, Pass.weigh_append, ih]
    rfl
  | byte c r hnot ih =>
    have hslash : c ≠ 47 := by
      rintro rfl
      exact hnot ⟨r, rfl⟩
    rw [Pass.run_cons_of_not hnot, Pass.weigh_cons, Pass.weigh_cons, ih, unescapedWeight,
      if_neg hslash]

/-- The passes for `word` and `any` make nothing heavier. -/
theorem weigh_word_any_le (s : Bytes) :
    Pass.weigh unescapedWeight (anyPass.run (wordPass.run s)) ≤ Pass.weigh unescapedWeight s :=
  (Pass.weigh_run_le rfl rfl _).trans (Pass.weigh_run_le rfl rfl s)

/-- A pattern is translated token by token exactly when its placeholders are spaced as the passes
    need it. -/
theorem simplifyToRegex_eq_iff (pattern : Bytes) :
    simplifyToRegex pattern = (tokens pattern).flatMap translate ↔ Spaced pattern := by
  have hword : ∀ s, wordPass.Followed (numberPass.exact.run s) ↔ wordPass.Followed s :=
    Pass.followed_run rfl (by decide) (by decide) (by decide +kernel)
      (@apart _ number.text _ _ _ _ rfl rfl (by decide))
  have hany : ∀ s, anyPass.Followed (numberPass.exact.run s) ↔ anyPass.Followed s :=
    Pass.followed_run rfl (by decide) (by decide) (by decide +kernel)
      (@apart _ number.text _ _ _ _ rfl rfl (by decide))
  have hany' : ∀ s, anyPass.Followed (wordPass.exact.run s) ↔ anyPass.Followed s :=
    Pass.followed_run rfl (by decide) (by decide) (by decide +kernel)
      (@apart _ word.text _ _ _ _ rfl rfl (by decide))
  rw [simplifyToRegex_eq_run, flatMap_translate]
  constructor
  · intro heq
    -- The exact passes for `word` and `any` leave the weight, so no weight may be lost.
    have hsame : Pass.weigh unescapedWeight (anyPass.run (wordPass.run (numberPass.run pattern))) =
        Pass.weigh unescapedWeight (numberPass.exact.run pattern) := by
      rw [← weigh_slashPass, heq, weigh_slashPass, Pass.weigh_exact_run (by rfl),
        Pass.weigh_exact_run (by rfl)]
    have hnumbers : ¬numberPass.Adjacent pattern := by
      intro h
      have hlost := @Pass.weigh_run_lt_of_adjacent numberPass _ unescapedWeight rfl rfl (by decide) h
      exact absurd hsame ((weigh_word_any_le _).trans_lt hlost).ne
    rw [Pass.run_eq_exact_of_not_adjacent rfl rfl hnumbers] at hsame
    have hwords : ¬wordPass.Followed pattern := by
      intro h
      have hlost := @Pass.weigh_run_lt_of_followed wordPass _ unescapedWeight rfl rfl
        unescapedWeight_pos ((hword pattern).2 h)
      exact absurd hsame ((Pass.weigh_run_le rfl rfl _).trans_lt hlost).ne
    rw [Pass.run_eq_exact_of_not_followed rfl (mt (hword pattern).1 hwords)] at hsame
    have hanys : ¬anyPass.Followed pattern := by
      intro h
      have hlost := @Pass.weigh_run_lt_of_followed anyPass _ unescapedWeight rfl rfl
        unescapedWeight_pos ((hany' _).2 ((hany pattern).2 h))
      rw [Pass.weigh_exact_run (by rfl)] at hlost
      exact absurd hsame hlost.ne
    exact ⟨hnumbers, hwords, hanys⟩
  · rintro ⟨hnumbers, hwords, hanys⟩
    rw [@Pass.run_eq_exact_of_not_adjacent numberPass _ rfl rfl hnumbers,
      @Pass.run_eq_exact_of_not_followed wordPass _ rfl (mt (hword pattern).1 hwords),
      @Pass.run_eq_exact_of_not_followed anyPass _ rfl
        (mt (fun h => (hany pattern).1 ((hany' _).1 h)) hanys)]

/-- The hyphen behind `word` is lost. -/
theorem simplifyToRegex_loses :
    ¬∀ pattern, simplifyToRegex pattern = (tokens pattern).flatMap translate := by
  intro h
  exact absurd (h (ascii "\x7bword\x7d-x")) (by decide +kernel)

end UrlRewriter

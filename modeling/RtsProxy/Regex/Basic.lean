import RtsProxy.Text.Number

/-!
# Regular expressions

The expressions of the ECMAScript grammar of `std::regex`, and their matching by
backtracking, as libstdc++ does it: alternatives are tried from the left, greedy
repetitions take as much as they can, and the first way through wins. A loop counts
the rounds that it begins at a place, and begins two there at most: a round may
leave the cursor where it is (and empty the groups in it), but not a third one.
A matcher takes the cursor, what is carried along (the captures made so far, and
those counts) and what has to match after it (a continuation).

* `Regex.search` is `std::regex_search`: the leftmost match;
* `Regex.replace` is `std::regex_replace`: every match, without overlaps, is
  replaced by the format, in which `$&`, `$n`, `$$` and the like are expanded.
-/

namespace Ecma

open Text

/-! ## Expressions -/

/-- A class of bytes: those in one of the ranges, or, negated, those in none. -/
structure ByteClass where
  ranges : List (UInt8 × UInt8)
  negated : Bool := false
  deriving DecidableEq, Repr

/-- Membership in a class. -/
def ByteClass.mem (k : ByteClass) (c : UInt8) : Bool :=
  (k.ranges.any fun r => r.1 ≤ c && c ≤ r.2) != k.negated

/-- A regular expression. -/
inductive Regex
  /-- The empty expression. -/
  | empty
  /-- One byte of a class. -/
  | one (k : ByteClass)
  | seq (a b : Regex)
  | alt (a b : Regex)
  /-- The capturing group of number `i`. -/
  | group (i : Nat) (r : Regex)
  /-- `r*` -/
  | star (r : Regex) (greedy : Bool)
  /-- `r+` -/
  | plus (r : Regex) (greedy : Bool)
  /-- `r?` -/
  | opt (r : Regex) (greedy : Bool)
  /-- `r{lo,hi}`: at least `lo` and at most `hi` times (`none`: unbounded). -/
  | braces (r : Regex) (lo : Nat) (hi : Option Nat) (greedy : Bool)
  /-- `^` -/
  | bol
  /-- `$` -/
  | eol
  /-- `\b`, or `\B` when not `here`. -/
  | wordEdge (here : Bool)
  /-- `(?=r)`, or `(?!r)` when not `ahead`. -/
  | look (ahead : Bool) (r : Regex)
  /-- `\i` -/
  | backref (i : Nat)
  deriving DecidableEq, Repr

namespace Regex

/-- A literal byte. -/
def lit (c : UInt8) : Regex := one ⟨[(c, c)], false⟩

/-- `.`: any byte but LF and CR. -/
def dot : Regex := one ⟨[(10, 10), (13, 13)], true⟩

/-- One thing after the other. -/
def ofTerms : List Regex → Regex := List.foldr seq empty

/-- The bytes of a text. -/
def ofText (s : String) : List Regex := (ascii s).map lit

/-- `\d+` -/
def digits : Regex := plus (one ⟨[(48, 57)], false⟩) true

/-- The number of loops. What is repeated in braces is copied, and there is a loop behind the last
    copy, or each copy that may be left out has one. -/
def loops : Regex → Nat
  | seq a b | alt a b => loops a + loops b
  | star r _ | plus r _ | opt r _ => loops r + 1
  | braces r lo none _ => (lo + 1) * loops r + 1
  | braces r lo (some hi) _ => hi * loops r + (hi - lo)
  | group _ r | look _ r => loops r
  | _ => 0

/-! ## Matching -/

/-- A place in the subject: its index, the byte before it and what follows. -/
structure Cursor where
  idx : Nat
  prev : Option UInt8
  rest : Bytes
  deriving DecidableEq, Repr

/-- The start of a subject. -/
def Cursor.start (s : Bytes) : Cursor := ⟨0, none, s⟩

/-- A captured group: its number, where it starts and its text. -/
structure Capture where
  group : Nat
  pos : Nat
  text : Bytes
  deriving DecidableEq, Repr

/-- The captures, the latest first. -/
abbrev Captures := List Capture

/-- How many rounds a loop has begun at the place where it has been reached last. -/
structure Rounds where
  loop : Nat
  place : Nat
  begun : Nat
  deriving DecidableEq, Repr

/-- What is carried along: the captures, the rounds of the loops (the latest first), and whether
    the match is one that has been begun at the start of the subject. -/
structure Trail where
  caps : Captures := []
  rounds : List Rounds := []
  fresh : Bool := true
  deriving DecidableEq, Repr

/-- The rounds that a loop has begun at a cursor. -/
def Trail.begun (p : Trail) (loop : Nat) (c : Cursor) : Nat :=
  match p.rounds.find? fun n => n.loop = loop with
  | none => 0
  | some n => if n.place = c.idx then n.begun else 0

/-- Another round is begun. -/
def Trail.begin (p : Trail) (loop : Nat) (c : Cursor) : Trail :=
  { p with rounds := ⟨loop, c.idx, p.begun loop c + 1⟩ :: p.rounds }

/-- A loop may begin another round. -/
def Trail.mayBegin (p : Trail) (loop : Nat) (c : Cursor) : Bool := p.begun loop c < 2

/-- What has to match next. -/
abbrev Cont := Cursor → Trail → Option (Cursor × Trail)

/-- A matcher: from a cursor on, followed by a continuation. -/
abbrev Matcher := Cursor → Trail → Cont → Option (Cursor × Trail)

/-- `\w` -/
def isWord (c : UInt8) : Bool :=
  isDigit c || (65 ≤ c && c ≤ 90) || (97 ≤ c && c ≤ 122) || c = 95

/-- The cursor stands between a word byte and a byte that is not one. -/
def atWordEdge (c : Cursor) : Bool :=
  (c.prev.any isWord) != (c.rest.head?.any isWord)

/-- The cursor `n` bytes further. -/
def Cursor.skip (c : Cursor) : Nat → Cursor
  | 0 => c
  | n + 1 =>
    match c.rest with
    | [] => c
    | b :: rest => Cursor.skip ⟨c.idx + 1, some b, rest⟩ n

/-- The rounds of a loop. The fuel bounds them: at each place there are two at most. -/
def repeatFrom (body : Matcher) (loop : Nat) (greedy : Bool) : Nat → Matcher
  | 0, _, _, _ => none
  | fuel + 1, c, p, k =>
    let more :=
      if p.mayBegin loop c then
        body c (p.begin loop c) fun c' p' => repeatFrom body loop greedy fuel c' p' k
      else none
    if greedy then more <|> k c p else k c p <|> more

/-- So many copies, one behind the other, numbered from `j` on. -/
def repeatCopies (body : Nat → Matcher) : Nat → Nat → Matcher
  | 0, _, c, p, k => k c p
  | n + 1, j, c, p, k => body j c p fun c' p' => repeatCopies body n (j + 1) c' p' k

/-- So many copies at most. The loop of copy `j` has the number `loop + j`. -/
def repeatUpTo (body : Nat → Matcher) (loop : Nat) (greedy : Bool) : Nat → Nat → Matcher
  | 0, _, c, p, k => k c p
  | n + 1, j, c, p, k =>
    let more :=
      if p.mayBegin (loop + j) c then
        body j c (p.begin (loop + j) c) fun c' p' => repeatUpTo body loop greedy n (j + 1) c' p' k
      else none
    if greedy then more <|> k c p else k c p <|> more

/-- How many rounds there can be from a cursor on. -/
def roundLimit (c : Cursor) : Nat := 2 * c.rest.length + 3

/-- Where an assertion takes its place to be: a match that has been begun at the start of the
    subject makes it forget what is before it. -/
def lookFrom (c : Cursor) (p : Trail) : Cursor := if p.fresh then { c with prev := none } else c

/-- Matching an expression at a cursor. Its loops are numbered from `i` on. -/
def run : Regex → Nat → Matcher
  | empty, _, c, p, k => k c p
  | one cls, _, c, p, k =>
    match c.rest with
    | [] => none
    | b :: rest => if cls.mem b then k ⟨c.idx + 1, some b, rest⟩ p else none
  | seq a b, i, c, p, k => run a i c p fun c' p' => run b (i + a.loops) c' p' k
  | alt a b, i, c, p, k => run a i c p k <|> run b (i + a.loops) c p k
  | group n r, i, c, p, k =>
    run r i c p fun c' p' =>
      k c' { p' with caps := ⟨n, c.idx, c.rest.take (c'.idx - c.idx)⟩ :: p'.caps }
  | star r greedy, i, c, p, k => repeatFrom (run r (i + 1)) i greedy (roundLimit c) c p k
  | plus r greedy, i, c, p, k =>
    run r (i + 1) c p fun c' p' => repeatFrom (run r (i + 1)) i greedy (roundLimit c') c' p' k
  | opt r greedy, i, c, p, k =>
    let more := if p.mayBegin i c then run r (i + 1) c (p.begin i c) k else none
    if greedy then more <|> k c p else k c p <|> more
  | braces r lo hi greedy, i, c, p, k =>
    let copy := fun j => run r (i + j * r.loops)
    repeatCopies copy lo 0 c p fun c' p' =>
      match hi with
      | none =>
        repeatFrom (copy lo) (i + (lo + 1) * r.loops) greedy (roundLimit c') c' p' k
      | some hi => repeatUpTo copy (i + hi * r.loops) greedy (hi - lo) lo c' p' k
  | bol, _, c, p, k => if c.prev = none then k c p else none
  | eol, _, c, p, k => if c.rest = [] then k c p else none
  | wordEdge here, _, c, p, k => if atWordEdge c = here then k c p else none
  | look ahead r, i, c, p, k =>
    -- the counts start anew inside, and are as before behind it
    match run r i (lookFrom c p) { p with rounds := [] } fun c' p' => some (c', p') with
    | some (_, p') => if ahead then k c { p with caps := p'.caps } else none
    | none => if ahead then none else k c p
  | backref n, _, c, p, k =>
    match p.caps.find? fun q => q.group = n with
    | none => none
    | some q =>
      if q.text.isPrefixOf c.rest then k (c.skip q.text.length) p else none

/-- A match: where it starts, its text, its captures. -/
structure Match where
  pos : Nat
  text : Bytes
  caps : Captures
  deriving DecidableEq, Repr

/-- The text captured by a group: empty when the group took no part. -/
def Match.sub (m : Match) (i : Nat) : Bytes :=
  if i = 0 then m.text
  else match m.caps.find? fun p => p.group = i with
    | none => []
    | some p => p.text

/-- Where a match ends. -/
def Match.stop (m : Match) : Nat := m.pos + m.text.length

/-- The match at a cursor and the cursor behind it; when `nonempty`, only one that
    moves. -/
def matchHere (r : Regex) (nonempty : Bool) (c : Cursor) : Option (Match × Cursor) :=
  match run r 0 c { fresh := c.prev.isNone } fun c' p =>
      if nonempty ∧ c'.idx = c.idx then none else some (c', p) with
  | none => none
  | some (c', p) => some (⟨c.idx, c.rest.take (c'.idx - c.idx), p.caps⟩, c')

/-- The leftmost match from a place on. -/
def searchFrom (r : Regex) (idx : Nat) (prev : Option UInt8) : Bytes → Option (Match × Cursor)
  | [] => matchHere r false ⟨idx, prev, []⟩
  | b :: rest =>
    match matchHere r false ⟨idx, prev, b :: rest⟩ with
    | some m => some m
    | none => searchFrom r (idx + 1) (some b) rest

/-- `std::regex_search`: the leftmost match. -/
def search (r : Regex) (s : Bytes) : Option Match := (searchFrom r 0 none s).map Prod.fst

/-! ## Replacing -/

/-- The matches after one that ended at the cursor (an empty one when
    `wasEmpty`), as `std::regex_iterator` visits them: after an empty match, first
    a match that moves is looked for at the same place. -/
def matchesAfter (r : Regex) : Nat → Bool → Cursor → List Match
  | 0, _, _ => []
  | fuel + 1, false, c =>
    match searchFrom r c.idx c.prev c.rest with
    | none => []
    | some (m, c') => m :: matchesAfter r fuel (m.text = []) c'
  | fuel + 1, true, c =>
    match c.rest with
    | [] => []
    | b :: rest =>
      match matchHere r true c with
      | some (m, c') => m :: matchesAfter r fuel false c'
      | none => matchesAfter r fuel false ⟨c.idx + 1, some b, rest⟩

/-- All the matches in a subject, without overlaps. -/
def allMatches (r : Regex) (s : Bytes) : List Match :=
  matchesAfter r (2 * s.length + 2) false (Cursor.start s)

/-- The expansion of a replacement format for a match: `$$`, `$&`, `$n` and `$nn`,
    and the text before (since the previous match) and after the match. -/
def expand (m : Match) (groups : Nat) (before after : Bytes) : Bytes → Bytes
  | [] => []
  | [c] => [c]
  | c :: d :: fmt =>
    if c = 36 then
      if d = 36 then 36 :: expand m groups before after fmt
      else if d = 38 then m.text ++ expand m groups before after fmt
      else if d = 96 then before ++ expand m groups before after fmt
      else if d = 39 then after ++ expand m groups before after fmt
      else if isDigit d then
        match fmt with
        | [] => if digitValue d ≤ groups then m.sub (digitValue d) else []
        | e :: fmt' =>
          if isDigit e then
            (if 10 * digitValue d + digitValue e ≤ groups then
              m.sub (10 * digitValue d + digitValue e) else []) ++
              expand m groups before after fmt'
          else (if digitValue d ≤ groups then m.sub (digitValue d) else []) ++
            expand m groups before after (e :: fmt')
      else 36 :: expand m groups before after (d :: fmt)
    else c :: expand m groups before after (d :: fmt)

/-- A format without a dollar sign stands for itself. -/
theorem expand_of_not_mem {m : Match} {n : Nat} {before after new : Bytes} (h : 36 ∉ new) :
    expand m n before after new = new := by
  induction new with
  | nil => rfl
  | cons c new ih =>
    rw [List.mem_cons, not_or] at h
    rcases new with _ | ⟨d, new⟩
    · rfl
    · unfold expand
      rw [if_neg (Ne.symm h.1), ih h.2]

/-- The number of capturing groups. -/
def groups : Regex → Nat
  | seq a b | alt a b => groups a + groups b
  | group _ r => groups r + 1
  | star r _ | plus r _ | opt r _ | braces r _ _ _ | look _ r => groups r
  | _ => 0

/-- The subject from index `last` on with the matches replaced by the format. -/
def splice (fmt : Bytes) (n : Nat) (s : Bytes) (last : Nat) : List Match → Bytes
  | [] => s.drop last
  | m :: ms =>
    (s.take m.pos).drop last ++
      expand m n ((s.take m.pos).drop last) (s.drop m.stop) fmt ++
      splice fmt n s m.stop ms

/-- `std::regex_replace`. -/
def replace (r : Regex) (fmt s : Bytes) : Bytes := splice fmt r.groups s 0 (r.allMatches s)

end Regex

end Ecma

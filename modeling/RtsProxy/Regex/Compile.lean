import RtsProxy.Regex.Basic

/-!
# Compiling regular expressions

The reader of the ECMAScript grammar, as the constructor of `std::regex` has it
(libstdc++): it throws `regex_error` for unbalanced parentheses and brackets, for
a quantifier with nothing to repeat, for bad braces, ranges, classes, escapes and
back references. Quantifiers may be stacked, `]` and `}` stand for themselves
outside their constructs. Collating elements are limited to single bytes.

* `compile`: the expression of a pattern text.
-/

namespace Ecma

open Text

namespace Regex

/-! ## Classes of bytes -/

/-- The ranges of a named class (`[:name:]`), if there is one of that name. -/
def namedClass (name : Bytes) : Option (List (UInt8 × UInt8)) :=
  let table : List (String × List (UInt8 × UInt8)) :=
    [("d", [(48, 57)]), ("digit", [(48, 57)]),
     ("w", [(48, 57), (65, 90), (95, 95), (97, 122)]),
     ("s", [(9, 13), (32, 32)]), ("space", [(9, 13), (32, 32)]),
     ("alnum", [(48, 57), (65, 90), (97, 122)]), ("alpha", [(65, 90), (97, 122)]),
     ("blank", [(9, 9), (32, 32)]), ("cntrl", [(0, 31), (127, 127)]),
     ("graph", [(33, 126)]), ("lower", [(97, 122)]), ("print", [(32, 126)]),
     ("punct", [(33, 47), (58, 64), (91, 96), (123, 126)]),
     ("upper", [(65, 90)]), ("xdigit", [(48, 57), (65, 70), (97, 102)])]
  (table.find? fun e => ascii e.1 = lower name).map Prod.snd

/-- The ranges of `\d`, `\w`, `\s` and of their complements `\D`, `\W`, `\S`. -/
def escapedClass (c : UInt8) : Option (List (UInt8 × UInt8)) :=
  match c with
  | 100 => some [(48, 57)]
  | 68 => some [(0, 47), (58, 255)]
  | 119 => some [(48, 57), (65, 90), (95, 95), (97, 122)]
  | 87 => some [(0, 47), (58, 64), (91, 94), (96, 96), (123, 255)]
  | 115 => some [(9, 13), (32, 32)]
  | 83 => some [(0, 8), (14, 31), (33, 255)]
  | _ => none

/-- The range from `a` to `b` in the order of `char`, which is signed. -/
def charRange (a b : UInt8) : Option (List (UInt8 × UInt8)) :=
  if (128 ≤ a) = (128 ≤ b) then (if a ≤ b then some [(a, b)] else none)
  else if 128 ≤ a then some [(a, 255), (0, b)]
  else none

/-- The value of `n` hexadecimal digits, and what follows them. -/
def hexEscape : Nat → Nat → Bytes → Except Exn (UInt8 × Bytes)
  | 0, v, s => .ok (v.toUInt8, s)
  | _ + 1, _, [] => .error .regexError
  | n + 1, v, c :: s =>
    if isDigit c then hexEscape n (16 * v + digitValue c) s
    else if 65 ≤ c ∧ c ≤ 70 then hexEscape n (16 * v + (c.toNat - 55)) s
    else if 97 ≤ c ∧ c ≤ 102 then hexEscape n (16 * v + (c.toNat - 87)) s
    else .error .regexError

/-- What a backslash escapes. -/
inductive Escape
  | char (c : UInt8)
  | cls (ranges : List (UInt8 × UInt8))
  | wordEdge (here : Bool)
  | backref (i : Nat)
  deriving DecidableEq, Repr

/-- The escape behind a backslash, and what follows it. -/
def readEscape (inBracket : Bool) : Bytes → Except Exn (Escape × Bytes)
  | [] => .error .regexError
  | c :: s =>
    match c with
    | 48 => .ok (.char 0, s)
    | 102 => .ok (.char 12, s)
    | 110 => .ok (.char 10, s)
    | 114 => .ok (.char 13, s)
    | 116 => .ok (.char 9, s)
    | 118 => .ok (.char 11, s)
    | 98 => .ok (if inBracket then .char 8 else .wordEdge true, s)
    | 66 => .ok (.wordEdge false, s)
    | 99 => match s with
      | [] => .error .regexError
      | d :: s => .ok (.char d, s)
    | 120 => (hexEscape 2 0 s).map fun p => (.char p.1, p.2)
    | 117 => (hexEscape 4 0 s).map fun p => (.char p.1, p.2)
    | _ =>
      match escapedClass c with
      | some rs => .ok (.cls rs, s)
      | none =>
        if isDigit c then
          .ok (.backref (natOfDigits (c :: s.takeWhile isDigit)), s.dropWhile isDigit)
        else .ok (.char c, s)

/-! ## Bracket expressions -/

/-- The item last read in a bracket expression, from which a range may start. -/
inductive Last
  | nothing
  | char (c : UInt8)
  | cls
  deriving DecidableEq, Repr

/-- The ranges with the pending character of `last` added. -/
def Last.flush (last : Last) (rs : List (UInt8 × UInt8)) : List (UInt8 × UInt8) :=
  match last with
  | char c => (c, c) :: rs
  | _ => rs

/-- The name up to a closing `:]` (or `.]`, `=]`), and what follows it. -/
def bracketName (close : UInt8) : Bytes → Option (Bytes × Bytes)
  | [] => none
  | [_] => none
  | c :: d :: s =>
    if c = close ∧ d = 93 then some ([], s)
    else (bracketName close (d :: s)).map fun p => (c :: p.1, p.2)

/-- A single character of a bracket expression (not a dash), if one is next. -/
def bracketChar : Bytes → Except Exn (Option (UInt8 × Bytes))
  | [] => .error .regexError
  | c :: s =>
    if c = 93 ∨ c = 45 then .ok none
    else if c = 92 then do
      match ← readEscape true s with
      | (.char d, s) => .ok (some (d, s))
      | _ => .ok none
    else if c = 91 then
      match s with
      | d :: _ => .ok (if d = 58 ∨ d = 46 ∨ d = 61 then none else some (c, s))
      | [] => .error .regexError
    else .ok (some (c, s))

/-- The rest of a bracket expression: its ranges, and what follows the bracket. -/
def bracketFrom : Nat → List (UInt8 × UInt8) → Last → Bytes →
    Except Exn (List (UInt8 × UInt8) × Bytes)
  | 0, _, _, _ => .error .regexError
  | fuel + 1, rs, last, s => do
    match ← bracketChar s with
    | some (c, s) => bracketFrom fuel (last.flush rs) (.char c) s
    | none =>
      match s with
      | 93 :: s => .ok (last.flush rs, s)
      | 45 :: 93 :: s => .ok ((45, 45) :: last.flush rs, s)
      | 45 :: s =>
        match last with
        | .cls => .error .regexError
        | .nothing => bracketFrom fuel rs (.char 45) s
        | .char c =>
          match ← bracketChar s with
          | some (d, s) =>
            match charRange c d with
            | some r => bracketFrom fuel (r ++ rs) .nothing s
            | none => .error .regexError
          | none =>
            match s with
            | 45 :: s =>
              match charRange c 45 with
              | some r => bracketFrom fuel (r ++ rs) .nothing s
              | none => .error .regexError
            | _ => .error .regexError
      | 91 :: 58 :: s =>
        match bracketName 58 s with
        | none => .error .regexError
        | some (name, s) =>
          match namedClass name with
          | none => .error .regexError
          | some r => bracketFrom fuel (r ++ last.flush rs) .cls s
      | 91 :: d :: s =>
        -- `[.x.]` and `[=x=]`: a single collating element
        match bracketName d s with
        | some ([c], s) =>
          if d = 46 then bracketFrom fuel (last.flush rs) (.char c) s
          else bracketFrom fuel ((c, c) :: last.flush rs) .cls s
        | _ => .error .regexError
      | 92 :: s =>
        match ← readEscape true s with
        | (.cls r, s) => bracketFrom fuel (r ++ last.flush rs) .cls s
        | _ => .error .regexError
      | _ => .error .regexError

/-- A bracket expression, behind its opening bracket. -/
def readBracket (s : Bytes) : Except Exn (Regex × Bytes) :=
  match s with
  | 94 :: s => (start s).map fun p => (one ⟨p.1, true⟩, p.2)
  | s => (start s).map fun p => (one ⟨p.1, false⟩, p.2)
where
  /-- A dash in front stands for itself. -/
  start : Bytes → Except Exn (List (UInt8 × UInt8) × Bytes)
    | 45 :: s => bracketFrom (s.length + 1) [] (.char 45) s
    | s => bracketFrom (s.length + 1) [] .nothing s

/-! ## Quantifiers -/

/-- The bounds of a braced quantifier, behind its brace. -/
def readBraces (s : Bytes) : Except Exn (Nat × Option Nat × Bytes) :=
  let ds := s.takeWhile isDigit
  if ds = [] then .error .regexError
  else match s.dropWhile isDigit with
    | 125 :: s => .ok (natOfDigits ds, some (natOfDigits ds), s)
    | 44 :: s =>
      let es := s.takeWhile isDigit
      match s.dropWhile isDigit with
      | 125 :: s =>
        if es = [] then .ok (natOfDigits ds, none, s)
        else if natOfDigits ds ≤ natOfDigits es then
          .ok (natOfDigits ds, some (natOfDigits es), s)
        else .error .regexError
      | _ => .error .regexError
    | _ => .error .regexError

/-- A quantifier applied, lazy when a `?` follows it. -/
def quantified (quantify : Bool → Regex) : Bytes → Regex × Bytes
  | 63 :: s => (quantify false, s)
  | s => (quantify true, s)

/-- The quantifiers behind an atom. -/
def readQuantifiers : Nat → Regex → Bytes → Except Exn (Regex × Bytes)
  | 0, _, _ => .error .regexError
  | fuel + 1, r, s =>
    match s with
    | 42 :: s => let (r, s) := quantified (star r) s; readQuantifiers fuel r s
    | 43 :: s => let (r, s) := quantified (plus r) s; readQuantifiers fuel r s
    | 63 :: s => let (r, s) := quantified (opt r) s; readQuantifiers fuel r s
    | 123 :: s => do
      let (lo, hi, s) ← readBraces s
      let (r, s) := quantified (braces r lo hi) s
      readQuantifiers fuel r s
    | s => .ok (r, s)

/-! ## Expressions -/

/-- The groups read so far: how many, and which of them are still open. -/
structure Groups where
  count : Nat
  opened : List Nat
  deriving DecidableEq, Repr

/-- A byte that ends an alternative, or cannot start a term: `)`, `|` and the
    quantifiers. -/
def endsTerms (c : UInt8) : Bool := c = 41 || c = 124 || c = 42 || c = 43 || c = 63 || c = 123

mutual

/-- A disjunction: alternatives separated by bars. -/
def readDisjunction : Nat → Groups → Bytes → Except Exn (Regex × Groups × Bytes)
  | 0, _, _ => .error .regexError
  | fuel + 1, g, s => do
    let (a, g, s) ← readAlternative fuel g s
    match s with
    | 124 :: s =>
      let (b, g, s) ← readDisjunction fuel g s
      .ok (alt a b, g, s)
    | s => .ok (a, g, s)

/-- An alternative: a sequence of terms. -/
def readAlternative : Nat → Groups → Bytes → Except Exn (Regex × Groups × Bytes)
  | 0, _, _ => .error .regexError
  | fuel + 1, g, s =>
    match s with
    | [] => .ok (empty, g, [])
    | c :: s' =>
      if endsTerms c then .ok (empty, g, c :: s')
      else do
        let (t, g, s) ← readTerm fuel g c s'
        let (r, g, s) ← readAlternative fuel g s
        .ok (seq t r, g, s)

/-- A term: an assertion, or an atom with its quantifiers. -/
def readTerm : Nat → Groups → UInt8 → Bytes → Except Exn (Regex × Groups × Bytes)
  | 0, _, _, _ => .error .regexError
  | fuel + 1, g, c, s =>
    if c = 94 then .ok (bol, g, s)
    else if c = 36 then .ok (eol, g, s)
    else if c = 46 then do
      let (r, s) ← readQuantifiers (s.length + 1) dot s
      .ok (r, g, s)
    else if c = 91 then do
      let (r, s) ← readBracket s
      let (r, s) ← readQuantifiers (s.length + 1) r s
      .ok (r, g, s)
    else if c = 92 then do
      match ← readEscape false s with
      | (.wordEdge here, s) => .ok (wordEdge here, g, s)
      | (.char d, s) =>
        let (r, s) ← readQuantifiers (s.length + 1) (lit d) s
        .ok (r, g, s)
      | (.cls rs, s) =>
        let (r, s) ← readQuantifiers (s.length + 1) (one ⟨rs, false⟩) s
        .ok (r, g, s)
      | (.backref i, s) =>
        if i ≤ g.count ∧ i ∉ g.opened then
          let (r, s) ← readQuantifiers (s.length + 1) (backref i) s
          .ok (r, g, s)
        else .error .regexError
    else if c = 40 then
      match s with
      | 63 :: 61 :: s => do
        let (r, g, s) ← readGroup fuel g s
        .ok (look true r, g, s)
      | 63 :: 33 :: s => do
        let (r, g, s) ← readGroup fuel g s
        .ok (look false r, g, s)
      | 63 :: 58 :: s => do
        let (r, g, s) ← readGroup fuel g s
        let (r, s) ← readQuantifiers (s.length + 1) (seq empty r) s
        .ok (r, g, s)
      | 63 :: _ => .error .regexError
      | s => do
        let i := g.count + 1
        let (r, g', s) ← readGroup fuel ⟨i, i :: g.opened⟩ s
        let (r, s) ← readQuantifiers (s.length + 1) (group i r) s
        .ok (r, ⟨g'.count, g.opened⟩, s)
    else do
      let (r, s) ← readQuantifiers (s.length + 1) (lit c) s
      .ok (r, g, s)

/-- The inside of a group, up to its closing parenthesis. -/
def readGroup : Nat → Groups → Bytes → Except Exn (Regex × Groups × Bytes)
  | 0, _, _ => .error .regexError
  | fuel + 1, g, s => do
    match ← readDisjunction fuel g s with
    | (r, g, 41 :: s) => .ok (r, g, s)
    | _ => .error .regexError

end

/-- How many states the automaton of an expression has. What is repeated in braces is copied; a
    state that only links others counts as well. -/
def states : Regex → Nat
  | seq a b => states a + states b
  | alt a b => states a + states b + 2
  | group _ r | look _ r => states r + 2
  | star r _ | plus r _ => states r + 1
  | opt r _ => states r + 2
  | braces r lo none _ => (lo + 1) * states r + 2
  | braces r lo (some hi) _ => lo * states r + (hi - lo) * (states r + 1) + 2
  | _ => 1

/-- How many states are made for it: of what is repeated in braces, the original is left over. -/
def madeStates : Regex → Nat
  | seq a b => madeStates a + madeStates b
  | alt a b => madeStates a + madeStates b + 2
  | group _ r | look _ r => madeStates r + 2
  | star r _ | plus r _ => madeStates r + 1
  | opt r _ => madeStates r + 2
  | braces r lo hi greedy => madeStates r + states (braces r lo hi greedy)
  | _ => 1

/-- The most states an automaton may have; three of them belong to every match. -/
def stateLimit : Nat := 100000

/-- `std::regex`: the expression of a pattern, or `regex_error`. -/
def compile (s : Bytes) : Except Exn Regex := do
  match ← readDisjunction (4 * s.length + 4) ⟨0, []⟩ s with
  | (r, _, []) => if r.madeStates + 3 ≤ stateLimit then .ok r else .error .regexError
  | _ => .error .regexError

end Regex

end Ecma

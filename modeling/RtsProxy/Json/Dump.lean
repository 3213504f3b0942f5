import RtsProxy.Json.Decode

/-!
# JSON documents

The serializer of the JSON library, as `dump` runs it with its default arguments: without
indentation, characters that are not ASCII as they are, and an exception for a text that is no
UTF-8.

* `dumpEscaped_of_isUtf8`, `dumpEscaped_eq_invalidByte_iff`: what becomes of a text;
* `dump_eq_ok_iff`: a document is written exactly if its texts are UTF-8;
* `readDocument_of_dump`: what is written is UTF-8, and is read back as the document.
-/

open Text

/-- The documents that are written here. -/
inductive Json
  | unsigned (n : Nat)
  | string (s : Bytes)
  | array (items : List Json)
  | object (fields : List (Bytes × Json))

/-- `type_error` 316: a byte that no text of UTF-8 has there, or a text that ends within a
    character. -/
inductive Json.TypeError
  | invalidByte (index : Nat) (byte : UInt8)
  | incomplete (last : UInt8)
  deriving DecidableEq, Repr

namespace Json

/-! ## Texts -/

/-- The text that is being written: the decoder, what the output has been given, and
    `string_buffer`. -/
structure Escaper where
  decoder : Decoder := {}
  written : Bytes := []
  buffer : Bytes := []

/-- The bytes of `string_buffer`. -/
def stringBufferSize : Nat := 512

/-- What has been written so far. -/
def Escaper.text (e : Escaper) : Bytes := e.written ++ e.buffer

/-- The buffer is given to the output if another character might not find room in it. -/
def Escaper.flush (e : Escaper) : Escaper :=
  if stringBufferSize - e.buffer.length < 13 then { e with written := e.text, buffer := [] } else e

/-- A digit of `%04x`. -/
def hexDigit (n : Nat) : UInt8 := (if n < 10 then n + 48 else n + 87).toUInt8

/-- What is written when a code point is complete, for its last byte. -/
def escape (codepoint : UInt32) (byte : UInt8) : Bytes :=
  if codepoint = 0x08 then ascii "\\b"
  else if codepoint = 0x09 then ascii "\\t"
  else if codepoint = 0x0A then ascii "\\n"
  else if codepoint = 0x0C then ascii "\\f"
  else if codepoint = 0x0D then ascii "\\r"
  else if codepoint = 0x22 then ascii "\\\""
  else if codepoint = 0x5C then ascii "\\\\"
  else if codepoint ≤ 0x1F then
    let n := codepoint.toNat
    ascii "\\u" ++ [hexDigit (n / 4096 % 16), hexDigit (n / 256 % 16), hexDigit (n / 16 % 16),
      hexDigit (n % 16)]
  else [byte]

/-- One turn of the loop of `dump_escaped`. -/
def escapeByte (index : Nat) (byte : UInt8) (e : Escaper) : Except TypeError Escaper :=
  let decoder := decode e.decoder byte
  if decoder.state = 0 then
    .ok ({ e with decoder := decoder, buffer := e.buffer ++ escape decoder.codepoint byte } :
      Escaper).flush
  else if decoder.state = 1 then .error (.invalidByte index byte)
  else .ok { e with decoder := decoder, buffer := e.buffer ++ [byte] }

/-- The loop, from an index on. -/
def escapeFrom : Nat → Bytes → Escaper → Except TypeError Escaper
  | _, [], e => .ok e
  | index, byte :: s, e => (escapeByte index byte e).bind (escapeFrom (index + 1) s)

/-- `dump_escaped` -/
def dumpEscaped (s : Bytes) : Except TypeError Bytes :=
  (escapeFrom 0 s {}).bind fun e =>
    if e.decoder.state = 0 then .ok e.text else .error (.incomplete (s.getLastD 0))

/-! ## Numbers -/

/-- `count_digits` -/
def countDigits (x : Nat) : Nat :=
  if x < 10 then 1
  else if x < 100 then 2
  else if x < 1000 then 3
  else if x < 10000 then 4
  else countDigits (x / 10000) + 4

/-- The digit of a number below ten. -/
def digit (n : Nat) : UInt8 := (n + 48).toUInt8

/-- The digits are put into the buffer from its end, two at a time (`digits_to_99`). -/
def fillDigits (x : Nat) (done : Bytes) : Bytes :=
  if 100 ≤ x then fillDigits (x / 100) (digit (x % 100 / 10) :: digit (x % 10) :: done)
  else if 10 ≤ x then digit (x / 10) :: digit (x % 10) :: done
  else digit x :: done

/-- `dump_integer` of an unsigned number: the last bytes of the buffer, as many as `count_digits`
    says, whether they have all been filled or not. -/
def dumpInteger (x : Nat) : Bytes :=
  if x = 0 then ascii "0"
  else List.replicate (countDigits x - (fillDigits x []).length) 0 ++ fillDigits x []

/-! ## Documents -/

/-- A text between its quotation marks. -/
def dumpString (s : Bytes) : Except TypeError Bytes :=
  (dumpEscaped s).map fun text => ascii "\"" ++ text ++ ascii "\""

mutual

/-- `dump` -/
def dump : Json → Except TypeError Bytes
  | .unsigned n => .ok (dumpInteger n)
  | .string s => dumpString s
  | .array items => (dumpItems items).map fun text => ascii "[" ++ text ++ ascii "]"
  | .object fields => (dumpFields fields).map fun text => ascii "\x7b" ++ text ++ ascii "\x7d"

/-- The elements of an array, with commas between them. -/
def dumpItems : List Json → Except TypeError Bytes
  | [] => .ok []
  | [x] => dump x
  | x :: y :: items => (dump x).bind fun text =>
    (dumpItems (y :: items)).map fun texts => text ++ ascii "," ++ texts

/-- The fields of an object, with commas between them. -/
def dumpFields : List (Bytes × Json) → Except TypeError Bytes
  | [] => .ok []
  | [(key, x)] => (dumpString key).bind fun name =>
    (dump x).map fun text => name ++ ascii ":" ++ text
  | (key, x) :: y :: fields => (dumpString key).bind fun name => (dump x).bind fun text =>
    (dumpFields (y :: fields)).map fun texts => name ++ ascii ":" ++ text ++ ascii "," ++ texts

end

mutual

/-- The texts of a document, the names of its fields among them. -/
def texts : Json → List Bytes
  | .unsigned _ => []
  | .string s => [s]
  | .array items => itemTexts items
  | .object fields => fieldTexts fields

@[inherit_doc texts]
def itemTexts : List Json → List Bytes
  | [] => []
  | x :: items => texts x ++ itemTexts items

@[inherit_doc texts]
def fieldTexts : List (Bytes × Json) → List Bytes
  | [] => []
  | (key, x) :: fields => key :: texts x ++ fieldTexts fields

end

@[simp] theorem forall_texts_unsigned {P : Bytes → Prop} {n : Nat} :
    (∀ s ∈ (Json.unsigned n).texts, P s) ↔ True := by
  simp [texts]

@[simp] theorem forall_texts_string {P : Bytes → Prop} {t : Bytes} :
    (∀ s ∈ (Json.string t).texts, P s) ↔ P t := by
  simp [texts]

@[simp] theorem forall_texts_array {P : Bytes → Prop} {items : List Json} :
    (∀ s ∈ (Json.array items).texts, P s) ↔ ∀ x ∈ items, ∀ s ∈ x.texts, P s := by
  rw [texts]
  induction items with
  | nil => simp [itemTexts]
  | cons x items ih => rw [itemTexts, List.forall_mem_append, List.forall_mem_cons, ih]

@[simp] theorem forall_texts_object {P : Bytes → Prop} {fields : List (Bytes × Json)} :
    (∀ s ∈ (Json.object fields).texts, P s) ↔
      ∀ field ∈ fields, P field.1 ∧ ∀ s ∈ field.2.texts, P s := by
  rw [texts]
  induction fields with
  | nil => simp [fieldTexts]
  | cons field fields ih =>
    obtain ⟨key, x⟩ := field
    rw [fieldTexts, List.cons_append, List.forall_mem_cons, List.forall_mem_append,
      List.forall_mem_cons, ih, and_assoc]

/-! ## Reading -/

/-- What a digit of an escaped code point stands for. -/
def hexValue (c : UInt8) : Option Nat :=
  if isDigit c then some (c.toNat - 48)
  else if 97 ≤ c ∧ c ≤ 102 then some (c.toNat - 87)
  else if 65 ≤ c ∧ c ≤ 70 then some (c.toNat - 55)
  else none

/-- The character of an escaped code point; surrogates are none. -/
def unescapeHex (a b c d : UInt8) : Option Bytes := do
  let n := ((← hexValue a) * 16 + (← hexValue b)) * 256 + ((← hexValue c) * 16 + (← hexValue d))
  if n.isValidChar then some (String.utf8EncodeChar (Char.ofNat n)) else none

/-- What stands behind a backslash. -/
def unescape (c : UInt8) : Option UInt8 :=
  [(34, 34), (92, 92), (47, 47), (98, 8), (102, 12), (110, 10), (114, 13), (116, 9)].lookup c

/-- A text up to its quotation mark, and what is behind it. -/
def readString : Bytes → Option (Bytes × Bytes)
  | [] => none
  | c :: s =>
    if c = 34 then some ([], s)
    else if c = 92 then
      match s with
      | 117 :: a :: b :: c :: d :: s => do
        let char ← unescapeHex a b c d
        let (text, rest) ← readString s
        return (char ++ text, rest)
      | c :: s => do
        let char ← unescape c
        let (text, rest) ← readString s
        return (char :: text, rest)
      | [] => none
    else if c < 32 then none
    else do
      let (text, rest) ← readString s
      return (c :: text, rest)

/-- The name of a field, with its colon. -/
def readKey : Bytes → Option (Bytes × Bytes)
  | 34 :: s =>
    match readString s with
    | some (key, 58 :: rest) => some (key, rest)
    | _ => none
  | _ => none

mutual

/-- A document, and what is behind it. The first argument bounds how deep the reader goes. -/
def readValue : Nat → Bytes → Option (Json × Bytes)
  | 0, _ | _, [] => none
  | depth + 1, c :: s =>
    if c = 34 then (readString s).map fun (text, rest) => (.string text, rest)
    else if c = 91 then
      if s.head? = some 93 then some (.array [], s.tail)
      else (readItems depth s).map fun (items, rest) => (.array items, rest)
    else if c = 123 then
      if s.head? = some 125 then some (.object [], s.tail)
      else (readFields depth s).map fun (fields, rest) => (.object fields, rest)
    else if isDigit c then
      some (.unsigned (natOfDigits ((c :: s).takeWhile isDigit)), (c :: s).dropWhile isDigit)
    else none

/-- The elements of an array up to its bracket. -/
def readItems : Nat → Bytes → Option (List Json × Bytes)
  | 0, _ => none
  | depth + 1, s =>
    match readValue depth s with
    | some (x, 44 :: rest) => (readItems depth rest).map fun (items, rest) => (x :: items, rest)
    | some (x, 93 :: rest) => some ([x], rest)
    | _ => none

/-- The fields of an object up to its brace. -/
def readFields : Nat → Bytes → Option (List (Bytes × Json) × Bytes)
  | 0, _ => none
  | depth + 1, s =>
    match readKey s with
    | none => none
    | some (key, rest) =>
      match readValue depth rest with
      | some (x, 44 :: rest) =>
        (readFields depth rest).map fun (fields, rest) => ((key, x) :: fields, rest)
      | some (x, 125 :: rest) => some ([(key, x)], rest)
      | _ => none

end

/-- A text that is a document. -/
def readDocument (s : Bytes) : Option Json :=
  match readValue s.length s with
  | some (doc, []) => some doc
  | _ => none

/-! ## Texts are read back -/

variable {s t w w' : Bytes} {n : Nat} {e e' : Escaper}

/-- What is written is read as a part of a text. -/
def ReadsAs (w s : Bytes) : Prop :=
  ∀ rest, readString (w ++ rest) = (readString rest).map fun (text, rest) => (s ++ text, rest)

theorem readsAs_nil : ReadsAs [] [] := fun rest => by
  simp

theorem ReadsAs.append (h : ReadsAs w s) (h' : ReadsAs w' t) : ReadsAs (w ++ w') (s ++ t) := by
  intro rest
  rw [List.append_assoc, h, h', Option.map_map]
  congr 1
  funext ⟨text, rest⟩
  simp

/-- Most bytes stand for themselves. -/
theorem readsAs_byte {c : UInt8} (hquote : c ≠ 34) (hslash : c ≠ 92) (hcontrol : ¬c < 32) :
    ReadsAs [c] [c] := by
  intro rest
  rw [List.singleton_append, readString.eq_def]
  simp only [if_neg hquote, if_neg hslash, if_neg hcontrol]
  rcases readString rest with _ | ⟨text, rest⟩ <;> rfl

theorem readsAs_bytes (h : ∀ c ∈ s, 128 ≤ c.toNat) : ReadsAs s s := by
  induction s with
  | nil => exact readsAs_nil
  | cons c s ih =>
    obtain ⟨hc, hs⟩ := List.forall_mem_cons.1 h
    refine ReadsAs.append (w := [c]) (s := [c]) (readsAs_byte ?_ ?_ ?_) (ih hs)
    · rintro rfl
      exact absurd hc (by decide)
    · rintro rfl
      exact absurd hc (by decide)
    · exact fun hlt => absurd (lt_of_lt_of_le hlt (by decide : (32 : UInt8) ≤ 128)) (not_lt.2 hc)

theorem readsAs_backslash {c x : UInt8} (hc : c ≠ 117) (h : unescape c = some x) :
    ReadsAs [92, c] [x] := by
  intro rest
  have hread : readString (92 :: c :: rest) = do
      let char ← unescape c
      let (text, rest) ← readString rest
      return (char :: text, rest) := by
    rw [readString, if_neg (by decide), if_pos rfl]
    exact fun _ _ _ _ _ h => absurd h hc
  rw [List.cons_append, List.singleton_append, hread, h]
  rcases readString rest with _ | ⟨text, rest⟩ <;> rfl

theorem readsAs_unicode {a b c d : UInt8} {char : Bytes} (h : unescapeHex a b c d = some char) :
    ReadsAs [92, 117, a, b, c, d] char := by
  intro rest
  have hread : readString (92 :: 117 :: a :: b :: c :: d :: rest) = do
      let char ← unescapeHex a b c d
      let (text, rest) ← readString rest
      return (char ++ text, rest) := by
    rw [readString, if_neg (by decide), if_pos rfl]
  change readString (92 :: 117 :: a :: b :: c :: d :: rest) = _
  rw [hread, h]
  rcases readString rest with _ | ⟨text, rest⟩ <;> rfl

/-- The letters of the short escapes. -/
def escapeLetters : List UInt8 := [98, 116, 110, 102, 114, 34, 92]

/-- What is written for a character of ASCII is read as it. -/
theorem readsAs_escape {c : UInt8} (hc : c.toNat < 128) : ReadsAs (escape c.toUInt32 c) [c] := by
  have hall : ∀ n < 128, (escape (UInt8.ofNat n).toUInt32 (UInt8.ofNat n) = [UInt8.ofNat n] ∧
        UInt8.ofNat n ≠ 34 ∧ UInt8.ofNat n ≠ 92 ∧ ¬UInt8.ofNat n < 32) ∨
      (∃ x ∈ escapeLetters, escape (UInt8.ofNat n).toUInt32 (UInt8.ofNat n) = [92, x] ∧ x ≠ 117 ∧
        unescape x = some (UInt8.ofNat n)) ∨
      (escape (UInt8.ofNat n).toUInt32 (UInt8.ofNat n) =
          [92, 117, 48, 48, hexDigit (n / 16), hexDigit (n % 16)] ∧
        unescapeHex 48 48 (hexDigit (n / 16)) (hexDigit (n % 16)) = some [UInt8.ofNat n]) := by
    decide +kernel
  have h := hall c.toNat hc
  rw [UInt8.ofNat_toNat] at h
  rcases h with ⟨heq, hquote, hslash, hcontrol⟩ | ⟨x, -, heq, hx, hread⟩ | ⟨heq, hread⟩
  · exact heq ▸ readsAs_byte hquote hslash hcontrol
  · exact heq ▸ readsAs_backslash hx hread
  · exact heq ▸ readsAs_unicode hread

/-- It is ASCII itself. -/
theorem isUtf8_escape {c : UInt8} (hc : c.toNat < 128) : IsUtf8 (escape c.toUInt32 c) := by
  -- `List.all` goes through what is written, not through all bytes
  have hall : ∀ n < 128, ((escape (UInt8.ofNat n).toUInt32 (UInt8.ofNat n)).all fun b =>
      decide (b.toNat < 128)) = true := by
    decide +kernel
  have h := hall c.toNat hc
  rw [UInt8.ofNat_toNat, List.all_eq_true] at h
  exact isUtf8_of_ascii fun b hb => of_decide_eq_true (h b hb)

theorem escape_of_le {codepoint : UInt32} {last : UInt8} (h : 128 ≤ codepoint.toNat) :
    escape codepoint last = [last] := by
  have hne : ∀ k : UInt32, k.toNat < 128 → codepoint ≠ k := by
    rintro k hk rfl
    omega
  have hnle : ¬codepoint ≤ 0x1F := fun hle => absurd (UInt32.le_iff_toNat_le.1 hle)
    (not_le.2 (lt_of_lt_of_le (by decide) h))
  rw [escape, if_neg (hne _ (by decide)), if_neg (hne _ (by decide)), if_neg (hne _ (by decide)),
    if_neg (hne _ (by decide)), if_neg (hne _ (by decide)), if_neg (hne _ (by decide)),
    if_neg (hne _ (by decide)), if_neg hnle]

/-! ## The loop over a text -/

@[simp] theorem text_flush (e : Escaper) : e.flush.text = e.text := by
  rw [Escaper.flush]
  split
  · simp [Escaper.text]
  · rfl

@[simp] theorem decoder_flush (e : Escaper) : e.flush.decoder = e.decoder := by
  rw [Escaper.flush]
  split <;> rfl

/-- Within a character the bytes are kept. -/
theorem escapeFrom_inside {init : Bytes} (h : Inside e.decoder init) (i : Nat) (rest : Bytes) :
    escapeFrom i (init ++ rest) e = escapeFrom (i + init.length) rest
      { e with decoder := init.foldl decode e.decoder, buffer := e.buffer ++ init } := by
  induction init generalizing e i with
  | nil => simp
  | cons b init ih =>
    obtain ⟨⟨hzero, hone⟩, h⟩ := h
    have hbyte : escapeByte i b e =
        .ok { e with decoder := decode e.decoder b, buffer := e.buffer ++ [b] } := by
      simp only [escapeByte, if_neg hzero, if_neg hone]
    rw [List.cons_append, escapeFrom, hbyte]
    refine (ih h (i + 1)).trans ?_
    simp [Nat.add_comm, Nat.add_left_comm]

/-- A character is written as what is read as it. -/
theorem escapeFrom_encoded (h : Encoded s n) (he : e.decoder.state = 0) (i : Nat) (rest : Bytes) :
    ∃ e' w, escapeFrom i (s ++ rest) e = escapeFrom (i + s.length) rest e' ∧
      e'.decoder.state = 0 ∧ e'.text = e.text ++ w ∧ ReadsAs w s ∧ IsUtf8 w := by
  obtain ⟨init, last, rfl, ⟨hinside, hstate, hcode⟩, hlong⟩ := decodes_of_encoded h he
  set d := decode (init.foldl decode e.decoder) last with hd
  have hwritten : ReadsAs (init ++ escape d.codepoint last) (init ++ [last]) ∧
      IsUtf8 (init ++ escape d.codepoint last) := by
    by_cases hn : 128 ≤ n
    · rw [escape_of_le (hcode ▸ hn)]
      exact ⟨readsAs_bytes (h.le_of_mem hn), by simpa using h.isUtf8_append isUtf8_nil⟩
    · obtain rfl := hlong.resolve_left hn
      obtain ⟨b, hb, hbn⟩ := h.eq_singleton (not_le.1 hn)
      obtain rfl : last = b := by simpa using hb
      have hcode' : d.codepoint = last.toUInt32 :=
        UInt32.toNat_inj.1 (by rw [hcode, ← hbn, UInt8.toNat_toUInt32])
      rw [List.nil_append, List.nil_append, hcode']
      exact ⟨readsAs_escape (hbn ▸ not_le.1 hn), isUtf8_escape (hbn ▸ not_le.1 hn)⟩
  refine ⟨({ e with decoder := d, buffer := e.buffer ++ init ++ escape d.codepoint last } :
    Escaper).flush, _, ?_, ?_, ?_, hwritten⟩
  · rw [List.append_assoc, escapeFrom_inside hinside, List.singleton_append, escapeFrom, escapeByte]
    simp only [← hd, if_pos hstate, Except.bind, List.length_append, List.length_singleton,
      Nat.add_assoc]
  · rw [decoder_flush]
    exact hstate
  · rw [text_flush]
    simp [Escaper.text]

/-- A text of UTF-8 is written as what is read as it, and is UTF-8 again. -/
theorem escapeFrom_of_isUtf8 (hs : IsUtf8 s) : ∀ {e : Escaper} (_ : e.decoder.state = 0) (i : Nat),
    ∃ e' w, escapeFrom i s e = .ok e' ∧ e'.decoder.state = 0 ∧ e'.text = e.text ++ w ∧
      ReadsAs w s ∧ IsUtf8 w := by
  refine isUtf8_induction (P := fun s => ∀ {e : Escaper} (_ : e.decoder.state = 0) (i : Nat),
    ∃ e' w, escapeFrom i s e = .ok e' ∧ e'.decoder.state = 0 ∧ e'.text = e.text ++ w ∧
      ReadsAs w s ∧ IsUtf8 w) ?_ ?_ hs
  · exact fun {e} he i => ⟨e, [], rfl, he, (List.append_nil _).symm, readsAs_nil, isUtf8_nil⟩
  · intro s t n hs _ ih e he i
    obtain ⟨e₁, w₁, hrun₁, he₁, htext₁, hreads₁, hutf₁⟩ := escapeFrom_encoded hs he i t
    obtain ⟨e₂, w₂, hrun₂, he₂, htext₂, hreads₂, hutf₂⟩ := ih he₁ (i + s.length)
    refine ⟨e₂, w₁ ++ w₂, hrun₁.trans hrun₂, he₂, ?_, hreads₁.append hreads₂,
      isUtf8_append hutf₁ hutf₂⟩
    rw [htext₂, htext₁, List.append_assoc]

theorem dumpEscaped_of_isUtf8 (hs : IsUtf8 s) :
    ∃ w, dumpEscaped s = .ok w ∧ ReadsAs w s ∧ IsUtf8 w := by
  obtain ⟨e, w, hrun, he, htext, hreads, hutf⟩ := escapeFrom_of_isUtf8 hs (e := {}) rfl 0
  refine ⟨w, ?_, hreads, hutf⟩
  rw [dumpEscaped, hrun]
  exact (if_pos he).trans (congrArg _ htext)

/-! ### Texts that are no UTF-8 -/

/-- The loop goes through, or ends at the first byte that is rejected. -/
theorem escapeFrom_cases (he : e.decoder.state ≠ 1) (i : Nat) :
    (∃ e', escapeFrom i s e = .ok e' ∧ e'.decoder = s.foldl decode e.decoder ∧
      e'.decoder.state ≠ 1) ∨
    ∃ p b t, s = p ++ b :: t ∧ escapeFrom i s e = .error (.invalidByte (i + p.length) b) ∧
      (p.foldl decode e.decoder).state ≠ 1 ∧ (decode (p.foldl decode e.decoder) b).state = 1 := by
  induction s generalizing e i with
  | nil => exact .inl ⟨e, rfl, rfl, he⟩
  | cons b s ih =>
    by_cases hone : (decode e.decoder b).state = 1
    · refine .inr ⟨[], b, s, rfl, ?_, he, hone⟩
      have hzero : ¬(decode e.decoder b).state = 0 := by
        rw [hone]
        decide
      rw [escapeFrom, escapeByte]
      simp only [if_neg hzero, if_pos hone]
      rfl
    · obtain ⟨e₁, hbyte, hd⟩ : ∃ e₁, escapeByte i b e = .ok e₁ ∧ e₁.decoder = decode e.decoder b := by
        rw [escapeByte]
        split
        · exact ⟨_, rfl, decoder_flush _⟩
        · exact ⟨_, rfl, rfl⟩
      have hstep : escapeFrom i (b :: s) e = escapeFrom (i + 1) s e₁ := by
        rw [escapeFrom, hbyte]
        rfl
      rw [hstep]
      refine (ih (hd ▸ hone) (i + 1)).imp ?_ ?_
      · rintro ⟨e', hrun, he', hne⟩
        exact ⟨e', hrun, he'.trans (by rw [hd]; rfl), hne⟩
      · rintro ⟨p, c, t, rfl, hrun, hp, hc⟩
        rw [hd] at hp hc
        refine ⟨b :: p, c, t, rfl, hrun.trans ?_, hp, hc⟩
        rw [List.length_cons, Nat.add_assoc, Nat.add_comm 1]

/-- A text that has been rejected stays so. -/
theorem reject_of_isPrefix {p : Bytes} (h : p <+: s) (hp : p.foldl nextState 0 = 1) :
    s.foldl nextState 0 = 1 := by
  obtain ⟨t, rfl⟩ := h
  rw [List.foldl_append, hp, foldl_reject]

/-- What becomes of a text, by the states of the automaton. -/
theorem dumpEscaped_cases (s : Bytes) :
    (∃ w, dumpEscaped s = .ok w ∧ s.foldl nextState 0 = 0) ∨
    (dumpEscaped s = .error (.incomplete (s.getLastD 0)) ∧ s.foldl nextState 0 ≠ 0 ∧
      s.foldl nextState 0 ≠ 1) ∨
    ∃ p b t, s = p ++ b :: t ∧ dumpEscaped s = .error (.invalidByte p.length b) ∧
      p.foldl nextState 0 ≠ 1 ∧ (p ++ [b]).foldl nextState 0 = 1 := by
  have hstate : ∀ s : Bytes, s.foldl nextState 0 = (s.foldl decode {}).state := fun s =>
    (state_foldl_decode s {}).symm
  rw [dumpEscaped]
  rcases escapeFrom_cases (s := s) (e := {}) (by decide) 0 with
    ⟨e, hrun, hd, hone⟩ | ⟨p, b, t, rfl, hrun, hp, hb⟩
  · rw [hrun, hstate s, ← hd]
    by_cases hzero : e.decoder.state = 0
    · exact .inl ⟨e.text, if_pos hzero, hzero⟩
    · exact .inr (.inl ⟨if_neg hzero, hzero, hone⟩)
  · refine .inr (.inr ⟨p, b, t, rfl, ?_, hstate p ▸ hp, ?_⟩)
    · rw [hrun, Nat.zero_add]
      rfl
    · rw [hstate, List.foldl_append]
      exact hb

/-- A text is written exactly if it is UTF-8. -/
theorem dumpEscaped_eq_ok_iff (s : Bytes) : (∃ w, dumpEscaped s = .ok w) ↔ IsUtf8 s := by
  constructor
  · rintro ⟨w, h⟩
    rcases dumpEscaped_cases s with ⟨-, -, hzero⟩ | ⟨herr, -⟩ | ⟨p, b, t, -, herr, -⟩
    · exact accepts_iff.1 hzero
    · rw [herr] at h
      cases h
    · rw [herr] at h
      cases h
  · exact fun hs => (dumpEscaped_of_isUtf8 hs).imp fun w h => h.1

/-- A byte is turned down exactly if it is the first one with which the text cannot go on as
    UTF-8. -/
theorem dumpEscaped_eq_invalidByte_iff (s : Bytes) (i : Nat) (b : UInt8) :
    dumpEscaped s = .error (.invalidByte i b) ↔ ∃ p t, s = p ++ b :: t ∧ p.length = i ∧
      (∃ more, IsUtf8 (p ++ more)) ∧ ¬∃ more, IsUtf8 (p ++ b :: more) := by
  have hviable : ∀ (p : Bytes) (b : UInt8), (¬∃ more, IsUtf8 (p ++ b :: more)) ↔
      (p ++ [b]).foldl nextState 0 = 1 := fun p b => by
    have h := viable_iff (p ++ [b])
    simp only [List.append_assoc, List.singleton_append] at h
    rw [← h, not_not]
  constructor
  · intro herr
    rcases dumpEscaped_cases s with ⟨w, hok, -⟩ | ⟨herr', -⟩ | ⟨p, c, t, rfl, herr', hp, hc⟩
    · rw [hok] at herr
      cases herr
    · rw [herr'] at herr
      cases herr
    · rw [herr'] at herr
      cases herr
      exact ⟨p, t, rfl, rfl, (viable_iff p).1 hp, (hviable p _).2 hc⟩
  · rintro ⟨p, t, rfl, rfl, hp, hb⟩
    rw [← viable_iff] at hp
    rw [hviable] at hb
    have hs : (p ++ b :: t).foldl nextState 0 = 1 :=
      reject_of_isPrefix ⟨t, by rw [List.append_assoc, List.singleton_append]⟩ hb
    rcases dumpEscaped_cases (p ++ b :: t) with ⟨w, -, hzero⟩ | ⟨-, -, hone⟩ |
      ⟨q, c, u, hsplit, herr, hq, hc⟩
    · rw [hs] at hzero
      exact absurd hzero (by decide)
    · exact absurd hs hone
    · -- Of two such bytes neither is before the other.
      rcases lt_trichotomy p.length q.length with hlt | heq | hlt
      · have hprefix : p ++ [b] <+: q := by
          refine List.prefix_of_prefix_length_le ⟨t, ?_⟩ ⟨c :: u, hsplit.symm⟩ ?_
          · rw [List.append_assoc, List.singleton_append]
          · simpa using Nat.succ_le_of_lt hlt
        exact absurd (reject_of_isPrefix hprefix hb) hq
      · obtain ⟨rfl, hrest⟩ := List.append_inj hsplit heq
        obtain ⟨rfl, -⟩ := List.cons.inj hrest
        exact herr
      · have hprefix : q ++ [c] <+: p := by
          refine List.prefix_of_prefix_length_le ⟨u, ?_⟩ ⟨b :: t, rfl⟩ ?_
          · rw [List.append_assoc, List.singleton_append, hsplit]
          · simpa using Nat.succ_le_of_lt hlt
        exact absurd (reject_of_isPrefix hprefix hc) hp

/-! ## Numbers -/

theorem decimal_of_lt {x : Nat} (h : x < 10) : decimal x = [digit x] := by
  have hall : ∀ x < 10, decimal x = [digit x] := by decide
  exact hall x h

theorem decimal_of_le {x : Nat} (h : 10 ≤ x) : decimal x = decimal (x / 10) ++ [digit (x % 10)] := by
  have hmod : (Nat.toDigits 10 (x % 10)).map (fun c => c.toNat.toUInt8) = [digit (x % 10)] :=
    decimal_of_lt (Nat.mod_lt x (by decide))
  rw [decimal, Nat.toDigits_of_base_le (by decide) h, List.map_append,
    ← Nat.toDigits_of_lt_base (Nat.mod_lt x (by decide)), hmod]
  rfl

/-- The digits are those of the number. -/
theorem fillDigits_eq (x : Nat) (done : Bytes) : fillDigits x done = decimal x ++ done := by
  induction x using Nat.strong_induction_on generalizing done with
  | _ x ih =>
    rw [fillDigits]
    split
    · have hten : 10 ≤ x / 10 := by omega
      rw [ih (x / 100) (by omega), decimal_of_le (by omega : 10 ≤ x), decimal_of_le hten,
        Nat.div_div_eq_div_mul, show x / 10 % 10 = x % 100 / 10 by omega]
      simp
    split
    · rw [decimal_of_le ‹_›, decimal_of_lt (by omega : x / 10 < 10)]
      rfl
    · rw [decimal_of_lt (by omega)]
      rfl

theorem length_decimal {x : Nat} (h : 10 ≤ x) : (decimal x).length = (decimal (x / 10)).length + 1 := by
  rw [decimal_of_le h, List.length_append, List.length_singleton]

/-- They are counted beforehand. -/
theorem countDigits_eq (x : Nat) : countDigits x = (decimal x).length := by
  induction x using Nat.strong_induction_on with
  | _ x ih =>
    rw [countDigits]
    split
    · rw [decimal_of_lt ‹_›]
      rfl
    split
    · rw [length_decimal (by omega), decimal_of_lt (by omega)]
      rfl
    split
    · rw [length_decimal (by omega), length_decimal (by omega), decimal_of_lt (by omega)]
      rfl
    split
    · rw [length_decimal (by omega), length_decimal (by omega), length_decimal (by omega),
        decimal_of_lt (by omega)]
      rfl
    · have hfirst : 10 ≤ x := by omega
      have hsecond : 10 ≤ x / 10 := by omega
      have hthird : 10 ≤ x / 10 / 10 := by omega
      have hfourth : 10 ≤ x / 10 / 10 / 10 := by omega
      rw [ih (x / 10000) (by omega), length_decimal hfirst, length_decimal hsecond,
        length_decimal hthird, length_decimal hfourth]
      simp only [Nat.div_div_eq_div_mul]

/-- No byte of the buffer is written that has not been filled. -/
theorem dumpInteger_eq (x : Nat) : dumpInteger x = decimal x := by
  rw [dumpInteger, fillDigits_eq, List.append_nil, countDigits_eq, Nat.sub_self]
  split
  · rename_i hx
    rw [hx]
    decide
  · rfl

/-! ## Documents -/

/-- What holds of numbers and texts, and of what is made of documents, holds of every document. -/
theorem json_induction {P : Json → Prop} {Q : List Json → Prop} {R : List (Bytes × Json) → Prop}
    (hunsigned : ∀ n, P (.unsigned n)) (hstring : ∀ s, P (.string s))
    (harray : ∀ items, Q items → P (.array items))
    (hobject : ∀ fields, R fields → P (.object fields))
    (hitemsNil : Q []) (hitemsCons : ∀ x items, P x → Q items → Q (x :: items))
    (hfieldsNil : R []) (hfieldsCons : ∀ key x fields, P x → R fields → R ((key, x) :: fields))
    (x : Json) : P x :=
  @Json.rec P Q R (fun field => P field.2) hunsigned hstring harray hobject hitemsNil hitemsCons
    hfieldsNil (fun field fields hx hfields => hfieldsCons field.1 field.2 fields hx hfields)
    (fun _ _ hx => hx) x

theorem readString_of_readsAs (h : ReadsAs w s) (rest : Bytes) :
    readString (w ++ 34 :: rest) = some (s, rest) := by
  rw [h, readString.eq_def]
  simp

/-- A text has been written between quotation marks. -/
theorem exists_of_dumpString (h : dumpString s = .ok w) :
    ∃ v, w = 34 :: (v ++ [34]) ∧ ReadsAs v s ∧ IsUtf8 w := by
  obtain ⟨text, htext, rfl⟩ := Except.map_eq_ok_iff.1 h
  obtain ⟨v, hv, hreads, hutf⟩ := dumpEscaped_of_isUtf8 ((dumpEscaped_eq_ok_iff s).1 ⟨text, htext⟩)
  rw [hv] at htext
  cases htext
  have hquote : IsUtf8 (ascii "\"") := isUtf8_of_ascii (List.forall_mem_singleton.2 (by decide))
  exact ⟨_, rfl, hreads, isUtf8_append (isUtf8_append hquote hutf) hquote⟩

theorem readKey_of_dumpString (h : dumpString s = .ok w) (rest : Bytes) :
    readKey (w ++ 58 :: rest) = some (s, rest) := by
  obtain ⟨v, rfl, hreads, -⟩ := exists_of_dumpString h
  have hread := readString_of_readsAs hreads (58 :: rest)
  rw [List.cons_append, List.append_assoc, List.singleton_append, readKey, hread]
  rfl

/-- What is written of a document is UTF-8, and is read back, whatever is behind it; it does not
    start like the end of an array or of an object. -/
structure Reads (x : Json) (w : Bytes) : Prop where
  isUtf8 : IsUtf8 w
  head : ∃ c v, w = c :: v ∧ c ≠ 93 ∧ c ≠ 125
  read : ∀ depth rest, w.length ≤ depth → (∀ c ∈ rest.head?, isDigit c = false) →
    readValue depth (w ++ rest) = some (x, rest)

/-- What is written of the elements of an array. -/
structure ReadsItems (items : List Json) (w : Bytes) : Prop where
  isUtf8 : IsUtf8 w
  head : ∃ c v, w = c :: v ∧ c ≠ 93
  read : ∀ depth rest, w.length < depth → readItems depth (w ++ 93 :: rest) = some (items, rest)

/-- What is written of the fields of an object. -/
structure ReadsFields (fields : List (Bytes × Json)) (w : Bytes) : Prop where
  isUtf8 : IsUtf8 w
  head : ∃ c v, w = c :: v ∧ c ≠ 125
  read : ∀ depth rest, w.length < depth → readFields depth (w ++ 125 :: rest) = some (fields, rest)

theorem reads_unsigned (n : Nat) : Reads (.unsigned n) (decimal n) := by
  have hdigits : ∀ c ∈ decimal n, isDigit c = true := fun c hc => isDigit_of_mem_decimal hc
  obtain ⟨c, v, hcons⟩ := List.exists_cons_of_ne_nil (decimal_ne_nil n)
  have hc : isDigit c = true := hdigits c (by simp [hcons])
  have hbound : ∀ c : UInt8, isDigit c = true → c.toNat < 58 := by
    intro c hc
    rw [isDigit, Bool.and_eq_true, decide_eq_true_eq, decide_eq_true_eq] at hc
    exact Nat.lt_succ_of_le hc.2
  have hne : ∀ k : UInt8, 58 ≤ k.toNat ∨ k = 34 → c ≠ k := by
    rintro k hk rfl
    rcases hk with hk | rfl
    · exact absurd (hbound c hc) (not_lt.2 hk)
    · exact absurd hc (by decide)
  refine ⟨isUtf8_of_ascii fun b hb => lt_trans (hbound b (hdigits b hb)) (by decide),
    ⟨c, v, hcons, hne _ (by decide), hne _ (by decide)⟩, fun depth rest hlen hrest => ?_⟩
  obtain ⟨depth, rfl⟩ : ∃ k, depth = k + 1 :=
    Nat.exists_eq_succ_of_ne_zero (by rw [hcons] at hlen; simp at hlen; omega)
  have hsplit : rest.takeWhile isDigit = [] ∧ rest.dropWhile isDigit = rest := by
    rcases rest with _ | ⟨d, rest⟩
    · exact ⟨rfl, rfl⟩
    · have hd : isDigit d = false := hrest d rfl
      simp [hd]
  have htake : (decimal n ++ rest).takeWhile isDigit = decimal n := by
    rw [List.takeWhile_append_of_pos hdigits, hsplit.1, List.append_nil]
  have hdrop : (decimal n ++ rest).dropWhile isDigit = rest := by
    rw [List.dropWhile_append_of_pos hdigits, hsplit.2]
  rw [hcons, List.cons_append] at htake hdrop ⊢
  rw [readValue, if_neg (hne _ (by decide)), if_neg (hne _ (by decide)), if_neg (hne _ (by decide)),
    if_pos hc, htake, hdrop, ← hcons, natOfDigits_decimal]

theorem reads_string (h : dumpString s = .ok w) : Reads (.string s) w := by
  obtain ⟨v, rfl, hreads, hutf⟩ := exists_of_dumpString h
  refine ⟨hutf, ⟨34, _, rfl, by decide, by decide⟩, fun depth rest hlen hrest => ?_⟩
  obtain ⟨depth, rfl⟩ := Nat.exists_eq_succ_of_ne_zero (by rintro rfl; simp at hlen : depth ≠ 0)
  rw [List.cons_append, List.append_assoc, List.singleton_append, readValue, if_pos rfl,
    readString_of_readsAs hreads]
  rfl

theorem isUtf8_byte {c : UInt8} (hc : c.toNat < 128) : IsUtf8 [c] :=
  isUtf8_of_ascii (by simpa using hc)

theorem reads_array {items : List Json} (h : dumpItems items = .ok w)
    (hitems : items ≠ [] → ReadsItems items w) : Reads (.array items) (91 :: (w ++ [93])) := by
  have hutf : IsUtf8 w := by
    rcases items with _ | ⟨x, items⟩
    · cases h
      exact isUtf8_nil
    · exact (hitems (List.cons_ne_nil _ _)).isUtf8
  refine ⟨isUtf8_append (isUtf8_byte (by decide)) (isUtf8_append hutf (isUtf8_byte (by decide))),
    ⟨91, _, rfl, by decide, by decide⟩, fun depth rest hlen hrest => ?_⟩
  obtain ⟨depth, rfl⟩ := Nat.exists_eq_succ_of_ne_zero (by rintro rfl; simp at hlen : depth ≠ 0)
  rw [List.cons_append, List.append_assoc, List.singleton_append, readValue, if_neg (by decide),
    if_pos rfl]
  rcases items with _ | ⟨x, items⟩
  · cases h
    rfl
  · obtain ⟨-, ⟨c, v, rfl, hc⟩, hread⟩ := hitems (List.cons_ne_nil _ _)
    rw [List.cons_append, if_neg (by simpa using hc), ← List.cons_append,
      hread depth rest (by simp at hlen ⊢; omega)]
    rfl

theorem reads_object {fields : List (Bytes × Json)} (h : dumpFields fields = .ok w)
    (hfields : fields ≠ [] → ReadsFields fields w) :
    Reads (.object fields) (123 :: (w ++ [125])) := by
  have hutf : IsUtf8 w := by
    rcases fields with _ | ⟨x, fields⟩
    · cases h
      exact isUtf8_nil
    · exact (hfields (List.cons_ne_nil _ _)).isUtf8
  refine ⟨isUtf8_append (isUtf8_byte (by decide)) (isUtf8_append hutf (isUtf8_byte (by decide))),
    ⟨123, _, rfl, by decide, by decide⟩, fun depth rest hlen hrest => ?_⟩
  obtain ⟨depth, rfl⟩ := Nat.exists_eq_succ_of_ne_zero (by rintro rfl; simp at hlen : depth ≠ 0)
  rw [List.cons_append, List.append_assoc, List.singleton_append, readValue, if_neg (by decide),
    if_neg (by decide), if_pos rfl]
  rcases fields with _ | ⟨x, fields⟩
  · cases h
    rfl
  · obtain ⟨-, ⟨c, v, rfl, hc⟩, hread⟩ := hfields (List.cons_ne_nil _ _)
    rw [List.cons_append, if_neg (by simpa using hc), ← List.cons_append,
      hread depth rest (by simp at hlen ⊢; omega)]
    rfl

theorem readsItems_one {x : Json} (h : Reads x w) : ReadsItems [x] w := by
  obtain ⟨hutf, ⟨c, v, hw, hc, -⟩, hread⟩ := h
  refine ⟨hutf, ⟨c, v, hw, hc⟩, fun depth rest hlen => ?_⟩
  obtain ⟨depth, rfl⟩ := Nat.exists_eq_succ_of_ne_zero (Nat.ne_zero_of_lt hlen)
  rw [readItems, hread depth (93 :: rest) (Nat.le_of_lt_succ hlen) (by simp; decide)]
  rfl

theorem ReadsItems.cons {x : Json} {items : List Json} (h : Reads x w) (h' : ReadsItems items w') :
    ReadsItems (x :: items) (w ++ ascii "," ++ w') := by
  obtain ⟨hutf, ⟨c, v, rfl, hc, -⟩, hread⟩ := h
  refine ⟨isUtf8_append (isUtf8_append hutf (isUtf8_byte (by decide))) h'.isUtf8, ⟨c, _, rfl, hc⟩,
    fun depth rest hlen => ?_⟩
  obtain ⟨depth, rfl⟩ := Nat.exists_eq_succ_of_ne_zero (Nat.ne_zero_of_lt hlen)
  have hcomma : ascii "," = [44] := by decide
  rw [hcomma] at hlen ⊢
  simp only [List.length_append, List.length_cons, List.length_nil] at hlen
  rw [List.append_assoc, List.append_assoc, List.singleton_append, readItems,
    hread depth (44 :: (w' ++ 93 :: rest)) (by simp; omega) (by simp; decide)]
  simp only [h'.read depth rest (by omega), Option.map_some]

/-- The name of a field comes first. -/
theorem isUtf8_field {key name : Bytes} {x : Json} (hkey : dumpString key = .ok name)
    (h : Reads x w) : IsUtf8 (name ++ ascii ":" ++ w) := by
  obtain ⟨v, -, -, hutf⟩ := exists_of_dumpString hkey
  exact isUtf8_append (isUtf8_append hutf (isUtf8_byte (by decide))) h.isUtf8

/-- A field, whatever ends it. -/
theorem read_field {key name : Bytes} {x : Json} (hkey : dumpString key = .ok name) (h : Reads x w)
    {depth : Nat} {c : UInt8} (hlen : w.length ≤ depth) (hc : isDigit c = false) (rest : Bytes) :
    readKey (name ++ ascii ":" ++ w ++ c :: rest) = some (key, w ++ c :: rest) ∧
      readValue depth (w ++ c :: rest) = some (x, c :: rest) := by
  have hcolon : ascii ":" = [58] := by decide
  constructor
  · rw [hcolon, List.append_assoc, List.append_assoc, List.singleton_append]
    exact readKey_of_dumpString hkey _
  · exact h.read depth (c :: rest) hlen (by simpa using hc)

theorem readsFields_one {key name : Bytes} {x : Json} (hkey : dumpString key = .ok name)
    (h : Reads x w) : ReadsFields [(key, x)] (name ++ ascii ":" ++ w) := by
  obtain ⟨v, hv, -, -⟩ := exists_of_dumpString hkey
  refine ⟨isUtf8_field hkey h, ⟨34, _, by rw [hv]; rfl, by decide⟩, fun depth rest hlen => ?_⟩
  obtain ⟨depth, rfl⟩ := Nat.exists_eq_succ_of_ne_zero (Nat.ne_zero_of_lt hlen)
  simp only [List.length_append] at hlen
  obtain ⟨hname, hvalue⟩ :=
    read_field hkey h (by omega : w.length ≤ depth) (by decide : isDigit 125 = false) rest
  simp only [readFields, hname, hvalue]

theorem ReadsFields.cons {key name : Bytes} {x : Json} {fields : List (Bytes × Json)}
    (hkey : dumpString key = .ok name) (h : Reads x w) (h' : ReadsFields fields w') :
    ReadsFields ((key, x) :: fields) (name ++ ascii ":" ++ w ++ ascii "," ++ w') := by
  obtain ⟨v, hv, -, -⟩ := exists_of_dumpString hkey
  refine ⟨isUtf8_append (isUtf8_append (isUtf8_field hkey h) (isUtf8_byte (by decide))) h'.isUtf8,
    ⟨34, _, by rw [hv]; rfl, by decide⟩, fun depth rest hlen => ?_⟩
  obtain ⟨depth, rfl⟩ := Nat.exists_eq_succ_of_ne_zero (Nat.ne_zero_of_lt hlen)
  have hcomma : ascii "," = [44] := by decide
  simp only [List.length_append, hcomma, List.length_singleton] at hlen
  obtain ⟨hname, hvalue⟩ := read_field hkey h (by omega : w.length ≤ depth)
    (by decide : isDigit 44 = false) (w' ++ 125 :: rest)
  rw [hcomma, List.append_assoc, List.append_assoc, List.singleton_append]
  simp only [readFields, hname, hvalue, h'.read depth rest (by omega), Option.map_some]

/-- What is written of a document is read as it. -/
theorem reads_of_dump (x : Json) : ∀ {w}, dump x = .ok w → Reads x w := by
  refine json_induction (P := fun x => ∀ {w}, dump x = .ok w → Reads x w)
    (Q := fun items => ∀ {w}, dumpItems items = .ok w → items ≠ [] → ReadsItems items w)
    (R := fun fields => ∀ {w}, dumpFields fields = .ok w → fields ≠ [] → ReadsFields fields w)
    ?_ ?_ ?_ ?_ ?_ ?_ ?_ ?_ x
  · intro n w h
    rw [dump, dumpInteger_eq] at h
    cases h
    exact reads_unsigned n
  · intro s w h
    exact reads_string h
  · intro items hitems w h
    obtain ⟨v, hv, rfl⟩ := Except.map_eq_ok_iff.1 h
    exact reads_array hv (hitems hv)
  · intro fields hfields w h
    obtain ⟨v, hv, rfl⟩ := Except.map_eq_ok_iff.1 h
    exact reads_object hv (hfields hv)
  · intro w _ hne
    exact absurd rfl hne
  · intro x items hx hitems w h _
    rcases items with _ | ⟨y, items⟩
    · exact readsItems_one (hx h)
    · obtain ⟨text, htext, h⟩ := Except.bind_eq_ok_iff.1 h
      obtain ⟨texts, htexts, rfl⟩ := Except.map_eq_ok_iff.1 h
      exact (hitems htexts (List.cons_ne_nil _ _)).cons (hx htext)
  · intro w _ hne
    exact absurd rfl hne
  · intro key x fields hx hfields w h _
    rcases fields with _ | ⟨y, fields⟩
    · obtain ⟨name, hname, h⟩ := Except.bind_eq_ok_iff.1 h
      obtain ⟨text, htext, rfl⟩ := Except.map_eq_ok_iff.1 h
      exact readsFields_one hname (hx htext)
    · obtain ⟨name, hname, h⟩ := Except.bind_eq_ok_iff.1 h
      obtain ⟨text, htext, h⟩ := Except.bind_eq_ok_iff.1 h
      obtain ⟨texts, htexts, rfl⟩ := Except.map_eq_ok_iff.1 h
      exact ReadsFields.cons hname (hx htext) (hfields htexts (List.cons_ne_nil _ _))

theorem readDocument_of_reads {x : Json} (h : Reads x w) : readDocument w = some x := by
  have hread := h.read w.length [] le_rfl (by simp)
  rw [List.append_nil] at hread
  rw [readDocument, hread]

/-! ### When a document is written -/

theorem dumpString_eq_ok_iff (s : Bytes) : (∃ w, dumpString s = .ok w) ↔ IsUtf8 s := by
  rw [← dumpEscaped_eq_ok_iff]
  simp only [dumpString, Except.map_eq_ok_iff]
  constructor
  · rintro ⟨w, text, htext, -⟩
    exact ⟨text, htext⟩
  · rintro ⟨text, htext⟩
    exact ⟨_, text, htext, rfl⟩

/-- A document is written exactly if its texts are UTF-8. -/
theorem dump_eq_ok_iff (x : Json) : (∃ w, dump x = .ok w) ↔ ∀ s ∈ x.texts, IsUtf8 s := by
  have hmap : ∀ {f : Bytes → Bytes} {y : Except TypeError Bytes},
      (∃ w, y.map f = .ok w) ↔ ∃ w, y = .ok w := by
    intro f y
    simp only [Except.map_eq_ok_iff]
    constructor
    · rintro ⟨w, v, hv, -⟩
      exact ⟨v, hv⟩
    · rintro ⟨v, hv⟩
      exact ⟨_, v, hv, rfl⟩
  have hbind : ∀ {f : Bytes → Except TypeError Bytes} {y : Except TypeError Bytes} {p : Prop},
      (∀ v, (∃ w, f v = .ok w) ↔ p) → ((∃ w, y.bind f = .ok w) ↔ (∃ v, y = .ok v) ∧ p) := by
    intro f y p hf
    constructor
    · rintro ⟨w, h⟩
      obtain ⟨v, hv, hw⟩ := Except.bind_eq_ok_iff.1 h
      exact ⟨⟨v, hv⟩, (hf v).1 ⟨w, hw⟩⟩
    · rintro ⟨⟨v, hv⟩, hp⟩
      obtain ⟨w, hw⟩ := (hf v).2 hp
      exact ⟨w, Except.bind_eq_ok_iff.2 ⟨v, hv, hw⟩⟩
  refine json_induction (P := fun x => (∃ w, dump x = .ok w) ↔ ∀ s ∈ x.texts, IsUtf8 s)
    (Q := fun items => (∃ w, dumpItems items = .ok w) ↔ ∀ s ∈ itemTexts items, IsUtf8 s)
    (R := fun fields => (∃ w, dumpFields fields = .ok w) ↔ ∀ s ∈ fieldTexts fields, IsUtf8 s)
    ?_ ?_ ?_ ?_ ?_ ?_ ?_ ?_ x
  · exact fun n => by simp [dump, texts]
  · exact fun s => by simpa [dump, texts] using dumpString_eq_ok_iff s
  · exact fun items hitems => by rw [dump, hmap, hitems, texts]
  · exact fun fields hfields => by rw [dump, hmap, hfields, texts]
  · simp [dumpItems, itemTexts]
  · intro x items hx hitems
    have hall : (∀ s ∈ itemTexts (x :: items), IsUtf8 s) ↔
        (∀ s ∈ x.texts, IsUtf8 s) ∧ ∀ s ∈ itemTexts items, IsUtf8 s := by
      rw [itemTexts, List.forall_mem_append]
    rcases items with _ | ⟨y, items⟩
    · rw [hall, ← hx, dumpItems]
      simp [itemTexts]
    · rw [hall, ← hx, ← hitems, dumpItems]
      exact hbind fun v => hmap
  · simp [dumpFields, fieldTexts]
  · intro key x fields hx hfields
    have hall : (∀ s ∈ fieldTexts ((key, x) :: fields), IsUtf8 s) ↔
        IsUtf8 key ∧ (∀ s ∈ x.texts, IsUtf8 s) ∧ ∀ s ∈ fieldTexts fields, IsUtf8 s := by
      rw [fieldTexts, List.cons_append, List.forall_mem_cons, List.forall_mem_append]
    rcases fields with _ | ⟨y, fields⟩
    · rw [hall, ← hx, ← dumpString_eq_ok_iff, dumpFields]
      refine (hbind fun v => hmap).trans ?_
      simp [fieldTexts]
    · rw [hall, ← hx, ← hfields, ← dumpString_eq_ok_iff, dumpFields]
      exact hbind fun v => hbind fun v => hmap

/-- A document is written, as UTF-8 from which it is read back, exactly if its texts are UTF-8. -/
theorem readDocument_of_dump (x : Json) :
    ((∃ w, dump x = .ok w) ↔ ∀ s ∈ x.texts, IsUtf8 s) ∧
      ∀ w, dump x = .ok w → IsUtf8 w ∧ readDocument w = some x :=
  ⟨dump_eq_ok_iff x, fun _ hw =>
    have hreads := reads_of_dump x hw
    ⟨hreads.isUtf8, readDocument_of_reads hreads⟩⟩

end Json

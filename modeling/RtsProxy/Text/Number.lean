import Mathlib.Algebra.Ring.Int.Defs
import Mathlib.Algebra.Ring.Nat
import Mathlib.Data.List.TakeWhile
import RtsProxy.Text.Basic

/-!
# Numerals

The conversions between numbers and text of the C++ library: `decimal` is
`std::to_string`, `stoi`, `stoll` and `stoul` are the throwing readers built on
`strtol` and `strtoul`. These skip leading white space, take an optional sign and
the longest run of digits, and ignore what follows; without a digit they throw
`invalid_argument`, out of range `out_of_range`. A minus sign is accepted by
`stoul` too, which then wraps around.

Numerals of plain digits are read at face value: `stoi_of_digits`.
-/

/-! ## Exceptions -/

namespace Except

variable {ε α β : Type} {x : Except ε α} {e : ε}

/-- A sequence returns if both of its parts do. -/
theorem bind_eq_ok_iff {f : α → Except ε β} {b : β} :
    (x >>= f) = .ok b ↔ ∃ a, x = .ok a ∧ f a = .ok b := by
  cases x with
  | error e => simp [bind, Except.bind]
  | ok a => simp [bind, Except.bind]

theorem map_eq_ok_iff {f : α → β} {b : β} : x.map f = .ok b ↔ ∃ a, x = .ok a ∧ f a = b := by
  cases x with
  | error e => simp [Except.map]
  | ok a => simp [Except.map]

theorem map_eq_error_iff {f : α → β} : x.map f = .error e ↔ x = .error e := by
  cases x with
  | error e => simp [Except.map]
  | ok a => simp [Except.map]

/-- A computation throws. -/
def Throws (x : Except ε α) : Prop := ∃ e, x = .error e

@[simp] theorem throws_error : (Except.error e : Except ε α).Throws := ⟨e, rfl⟩

@[simp] theorem not_throws_ok (a : α) : ¬(Except.ok a : Except ε α).Throws := by
  rintro ⟨e, h⟩
  cases h

theorem not_throws_iff : ¬x.Throws ↔ ∃ a, x = .ok a := by
  cases x with
  | error e => simp
  | ok a => simp

@[simp] theorem throws_map {f : α → β} : (x.map f).Throws ↔ x.Throws :=
  exists_congr fun _ => map_eq_error_iff

/-- A sequence throws exactly if its first part does, or the second one behind it. -/
theorem throws_bind {f : α → Except ε β} :
    (x >>= f).Throws ↔ x.Throws ∨ ∃ a, x = .ok a ∧ (f a).Throws := by
  cases x with
  | error e => exact iff_of_true ⟨e, rfl⟩ (.inl ⟨e, rfl⟩)
  | ok a =>
    refine ⟨fun h => .inr ⟨a, rfl, h⟩, ?_⟩
    rintro (h | ⟨b, hb, h⟩)
    · exact absurd h (not_throws_ok a)
    · cases hb
      exact h

end Except

namespace Text

/-- The exceptions of the conversions, of string access and of regular
    expressions. -/
inductive Exn
  | invalidArgument
  | outOfRange
  | regexError
  deriving DecidableEq, Repr

/-- `2^31`, the first number out of the range of `int`. -/
abbrev intLimit : Nat := 2 ^ 31

/-- The number of values of `size_t` and `unsigned long`. -/
abbrev wordSize : Nat := 2 ^ 64

/-! ## Writing -/

/-- `std::to_string` of a natural number. -/
def decimal (n : Nat) : Bytes := (Nat.toDigits 10 n).map fun c => c.toNat.toUInt8

theorem decimal_ne_nil (n : Nat) : decimal n ≠ [] := by simp [decimal]

/-- The byte of a decimal digit character is a digit. -/
theorem isDigit_of_char {c : Char} (h : c.isDigit = true) : isDigit c.toNat.toUInt8 = true := by
  have hc : 48 ≤ c.toNat ∧ c.toNat ≤ 57 := by
    rw [Char.isDigit_iff_toNat] at h
    exact h
  have hlt : c.toNat < 256 := by omega
  have hn : (c.toNat.toUInt8).toNat = c.toNat := by
    simp [Nat.mod_eq_of_lt hlt]
  simp [isDigit, UInt8.le_iff_toNat_le, hn, hc.1, hc.2]

theorem isDigit_of_mem_decimal {n : Nat} {c : UInt8} (h : c ∈ decimal n) : isDigit c = true := by
  obtain ⟨d, hd, rfl⟩ := List.mem_map.1 h
  exact isDigit_of_char (Nat.isDigit_of_mem_toDigits (by decide) (by decide) hd)

/-! ## Reading -/

/-- The value of a digit. -/
def digitValue (c : UInt8) : Nat := c.toNat - 48

/-- The number a run of digits denotes. -/
def natOfDigits (ds : Bytes) : Nat := ds.foldl (fun n c => 10 * n + digitValue c) 0

/-- A numeral as `strtol` reads it: its sign and its digits. -/
structure Numeral where
  negative : Bool
  digits : Bytes
  deriving DecidableEq, Repr

/-- The numeral at the start of a text, after white space and an optional sign. -/
def readNumeral (s : Bytes) : Numeral :=
  match s.dropWhile isSpace with
  | [] => ⟨false, []⟩
  | c :: r =>
    if c = 45 then ⟨true, r.takeWhile isDigit⟩
    else if c = 43 then ⟨false, r.takeWhile isDigit⟩
    else ⟨false, (c :: r).takeWhile isDigit⟩

/-- The value of a numeral. -/
def Numeral.value (m : Numeral) : Int :=
  if m.negative then -(natOfDigits m.digits : Int) else natOfDigits m.digits

/-- A throwing reader of integers in `[-lim, lim)`. -/
def readSigned (lim : Nat) (s : Bytes) : Except Exn Int :=
  let m := readNumeral s
  if m.digits = [] then .error .invalidArgument
  else if -(lim : Int) ≤ m.value ∧ m.value < lim then .ok m.value
  else .error .outOfRange

/-- `std::stoi`. -/
def stoi (s : Bytes) : Except Exn Int := readSigned intLimit s

/-- `std::stoll`. -/
def stoll (s : Bytes) : Except Exn Int := readSigned (2 ^ 63) s

/-- `std::stoul`, of 64 bits: a negative numeral wraps around. -/
def stoul (s : Bytes) : Except Exn Nat :=
  let m := readNumeral s
  if m.digits = [] then .error .invalidArgument
  else if natOfDigits m.digits < wordSize then
    .ok (if m.negative then (wordSize - natOfDigits m.digits) % wordSize else natOfDigits m.digits)
  else .error .outOfRange

/-- A digit is neither white space nor a sign. -/
theorem not_space_of_isDigit {c : UInt8} (h : isDigit c = true) :
    isSpace c = false ∧ c ≠ 45 ∧ c ≠ 43 := by
  have h' : 48 ≤ c.toNat ∧ c.toNat ≤ 57 := by
    simpa [isDigit, UInt8.le_iff_toNat_le] using h
  refine ⟨?_, ?_, ?_⟩
  · simp [isSpace, ← UInt8.toNat_inj, UInt8.le_iff_toNat_le]
    omega
  · rintro rfl
    simp at h'
  · rintro rfl
    simp at h'

/-- A non-empty run of digits is the whole numeral of itself. -/
theorem readNumeral_of_digits {ds : Bytes} (hne : ds ≠ []) (hd : ∀ c ∈ ds, isDigit c = true) :
    readNumeral ds = ⟨false, ds⟩ := by
  match ds, hne with
  | c :: r, _ =>
    obtain ⟨hsp, hminus, hplus⟩ := not_space_of_isDigit (hd c (by simp))
    have htw : (c :: r).takeWhile isDigit = c :: r := List.takeWhile_eq_self_iff.2 hd
    simp [readNumeral, hsp, hminus, hplus, htw]

/-- A run of digits is read at face value when it is in range, and otherwise
    throws `out_of_range`. -/
theorem stoi_of_digits {ds : Bytes} (hne : ds ≠ []) (hd : ∀ c ∈ ds, isDigit c = true) :
    stoi ds = if natOfDigits ds < intLimit then .ok (natOfDigits ds : Int)
      else .error .outOfRange := by
  have hlow : -(intLimit : Int) ≤ (natOfDigits ds : Int) := by
    have : (0 : Int) ≤ intLimit := Int.natCast_nonneg _
    omega
  simp only [stoi, readSigned, readNumeral_of_digits hne hd, hne, if_false, Numeral.value,
    Bool.false_eq_true, hlow, true_and, Int.ofNat_lt]

/-- So it throws exactly if it is out of range. -/
theorem throws_stoi {ds : Bytes} (hne : ds ≠ []) (hd : ∀ c ∈ ds, isDigit c = true) :
    (stoi ds).Throws ↔ intLimit ≤ natOfDigits ds := by
  rw [stoi_of_digits hne hd]
  split
  case isTrue h => exact iff_of_false (Except.not_throws_ok _) (Nat.not_le.2 h)
  case isFalse h => exact iff_of_true Except.throws_error (Nat.not_lt.1 h)

/-- A text opens with an integer: white space, a sign or none, and its digits. -/
def Opens (n : Int) (s : Bytes) : Prop :=
  ∃ spaces sign ds rest, s = spaces ++ (sign ++ (ds ++ rest)) ∧ (∀ c ∈ spaces, isSpace c = true) ∧
    ds ≠ [] ∧ (∀ c ∈ ds, isDigit c = true) ∧ (∀ c ∈ rest.head?, isDigit c = false) ∧
    ((sign = [] ∨ sign = ascii "+") ∧ n = natOfDigits ds ∨
      sign = ascii "-" ∧ n = -(natOfDigits ds : Int))

theorem takeWhile_digits {ds rest : Bytes} (hds : ∀ c ∈ ds, isDigit c = true)
    (hrest : ∀ c ∈ rest.head?, isDigit c = false) : (ds ++ rest).takeWhile isDigit = ds := by
  rw [List.takeWhile_append_of_pos hds]
  rcases rest with _ | ⟨c, rest⟩
  · exact List.append_nil _
  · rw [List.takeWhile_cons_of_neg (by rw [hrest c rfl]; exact Bool.false_ne_true), List.append_nil]

/-- White space in front of a numeral is left out. -/
theorem readNumeral_spaces {spaces : Bytes} (h : ∀ c ∈ spaces, isSpace c = true) (s : Bytes) :
    readNumeral (spaces ++ s) = readNumeral s := by
  rw [readNumeral, readNumeral, List.dropWhile_append_of_pos h]

/-- A numeral is read exactly of a text that opens with it. -/
theorem readNumeral_iff {s : Bytes} {n : Int} :
    (readNumeral s).digits ≠ [] ∧ (readNumeral s).value = n ↔ Opens n s := by
  constructor
  · have hsplit := @List.takeWhile_append_dropWhile _ isSpace s
    have hspaces : ∀ c ∈ s.takeWhile isSpace, isSpace c = true := fun c hc => List.mem_takeWhile_imp hc
    have hopens : ∀ {sign r : Bytes}, s.dropWhile isSpace = sign ++ r → r.takeWhile isDigit ≠ [] →
        ((sign = [] ∨ sign = ascii "+") ∧ n = natOfDigits (r.takeWhile isDigit) ∨
          sign = ascii "-" ∧ n = -(natOfDigits (r.takeWhile isDigit) : Int)) → Opens n s := by
      intro sign r hrest hne hvalue
      refine ⟨_, sign, _, r.dropWhile isDigit, ?_, hspaces, hne,
        fun c hc => List.mem_takeWhile_imp hc, fun c hc => ?_, hvalue⟩
      · rw [List.takeWhile_append_dropWhile, ← hrest, hsplit]
      · have hhead := List.head?_dropWhile_not isDigit r
        rw [Option.mem_def.1 hc] at hhead
        exact hhead
    rw [readNumeral]
    rintro ⟨hne, hvalue⟩
    rcases hrest : s.dropWhile isSpace with _ | ⟨c, r⟩
    · simp only [hrest] at hne
      exact absurd rfl hne
    simp only [hrest] at hne hvalue hopens
    by_cases hminus : c = 45
    · rw [if_pos hminus] at hne hvalue
      exact hopens (congrArg (· :: r) hminus) hne (.inr ⟨rfl, hvalue.symm⟩)
    by_cases hplus : c = 43
    · rw [if_neg hminus, if_pos hplus] at hne hvalue
      exact hopens (congrArg (· :: r) hplus) hne (.inl ⟨.inr rfl, hvalue.symm⟩)
    · rw [if_neg hminus, if_neg hplus] at hne hvalue
      exact hopens (List.nil_append _).symm hne (.inl ⟨.inl rfl, hvalue.symm⟩)
  · rintro ⟨spaces, sign, ds, rest, rfl, hspaces, hne, hds, hrest, hvalue⟩
    have htake := takeWhile_digits hds hrest
    rw [readNumeral_spaces hspaces]
    rcases hvalue with ⟨rfl | rfl, rfl⟩ | ⟨rfl, rfl⟩
    · obtain ⟨c, r, rfl⟩ := List.exists_cons_of_ne_nil hne
      obtain ⟨hspace, hminus, hplus⟩ := not_space_of_isDigit (hds c List.mem_cons_self)
      have hread : readNumeral ([] ++ (c :: r ++ rest)) = ⟨false, c :: r⟩ := by
        rw [readNumeral, List.nil_append, List.cons_append,
          List.dropWhile_cons_of_neg (by rw [hspace]; exact Bool.false_ne_true)]
        dsimp only
        rw [if_neg hminus, if_neg hplus, ← List.cons_append, htake]
      rw [hread]
      exact ⟨hne, rfl⟩
    · have hread : readNumeral (ascii "+" ++ (ds ++ rest)) = ⟨false, ds⟩ :=
        congrArg (Numeral.mk false) htake
      rw [hread]
      exact ⟨hne, rfl⟩
    · have hread : readNumeral (ascii "-" ++ (ds ++ rest)) = ⟨true, ds⟩ :=
        congrArg (Numeral.mk true) htake
      rw [hread]
      exact ⟨hne, rfl⟩

/-- An integer is read exactly of a text that opens with it, if it is in range. -/
theorem stoi_eq_ok_iff {s : Bytes} {n : Int} :
    stoi s = .ok n ↔ Opens n s ∧ -(intLimit : Int) ≤ n ∧ n < intLimit := by
  rw [← readNumeral_iff, stoi, readSigned]
  by_cases hne : (readNumeral s).digits = []
  · rw [if_pos hne]
    exact iff_of_false nofun fun h => h.1.1 hne
  rw [if_neg hne, and_assoc, and_iff_right hne]
  by_cases hin : -(intLimit : Int) ≤ (readNumeral s).value ∧ (readNumeral s).value < intLimit
  · rw [if_pos hin, Except.ok.injEq]
    exact ⟨fun h => ⟨h, h ▸ hin⟩, And.left⟩
  · rw [if_neg hin]
    exact iff_of_false nofun fun ⟨h, hrange⟩ => hin (h ▸ hrange)

/-- What is written is read again. -/
theorem natOfDigits_decimal (n : Nat) : natOfDigits (decimal n) = n := by
  have hdigits : ∀ (cs : List Char) (m : Nat), (∀ c ∈ cs, c.isDigit = true) →
      (cs.map fun c => c.toNat.toUInt8).foldl (fun n c => 10 * n + digitValue c) m =
        Nat.ofDigitChars 10 cs m := by
    intro cs
    induction cs with
    | nil => exact fun _ _ => rfl
    | cons c cs ih =>
      intro m h
      obtain ⟨hc, hcs⟩ := List.forall_mem_cons.1 h
      have hle : c.toNat ≤ 57 := (Char.isDigit_iff_toNat.1 hc).2
      have hvalue : digitValue c.toNat.toUInt8 = c.toNat - '0'.toNat := by
        rw [digitValue, Nat.toUInt8_eq, UInt8.toNat_ofNat', Nat.mod_eq_of_lt (by omega)]
        rfl
      rw [List.map_cons, List.foldl_cons, ih _ hcs, hvalue, Nat.ofDigitChars_cons]
  rw [natOfDigits, decimal, hdigits _ _ fun c hc =>
    Nat.isDigit_of_mem_toDigits (by decide) (by decide) hc]
  exact Nat.ofDigitChars_ten_toDigits

/-- A byte that no numeral has in it, nor in front of it. -/
def EndsNumeral (c : UInt8) : Prop := isSpace c = false ∧ isDigit c = false ∧ c ≠ 45 ∧ c ≠ 43

instance (c : UInt8) : Decidable (EndsNumeral c) := inferInstanceAs (Decidable (_ ∧ _))

/-- What is behind such a byte is not read. -/
theorem readNumeral_append {c : UInt8} (hc : EndsNumeral c) (a b : Bytes) :
    readNumeral (a ++ c :: b) = readNumeral a := by
  obtain ⟨hspace, hdigit, hminus, hplus⟩ := hc
  have hstop : ∀ r : Bytes, (r ++ c :: b).takeWhile isDigit = r.takeWhile isDigit := by
    intro r
    rw [List.takeWhile_append]
    split
    case isTrue hall =>
      rw [List.takeWhile_cons_of_neg (by rw [hdigit]; exact Bool.false_ne_true), List.append_nil]
      exact ((List.takeWhile_prefix isDigit).eq_of_length hall).symm
    case isFalse => rfl
  rw [readNumeral, readNumeral, List.dropWhile_append]
  rcases ha : a.dropWhile isSpace with _ | ⟨d, r⟩
  · rw [List.isEmpty_nil, if_pos rfl,
      List.dropWhile_cons_of_neg (by rw [hspace]; exact Bool.false_ne_true)]
    dsimp only
    rw [if_neg hminus, if_neg hplus,
      List.takeWhile_cons_of_neg (by rw [hdigit]; exact Bool.false_ne_true)]
  · rw [List.isEmpty_cons, if_neg Bool.false_ne_true]
    dsimp only [List.cons_append]
    rw [hstop r, ← List.cons_append, hstop (d :: r)]

example : stoi (ascii "-42") = .ok (-42) := by decide
example : stoul (ascii "-42") = .ok (2 ^ 64 - 42) := by decide

end Text

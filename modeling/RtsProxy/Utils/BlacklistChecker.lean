import RtsProxy.Config

/-!
# Checks of an upstream

`BlacklistChecker`: a host is compared with the patterns of the blacklist, as it is spelled and
as it is resolved, and with the spellings of the proxy itself. The connection is made by
`create_nonblocking_tcp`, which reads the host as an address of four numbers.

* `inetPton_inetNtoa`: an address is read back from its text;
* `isBlacklisted_eq_false_iff`: what has been compared with what when a host is let through;
* `isLoopback_of_reaches_iff`: which hosts that end at the proxy are recognised.
-/

open Text

/-- The name service (`getaddrinfo` for IPv4): the addresses of a host; none where it fails. -/
abbrev Resolver := Bytes → List Ipv4

/-- `DNSResolver::resolve_ipv4`, for the text up to its first NUL. -/
def resolveIpv4 (resolve : Resolver) (host : Bytes) : List Bytes :=
  (resolve (host.takeWhile (· ≠ 0))).map inetNtoa

/-- The number of an address. -/
def Ipv4.toNat (i : Ipv4) : Nat :=
  2 ^ 24 * i.a.toNat + 2 ^ 16 * i.b.toNat + 2 ^ 8 * i.c.toNat + i.d.toNat

/-- Where `create_nonblocking_tcp` connects to: the address is left zero when it cannot be read. -/
def dialled (host : Bytes) (port : Nat) : SockAddr := ⟨(inetPton host).getD .any, port⟩

namespace BlacklistChecker

/-- The addresses agree under the mask of a prefix. The mask of 0 bits is 0; a shift out of range
    is taken modulo 32, as the processor does. -/
def sameNetwork (bits : Int) (base target : Ipv4) : Bool :=
  bits = 0 ||
    let shift := ((32 - bits) % 32).toNat
    base.toNat / 2 ^ shift = target.toNat / 2 ^ shift

/-- `match_cidr` -/
def matchCidr (ip cidr : Bytes) : Except Exn Bool :=
  match find (ascii "/") cidr with
  | none => .ok (ip = cidr)
  | some slash => do
    let bits ← stoi (cidr.drop (slash + 1))
    return match inetPton (cidr.take slash), inetPton ip with
      | some base, some target => sameNetwork bits base target
      | _, _ => false

/-- `match_wildcard`: an asterisk at the start or at the end. -/
def matchWildcard (host pattern : Bytes) : Bool :=
  if pattern = ascii "*" then true
  else if pattern.head? = some 42 then (pattern.drop 1).isSuffixOf host
  else if pattern.getLast? = some 42 then pattern.dropLast.isPrefixOf host
  else host = pattern

/-- A pattern of the blacklist matches a text. -/
def matchPattern (text pattern : Bytes) : Except Exn Bool :=
  if contains (ascii "/") pattern then matchCidr text pattern
  else if contains (ascii "*") pattern then .ok (matchWildcard text pattern)
  else .ok (text = pattern)

/-- `check_once`: the patterns in turn, up to one that matches. -/
def checkOnce (text : Bytes) : List Bytes → Except Exn Bool
  | [] => .ok false
  | pattern :: patterns => do
    if ← matchPattern text pattern then return true
    checkOnce text patterns

/-- The texts in turn, up to one that is matched. -/
def checkAll (blacklist : List Bytes) : List Bytes → Except Exn Bool
  | [] => .ok false
  | text :: texts => do
    if ← checkOnce text blacklist then return true
    checkAll blacklist texts

/-- `is_blacklisted`: the host as it is spelled, and then its addresses. -/
def isBlacklisted (blacklist : List Bytes) (resolve : Resolver) (host : Bytes) :
    Except Exn Bool :=
  if blacklist = [] then .ok false else checkAll blacklist (host :: resolveIpv4 resolve host)

/-- `is_loopback`, with the address that `getsockname` gives for the connection of the client. -/
def isLoopback (localName : Option SockAddr) (host : Bytes) (port : Nat) : Bool :=
  localName.any fun name =>
    (host = ascii "127.0.0.1" || host = ascii "localhost" || host = inetNtoa name.addr) &&
      port = name.port

/-! ## Addresses and their texts -/

/-- An octet is read back from its text. -/
theorem readOctet_decimal (c : UInt8) : readOctet (decimal c.toNat) = some c := by
  have hall : ∀ n : Fin 256, readOctet (decimal n.val) = some n.val.toUInt8 := by decide +kernel
  have hc := hall ⟨c.toNat, c.toNat_lt⟩
  rwa [show c.toNat.toUInt8 = c from UInt8.ofNat_toNat] at hc

theorem not_mem_decimal {c : UInt8} (hc : isDigit c = false) (n : Nat) : c ∉ decimal n := by
  intro h
  rw [isDigit_of_mem_decimal h] at hc
  cases hc

/-- An address is read back from its text. -/
theorem inetPton_inetNtoa (i : Ipv4) : inetPton (inetNtoa i) = some i := by
  have htext : inetNtoa i = [(46 : UInt8)].intercalate
      [decimal i.a.toNat, decimal i.b.toNat, decimal i.c.toNat, decimal i.d.toNat] := by
    simp [inetNtoa, List.intercalate, ascii]
  have hnul : (inetNtoa i).takeWhile (· ≠ 0) = inetNtoa i := by
    refine List.takeWhile_eq_self_iff.2 fun c hc => ?_
    rw [decide_eq_true_eq]
    rintro rfl
    have hno := not_mem_decimal (c := 0) rfl
    simp [inetNtoa, ascii, hno] at hc
  have hsplit : (inetNtoa i).splitOn 46 =
      [decimal i.a.toNat, decimal i.b.toNat, decimal i.c.toNat, decimal i.d.toNat] := by
    rw [htext]
    refine List.splitOn_intercalate 46 ?_ (List.cons_ne_nil _ _)
    intro text htext
    simp only [List.mem_cons, List.not_mem_nil, or_false] at htext
    rcases htext with rfl | rfl | rfl | rfl
    all_goals exact not_mem_decimal rfl _
  rw [inetPton, hnul, hsplit]
  simp [readOctet_decimal]

/-! ## What is compared -/

variable {blacklist : List Bytes} {resolve : Resolver} {host text : Bytes}

/-- A test that is true ends the search. -/
theorem ite_eq_false_iff {x y : Except Exn Bool} :
    (x >>= fun b => if b = true then return true else y) = .ok false ↔
      x = .ok false ∧ y = .ok false := by
  rw [Except.bind_eq_ok_iff]
  constructor
  · rintro ⟨b, hb, h⟩
    cases b with
    | true => cases h
    | false => exact ⟨hb, h⟩
  · rintro ⟨hx, hy⟩
    exact ⟨false, hx, hy⟩

theorem checkOnce_eq_false_iff :
    checkOnce text blacklist = .ok false ↔
      ∀ pattern ∈ blacklist, matchPattern text pattern = .ok false := by
  induction blacklist with
  | nil => exact iff_of_true rfl (by simp)
  | cons pattern patterns ih => rw [List.forall_mem_cons, ← ih]; exact ite_eq_false_iff

theorem checkAll_eq_false_iff {texts : List Bytes} :
    checkAll blacklist texts = .ok false ↔
      ∀ text ∈ texts, ∀ pattern ∈ blacklist, matchPattern text pattern = .ok false := by
  induction texts with
  | nil => exact iff_of_true rfl (by simp)
  | cons text texts ih =>
    rw [List.forall_mem_cons, ← ih, ← checkOnce_eq_false_iff]
    exact ite_eq_false_iff

/-- A host is let through exactly if neither it nor one of its addresses matches a pattern. -/
theorem isBlacklisted_eq_false_iff :
    isBlacklisted blacklist resolve host = .ok false ↔
      ∀ text ∈ host :: resolveIpv4 resolve host, ∀ pattern ∈ blacklist,
        matchPattern text pattern = .ok false := by
  rw [isBlacklisted]
  split
  case isTrue hnil => exact iff_of_true rfl (by simp [hnil])
  case isFalse => exact checkAll_eq_false_iff

/-- An address is the host itself or one of those it is resolved to, and has been held against
    every pattern, none of which matches. -/
def Checked (blacklist : List Bytes) (resolve : Resolver) (host : Bytes) (addr : Ipv4) : Prop :=
  ∃ text ∈ host :: resolveIpv4 resolve host,
    inetPton text = some addr ∧ ∀ pattern ∈ blacklist, matchPattern text pattern = .ok false

instance (blacklist : List Bytes) (resolve : Resolver) (host : Bytes) (addr : Ipv4) :
    Decidable (Checked blacklist resolve host addr) :=
  inferInstanceAs (Decidable (∃ text ∈ host :: resolveIpv4 resolve host,
    inetPton text = some addr ∧ ∀ pattern ∈ blacklist, matchPattern text pattern = .ok false))

/-- Of a host that is let through, the address that is connected to has been checked exactly if
    the host is such an address, or is resolved to the zero one. -/
theorem checked_dialled_iff (h : isBlacklisted blacklist resolve host = .ok false) (port : Nat) :
    Checked blacklist resolve host (dialled host port).addr ↔
      (∃ a, inetPton host = some a) ∨ .any ∈ resolve (host.takeWhile (· ≠ 0)) := by
  rw [isBlacklisted_eq_false_iff] at h
  rcases hhost : inetPton host with _ | a
  · -- the zero address is connected to, and is what the text of a resolved address reads as
    have hzero : (dialled host port).addr = .any := by rw [dialled, hhost]; rfl
    rw [hzero]
    constructor
    · rintro ⟨text, htext, hread, -⟩
      rcases List.mem_cons.1 htext with rfl | hresolved
      · exact .inl ⟨_, hhost.symm.trans hread⟩
      · obtain ⟨a, ha, rfl⟩ := List.mem_map.1 hresolved
        rw [inetPton_inetNtoa] at hread
        exact .inr (Option.some.inj hread ▸ ha)
    · rintro (⟨a, ha⟩ | hany)
      · cases ha
      · have hmem : inetNtoa .any ∈ host :: resolveIpv4 resolve host :=
          List.mem_cons_of_mem _ (List.mem_map.2 ⟨_, hany, rfl⟩)
        exact ⟨_, hmem, inetPton_inetNtoa _, h _ hmem⟩
  · refine iff_of_true ⟨host, List.mem_cons_self, ?_, h host List.mem_cons_self⟩ (.inl ⟨a, rfl⟩)
    rw [dialled, hhost]
    rfl

/-! ## Connections to the proxy itself -/

/-- A connection ends at the listening socket, which is bound to every address: those of the
    loopback network, the zero address and those of the interfaces are delivered to it. -/
def ReachesProxy (interfaces : List Ipv4) (listenPort : Nat) (dest : SockAddr) : Prop :=
  dest.port = listenPort ∧ (dest.addr.a = 127 ∨ dest.addr = .any ∨ dest.addr ∈ interfaces)

instance (interfaces : List Ipv4) (listenPort : Nat) (dest : SockAddr) :
    Decidable (ReachesProxy interfaces listenPort dest) :=
  inferInstanceAs (Decidable (_ ∧ _))

/-- What the address that is connected to has to do with a host that is no address: it is zero. -/
theorem dialled_addr_iff {P : Ipv4 → Prop} (hany : P .any) (port : Nat) :
    P (dialled host port).addr ↔ ¬∃ a, inetPton host = some a ∧ ¬P a := by
  rcases hhost : inetPton host with _ | a
  · rw [dialled, hhost]
    exact iff_of_true hany (by simp)
  · rw [dialled, hhost]
    simp

/-- A host that ends at the proxy is recognised exactly if it is spelled in one of three ways; all
    others are to read as an address elsewhere. -/
theorem isLoopback_of_reaches_iff {interfaces : List Ipv4} {name : SockAddr} {port : Nat} :
    (ReachesProxy interfaces name.port (dialled host port) → isLoopback (some name) host port = true) ↔
      port ≠ name.port ∨ host = ascii "127.0.0.1" ∨ host = ascii "localhost" ∨
        host = inetNtoa name.addr ∨
        ∃ a, inetPton host = some a ∧ ¬(a.a = 127 ∨ a = .any ∨ a ∈ interfaces) := by
  have hloop : isLoopback (some name) host port = true ↔ (host = ascii "127.0.0.1" ∨
      host = ascii "localhost" ∨ host = inetNtoa name.addr) ∧ port = name.port := by
    simp [isLoopback, or_assoc]
  have hreach : ReachesProxy interfaces name.port (dialled host port) ↔ port = name.port ∧
      ¬∃ a, inetPton host = some a ∧ ¬(a.a = 127 ∨ a = .any ∨ a ∈ interfaces) :=
    and_congr_right fun _ => dialled_addr_iff
      (P := fun a => a.a = 127 ∨ a = .any ∨ a ∈ interfaces) (.inr (.inl rfl)) port
  rw [hloop, hreach]
  constructor
  · intro h
    by_cases hport : port = name.port
    · by_cases helse : ∃ a, inetPton host = some a ∧ ¬(a.a = 127 ∨ a = .any ∨ a ∈ interfaces)
      · exact .inr (.inr (.inr (.inr helse)))
      · rcases (h ⟨hport, helse⟩).1 with hhost | hhost | hhost
        · exact .inr (.inl hhost)
        · exact .inr (.inr (.inl hhost))
        · exact .inr (.inr (.inr (.inl hhost)))
    · exact .inl hport
  · rintro (hport | hhost | hhost | hhost | helse) ⟨hsame, hno⟩
    · exact absurd hsame hport
    · exact ⟨.inl hhost, hsame⟩
    · exact ⟨.inr (.inl hhost), hsame⟩
    · exact ⟨.inr (.inr hhost), hsame⟩
    · exact absurd helse hno

end BlacklistChecker

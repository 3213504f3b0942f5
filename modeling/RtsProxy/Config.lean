import RtsProxy.Text.Number

/-!
# Configuration

The settings of `ServerConfig` and `URLRewriter` that the modelled code reads, and
the addresses of IPv4 as the socket library reads and prints them.
-/

open Text

/-! ## Addresses -/

/-- An IPv4 address (`in_addr`). -/
structure Ipv4 where
  a : UInt8
  b : UInt8
  c : UInt8
  d : UInt8
  deriving DecidableEq, Repr

/-- `INADDR_ANY`, the address of a cleared `sockaddr_in`. -/
def Ipv4.any : Ipv4 := ⟨0, 0, 0, 0⟩

/-- The bytes of an address, in network order. -/
def Ipv4.bytes (i : Ipv4) : Bytes := [i.a, i.b, i.c, i.d]

/-- `inet_ntoa` -/
def inetNtoa (i : Ipv4) : Bytes :=
  decimal i.a.toNat ++ ascii "." ++ decimal i.b.toNat ++ ascii "." ++
    decimal i.c.toNat ++ ascii "." ++ decimal i.d.toNat

/-- An octet of a dotted address: digits, no leading zero, at most 255. -/
def readOctet (s : Bytes) : Option UInt8 :=
  if s = [] ∨ s.any (! isDigit ·) ∨ (s.head? = some 48 ∧ 1 < s.length) then none
  else if natOfDigits s ≤ 255 then some (natOfDigits s).toUInt8
  else none

/-- `inet_pton` for `AF_INET`, of the text up to its first NUL. -/
def inetPton (s : Bytes) : Option Ipv4 :=
  match (s.takeWhile (· ≠ 0)).splitOn 46 with
  | [a, b, c, d] => do
    return ⟨← readOctet a, ← readOctet b, ← readOctet c, ← readOctet d⟩
  | _ => none

/-- An address and a port (`sockaddr_in`, the port in host order). -/
structure SockAddr where
  addr : Ipv4
  port : Nat
  deriving DecidableEq, Repr

/-- A cleared `sockaddr_in`. -/
def SockAddr.zero : SockAddr := ⟨.any, 0⟩

/-! ## Settings -/

/-- What a rewriting template does. -/
inductive TemplateAction
  | remove
  | replace (replacement : Bytes)
  | timeshift (shiftHours : Int)
  /-- An action that is not known does nothing. -/
  | other
  deriving DecidableEq, Repr

/-- A rewriting template, an entry of `replace_templates`: its pattern (`match`) and
    its action. -/
structure Template where
  pattern : Bytes
  action : TemplateAction
  deriving DecidableEq, Repr

/-- The calendar of the C library, in the format `%Y%m%d%H%M%S`. -/
structure Calendar where
  /-- `strptime` and `mktime`: the time that a text denotes in the local zone. -/
  parse : Bytes → Option Int
  /-- `localtime` and `strftime`. -/
  formatLocal : Int → Bytes
  /-- `gmtime` and `strftime`. -/
  formatUtc : Int → Bytes

/-- A calendar that knows no dates. -/
instance : Inhabited Calendar := ⟨⟨fun _ => none, fun _ => [], fun _ => []⟩⟩

/-- The settings. -/
structure ServerConfig where
  /-- `auth_token`; empty: no token is needed. -/
  token : Bytes := []
  enableNat : Bool := false
  natMethod : Bytes := ascii "stun"
  stripPadding : Bool := false
  waitKeyframe : Bool := false
  replaceTemplates : List Template := []

/-- Mapped ports are asked of a STUN server. -/
def ServerConfig.usesStun (cfg : ServerConfig) : Bool :=
  cfg.enableNat && cfg.natMethod = ascii "stun"

/-- Ports are kept open by the heartbeats of one vendor. -/
def ServerConfig.usesZte (cfg : ServerConfig) : Bool :=
  cfg.enableNat && cfg.natMethod = ascii "zte"

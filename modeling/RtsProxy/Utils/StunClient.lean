import RtsProxy.Protocol.RtpPipeline

/-!
# Ports behind a NAT

`StunClient`: the mapped address in the reply of a STUN server, the value of the first
attribute that has one. Offsets of attribute values are 16-bit numbers. And the heartbeat
by which one vendor's servers find the ports of the relay (`zteHeartbeat`).
-/

open Text RtpPipeline

namespace StunClient

/-- The magic cookie, in network order. -/
def magicCookie : Bytes := [0x21, 0x12, 0xA4, 0x42]

/-- The address and the port in the value of an attribute at an index, with a mask that
    is the cookie for the attribute `XOR-MAPPED-ADDRESS` as it is read here. -/
def mappedAddress (rsp : Bytes) (val : Nat) (mask : Bytes) : SockAddr :=
  let at_ := fun i => byteAt rsp (val + i)
  let m := fun i => byteAt mask i
  { addr := ⟨at_ 4 ^^^ m 0, at_ 5 ^^^ m 1, at_ 6 ^^^ m 2, at_ 7 ^^^ m 3⟩
    port := 256 * (at_ 2 ^^^ m 0).toNat + (at_ 3 ^^^ m 1).toNat }

/-- The loop over the attributes from an offset on. -/
def attributesFrom (rsp : Bytes) (msgLen : Nat) : Nat → Nat → Option SockAddr
  | 0, _ => none
  | fuel + 1, offset =>
    if offset + 4 ≤ 20 + msgLen ∧ offset + 4 ≤ rsp.length then
      let type := word16 rsp offset
      let len := word16 rsp (offset + 2)
      let val := (offset + 4) % 65536
      let padded := if len % 4 = 0 then len else len + (4 - len % 4)
      if rsp.length < val + len then none
      else if type = 0x0020 ∧ 8 ≤ len ∧ byteAt rsp (val + 1) = 1 then
        some (mappedAddress rsp val magicCookie)
      else if type = 0x0001 ∧ 8 ≤ len ∧ byteAt rsp (val + 1) = 1 then
        some (mappedAddress rsp val [0, 0, 0, 0])
      else attributesFrom rsp msgLen fuel (offset + 4 + padded)
    else none

/-- `extract_stun_mapping_from_response` -/
def extractMapping (rsp : Bytes) : Option SockAddr :=
  if rsp.length < 20 then none
  else if (rsp.drop 4).take 4 ≠ magicCookie then none
  else attributesFrom rsp (word16 rsp 2) (rsp.length + 1) 20

end StunClient

/-- The heartbeat that `send_zte_heartbeat` sends, 84 bytes long. -/
def zteHeartbeat (localIp : Bytes) (udpPort tcpPort : Nat) : Bytes :=
  ascii "ZXV10STB" ++ [0x7f, 0xff, 0xff, 0xff] ++ ((inetPton localIp).getD .any).bytes ++
    be16 udpPort ++ be16 tcpPort ++ List.replicate 64 0

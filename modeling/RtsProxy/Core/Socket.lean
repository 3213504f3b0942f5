import RtsProxy.Config

/-!
# Sockets

What the handlers take from their sockets, and what they wait for.
-/

/-- The result of `recv`. -/
inductive RecvResult
  | data (bytes : Bytes)
  | endOfStream
  | wouldBlock
  | failed
  deriving DecidableEq, Repr

/-- A datagram to be received. -/
structure Incoming where
  src : SockAddr
  payload : Bytes
  deriving DecidableEq, Repr

/-- The events a descriptor is watched for, besides errors. -/
structure Interest where
  readable : Bool := false
  writable : Bool := false
  deriving DecidableEq, Repr

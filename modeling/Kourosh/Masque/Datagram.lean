import Kourosh.Masque.Capsule

/-
  IP packets of a CONNECT-IP stream. An HTTP/3 DATAGRAM holds the quarter stream id, the context
  id, and the IP packet. An HTTP/2 stream has DATAGRAM capsules, with or without a context id.
-/

-- Datagrams

namespace Kourosh.Masque

def quarterStreamId (streamId : Nat) : Nat := streamId / 4

def connectIpContextId : Nat := 0

/- `varint_len`, as the width it is the length of. -/
def varintWidth (v : Nat) : VarintWidth :=
  if v < 2 ^ 6 then .one
  else if v < 2 ^ 14 then .two
  else if v < 2 ^ 30 then .four
  else .eight

/- `put_varint` of a number below 2^62. -/
def putVarint (v : Nat) : Bytes := varintBytes (varintWidth v) v

def encodeIpDatagram (streamId : Nat) (packet : Bytes) : Bytes :=
  putVarint (quarterStreamId streamId) ++ (putVarint connectIpContextId ++ packet)

def decodeIpDatagram (datagram : Bytes) (streamId : Nat) : Except AetherError (Option Bytes) := do
  let (qsid, b) ← orOct (Octets.withSlice datagram).getVarint
  if qsid ≠ quarterStreamId streamId then return none
  let (ctx, b) ← orOct b.getVarint
  if ctx ≠ connectIpContextId then return none
  let (payload, _) ← orOct (b.getBytes b.cap)
  return some payload

-- Datagram Capsules

def encodeCapsule (kind : Nat) (value : Bytes) : Bytes :=
  putVarint kind ++ (putVarint value.length ++ value)

def encodeDatagramCapsule (packet : Bytes) : Bytes := encodeCapsule capsuleDatagram packet

def looksLikeIpPacket : Bytes → Bool
| [] => false
| first :: rest => (first >>> 4 = 4 || first >>> 4 = 6) && (first :: rest).length ≥ 20

def behindContext (payload : Bytes) : Option Bytes :=
  match (Octets.withSlice payload).getVarint with
  | none => none
  | some (ctx, b) =>
    let inner := payload.drop (payload.length - b.cap)
    if ctx = connectIpContextId ∧ looksLikeIpPacket inner then some inner
    else none

def stripDatagramContext (payload : Bytes) : Option Bytes :=
  if payload = [] then none
  else
    match behindContext payload with
    | some inner => some inner
    | none => if looksLikeIpPacket payload then some payload else none

end Kourosh.Masque

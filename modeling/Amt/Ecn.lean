import Amt.Ip

/-!
# ECN at the tunnel exit

A gateway combines the ECN field of the outer header with that of the embedded packet
and writes the result back into the embedded packet.  For IPv4 that changes a byte the
header checksum covers, so the checksum is recomputed.

The validators here are the ECN code's own: they are written apart from those of
`parseMulticastPacket`, and check lengths only.
-/

namespace Amt

open Outcome (ensure)
open Target (fits representable)

/-- The two-bit ECN field of an IP header. -/
inductive EcnCodepoint where
  | notEct
  | ect1
  | ect0
  | ce
deriving DecidableEq, Repr

namespace EcnCodepoint

/-- The two low bits of the traffic class. -/
def fromBits (bits : UInt8) : EcnCodepoint :=
  match bits &&& 3 with
  | 1 => ect1
  | 2 => ect0
  | 3 => ce
  | _ => notEct

def bits : EcnCodepoint → UInt8
  | notEct => 0
  | ect1 => 1
  | ect0 => 2
  | ce => 3

end EcnCodepoint

/-- The result for one decapsulated packet; no output means that the packet must be
dropped. -/
structure EcnDecapsulation where
  inner : EcnCodepoint
  outer : EcnCodepoint
  output : Option EcnCodepoint
  currentlyUnused : Bool
deriving DecidableEq, Repr

namespace EcnDecapsulation

/-- A packet without a codepoint to go on with is dropped. -/
def isDrop (result : EcnDecapsulation) : Bool := result.output.isNone

end EcnDecapsulation

/-- Why a packet has no codepoint. -/
inductive EcnError where
  | truncated
  | unsupportedVersion (version : UInt8)
  | invalidHeader
  | invalidLength
deriving DecidableEq, Repr

section

variable [Target] (packet : Bytes)

/-- `validate_ipv4`: the header length of a packet of exactly its total length. -/
def validateIpv4 : Outcome EcnError ℕ := do
  ensure (¬ packet.length < ipv4MinHeaderLen) .truncated
  let headerLen := ((← byteAt packet 0) &&& 0x0f).toNat * 4
  fits headerLen
  ensure (¬ (headerLen < ipv4MinHeaderLen ∨ headerLen > packet.length)) .invalidHeader
  let totalLen := (← u16At packet 2).toNat
  ensure (¬ (totalLen < headerLen ∨ totalLen ≠ packet.length)) .invalidLength
  pure headerLen

/-- `validate_ipv6`. -/
def validateIpv6 : Outcome EcnError Unit := do
  ensure (¬ packet.length < ipv6HeaderLen) .truncated
  let payloadLen := (← u16At packet 4).toNat
  ensure (representable (ipv6HeaderLen + payloadLen)) .invalidLength
  ensure (ipv6HeaderLen + payloadLen = packet.length) .invalidLength

/-- The codepoint of an IP packet of exactly the length in its header. -/
def ipEcn : Outcome EcnError EcnCodepoint :=
  match packet.head? with
  | none => .err .truncated
  | some first =>
      match first >>> 4 with
      | 4 => do
          let _ ← validateIpv4 packet
          pure (.fromBits (← byteAt packet 1))
      | 6 => do
          validateIpv6 packet
          pure (.fromBits ((← byteAt packet 1) >>> 4))
      | other => .err (.unsupportedVersion other)

end

/-- The output of a decapsulation, and whether the combination is currently unused. -/
def decapsulationResult : EcnCodepoint → EcnCodepoint → Option EcnCodepoint × Bool
  | .notEct, .ce => (none, true)
  | .notEct, .notEct => (some .notEct, false)
  | .notEct, .ect0 | .notEct, .ect1 => (some .notEct, true)
  | .ect0, .notEct | .ect0, .ect0 => (some .ect0, false)
  | .ect0, .ect1 => (some .ect1, false)
  | .ect0, .ce => (some .ce, false)
  | .ect1, .notEct | .ect1, .ect1 => (some .ect1, false)
  | .ect1, .ect0 => (some .ect1, true)
  | .ect1, .ce => (some .ce, false)
  | .ce, .ect1 => (some .ce, true)
  | .ce, .notEct | .ce, .ect0 | .ce, .ce => (some .ce, false)

section

variable [Target] (packet : Bytes)

/-- Write the codepoint; an IPv4 header gets a new checksum. -/
def setIpEcn (ecn : EcnCodepoint) : Outcome EcnError Bytes :=
  match packet.head? with
  | none => .err .truncated
  | some first =>
      match first >>> 4 with
      | 4 => do
          let headerLen ← validateIpv4 packet
          let packet ← setAt packet 1 (((← byteAt packet 1) &&& ~~~(3 : UInt8)) ||| ecn.bits)
          let packet ← copyInto packet 10 12 [0, 0]
          let header ← slice packet 0 headerLen
          sumFits [header]
          copyInto packet 10 12 (u16ToBe (checksum header))
      | 6 => do
          validateIpv6 packet
          setAt packet 1 (((← byteAt packet 1) &&& ~~~(0x30 : UInt8)) ||| (ecn.bits <<< 4))
      | other => .err (.unsupportedVersion other)

/-- The packet is rewritten in place, so it is returned next to the result. -/
def decapsulateEcn (outer : EcnCodepoint) : Outcome EcnError (Bytes × EcnDecapsulation) := do
  let inner ← ipEcn packet
  let (output, currentlyUnused) := decapsulationResult inner outer
  let result : EcnDecapsulation := { inner, outer, output, currentlyUnused }
  match output with
  | some output =>
      if output ≠ inner then pure (← setIpEcn packet output, result) else pure (packet, result)
  | none => pure (packet, result)

end

end Amt

import Amt.Net
import Amt.Checksum

/-!
# IP datagrams

The checks a multicast datagram passes before it is forwarded, the groups an AMT
tunnel carries at all, and the two Router Alert scans that membership packets and
General Queries share.  Offsets are checked against a `Target`.
-/

namespace Amt

open Outcome (ensure)
open Target (fits representable)

def ipv4MinHeaderLen : ℕ := 20

def ipv6HeaderLen : ℕ := 40

/-- What the data path reads from a multicast datagram. -/
structure MulticastPacket where
  source : IpAddr
  group : IpAddr
  ipProtocol : UInt8
  datagramLen : ℕ
  fragmented : Bool
deriving DecidableEq, Repr

/-- Why a packet is not one to forward. -/
inductive IpPacketError where
  | truncated
  | unsupportedVersion (version : UInt8)
  | invalidHeader
  | invalidLength
  | invalidChecksum
  | invalidSource (source : IpAddr)
  | nonMulticastDestination (destination : IpAddr)
deriving DecidableEq, Repr

/-- Groups an AMT relay forwards: no link-local IPv4 block, and an IPv6 scope wider
than link-local and not reserved. -/
def isAmtForwardableGroup : IpAddr → Bool
  | .v4 group => group.isMulticast && group.octets.toList.take 3 != [224, 0, 0]
  | .v6 group =>
      let scope := group.segment0 &&& 0x000f
      group.isMulticast && (3 ≤ scope && scope < 15)

/-! ## Router Alert options -/

section RouterAlert

variable {ε : Type*} [Target]

/-- The loop of `has_ipv4_router_alert`, from one option boundary on. -/
def ipv4RouterAlertFrom (options : Bytes) (offset : ℕ) : Outcome ε Bool :=
  if hoffset : offset < options.length then do
    fits (offset + 1)
    match options.get ⟨offset, hoffset⟩ with
    | 0 => .ok false
    | 1 => ipv4RouterAlertFrom options (offset + 1)
    | kind =>
        match options[offset + 1]? with
        | none => .ok false
        | some lengthByte => do
            let length := lengthByte.toNat
            fits (offset + length)
            if _hlength : length < 2 ∨ offset + length > options.length then .ok false
            else do
              let found ←
                if kind = 0x94 ∧ length = 4 then
                  (· == [0, 0]) <$> slice options (offset + 2) (offset + 4)
                else pure false
              if found then .ok true else ipv4RouterAlertFrom options (offset + length)
  else .ok false
termination_by options.length - offset
decreasing_by
  · omega
  · push Not at _hlength
    have : 2 ≤ lengthByte.toNat := _hlength.1
    omega

/-- `has_ipv4_router_alert`: the option is present, and none before it is malformed. -/
def hasIpv4RouterAlert (options : Bytes) : Outcome ε Bool := ipv4RouterAlertFrom options 0

/-- The loop of `has_ipv6_router_alert`, from one option boundary on. -/
def ipv6RouterAlertFrom (options : Bytes) (offset : ℕ) : Outcome ε Bool :=
  if hoffset : offset < options.length then do
    fits (offset + 1)
    let kind := options.get ⟨offset, hoffset⟩
    if kind = 0 then ipv6RouterAlertFrom options (offset + 1)
    else
      match options[offset + 1]? with
      | none => .ok false
      | some length => do
          let optionEnd := offset + 2 + length.toNat
          fits optionEnd
          if optionEnd > options.length then .ok false
          else do
            let found ←
              if kind = 5 ∧ length = 2 then (· == [0, 0]) <$> slice options (offset + 2) optionEnd
              else pure false
            if found then .ok true else ipv6RouterAlertFrom options optionEnd
  else .ok false
termination_by options.length - offset
decreasing_by
  · omega
  · omega

/-- `has_ipv6_router_alert`. -/
def hasIpv6RouterAlert (options : Bytes) : Outcome ε Bool := ipv6RouterAlertFrom options 0

end RouterAlert

section

variable {ε : Type*}

/-- The Router Alert option the builders write is found. -/
theorem hasIpv4RouterAlert_builder : (hasIpv4RouterAlert [0x94, 4, 0, 0] : Outcome ε Bool)
    = .ok true := by
  rw [hasIpv4RouterAlert, ipv4RouterAlertFrom]
  rfl

theorem hasIpv6RouterAlert_builder : (hasIpv6RouterAlert [5, 2, 0, 0, 1, 0] : Outcome ε Bool)
    = .ok true := by
  rw [hasIpv6RouterAlert, ipv6RouterAlertFrom]
  rfl

end

/-! ## Multicast datagrams -/

/-- `read_ipv4`. -/
def readIpv4 {ε : Type*} [Target] (bytes : Bytes) (offset : ℕ) : Outcome ε Ipv4Addr := do
  fits (offset + 3)
  let a ← byteAt bytes offset
  let b ← byteAt bytes (offset + 1)
  let c ← byteAt bytes (offset + 2)
  let d ← byteAt bytes (offset + 3)
  pure (Ipv4Addr.new a b c d)

/-- `read_ipv6`. -/
def readIpv6 {ε : Type*} [Target] (bytes : Bytes) (offset : ℕ) : Outcome ε Ipv6Addr := do
  fits (offset + 16)
  let octets ← Octets.ofSlice (← slice bytes offset (offset + 16))
  pure ⟨octets⟩

theorem readIpv6_append {ε : Type*} {front : Bytes} (back : Bytes) (a : Ipv6Addr) {i : ℕ}
    (hi : i = front.length) :
    (readIpv6 (front ++ (a.octets.toList ++ back)) i : Outcome ε Ipv6Addr) = .ok a := by
  rw [readIpv6, slice_append back hi (by rw [hi, a.octets.length_toList])]
  simp only [Outcome.bind_ok, Octets.ofSlice_toList]
  rfl

theorem readIpv4_leOk_append {ε : Type*} (bytes z : Bytes) (offset : ℕ) :
    (readIpv4 bytes offset : Outcome ε Ipv4Addr).LeOk (readIpv4 (bytes ++ z) offset) :=
  (byteAt_leOk_append bytes z _).bind fun _ => (byteAt_leOk_append bytes z _).bind fun _ =>
    (byteAt_leOk_append bytes z _).bind fun _ => (byteAt_leOk_append bytes z _).bind fun _ =>
      .refl _

theorem readIpv6_leOk_append {ε : Type*} (bytes z : Bytes) (offset : ℕ) :
    (readIpv6 bytes offset : Outcome ε Ipv6Addr).LeOk (readIpv6 (bytes ++ z) offset) :=
  (slice_leOk_append bytes z _ _).bind fun _ => .refl _

/-- A source no datagram may carry. -/
def invalidSource : IpAddr → Bool
  | .v4 source => source.isUnspecified || source.isMulticast || source.isBroadcast
  | .v6 source => source.isUnspecified || source.isMulticast

/-- A unicast source and a multicast destination. -/
def validateAddresses (source group : IpAddr) : Outcome IpPacketError Unit := do
  ensure (¬ invalidSource source) (.invalidSource source)
  ensure group.isMulticast (.nonMulticastDestination group)

section Parse

variable [Target] (datagram : Bytes)

/-- The IPv4 header, with its checksum. -/
def parseIpv4 : Outcome IpPacketError MulticastPacket := do
  ensure (¬ datagram.length < ipv4MinHeaderLen) .truncated
  let ihl := ((← byteAt datagram 0) &&& 0x0f).toNat * 4
  fits ihl
  ensure (¬ (ihl < ipv4MinHeaderLen ∨ ihl > datagram.length)) .invalidHeader
  let totalLen := (← u16At datagram 2).toNat
  ensure (¬ (totalLen < ihl ∨ totalLen ≠ datagram.length)) .invalidLength
  let header ← slice datagram 0 ihl
  sumFits [header]
  ensure (onesComplementSum header = 0xffff) .invalidChecksum
  let source := IpAddr.v4 (← readIpv4 datagram 12)
  let group := IpAddr.v4 (← readIpv4 datagram 16)
  validateAddresses source group
  let fragment ← u16At datagram 6
  let ipProtocol ← byteAt datagram 9
  pure { source, group, ipProtocol, datagramLen := totalLen,
         fragmented := fragment &&& (0x2000 ||| 0x1fff) != 0 }

/-- Only a fragment header that follows at once is seen. -/
def parseIpv6 : Outcome IpPacketError MulticastPacket := do
  ensure (¬ datagram.length < ipv6HeaderLen) .truncated
  let payloadLen := (← u16At datagram 4).toNat
  let totalLen := ipv6HeaderLen + payloadLen
  ensure (representable totalLen) .invalidLength
  ensure (totalLen = datagram.length) .invalidLength
  let source := IpAddr.v6 (← readIpv6 datagram 8)
  let group := IpAddr.v6 (← readIpv6 datagram 24)
  validateAddresses source group
  let ipProtocol ← byteAt datagram 6
  pure { source, group, ipProtocol, datagramLen := totalLen, fragmented := ipProtocol == 44 }

/-- By the version in the first byte. -/
def parseMulticastPacket : Outcome IpPacketError MulticastPacket :=
  match datagram.head? with
  | none => .err .truncated
  | some first =>
      match first >>> 4 with
      | 4 => parseIpv4 datagram
      | 6 => parseIpv6 datagram
      | version => .err (.unsupportedVersion version)

end Parse

end Amt

import Amt.Mtu
import Amt.ControlPlane
import Amt.Lib.InPlace

/-!
# Path MTU feedback

A relay that cannot forward a datagram whole tells its sender what fits the tunnel, with an
ICMP error from its own address.  This file is the model of that feedback.

* **The packets** (`buildPmtuFeedback`): Fragmentation Needed for IPv4 and Packet Too Big for
  IPv6, each written into a zeroed buffer at fixed offsets, with as much of the invoking packet
  as the smallest MTU of the family leaves room for.
* **The suppression** (`suppressIcmpError`): no error answers an ICMP error.  For IPv6 that
  needs the upper layer, which `ipv6UpperLayer` looks for behind the extension headers.
* **The rate** (`FeedbackRateLimiter`): one error for a flow in an interval, and a bounded
  number of flows.
* **The sender** (`PmtuFeedbackSender.send`) puts the three in order.  The raw socket is a
  parameter, so any of its calls may fail; the limiter keeps what it recorded when one does.
-/

namespace Amt

open Outcome (ensure)

def icmpHeaderLen : ℕ := 8

/-- What every IPv4 host can reassemble, which bounds the quote. -/
def ipv4MinReassemblyMtu : ℕ := 576

/-- What every IPv6 link carries, which bounds the quote. -/
def ipv6MinMtu : ℕ := 1280

def icmpv4Protocol : UInt8 := 1

def icmpv6Protocol : UInt8 := 58

/-- What has become of the feedback for a packet. -/
inductive PmtuFeedbackOutcome where
  | sent (bytesSent : ℕ)
  | rateLimited
  | suppressed
  | addressFamilyUnavailable
deriving DecidableEq, Repr

/-- The errors, with `τ` for those of the raw socket. -/
inductive PmtuFeedbackError (τ : Type) where
  | invalidPacket (error : IpPacketError)
  | invalidLocalAddress (address : IpAddr)
  | invalidMtu (mtu : ℕ)
  | transport (error : τ)
deriving DecidableEq, Repr

/-! ## The rate limiter -/

/-- A source and a group, in the order of the pair of addresses. -/
abbrev FeedbackFlow := IpAddr ×ₗ IpAddr

/-- At most one feedback per flow and interval, for a bounded number of flows. -/
structure FeedbackRateLimiter where
  lastFeedback : BTreeMap FeedbackFlow Instant
  expirations : List (FeedbackFlow × Instant)
  minimumInterval : Duration
  maxTrackedFlows : ℕ

namespace FeedbackRateLimiter

def new (minimumInterval : Duration) (maxTrackedFlows : ℕ) : FeedbackRateLimiter :=
  { lastFeedback := ∅, expirations := [], minimumInterval, maxTrackedFlows }

/-- `expired` in `allow`: an instant in the future has not expired. -/
def expired (limiter : FeedbackRateLimiter) (now observed : Instant) : Bool :=
  (checkedDurationSince now observed).any fun elapsed => limiter.minimumInterval ≤ elapsed

/-- The loop of `allow` over the queue `expirations`: pop what has expired, and remove the
flow from the map unless it was recorded again since. -/
def expireFront (limiter : FeedbackRateLimiter) (now : Instant) :
    List (FeedbackFlow × Instant) → BTreeMap FeedbackFlow Instant → FeedbackRateLimiter
  | [], lastFeedback => { limiter with lastFeedback, expirations := [] }
  | (key, observed) :: expirations, lastFeedback =>
      if limiter.expired now observed then
        limiter.expireFront now expirations
          (if lastFeedback[key]? = some observed then lastFeedback.erase key else lastFeedback)
      else { limiter with lastFeedback, expirations := (key, observed) :: expirations }

/-- `allow`, with the clock as an argument. -/
def allow (limiter : FeedbackRateLimiter) (source group : IpAddr) (now : Instant) :
    FeedbackRateLimiter × Bool :=
  let limiter := limiter.expireFront now limiter.expirations limiter.lastFeedback
  let key : FeedbackFlow := toLex (source, group)
  if limiter.lastFeedback.contains key ∨ limiter.maxTrackedFlows ≤ limiter.lastFeedback.size then
    (limiter, false)
  else
    ({ limiter with
        lastFeedback := limiter.lastFeedback.insert key now
        expirations := limiter.expirations ++ [(key, now)] }, true)

end FeedbackRateLimiter

/-! ## The feedback packets -/

section Build

variable {τ : Type}

/-- Fragmentation Needed: the MTU and the beginning of the packet, to its source. -/
def buildIcmpv4FragmentationNeeded (localAddress destination : Ipv4Addr) (invokingPacket : Bytes)
    (tunnelMtu : ℕ) : Outcome (PmtuFeedbackError τ) Bytes := do
  ensure (tunnelMtu < 2 ^ 16) (.invalidMtu tunnelMtu)
  let mtu := UInt16.ofNat tunnelMtu
  let maxQuote := ipv4MinReassemblyMtu - ipv4HeaderLen - icmpHeaderLen
  let quoteLen := min invokingPacket.length maxQuote
  let totalLen := ipv4HeaderLen + icmpHeaderLen + quoteLen
  let packet : Bytes := List.replicate totalLen 0
  let packet ← setAt packet 0 0x45
  let packet ← copyInto packet 2 4 (u16ToBe (UInt16.ofNat totalLen))
  let packet ← setAt packet 8 64
  let packet ← setAt packet 9 icmpv4Protocol
  let packet ← copyInto packet 12 16 localAddress.octets.toList
  let packet ← copyInto packet 16 20 destination.octets.toList
  let packet ← setAt packet 20 3
  let packet ← setAt packet 21 4
  let packet ← copyInto packet 26 28 (u16ToBe mtu)
  let packet ← copyInto packet 28 packet.length (← slice invokingPacket 0 quoteLen)
  let icmpChecksum := checksum (← sliceFrom packet ipv4HeaderLen)
  let packet ← copyInto packet 22 24 (u16ToBe icmpChecksum)
  let headerChecksum := checksum (← slice packet 0 ipv4HeaderLen)
  copyInto packet 10 12 (u16ToBe headerChecksum)

/-- Packet Too Big, with a checksum over the pseudo-header. -/
def buildIcmpv6PacketTooBig (localAddress destination : Ipv6Addr) (invokingPacket : Bytes)
    (tunnelMtu : ℕ) : Outcome (PmtuFeedbackError τ) Bytes := do
  ensure (tunnelMtu < 2 ^ 32) (.invalidMtu tunnelMtu)
  let mtu := UInt32.ofNat tunnelMtu
  let maxQuote := ipv6MinMtu - ipv6HeaderLen - icmpHeaderLen
  let quoteLen := min invokingPacket.length maxQuote
  let payloadLen := icmpHeaderLen + quoteLen
  let packet : Bytes := List.replicate (ipv6HeaderLen + payloadLen) 0
  let packet ← setAt packet 0 0x60
  let packet ← copyInto packet 4 6 (u16ToBe (UInt16.ofNat payloadLen))
  let packet ← setAt packet 6 icmpv6Protocol
  let packet ← setAt packet 7 64
  let packet ← copyInto packet 8 24 localAddress.octets.toList
  let packet ← copyInto packet 24 40 destination.octets.toList
  let packet ← setAt packet 40 2
  let packet ← copyInto packet 44 48 (u32ToBe mtu)
  let packet ← copyInto packet 48 packet.length (← slice invokingPacket 0 quoteLen)
  let icmpChecksum := icmpv6Checksum localAddress.octets destination.octets icmpv6Protocol
    (← sliceFrom packet ipv6HeaderLen)
  copyInto packet 42 44 (u16ToBe icmpChecksum)

/-- The feedback of the packet's family, if the local address is of that family. -/
def buildPmtuFeedback (localAddress : IpAddr) (invokingPacket : Bytes) (tunnelMtu : ℕ) :
    Outcome (PmtuFeedbackError τ) Bytes := do
  let parsed ← (parseMulticastPacket invokingPacket).mapErr .invalidPacket
  match localAddress, parsed.source with
  | .v4 localAddress, .v4 source =>
      buildIcmpv4FragmentationNeeded localAddress source invokingPacket tunnelMtu
  | .v6 localAddress, .v6 source =>
      buildIcmpv6PacketTooBig localAddress source invokingPacket tunnelMtu
  | localAddress, _ => .err (.invalidLocalAddress localAddress)

end Build

/-! ## The upper layer of an IPv6 packet -/

/-- `a.checked_add(b)` on the machine's word. -/
def checkedAdd (a b : ℕ) : Option ℕ := if a + b ≤ usizeMax then some (a + b) else none

/-- `a.checked_mul(b)` on the machine's word. -/
def checkedMul (a b : ℕ) : Option ℕ := if a * b ≤ usizeMax then some (a * b) else none

/-- The loop of `ipv6_upper_layer`, with the rounds that are left. -/
def ipv6UpperLayerFrom (packet : Bytes) : ℕ → UInt8 → ℕ → Option (UInt8 × ℕ)
  | 0, _, _ => none
  | rounds + 1, nextHeader, offset =>
      if nextHeader = 0 ∨ nextHeader = 43 ∨ nextHeader = 60 then do
        let nextHeader ← packet[offset]?
        let headerLen ← checkedMul ((← packet[offset + 1]?).toNat + 1) 8
        let offset ← checkedAdd offset headerLen
        if packet.length < offset then none
        else ipv6UpperLayerFrom packet rounds nextHeader offset
      else if nextHeader = 44 then do
        let nextHeader ← packet[offset]?
        let fragment := u16OfBe (← packet[offset + 2]?) (← packet[offset + 3]?)
        if fragment &&& 0xfff8 ≠ 0 then none
        else do
          let offset ← checkedAdd offset 8
          if packet.length < offset then none
          else ipv6UpperLayerFrom packet rounds nextHeader offset
      else if nextHeader = 51 then do
        let nextHeader ← packet[offset]?
        let headerLen ← checkedMul ((← packet[offset + 1]?).toNat + 2) 4
        let offset ← checkedAdd offset headerLen
        if packet.length < offset then none
        else ipv6UpperLayerFrom packet rounds nextHeader offset
      else if offset ≤ packet.length then some (nextHeader, offset)
      else none

/-- The upper-layer protocol of a packet and where it starts. -/
def ipv6UpperLayer (packet : Bytes) : Option (UInt8 × ℕ) := do
  let nextHeader ← packet[6]?
  ipv6UpperLayerFrom packet 16 nextHeader ipv6HeaderLen

/-- Is the packet an ICMP error, or one that cannot be told from it? -/
def suppressIcmpError {ε : Type*} (packet : Bytes) (parsed : MulticastPacket) : Outcome ε Bool :=
  match parsed.source with
  | .v4 _ =>
      if parsed.ipProtocol = icmpv4Protocol then
        if parsed.fragmented then .ok true
        else do
          let headerLen := ((← byteAt packet 0) &&& 0x0f).toNat * 4
          pure ((packet[headerLen]?).any fun kind =>
            kind = 3 || kind = 4 || kind = 5 || kind = 11 || kind = 12)
      else .ok false
  | .v6 _ =>
      .ok ((ipv6UpperLayer packet).all fun (protocol, offset) =>
        protocol = icmpv6Protocol && (packet[offset]?).all fun kind => kind < 128)

/-! ## The sender -/

/-- The raw sockets of the native library: `κ` is its context, `Id` its publications and `τ`
its errors. -/
structure RawIpTransport (κ Id τ : Type) where
  sendIpDatagram : κ → Id → Bytes → κ × Except τ ℕ

/-- The raw socket, the address it sends from, and the limiter. -/
structure PmtuFeedbackSender (κ Id : Type) where
  context : κ
  publication : Id
  localAddress : IpAddr
  limiter : FeedbackRateLimiter

namespace PmtuFeedbackSender

variable {κ Id τ : Type}

/-- The call of the limiter, which records the flow it lets through. -/
def allow (source group : IpAddr) (now : Instant) :
    InPlace (PmtuFeedbackSender κ Id) (PmtuFeedbackError τ) Bool := fun sender =>
  let (limiter, allowed) := sender.limiter.allow source group now
  (.ok allowed, { sender with limiter })

/-- The call of the raw socket. -/
def sendIpDatagram (transport : RawIpTransport κ Id τ) (datagram : Bytes) :
    InPlace (PmtuFeedbackSender κ Id) (PmtuFeedbackError τ) ℕ := fun sender =>
  let (context, report) := transport.sendIpDatagram sender.context sender.publication datagram
  ((Outcome.ofExcept report).mapErr .transport, { sender with context })

/-- The packet is read first, then suppressed or limited; only then is the feedback built. -/
def send (transport : RawIpTransport κ Id τ) (invokingPacket : Bytes) (tunnelMtu : ℕ)
    (now : Instant) :
    InPlace (PmtuFeedbackSender κ Id) (PmtuFeedbackError τ) PmtuFeedbackOutcome := do
  let parsed ← InPlace.inspect fun _ => (parseMulticastPacket invokingPacket).mapErr .invalidPacket
  let localAddress ← InPlace.inspect fun sender => .ok sender.localAddress
  if ¬ localAddress.sameFamily parsed.source then
    pure .addressFamilyUnavailable
  else if ← InPlace.inspect fun _ => suppressIcmpError invokingPacket parsed then
    pure .suppressed
  else if ¬ (← allow parsed.source parsed.group now) then
    pure .rateLimited
  else
    let feedback ← InPlace.inspect fun _ => buildPmtuFeedback localAddress invokingPacket tunnelMtu
    let bytesSent ← sendIpDatagram transport feedback
    pure (.sent bytesSent)

end PmtuFeedbackSender

end Amt

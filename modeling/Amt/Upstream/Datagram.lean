import Amt.Packet
import Amt.Protocol

/-!
# Captured datagrams

The capture hands out whole IP datagrams as the link delivered them: possibly padded, and
with checksums that the hardware was to fill in.  The relay normalises them before it
sends them on.

* **Normalising** cuts a datagram to its stated length, computes the IPv4 header checksum,
  and computes the UDP checksum of a datagram that is not a fragment.  The program does
  that twice: on a datagram alone (`normalizeForwardedDatagram`), and in place behind the
  two bytes of an AMT message (`normalizeEmbeddedMulticastData`); offsets are checked against a
  `Target`.
* **What the capture accepts** (`Captured`) is weaker than what the gateway's parser
  accepts: the header is there and its lengths fit, but checksums and padding are free.
* **What comes out** (`Captured.exists_normalize`) is one datagram for both presentations,
  and if the addresses are valid, it is one that the gateway's parser accepts.

The UDP repair writes behind the header only (`repairUdpChecksum_eq`), so it cannot spoil the
header checksum; what it writes is `repairedBody`, a function of the bytes behind the header
and of the pseudo-header.
-/

namespace Amt

open Outcome (ensure bind_ok bind_eq_ok_iff ensure_of pure_eq_ok ensure_eq_ok_iff)

open Target (fits)

variable {ε : Type*}

/-! ## The capture's checks -/

/-- What the capture asks of a pair of addresses. -/
def validMulticastAddresses (source group : IpAddr) : Bool :=
  let validSource := match source with
    | .v4 source => !source.isUnspecified && !source.isMulticast && !source.isBroadcast
    | .v6 source => !source.isUnspecified && !source.isMulticast
  validSource && group.isMulticast

/-- No addresses is the only error. -/
def parseIpv4DatagramAddresses (datagram : Bytes) : Outcome Unit (IpAddr × IpAddr) := do
  ensure (¬ datagram.length < 20) ()
  let ihl := ((← byteAt datagram 0) &&& 0x0f).toNat * 4
  ensure (¬ (ihl < 20 ∨ datagram.length < ihl)) ()
  let totalLen := (← u16At datagram 2).toNat
  ensure (¬ (totalLen < ihl ∨ datagram.length < totalLen)) ()
  let source ← readIpv4 datagram 12
  let group ← readIpv4 datagram 16
  pure (.v4 source, .v4 group)

def parseIpv6DatagramAddresses (datagram : Bytes) : Outcome Unit (IpAddr × IpAddr) := do
  ensure (¬ datagram.length < 40) ()
  let payloadLen := (← u16At datagram 4).toNat
  ensure (¬ datagram.length < 40 + payloadLen) ()
  let source ← readIpv6 datagram 8
  let group ← readIpv6 datagram 24
  pure (.v6 source, .v6 group)

def parseDatagramAddresses (datagram : Bytes) : Outcome Unit (IpAddr × IpAddr) :=
  match datagram.head? with
  | none => .err ()
  | some first =>
      match first >>> 4 with
      | 4 => parseIpv4DatagramAddresses datagram
      | 6 => parseIpv6DatagramAddresses datagram
      | _ => .err ()

/-! ## UDP checksums -/

/-- A computed checksum of zero is sent as `0xffff`: zero means no checksum. -/
def udpChecksumParts (parts : List Bytes) : UInt16 :=
  match checksumParts parts with
  | 0 => 0xffff
  | checksum => checksum

/-- `repair_udp_checksum_v4` and `repair_udp_checksum_v6`, which differ in the
pseudo-header. -/
def repairUdpChecksum [Target] (pseudoHeader : Bytes → ℕ → Outcome ε (List Bytes))
    (datagram : Bytes) (udpOffset : ℕ) : Outcome ε Bytes := do
  fits (udpOffset + 8)
  if datagram.length < udpOffset + 8 then pure datagram
  else do
    let udpLen := (← u16At datagram (udpOffset + 4)).toNat
    fits (udpOffset + udpLen)
    if udpLen < 8 ∨ datagram.length < udpOffset + udpLen then pure datagram
    else do
      let datagram ← setAt datagram (udpOffset + 6) 0
      let datagram ← setAt datagram (udpOffset + 7) 0
      let parts ← pseudoHeader datagram udpLen
      let udp ← slice datagram udpOffset (udpOffset + udpLen)
      sumFits (parts ++ [udp])
      copyInto datagram (udpOffset + 6) (udpOffset + 8)
        (u16ToBe (udpChecksumParts (parts ++ [udp])))

/-- The parts that are summed before the UDP datagram. -/
def pseudoHeaderV4 (datagram : Bytes) (udpLen : ℕ) : Outcome ε (List Bytes) := do
  let source ← slice datagram 12 16
  let destination ← slice datagram 16 20
  pure [source, destination, [0, 17], u16ToBe (UInt16.ofNat udpLen)]

def pseudoHeaderV6 (datagram : Bytes) (udpLen : ℕ) : Outcome ε (List Bytes) := do
  let source ← slice datagram 8 24
  let destination ← slice datagram 24 40
  pure [source, destination, u32ToBe (UInt32.ofNat udpLen), [0, 0, 0, 17]]

section Normalize

variable [Target]

def repairUdpChecksumV4 (datagram : Bytes) (udpOffset : ℕ) : Outcome ε Bytes :=
  repairUdpChecksum pseudoHeaderV4 datagram udpOffset

def repairUdpChecksumV6 (datagram : Bytes) (udpOffset : ℕ) : Outcome ε Bytes :=
  repairUdpChecksum pseudoHeaderV6 datagram udpOffset

/-! ## Normalisation -/

/-- The last lines of both IPv4 normalisations: repair the UDP checksum of a datagram that
is not a fragment. -/
def repairUnfragmentedUdp (packet : Bytes) (ihl : ℕ) : Outcome ε Bytes := do
  let fragment ← u16At packet 6
  let protocol ← byteAt packet 9
  if protocol = 17 ∧ fragment &&& 0x3fff = 0 then repairUdpChecksumV4 packet ihl
  else pure packet

/-- The last lines of both IPv6 normalisations. -/
def repairUdpNextHeader (packet : Bytes) : Outcome ε Bytes := do
  let nextHeader ← byteAt packet 6
  if nextHeader = 17 then repairUdpChecksumV6 packet 40 else pure packet

/-- Cut to the total length, with new checksums; a malformed datagram is passed on. -/
def normalizeIpv4ForwardedDatagram (datagram : Bytes) : Outcome ε Bytes :=
  if datagram.length < 20 then pure datagram
  else do
    let ihl := ((← byteAt datagram 0) &&& 0x0f).toNat * 4
    fits ihl
    if ihl < 20 ∨ datagram.length < ihl then pure datagram
    else do
      let totalLen := (← u16At datagram 2).toNat
      if totalLen < ihl ∨ datagram.length < totalLen then pure datagram
      else do
        let normalized ← slice datagram 0 totalLen
        let normalized ← setAt normalized 10 0
        let normalized ← setAt normalized 11 0
        let header ← slice normalized 0 ihl
        sumFits [header]
        let normalized ← copyInto normalized 10 12 (u16ToBe (checksum header))
        repairUnfragmentedUdp normalized ihl

/-- Cut to the payload length, with a new UDP checksum. -/
def normalizeIpv6ForwardedDatagram (datagram : Bytes) : Outcome ε Bytes :=
  if datagram.length < 40 then pure datagram
  else do
    let totalLen := 40 + (← u16At datagram 4).toNat
    fits totalLen
    if datagram.length < totalLen then pure datagram
    else do
      let normalized ← slice datagram 0 totalLen
      repairUdpNextHeader normalized

/-- By the version in the first byte; anything else is passed on. -/
def normalizeForwardedDatagram (datagram : Bytes) : Outcome ε Bytes :=
  match datagram.head? with
  | none => pure datagram
  | some first =>
      match first >>> 4 with
      | 4 => normalizeIpv4ForwardedDatagram datagram
      | 6 => normalizeIpv6ForwardedDatagram datagram
      | _ => pure datagram

/-- The normalisation of an encoded Multicast Data message, in place. -/
def normalizeEmbeddedMulticastData (datagram : Bytes) : Outcome ε Bytes :=
  if datagram.length < 3 then pure datagram
  else do
    let first ← byteAt datagram 2
    if first >>> 4 = 4 ∧ datagram.length ≥ 22 then do
      let ihl := (first &&& 0x0f).toNat * 4
      fits ihl
      let totalLen := (← u16At datagram 4).toNat
      fits (2 + totalLen)
      if ihl < 20 ∨ totalLen < ihl ∨ datagram.length < 2 + totalLen then pure datagram
      else do
        let datagram := datagram.take (2 + totalLen)
        let packet ← sliceFrom datagram 2
        let packet ← copyInto packet 10 12 [0, 0]
        let header ← slice packet 0 ihl
        sumFits [header]
        let packet ← copyInto packet 10 12 (u16ToBe (checksum header))
        let packet ← repairUnfragmentedUdp packet ihl
        pure (datagram.take 2 ++ packet)
    else if first >>> 4 = 6 ∧ datagram.length ≥ 42 then do
      let totalLen := 40 + (← u16At datagram 6).toNat
      fits (2 + totalLen)
      if datagram.length < 2 + totalLen then pure datagram
      else do
        let datagram := datagram.take (2 + totalLen)
        let packet ← sliceFrom datagram 2
        let packet ← repairUdpNextHeader packet
        pure (datagram.take 2 ++ packet)
    else pure datagram

end Normalize

/-- A datagram of the capture, with the addresses it was captured for. -/
structure UpstreamDatagram where
  source : IpAddr
  group : IpAddr
  datagram : Bytes

namespace UpstreamDatagram

def normalizedDatagram (captured : UpstreamDatagram) : Outcome ε Bytes :=
  normalizeForwardedDatagram captured.datagram

/-- The datagram for the tunnel, normalised inside its message. -/
def normalizedAmtDatagram (captured : UpstreamDatagram) : Outcome ε Bytes :=
  normalizeEmbeddedMulticastData (encode (.multicastData captured.datagram))

end UpstreamDatagram

/-! ## The repair stays behind the header -/

/-- **The bytes behind the header after the repair**: a segment whose UDP length is possible
has its checksum computed over itself and the pseudo-header `parts`. -/
def repairedBody (parts : ℕ → List Bytes) : Bytes → Bytes
  | b₀ :: b₁ :: b₂ :: b₃ :: b₄ :: b₅ :: hi :: lo :: data =>
      let ports := [b₀, b₁, b₂, b₃, b₄, b₅]
      let udpLen := (u16OfBe b₄ b₅).toNat
      if udpLen < 8 ∨ data.length + 8 < udpLen then ports ++ hi :: lo :: data
      else ports ++ (u16ToBe (udpChecksumParts
        (parts udpLen ++ [(ports ++ ([0, 0] ++ data)).take udpLen])) ++ data)
  | body => body

theorem repairedBody_of_length_lt (parts : ℕ → List Bytes) {body : Bytes} (h : body.length < 8) :
    repairedBody parts body = body := by
  unfold repairedBody
  split
  · simp at h
    omega
  · rfl

theorem exists_udp {body : Bytes} (h : 8 ≤ body.length) :
    ∃ b₀ b₁ b₂ b₃ b₄ b₅ hi lo data, body = [b₀, b₁, b₂, b₃, b₄, b₅] ++ hi :: lo :: data := by
  match body, h with
  | b₀ :: b₁ :: b₂ :: b₃ :: b₄ :: b₅ :: hi :: lo :: data, _ =>
      exact ⟨b₀, b₁, b₂, b₃, b₄, b₅, hi, lo, data, rfl⟩

theorem length_repairedBody (parts : ℕ → List Bytes) (body : Bytes) :
    (repairedBody parts body).length = body.length := by
  unfold repairedBody
  split
  · dsimp only
    split
    · rfl
    · simp
      omega
  · rfl

/-- **The UDP repair** cannot fail and writes behind the header only, since the pseudo-header
is read off the header. -/
theorem repairUdpChecksum_eq {pseudoHeader : Bytes → ℕ → Outcome ε (List Bytes)}
    {parts : ℕ → List Bytes} (front body : Bytes)
    (hpseudo : ∀ body' udpLen, pseudoHeader (front ++ body') udpLen = .ok (parts udpLen)) :
    repairUdpChecksum pseudoHeader (front ++ body) front.length
      = .ok (front ++ repairedBody parts body) := by
  unfold repairUdpChecksum
  by_cases hshort : body.length < 8
  · rw [if_pos (by rw [List.length_append]; omega), repairedBody_of_length_lt parts hshort]
    rfl
  rw [if_neg (by rw [List.length_append]; omega)]
  obtain ⟨b₀, b₁, b₂, b₃, b₄, b₅, hi, lo, data, rfl⟩ := exists_udp (not_lt.mp hshort)
  have hlen : (u16At (front ++ ([b₀, b₁, b₂, b₃, b₄, b₅] ++ hi :: lo :: data)) (front.length + 4) :
      Outcome ε UInt16) = .ok (u16OfBe b₄ b₅) := by
    rw [u16At, byteAt_append_right, Nat.add_assoc, byteAt_append_right]
    rfl
  have htotal : (front ++ ([b₀, b₁, b₂, b₃, b₄, b₅] ++ hi :: lo :: data)).length =
      front.length + (data.length + 8) := by
    simp
  rw [hlen, bind_ok]
  dsimp only
  rw [htotal]
  by_cases hfits : (u16OfBe b₄ b₅).toNat < 8 ∨ data.length + 8 < (u16OfBe b₄ b₅).toNat
  · have hrest : repairedBody parts ([b₀, b₁, b₂, b₃, b₄, b₅] ++ hi :: lo :: data) =
        [b₀, b₁, b₂, b₃, b₄, b₅] ++ hi :: lo :: data := if_pos hfits
    rw [if_pos (by omega), hrest]
    rfl
  rw [if_neg (by omega)]
  let ports := [b₀, b₁, b₂, b₃, b₄, b₅]
  have hports : ports.length = 6 := rfl
  have hhi : (setAt (front ++ (ports ++ hi :: lo :: data)) (front.length + 6) 0 :
      Outcome ε Bytes) = .ok (front ++ (ports ++ 0 :: lo :: data)) := by
    rw [← List.append_assoc, ← List.append_assoc]
    exact setAt_append hi 0 _ (by simp [hports])
  have hlo : (setAt (front ++ (ports ++ 0 :: lo :: data)) (front.length + 7) 0 :
      Outcome ε Bytes) = .ok (front ++ (ports ++ ([0, 0] ++ data))) := by
    have hsplit : ∀ b : UInt8, front ++ (ports ++ 0 :: b :: data) =
        (front ++ (ports ++ [0])) ++ b :: data := by simp
    rw [hsplit lo]
    exact (setAt_append lo 0 data (by simp [hports])).trans (by simp)
  have hudp : (slice (front ++ (ports ++ ([0, 0] ++ data))) front.length
      (front.length + (u16OfBe b₄ b₅).toNat) : Outcome ε Bytes)
        = .ok ((ports ++ ([0, 0] ++ data)).take (u16OfBe b₄ b₅).toNat) := by
    rw [slice_of (by omega) (by simp [hports]; omega), List.take_length_add_append,
      List.drop_left]
  have hwrite : ∀ v, (copyInto (front ++ (ports ++ ([0, 0] ++ data))) (front.length + 6)
      (front.length + 8) (u16ToBe v) : Outcome ε Bytes)
        = .ok (front ++ (ports ++ (u16ToBe v ++ data))) := by
    intro v
    have hoffset : front.length + 6 = (front ++ ports).length := by simp [hports]
    have hassoc : ∀ field : Bytes, front ++ (ports ++ (field ++ data)) =
        (front ++ ports) ++ (field ++ data) := fun _ => (List.append_assoc _ _ _).symm
    rw [hassoc, hassoc]
    exact copyInto_append data hoffset (by rw [← hoffset]; rfl) rfl
  have hrest : repairedBody parts (ports ++ hi :: lo :: data) = ports ++
      (u16ToBe (udpChecksumParts (parts (u16OfBe b₄ b₅).toNat ++
        [(ports ++ ([0, 0] ++ data)).take (u16OfBe b₄ b₅).toNat])) ++ data) := if_neg hfits
  rw [hhi, bind_ok, hlo, bind_ok, hpseudo, bind_ok, hudp,
    bind_ok, hwrite, hrest]
  rfl

/-! ### The pseudo-headers -/

def Ipv4Header.udpPseudoHeader (header : Ipv4Header) (udpLen : ℕ) : List Bytes :=
  [header.source.octets.toList, header.destination.octets.toList, [0, 17],
    u16ToBe (UInt16.ofNat udpLen)]

def Ipv6Header.udpPseudoHeader (header : Ipv6Header) (udpLen : ℕ) : List Bytes :=
  [header.source.octets.toList, header.destination.octets.toList,
    u32ToBe (UInt32.ofNat udpLen), [0, 0, 0, 17]]

theorem pseudoHeaderV4_eq (header : Ipv4Header) (body : Bytes) (udpLen : ℕ) :
    (pseudoHeaderV4 (header.bytes ++ body) udpLen : Outcome ε (List Bytes))
      = .ok (header.udpPseudoHeader udpLen) := by
  have hsource : (slice (header.bytes ++ body) 12 16 : Outcome ε Bytes)
      = .ok header.source.octets.toList := by
    have hsplit : header.bytes ++ body = (header.front ++ u16ToBe header.checksum) ++
        (header.source.octets.toList ++ (header.destination.octets.toList ++
          (header.options ++ body))) := by
      simp [Ipv4Header.bytes, Ipv4Header.back]
    rw [hsplit]
    exact slice_append _ (by simp) (by simp)
  have hdestination : (slice (header.bytes ++ body) 16 20 : Outcome ε Bytes)
      = .ok header.destination.octets.toList := by
    have hsplit : header.bytes ++ body = (header.front ++ (u16ToBe header.checksum ++
        header.source.octets.toList)) ++ (header.destination.octets.toList ++
          (header.options ++ body)) := by
      simp [Ipv4Header.bytes, Ipv4Header.back]
    rw [hsplit]
    exact slice_append _ (by simp) (by simp)
  rw [pseudoHeaderV4, hsource, bind_ok, hdestination, bind_ok]
  rfl

theorem pseudoHeaderV6_eq (header : Ipv6Header) (body : Bytes) (udpLen : ℕ) :
    (pseudoHeaderV6 (header.bytes ++ body) udpLen : Outcome ε (List Bytes))
      = .ok (header.udpPseudoHeader udpLen) := by
  have hsource : (slice (header.bytes ++ body) 8 24 : Outcome ε Bytes)
      = .ok header.source.octets.toList := by
    have hsplit : header.bytes ++ body = ([header.versionClass, header.classFlow] ++
        (u16ToBe header.flow ++ (u16ToBe header.payloadLen ++
          [header.nextHeader, header.hopLimit]))) ++
        (header.source.octets.toList ++ (header.destination.octets.toList ++ body)) := by
      simp [Ipv6Header.bytes]
    rw [hsplit]
    exact slice_append _ rfl (by simp)
  have hdestination : (slice (header.bytes ++ body) 24 40 : Outcome ε Bytes)
      = .ok header.destination.octets.toList := by
    have hsplit : header.bytes ++ body = ([header.versionClass, header.classFlow] ++
        (u16ToBe header.flow ++ (u16ToBe header.payloadLen ++
          ([header.nextHeader, header.hopLimit] ++ header.source.octets.toList)))) ++
        (header.destination.octets.toList ++ body) := by
      simp [Ipv6Header.bytes]
    rw [hsplit]
    exact slice_append _ (by simp) (by simp)
  rw [pseudoHeaderV6, hsource, bind_ok, hdestination, bind_ok]
  rfl

/-! ### The repair of a datagram -/

/-- The body of an IPv4 datagram after the repair, which a fragment does not get. -/
def Ipv4Header.repairBody (header : Ipv4Header) (body : Bytes) : Bytes :=
  if header.protocol = 17 ∧ header.fragment &&& 0x3fff = 0 then
    repairedBody header.udpPseudoHeader body
  else body

/-- The body after the repair of its UDP checksum. -/
def Ipv6Header.repairBody (header : Ipv6Header) (body : Bytes) : Bytes :=
  if header.nextHeader = 17 then repairedBody header.udpPseudoHeader body else body

theorem Ipv4Header.length_repairBody (header : Ipv4Header) (body : Bytes) :
    (header.repairBody body).length = body.length := by
  unfold repairBody
  split
  · exact length_repairedBody _ body
  · rfl

theorem Ipv6Header.length_repairBody (header : Ipv6Header) (body : Bytes) :
    (header.repairBody body).length = body.length := by
  unfold repairBody
  split
  · exact length_repairedBody _ body
  · rfl

/-- The UDP repair of an IPv4 datagram leaves its header alone. -/
theorem repairUnfragmentedUdp_eq (header : Ipv4Header) (body : Bytes) {ihl : ℕ}
    (hihl : ihl = header.bytes.length) :
    (repairUnfragmentedUdp (header.bytes ++ body) ihl : Outcome ε Bytes)
      = .ok (header.bytes ++ header.repairBody body) := by
  rw [repairUnfragmentedUdp, Ipv4Header.u16At_six, bind_ok, Ipv4Header.byteAt_nine,
    bind_ok, hihl, Ipv4Header.repairBody]
  split
  · exact repairUdpChecksum_eq _ body (pseudoHeaderV4_eq header)
  · rfl

theorem repairUdpNextHeader_eq (header : Ipv6Header) (body : Bytes) :
    (repairUdpNextHeader (header.bytes ++ body) : Outcome ε Bytes)
      = .ok (header.bytes ++ header.repairBody body) := by
  rw [repairUdpNextHeader, Ipv6Header.byteAt_six, bind_ok, Ipv6Header.repairBody]
  split
  · rw [← header.length_bytes]
    exact repairUdpChecksum_eq _ body (pseudoHeaderV6_eq header)
  · rfl

/-! ## What the capture accepts -/

/-- **A captured datagram** with its addresses: the header is complete and its lengths are
within the byte string. -/
inductive Captured : Bytes → IpAddr → IpAddr → Prop
  | v4 {header : Ipv4Header} {rest : Bytes} (hversion : header.versionIhl >>> 4 = 4)
      (hihl : header.ihl = header.bytes.length)
      (hmin : header.bytes.length ≤ header.totalLen.toNat)
      (hmax : header.totalLen.toNat ≤ header.bytes.length + rest.length) :
      Captured (header.bytes ++ rest) (.v4 header.source) (.v4 header.destination)
  | v6 {header : Ipv6Header} {rest : Bytes} (hversion : header.versionClass >>> 4 = 6)
      (hmax : header.payloadLen.toNat ≤ rest.length) :
      Captured (header.bytes ++ rest) (.v6 header.source) (.v6 header.destination)

/-- The length checks of the readers of IPv4, which let bytes follow the datagram. -/
theorem Ipv4Header.lengths_of_le {header : Ipv4Header} {rest : Bytes}
    (hmin : header.bytes.length ≤ header.totalLen.toNat)
    (hmax : header.totalLen.toNat ≤ header.bytes.length + rest.length) :
    ¬ (header.bytes ++ rest).length < 20 ∧
      ¬ (header.bytes.length < 20 ∨ (header.bytes ++ rest).length < header.bytes.length) ∧
      ¬ (header.totalLen.toNat < header.bytes.length ∨
        (header.bytes ++ rest).length < header.totalLen.toNat) := by
  have hlen := header.length_bytes
  rw [List.length_append]
  omega

/-- The same for IPv6. -/
theorem Ipv6Header.lengths_of_le {header : Ipv6Header} {rest : Bytes}
    (hmax : header.payloadLen.toNat ≤ rest.length) :
    ¬ (header.bytes ++ rest).length < 40 ∧
      ¬ (header.bytes ++ rest).length < 40 + header.payloadLen.toNat := by
  rw [List.length_append, header.length_bytes]
  omega

/-- What the capture accepts has a header and a body. -/
theorem captured_of_parseIpv4 {datagram : Bytes} {first : UInt8} {addresses : IpAddr × IpAddr}
    (hfirst : datagram.head? = some first) (hversion : first >>> 4 = 4)
    (h : parseIpv4DatagramAddresses datagram = .ok addresses) :
    Captured datagram addresses.1 addresses.2 := by
  obtain ⟨_, hmin, h⟩ := bind_eq_ok_iff.mp h
  obtain ⟨byte, hbyte, h⟩ := bind_eq_ok_iff.mp h
  obtain ⟨_, hihl, h⟩ := bind_eq_ok_iff.mp h
  rw [ensure_eq_ok_iff] at hmin hihl
  obtain ⟨header, rest, rfl, hlen⟩ : ∃ header : Ipv4Header, ∃ rest,
      datagram = header.bytes ++ rest ∧ header.bytes.length = (byte &&& 0x0f).toNat * 4 :=
    exists_ipv4Header (by omega) (by omega)
  rw [Ipv4Header.byteAt_zero] at hbyte
  obtain rfl := Outcome.ok.inj hbyte
  rw [Ipv4Header.u16At_two, bind_ok] at h
  obtain ⟨_, htotal, h⟩ := bind_eq_ok_iff.mp h
  rw [ensure_eq_ok_iff, List.length_append] at htotal
  rw [Ipv4Header.readIpv4_twelve, bind_ok, Ipv4Header.readIpv4_sixteen,
    bind_ok] at h
  obtain rfl := Outcome.ok.inj h
  exact .v4 (Option.some.inj hfirst ▸ hversion) hlen.symm (by omega) (by omega)

theorem captured_of_parseIpv6 {datagram : Bytes} {first : UInt8} {addresses : IpAddr × IpAddr}
    (hfirst : datagram.head? = some first) (hversion : first >>> 4 = 6)
    (h : parseIpv6DatagramAddresses datagram = .ok addresses) :
    Captured datagram addresses.1 addresses.2 := by
  obtain ⟨_, hmin, h⟩ := bind_eq_ok_iff.mp h
  rw [ensure_eq_ok_iff] at hmin
  obtain ⟨header, rest, rfl⟩ := exists_ipv6Header (not_lt.mp hmin)
  rw [Ipv6Header.u16At_four, bind_ok] at h
  obtain ⟨_, htotal, h⟩ := bind_eq_ok_iff.mp h
  rw [ensure_eq_ok_iff, List.length_append, Ipv6Header.length_bytes] at htotal
  rw [Ipv6Header.readIpv6_eight, bind_ok, Ipv6Header.readIpv6_twentyFour,
    bind_ok] at h
  obtain rfl := Outcome.ok.inj h
  exact .v6 (Option.some.inj hfirst ▸ hversion) (by omega)

theorem captured_of_parse {datagram : Bytes} {source group : IpAddr}
    (h : parseDatagramAddresses datagram = .ok (source, group)) :
    Captured datagram source group := by
  unfold parseDatagramAddresses at h
  cases hfirst : datagram.head? with
  | none => simp [hfirst] at h
  | some first =>
      simp only [hfirst] at h
      split at h
      · rename_i hversion
        exact captured_of_parseIpv4 hfirst hversion h
      · rename_i hversion
        exact captured_of_parseIpv6 hfirst hversion h
      · cases h

/-- The capture reads every such datagram. -/
theorem Captured.parseDatagramAddresses {datagram : Bytes} {source group : IpAddr}
    (h : Captured datagram source group) :
    parseDatagramAddresses datagram = .ok (source, group) := by
  cases h with
  | @v4 header rest hversion hihl hmin hmax =>
      have hihl : (header.versionIhl &&& 0x0f).toNat * 4 = header.bytes.length := hihl
      obtain ⟨hfull, hheader, htotal⟩ := Ipv4Header.lengths_of_le hmin hmax
      rw [Amt.parseDatagramAddresses, Ipv4Header.head?_bytes_append]
      simp only [hversion]
      simp only [parseIpv4DatagramAddresses, Ipv4Header.byteAt_zero, Ipv4Header.u16At_two,
        Ipv4Header.readIpv4_twelve, Ipv4Header.readIpv4_sixteen, hihl, bind_ok]
      rw [ensure_of hfull, bind_ok, ensure_of hheader,
        bind_ok, ensure_of htotal, bind_ok, pure_eq_ok]
  | @v6 header rest hversion hmax =>
      obtain ⟨hfull, htotal⟩ := Ipv6Header.lengths_of_le hmax
      rw [Amt.parseDatagramAddresses, Ipv6Header.head?_bytes_append]
      simp only [hversion]
      simp only [parseIpv6DatagramAddresses, Ipv6Header.u16At_four, Ipv6Header.readIpv6_eight,
        Ipv6Header.readIpv6_twentyFour, bind_ok]
      rw [ensure_of hfull, bind_ok, ensure_of htotal,
        bind_ok, pure_eq_ok]

theorem validMulticastAddresses_iff {source group : IpAddr} :
    validMulticastAddresses source group = true ↔ ValidAddresses source group := by
  cases source <;> simp [validMulticastAddresses, ValidAddresses, invalidSource, and_assoc]

/-! ## What comes out -/

namespace Ipv4Header

theorem bytes_append_of_checksum (header : Ipv4Header) (body : Bytes) {hi lo : UInt8}
    (h : u16ToBe header.checksum = [hi, lo]) :
    header.bytes ++ body = header.front ++ hi :: lo :: (header.back ++ body) := by
  rw [bytes, h]
  simp

/-- Zeroing the checksum field byte by byte: the first byte. -/
theorem setAt_ten (header : Ipv4Header) (body : Bytes) :
    (setAt (header.bytes ++ body) 10 0 : Outcome ε Bytes)
      = .ok (header.front ++ 0 :: header.checksum.toUInt8 :: (header.back ++ body)) := by
  rw [header.bytes_append_of_checksum body rfl]
  exact setAt_append _ 0 _ rfl

/-- The second byte. -/
theorem setAt_eleven (header : Ipv4Header) (body : Bytes) (lo : UInt8) :
    (setAt (header.front ++ 0 :: lo :: (header.back ++ body)) 11 0 : Outcome ε Bytes)
      = .ok ({ header with checksum := 0 }.bytes ++ body) := by
  rw [bytes_append_of_checksum _ body (show u16ToBe 0 = [0, 0] by decide)]
  change setAt ((header.front ++ [0]) ++ lo :: _) 11 0 = .ok ((header.front ++ [0]) ++ 0 :: _)
  exact setAt_append lo 0 _ rfl

end Ipv4Header

/-! ### Behind the two bytes of an AMT message -/

theorem take_two_append (a b : UInt8) (datagram : Bytes) (n : ℕ) :
    ([a, b] ++ datagram).take (2 + n) = [a, b] ++ datagram.take n := by
  rw [Nat.add_comm]
  rfl

theorem sliceFrom_two (a b : UInt8) (datagram : Bytes) :
    (sliceFrom ([a, b] ++ datagram) 2 : Outcome ε Bytes) = .ok datagram :=
  sliceFrom_append datagram rfl

section V4

variable {header : Ipv4Header} {rest : Bytes}

theorem take_header_append {n : ℕ} (h : header.bytes.length ≤ n) :
    (header.bytes ++ rest).take n = header.bytes ++ rest.take (n - header.bytes.length) := by
  rw [List.take_append, List.take_of_length_le h]

/-- An IPv4 datagram alone: cut, with its header checksum, and repaired. -/
theorem normalizeForwardedDatagram_v4 (hversion : header.versionIhl >>> 4 = 4)
    (hihl : header.ihl = header.bytes.length)
    (hmin : header.bytes.length ≤ header.totalLen.toNat)
    (hmax : header.totalLen.toNat ≤ header.bytes.length + rest.length) :
    (normalizeForwardedDatagram (header.bytes ++ rest) : Outcome ε Bytes) =
      .ok (header.withChecksum.bytes ++
        header.repairBody (rest.take (header.totalLen.toNat - header.bytes.length))) := by
  have hihl : (header.versionIhl &&& 0x0f).toNat * 4 = header.bytes.length := hihl
  obtain ⟨hfull, hheader, htotal⟩ := Ipv4Header.lengths_of_le hmin hmax
  have hzeroed : header.bytes.length = { header with checksum := 0 }.bytes.length := by
    rw [Ipv4Header.length_bytes, Ipv4Header.length_bytes]
  rw [normalizeForwardedDatagram, Ipv4Header.head?_bytes_append]
  simp only [hversion]
  rw [normalizeIpv4ForwardedDatagram, if_neg hfull]
  simp only [Ipv4Header.byteAt_zero, Ipv4Header.u16At_two, hihl, bind_ok]
  rw [if_neg hheader, if_neg htotal, slice_of (Nat.zero_le _) (by omega), bind_ok,
    List.drop_zero, take_header_append hmin, Ipv4Header.setAt_ten, bind_ok,
    Ipv4Header.setAt_eleven, bind_ok, Ipv4Header.slice_header _ _ hzeroed,
    bind_ok, Ipv4Header.copyInto_checksum, bind_ok]
  exact repairUnfragmentedUdp_eq header.withChecksum _ hzeroed

/-- The same datagram behind the two bytes of an AMT message. -/
theorem normalizeEmbeddedMulticastData_v4 (a b : UInt8) (hversion : header.versionIhl >>> 4 = 4)
    (hihl : header.ihl = header.bytes.length)
    (hmin : header.bytes.length ≤ header.totalLen.toNat)
    (hmax : header.totalLen.toNat ≤ header.bytes.length + rest.length) :
    (normalizeEmbeddedMulticastData ([a, b] ++ (header.bytes ++ rest)) : Outcome ε Bytes) =
      .ok ([a, b] ++ (header.withChecksum.bytes ++
        header.repairBody (rest.take (header.totalLen.toNat - header.bytes.length)))) := by
  have hihl : (header.versionIhl &&& 0x0f).toNat * 4 = header.bytes.length := hihl
  have hlen := header.length_bytes
  have hlength : ([a, b] ++ (header.bytes ++ rest)).length =
      2 + (header.bytes.length + rest.length) := by
    simp
    omega
  have hfirst : (byteAt ([a, b] ++ (header.bytes ++ rest)) 2 : Outcome ε UInt8) =
      .ok header.versionIhl := rfl
  have htotal : (u16At ([a, b] ++ (header.bytes ++ rest)) 4 : Outcome ε UInt16) =
      .ok header.totalLen := header.u16At_two rest
  have hlengths : ¬ (header.bytes.length < 20 ∨ header.totalLen.toNat < header.bytes.length ∨
      ([a, b] ++ (header.bytes ++ rest)).length < 2 + header.totalLen.toNat) := by omega
  have hcut : ([a, b] ++ (header.bytes ++ rest)).take (2 + header.totalLen.toNat) =
      [a, b] ++ (header.bytes ++ rest.take (header.totalLen.toNat - header.bytes.length)) := by
    rw [take_two_append, take_header_append hmin]
  have hzeroed : header.bytes.length = { header with checksum := 0 }.bytes.length := by
    rw [Ipv4Header.length_bytes, Ipv4Header.length_bytes]
  rw [normalizeEmbeddedMulticastData, if_neg (by omega), hfirst, bind_ok]
  rw [if_pos ⟨hversion, by omega⟩, htotal]
  simp only [hihl, Target.fits_unbounded, bind_ok]
  rw [if_neg hlengths, hcut, sliceFrom_two, bind_ok, Ipv4Header.copyInto_zero,
    bind_ok, Ipv4Header.slice_header _ _ hzeroed, bind_ok, sumFits_unbounded, bind_ok,
    Ipv4Header.copyInto_checksum, bind_ok]
  have hrepair : (repairUnfragmentedUdp (header.withChecksum.bytes ++
      rest.take (header.totalLen.toNat - header.bytes.length)) header.bytes.length :
        Outcome ε Bytes) = _ := repairUnfragmentedUdp_eq header.withChecksum _ hzeroed
  exact hrepair ▸ rfl

end V4

section V6

variable {header : Ipv6Header} {rest : Bytes}

theorem take_header_append_v6 (n : ℕ) :
    (header.bytes ++ rest).take (40 + n) = header.bytes ++ rest.take n := by
  rw [List.take_append, List.take_of_length_le (by simp)]
  simp

theorem normalizeForwardedDatagram_v6 (hversion : header.versionClass >>> 4 = 6)
    (hmax : header.payloadLen.toNat ≤ rest.length) :
    (normalizeForwardedDatagram (header.bytes ++ rest) : Outcome ε Bytes) =
      .ok (header.bytes ++ header.repairBody (rest.take header.payloadLen.toNat)) := by
  have hlength : (header.bytes ++ rest).length = 40 + rest.length := by simp
  rw [normalizeForwardedDatagram, Ipv6Header.head?_bytes_append]
  simp only [hversion]
  rw [normalizeIpv6ForwardedDatagram, if_neg (by omega), Ipv6Header.u16At_four, bind_ok]
  dsimp only
  rw [Target.fits_unbounded, bind_ok, if_neg (by omega), slice_of (Nat.zero_le _) (by omega),
    bind_ok, List.drop_zero, take_header_append_v6, repairUdpNextHeader_eq]

theorem normalizeEmbeddedMulticastData_v6 (a b : UInt8) (hversion : header.versionClass >>> 4 = 6)
    (hmax : header.payloadLen.toNat ≤ rest.length) :
    (normalizeEmbeddedMulticastData ([a, b] ++ (header.bytes ++ rest)) : Outcome ε Bytes) =
      .ok ([a, b] ++ (header.bytes ++ header.repairBody (rest.take header.payloadLen.toNat))) := by
  have hlength : ([a, b] ++ (header.bytes ++ rest)).length = 2 + (40 + rest.length) := by
    simp
    omega
  have hfirst : (byteAt ([a, b] ++ (header.bytes ++ rest)) 2 : Outcome ε UInt8) =
      .ok header.versionClass := rfl
  have htotal : (u16At ([a, b] ++ (header.bytes ++ rest)) 6 : Outcome ε UInt16) =
      .ok header.payloadLen := header.u16At_four rest
  have hcut : ([a, b] ++ (header.bytes ++ rest)).take (2 + (40 + header.payloadLen.toNat)) =
      [a, b] ++ (header.bytes ++ rest.take header.payloadLen.toNat) := by
    rw [take_two_append, take_header_append_v6]
  have hother : ¬ (header.versionClass >>> 4 = 4 ∧
      ([a, b] ++ (header.bytes ++ rest)).length ≥ 22) := by
    rw [hversion]
    exact fun h => absurd h.1 (by decide)
  rw [normalizeEmbeddedMulticastData, if_neg (by omega), hfirst, bind_ok, if_neg hother,
    if_pos ⟨hversion, by omega⟩, htotal, bind_ok]
  dsimp only
  rw [if_neg (by omega), hcut, sliceFrom_two, bind_ok, repairUdpNextHeader_eq]
  rfl

end V6

/-- **The normalised datagram**: the two normalisations of a captured datagram give the same
packet, and it is one that a gateway accepts if its addresses are valid. -/
theorem Captured.exists_normalize {datagram : Bytes} {source group : IpAddr}
    (h : Captured datagram source group) (haddresses : ValidAddresses source group) :
    ∃ packet, MulticastDatagram packet source group ∧
      (normalizeForwardedDatagram datagram : Outcome ε Bytes) = .ok packet ∧
      ∀ a b, (normalizeEmbeddedMulticastData ([a, b] ++ datagram) : Outcome ε Bytes)
        = .ok ([a, b] ++ packet) := by
  cases h with
  | @v4 header rest hversion hihl hmin hmax =>
      have hsized : header.IsSized (rest.take (header.totalLen.toNat - header.bytes.length)) := by
        refine ⟨hversion, hihl, ?_⟩
        rw [List.length_take]
        omega
      exact ⟨header.withChecksum.bytes ++ header.repairBody
          (rest.take (header.totalLen.toNat - header.bytes.length)),
        .v4 (hsized.withChecksum (header.length_repairBody _)) haddresses,
        normalizeForwardedDatagram_v4 hversion hihl hmin hmax,
        fun a b => normalizeEmbeddedMulticastData_v4 a b hversion hihl hmin hmax⟩
  | @v6 header rest hversion hmax =>
      refine ⟨_, .v6 ⟨hversion, ?_⟩ haddresses, normalizeForwardedDatagram_v6 hversion hmax,
        fun a b => normalizeEmbeddedMulticastData_v6 a b hversion hmax⟩
      rw [Ipv6Header.length_repairBody, List.length_take]
      omega

end Amt

import Amt.Mtu
import Amt.Upstream.Datagram

/-!
# The publisher's parser, and the readers of a datagram

A gateway publishes the datagrams it takes out of the tunnel on a local interface.  The
publisher parses them once more (`parseIpMulticastDatagram`), with checks of its own: it
accepts padding and any checksum, and looks at no source address.

By then four other pieces of code have read the same bytes, each with its own offsets: the
gateway's parser, the capture, the ECN code and the fragmentation.  The gateway's parser is
the strictest of them, and `readers_agree_of_parseMulticastPacket` says that what it accepts
no other reader refuses or reads differently.  The argument is that it accepts datagrams of
the form `MulticastDatagram` only, and that each reader has been computed on such a header
and body.
-/

namespace Amt

open Outcome (ensure bind_ok ensure_of pure_eq_ok)

/-! ## The code -/

inductive PublicationAddressFamily where
  | ipv4
  | ipv6
deriving DecidableEq, Repr

/-- What the publisher reads from a datagram before it sends it. -/
structure IpMulticastDatagram where
  family : PublicationAddressFamily
  source : IpAddr
  group : IpAddr
  ipProtocol : UInt8
  udpDstPort : Option UInt16
  datagramLen : ℕ
deriving DecidableEq, Repr

def udpProtocol : UInt8 := 17

def udpHeaderLen : ℕ := 8

/-- No port for another protocol, and none where the UDP length is wrong. -/
def parseUdpDstPort (payload : Bytes) (protocol : UInt8) : Outcome Unit (Option UInt16) :=
  if protocol ≠ udpProtocol ∨ payload.length < udpHeaderLen then pure none
  else do
    let udpLen := (← u16At payload 4).toNat
    if udpLen < udpHeaderLen ∨ udpLen > payload.length then pure none
    else pure (some (← u16At payload 2))

/-- Not a multicast datagram is the only error. -/
def parseIpv4MulticastDatagram (datagram : Bytes) : Outcome Unit IpMulticastDatagram := do
  ensure (¬ datagram.length < ipv4MinHeaderLen) ()
  let ihl := ((← byteAt datagram 0) &&& 0x0f).toNat * 4
  ensure (¬ (ihl < ipv4MinHeaderLen ∨ datagram.length < ihl)) ()
  let totalLen := (← u16At datagram 2).toNat
  ensure (¬ (totalLen < ihl ∨ datagram.length < totalLen)) ()
  let source ← readIpv4 datagram 12
  let group ← readIpv4 datagram 16
  ensure group.isMulticast ()
  let ipProtocol ← byteAt datagram 9
  let udpDstPort ← parseUdpDstPort (← slice datagram ihl totalLen) ipProtocol
  pure { family := .ipv4, source := .v4 source, group := .v4 group, ipProtocol, udpDstPort,
         datagramLen := totalLen }

def parseIpv6MulticastDatagram (datagram : Bytes) : Outcome Unit IpMulticastDatagram := do
  ensure (¬ datagram.length < ipv6HeaderLen) ()
  let payloadLen := (← u16At datagram 4).toNat
  let totalLen := ipv6HeaderLen + payloadLen
  ensure (¬ datagram.length < totalLen) ()
  let source ← readIpv6 datagram 8
  let group ← readIpv6 datagram 24
  ensure group.isMulticast ()
  let ipProtocol ← byteAt datagram 6
  let udpDstPort ← parseUdpDstPort (← slice datagram ipv6HeaderLen totalLen) ipProtocol
  pure { family := .ipv6, source := .v6 source, group := .v6 group, ipProtocol, udpDstPort,
         datagramLen := totalLen }

/-- By the version in the first byte. -/
def parseIpMulticastDatagram (datagram : Bytes) : Outcome Unit IpMulticastDatagram :=
  match datagram.head? with
  | none => .err ()
  | some first =>
      match first >>> 4 with
      | 4 => parseIpv4MulticastDatagram datagram
      | 6 => parseIpv6MulticastDatagram datagram
      | _ => .err ()

/-! ## The publisher reads a captured datagram -/

theorem exists_parseUdpDstPort (payload : Bytes) (protocol : UInt8) :
    ∃ port, parseUdpDstPort payload protocol = .ok port := by
  unfold parseUdpDstPort
  split
  · exact ⟨none, rfl⟩
  · next hpayload =>
      have hlen : 8 ≤ payload.length := by
        rw [udpHeaderLen] at hpayload
        omega
      rw [u16At_of_lt (by omega), bind_ok]
      dsimp only
      split
      · exact ⟨none, rfl⟩
      · rw [u16At_of_lt (by omega)]
        exact ⟨_, rfl⟩

section Captured

variable {rest : Bytes}

theorem Ipv4Header.exists_parseIpMulticastDatagram {header : Ipv4Header}
    (hversion : header.versionIhl >>> 4 = 4) (hihl : header.ihl = header.bytes.length)
    (hmin : header.bytes.length ≤ header.totalLen.toNat)
    (hmax : header.totalLen.toNat ≤ header.bytes.length + rest.length)
    (hgroup : header.destination.isMulticast = true) :
    ∃ port, parseIpMulticastDatagram (header.bytes ++ rest) = .ok
      { family := .ipv4, source := .v4 header.source, group := .v4 header.destination
        ipProtocol := header.protocol, udpDstPort := port
        datagramLen := header.totalLen.toNat } := by
  have hihl : (header.versionIhl &&& 0x0f).toNat * 4 = header.bytes.length := hihl
  obtain ⟨hfull, hheader, htotal⟩ := Ipv4Header.lengths_of_le hmin hmax
  have hfull : ¬ (header.bytes ++ rest).length < ipv4MinHeaderLen := hfull
  have hheader : ¬ (header.bytes.length < ipv4MinHeaderLen ∨
      (header.bytes ++ rest).length < header.bytes.length) := hheader
  obtain ⟨port, hport⟩ := exists_parseUdpDstPort
    (((header.bytes ++ rest).take header.totalLen.toNat).drop header.bytes.length) header.protocol
  refine ⟨port, ?_⟩
  rw [parseIpMulticastDatagram, Ipv4Header.head?_bytes_append]
  simp only [hversion]
  simp only [parseIpv4MulticastDatagram, Ipv4Header.byteAt_zero, Ipv4Header.u16At_two,
    Ipv4Header.readIpv4_twelve, Ipv4Header.readIpv4_sixteen, Ipv4Header.byteAt_nine, hihl,
    bind_ok]
  rw [ensure_of hfull, bind_ok, ensure_of hheader, bind_ok,
    ensure_of htotal, bind_ok, ensure_of hgroup, bind_ok,
    slice_of hmin (by omega), bind_ok, hport, bind_ok, pure_eq_ok]

theorem Ipv6Header.exists_parseIpMulticastDatagram {header : Ipv6Header}
    (hversion : header.versionClass >>> 4 = 6) (hmax : header.payloadLen.toNat ≤ rest.length)
    (hgroup : header.destination.isMulticast = true) :
    ∃ port, parseIpMulticastDatagram (header.bytes ++ rest) = .ok
      { family := .ipv6, source := .v6 header.source, group := .v6 header.destination
        ipProtocol := header.nextHeader, udpDstPort := port
        datagramLen := ipv6HeaderLen + header.payloadLen.toNat } := by
  obtain ⟨hfull, htotal⟩ := Ipv6Header.lengths_of_le hmax
  have hfull : ¬ (header.bytes ++ rest).length < ipv6HeaderLen := hfull
  have htotal : ¬ (header.bytes ++ rest).length < ipv6HeaderLen + header.payloadLen.toNat :=
    htotal
  obtain ⟨port, hport⟩ := exists_parseUdpDstPort (((header.bytes ++ rest).take
    (ipv6HeaderLen + header.payloadLen.toNat)).drop ipv6HeaderLen) header.nextHeader
  refine ⟨port, ?_⟩
  rw [parseIpMulticastDatagram, Ipv6Header.head?_bytes_append]
  simp only [hversion]
  simp only [parseIpv6MulticastDatagram, Ipv6Header.u16At_four, Ipv6Header.readIpv6_eight,
    Ipv6Header.readIpv6_twentyFour, Ipv6Header.byteAt_six, bind_ok]
  rw [ensure_of hfull, bind_ok, ensure_of htotal, bind_ok,
    ensure_of hgroup, bind_ok, slice_of (Nat.le_add_right _ _) (by omega),
    bind_ok, hport, bind_ok, pure_eq_ok]

end Captured

/-! ## The readers agree -/

/-- **What the other readers make of a datagram** that the gateway's parser has read. -/
structure ReadersAgree (d : Bytes) (packet : MulticastPacket) : Prop where
  downstream : ∃ parsed, parseIpMulticastDatagram d = .ok parsed ∧
    parsed.source = packet.source ∧ parsed.group = packet.group ∧
    parsed.ipProtocol = packet.ipProtocol ∧ parsed.datagramLen = d.length
  capture : parseDatagramAddresses d = .ok (packet.source, packet.group) ∧
    validMulticastAddresses packet.source packet.group = true
  ecn : ∃ ecn, ipEcn d = .ok ecn
  normalize : ∃ d', (normalizeForwardedDatagram d : Outcome Empty Bytes) = .ok d' ∧
    d'.length = d.length ∧ parseMulticastPacket d' = .ok packet
  fragment : ipVersion d = 4 → fragmentIpv4ForTunnel d d.length = .ok [d]

section Agree

variable {body : Bytes} {packet : MulticastPacket}

/-- The headers are read at the same places by all of them. -/
theorem Ipv4Header.IsDatagram.readersAgree {header : Ipv4Header} (h : header.IsDatagram body)
    (haddresses : ValidAddresses (.v4 header.source) (.v4 header.destination))
    (hparse : Amt.parseMulticastPacket (header.bytes ++ body) = .ok packet) :
    ReadersAgree (header.bytes ++ body) packet := by
  have hmin : header.bytes.length ≤ header.totalLen.toNat := by
    rw [h.totalLen_eq]
    omega
  have hmax := h.totalLen_eq.le
  have hcut : body.take (header.totalLen.toNat - header.bytes.length) = body := by
    rw [h.totalLen_eq, Nat.add_sub_cancel_left, List.take_length]
  obtain rfl := Outcome.ok.inj ((h.parseMulticastPacket haddresses).symm.trans hparse)
  obtain ⟨port, hport⟩ :=
    exists_parseIpMulticastDatagram h.version h.ihl_eq hmin hmax haddresses.2
  refine ⟨⟨_, hport, rfl, rfl, rfl, ?_⟩, ⟨?_, ?_⟩, ⟨_, h.toIsSized.ipEcn⟩, ?_, fun _ => ?_⟩
  · rw [List.length_append]
    exact h.totalLen_eq
  · exact (Captured.v4 h.version h.ihl_eq hmin hmax).parseDatagramAddresses
  · exact validMulticastAddresses_iff.mpr haddresses
  · -- the checksum and the body may change, and no parser of headers reads either
    have hnormal := normalizeForwardedDatagram_v4 (ε := Empty) h.version h.ihl_eq hmin hmax
    rw [hcut] at hnormal
    refine ⟨_, hnormal, ?_, ?_⟩
    · rw [List.length_append, List.length_append, header.length_bytes_withChecksum,
        header.length_repairBody]
    · have hdatagram := h.toIsSized.withChecksum (header.length_repairBody body)
      exact hdatagram.parseMulticastPacket haddresses
  · exact fragmentIpv4ForTunnel_small h.toIsSized le_rfl

theorem Ipv6Header.IsDatagram.readersAgree {header : Ipv6Header} (h : header.IsDatagram body)
    (haddresses : ValidAddresses (.v6 header.source) (.v6 header.destination))
    (hparse : Amt.parseMulticastPacket (header.bytes ++ body) = .ok packet) :
    ReadersAgree (header.bytes ++ body) packet := by
  have hmax := h.payloadLen_eq.le
  have hcut : body.take header.payloadLen.toNat = body := by
    rw [h.payloadLen_eq, List.take_length]
  obtain rfl := Outcome.ok.inj ((h.parseMulticastPacket haddresses).symm.trans hparse)
  obtain ⟨port, hport⟩ := exists_parseIpMulticastDatagram h.version hmax haddresses.2
  refine ⟨⟨_, hport, rfl, rfl, rfl, h.lengths.2⟩, ⟨?_, ?_⟩, ⟨_, h.ipEcn⟩, ?_, fun hfour => ?_⟩
  · exact (Captured.v6 h.version hmax).parseDatagramAddresses
  · exact validMulticastAddresses_iff.mpr haddresses
  · have hnormal := normalizeForwardedDatagram_v6 (ε := Empty) h.version hmax
    rw [hcut] at hnormal
    have hrepaired : header.IsDatagram (header.repairBody body) :=
      ⟨h.version, h.payloadLen_eq.trans (header.length_repairBody body).symm⟩
    refine ⟨_, hnormal, ?_, hrepaired.parseMulticastPacket haddresses⟩
    rw [List.length_append, List.length_append, header.length_repairBody]
  · have hsix : header.versionClass >>> 4 = 4 := hfour
    rw [h.version] at hsix
    exact absurd hsix (by decide)

end Agree

/-- **A datagram that the gateway's parser has accepted is accepted by every other reader, and
read in the same way.** -/
theorem readers_agree_of_parseMulticastPacket {d : Bytes} {packet : MulticastPacket}
    (h : parseMulticastPacket d = .ok packet) : ReadersAgree d packet := by
  have hdatagram := multicastDatagram_of_parse h
  generalize packet.source = source at hdatagram
  generalize packet.group = group at hdatagram
  cases hdatagram with
  | v4 hdatagram haddresses => exact hdatagram.readersAgree haddresses h
  | v6 hdatagram haddresses => exact hdatagram.readersAgree haddresses h

/-- A UDP datagram of two bytes behind an IPv4 header with four bytes of options. -/
def optionsDatagram : Bytes :=
  [0x46, 1, 0, 34, 0, 7, 0, 0, 9, 17, 0x9b, 0x8b, 198, 51, 100, 1, 232, 1, 1, 1, 1, 1, 1, 0] ++
    [0x13, 0x88, 0x13, 0x89, 0, 10, 0, 0, 0xab, 0xcd]

theorem readers_agree_options : ∃ packet, parseMulticastPacket optionsDatagram = .ok packet ∧
    packet.source = .v4 (Ipv4Addr.new 198 51 100 1) ∧ packet.group = .v4 (Ipv4Addr.new 232 1 1 1) ∧
    ReadersAgree optionsDatagram packet := by
  have hparse : parseMulticastPacket optionsDatagram = .ok
      ⟨.v4 (Ipv4Addr.new 198 51 100 1), .v4 (Ipv4Addr.new 232 1 1 1), 17, 34, false⟩ := by
    decide +kernel
  exact ⟨_, hparse, rfl, rfl, readers_agree_of_parseMulticastPacket hparse⟩

end Amt

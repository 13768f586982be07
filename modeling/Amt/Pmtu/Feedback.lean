import Amt.Pmtu
import Amt.Query.RoundTrip

/-!
# The feedback packets are well formed

Both builders fill a zeroed buffer at fixed offsets and compute checksums over what they wrote.
What comes out is put together here from its parts: a header, an ICMP message whose checksum
field is filled in, and a quote.

* **The builders** (`buildIcmpv4FragmentationNeeded_eq`, `buildIcmpv6PacketTooBig_eq`) are run
  once on a buffer whose fixed part is written out; the quote is of any length.
* **The checksums** verify since the field is at an even offset, wherever the message ends: the
  general facts are `onesComplementSum_field` and `icmpv6Checksum_field`.
* **The quote** (`IsLongestQuote`) is the longest beginning of the packet for which the whole
  stays within the limit.  The builders compute its length; `isLongestQuote_take` says that the
  computed one is it.
* **The result** is `PmtuFeedback`, what an observer of the wire can check.
-/

namespace Amt

variable {τ : Type}

/-- `quote` is the longest beginning of `packet` that `frame` can carry within `limit` bytes. -/
structure IsLongestQuote (frame : Bytes → Bytes) (limit : ℕ) (packet quote : Bytes) : Prop where
  quoted : quote <+: packet
  fits : (frame quote).length ≤ limit
  longest : ∀ other, other <+: packet → (frame other).length ≤ limit →
    other.length ≤ quote.length

theorem isLongestQuote_take {frame : Bytes → Bytes} {overhead : ℕ}
    (hframe : ∀ quote, (frame quote).length = overhead + quote.length) (room : ℕ)
    (packet : Bytes) : IsLongestQuote frame (overhead + room) packet (packet.take room) where
  quoted := packet.take_prefix room
  fits := by
    rw [hframe]
    exact Nat.add_le_add_left (packet.length_take_le room) overhead
  longest := by
    intro other hother hfits
    rw [hframe] at hfits
    have hlength := hother.length_le
    rw [List.length_take]
    exact le_min (Nat.le_of_add_le_add_left hfits) hlength

/-- The quote, as both builders cut it off the packet and write it over the end of their
buffer. -/
theorem quote_facts {ε : Type*} {packet quote : Bytes} {room : ℕ}
    (hquote : quote = packet.take room) :
    min packet.length room = quote.length ∧
      (slice packet 0 quote.length : Outcome ε Bytes) = .ok quote ∧
      (copyInto (List.replicate quote.length 0) 0 (List.replicate quote.length (0 : UInt8)).length
        quote : Outcome ε Bytes) = .ok quote := by
  subst hquote
  refine ⟨by rw [List.length_take, min_comm], ?_, ?_⟩
  · rw [slice_of (Nat.zero_le _) (List.length_take_le' room packet), List.drop_zero]
    congr 1
    simp [List.take_eq_take_iff]
  · rw [copyInto, if_pos ⟨Nat.zero_le _, le_rfl, List.length_replicate.symm⟩]
    simp

/-! ## Fragmentation Needed -/

/-- The message, with `field` for its checksum. -/
def fragmentationNeeded (field : Bytes) (mtu : UInt16) (quote : Bytes) : Bytes :=
  [3, 4] ++ (field ++ ([0, 0] ++ (u16ToBe mtu ++ quote)))

def fragmentationNeededChecksum (mtu : UInt16) (quote : Bytes) : UInt16 :=
  checksum (fragmentationNeeded [0, 0] mtu quote)

def fragmentationNeededHeader (localAddress destination : Ipv4Addr) (quoteLen : ℕ) :
    Ipv4Header :=
  { versionIhl := 0x45, tos := 0, totalLen := UInt16.ofNat (28 + quoteLen), ident := 0
    fragment := 0, ttl := 64, protocol := icmpv4Protocol, checksum := 0
    source := localAddress, destination, options := [] }

theorem onesComplementSum_fragmentationNeeded (mtu : UInt16) (quote : Bytes) :
    onesComplementSum (fragmentationNeeded (u16ToBe (fragmentationNeededChecksum mtu quote))
      mtu quote) = 0xffff :=
  onesComplementSum_field [3, 4] ⟨1, rfl⟩

theorem length_fragmentationNeeded (field : Bytes) (mtu : UInt16) (quote : Bytes) :
    (fragmentationNeeded field mtu quote).length = 6 + field.length + quote.length := by
  simp only [fragmentationNeeded, List.length_append, length_u16ToBe, List.length_cons,
    List.length_nil]
  omega

theorem fragmentationNeededHeader_isDatagram (localAddress destination : Ipv4Addr) {body : Bytes}
    {quoteLen : ℕ} (hbody : body.length = 8 + quoteLen) (hfits : 28 + quoteLen ≤ 576) :
    (fragmentationNeededHeader localAddress destination quoteLen).withChecksum.IsDatagram body where
  version := by
    change (0x45 : UInt8) >>> 4 = 4
    decide
  ihl_eq := by
    rw [Ipv4Header.length_bytes]
    change ((0x45 : UInt8) &&& 0x0f).toNat * 4 = 20 + 0
    decide
  totalLen_eq := by
    change (UInt16.ofNat (28 + quoteLen)).toNat = _
    rw [UInt16.toNat_ofNat_of_lt' (by change _ < 65536; omega), Ipv4Header.length_bytes, hbody]
    change _ = 20 + 0 + (8 + quoteLen)
    omega
  checksum_valid := Ipv4Header.onesComplementSum_withChecksum _

/-- **The IPv4 builder** writes the header and the message, each with its checksum. -/
theorem buildIcmpv4FragmentationNeeded_eq (localAddress destination : Ipv4Addr)
    (packet : Bytes) {tunnelMtu : ℕ} (hmtu : tunnelMtu < 2 ^ 16) {quote : Bytes}
    (hquote : quote = packet.take 548) :
    (buildIcmpv4FragmentationNeeded localAddress destination packet tunnelMtu :
        Outcome (PmtuFeedbackError τ) Bytes)
      = .ok ((fragmentationNeededHeader localAddress destination quote.length).withChecksum.bytes
        ++ fragmentationNeeded
          (u16ToBe (fragmentationNeededChecksum (UInt16.ofNat tunnelMtu) quote))
          (UInt16.ofNat tunnelMtu) quote) := by
  have hroom : ipv4MinReassemblyMtu - ipv4HeaderLen - icmpHeaderLen = 548 := rfl
  obtain ⟨hquoteLen, hslice, htail⟩ := quote_facts (ε := PmtuFeedbackError τ) hquote
  have htotal : ipv4HeaderLen + icmpHeaderLen + quote.length = 28 + quote.length := rfl
  obtain ⟨a, b, c, d, hlocal⟩ := localAddress.exists_eq_new
  obtain ⟨e, f, g, h, hdestination⟩ := destination.exists_eq_new
  have hlocalOctets : localAddress.octets.toList = [a, b, c, d] := by rw [hlocal]; rfl
  have hdestinationOctets : destination.octets.toList = [e, f, g, h] := by rw [hdestination]; rfl
  obtain ⟨l, l', hlength⟩ : ∃ l l', u16ToBe (UInt16.ofNat (28 + quote.length)) = [l, l'] :=
    ⟨_, _, rfl⟩
  obtain ⟨m, m', hfield⟩ : ∃ m m', u16ToBe (UInt16.ofNat tunnelMtu) = [m, m'] := ⟨_, _, rfl⟩
  rw [buildIcmpv4FragmentationNeeded, Outcome.ensure_of hmtu, Outcome.bind_ok]
  dsimp only
  rw [hroom, hquoteLen, hslice, htotal, ← List.replicate_append_replicate]
  -- run the writes over the fixed 28 bytes; the quote goes into what is left of the buffer
  simp -implicitDefEqProofs only [List.replicate_succ, List.replicate_zero, hlocalOctets,
    hdestinationOctets, hlength, hfield, htail, ipv4HeaderLen, setAt_cons_zero, setAt_cons_succ,
    copyInto_zero_nil, copyInto_cons_zero, copyInto_cons_succ, copyInto_zero_two,
    slice_zero_zero, slice_cons_zero, sliceFrom_zero, sliceFrom_cons_succ, List.length_cons,
    Outcome.map_ok, Outcome.bind_ok, List.cons_append, List.nil_append]
  have hzero : u16ToBe 0 = [0, 0] := rfl
  simp only [fragmentationNeededHeader, fragmentationNeededChecksum, fragmentationNeeded,
    Ipv4Header.withChecksum, Ipv4Header.bytes, Ipv4Header.front, Ipv4Header.back, hlocalOctets,
    hdestinationOctets, hlength, hfield, hzero, List.cons_append, List.nil_append,
    List.append_assoc]

/-! ## Packet Too Big -/

/-- The message, with `field` for its checksum. -/
def packetTooBig (field : Bytes) (mtu : UInt32) (quote : Bytes) : Bytes :=
  [2, 0] ++ (field ++ (u32ToBe mtu ++ quote))

def packetTooBigChecksum (localAddress destination : Ipv6Addr) (mtu : UInt32) (quote : Bytes) :
    UInt16 :=
  icmpv6Checksum localAddress.octets destination.octets icmpv6Protocol
    (packetTooBig [0, 0] mtu quote)

def packetTooBigHeader (localAddress destination : Ipv6Addr) (quoteLen : ℕ) : Ipv6Header :=
  { versionClass := 0x60, classFlow := 0, flow := 0, payloadLen := UInt16.ofNat (8 + quoteLen)
    nextHeader := icmpv6Protocol, hopLimit := 64, source := localAddress, destination }

theorem icmpv6Checksum_packetTooBig (localAddress destination : Ipv6Addr) (mtu : UInt32)
    (quote : Bytes) :
    icmpv6Checksum localAddress.octets destination.octets icmpv6Protocol
      (packetTooBig (u16ToBe (packetTooBigChecksum localAddress destination mtu quote)) mtu quote)
      = 0 :=
  icmpv6Checksum_field localAddress.octets destination.octets icmpv6Protocol _
    (show Even ([2, 0] : Bytes).length from ⟨1, rfl⟩)

theorem length_packetTooBig (field : Bytes) (mtu : UInt32) (quote : Bytes) :
    (packetTooBig field mtu quote).length = 6 + field.length + quote.length := by
  simp only [packetTooBig, List.length_append, length_u32ToBe, List.length_cons, List.length_nil]
  omega

theorem packetTooBigHeader_isDatagram (localAddress destination : Ipv6Addr) {body : Bytes}
    {quoteLen : ℕ} (hbody : body.length = 8 + quoteLen) (hfits : 48 + quoteLen ≤ 1280) :
    (packetTooBigHeader localAddress destination quoteLen).IsDatagram body where
  version := by
    change (0x60 : UInt8) >>> 4 = 6
    decide
  payloadLen_eq := by
    change (UInt16.ofNat (8 + quoteLen)).toNat = _
    rw [UInt16.toNat_ofNat_of_lt' (by change _ < 65536; omega), hbody]

/-- **The IPv6 builder** writes the header and the message, with the checksum over the
pseudo-header. -/
theorem buildIcmpv6PacketTooBig_eq (localAddress destination : Ipv6Addr) (packet : Bytes)
    {tunnelMtu : ℕ} (hmtu : tunnelMtu < 2 ^ 32) {quote : Bytes}
    (hquote : quote = packet.take 1232) :
    (buildIcmpv6PacketTooBig localAddress destination packet tunnelMtu :
        Outcome (PmtuFeedbackError τ) Bytes)
      = .ok ((packetTooBigHeader localAddress destination quote.length).bytes
        ++ packetTooBig
          (u16ToBe (packetTooBigChecksum localAddress destination (UInt32.ofNat tunnelMtu) quote))
          (UInt32.ofNat tunnelMtu) quote) := by
  have hroom : ipv6MinMtu - ipv6HeaderLen - icmpHeaderLen = 1232 := rfl
  obtain ⟨hquoteLen, hslice, htail⟩ := quote_facts (ε := PmtuFeedbackError τ) hquote
  have htotal : ipv6HeaderLen + (icmpHeaderLen + quote.length) = 48 + quote.length := by
    rw [← Nat.add_assoc]
    rfl
  obtain ⟨a₀, a₁, a₂, a₃, a₄, a₅, a₆, a₇, a₈, a₉, b₀, b₁, b₂, b₃, b₄, b₅, hlocal⟩ :=
    localAddress.exists_octets
  obtain ⟨c₀, c₁, c₂, c₃, c₄, c₅, c₆, c₇, c₈, c₉, d₀, d₁, d₂, d₃, d₄, d₅, hdestination⟩ :=
    destination.exists_octets
  have hlocalOctets : localAddress.octets.toList =
      [a₀, a₁, a₂, a₃, a₄, a₅, a₆, a₇, a₈, a₉, b₀, b₁, b₂, b₃, b₄, b₅] := by rw [hlocal]
  have hdestinationOctets : destination.octets.toList =
      [c₀, c₁, c₂, c₃, c₄, c₅, c₆, c₇, c₈, c₉, d₀, d₁, d₂, d₃, d₄, d₅] := by rw [hdestination]
  obtain ⟨l, l', hlength⟩ : ∃ l l', u16ToBe (UInt16.ofNat (8 + quote.length)) = [l, l'] :=
    ⟨_, _, rfl⟩
  obtain ⟨m₀, m₁, m₂, m₃, hfield⟩ : ∃ m₀ m₁ m₂ m₃,
    u32ToBe (UInt32.ofNat tunnelMtu) = [m₀, m₁, m₂, m₃] := ⟨_, _, _, _, rfl⟩
  have hicmp : icmpHeaderLen + quote.length = 8 + quote.length := rfl
  rw [buildIcmpv6PacketTooBig, Outcome.ensure_of hmtu, Outcome.bind_ok]
  dsimp only
  rw [hroom, hquoteLen, hslice, htotal, hicmp, ← List.replicate_append_replicate]
  simp -implicitDefEqProofs only [List.replicate_succ, List.replicate_zero, hlocalOctets,
    hdestinationOctets, hlength, hfield, htail, ipv6HeaderLen, setAt_cons_zero, setAt_cons_succ,
    copyInto_zero_nil, copyInto_cons_zero, copyInto_cons_succ, copyInto_zero_two,
    sliceFrom_zero, sliceFrom_cons_succ, List.length_cons, Outcome.map_ok, Outcome.bind_ok,
    List.cons_append, List.nil_append]
  have hzero : u16ToBe 0 = [0, 0] := rfl
  simp only [packetTooBigHeader, packetTooBigChecksum, packetTooBig, Ipv6Header.bytes,
    hlocalOctets, hdestinationOctets, hlength, hfield, hzero, List.cons_append, List.nil_append]

/-! ## Both -/

/-- **A well-formed feedback packet** for `packet`: an IP datagram that is not a fragment and
carries the ICMP error of its family, with a valid checksum, the MTU of the tunnel and the
longest quote. -/
inductive PmtuFeedback (packet : Bytes) (tunnelMtu : ℕ) : IpAddr → IpAddr → Bytes → Prop
  | v4 {header : Ipv4Header} {sum mtu : UInt16} {quote : Bytes}
      (hdatagram : header.IsDatagram (fragmentationNeeded (u16ToBe sum) mtu quote))
      (hwhole : header.fragment = 0) (hprotocol : header.protocol = 1)
      (hsum : onesComplementSum (fragmentationNeeded (u16ToBe sum) mtu quote) = 0xffff)
      (hmtu : mtu.toNat = tunnelMtu)
      (hquote : IsLongestQuote
        (fun quote => header.bytes ++ fragmentationNeeded (u16ToBe sum) mtu quote) 576
        packet quote) :
      PmtuFeedback packet tunnelMtu (.v4 header.source) (.v4 header.destination)
        (header.bytes ++ fragmentationNeeded (u16ToBe sum) mtu quote)
  | v6 {header : Ipv6Header} {sum : UInt16} {mtu : UInt32} {quote : Bytes}
      (hdatagram : header.IsDatagram (packetTooBig (u16ToBe sum) mtu quote))
      (hprotocol : header.nextHeader = 58)
      (hsum : icmpv6Checksum header.source.octets header.destination.octets 58
        (packetTooBig (u16ToBe sum) mtu quote) = 0)
      (hmtu : mtu.toNat = tunnelMtu)
      (hquote : IsLongestQuote
        (fun quote => header.bytes ++ packetTooBig (u16ToBe sum) mtu quote) 1280 packet quote) :
      PmtuFeedback packet tunnelMtu (.v6 header.source) (.v6 header.destination)
        (header.bytes ++ packetTooBig (u16ToBe sum) mtu quote)

/-- The MTUs below it fit the ICMP field of the family. -/
def icmpMtuBound : IpAddr → ℕ
  | .v4 _ => 2 ^ 16
  | .v6 _ => 2 ^ 32

/-- The IPv4 feedback is built, and is what it should be. -/
theorem exists_buildIcmpv4FragmentationNeeded (localAddress destination : Ipv4Addr)
    (packet : Bytes) {tunnelMtu : ℕ} (hmtu : tunnelMtu < 2 ^ 16) :
    ∃ feedback,
      (buildIcmpv4FragmentationNeeded localAddress destination packet tunnelMtu :
        Outcome (PmtuFeedbackError τ) Bytes) = .ok feedback ∧
      PmtuFeedback packet tunnelMtu (.v4 localAddress) (.v4 destination) feedback := by
  obtain ⟨quote, hquote⟩ : ∃ quote, quote = packet.take 548 := ⟨_, rfl⟩
  have hquoteLen : quote.length ≤ 548 := by
    rw [hquote]
    exact packet.length_take_le 548
  refine ⟨_, buildIcmpv4FragmentationNeeded_eq localAddress destination packet hmtu hquote,
    .v4 (fragmentationNeededHeader_isDatagram localAddress destination ?_ (by omega)) rfl rfl
      (onesComplementSum_fragmentationNeeded _ quote) (UInt16.toNat_ofNat_of_lt' hmtu) ?_⟩
  · rw [length_fragmentationNeeded, length_u16ToBe]
  · rw [hquote]
    refine isLongestQuote_take (fun body => ?_) 548 packet
    rw [List.length_append, Ipv4Header.length_bytes, length_fragmentationNeeded, length_u16ToBe]
    change 20 + 0 + (6 + 2 + body.length) = 28 + body.length
    omega

theorem exists_buildIcmpv6PacketTooBig (localAddress destination : Ipv6Addr)
    (packet : Bytes) {tunnelMtu : ℕ} (hmtu : tunnelMtu < 2 ^ 32) :
    ∃ feedback,
      (buildIcmpv6PacketTooBig localAddress destination packet tunnelMtu :
        Outcome (PmtuFeedbackError τ) Bytes) = .ok feedback ∧
      PmtuFeedback packet tunnelMtu (.v6 localAddress) (.v6 destination) feedback := by
  obtain ⟨quote, hquote⟩ : ∃ quote, quote = packet.take 1232 := ⟨_, rfl⟩
  have hquoteLen : quote.length ≤ 1232 := by
    rw [hquote]
    exact packet.length_take_le 1232
  refine ⟨_, buildIcmpv6PacketTooBig_eq localAddress destination packet hmtu hquote,
    .v6 (packetTooBigHeader_isDatagram localAddress destination ?_ (by omega)) rfl
      (icmpv6Checksum_packetTooBig localAddress destination _ quote)
      (UInt32.toNat_ofNat_of_lt' hmtu) ?_⟩
  · rw [length_packetTooBig, length_u16ToBe]
  · rw [hquote]
    refine isLongestQuote_take (fun body => ?_) 1232 packet
    rw [List.length_append, Ipv6Header.length_bytes, length_packetTooBig, length_u16ToBe]
    omega

/-- **Feedback is well formed**: for every packet the parser accepts, every local address of its
family and every MTU that fits the ICMP field, the builder returns a well-formed feedback packet
from the local address to the source of the packet. -/
theorem buildPmtuFeedback_wellFormed {packet : Bytes} {parsed : MulticastPacket}
    (hparsed : parseMulticastPacket packet = .ok parsed) {localAddress : IpAddr}
    (hfamily : localAddress.sameFamily parsed.source = true) {tunnelMtu : ℕ}
    (hmtu : tunnelMtu < icmpMtuBound localAddress) :
    ∃ feedback,
      (buildPmtuFeedback localAddress packet tunnelMtu : Outcome (PmtuFeedbackError τ) Bytes)
        = .ok feedback ∧
      PmtuFeedback packet tunnelMtu localAddress parsed.source feedback := by
  rw [buildPmtuFeedback, hparsed, Outcome.mapErr_ok, Outcome.bind_ok]
  cases localAddress with
  | v4 localAddress =>
      cases hsource : parsed.source with
      | v4 source => exact exists_buildIcmpv4FragmentationNeeded localAddress source packet hmtu
      | v6 source =>
          rw [hsource] at hfamily
          cases hfamily
  | v6 localAddress =>
      cases hsource : parsed.source with
      | v4 source =>
          rw [hsource] at hfamily
          cases hfamily
      | v6 source => exact exists_buildIcmpv6PacketTooBig localAddress source packet hmtu

/-- The hypotheses at a packet of odd length. -/
theorem buildPmtuFeedback_wellFormed_odd :
    ∃ feedback,
      (buildPmtuFeedback (.v4 (.new 192 0 2 1))
          [69, 0, 0, 21, 0, 0, 64, 0, 16, 17, 190, 201, 192, 0, 2, 10, 232, 1, 2, 3, 7] 1230 :
        Outcome (PmtuFeedbackError Unit) Bytes) = .ok feedback ∧
      PmtuFeedback [69, 0, 0, 21, 0, 0, 64, 0, 16, 17, 190, 201, 192, 0, 2, 10, 232, 1, 2, 3, 7]
        1230 (.v4 (.new 192 0 2 1)) (.v4 (.new 192 0 2 10)) feedback :=
  buildPmtuFeedback_wellFormed
    (show parseMulticastPacket
        [69, 0, 0, 21, 0, 0, 64, 0, 16, 17, 190, 201, 192, 0, 2, 10, 232, 1, 2, 3, 7]
      = .ok ⟨.v4 (.new 192 0 2 10), .v4 (.new 232 1 2 3), 17, 21, false⟩ by decide)
    rfl (by decide)

end Amt

import Amt.Upstream.Datagram

/-!
# Normalising arbitrary byte strings

`Amt.Upstream.Datagram` follows the captures that the relay accepts.  The two normalisations
take any byte string, and this module says what they do with it.

* **Consistent lengths** (`ConsistentLengths`) is the condition under which a datagram is
  normalised, read off its bytes.  All other byte strings come out as they went in, under
  either presentation (`normalizeForwardedDatagram_of_not`,
  `normalizeEmbeddedMulticastData_of_not`), although the two are guarded by different tests in
  a different order.
* **One normalisation** (`normalizedAmtDatagram_eq`): in place behind the two bytes of an AMT
  message or on the datagram alone, the packet is the same.
* **What it is** (`Normalized`): the declared length of the datagram, with nothing replaced
  but the IPv4 header checksum and the UDP checksum.  Both verify.
* **Twice is once**: the checksums do not depend on what they replace.

The UDP checksum is the one place where the arithmetic needs care: zero stands for no
checksum, so that `0xffff`, the other representative of the same residue, is sent for it.
`onesComplementSum_udpField` says that it verifies all the same.
-/

namespace Amt

variable {ε : Type*}

/-! ## Lengths -/

/-- What the header says of its own length. -/
def ipHeaderLen (packet : Bytes) : ℕ :=
  if ipVersion packet = 4 then (packet.getD 0 0 &&& 0x0f).toNat * 4 else 40

/-- What the header says of the length of the packet. -/
def ipTotalLen (packet : Bytes) : ℕ :=
  if ipVersion packet = 4 then (u16Field packet 2).toNat else 40 + (u16Field packet 4).toNat

/-- **The lengths of a datagram are consistent**: the header has at least its minimal length,
and header, datagram and byte string each contain the one before. -/
structure ConsistentLengths (datagram : Bytes) : Prop where
  version : ipVersion datagram = 4 ∨ ipVersion datagram = 6
  header_min : 20 ≤ ipHeaderLen datagram
  header_le : ipHeaderLen datagram ≤ ipTotalLen datagram
  total_le : ipTotalLen datagram ≤ datagram.length

theorem consistentLengths_v4 {datagram : Bytes} (hversion : ipVersion datagram = 4)
    (hmin : 20 ≤ (datagram.getD 0 0 &&& 0x0f).toNat * 4)
    (hheader : (datagram.getD 0 0 &&& 0x0f).toNat * 4 ≤ (u16Field datagram 2).toNat)
    (htotal : (u16Field datagram 2).toNat ≤ datagram.length) : ConsistentLengths datagram := by
  have hheaderLen : ipHeaderLen datagram = (datagram.getD 0 0 &&& 0x0f).toNat * 4 :=
    if_pos hversion
  have htotalLen : ipTotalLen datagram = (u16Field datagram 2).toNat := if_pos hversion
  exact ⟨.inl hversion, by omega, by omega, by omega⟩

theorem consistentLengths_v6 {datagram : Bytes} (hversion : ipVersion datagram = 6)
    (htotal : 40 + (u16Field datagram 4).toNat ≤ datagram.length) :
    ConsistentLengths datagram := by
  have hother : ¬ ipVersion datagram = 4 := by
    rw [hversion]
    decide
  have hheaderLen : ipHeaderLen datagram = 40 := if_neg hother
  have htotalLen : ipTotalLen datagram = 40 + (u16Field datagram 4).toNat := if_neg hother
  exact ⟨.inr hversion, by omega, by omega, by omega⟩

/-! ### The lengths of a header -/

section Header

variable {header : Ipv4Header} {header' : Ipv6Header}

theorem ipHeaderLen_v4 (hversion : header.versionIhl >>> 4 = 4)
    (hihl : header.ihl = header.bytes.length) (rest : Bytes) :
    ipHeaderLen (header.bytes ++ rest) = header.bytes.length :=
  (if_pos hversion).trans hihl

theorem ipTotalLen_v4 (hversion : header.versionIhl >>> 4 = 4) (rest : Bytes) :
    ipTotalLen (header.bytes ++ rest) = header.totalLen.toNat :=
  (if_pos hversion).trans (congrArg UInt16.toNat (u16OfBe_toBe header.totalLen))

theorem ipVersion_ne_four (hversion : header'.versionClass >>> 4 = 6) (rest : Bytes) :
    ¬ ipVersion (header'.bytes ++ rest) = 4 := by
  change ¬ header'.versionClass >>> 4 = 4
  rw [hversion]
  decide

theorem ipHeaderLen_v6 (hversion : header'.versionClass >>> 4 = 6) (rest : Bytes) :
    ipHeaderLen (header'.bytes ++ rest) = 40 :=
  if_neg (ipVersion_ne_four hversion rest)

theorem ipTotalLen_v6 (hversion : header'.versionClass >>> 4 = 6) (rest : Bytes) :
    ipTotalLen (header'.bytes ++ rest) = 40 + header'.payloadLen.toNat :=
  (if_neg (ipVersion_ne_four hversion rest)).trans
    (congrArg (40 + UInt16.toNat ·) (u16OfBe_toBe header'.payloadLen))

end Header

/-- A datagram of consistent lengths starts with its header. -/
theorem ConsistentLengths.exists_captured {datagram : Bytes} (h : ConsistentLengths datagram) :
    ∃ source group, Captured datagram source group := by
  have hmin := h.header_min
  have hheader := h.header_le
  have htotal := h.total_le
  rcases h.version with hversion | hversion
  · obtain ⟨header, rest, rfl, hlen⟩ := exists_ipv4Header hmin (hheader.trans htotal)
    have hihl : ipHeaderLen (header.bytes ++ rest) = header.ihl := if_pos hversion
    rw [ipTotalLen_v4 hversion, List.length_append] at htotal
    rw [ipTotalLen_v4 hversion] at hheader
    exact ⟨_, _, .v4 hversion (by omega) (by omega) htotal⟩
  · have hother : ¬ ipVersion datagram = 4 := by
      rw [hversion]
      decide
    have hheaderLen : ipHeaderLen datagram = 40 := if_neg hother
    obtain ⟨header, rest, rfl⟩ := exists_ipv6Header (show 40 ≤ datagram.length by omega)
    rw [ipTotalLen_v6 hversion, List.length_append, Ipv6Header.length_bytes] at htotal
    exact ⟨_, _, .v6 hversion (by omega)⟩

/-! ## Everything else comes out as it went in -/

/-- Inconsistent lengths leave the datagram alone. -/
theorem normalizeIpv4ForwardedDatagram_of_not {datagram : Bytes}
    (hversion : ipVersion datagram = 4) (h : ¬ ConsistentLengths datagram) :
    (normalizeIpv4ForwardedDatagram datagram : Outcome ε Bytes) = .ok datagram := by
  unfold normalizeIpv4ForwardedDatagram
  by_cases hshort : datagram.length < 20
  · rw [if_pos hshort]
    rfl
  rw [if_neg hshort, byteAt_of_lt (by omega), Outcome.bind_ok]
  dsimp only
  by_cases hihl : (datagram.getD 0 0 &&& 0x0f).toNat * 4 < 20 ∨
      datagram.length < (datagram.getD 0 0 &&& 0x0f).toNat * 4
  · rw [if_pos hihl]
    rfl
  rw [if_neg hihl, u16At_of_lt (by omega), Outcome.bind_ok]
  by_cases htotal : (u16Field datagram 2).toNat < (datagram.getD 0 0 &&& 0x0f).toNat * 4 ∨
      datagram.length < (u16Field datagram 2).toNat
  · rw [if_pos htotal]
    rfl
  · exact absurd (consistentLengths_v4 hversion (by omega) (by omega) (by omega)) h

theorem normalizeIpv6ForwardedDatagram_of_not {datagram : Bytes}
    (hversion : ipVersion datagram = 6) (h : ¬ ConsistentLengths datagram) :
    (normalizeIpv6ForwardedDatagram datagram : Outcome ε Bytes) = .ok datagram := by
  unfold normalizeIpv6ForwardedDatagram
  by_cases hshort : datagram.length < 40
  · rw [if_pos hshort]
    rfl
  rw [if_neg hshort, u16At_of_lt (by omega), Outcome.bind_ok]
  dsimp only
  by_cases htotal : datagram.length < 40 + (u16Field datagram 4).toNat
  · rw [if_pos htotal]
    rfl
  · exact absurd (consistentLengths_v6 hversion (by omega)) h

theorem normalizeForwardedDatagram_of_not {datagram : Bytes} (h : ¬ ConsistentLengths datagram) :
    (normalizeForwardedDatagram datagram : Outcome ε Bytes) = .ok datagram := by
  unfold normalizeForwardedDatagram
  cases datagram with
  | nil => rfl
  | cons first rest =>
      dsimp only [List.head?_cons]
      split
      · rename_i hversion
        exact normalizeIpv4ForwardedDatagram_of_not hversion h
      · rename_i hversion
        exact normalizeIpv6ForwardedDatagram_of_not hversion h
      · rfl

/-- A field of the datagram, two bytes further on. -/
theorem u16At_two_append {datagram : Bytes} (a b : UInt8) {i : ℕ} (h : i + 1 < datagram.length) :
    (u16At ([a, b] ++ datagram) (i + 2) : Outcome ε UInt16) = .ok (u16Field datagram i) := by
  rw [← u16At_of_lt h]
  rfl

theorem normalizeEmbeddedMulticastData_of_not {datagram : Bytes}
    (h : ¬ ConsistentLengths datagram) (a b : UInt8) :
    (normalizeEmbeddedMulticastData ([a, b] ++ datagram) : Outcome ε Bytes)
      = .ok ([a, b] ++ datagram) := by
  have hlength : ([a, b] ++ datagram).length = datagram.length + 2 := rfl
  unfold normalizeEmbeddedMulticastData
  rw [hlength]
  by_cases hempty : datagram.length + 2 < 3
  · rw [if_pos hempty]
    rfl
  have hfirst : (byteAt ([a, b] ++ datagram) 2 : Outcome ε UInt8) = .ok (datagram.getD 0 0) := by
    change byteAt datagram 0 = _
    exact byteAt_of_lt (by omega)
  rw [if_neg hempty, hfirst, Outcome.bind_ok]
  by_cases hv4 : datagram.getD 0 0 >>> 4 = 4 ∧ datagram.length + 2 ≥ 22
  · rw [if_pos hv4, u16At_two_append a b (by omega)]
    dsimp only
    rw [Target.fits_unbounded, Outcome.bind_ok, Outcome.bind_ok]
    by_cases hlengths : (datagram.getD 0 0 &&& 0x0f).toNat * 4 < 20 ∨
        (u16Field datagram 2).toNat < (datagram.getD 0 0 &&& 0x0f).toNat * 4 ∨
        datagram.length + 2 < 2 + (u16Field datagram 2).toNat
    · rw [if_pos hlengths]
      rfl
    · exact absurd (consistentLengths_v4 hv4.1 (by omega) (by omega) (by omega)) h
  rw [if_neg hv4]
  by_cases hv6 : datagram.getD 0 0 >>> 4 = 6 ∧ datagram.length + 2 ≥ 42
  · rw [if_pos hv6, u16At_two_append a b (by omega), Outcome.bind_ok]
    dsimp only
    by_cases htotal : datagram.length + 2 < 2 + (40 + (u16Field datagram 4).toNat)
    · rw [if_pos htotal]
      rfl
    · exact absurd (consistentLengths_v6 hv6.1 (by omega)) h
  · rw [if_neg hv6]
    rfl

/-! ## One normalisation -/

/-- **The two normalisations agree**, on every byte string: behind the two bytes of a
Multicast Data message stands what normalising the datagram alone gives. -/
theorem exists_normalize (datagram : Bytes) :
    ∃ packet, (normalizeForwardedDatagram datagram : Outcome ε Bytes) = .ok packet ∧
      ∀ a b, (normalizeEmbeddedMulticastData ([a, b] ++ datagram) : Outcome ε Bytes)
        = .ok ([a, b] ++ packet) := by
  by_cases h : ConsistentLengths datagram
  · obtain ⟨source, group, hcaptured⟩ := h.exists_captured
    cases hcaptured with
    | v4 hversion hihl hmin hmax =>
        exact ⟨_, normalizeForwardedDatagram_v4 hversion hihl hmin hmax,
          fun a b => normalizeEmbeddedMulticastData_v4 a b hversion hihl hmin hmax⟩
    | v6 hversion hmax =>
        exact ⟨_, normalizeForwardedDatagram_v6 hversion hmax,
          fun a b => normalizeEmbeddedMulticastData_v6 a b hversion hmax⟩
  · exact ⟨datagram, normalizeForwardedDatagram_of_not h,
      normalizeEmbeddedMulticastData_of_not h⟩

/-- **Normalising in place is normalising.**  Whatever the capture holds, neither
normalisation fails, and the message that the relay sends is the encoding of Multicast Data
with the normalised datagram. -/
theorem normalizedAmtDatagram_eq (captured : UpstreamDatagram) :
    ∃ packet, (captured.normalizedDatagram : Outcome ε Bytes) = .ok packet ∧
      (captured.normalizedAmtDatagram : Outcome ε Bytes)
        = .ok (encode (.multicastData packet)) := by
  obtain ⟨packet, hpacket, hembedded⟩ := exists_normalize (ε := ε) captured.datagram
  exact ⟨packet, hpacket, hembedded _ _⟩

/-! ## The UDP checksum -/

theorem udpChecksumParts_ne_zero (parts : List Bytes) : udpChecksumParts parts ≠ 0 := by
  unfold udpChecksumParts
  split
  · decide
  · assumption

/-- The other representative of zero: adding the modulus to a total that has it. -/
theorem residue_add_modulus {total : ℕ} (h : residue total = 65535) :
    residue (total + 65535) = 65535 := by
  unfold residue at *
  split at h
  · omega
  · rw [if_neg (by omega)]
    omega

/-- **A UDP checksum verifies**, also when `0xffff` is written for zero. -/
theorem onesComplementSum_udpField {parts : List Bytes} {front : Bytes} (back : Bytes)
    (heven : Even front.length) (hzero : parts.flatten = front ++ ([0, 0] ++ back)) :
    onesComplementSum (front ++ (u16ToBe (udpChecksumParts parts) ++ back)) = 0xffff := by
  by_cases hchecksum : checksumParts parts = 0
  · have hfull : udpChecksumParts parts = 0xffff := by
      rw [udpChecksumParts, hchecksum]
      rfl
    have htotal : wordSum parts.flatten = wordSum front + wordSum back := by
      rw [hzero, wordSum_append heven, wordSum_append (by simp)]
      simp [wordSum]
    have hresidue : residue (wordSum parts.flatten) = 65535 := by
      have hvalue := toNat_checksumParts parts
      rw [hchecksum, UInt16.toNat_zero] at hvalue
      have hbound := residue_le (wordSum parts.flatten)
      omega
    apply UInt16.toNat_inj.mp
    rw [onesComplementSum_toNat, hfull, wordSum_append heven, wordSum_append (by simp),
      wordSum_u16ToBe]
    change residue (wordSum front + (65535 + wordSum back)) = 65535
    rw [Nat.add_left_comm, Nat.add_comm, ← htotal]
    exact residue_add_modulus hresidue
  · have hkept : udpChecksumParts parts = checksumParts parts := by
      unfold udpChecksumParts
      split
      · contradiction
      · rfl
    rw [hkept]
    exact onesComplementSumParts_field back heven hzero (List.flatten_singleton)

/-- The UDP length that a body states, if it is possible. -/
def HasUdpLen (body : Bytes) (udpLen : ℕ) : Prop :=
  udpLen = (u16Field body 4).toNat ∧ 8 ≤ udpLen ∧ udpLen ≤ body.length

/-- **A repaired segment verifies**, over any pseudo-header of even length, and its checksum
is not the one that stands for none. -/
theorem repairedBody_verifies {parts : ℕ → List Bytes} {body : Bytes} {udpLen : ℕ}
    (h : HasUdpLen body udpLen) (heven : Even (parts udpLen).flatten.length) :
    u16Field (repairedBody parts body) 6 ≠ 0 ∧
      onesComplementSum ((parts udpLen).flatten ++ (repairedBody parts body).take udpLen)
        = 0xffff := by
  obtain ⟨rfl, hmin, hmax⟩ := h
  obtain ⟨b₀, b₁, b₂, b₃, b₄, b₅, hi, lo, data, rfl⟩ := exists_udp (hmin.trans hmax)
  have hfield : u16Field ([b₀, b₁, b₂, b₃, b₄, b₅] ++ hi :: lo :: data) 4 = u16OfBe b₄ b₅ := rfl
  rw [hfield] at hmin hmax heven ⊢
  let ports := [b₀, b₁, b₂, b₃, b₄, b₅]
  have hfits : ¬ ((u16OfBe b₄ b₅).toNat < 8 ∨ data.length + 8 < (u16OfBe b₄ b₅).toNat) := by
    simp at hmax
    omega
  have hrest : repairedBody parts (ports ++ hi :: lo :: data) = ports ++
      (u16ToBe (udpChecksumParts (parts (u16OfBe b₄ b₅).toNat ++
        [(ports ++ ([0, 0] ++ data)).take (u16OfBe b₄ b₅).toNat])) ++ data) := if_neg hfits
  have htake : ∀ field : Bytes, field.length = 2 →
      (ports ++ (field ++ data)).take (u16OfBe b₄ b₅).toNat =
        ports ++ (field ++ data.take ((u16OfBe b₄ b₅).toNat - 8)) := by
    intro field hlength
    have hports : ports.length = 6 := rfl
    rw [List.take_append, List.take_of_length_le (by omega), hports, List.take_append,
      List.take_of_length_le (by omega), hlength, Nat.sub_sub]
  rw [hrest]
  refine ⟨?_, ?_⟩
  · change u16OfBe (UInt8.ofNat _) (UInt16.toUInt8 _) ≠ 0
    rw [u16OfBe_toBe]
    exact udpChecksumParts_ne_zero _
  · rw [htake _ (length_u16ToBe _), ← List.append_assoc]
    refine onesComplementSum_udpField _ ?_ ?_
    · rw [List.length_append]
      exact heven.add ⟨3, rfl⟩
    · rw [List.flatten_append, List.flatten_singleton, htake [0, 0] rfl, List.append_assoc]

/-! ## What is replaced -/

/-- The repair replaces two bytes. -/
theorem getElem?_repairedBody (parts : ℕ → List Bytes) (body : Bytes) {i : ℕ} (hhi : i ≠ 6)
    (hlo : i ≠ 7) : (repairedBody parts body)[i]? = body[i]? := by
  rcases lt_or_ge body.length 8 with hshort | hlong
  · rw [repairedBody_of_length_lt parts hshort]
  obtain ⟨b₀, b₁, b₂, b₃, b₄, b₅, hi, lo, data, rfl⟩ := exists_udp hlong
  by_cases hfits : (u16OfBe b₄ b₅).toNat < 8 ∨ data.length + 8 < (u16OfBe b₄ b₅).toNat
  · exact congrArg (·[i]?) (if_pos hfits)
  · refine (congrArg (·[i]?) (if_neg hfits)).trans ?_
    refine (getElem?_u16_congr (u16OfBe hi lo) _ hhi hlo).trans ?_
    rw [u16ToBe_ofBe]
    rfl

/-- **Twice is once**: the checksum is computed with its own field zeroed. -/
theorem repairedBody_repairedBody (parts : ℕ → List Bytes) (body : Bytes) :
    repairedBody parts (repairedBody parts body) = repairedBody parts body := by
  rcases lt_or_ge body.length 8 with hshort | hlong
  · rw [repairedBody_of_length_lt parts hshort, repairedBody_of_length_lt parts hshort]
  obtain ⟨b₀, b₁, b₂, b₃, b₄, b₅, hi, lo, data, rfl⟩ := exists_udp hlong
  by_cases hfits : (u16OfBe b₄ b₅).toNat < 8 ∨ data.length + 8 < (u16OfBe b₄ b₅).toNat
  · have hkept : repairedBody parts ([b₀, b₁, b₂, b₃, b₄, b₅] ++ hi :: lo :: data) =
        [b₀, b₁, b₂, b₃, b₄, b₅] ++ hi :: lo :: data := if_pos hfits
    rw [hkept, hkept]
  · have hrepaired : ∀ hi lo : UInt8,
        repairedBody parts ([b₀, b₁, b₂, b₃, b₄, b₅] ++ hi :: lo :: data) = _ :=
      fun hi lo => if_neg hfits
    rw [hrepaired hi lo]
    exact hrepaired _ _

/-! ## The normalised datagram -/

/-- The datagram is a UDP packet and not a fragment: with IPv6, UDP is the next header. -/
def CarriesUdp (packet : Bytes) : Prop :=
  if ipVersion packet = 4 then packet.getD 9 0 = 17 ∧ u16Field packet 6 &&& 0x3fff = 0
  else packet.getD 6 0 = 17

/-- What the IP header and the stated length leave. -/
def ipPayload (packet : Bytes) : Bytes :=
  (packet.take (ipTotalLen packet)).drop (ipHeaderLen packet)

/-- The pseudo-header that a UDP checksum covers. -/
def udpPseudoHeaderOf (packet : Bytes) (udpLen : ℕ) : Bytes :=
  if ipVersion packet = 4 then
    (packet.drop 12).take 8 ++ ([0, 17] ++ u16ToBe (UInt16.ofNat udpLen))
  else (packet.drop 8).take 32 ++ (u32ToBe (UInt32.ofNat udpLen) ++ [0, 0, 0, 17])

/-- **The normalised datagram.** -/
structure Normalized (datagram packet : Bytes) : Prop where
  length_eq : packet.length = ipTotalLen datagram
  frame : ∀ i, (ipVersion datagram = 4 → i ≠ 10 ∧ i ≠ 11) →
    (CarriesUdp datagram → i ≠ ipHeaderLen datagram + 6 ∧ i ≠ ipHeaderLen datagram + 7) →
    packet[i]? = (datagram.take (ipTotalLen datagram))[i]?
  header_checksum : ipVersion datagram = 4 → Ipv4ChecksumValid packet
  udp_checksum : CarriesUdp datagram → ∀ udpLen, HasUdpLen (ipPayload datagram) udpLen →
    u16Field (ipPayload packet) 6 ≠ 0 ∧
      onesComplementSum (udpPseudoHeaderOf packet udpLen ++ (ipPayload packet).take udpLen)
        = 0xffff
  fragment : ¬ CarriesUdp datagram → ipPayload packet = ipPayload datagram

section V4

variable {header : Ipv4Header} {rest : Bytes}

theorem carriesUdp_v4 (hversion : header.versionIhl >>> 4 = 4) (rest : Bytes) :
    CarriesUdp (header.bytes ++ rest) ↔
      header.protocol = 17 ∧ header.fragment &&& 0x3fff = 0 := by
  have hfragment : u16Field (header.bytes ++ rest) 6 = header.fragment :=
    u16OfBe_toBe header.fragment
  rw [CarriesUdp, if_pos (show ipVersion (header.bytes ++ rest) = 4 from hversion), hfragment]
  rfl

theorem ipPayload_v4 (hversion : header.versionIhl >>> 4 = 4)
    (hihl : header.ihl = header.bytes.length)
    (hmin : header.bytes.length ≤ header.totalLen.toNat) :
    ipPayload (header.bytes ++ rest) = rest.take (header.totalLen.toNat - header.bytes.length) := by
  rw [ipPayload, ipHeaderLen_v4 hversion hihl, ipTotalLen_v4 hversion, take_header_append hmin,
    List.drop_left]

theorem udpPseudoHeaderOf_v4 (header : Ipv4Header) (hversion : header.versionIhl >>> 4 = 4)
    (rest : Bytes) (udpLen : ℕ) :
    udpPseudoHeaderOf (header.bytes ++ rest) udpLen = (header.udpPseudoHeader udpLen).flatten := by
  have haddresses : ((header.bytes ++ rest).drop 12).take 8 =
      header.source.octets.toList ++ header.destination.octets.toList := by
    have hsplit : header.bytes ++ rest = (header.front ++ u16ToBe header.checksum) ++
        ((header.source.octets.toList ++ header.destination.octets.toList) ++
          (header.options ++ rest)) := by
      simp [Ipv4Header.bytes, Ipv4Header.back]
    rw [hsplit, List.drop_left' (by simp), List.take_left' (by simp)]
  rw [udpPseudoHeaderOf, if_pos (show ipVersion (header.bytes ++ rest) = 4 from hversion),
    haddresses]
  simp [Ipv4Header.udpPseudoHeader]

theorem repairBody_repairBody_v4 (header : Ipv4Header) (body : Bytes) :
    header.repairBody (header.repairBody body) = header.repairBody body := by
  unfold Ipv4Header.repairBody
  split
  · exact repairedBody_repairedBody _ body
  · rfl

/-- What the IPv4 normalisation returns is normalised. -/
theorem normalized_v4 (hversion : header.versionIhl >>> 4 = 4)
    (hihl : header.ihl = header.bytes.length)
    (hmin : header.bytes.length ≤ header.totalLen.toNat)
    (hmax : header.totalLen.toNat ≤ header.bytes.length + rest.length) :
    Normalized (header.bytes ++ rest) (header.withChecksum.bytes ++
      header.repairBody (rest.take (header.totalLen.toNat - header.bytes.length))) := by
  let body := rest.take (header.totalLen.toNat - header.bytes.length)
  have hbody : body.length = header.totalLen.toNat - header.bytes.length := by
    rw [List.length_take]
    omega
  have hsum := header.length_bytes_withChecksum
  have hihl' : header.withChecksum.ihl = header.withChecksum.bytes.length := hihl.trans hsum.symm
  have hpayload : ipPayload (header.withChecksum.bytes ++ header.repairBody body) =
      header.repairBody body := by
    have hown : ipPayload (header.withChecksum.bytes ++ header.repairBody body) =
        (header.repairBody body).take (header.totalLen.toNat - header.withChecksum.bytes.length) :=
      ipPayload_v4 hversion hihl' (hsum ▸ hmin)
    rw [hown, List.take_of_length_le (by rw [Ipv4Header.length_repairBody, hsum, hbody])]
  refine ⟨?_, fun i hheader hudp => ?_, fun _ => ?_, fun hcarries udpLen hlen => ?_,
    fun hother => ?_⟩
  · rw [List.length_append, Ipv4Header.length_repairBody, ipTotalLen_v4 hversion, hsum, hbody]
    omega
  · rw [ipHeaderLen_v4 hversion hihl, carriesUdp_v4 hversion] at hudp
    obtain ⟨hhi, hlo⟩ := hheader hversion
    rw [ipTotalLen_v4 hversion, take_header_append hmin]
    refine getElem?_append_congr hsum (getElem?_u16_congr _ _ hhi hlo) fun hge => ?_
    unfold Ipv4Header.repairBody
    split
    · rename_i hcarries
      obtain ⟨hhi, hlo⟩ := hudp hcarries
      exact getElem?_repairedBody _ _ (by omega) (by omega)
    · rfl
  · rw [Ipv4ChecksumValid, ipv4HeaderOf_bytes hihl']
    exact header.onesComplementSum_withChecksum
  · rw [ipPayload_v4 hversion hihl hmin] at hlen
    have hrepair : header.repairBody body = repairedBody header.udpPseudoHeader body :=
      if_pos ((carriesUdp_v4 hversion rest).mp hcarries)
    have hpseudo : udpPseudoHeaderOf (header.withChecksum.bytes ++ header.repairBody body) udpLen =
        (header.udpPseudoHeader udpLen).flatten :=
      udpPseudoHeaderOf_v4 header.withChecksum hversion _ udpLen
    rw [hpayload, hpseudo, hrepair]
    exact repairedBody_verifies hlen (by simp [Ipv4Header.udpPseudoHeader]; decide)
  · rw [hpayload, ipPayload_v4 hversion hihl hmin]
    exact if_neg fun hcarries => hother ((carriesUdp_v4 hversion rest).mpr hcarries)

end V4

section V6

variable {header : Ipv6Header} {rest : Bytes}

theorem carriesUdp_v6 (hversion : header.versionClass >>> 4 = 6) (rest : Bytes) :
    CarriesUdp (header.bytes ++ rest) ↔ header.nextHeader = 17 := by
  rw [CarriesUdp, if_neg (ipVersion_ne_four hversion rest)]
  rfl

theorem ipPayload_v6 (hversion : header.versionClass >>> 4 = 6) (rest : Bytes) :
    ipPayload (header.bytes ++ rest) = rest.take header.payloadLen.toNat := by
  rw [ipPayload, ipHeaderLen_v6 hversion, ipTotalLen_v6 hversion, take_header_append_v6,
    List.drop_left' header.length_bytes]

theorem udpPseudoHeaderOf_v6 (hversion : header.versionClass >>> 4 = 6) (rest : Bytes)
    (udpLen : ℕ) :
    udpPseudoHeaderOf (header.bytes ++ rest) udpLen = (header.udpPseudoHeader udpLen).flatten := by
  have haddresses : ((header.bytes ++ rest).drop 8).take 32 =
      header.source.octets.toList ++ header.destination.octets.toList := by
    have hsplit : header.bytes ++ rest = ([header.versionClass, header.classFlow] ++
        (u16ToBe header.flow ++ (u16ToBe header.payloadLen ++
          [header.nextHeader, header.hopLimit]))) ++
        ((header.source.octets.toList ++ header.destination.octets.toList) ++ rest) := by
      simp [Ipv6Header.bytes]
    rw [hsplit, List.drop_left' (by simp), List.take_left' (by simp)]
  rw [udpPseudoHeaderOf, if_neg (ipVersion_ne_four hversion rest), haddresses]
  simp [Ipv6Header.udpPseudoHeader]

theorem repairBody_repairBody_v6 (header : Ipv6Header) (body : Bytes) :
    header.repairBody (header.repairBody body) = header.repairBody body := by
  unfold Ipv6Header.repairBody
  split
  · exact repairedBody_repairedBody _ body
  · rfl

theorem normalized_v6 (hversion : header.versionClass >>> 4 = 6)
    (hmax : header.payloadLen.toNat ≤ rest.length) :
    Normalized (header.bytes ++ rest)
      (header.bytes ++ header.repairBody (rest.take header.payloadLen.toNat)) := by
  let body := rest.take header.payloadLen.toNat
  have hbody : body.length = header.payloadLen.toNat := by
    rw [List.length_take]
    omega
  have hpayload : ipPayload (header.bytes ++ header.repairBody body) = header.repairBody body := by
    rw [ipPayload_v6 hversion,
      List.take_of_length_le (by rw [Ipv6Header.length_repairBody, hbody])]
  refine ⟨?_, fun i _ hudp => ?_, fun hother => ?_, fun hcarries udpLen hlen => ?_,
    fun hother => ?_⟩
  · rw [List.length_append, Ipv6Header.length_repairBody, ipTotalLen_v6 hversion, hbody,
      Ipv6Header.length_bytes]
  · rw [ipHeaderLen_v6 hversion, carriesUdp_v6 hversion] at hudp
    rw [ipTotalLen_v6 hversion, take_header_append_v6]
    refine getElem?_append_congr rfl rfl fun hge => ?_
    rw [Ipv6Header.length_bytes] at hge ⊢
    unfold Ipv6Header.repairBody
    split
    · rename_i hcarries
      obtain ⟨hhi, hlo⟩ := hudp hcarries
      exact getElem?_repairedBody _ _ (by omega) (by omega)
    · rfl
  · exact absurd hother (ipVersion_ne_four hversion rest)
  · rw [ipPayload_v6 hversion] at hlen
    have hrepair : header.repairBody body = repairedBody header.udpPseudoHeader body :=
      if_pos ((carriesUdp_v6 hversion rest).mp hcarries)
    rw [hpayload, udpPseudoHeaderOf_v6 hversion, hrepair]
    exact repairedBody_verifies hlen (by simp [Ipv6Header.udpPseudoHeader]; decide)
  · rw [hpayload, ipPayload_v6 hversion]
    exact if_neg fun hcarries => hother ((carriesUdp_v6 hversion rest).mpr hcarries)

end V6

/-- **Normalising a datagram of consistent lengths** cannot fail.  The packet has the length
that the datagram declares, is its prefix of that length up to the IPv4 header checksum and
the UDP checksum, and has

* a valid IPv4 header checksum;
* if it is a UDP packet and not a fragment, with a UDP length of at least eight that it has the
  bytes for, a UDP checksum that is not zero and verifies over the pseudo-header;
* if it is a fragment, or no UDP packet, the payload of the datagram.

Normalising it again gives it back. -/
theorem normalizeForwardedDatagram_normalized {datagram : Bytes}
    (h : ConsistentLengths datagram) :
    ∃ packet, (normalizeForwardedDatagram datagram : Outcome ε Bytes) = .ok packet ∧
      Normalized datagram packet ∧
      (normalizeForwardedDatagram packet : Outcome ε Bytes) = .ok packet := by
  obtain ⟨source, group, hcaptured⟩ := h.exists_captured
  cases hcaptured with
  | @v4 header rest hversion hihl hmin hmax =>
      refine ⟨_, normalizeForwardedDatagram_v4 hversion hihl hmin hmax,
        normalized_v4 hversion hihl hmin hmax, ?_⟩
      have hsum := header.length_bytes_withChecksum
      let body := rest.take (header.totalLen.toNat - header.bytes.length)
      have hlen : header.totalLen.toNat = header.withChecksum.bytes.length +
          (header.repairBody body).length := by
        rw [hsum, Ipv4Header.length_repairBody, List.length_take]
        omega
      have hagain : (normalizeForwardedDatagram (header.withChecksum.bytes ++
          header.repairBody body) : Outcome ε Bytes) = .ok (header.withChecksum.bytes ++
            header.repairBody ((header.repairBody body).take
              (header.totalLen.toNat - header.withChecksum.bytes.length))) :=
        normalizeForwardedDatagram_v4 hversion (hihl.trans hsum.symm) (hsum ▸ hmin) hlen.le
      rw [hagain, List.take_of_length_le (by omega), repairBody_repairBody_v4]
  | @v6 header rest hversion hmax =>
      refine ⟨_, normalizeForwardedDatagram_v6 hversion hmax, normalized_v6 hversion hmax, ?_⟩
      have hlen : header.payloadLen.toNat =
          (header.repairBody (rest.take header.payloadLen.toNat)).length := by
        rw [Ipv6Header.length_repairBody, List.length_take]
        omega
      rw [normalizeForwardedDatagram_v6 hversion hlen.le, List.take_of_length_le hlen.ge,
        repairBody_repairBody_v6]

/-- A UDP datagram of ten bytes behind an IPv4 header with four bytes of options, as the link
delivered it: no checksum is filled in, and three bytes of padding follow. -/
def paddedDatagram : Bytes :=
  [0x46, 0, 0, 34, 0, 7, 0, 0, 9, 17, 0, 0, 198, 51, 100, 1, 232, 1, 1, 1, 1, 1, 1, 0] ++
    ([0x13, 0x88, 0x13, 0x89, 0, 10, 0, 0, 0xab, 0xcd] ++ [0, 0, 0])

theorem normalizeForwardedDatagram_padded :
    ConsistentLengths paddedDatagram ∧ CarriesUdp paddedDatagram ∧
    HasUdpLen (ipPayload paddedDatagram) 10 ∧
    ∃ packet, (normalizeForwardedDatagram paddedDatagram : Outcome Empty Bytes) = .ok packet ∧
      packet.length = 34 ∧ Normalized paddedDatagram packet := by
  have hlengths : ConsistentLengths paddedDatagram :=
    ⟨by decide +kernel, by decide +kernel, by decide +kernel, by decide +kernel⟩
  obtain ⟨packet, hrun, hnormalized, -⟩ :=
    normalizeForwardedDatagram_normalized (ε := Empty) hlengths
  have hversion : ipVersion paddedDatagram = 4 := by decide +kernel
  have hcarries : CarriesUdp paddedDatagram := by
    rw [CarriesUdp, if_pos hversion]
    decide +kernel
  have hudp : HasUdpLen (ipPayload paddedDatagram) 10 :=
    ⟨by decide +kernel, by decide +kernel, by decide +kernel⟩
  have htotal : ipTotalLen paddedDatagram = 34 := by decide +kernel
  exact ⟨hlengths, hcarries, hudp, packet, hrun, hnormalized.length_eq.trans htotal, hnormalized⟩

end Amt

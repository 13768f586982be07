import Amt.Ecn

/-!
# IP datagrams as headers and bodies

The data path handles a datagram as a byte string, and four pieces of code read it with
offsets of their own: the capture, the fragmentation, the gateway's parser and the ECN
code.  This module gives the byte string its structure once: a header with named fields,
followed by a body.

* **Reading.**  A datagram long enough for its header is `header.bytes ++ body`
  (`exists_ipv4Header`, `exists_ipv6Header`), and every field access of the code is a
  field of that header.
* **Well-formedness.**  `Ipv4Header.IsDatagram` and `Ipv6Header.IsDatagram` say that the
  lengths in the header are those of the byte string and that the IPv4 header checksum is
  valid; without the checksum it is `Ipv4Header.IsSized`, which is all that the ECN code and
  the fragmentation look at.  `MulticastDatagram` adds the addresses; it is exactly what
  `parseMulticastPacket` accepts (`exists_parseMulticastPacket_iff`).
* **Writing.**  `Ipv4Header.withChecksum` is the header with its checksum computed, as
  every writer of the program does it; it always verifies.

The ECN code rewrites two bits of a header and keeps the datagram well formed
(`MulticastDatagram.decapsulateEcn`).
-/

namespace Amt

open Outcome (ensure bind_ok bind_eq_ok_iff ensure_of bind_ne_panic pure_eq_ok ensure_eq_ok_iff
  ensure_ne_panic)

/-! ## IPv4 headers -/

/-- The fields of an IPv4 header, in the order of the wire. -/
structure Ipv4Header where
  versionIhl : UInt8
  tos : UInt8
  totalLen : UInt16
  ident : UInt16
  fragment : UInt16
  ttl : UInt8
  protocol : UInt8
  checksum : UInt16
  source : Ipv4Addr
  destination : Ipv4Addr
  options : Bytes
deriving DecidableEq

namespace Ipv4Header

/-- The ten bytes before the checksum. -/
def front (header : Ipv4Header) : Bytes :=
  [header.versionIhl, header.tos] ++ (u16ToBe header.totalLen ++ (u16ToBe header.ident ++
    (u16ToBe header.fragment ++ [header.ttl, header.protocol])))

/-- What follows the checksum. -/
def back (header : Ipv4Header) : Bytes :=
  header.source.octets.toList ++ (header.destination.octets.toList ++ header.options)

/-- The header on the wire. -/
def bytes (header : Ipv4Header) : Bytes :=
  header.front ++ (u16ToBe header.checksum ++ header.back)

/-- The header length its first byte states. -/
def ihl (header : Ipv4Header) : ℕ := (header.versionIhl &&& 0x0f).toNat * 4

@[simp] theorem length_front (header : Ipv4Header) : header.front.length = 10 := rfl

theorem length_bytes (header : Ipv4Header) :
    header.bytes.length = 20 + header.options.length := by
  simp [bytes, back]
  omega

/-- The header with the checksum of its other fields. -/
def withChecksum (header : Ipv4Header) : Ipv4Header :=
  { header with checksum := Amt.checksum { header with checksum := 0 }.bytes }

theorem length_bytes_withChecksum (header : Ipv4Header) :
    header.withChecksum.bytes.length = header.bytes.length := by
  rw [length_bytes, length_bytes]
  rfl

/-- **A computed checksum verifies.** -/
theorem onesComplementSum_withChecksum (header : Ipv4Header) :
    onesComplementSum header.withChecksum.bytes = 0xffff := by
  have hzero : { header with checksum := 0 }.bytes = header.front ++ ([0, 0] ++ header.back) := by
    change header.front ++ (u16ToBe 0 ++ header.back) = _
    rw [show u16ToBe 0 = [0, 0] by decide]
  rw [withChecksum, hzero]
  exact onesComplementSum_field header.front ⟨5, rfl⟩

/-! ### Reading fields -/

section Read

variable {ε : Type*} (header : Ipv4Header) (body : Bytes)

@[simp] theorem head?_bytes_append :
    (header.bytes ++ body).head? = some header.versionIhl := rfl

@[simp] theorem byteAt_zero :
    (byteAt (header.bytes ++ body) 0 : Outcome ε UInt8) = .ok header.versionIhl := rfl

@[simp] theorem byteAt_one :
    (byteAt (header.bytes ++ body) 1 : Outcome ε UInt8) = .ok header.tos := rfl

@[simp] theorem byteAt_nine :
    (byteAt (header.bytes ++ body) 9 : Outcome ε UInt8) = .ok header.protocol := rfl

@[simp] theorem u16At_two :
    (u16At (header.bytes ++ body) 2 : Outcome ε UInt16) = .ok header.totalLen := by
  change Outcome.ok (u16OfBe _ _) = _
  rw [u16OfBe_toBe]

@[simp] theorem u16At_six :
    (u16At (header.bytes ++ body) 6 : Outcome ε UInt16) = .ok header.fragment := by
  change Outcome.ok (u16OfBe _ _) = _
  rw [u16OfBe_toBe]

@[simp] theorem readIpv4_twelve :
    (readIpv4 (header.bytes ++ body) 12 : Outcome ε Ipv4Addr) = .ok header.source := by
  obtain ⟨a, b, c, d, hsource⟩ := header.source.exists_eq_new
  simp only [bytes, back, hsource]
  rfl

@[simp] theorem readIpv4_sixteen :
    (readIpv4 (header.bytes ++ body) 16 : Outcome ε Ipv4Addr) = .ok header.destination := by
  obtain ⟨a, b, c, d, hsource⟩ := header.source.exists_eq_new
  obtain ⟨a', b', c', d', hdestination⟩ := header.destination.exists_eq_new
  simp only [bytes, back, hsource, hdestination]
  rfl

theorem slice_header {n : ℕ} (hn : n = header.bytes.length) :
    (slice (header.bytes ++ body) 0 n : Outcome ε Bytes) = .ok header.bytes := by
  change slice ([] ++ (header.bytes ++ body)) 0 n = _
  exact slice_append body rfl (by simpa using hn)

end Read

end Ipv4Header

/-- A byte string with room for `n ≥ 20` header bytes has a header of that length. -/
theorem exists_ipv4Header {packet : Bytes} {n : ℕ} (hmin : 20 ≤ n) (hlen : n ≤ packet.length) :
    ∃ header : Ipv4Header, ∃ body, packet = header.bytes ++ body ∧ header.bytes.length = n := by
  obtain ⟨fixed, rest, rfl, hfixed⟩ : ∃ fixed rest, packet = fixed ++ rest ∧ fixed.length = 20 :=
    ⟨packet.take 20, packet.drop 20, (List.take_append_drop 20 packet).symm, by simp; omega⟩
  match fixed, hfixed with
  | [b₀, b₁, b₂, b₃, b₄, b₅, b₆, b₇, b₈, b₉, b₁₀, b₁₁, b₁₂, b₁₃, b₁₄, b₁₅, b₁₆, b₁₇, b₁₈, b₁₉], _ =>
    let header : Ipv4Header :=
      { versionIhl := b₀, tos := b₁, totalLen := u16OfBe b₂ b₃, ident := u16OfBe b₄ b₅
        fragment := u16OfBe b₆ b₇, ttl := b₈, protocol := b₉, checksum := u16OfBe b₁₀ b₁₁
        source := .new b₁₂ b₁₃ b₁₄ b₁₅, destination := .new b₁₆ b₁₇ b₁₈ b₁₉
        options := rest.take (n - 20) }
    have hrest : n - 20 ≤ rest.length := by
      simp at hlen
      omega
    refine ⟨header, rest.drop (n - 20), ?_, ?_⟩
    · simp [header, Ipv4Header.bytes, Ipv4Header.front, Ipv4Header.back, Ipv4Addr.new,
        u16ToBe_ofBe]
    · rw [Ipv4Header.length_bytes]
      simp [header, hrest]
      omega

/-! ## IPv6 headers -/

/-- The fields of an IPv6 header, in the order of the wire: the first two bytes hold the
version, the traffic class and the upper flow label bits. -/
structure Ipv6Header where
  versionClass : UInt8
  classFlow : UInt8
  flow : UInt16
  payloadLen : UInt16
  nextHeader : UInt8
  hopLimit : UInt8
  source : Ipv6Addr
  destination : Ipv6Addr
deriving DecidableEq

namespace Ipv6Header

/-- The header on the wire. -/
def bytes (header : Ipv6Header) : Bytes :=
  [header.versionClass, header.classFlow] ++ (u16ToBe header.flow ++ (u16ToBe header.payloadLen ++
    ([header.nextHeader, header.hopLimit] ++ (header.source.octets.toList ++
      header.destination.octets.toList))))

@[simp] theorem length_bytes (header : Ipv6Header) : header.bytes.length = 40 := by
  simp [bytes]

section Read

variable {ε : Type*} (header : Ipv6Header) (body : Bytes)

@[simp] theorem head?_bytes_append :
    (header.bytes ++ body).head? = some header.versionClass := rfl

@[simp] theorem byteAt_one :
    (byteAt (header.bytes ++ body) 1 : Outcome ε UInt8) = .ok header.classFlow := rfl

@[simp] theorem byteAt_six :
    (byteAt (header.bytes ++ body) 6 : Outcome ε UInt8) = .ok header.nextHeader := rfl

@[simp] theorem u16At_four :
    (u16At (header.bytes ++ body) 4 : Outcome ε UInt16) = .ok header.payloadLen := by
  change Outcome.ok (u16OfBe _ _) = _
  rw [u16OfBe_toBe]

@[simp] theorem readIpv6_eight :
    (readIpv6 (header.bytes ++ body) 8 : Outcome ε Ipv6Addr) = .ok header.source := by
  have h : header.bytes ++ body = ([header.versionClass, header.classFlow] ++
      (u16ToBe header.flow ++ (u16ToBe header.payloadLen ++
        [header.nextHeader, header.hopLimit]))) ++
      (header.source.octets.toList ++ (header.destination.octets.toList ++ body)) := by
    simp [bytes]
  rw [h]
  exact readIpv6_append _ _ rfl

@[simp] theorem readIpv6_twentyFour :
    (readIpv6 (header.bytes ++ body) 24 : Outcome ε Ipv6Addr) = .ok header.destination := by
  have h : header.bytes ++ body = ([header.versionClass, header.classFlow] ++
      (u16ToBe header.flow ++ (u16ToBe header.payloadLen ++
        ([header.nextHeader, header.hopLimit] ++ header.source.octets.toList)))) ++
      (header.destination.octets.toList ++ body) := by
    simp [bytes]
  rw [h]
  exact readIpv6_append _ _ (by simp)

end Read

end Ipv6Header

/-- The first forty bytes are a header. -/
theorem exists_ipv6Header {packet : Bytes} (hlen : 40 ≤ packet.length) :
    ∃ header : Ipv6Header, ∃ body, packet = header.bytes ++ body := by
  obtain ⟨fixed, addresses, rfl, hfixed⟩ :
      ∃ fixed rest, packet = fixed ++ rest ∧ fixed.length = 8 :=
    ⟨packet.take 8, packet.drop 8, (List.take_append_drop 8 packet).symm, by simp; omega⟩
  match fixed, hfixed with
  | [b₀, b₁, b₂, b₃, b₄, b₅, b₆, b₇], _ =>
    have hlen : 32 ≤ addresses.length := by
      simp at hlen
      omega
    let header : Ipv6Header :=
      { versionClass := b₀, classFlow := b₁, flow := u16OfBe b₂ b₃, payloadLen := u16OfBe b₄ b₅
        nextHeader := b₆, hopLimit := b₇
        source := ⟨⟨addresses.take 16, by simp; omega⟩⟩
        destination := ⟨⟨(addresses.drop 16).take 16, by simp; omega⟩⟩ }
    refine ⟨header, addresses.drop 32, ?_⟩
    have hdrop : addresses.drop 32 = (addresses.drop 16).drop 16 := by simp
    simp only [header, Ipv6Header.bytes, u16ToBe_ofBe, hdrop, List.append_assoc,
      List.take_append_drop, List.cons_append, List.nil_append]

/-! ## Well-formed datagrams -/

/-- **The lengths in an IPv4 header are those of the byte string**, whatever its checksum. -/
structure Ipv4Header.IsSized (header : Ipv4Header) (body : Bytes) : Prop where
  version : header.versionIhl >>> 4 = 4
  ihl_eq : header.ihl = header.bytes.length
  totalLen_eq : header.totalLen.toNat = header.bytes.length + body.length

/-- The byte string is an IPv4 datagram: its header states the version, its own length
and that of the whole, and its checksum is valid. -/
structure Ipv4Header.IsDatagram (header : Ipv4Header) (body : Bytes) : Prop
    extends header.IsSized body where
  checksum_valid : onesComplementSum header.bytes = 0xffff

/-- The byte string is an IPv6 datagram. -/
structure Ipv6Header.IsDatagram (header : Ipv6Header) (body : Bytes) : Prop where
  version : header.versionClass >>> 4 = 6
  payloadLen_eq : header.payloadLen.toNat = body.length

/-- A source that may send to a group. -/
def ValidAddresses (source group : IpAddr) : Prop :=
  invalidSource source = false ∧ group.isMulticast = true

theorem validateAddresses_eq_ok_iff {source group : IpAddr} :
    validateAddresses source group = .ok () ↔ ValidAddresses source group := by
  simp [validateAddresses, ValidAddresses, bind_eq_ok_iff]

/-- **A well-formed multicast datagram** from `source` to `group`. -/
inductive MulticastDatagram : Bytes → IpAddr → IpAddr → Prop
  | v4 {header : Ipv4Header} {body : Bytes} (hdatagram : header.IsDatagram body)
      (haddresses : ValidAddresses (.v4 header.source) (.v4 header.destination)) :
      MulticastDatagram (header.bytes ++ body) (.v4 header.source) (.v4 header.destination)
  | v6 {header : Ipv6Header} {body : Bytes} (hdatagram : header.IsDatagram body)
      (haddresses : ValidAddresses (.v6 header.source) (.v6 header.destination)) :
      MulticastDatagram (header.bytes ++ body) (.v6 header.source) (.v6 header.destination)

/-! ### Reading a packet off its bytes

What the results about arbitrary byte strings are stated with. -/

/-- The upper half of the first byte. -/
def ipVersion (packet : Bytes) : UInt8 := packet.getD 0 0 >>> 4

/-- A big-endian field of two bytes. -/
def u16Field (packet : Bytes) (i : ℕ) : UInt16 :=
  u16OfBe (packet.getD i 0) (packet.getD (i + 1) 0)

theorem byteAt_of_lt {ε : Type*} {packet : Bytes} {i : ℕ} (h : i < packet.length) :
    (byteAt packet i : Outcome ε UInt8) = .ok (packet.getD i 0) := by
  rw [byteAt, List.getElem?_eq_getElem h, List.getD_eq_getElem _ _ h]

theorem u16At_of_lt {ε : Type*} {packet : Bytes} {i : ℕ} (h : i + 1 < packet.length) :
    (u16At packet i : Outcome ε UInt16) = .ok (u16Field packet i) := by
  rw [u16At, byteAt_of_lt (by omega), bind_ok, byteAt_of_lt h, bind_ok]
  rfl

/-- The IPv4 header of a packet, options included. -/
def ipv4HeaderOf (packet : Bytes) : Bytes := packet.take ((packet.getD 0 0 &&& 0x0f).toNat * 4)

/-- **The IPv4 header checksum verifies.** -/
def Ipv4ChecksumValid (packet : Bytes) : Prop := onesComplementSum (ipv4HeaderOf packet) = 0xffff

instance (packet : Bytes) : Decidable (Ipv4ChecksumValid packet) :=
  inferInstanceAs (Decidable (_ = _))

theorem ipv4HeaderOf_bytes {header : Ipv4Header} (h : header.ihl = header.bytes.length)
    (body : Bytes) : ipv4HeaderOf (header.bytes ++ body) = header.bytes := by
  change (header.bytes ++ body).take header.ihl = header.bytes
  rw [h, List.take_left]

theorem Ipv4Header.IsDatagram.ipv4ChecksumValid {header : Ipv4Header} {body : Bytes}
    (h : header.IsDatagram body) : Ipv4ChecksumValid (header.bytes ++ body) := by
  rw [Ipv4ChecksumValid, ipv4HeaderOf_bytes h.ihl_eq]
  exact h.checksum_valid

/-! ### The parser accepts exactly these -/

/-- The length checks of the IPv4 validators. -/
theorem Ipv4Header.IsSized.lengths {header : Ipv4Header} {body : Bytes}
    (h : header.IsSized body) :
    ¬ (header.bytes ++ body).length < ipv4MinHeaderLen ∧
      ¬ (header.bytes.length < ipv4MinHeaderLen ∨
        header.bytes.length > (header.bytes ++ body).length) ∧
      ¬ (header.totalLen.toNat < header.bytes.length ∨
        header.totalLen.toNat ≠ (header.bytes ++ body).length) := by
  rw [List.length_append, h.totalLen_eq, header.length_bytes, ipv4MinHeaderLen]
  omega

/-- The length checks of both IPv6 validators. -/
theorem Ipv6Header.IsDatagram.lengths {header : Ipv6Header} {body : Bytes}
    (h : header.IsDatagram body) :
    ¬ (header.bytes ++ body).length < ipv6HeaderLen ∧
      ipv6HeaderLen + header.payloadLen.toNat = (header.bytes ++ body).length := by
  rw [List.length_append, h.payloadLen_eq, header.length_bytes, ipv6HeaderLen]
  omega

/-- A datagram with valid addresses is accepted. -/
theorem Ipv4Header.IsDatagram.parseIpv4 {header : Ipv4Header} {body : Bytes}
    (h : header.IsDatagram body)
    (haddresses : ValidAddresses (.v4 header.source) (.v4 header.destination)) :
    parseIpv4 (header.bytes ++ body) = .ok
      { source := .v4 header.source, group := .v4 header.destination
        ipProtocol := header.protocol, datagramLen := header.totalLen.toNat
        fragmented := header.fragment &&& (0x2000 ||| 0x1fff) != 0 } := by
  have hihl : (header.versionIhl &&& 0x0f).toNat * 4 = header.bytes.length := h.ihl_eq
  obtain ⟨hmin, hheader, htotal⟩ := h.toIsSized.lengths
  simp only [Amt.parseIpv4, Ipv4Header.byteAt_zero, Ipv4Header.u16At_two, Ipv4Header.u16At_six,
    Ipv4Header.byteAt_nine, Ipv4Header.readIpv4_twelve, Ipv4Header.readIpv4_sixteen, hihl,
    header.slice_header body rfl, Target.fits_unbounded, sumFits_unbounded, bind_ok]
  rw [ensure_of hmin, bind_ok, ensure_of hheader, bind_ok,
    ensure_of htotal, bind_ok, ensure_of h.checksum_valid,
    bind_ok, validateAddresses_eq_ok_iff.mpr haddresses, bind_ok,
    pure_eq_ok]

theorem Ipv6Header.IsDatagram.parseIpv6 {header : Ipv6Header} {body : Bytes}
    (h : header.IsDatagram body)
    (haddresses : ValidAddresses (.v6 header.source) (.v6 header.destination)) :
    parseIpv6 (header.bytes ++ body) = .ok
      { source := .v6 header.source, group := .v6 header.destination
        ipProtocol := header.nextHeader, datagramLen := ipv6HeaderLen + header.payloadLen.toNat
        fragmented := header.nextHeader == 44 } := by
  obtain ⟨hmin, htotal⟩ := h.lengths
  simp only [Amt.parseIpv6, Ipv6Header.u16At_four, Ipv6Header.readIpv6_eight,
    Ipv6Header.readIpv6_twentyFour, Ipv6Header.byteAt_six, Target.ensure_representable, bind_ok]
  rw [ensure_of hmin, bind_ok, ensure_of htotal, bind_ok,
    validateAddresses_eq_ok_iff.mpr haddresses, bind_ok, pure_eq_ok]

/-- And an accepted packet is such a datagram. -/
theorem parseIpv4_eq_ok {packet : Bytes} {parsed : MulticastPacket}
    (hversion : ∃ first, packet.head? = some first ∧ first >>> 4 = 4)
    (h : parseIpv4 packet = .ok parsed) :
    MulticastDatagram packet parsed.source parsed.group := by
  obtain ⟨_, hmin, h⟩ := bind_eq_ok_iff.mp h
  obtain ⟨first, hfirst, h⟩ := bind_eq_ok_iff.mp h
  obtain ⟨_, -, h⟩ := bind_eq_ok_iff.mp h
  obtain ⟨_, hihl, h⟩ := bind_eq_ok_iff.mp h
  rw [ensure_eq_ok_iff] at hmin hihl
  simp only [ipv4MinHeaderLen] at hmin hihl
  obtain ⟨header, body, rfl, hlen⟩ : ∃ header : Ipv4Header, ∃ body,
      packet = header.bytes ++ body ∧ header.bytes.length = (first &&& 0x0f).toNat * 4 :=
    exists_ipv4Header (by omega) (by omega)
  rw [Ipv4Header.byteAt_zero] at hfirst
  obtain rfl := Outcome.ok.inj hfirst
  rw [Ipv4Header.u16At_two, bind_ok] at h
  obtain ⟨_, htotal, h⟩ := bind_eq_ok_iff.mp h
  rw [ensure_eq_ok_iff] at htotal
  rw [header.slice_header body hlen.symm, bind_ok, sumFits_unbounded, bind_ok] at h
  obtain ⟨_, hsum, h⟩ := bind_eq_ok_iff.mp h
  rw [ensure_eq_ok_iff] at hsum
  rw [Ipv4Header.readIpv4_twelve, bind_ok, Ipv4Header.readIpv4_sixteen,
    bind_ok] at h
  obtain ⟨_, haddresses, h⟩ := bind_eq_ok_iff.mp h
  rw [Ipv4Header.u16At_six, bind_ok, Ipv4Header.byteAt_nine, bind_ok] at h
  obtain rfl := Outcome.ok.inj h
  refine .v4 ⟨⟨?_, hlen.symm, ?_⟩, hsum⟩ (validateAddresses_eq_ok_iff.mp haddresses)
  · obtain ⟨first, hfirst, hversion⟩ := hversion
    exact Option.some.inj hfirst ▸ hversion
  · have := not_or.mp htotal
    simp only [List.length_append] at this
    omega

/-- The same for IPv6. -/
theorem parseIpv6_eq_ok {packet : Bytes} {parsed : MulticastPacket}
    (hversion : ∃ first, packet.head? = some first ∧ first >>> 4 = 6)
    (h : parseIpv6 packet = .ok parsed) :
    MulticastDatagram packet parsed.source parsed.group := by
  obtain ⟨_, hmin, h⟩ := bind_eq_ok_iff.mp h
  rw [ensure_eq_ok_iff, ipv6HeaderLen] at hmin
  obtain ⟨header, body, rfl⟩ := exists_ipv6Header (not_lt.mp hmin)
  rw [Ipv6Header.u16At_four, bind_ok] at h
  obtain ⟨_, -, h⟩ := bind_eq_ok_iff.mp h
  obtain ⟨_, htotal, h⟩ := bind_eq_ok_iff.mp h
  rw [ensure_eq_ok_iff, ipv6HeaderLen] at htotal
  rw [Ipv6Header.readIpv6_eight, bind_ok, Ipv6Header.readIpv6_twentyFour,
    bind_ok] at h
  obtain ⟨_, haddresses, h⟩ := bind_eq_ok_iff.mp h
  rw [Ipv6Header.byteAt_six, bind_ok] at h
  obtain rfl := Outcome.ok.inj h
  refine .v6 ⟨?_, ?_⟩ (validateAddresses_eq_ok_iff.mp haddresses)
  · obtain ⟨first, hfirst, hversion⟩ := hversion
    exact Option.some.inj hfirst ▸ hversion
  · rw [List.length_append, Ipv6Header.length_bytes] at htotal
    omega

/-- For both versions. -/
theorem multicastDatagram_of_parse {packet : Bytes} {parsed : MulticastPacket}
    (h : parseMulticastPacket packet = .ok parsed) :
    MulticastDatagram packet parsed.source parsed.group := by
  unfold parseMulticastPacket at h
  cases hhead : packet.head? with
  | none => simp [hhead] at h
  | some first =>
      simp only [hhead] at h
      split at h
      · rename_i hversion
        exact parseIpv4_eq_ok ⟨first, hhead, hversion⟩ h
      · rename_i hversion
        exact parseIpv6_eq_ok ⟨first, hhead, hversion⟩ h
      · cases h

theorem Ipv4Header.IsDatagram.parseMulticastPacket {header : Ipv4Header} {body : Bytes}
    (h : header.IsDatagram body)
    (haddresses : ValidAddresses (.v4 header.source) (.v4 header.destination)) :
    parseMulticastPacket (header.bytes ++ body) = .ok
      { source := .v4 header.source, group := .v4 header.destination
        ipProtocol := header.protocol, datagramLen := header.totalLen.toNat
        fragmented := header.fragment &&& (0x2000 ||| 0x1fff) != 0 } := by
  rw [Amt.parseMulticastPacket, Ipv4Header.head?_bytes_append]
  simp only [h.version, h.parseIpv4 haddresses]

theorem Ipv6Header.IsDatagram.parseMulticastPacket {header : Ipv6Header} {body : Bytes}
    (h : header.IsDatagram body)
    (haddresses : ValidAddresses (.v6 header.source) (.v6 header.destination)) :
    parseMulticastPacket (header.bytes ++ body) = .ok
      { source := .v6 header.source, group := .v6 header.destination
        ipProtocol := header.nextHeader, datagramLen := ipv6HeaderLen + header.payloadLen.toNat
        fragmented := header.nextHeader == 44 } := by
  rw [Amt.parseMulticastPacket, Ipv6Header.head?_bytes_append]
  simp only [h.version, h.parseIpv6 haddresses]

theorem MulticastDatagram.exists_parse {packet : Bytes} {source group : IpAddr}
    (h : MulticastDatagram packet source group) :
    ∃ parsed, parseMulticastPacket packet = .ok parsed ∧ parsed.source = source ∧
      parsed.group = group := by
  cases h with
  | v4 hdatagram haddresses => exact ⟨_, hdatagram.parseMulticastPacket haddresses, rfl, rfl⟩
  | v6 hdatagram haddresses => exact ⟨_, hdatagram.parseMulticastPacket haddresses, rfl, rfl⟩

/-- **The parser accepts exactly the well-formed multicast datagrams**, and reads their
addresses. -/
theorem exists_parseMulticastPacket_iff {packet : Bytes} {source group : IpAddr} :
    (∃ parsed, parseMulticastPacket packet = .ok parsed ∧ parsed.source = source ∧
      parsed.group = group) ↔ MulticastDatagram packet source group := by
  constructor
  · rintro ⟨parsed, hparse, rfl, rfl⟩
    exact multicastDatagram_of_parse hparse
  · exact MulticastDatagram.exists_parse

/-! ## The ECN code -/

namespace Ipv4Header

/-- The header with another ECN field, as `set_ip_ecn` writes it. -/
def withEcn (header : Ipv4Header) (ecn : EcnCodepoint) : Ipv4Header :=
  { header with tos := (header.tos &&& ~~~(3 : UInt8)) ||| ecn.bits }.withChecksum

variable {header : Ipv4Header} {body : Bytes}

theorem copyInto_checksum {ε : Type*} (header : Ipv4Header) (body : Bytes) (v : UInt16) :
    (copyInto (header.bytes ++ body) 10 12 (u16ToBe v) : Outcome ε Bytes)
      = .ok ({ header with checksum := v }.bytes ++ body) := by
  have hbytes : ∀ w : UInt16, { header with checksum := w }.bytes ++ body =
      header.front ++ (u16ToBe w ++ (header.back ++ body)) := by
    intro w
    simp [bytes, front, back]
  rw [hbytes v]
  change copyInto ({ header with checksum := header.checksum }.bytes ++ body) 10 12 _ = _
  rw [hbytes]
  exact copyInto_append _ rfl rfl rfl

theorem copyInto_zero {ε : Type*} (header : Ipv4Header) (body : Bytes) :
    (copyInto (header.bytes ++ body) 10 12 [0, 0] : Outcome ε Bytes)
      = .ok ({ header with checksum := 0 }.bytes ++ body) := by
  rw [← show u16ToBe 0 = [0, 0] by decide]
  exact header.copyInto_checksum body 0

/-- Zeroing the checksum, computing it and writing it back. -/
theorem writeChecksum {ε : Type*} (header : Ipv4Header) (body : Bytes) {headerLen : ℕ}
    (hlen : headerLen = header.bytes.length) :
    (do
      let packet ← copyInto (header.bytes ++ body) 10 12 [0, 0]
      let headerChecksum := Amt.checksum (← slice packet 0 headerLen)
      copyInto packet 10 12 (u16ToBe headerChecksum) : Outcome ε Bytes)
      = .ok (header.withChecksum.bytes ++ body) := by
  have hlen' : headerLen = { header with checksum := 0 }.bytes.length := by
    rw [hlen, length_bytes, length_bytes]
  rw [copyInto_zero, bind_ok, slice_header _ _ hlen', bind_ok, copyInto_checksum]
  rfl

/-- A header of the right lengths and its computed checksum make a datagram, with any body of
the same length. -/
theorem IsSized.withChecksum (h : header.IsSized body) {body' : Bytes}
    (hlen : body'.length = body.length) : header.withChecksum.IsDatagram body' where
  version := h.version
  ihl_eq := h.ihl_eq.trans header.length_bytes_withChecksum.symm
  totalLen_eq := by
    rw [header.length_bytes_withChecksum, hlen]
    exact h.totalLen_eq
  checksum_valid := onesComplementSum_withChecksum header

theorem IsSized.withEcn (h : header.IsSized body) (ecn : EcnCodepoint) :
    (header.withEcn ecn).IsDatagram body := by
  have hmarked : { header with tos := (header.tos &&& ~~~(3 : UInt8)) ||| ecn.bits }.IsSized body :=
    ⟨h.version, h.ihl_eq, h.totalLen_eq⟩
  exact hmarked.withChecksum rfl

theorem IsSized.validateIpv4 (h : header.IsSized body) :
    validateIpv4 (header.bytes ++ body) = .ok header.bytes.length := by
  have hihl : (header.versionIhl &&& 0x0f).toNat * 4 = header.bytes.length := h.ihl_eq
  obtain ⟨hmin, hheader, htotal⟩ := h.lengths
  simp only [Amt.validateIpv4, byteAt_zero, u16At_two, hihl, Target.fits_unbounded, bind_ok]
  rw [ensure_of hmin, bind_ok, ensure_of hheader, bind_ok,
    ensure_of htotal, bind_ok, pure_eq_ok]

theorem IsSized.ipEcn (h : header.IsSized body) :
    ipEcn (header.bytes ++ body) = .ok (.fromBits header.tos) := by
  rw [Amt.ipEcn, head?_bytes_append]
  simp only [h.version, h.validateIpv4, bind_ok, byteAt_one, pure_eq_ok]

theorem IsSized.setIpEcn (h : header.IsSized body) (ecn : EcnCodepoint) :
    setIpEcn (header.bytes ++ body) ecn = .ok ((header.withEcn ecn).bytes ++ body) := by
  let marked : Ipv4Header := { header with tos := (header.tos &&& ~~~(3 : UInt8)) ||| ecn.bits }
  have hset : (setAt (header.bytes ++ body) 1 marked.tos : Outcome EcnError Bytes)
      = .ok (marked.bytes ++ body) := rfl
  have hlen : header.bytes.length = marked.bytes.length := by
    rw [length_bytes, length_bytes]
  rw [Amt.setIpEcn, head?_bytes_append]
  simp only [h.version, h.validateIpv4, bind_ok, byteAt_one]
  rw [hset, bind_ok]
  exact marked.writeChecksum body hlen

end Ipv4Header

namespace Ipv6Header

/-- The codepoint is in the second byte, above the flow label. -/
def withEcn (header : Ipv6Header) (ecn : EcnCodepoint) : Ipv6Header :=
  { header with classFlow := (header.classFlow &&& ~~~(0x30 : UInt8)) ||| (ecn.bits <<< 4) }

variable {header : Ipv6Header} {body : Bytes}

theorem IsDatagram.withEcn (h : header.IsDatagram body) (ecn : EcnCodepoint) :
    (header.withEcn ecn).IsDatagram body := ⟨h.version, h.payloadLen_eq⟩

theorem IsDatagram.validateIpv6 (h : header.IsDatagram body) :
    validateIpv6 (header.bytes ++ body) = .ok () := by
  obtain ⟨hmin, htotal⟩ := h.lengths
  simp only [Amt.validateIpv6, u16At_four, Target.ensure_representable, bind_ok]
  rw [ensure_of hmin, bind_ok, ensure_of htotal]

theorem IsDatagram.ipEcn (h : header.IsDatagram body) :
    ipEcn (header.bytes ++ body) = .ok (.fromBits (header.classFlow >>> 4)) := by
  rw [Amt.ipEcn, head?_bytes_append]
  simp only [h.version, h.validateIpv6, bind_ok, byteAt_one, pure_eq_ok]

theorem IsDatagram.setIpEcn (h : header.IsDatagram body) (ecn : EcnCodepoint) :
    setIpEcn (header.bytes ++ body) ecn = .ok ((header.withEcn ecn).bytes ++ body) := by
  rw [Amt.setIpEcn, head?_bytes_append]
  simp only [h.version, h.validateIpv6, bind_ok, byteAt_one]
  rfl

end Ipv6Header

/-! ### Which packets have an ECN field -/

/-- **An IP packet of exactly the lengths that its header states.** -/
inductive SizedPacket : Bytes → Prop
  | v4 {header : Ipv4Header} {body : Bytes} (h : header.IsSized body) :
      SizedPacket (header.bytes ++ body)
  | v6 {header : Ipv6Header} {body : Bytes} (h : header.IsDatagram body) :
      SizedPacket (header.bytes ++ body)

theorem validateIpv4_ne_panic (packet : Bytes) : validateIpv4 packet ≠ .panic := by
  refine bind_ne_panic ensure_ne_panic fun _ hmin => ?_
  rw [ensure_eq_ok_iff, ipv4MinHeaderLen] at hmin
  refine bind_ne_panic (byteAt_ne_panic (by omega)) fun first _ => ?_
  refine bind_ne_panic (by simp) fun _ _ => bind_ne_panic ensure_ne_panic fun _ _ => ?_
  refine bind_ne_panic (u16At_ne_panic (by omega)) fun totalLen _ => ?_
  exact bind_ne_panic ensure_ne_panic fun _ _ => by simp

theorem validateIpv6_ne_panic (packet : Bytes) : validateIpv6 packet ≠ .panic := by
  refine bind_ne_panic ensure_ne_panic fun _ hmin => ?_
  rw [ensure_eq_ok_iff, ipv6HeaderLen] at hmin
  refine bind_ne_panic (u16At_ne_panic (by omega)) fun payloadLen _ => ?_
  exact bind_ne_panic ensure_ne_panic fun _ _ => ensure_ne_panic

/-- What the IPv4 validator accepts, under the version that its callers have checked. -/
theorem exists_isSized_of_validateIpv4 {packet : Bytes} {first : UInt8} {headerLen : ℕ}
    (hfirst : packet.head? = some first) (hversion : first >>> 4 = 4)
    (h : validateIpv4 packet = .ok headerLen) :
    ∃ (header : Ipv4Header) (body : Bytes), packet = header.bytes ++ body ∧
      header.IsSized body := by
  obtain ⟨_, hmin, h⟩ := bind_eq_ok_iff.mp h
  obtain ⟨byte, hbyte, h⟩ := bind_eq_ok_iff.mp h
  obtain ⟨_, -, h⟩ := bind_eq_ok_iff.mp h
  obtain ⟨_, hihl, h⟩ := bind_eq_ok_iff.mp h
  rw [ensure_eq_ok_iff, ipv4MinHeaderLen] at hmin hihl
  obtain ⟨header, body, rfl, hlen⟩ : ∃ header : Ipv4Header, ∃ body,
      packet = header.bytes ++ body ∧ header.bytes.length = (byte &&& 0x0f).toNat * 4 :=
    exists_ipv4Header (by omega) (by omega)
  rw [Ipv4Header.byteAt_zero] at hbyte
  obtain rfl := Outcome.ok.inj hbyte
  rw [Ipv4Header.u16At_two, bind_ok] at h
  obtain ⟨_, htotal, -⟩ := bind_eq_ok_iff.mp h
  rw [ensure_eq_ok_iff, List.length_append] at htotal
  exact ⟨header, body, rfl, Option.some.inj hfirst ▸ hversion, hlen.symm, by omega⟩

theorem exists_isDatagram_of_validateIpv6 {packet : Bytes} {first : UInt8}
    (hfirst : packet.head? = some first) (hversion : first >>> 4 = 6)
    (h : validateIpv6 packet = .ok ()) :
    ∃ (header : Ipv6Header) (body : Bytes), packet = header.bytes ++ body ∧
      header.IsDatagram body := by
  obtain ⟨_, hmin, h⟩ := bind_eq_ok_iff.mp h
  rw [ensure_eq_ok_iff, ipv6HeaderLen] at hmin
  obtain ⟨header, body, rfl⟩ := exists_ipv6Header (not_lt.mp hmin)
  rw [Ipv6Header.u16At_four, bind_ok] at h
  obtain ⟨_, -, h⟩ := bind_eq_ok_iff.mp h
  rw [ensure_eq_ok_iff, ipv6HeaderLen, List.length_append, Ipv6Header.length_bytes] at h
  exact ⟨header, body, rfl, Option.some.inj hfirst ▸ hversion, by omega⟩

theorem ipEcn_ne_panic (packet : Bytes) : ipEcn packet ≠ .panic := by
  unfold ipEcn
  cases hfirst : packet.head? with
  | none => simp
  | some first =>
      dsimp only
      split
      · refine bind_ne_panic (validateIpv4_ne_panic packet) fun headerLen hvalid => ?_
        obtain ⟨header, body, rfl, -⟩ :=
          exists_isSized_of_validateIpv4 hfirst (by assumption) hvalid
        rw [Ipv4Header.byteAt_one]
        simp
      · refine bind_ne_panic (validateIpv6_ne_panic packet) fun _ hvalid => ?_
        obtain ⟨header, body, rfl, -⟩ :=
          exists_isDatagram_of_validateIpv6 hfirst (by assumption) hvalid
        rw [Ipv6Header.byteAt_one]
        simp
      · simp

/-- **Only a packet of the lengths it states has an ECN field.** -/
theorem sizedPacket_of_ipEcn {packet : Bytes} {ecn : EcnCodepoint}
    (h : ipEcn packet = .ok ecn) : SizedPacket packet := by
  unfold ipEcn at h
  cases hfirst : packet.head? with
  | none => simp [hfirst] at h
  | some first =>
      simp only [hfirst] at h
      split at h
      · obtain ⟨headerLen, hvalid, -⟩ := bind_eq_ok_iff.mp h
        obtain ⟨header, body, rfl, hsized⟩ :=
          exists_isSized_of_validateIpv4 hfirst (by assumption) hvalid
        exact .v4 hsized
      · obtain ⟨_, hvalid, -⟩ := bind_eq_ok_iff.mp h
        obtain ⟨header, body, rfl, hdatagram⟩ :=
          exists_isDatagram_of_validateIpv6 hfirst (by assumption) hvalid
        exact .v6 hdatagram
      · cases h

/-- **The same datagram up to its ECN field**: for IPv4 the two low bits of the second
byte and the checksum that covers them, for IPv6 bits four and five of the second byte. -/
inductive EqUpToEcn : Bytes → Bytes → Prop
  | v4 {header : Ipv4Header} {tos : UInt8} {checksum : UInt16} {body : Bytes}
      (hversion : header.versionIhl >>> 4 = 4) (htos : tos &&& 0xfc = header.tos &&& 0xfc) :
      EqUpToEcn (header.bytes ++ body) ({ header with tos, checksum }.bytes ++ body)
  | v6 {header : Ipv6Header} {classFlow : UInt8} {body : Bytes}
      (hversion : header.versionClass >>> 4 = 6)
      (hclass : classFlow &&& 0xcf = header.classFlow &&& 0xcf) :
      EqUpToEcn (header.bytes ++ body) ({ header with classFlow }.bytes ++ body)

theorem ecn_bits_v4 (tos : UInt8) (ecn : EcnCodepoint) :
    ((tos &&& ~~~(3 : UInt8)) ||| ecn.bits) &&& 0xfc = tos &&& 0xfc := by
  revert tos
  cases ecn <;> decide +kernel

theorem ecn_bits_v6 (classFlow : UInt8) (ecn : EcnCodepoint) :
    ((classFlow &&& ~~~(0x30 : UInt8)) ||| (ecn.bits <<< 4)) &&& 0xcf = classFlow &&& 0xcf := by
  revert classFlow
  cases ecn <;> decide +kernel

namespace MulticastDatagram

variable {packet : Bytes} {source group : IpAddr}

theorem eqUpToEcn_refl (h : MulticastDatagram packet source group) : EqUpToEcn packet packet := by
  cases h with
  | v4 hdatagram => exact .v4 hdatagram.version rfl
  | v6 hdatagram => exact .v6 hdatagram.version rfl

theorem exists_ipEcn (h : MulticastDatagram packet source group) :
    ∃ ecn, ipEcn packet = .ok ecn := by
  cases h with
  | v4 hdatagram => exact ⟨_, hdatagram.toIsSized.ipEcn⟩
  | v6 hdatagram => exact ⟨_, hdatagram.ipEcn⟩

theorem exists_setIpEcn (h : MulticastDatagram packet source group) (ecn : EcnCodepoint) :
    ∃ packet', setIpEcn packet ecn = .ok packet' ∧ MulticastDatagram packet' source group ∧
      EqUpToEcn packet packet' := by
  cases h with
  | v4 hdatagram haddresses =>
      exact ⟨_, hdatagram.toIsSized.setIpEcn ecn, .v4 (hdatagram.toIsSized.withEcn ecn) haddresses,
        .v4 hdatagram.version (ecn_bits_v4 _ ecn)⟩
  | v6 hdatagram haddresses =>
      exact ⟨_, hdatagram.setIpEcn ecn, .v6 (hdatagram.withEcn ecn) haddresses,
        .v6 hdatagram.version (ecn_bits_v6 _ ecn)⟩

/-- **Decapsulation cannot fail on a datagram the parser accepted**, and changes nothing
but its ECN field. -/
theorem exists_decapsulateEcn (h : MulticastDatagram packet source group)
    (outer : EcnCodepoint) :
    ∃ packet' ecn, decapsulateEcn packet outer = .ok (packet', ecn) ∧
      MulticastDatagram packet' source group ∧ EqUpToEcn packet packet' := by
  obtain ⟨inner, hinner⟩ := h.exists_ipEcn
  rw [decapsulateEcn, hinner, bind_ok]
  rcases decapsulationResult inner outer with ⟨output, currentlyUnused⟩
  cases output with
  | none => exact ⟨packet, _, rfl, h, h.eqUpToEcn_refl⟩
  | some output =>
      by_cases hsame : output = inner
      · exact ⟨packet, _, if_neg (not_not.mpr hsame), h, h.eqUpToEcn_refl⟩
      · obtain ⟨packet', hset, hdatagram, heq⟩ := h.exists_setIpEcn output
        refine ⟨packet', ⟨inner, outer, some output, currentlyUnused⟩, ?_, hdatagram, heq⟩
        dsimp only
        rw [if_pos hsame, hset]
        rfl

end MulticastDatagram

/-- A tunnel that copies the inner ECN field out, or none at all, changes nothing. -/
theorem decapsulateEcn_of_outer {packet : Bytes} {inner outer : EcnCodepoint}
    (hinner : ipEcn packet = .ok inner) (houter : outer = inner ∨ outer = .notEct) :
    decapsulateEcn packet outer = .ok (packet, ⟨inner, outer, some inner, false⟩) := by
  have hresult : decapsulationResult inner outer = (some inner, false) := by
    rcases houter with rfl | rfl
    · cases outer <;> rfl
    · cases inner <;> rfl
  rw [decapsulateEcn, hinner, bind_ok, hresult]
  exact if_neg (not_not.mpr rfl)

end Amt

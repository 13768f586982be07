import Amt.Query

/-!
# General Queries that are built are accepted

A relay builds the General Query of a Membership Query from its configuration; the gateway
validates it with rules of its own.  The builders never fail, their packets are written out
here (`igmpv3QueryPacket`, `mldv2QueryPacket`), and the validator accepts each of them and
reads the configured interval back, as long as the configured source address is not a group
or the broadcast address (`validatedGeneralQuery_build`).

The reserved bits, the Router Alert option, the two checksums of IGMP and the pseudo-header
checksum of MLD are all checked on this way.  Bytes behind a query never change the answer
(`validatedGeneralQuery_leOk_append`).
-/

namespace Amt

open Outcome (ensure bind_ok ensure_of pure_eq_ok map_ok)

variable {ε : Type*}

theorem slice_whole {bytes : Bytes} {len : ℕ} (hlen : bytes.length = len) :
    (slice bytes 0 len : Outcome ε Bytes) = .ok bytes := by
  rw [slice_of (Nat.zero_le _) hlen.ge, List.drop_zero, ← hlen, List.take_length]

/-! ## IGMPv3 -/

/-- The IPv4 header of a query, with its checksum field. -/
def igmpv3QueryHeader (source : Ipv4Addr) (field : Bytes) : Bytes :=
  [0x46, 0xc0, 0, 36, 0, 0, 0, 0, 1, 2] ++
    (field ++ (source.octets.toList ++ [224, 0, 0, 1, 0x94, 4, 0, 0]))

/-- The message, with a given checksum field. -/
def igmpv3QueryMessage (config : GeneralQueryConfig) (field : Bytes) : Bytes :=
  [0x11, config.igmpMaxResponseCode] ++
    (field ++ [0, 0, 0, 0, config.robustnessVariable &&& 0x07, config.queryIntervalCode, 0, 0])

/-- The packet that is built. -/
def igmpv3QueryPacket (config : GeneralQueryConfig) : Bytes :=
  igmpv3QueryHeader config.igmpSource
      (u16ToBe (checksum (igmpv3QueryHeader config.igmpSource [0, 0]))) ++
    igmpv3QueryMessage config (u16ToBe (checksum (igmpv3QueryMessage config [0, 0])))

theorem buildIgmpv3GeneralQuery_eq (config : GeneralQueryConfig) :
    (buildIgmpv3GeneralQuery config : Outcome ε Bytes) = .ok (igmpv3QueryPacket config) := by
  obtain ⟨w, x, y, z, hsource⟩ := config.igmpSource.exists_eq_new
  have hoctets : config.igmpSource.octets.toList = [w, x, y, z] := by
    rw [hsource]
    rfl
  have hgroup : allSystemsV4.octets.toList = [224, 0, 0, 1] := rfl
  have hlen : u16ToBe (UInt16.ofNat 36) = [0, 36] := rfl
  -- a rewriting run: as a conversion the kernel would run every prefix of the program again
  simp -implicitDefEqProofs only [buildIgmpv3GeneralQuery, queryIpv4HeaderLen, igmpv3QueryLen,
    Nat.reduceAdd, List.replicate_succ, List.replicate_zero, hoctets, hgroup, hlen,
    setAt_cons_zero, setAt_cons_succ, copyInto_zero_nil, copyInto_cons_zero, copyInto_cons_succ,
    copyInto_zero_two, slice_zero_zero, slice_cons_zero, sliceFrom_zero, sliceFrom_cons_succ,
    map_ok, bind_ok, List.cons_append, List.nil_append, List.append_assoc,
    igmpv3QueryPacket, igmpv3QueryHeader, igmpv3QueryMessage]

theorem onesComplementSum_igmpv3QueryHeader (source : Ipv4Addr) :
    onesComplementSum (igmpv3QueryHeader source
      (u16ToBe (checksum (igmpv3QueryHeader source [0, 0])))) = 0xffff :=
  onesComplementSum_field _ ⟨5, rfl⟩

theorem onesComplementSum_igmpv3QueryMessage (config : GeneralQueryConfig) :
    onesComplementSum (igmpv3QueryMessage config
      (u16ToBe (checksum (igmpv3QueryMessage config [0, 0])))) = 0xffff :=
  onesComplementSum_field [0x11, config.igmpMaxResponseCode] ⟨1, rfl⟩

/-- What the validator reads of a packet, whatever stands in its checksum fields. -/
structure Igmpv3QueryFields (packet : Bytes) (config : GeneralQueryConfig)
    (header message : Bytes) : Prop where
  head : packet.head? = some 0x46
  length : packet.length = 36
  first : (byteAt packet 0 : Outcome QueryValidationError UInt8) = .ok 0x46
  total : (u16At packet 2 : Outcome QueryValidationError UInt16) = .ok 36
  hop : (byteAt packet 8 : Outcome QueryValidationError UInt8) = .ok 1
  protocol : (byteAt packet 9 : Outcome QueryValidationError UInt8) = .ok 2
  fragment : (u16At packet 6 : Outcome QueryValidationError UInt16) = .ok 0
  destination : (slice packet 16 20 : Outcome QueryValidationError Bytes)
    = .ok allSystemsV4.octets.toList
  options : (slice packet 20 24 : Outcome QueryValidationError Bytes) = .ok [0x94, 4, 0, 0]
  source : (readIpv4 packet 12 : Outcome QueryValidationError Ipv4Addr) = .ok config.igmpSource
  headerPart : (slice packet 0 24 : Outcome QueryValidationError Bytes) = .ok header
  messagePart : (slice packet 24 36 : Outcome QueryValidationError Bytes) = .ok message
  kind : (byteAt message 0 : Outcome QueryValidationError UInt8) = .ok 0x11
  group : (slice message 4 8 : Outcome QueryValidationError Bytes) = .ok [0, 0, 0, 0]
  sources : (u16At message 10 : Outcome QueryValidationError UInt16) = .ok 0
  interval : (byteAt message 9 : Outcome QueryValidationError UInt8)
    = .ok config.queryIntervalCode

theorem igmpv3QueryFields_append (config : GeneralQueryConfig) (headerSum messageSum : UInt16) :
    Igmpv3QueryFields
      (igmpv3QueryHeader config.igmpSource (u16ToBe headerSum) ++
        igmpv3QueryMessage config (u16ToBe messageSum))
      config (igmpv3QueryHeader config.igmpSource (u16ToBe headerSum))
      (igmpv3QueryMessage config (u16ToBe messageSum)) := by
  obtain ⟨igmpSource, mldSource, igmpCode, mldCode, robustness, interval⟩ := config
  obtain ⟨w, x, y, z, rfl⟩ := igmpSource.exists_eq_new
  constructor <;> rfl

/-- A built query is accepted. -/
theorem validateIgmpv3GeneralQuery_packet {config : GeneralQueryConfig}
    (hsource : ¬ (config.igmpSource.isMulticast || config.igmpSource.isBroadcast) = true) :
    validateIgmpv3GeneralQuery (igmpv3QueryPacket config) = .ok (config.queryIntervalCode, 36) := by
  have hheader := onesComplementSum_igmpv3QueryHeader config.igmpSource
  have hmessage := onesComplementSum_igmpv3QueryMessage config
  have hfields := igmpv3QueryFields_append config
    (checksum (igmpv3QueryHeader config.igmpSource [0, 0]))
    (checksum (igmpv3QueryMessage config [0, 0]))
  rw [igmpv3QueryPacket]
  -- from here on the two parts and the packet are known by their fields
  generalize igmpv3QueryHeader config.igmpSource
    (u16ToBe (checksum (igmpv3QueryHeader config.igmpSource [0, 0]))) = header
    at hheader hfields ⊢
  generalize igmpv3QueryMessage config
    (u16ToBe (checksum (igmpv3QueryMessage config [0, 0]))) = message at hmessage hfields ⊢
  generalize header ++ message = packet at hfields ⊢
  have hlength := hfields.length
  have hihl : ((0x46 : UInt8) &&& 0x0f).toNat * 4 = 24 := rfl
  have htotal : (36 : UInt16).toNat = 36 := rfl
  have hlong : ¬ packet.length < queryIpv4HeaderLen + igmpv3QueryLen := by
    rw [hlength]
    decide
  have hheaderFits : ¬ (24 < queryIpv4HeaderLen ∨ 24 > packet.length) := by
    rw [hlength]
    decide
  have htotalFits : ¬ (36 > packet.length ∨ 36 ≠ 24 + igmpv3QueryLen) := by
    rw [hlength]
    decide
  rw [validateIgmpv3GeneralQuery, hfields.head]
  dsimp only
  rw [pure_eq_ok, bind_ok,
    ensure_of (by decide), bind_ok, ensure_of hlong,
    bind_ok, hfields.first, bind_ok, hihl, ensure_of hheaderFits,
    bind_ok, hfields.total, bind_ok, htotal, ensure_of htotalFits,
    bind_ok, hfields.hop, bind_ok, ensure_of rfl, bind_ok,
    hfields.protocol, bind_ok, ensure_of rfl, bind_ok,
    hfields.fragment, bind_ok, ensure_of (by decide), bind_ok,
    hfields.destination, bind_ok, ensure_of rfl, bind_ok,
    hfields.options, bind_ok, hasIpv4RouterAlert_builder, bind_ok,
    ensure_of rfl, bind_ok, hfields.source, bind_ok,
    ensure_of hsource, bind_ok, hfields.headerPart, bind_ok,
    ensure_of hheader, bind_ok, hfields.messagePart, bind_ok,
    hfields.kind, bind_ok, ensure_of rfl, bind_ok, hfields.group,
    bind_ok, ensure_of rfl, bind_ok, hfields.sources, bind_ok,
    ensure_of rfl, bind_ok, ensure_of hmessage, bind_ok,
    hfields.interval, bind_ok, pure_eq_ok]
  rfl

/-! ## MLDv2 -/

/-- The IPv6 header of a query and the hop-by-hop Router Alert. -/
def mldv2QueryHeader (source : Ipv6Addr) : Bytes :=
  [0x60, 0, 0, 0, 0, 36, 0, 1] ++
    (source.octets.toList ++ (allNodesV6.octets.toList ++ [58, 0, 5, 2, 0, 0, 1, 0]))

/-- The message, with a given checksum field. -/
def mldv2QueryMessage (config : GeneralQueryConfig) (field : Bytes) : Bytes :=
  [130, 0] ++ (field ++ (u16ToBe config.mldMaxResponseCode ++
    ([0, 0, 0, 0, 0, 0, 0, 0, 0, 0, 0, 0, 0, 0, 0, 0, 0, 0] ++
      [config.robustnessVariable &&& 0x07, config.queryIntervalCode, 0, 0])))

/-- The checksum of the message, over its pseudo-header. -/
def mldv2QueryChecksum (config : GeneralQueryConfig) : UInt16 :=
  icmpv6Checksum config.mldSource.octets allNodesV6.octets 58 (mldv2QueryMessage config [0, 0])

/-- The packet that is built. -/
def mldv2QueryPacket (config : GeneralQueryConfig) : Bytes :=
  mldv2QueryHeader config.mldSource ++
    mldv2QueryMessage config (u16ToBe (mldv2QueryChecksum config))

theorem Ipv6Addr.exists_octets (address : Ipv6Addr) :
    ∃ a b c d e f g h i j k l m n o p, address =
      ⟨⟨[a, b, c, d, e, f, g, h, i, j, k, l, m, n, o, p], rfl⟩⟩ := by
  obtain ⟨⟨bytes, hlength⟩⟩ := address
  match bytes, hlength with
  | [a, b, c, d, e, f, g, h, i, j, k, l, m, n, o, p], _ =>
      exact ⟨a, b, c, d, e, f, g, h, i, j, k, l, m, n, o, p, rfl⟩

theorem buildMldv2GeneralQuery_eq (config : GeneralQueryConfig) :
    (buildMldv2GeneralQuery config : Outcome ε Bytes) = .ok (mldv2QueryPacket config) := by
  obtain ⟨a, b, c, d, e, f, g, h, i, j, k, l, m, n, o, p, hsource⟩ :=
    config.mldSource.exists_octets
  have hoctets : config.mldSource.octets.toList =
      [a, b, c, d, e, f, g, h, i, j, k, l, m, n, o, p] := by
    rw [hsource]
  obtain ⟨hi, lo, hcode⟩ : ∃ hi lo, u16ToBe config.mldMaxResponseCode = [hi, lo] := ⟨_, _, rfl⟩
  have hgroup : allNodesV6.octets.toList = [255, 2, 0, 0, 0, 0, 0, 0, 0, 0, 0, 0, 0, 0, 0, 1] := rfl
  have hlen : u16ToBe (UInt16.ofNat 36) = [0, 36] := rfl
  simp -implicitDefEqProofs only [buildMldv2GeneralQuery, ipv6HeaderLen, ipv6HopByHopLen,
    mldv2QueryLen, Nat.reduceAdd, List.replicate_succ, List.replicate_zero, hoctets, hgroup, hlen,
    hcode, setAt_cons_zero, setAt_cons_succ, copyInto_zero_nil, copyInto_cons_zero,
    copyInto_cons_succ, copyInto_zero_two, slice_zero_zero, slice_cons_zero, sliceFrom_zero,
    sliceFrom_cons_succ, map_ok, bind_ok, List.cons_append, List.nil_append,
    mldv2QueryPacket, mldv2QueryHeader, mldv2QueryMessage, mldv2QueryChecksum]

theorem icmpv6Checksum_mldv2QueryMessage (config : GeneralQueryConfig) :
    icmpv6Checksum config.mldSource.octets allNodesV6.octets 58
      (mldv2QueryMessage config (u16ToBe (mldv2QueryChecksum config))) = 0 := by
  exact icmpv6Checksum_field config.mldSource.octets allNodesV6.octets 58 _
    (show Even ([130, 0] : Bytes).length by decide)

/-- What the validator reads of a packet, whatever stands in its checksum field. -/
structure Mldv2QueryFields (packet : Bytes) (config : GeneralQueryConfig) (message : Bytes) :
    Prop where
  head : packet.head? = some 0x60
  length : packet.length = 76
  payload : (u16At packet 4 : Outcome QueryValidationError UInt16) = .ok 36
  next : (byteAt packet 6 : Outcome QueryValidationError UInt8) = .ok 0
  hop : (byteAt packet 7 : Outcome QueryValidationError UInt8) = .ok 1
  destination : (slice packet 24 40 : Outcome QueryValidationError Bytes)
    = .ok allNodesV6.octets.toList
  extensionNext : (byteAt packet 40 : Outcome QueryValidationError UInt8) = .ok 58
  options : (slice packet 42 48 : Outcome QueryValidationError Bytes) = .ok [5, 2, 0, 0, 1, 0]
  source : (readIpv6 packet 8 : Outcome QueryValidationError Ipv6Addr) = .ok config.mldSource
  messagePart : (slice packet 48 76 : Outcome QueryValidationError Bytes) = .ok message
  kind : (byteAt message 0 : Outcome QueryValidationError UInt8) = .ok 130
  code : (byteAt message 1 : Outcome QueryValidationError UInt8) = .ok 0
  group : (slice message 8 24 : Outcome QueryValidationError Bytes) = .ok (List.replicate 16 0)
  sources : (u16At message 26 : Outcome QueryValidationError UInt16) = .ok 0
  interval : (byteAt message 25 : Outcome QueryValidationError UInt8)
    = .ok config.queryIntervalCode

theorem mldv2QueryFields_append (config : GeneralQueryConfig) (sum : UInt16) :
    Mldv2QueryFields (mldv2QueryHeader config.mldSource ++ mldv2QueryMessage config (u16ToBe sum))
      config (mldv2QueryMessage config (u16ToBe sum)) := by
  obtain ⟨igmpSource, mldSource, igmpCode, mldCode, robustness, interval⟩ := config
  obtain ⟨a, b, c, d, e, f, g, h, i, j, k, l, m, n, o, p, rfl⟩ := mldSource.exists_octets
  constructor <;> rfl

/-- A packet is accepted for these fields alone: the validator reads nothing else of it. -/
theorem Mldv2QueryFields.validate {packet message : Bytes} {config : GeneralQueryConfig}
    (hfields : Mldv2QueryFields packet config message)
    (hsource : ¬ config.mldSource.isMulticast = true)
    (hsum : icmpv6Checksum config.mldSource.octets allNodesV6.octets 58 message = 0) :
    validateMldv2GeneralQuery packet = .ok (config.queryIntervalCode, 76) := by
  have hlength := hfields.length
  have hpayload : (36 : UInt16).toNat = 36 := rfl
  have htotal : ipv6HeaderLen + 36 = 76 := rfl
  have hoffset : ipv6HeaderLen + ipv6HopByHopLen = 48 := rfl
  have hlong : ¬ packet.length < ipv6HeaderLen + ipv6HopByHopLen + mldv2QueryLen := by
    rw [hlength]
    decide
  have hpayloadFits : ¬ (76 > packet.length ∨ 36 ≠ ipv6HopByHopLen + mldv2QueryLen) := by
    rw [hlength]
    decide
  rw [validateMldv2GeneralQuery, hfields.head]
  dsimp only
  rw [pure_eq_ok, bind_ok,
    ensure_of (by decide), bind_ok, ensure_of hlong, bind_ok,
    hfields.payload, bind_ok, hpayload, htotal, ensure_of hpayloadFits,
    bind_ok, hfields.next, bind_ok, ensure_of rfl, bind_ok,
    hfields.hop, bind_ok, ensure_of rfl, bind_ok,
    hfields.destination, bind_ok, ensure_of rfl, bind_ok,
    hfields.extensionNext, bind_ok, ensure_of rfl, bind_ok,
    hfields.options, bind_ok, hasIpv6RouterAlert_builder, bind_ok,
    ensure_of rfl, bind_ok, hfields.source, bind_ok,
    ensure_of hsource, bind_ok, hoffset, hfields.messagePart, bind_ok,
    hfields.kind, bind_ok, ensure_of rfl, bind_ok, hfields.code,
    bind_ok, ensure_of rfl, bind_ok, hfields.group, bind_ok,
    ensure_of rfl, bind_ok, hfields.sources, bind_ok,
    ensure_of rfl, bind_ok, ensure_of hsum, bind_ok,
    hfields.interval, bind_ok, pure_eq_ok]
  rfl

theorem validateMldv2GeneralQuery_packet {config : GeneralQueryConfig}
    (hsource : ¬ config.mldSource.isMulticast = true) :
    validateMldv2GeneralQuery (mldv2QueryPacket config) = .ok (config.queryIntervalCode, 76) :=
  (mldv2QueryFields_append config (mldv2QueryChecksum config)).validate hsource
    (icmpv6Checksum_mldv2QueryMessage config)

/-! ## Both -/

/-- The source address of a protocol's query is neither a group nor the broadcast address. -/
def GeneralQueryConfig.SourceUsable (config : GeneralQueryConfig) : MembershipProtocol → Prop
  | .igmpv3 => config.igmpSource.isMulticast = false ∧ config.igmpSource.isBroadcast = false
  | .mldv2 => config.mldSource.isMulticast = false

/-- **A General Query that is built is accepted**, whole, with the interval it was built
with. -/
theorem validatedGeneralQuery_build {config : GeneralQueryConfig} {protocol : MembershipProtocol}
    (hsource : config.SourceUsable protocol) :
    ∃ query, (buildGeneralQuery protocol config : Outcome ε Bytes) = .ok query ∧
      validatedGeneralQuery protocol query
        = .ok (queryInterval config.queryIntervalCode, query) := by
  cases protocol with
  | igmpv3 =>
      refine ⟨igmpv3QueryPacket config, buildIgmpv3GeneralQuery_eq config, ?_⟩
      have hvalid : validateIgmpv3GeneralQuery (igmpv3QueryPacket config)
          = .ok (config.queryIntervalCode, 36) :=
        validateIgmpv3GeneralQuery_packet (by simp [hsource.1, hsource.2])
      have hlength : (igmpv3QueryPacket config).length = 36 :=
        (igmpv3QueryFields_append config _ _).length
      rw [validatedGeneralQuery]
      dsimp only
      rw [hvalid, bind_ok]
      dsimp only
      rw [slice_whole hlength]
      rfl
  | mldv2 =>
      refine ⟨mldv2QueryPacket config, buildMldv2GeneralQuery_eq config, ?_⟩
      have hmulticast : config.mldSource.isMulticast = false := hsource
      have hvalid : validateMldv2GeneralQuery (mldv2QueryPacket config)
          = .ok (config.queryIntervalCode, 76) :=
        validateMldv2GeneralQuery_packet (by simp [hmulticast])
      have hlength : (mldv2QueryPacket config).length = 76 :=
        (mldv2QueryFields_append config _).length
      rw [validatedGeneralQuery]
      dsimp only
      rw [hvalid, bind_ok]
      dsimp only
      rw [slice_whole hlength]
      rfl

/-! ## Bytes after the query

The validators read the length of the query from its header and nothing behind it, so that
what they accept they accept with anything behind it. -/

/-- Bytes behind an accepted query do not matter. -/
theorem validateIgmpv3GeneralQuery_leOk_append (packet z : Bytes) :
    (validateIgmpv3GeneralQuery packet).LeOk (validateIgmpv3GeneralQuery (packet ++ z)) := by
  have hlonger : packet.length ≤ (packet ++ z).length := by simp
  unfold validateIgmpv3GeneralQuery
  cases hfirst : packet.head? with
  | none => intro result hresult; cases hresult
  | some first =>
      rw [show (packet ++ z).head? = some first by rw [List.head?_append, hfirst]; rfl]
      refine .bind_right fun _ => .bind_right fun _ => ?_
      refine (Outcome.LeOk.ensure (by omega)).bind fun _ => ?_
      refine (byteAt_leOk_append _ z _).bind fun b => .bind_right fun _ => ?_
      refine (Outcome.LeOk.ensure (by omega)).bind fun _ => ?_
      refine (u16At_leOk_append _ z _).bind fun len => ?_
      refine (Outcome.LeOk.ensure (by omega)).bind fun _ => ?_
      -- from here on only the reads differ
      refine (byteAt_leOk_append _ z _).bind fun _ => .bind_right fun _ => ?_
      refine (byteAt_leOk_append _ z _).bind fun _ => .bind_right fun _ => ?_
      refine (u16At_leOk_append _ z _).bind fun _ => .bind_right fun _ => ?_
      refine (slice_leOk_append _ z _ _).bind fun _ => .bind_right fun _ => ?_
      refine (slice_leOk_append _ z _ _).bind fun _ => .bind_right fun _ => .bind_right fun _ => ?_
      refine (readIpv4_leOk_append _ z _).bind fun _ => .bind_right fun _ => ?_
      refine (slice_leOk_append _ z _ _).bind fun _ => .bind_right fun _ => .bind_right fun _ => ?_
      exact (slice_leOk_append _ z _ _).bind fun _ => .refl _

theorem validateMldv2GeneralQuery_leOk_append (packet z : Bytes) :
    (validateMldv2GeneralQuery packet).LeOk (validateMldv2GeneralQuery (packet ++ z)) := by
  have hlonger : packet.length ≤ (packet ++ z).length := by simp
  unfold validateMldv2GeneralQuery
  cases hfirst : packet.head? with
  | none => intro result hresult; cases hresult
  | some first =>
      rw [show (packet ++ z).head? = some first by rw [List.head?_append, hfirst]; rfl]
      refine .bind_right fun _ => .bind_right fun _ => ?_
      refine (Outcome.LeOk.ensure (by omega)).bind fun _ => ?_
      refine (u16At_leOk_append _ z _).bind fun len => .bind_right fun _ => ?_
      refine (Outcome.LeOk.ensure (by omega)).bind fun _ => ?_
      refine (byteAt_leOk_append _ z _).bind fun _ => .bind_right fun _ => ?_
      refine (byteAt_leOk_append _ z _).bind fun _ => .bind_right fun _ => ?_
      refine (slice_leOk_append _ z _ _).bind fun _ => .bind_right fun _ => ?_
      refine (byteAt_leOk_append _ z _).bind fun _ => .bind_right fun _ => ?_
      refine (slice_leOk_append _ z _ _).bind fun _ => .bind_right fun _ => .bind_right fun _ => ?_
      refine (readIpv6_leOk_append _ z _).bind fun _ => .bind_right fun _ => ?_
      exact (slice_leOk_append _ z _ _).bind fun _ => .refl _

/-- **Whatever follows a General Query is cut off.** -/
theorem validatedGeneralQuery_leOk_append (protocol : MembershipProtocol) (packet z : Bytes) :
    (validatedGeneralQuery protocol packet).LeOk
      (validatedGeneralQuery protocol (packet ++ z)) := by
  unfold validatedGeneralQuery
  cases protocol with
  | igmpv3 =>
      exact (validateIgmpv3GeneralQuery_leOk_append packet z).bind fun _ =>
        .bind_right fun _ => (slice_leOk_append packet z _ _).bind fun _ => .refl _
  | mldv2 =>
      exact (validateMldv2GeneralQuery_leOk_append packet z).bind fun _ =>
        .bind_right fun _ => (slice_leOk_append packet z _ _).bind fun _ => .refl _

/-- **Builder and validator agree**: behind any usable configuration there is one query, and
whatever padding follows it, the validator returns that query and the interval it was built
with. -/
theorem validatedGeneralQuery_buildGeneralQuery_append (config : GeneralQueryConfig)
    (protocol : MembershipProtocol) (hsource : config.SourceUsable protocol) :
    ∃ query, (buildGeneralQuery protocol config : Outcome ε Bytes) = .ok query ∧
      ∀ z : Bytes, validatedGeneralQuery protocol (query ++ z)
        = .ok (queryInterval config.queryIntervalCode, query) := by
  obtain ⟨query, hbuild, hvalid⟩ := validatedGeneralQuery_build (ε := ε) hsource
  exact ⟨query, hbuild, fun z => validatedGeneralQuery_leOk_append protocol query z _ hvalid⟩

theorem validatedGeneralQuery_forAmt_append :
    GeneralQueryConfig.forAmt.SourceUsable .mldv2 ∧
    ∃ query, (buildGeneralQuery .mldv2 .forAmt : Outcome Empty Bytes) = .ok query ∧
      ∀ z : Bytes, validatedGeneralQuery .mldv2 (query ++ z) = .ok (queryInterval 125, query) :=
  ⟨rfl, validatedGeneralQuery_buildGeneralQuery_append .forAmt .mldv2 rfl⟩

end Amt

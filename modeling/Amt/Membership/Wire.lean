import Amt.Membership

/-!
# The records of a report, byte by byte

`parse_igmpv3_records` and `parse_mldv2_records` walk a message with a cursor, check each
length before they read, and skip auxiliary data of a length the sender chooses.  This
file says which byte strings they accept, without a cursor: a `WireRecord` is a record
together with everything that stands in its bytes and not in the value, and a message is
a header of eight bytes followed by the bytes of its wire records, nothing else
(`RecordsMessage`).

The equivalence has two halves, each an induction along the record loop.

* **Every such message is accepted.**  `parseRecord_append` is one iteration on the bytes of
  one wire record, whatever stands before and behind it: each length check passes because
  the layout is exactly as long as the counts in it say.
* **Nothing else is accepted.**  `exists_wire_of_parseRecord` recovers the wire record from
  one successful iteration.  The bytes that are skipped are part of what is recovered, so
  the remainder of the message is the next record and not merely something behind it.

The two address families enter through two laws of a `RecordFormat`: an address is read
back from its octets (`Lawful`), and what is read has exactly those octets (`Canonical`).
-/

namespace Amt

open Outcome (ensure bind_ok bind_eq_ok_iff ensure_of pure_eq_ok ensure_eq_ok_iff)

/-! ## The layout -/

/-- The octets of an address. -/
def addressBytes : IpAddr → Bytes
  | .v4 address => address.octets.toList
  | .v6 address => address.octets.toList

/-- The record type on the wire; the legacy kinds have none. -/
def kindByte : MembershipRecordKind → UInt8
  | .modeIsInclude => 1
  | .modeIsExclude => 2
  | .changeToInclude => 3
  | .changeToExclude => 4
  | .allowNewSources => 5
  | .blockOldSources => 6
  | .legacyReport | .legacyLeave => 0

def sourcesBytes (sources : List IpAddr) : Bytes := sources.flatMap addressBytes

theorem sourcesBytes_cons (source : IpAddr) (sources : List IpAddr) :
    sourcesBytes (source :: sources) = addressBytes source ++ sourcesBytes sources :=
  List.flatMap_cons

/-- **A record as it stands on the wire.**  The source count and the auxiliary length are
those of the lists they announce; the auxiliary data is in units of four bytes. -/
structure WireRecord where
  record : MembershipRecord
  auxLen : UInt8
  sourceCount : UInt16
  ignored : Bytes
  toNat_sourceCount : sourceCount.toNat = record.sources.length
  length_ignored : ignored.length = 4 * auxLen.toNat

/-- Type, auxiliary length, source count, group, sources, auxiliary data. -/
def WireRecord.bytes (wire : WireRecord) : Bytes :=
  [kindByte wire.record.kind, wire.auxLen] ++ (u16ToBe wire.sourceCount ++
    (addressBytes wire.record.group ++ (sourcesBytes wire.record.sources ++ wire.ignored)))

def wiresBytes (wires : List WireRecord) : Bytes := wires.flatMap WireRecord.bytes

theorem wiresBytes_cons (wire : WireRecord) (wires : List WireRecord) :
    wiresBytes (wire :: wires) = wire.bytes ++ wiresBytes wires :=
  List.flatMap_cons

/-- The limits a parser imposes, for a list of records. -/
structure MembershipParseLimits.Admits (limits : MembershipParseLimits)
    (records : List MembershipRecord) : Prop where
  recordCount : records.length ≤ limits.maxRecords
  sourceCount : ∀ record ∈ records, record.sources.length ≤ limits.maxSourcesPerRecord

/-- **The messages that carry a list of records.**  The last two of the eight header bytes
are the record count; behind the header stand the records, in order, and nothing else. -/
structure RecordsMessage (protocol : MembershipProtocol) (limits : MembershipParseLimits)
    (records : List MembershipRecord) (message : Bytes) : Prop where
  layout : ∃ (header : Bytes) (count : UInt16) (wires : List WireRecord),
    header.length = 6 ∧ count.toNat = records.length ∧
      wires.map WireRecord.record = records ∧
      message = header ++ (u16ToBe count ++ wiresBytes wires)
  type : ∀ record ∈ records, 1 ≤ kindByte record.kind ∧ kindByte record.kind ≤ 6
  family : ∀ record ∈ records, protocolFamily protocol record.group = true ∧
    ∀ source ∈ record.sources, protocolFamily protocol source = true
  multicast : ∀ record ∈ records, record.group.isMulticast = true
  unicast : ∀ record ∈ records, ∀ source ∈ record.sources, isValidSource source = true
  within : limits.Admits records

/-! ## Formats and the records they can carry -/

/-- The record format of a protocol. -/
def MembershipProtocol.format : MembershipProtocol → RecordFormat
  | .igmpv3 => igmpv3Format
  | .mldv2 => mldv2Format

/-- Addresses have the format's length and are read back from their octets. -/
structure RecordFormat.Lawful (format : RecordFormat) : Prop where
  length_octets : ∀ {a : IpAddr} {bytes : Bytes}, format.octets a = .ok bytes →
    bytes.length = format.addressLen
  read_octets : ∀ {a : IpAddr} {bytes : Bytes} (front back : Bytes), format.octets a = .ok bytes →
    format.read (front ++ (bytes ++ back)) front.length = .ok a

/-- An address that is read is of the format's family, and its octets stand there. -/
structure RecordFormat.Canonical (format : RecordFormat) : Prop where
  octets_of_read : ∀ {message : Bytes} {i : ℕ} {a : IpAddr}, format.read message i = .ok a →
    format.octets a = .ok (addressBytes a)
  drop_of_read : ∀ {message : Bytes} {i : ℕ} {a : IpAddr}, format.read message i = .ok a →
    message.drop i = addressBytes a ++ message.drop (i + format.addressLen)

theorem readIpv4_append {ε : Type*} {front : Bytes} (back : Bytes) (a : Ipv4Addr) {i : ℕ}
    (hi : i = front.length) :
    (readIpv4 (front ++ (a.octets.toList ++ back)) i : Outcome ε Ipv4Addr) = .ok a := by
  subst hi
  obtain ⟨b₀, b₁, b₂, b₃, rfl⟩ := Ipv4Addr.exists_eq_new a
  rw [readIpv4, show front.length = front.length + 0 from rfl]
  simp only [Nat.add_assoc, byteAt_append_right]
  rfl

theorem drop_of_readIpv4 {ε : Type*} {bytes : Bytes} {i : ℕ} {a : Ipv4Addr}
    (h : (readIpv4 bytes i : Outcome ε Ipv4Addr) = .ok a) :
    bytes.drop i = a.octets.toList ++ bytes.drop (i + 4) := by
  obtain ⟨_, -, h⟩ := bind_eq_ok_iff.mp h
  obtain ⟨b₀, h₀, h⟩ := bind_eq_ok_iff.mp h
  obtain ⟨b₁, h₁, h⟩ := bind_eq_ok_iff.mp h
  obtain ⟨b₂, h₂, h⟩ := bind_eq_ok_iff.mp h
  obtain ⟨b₃, h₃, h⟩ := bind_eq_ok_iff.mp h
  obtain rfl := Outcome.ok.inj h
  rw [drop_of_byteAt h₀, drop_of_byteAt h₁, drop_of_byteAt h₂, drop_of_byteAt h₃]
  rfl

theorem drop_of_readIpv6 {ε : Type*} {bytes : Bytes} {i : ℕ} {a : Ipv6Addr}
    (h : (readIpv6 bytes i : Outcome ε Ipv6Addr) = .ok a) :
    bytes.drop i = a.octets.toList ++ bytes.drop (i + 16) := by
  obtain ⟨_, -, h⟩ := bind_eq_ok_iff.mp h
  obtain ⟨segment, hsegment, h⟩ := bind_eq_ok_iff.mp h
  obtain ⟨octets, hoctets, h⟩ := bind_eq_ok_iff.mp h
  obtain rfl := Outcome.ok.inj h
  rw [Octets.toList_of_ofSlice hoctets, slice_eq_ok hsegment,
    take_drop_append_drop bytes (by omega)]

theorem igmpv3Format_lawful : igmpv3Format.Lawful where
  length_octets := by
    rintro (a | a) bytes h
    · cases h
      exact a.octets.length_toList
    · cases h
  read_octets := by
    rintro (a | a) bytes front back h
    · cases h
      change (readIpv4 _ _ >>= fun a => pure (IpAddr.v4 a)) = _
      rw [readIpv4_append back a rfl]
      rfl
    · cases h

theorem mldv2Format_lawful : mldv2Format.Lawful where
  length_octets := by
    rintro (a | a) bytes h
    · cases h
    · cases h
      exact a.octets.length_toList
  read_octets := by
    rintro (a | a) bytes front back h
    · cases h
    · cases h
      change (readIpv6 _ _ >>= fun a => pure (IpAddr.v6 a)) = _
      rw [readIpv6_append back a rfl]
      rfl

theorem igmpv3Format_canonical : igmpv3Format.Canonical where
  octets_of_read := by
    intro message i a h
    obtain ⟨address, -, h⟩ := bind_eq_ok_iff.mp h
    obtain rfl := Outcome.ok.inj h
    rfl
  drop_of_read := by
    intro message i a h
    obtain ⟨address, hread, h⟩ := bind_eq_ok_iff.mp h
    obtain rfl := Outcome.ok.inj h
    exact drop_of_readIpv4 hread

theorem mldv2Format_canonical : mldv2Format.Canonical where
  octets_of_read := by
    intro message i a h
    obtain ⟨address, -, h⟩ := bind_eq_ok_iff.mp h
    obtain rfl := Outcome.ok.inj h
    rfl
  drop_of_read := by
    intro message i a h
    obtain ⟨address, hread, h⟩ := bind_eq_ok_iff.mp h
    obtain rfl := Outcome.ok.inj h
    exact drop_of_readIpv6 hread

/-- What `validate_build_records` leaves of a record: it has a type on the wire, its
addresses are of the format's family, and it passes the parser's own validation. -/
structure Encodable (format : RecordFormat) (record : MembershipRecord) : Prop where
  kind : encodeRecordKind record.kind = .ok (kindByte record.kind)
  group : format.octets record.group = .ok (addressBytes record.group)
  sources : ∀ source ∈ record.sources, format.octets source = .ok (addressBytes source)
  sourceCount : record.sources.length ≤ u16Max
  valid : validateRecord record.group record.sources = .ok ()

/-- The checks of a record, as a property of it. -/
theorem validateRecord_eq_ok_iff {group : IpAddr} {sources : List IpAddr} {u : Unit} :
    validateRecord group sources = .ok u ↔ group.isMulticast = true ∧
      ∀ source ∈ sources, group.sameFamily source = true ∧ isValidSource source = true := by
  have hany : (sources.any fun source => !group.sameFamily source || !isValidSource source) = true
      ↔ ¬ ∀ source ∈ sources, group.sameFamily source = true ∧ isValidSource source = true := by
    simp [or_iff_not_imp_left]
  simp only [validateRecord, bind_eq_ok_iff, ensure_eq_ok_iff, exists_const]
  refine and_congr_right fun _ => ?_
  split
  · next hsources =>
    refine iff_of_false ?_ (hany.mp hsources)
    split <;> simp
  · next hsources =>
    exact iff_of_true rfl (not_not.mp (mt hany.mpr hsources))

theorem recordKind_kindByte {kind : MembershipRecordKind}
    (h : encodeRecordKind kind = .ok (kindByte kind)) : recordKind (kindByte kind) = .ok kind := by
  cases kind with
  | legacyReport => cases h
  | legacyLeave => cases h
  | _ => rfl

theorem kindByte_of_recordKind {byte : UInt8} {kind : MembershipRecordKind}
    (h : recordKind byte = .ok kind) :
    byte = kindByte kind ∧ encodeRecordKind kind = .ok (kindByte kind) := by
  unfold recordKind at h
  split at h
  all_goals first
    | obtain rfl := Outcome.ok.inj h
      exact ⟨rfl, rfl⟩
    | cases h

theorem encodeRecordKind_eq_kindByte_iff {kind : MembershipRecordKind} :
    encodeRecordKind kind = .ok (kindByte kind) ↔ 1 ≤ kindByte kind ∧ kindByte kind ≤ 6 := by
  cases kind <;> simp [encodeRecordKind, kindByte]

theorem octets_eq_addressBytes_iff {protocol : MembershipProtocol} {address : IpAddr} :
    protocol.format.octets address = .ok (addressBytes address)
      ↔ protocolFamily protocol address = true := by
  rcases protocol with _ | _ <;> rcases address with address | address
  all_goals
    simp [MembershipProtocol.format, igmpv3Format, mldv2Format, protocolFamily, addressBytes]

theorem sameFamily_of_protocolFamily {protocol : MembershipProtocol} {group address : IpAddr}
    (hgroup : protocolFamily protocol group = true)
    (haddress : protocolFamily protocol address = true) : group.sameFamily address = true := by
  rcases protocol with _ | _ <;> rcases group with g | g <;> rcases address with a | a
  all_goals first
    | rfl
    | exact absurd hgroup Bool.false_ne_true
    | exact absurd haddress Bool.false_ne_true

/-! ## Lengths -/

section Format

variable {format : RecordFormat}

/-- The length of a record in a format. -/
def RecordFormat.recordLen (format : RecordFormat) (record : MembershipRecord) : ℕ :=
  format.recordHeaderLen + record.sources.length * format.addressLen

theorem RecordFormat.Lawful.length_sourcesBytes (hf : format.Lawful) {sources : List IpAddr}
    (h : ∀ source ∈ sources, format.octets source = .ok (addressBytes source)) :
    (sourcesBytes sources).length = sources.length * format.addressLen := by
  rw [sourcesBytes, List.length_flatMap, List.sum_eq_card_nsmul _ format.addressLen]
  · simp
  · simp only [List.mem_map]
    rintro n ⟨source, hsource, rfl⟩
    exact hf.length_octets (h source hsource)

theorem RecordFormat.Lawful.length_bytes (hf : format.Lawful) {wire : WireRecord}
    (h : Encodable format wire.record) :
    wire.bytes.length = format.recordLen wire.record + 4 * wire.auxLen.toNat := by
  simp only [WireRecord.bytes, List.length_append, List.length_cons, List.length_nil,
    length_u16ToBe, hf.length_octets h.group, hf.length_sourcesBytes h.sources,
    RecordFormat.recordLen, RecordFormat.recordHeaderLen, wire.length_ignored]
  omega

theorem RecordFormat.Lawful.length_le_wiresBytes (hf : format.Lawful) {wires : List WireRecord}
    (h : ∀ wire ∈ wires, Encodable format wire.record) :
    wires.length * format.recordHeaderLen ≤ (wiresBytes wires).length := by
  induction wires with
  | nil => simp
  | cons wire wires ih =>
      rw [List.forall_mem_cons] at h
      have hwire := hf.length_bytes h.1
      have hwires := ih h.2
      rw [RecordFormat.recordLen] at hwire
      rw [wiresBytes_cons, List.length_append, List.length_cons, Nat.add_mul, Nat.one_mul]
      omega

/-! ## What the layout carries is accepted -/

theorem RecordFormat.Lawful.readSources_append (hf : format.Lawful) (back : Bytes)
    {sources : List IpAddr} :
    ∀ front : Bytes, (∀ source ∈ sources, format.octets source = .ok (addressBytes source)) →
      readSources format (front ++ (sourcesBytes sources ++ back)) sources.length front.length
        = .ok sources := by
  induction sources with
  | nil => intro front _; rfl
  | cons source sources ih =>
      intro front h
      rw [List.forall_mem_cons] at h
      have hoffset : front.length + format.addressLen = (front ++ addressBytes source).length := by
        rw [List.length_append, hf.length_octets h.1]
      rw [List.length_cons, readSources, sourcesBytes_cons, List.append_assoc,
        hf.read_octets front _ h.1, bind_ok, hoffset, ← List.append_assoc front, ih _ h.2]
      rfl

/-- **One iteration of the record loop** returns the record that stands at the offset and
moves behind its auxiliary data.  Every length check passes because the bytes are the
layout of that very record. -/
theorem RecordFormat.Lawful.parseRecord_append (hf : format.Lawful) (front back : Bytes)
    {wire : WireRecord} {limits : MembershipParseLimits} (h : Encodable format wire.record)
    (hlimit : wire.record.sources.length ≤ limits.maxSourcesPerRecord) :
    parseRecord format (front ++ (wire.bytes ++ back)) limits front.length
      = .ok (wire.record, front.length + wire.bytes.length) := by
  have hlen := hf.length_bytes h
  have hheader : requireLen format.recordContext (wire.bytes ++ back) format.recordHeaderLen
      = .ok () := by
    rw [requireLen, List.length_append, hlen]
    exact ensure_of (by rw [RecordFormat.recordLen]; omega)
  have hrecord : requireLen format.recordContext (wire.bytes ++ back) wire.bytes.length
      = .ok () := by
    rw [requireLen, List.length_append]
    exact ensure_of (by omega)
  -- the four fields, each read behind the part of the record before it
  have hkind : (byteAt (front ++ (wire.bytes ++ back)) front.length :
      Outcome MembershipParseError UInt8) = .ok (kindByte wire.record.kind) := by
    rw [show front.length = front.length + 0 from rfl, byteAt_append_right]
    rfl
  have haux : (byteAt (front ++ (wire.bytes ++ back)) (front.length + 1) :
      Outcome MembershipParseError UInt8) = .ok wire.auxLen := by
    rw [byteAt_append_right]
    rfl
  have hsourceCount : (u16At (front ++ (wire.bytes ++ back)) (front.length + 2) :
      Outcome MembershipParseError UInt16) = .ok wire.sourceCount := by
    rw [WireRecord.bytes, List.append_assoc, List.append_assoc, ← List.append_assoc front]
    exact u16At_append wire.sourceCount _ (by simp)
  have hgroup : format.read (front ++ (wire.bytes ++ back)) (front.length + 4)
      = .ok wire.record.group := by
    have := hf.read_octets (front ++ [kindByte wire.record.kind, wire.auxLen]
      ++ u16ToBe wire.sourceCount) (sourcesBytes wire.record.sources ++ (wire.ignored ++ back))
      h.group
    simpa [WireRecord.bytes, Nat.add_assoc] using this
  have hsources : readSources format (front ++ (wire.bytes ++ back))
      wire.record.sources.length (front.length + format.recordHeaderLen)
      = .ok wire.record.sources := by
    have := hf.readSources_append (wire.ignored ++ back) (front
      ++ [kindByte wire.record.kind, wire.auxLen] ++ u16ToBe wire.sourceCount
      ++ addressBytes wire.record.group) h.sources
    have hoffset : front.length + format.recordHeaderLen = (front
        ++ [kindByte wire.record.kind, wire.auxLen] ++ u16ToBe wire.sourceCount
        ++ addressBytes wire.record.group).length := by
      simp only [RecordFormat.recordHeaderLen, List.length_append, length_u16ToBe,
        hf.length_octets h.group, List.length_cons, List.length_nil]
      omega
    rw [hoffset]
    simpa [WireRecord.bytes] using this
  rw [parseRecord, sliceFrom_append _ rfl, bind_ok, hheader, hkind, haux, hsourceCount,
    hgroup]
  simp only [bind_ok, recordKind_kindByte h.kind, wire.toNat_sourceCount, checkParseLimit,
    ensure_of hlimit, Target.fits_unbounded, Target.reserve_unbounded]
  rw [show format.recordHeaderLen + wire.record.sources.length * format.addressLen
      + wire.auxLen.toNat * 4 = wire.bytes.length by
    rw [hlen, RecordFormat.recordLen, Nat.mul_comm 4], hrecord, hsources]
  simp only [bind_ok, h.valid, pure_eq_ok]

/-- **The record loop** returns the records and ends behind the last. -/
theorem RecordFormat.Lawful.parseRecordLoop_append (hf : format.Lawful) (back : Bytes)
    {limits : MembershipParseLimits} {wires : List WireRecord} :
    ∀ front : Bytes, (∀ wire ∈ wires, Encodable format wire.record) →
      (∀ wire ∈ wires, wire.record.sources.length ≤ limits.maxSourcesPerRecord) →
      parseRecordLoop format (front ++ (wiresBytes wires ++ back)) limits wires.length
        front.length
        = .ok (wires.map WireRecord.record, front.length + (wiresBytes wires).length) := by
  induction wires with
  | nil => intro front _ _; rfl
  | cons wire wires ih =>
      intro front h hlimit
      rw [List.forall_mem_cons] at h hlimit
      rw [List.length_cons, parseRecordLoop, wiresBytes_cons, List.append_assoc,
        hf.parseRecord_append front _ h.1 hlimit.1, bind_ok]
      simp only
      rw [← List.length_append, ← List.append_assoc front, ih _ h.2 hlimit.2]
      simp only [bind_ok, pure_eq_ok, List.map_cons, List.length_append,
        Nat.add_assoc]

/-- Records on the wire are read back. -/
theorem RecordFormat.Lawful.parseFormatRecords_wires (hf : format.Lawful) {header : Bytes}
    (hheader : header.length = 6) {count : UInt16} {wires : List WireRecord}
    (hcount : count.toNat = wires.length) {limits : MembershipParseLimits}
    (h : ∀ wire ∈ wires, Encodable format wire.record)
    (hlimits : limits.Admits (wires.map WireRecord.record)) :
    parseFormatRecords format (header ++ (u16ToBe count ++ wiresBytes wires)) limits
      = .ok (wires.map WireRecord.record) := by
  have hlen : (header ++ (u16ToBe count ++ wiresBytes wires)).length
      = 8 + (wiresBytes wires).length := by
    simp only [List.length_append, length_u16ToBe, hheader]
    omega
  have hroom : ¬ wires.length
      > ((header ++ (u16ToBe count ++ wiresBytes wires)).length - 8) / format.recordHeaderLen := by
    rw [hlen, Nat.add_sub_cancel_left, gt_iff_lt, not_lt,
      Nat.le_div_iff_mul_le (by simp [RecordFormat.recordHeaderLen])]
    exact hf.length_le_wiresBytes h
  have hrecordCount : wires.length ≤ limits.maxRecords := by
    simpa using hlimits.recordCount
  have hloop : parseRecordLoop format (header ++ (u16ToBe count ++ wiresBytes wires)) limits
      wires.length 8
      = .ok (wires.map WireRecord.record, 8 + (wiresBytes wires).length) := by
    have := hf.parseRecordLoop_append [] (header ++ u16ToBe count) h fun wire hwire =>
      hlimits.sourceCount wire.record (List.mem_map_of_mem hwire)
    simpa [hheader] using this
  rw [parseFormatRecords, requireLen, ensure_of (by omega), bind_ok,
    u16At_append count _ hheader.symm]
  simp only [bind_ok, hcount, checkParseLimit, ensure_of hrecordCount, Target.fits_unbounded,
    Target.reserve_unbounded,
    ensure_of hroom, hloop, requireExactLen, ensure_of hlen, pure_eq_ok]

/-! ## What is accepted has the layout -/

theorem RecordFormat.Canonical.of_readSources (hf : format.Canonical) {message : Bytes}
    {count : ℕ} :
    ∀ {offset : ℕ} {sources : List IpAddr},
      readSources format message count offset = .ok sources →
        sources.length = count ∧
        (∀ source ∈ sources, format.octets source = .ok (addressBytes source)) ∧
        message.drop offset
          = sourcesBytes sources ++ message.drop (offset + count * format.addressLen) := by
  induction count with
  | zero =>
      intro offset sources h
      obtain rfl := Outcome.ok.inj h
      simp [sourcesBytes]
  | succ count ih =>
      intro offset sources h
      obtain ⟨_, -, h⟩ := bind_eq_ok_iff.mp h
      obtain ⟨source, hsource, h⟩ := bind_eq_ok_iff.mp h
      obtain ⟨rest, hrest, h⟩ := bind_eq_ok_iff.mp h
      obtain rfl := Outcome.ok.inj h
      obtain ⟨hlength, hoctets, hdrop⟩ := ih hrest
      refine ⟨by rw [List.length_cons, hlength], ?_, ?_⟩
      · exact List.forall_mem_cons.mpr ⟨hf.octets_of_read hsource, hoctets⟩
      · rw [hf.drop_of_read hsource, hdrop, sourcesBytes_cons, List.append_assoc]
        congr 3
        ring

/-- **One successful iteration** has read a wire record, and stands behind it. -/
theorem RecordFormat.Canonical.exists_wire_of_parseRecord (hf : format.Canonical)
    {message : Bytes} {limits : MembershipParseLimits} {offset next : ℕ}
    {record : MembershipRecord}
    (h : parseRecord format message limits offset = .ok (record, next)) :
    ∃ wire : WireRecord, wire.record = record ∧ Encodable format record ∧
      record.sources.length ≤ limits.maxSourcesPerRecord ∧
      message.drop offset = wire.bytes ++ message.drop next := by
  simp only [parseRecord, Target.fits_unbounded, Target.reserve_unbounded, bind_ok,
    bind_eq_ok_iff, requireLen, checkParseLimit, ensure_eq_ok_iff, pure_eq_ok, Outcome.ok.injEq,
    Prod.mk.injEq] at h
  obtain ⟨_, -, _, -, byte, hbyte, kind, hkind, auxLen, haux, count, hcount, _, hlimit, group,
    hgroup, tail, htail, _, hlen, sources, hsources, _, hvalid, rfl, rfl⟩ := h
  obtain ⟨rfl, hencode⟩ := kindByte_of_recordKind hkind
  obtain ⟨hlength, hoctets, hdrop⟩ := hf.of_readSources hsources
  obtain rfl := sliceFrom_eq_ok htail
  set behind := offset + format.recordHeaderLen + count.toNat * format.addressLen with hbehind
  -- the auxiliary data is what stands between the sources and the next record
  set ignored := (message.drop behind).take (auxLen.toNat * 4) with hignored
  have hnext : message.drop behind = ignored ++ message.drop (offset
      + (format.recordHeaderLen + count.toNat * format.addressLen + auxLen.toNat * 4)) := by
    have hoffset : offset + (format.recordHeaderLen + count.toNat * format.addressLen
        + auxLen.toNat * 4) = behind + auxLen.toNat * 4 := by omega
    have hsplit := List.take_append_drop (auxLen.toNat * 4) (message.drop behind)
    rw [List.drop_drop] at hsplit
    rw [hoffset, hignored, hsplit]
  have hignoredLen : ignored.length = 4 * auxLen.toNat := by
    rw [List.length_drop] at hlen
    rw [hignored, List.length_take, List.length_drop]
    omega
  refine ⟨⟨⟨kind, group, sources⟩, auxLen, count, ignored, hlength.symm, hignoredLen⟩, rfl,
    ⟨hencode, hf.octets_of_read hgroup, hoctets, ?_, hvalid⟩, hlength.trans_le hlimit, ?_⟩
  · rw [hlength]
    exact Nat.le_of_lt_succ count.toNat_lt
  · rw [drop_of_byteAt hbyte, drop_of_byteAt haux, drop_of_u16At hcount, hf.drop_of_read hgroup,
      show offset + 4 + format.addressLen = offset + format.recordHeaderLen by
        rw [RecordFormat.recordHeaderLen, Nat.add_assoc], hdrop, hnext]
    simp only [WireRecord.bytes, List.append_assoc, List.cons_append, List.nil_append]

/-- **A successful run of the record loop** has read as many wire records as it was told,
one behind the other. -/
theorem RecordFormat.Canonical.exists_wires_of_parseRecordLoop (hf : format.Canonical)
    {message : Bytes} {limits : MembershipParseLimits} {count : ℕ} :
    ∀ {offset last : ℕ} {records : List MembershipRecord},
      parseRecordLoop format message limits count offset = .ok (records, last) →
        ∃ wires : List WireRecord, wires.map WireRecord.record = records ∧
          records.length = count ∧ (∀ record ∈ records, Encodable format record) ∧
          (∀ record ∈ records, record.sources.length ≤ limits.maxSourcesPerRecord) ∧
          message.drop offset = wiresBytes wires ++ message.drop last := by
  induction count with
  | zero =>
      intro offset last records h
      obtain ⟨rfl, rfl⟩ := Prod.mk.inj (Outcome.ok.inj h)
      exact ⟨[], rfl, rfl, by simp, by simp, rfl⟩
  | succ count ih =>
      intro offset last records h
      obtain ⟨⟨record, next⟩, hrecord, h⟩ := bind_eq_ok_iff.mp h
      obtain ⟨⟨rest, last'⟩, hrest, h⟩ := bind_eq_ok_iff.mp h
      obtain ⟨rfl, rfl⟩ := Prod.mk.inj (Outcome.ok.inj h)
      obtain ⟨wire, hwire, hencodable, hlimit, hdrop⟩ := hf.exists_wire_of_parseRecord hrecord
      obtain ⟨wires, hwires, hlength, hencodables, hlimits, hdrops⟩ := ih hrest
      refine ⟨wire :: wires, by rw [List.map_cons, hwire, hwires],
        by rw [List.length_cons, hlength], List.forall_mem_cons.mpr ⟨hencodable, hencodables⟩,
        List.forall_mem_cons.mpr ⟨hlimit, hlimits⟩, ?_⟩
      rw [hdrop, hdrops, wiresBytes_cons, List.append_assoc]

/-- What was accepted has the records on the wire, one after the other. -/
theorem RecordFormat.Canonical.exists_wires_of_parseFormatRecords (hf : format.Canonical)
    {message : Bytes} {limits : MembershipParseLimits} {records : List MembershipRecord}
    (h : parseFormatRecords format message limits = .ok records) :
    (∃ (header : Bytes) (count : UInt16) (wires : List WireRecord),
      header.length = 6 ∧ count.toNat = records.length ∧
        wires.map WireRecord.record = records ∧
        message = header ++ (u16ToBe count ++ wiresBytes wires)) ∧
      (∀ record ∈ records, Encodable format record) ∧ limits.Admits records := by
  simp only [parseFormatRecords, Target.fits_unbounded, Target.reserve_unbounded, bind_ok,
    bind_eq_ok_iff, requireLen, checkParseLimit,
    requireExactLen, ensure_eq_ok_iff, pure_eq_ok, Outcome.ok.injEq] at h
  obtain ⟨_, hlen, count, hcount, _, hlimit, _, -, ⟨parsed, last⟩, hloop, _, hexact, rfl⟩ := h
  obtain ⟨wires, hwires, hlength, hencodable, hsources, hdrop⟩ :=
    hf.exists_wires_of_parseRecordLoop hloop
  -- the loop ends where the message does
  dsimp only at hexact
  rw [← hexact, List.drop_length, List.append_nil] at hdrop
  refine ⟨⟨message.take 6, count, wires, ?_, hlength.symm, hwires, ?_⟩, hencodable,
    ⟨hlength.trans_le hlimit, hsources⟩⟩
  · rw [List.length_take]
    omega
  · rw [← hdrop, ← drop_of_u16At hcount, List.take_append_drop]

end Format

/-! ## Exactly the messages of the layout -/

theorem MembershipProtocol.format_lawful (protocol : MembershipProtocol) :
    protocol.format.Lawful := by
  cases protocol with
  | igmpv3 => exact igmpv3Format_lawful
  | mldv2 => exact mldv2Format_lawful

theorem MembershipProtocol.format_canonical (protocol : MembershipProtocol) :
    protocol.format.Canonical := by
  cases protocol with
  | igmpv3 => exact igmpv3Format_canonical
  | mldv2 => exact mldv2Format_canonical

theorem RecordsMessage.encodable {protocol : MembershipProtocol} {limits : MembershipParseLimits}
    {records : List MembershipRecord} {message : Bytes}
    (h : RecordsMessage protocol limits records message) :
    ∀ record ∈ records, Encodable protocol.format record := by
  obtain ⟨header, count, wires, -, -, hwires, -⟩ := h.layout
  intro record hrecord
  obtain ⟨hgroup, hsources⟩ := h.family record hrecord
  refine ⟨encodeRecordKind_eq_kindByte_iff.mpr (h.type record hrecord),
    octets_eq_addressBytes_iff.mpr hgroup,
    fun source hsource => octets_eq_addressBytes_iff.mpr (hsources source hsource), ?_,
    validateRecord_eq_ok_iff.mpr ⟨h.multicast record hrecord, fun source hsource =>
      ⟨sameFamily_of_protocolFamily hgroup (hsources source hsource),
        h.unicast record hrecord source hsource⟩⟩⟩
  -- the source count of a record that stands on the wire fits its field
  rw [← hwires] at hrecord
  obtain ⟨wire, -, rfl⟩ := List.mem_map.mp hrecord
  rw [← wire.toNat_sourceCount]
  exact Nat.le_of_lt_succ wire.sourceCount.toNat_lt

/-- What is accepted is exactly what is well formed. -/
theorem parseFormatRecords_eq_ok_iff (protocol : MembershipProtocol) {message : Bytes}
    {limits : MembershipParseLimits} {records : List MembershipRecord} :
    parseFormatRecords protocol.format message limits = .ok records
      ↔ RecordsMessage protocol limits records message := by
  constructor
  · intro h
    obtain ⟨hlayout, hencodable, hlimits⟩ :=
      protocol.format_canonical.exists_wires_of_parseFormatRecords h
    have hvalid := fun record hrecord =>
      validateRecord_eq_ok_iff.mp (hencodable record hrecord).valid
    exact {
      layout := hlayout
      type := fun record hrecord =>
        encodeRecordKind_eq_kindByte_iff.mp (hencodable record hrecord).kind
      family := fun record hrecord =>
        ⟨octets_eq_addressBytes_iff.mp (hencodable record hrecord).group, fun source hsource =>
          octets_eq_addressBytes_iff.mp ((hencodable record hrecord).sources source hsource)⟩
      multicast := fun record hrecord => (hvalid record hrecord).1
      unicast := fun record hrecord source hsource => ((hvalid record hrecord).2 source hsource).2
      within := hlimits }
  · intro h
    have hencodable := h.encodable
    have hlimits := h.within
    obtain ⟨header, count, wires, hheader, hcount, rfl, rfl⟩ := h.layout
    rw [List.length_map] at hcount
    exact protocol.format_lawful.parseFormatRecords_wires hheader hcount
      (fun wire hwire => hencodable wire.record (List.mem_map_of_mem hwire)) hlimits

/-- **The record parsers accept exactly the messages of the layout**, and return the records
that stand in them. -/
theorem parseRecords_eq_ok_iff_recordsMessage (message : Bytes) (limits : MembershipParseLimits)
    (records : List MembershipRecord) :
    (parseIgmpv3Records message limits = .ok records
      ↔ RecordsMessage .igmpv3 limits records message) ∧
    (parseMldv2Records message limits = .ok records
      ↔ RecordsMessage .mldv2 limits records message) :=
  ⟨parseFormatRecords_eq_ok_iff .igmpv3, parseFormatRecords_eq_ok_iff .mldv2⟩

/-- A record with one source and four bytes of auxiliary data. -/
example :
    parseIgmpv3Records ([0x22, 0, 0, 0, 0, 0, 0, 1] ++ ([1, 1, 0, 1] ++ ([232, 1, 1, 1] ++
      ([192, 0, 2, 1] ++ [9, 9, 9, 9])))) .default
      = .ok [⟨.modeIsInclude, .v4 (.new 232 1 1 1), [.v4 (.new 192 0 2 1)]⟩] := by
  decide +kernel

end Amt

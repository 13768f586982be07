import Amt.Membership.Wire

/-!
# What is built is what is parsed

A gateway builds a membership report as an IP datagram, a relay parses it.  This file
proves that the parser returns the very report that was built, for both protocols,
whatever bytes follow the datagram.

The two halves meet at the *layout* of the datagram, which is written down once and
mentions neither offsets nor buffers: `recordBytes` for a record, `messageBytes` for
the IGMP or ICMPv6 message.  A built record is a wire record without auxiliary data
(`exists_wire`), so the parser's half is what is known of every such message.

* **Building.**  The builder writes into a zeroed buffer at explicit offsets.  The
  loop invariant (`writeRecords_append`) is that the buffer is the finished part, then
  zeros for what is still to come, and that the offset is the length of the finished
  part.
* **Parsing.**  `parseFormatRecords_messageBytes` is the record loop on the wire records
  of the report; the IP headers around the message are read field by field.

Both loops are proved once over a `RecordFormat`; `RecordFormat.Lawful` is all they
use of the address family.
-/

namespace Amt

open Outcome (ensure bind_ok bind_eq_ok_iff ensure_of pure_eq_ok ensure_eq_ok_iff)

/-! ## The layout -/

/-- A record on the wire. -/
def recordBytes (record : MembershipRecord) : Bytes :=
  [kindByte record.kind, 0] ++ (u16ToBe (UInt16.ofNat record.sources.length) ++
    (addressBytes record.group ++ sourcesBytes record.sources))

def recordsBytes (records : List MembershipRecord) : Bytes := records.flatMap recordBytes

/-- The message inside the IP datagram: type, checksum field, record count, records. -/
def messageBytes (type : UInt8) (field : Bytes) (records : List MembershipRecord) : Bytes :=
  [type, 0] ++ (field ++ ([0, 0] ++
    (u16ToBe (UInt16.ofNat records.length) ++ recordsBytes records)))

/-! ## The records a builder accepts -/

theorem isMulticast_of_isAmtForwardableGroup {group : IpAddr}
    (h : isAmtForwardableGroup group = true) : group.isMulticast = true := by
  cases group with
  | v4 group =>
      simp only [isAmtForwardableGroup, Bool.and_eq_true] at h
      exact h.1
  | v6 group =>
      simp only [isAmtForwardableGroup, Bool.and_eq_true] at h
      exact h.1

theorem octets_of_protocolFamily {protocol : MembershipProtocol} {group address : IpAddr}
    (hgroup : protocolFamily protocol group = true) (h : group.sameFamily address = true) :
    protocol.format.octets address = .ok (addressBytes address) := by
  rcases protocol with _ | _ <;> rcases group with g | g <;> rcases address with a | a
  all_goals first
    | rfl
    | exact absurd hgroup Bool.false_ne_true
    | exact absurd h Bool.false_ne_true

theorem encodeRecordKind_eq {kind : MembershipRecordKind} {byte : UInt8}
    (h : encodeRecordKind kind = .ok byte) : encodeRecordKind kind = .ok (kindByte kind) := by
  cases kind with
  | legacyReport => cases h
  | legacyLeave => cases h
  | _ => rfl

theorem encodable_of_validateBuildRecord {protocol : MembershipProtocol}
    {record : MembershipRecord} (h : validateBuildRecord protocol record = .ok ()) :
    Encodable protocol.format record := by
  simp only [validateBuildRecord, bind_eq_ok_iff, ensure_eq_ok_iff] at h
  obtain ⟨byte, hkind, _, hgroup, _, hfamily, _, hcount, hsources⟩ := h
  have hvalid : ∀ source ∈ record.sources,
      record.group.sameFamily source = true ∧ isValidSource source = true := by
    simpa using hsources
  refine ⟨encodeRecordKind_eq hkind, octets_of_protocolFamily hfamily ?_,
    fun source hsource => octets_of_protocolFamily hfamily (hvalid source hsource).1,
    not_lt.mp hcount, ?_⟩
  · cases record.group <;> rfl
  · exact validateRecord_eq_ok_iff.mpr ⟨isMulticast_of_isAmtForwardableGroup hgroup, hvalid⟩

theorem encodable_of_validateBuildRecords {protocol : MembershipProtocol}
    {records : List MembershipRecord} (h : validateBuildRecords protocol records = .ok ()) :
    records.length ≤ u16Max ∧ ∀ record ∈ records, Encodable protocol.format record := by
  simp only [validateBuildRecords, bind_eq_ok_iff, ensure_eq_ok_iff] at h
  obtain ⟨_, -, _, hcount, hloop⟩ := h
  refine ⟨not_lt.mp hcount, ?_⟩
  clear hcount
  induction records with
  | nil => simp
  | cons record records ih =>
      simp only [validateBuildRecordLoop, bind_eq_ok_iff] at hloop
      obtain ⟨_, hrecord, hrecords⟩ := hloop
      simp only [List.forall_mem_cons]
      exact ⟨encodable_of_validateBuildRecord hrecord, ih hrecords⟩

/-! ## Lengths -/

section Format

variable {format : RecordFormat}

def RecordFormat.recordsLen (format : RecordFormat) (records : List MembershipRecord) : ℕ :=
  (records.map format.recordLen).sum

theorem RecordFormat.Lawful.length_recordBytes (hf : format.Lawful) {record : MembershipRecord}
    (h : Encodable format record) : (recordBytes record).length = format.recordLen record := by
  simp only [recordBytes, List.length_append, List.length_cons, List.length_nil, length_u16ToBe,
    hf.length_octets h.group, hf.length_sourcesBytes h.sources, RecordFormat.recordLen,
    RecordFormat.recordHeaderLen]
  omega

theorem RecordFormat.Lawful.length_recordsBytes (hf : format.Lawful)
    {records : List MembershipRecord} (h : ∀ record ∈ records, Encodable format record) :
    (recordsBytes records).length = format.recordsLen records := by
  rw [recordsBytes, List.length_flatMap, RecordFormat.recordsLen]
  congr 1
  exact List.map_congr_left fun record hrecord => hf.length_recordBytes (h record hrecord)

theorem encodedRecordsLen_eq {records : List MembershipRecord} :
    ∀ {len total : ℕ}, encodedRecordsLen format records len = .ok total →
      total = len + format.recordsLen records := by
  induction records with
  | nil =>
      intro len total h
      cases h
      rfl
  | cons record records ih =>
      intro len total h
      simp only [encodedRecordsLen, checkedMulSources, bind_eq_ok_iff,
        ensure_eq_ok_iff, pure_eq_ok, Outcome.ok.injEq] at h
      obtain ⟨_, ⟨_, -, _, -, rfl⟩, _, -, h⟩ := h
      rw [ih h]
      simp only [RecordFormat.recordsLen, RecordFormat.recordLen, List.map_cons, List.sum_cons]
      omega

theorem encodedRecordsLen_of_le {records : List MembershipRecord} :
    ∀ {len : ℕ}, (∀ record ∈ records, record.sources.length ≤ u16Max) →
      len + format.recordsLen records ≤ usizeMax →
      encodedRecordsLen format records len = .ok (len + format.recordsLen records) := by
  induction records with
  | nil =>
      intro len _ _
      rfl
  | cons record records ih =>
      intro len hcounts hle
      rw [List.forall_mem_cons] at hcounts
      simp only [RecordFormat.recordsLen, RecordFormat.recordLen, List.map_cons,
        List.sum_cons] at hle ih ⊢
      rw [encodedRecordsLen, checkedMulSources, ensure_of (not_lt.mpr hcounts.1),
        bind_ok, ensure_of (by omega), bind_ok, pure_eq_ok,
        bind_ok, ensure_of (by omega), bind_ok,
        ih hcounts.2 (by omega), Nat.add_assoc]

/-! ## Building the records -/

/-- The buffer is the finished part, then room for the sources; the offset is the
length of the finished part. -/
theorem RecordFormat.Lawful.writeSources_append (hf : format.Lawful) (back : Bytes)
    {sources : List IpAddr} :
    ∀ {front : Bytes}, (∀ source ∈ sources, format.octets source = .ok (addressBytes source)) →
      writeSources format sources
        (front ++ (List.replicate (sources.length * format.addressLen) 0 ++ back)) front.length
        = .ok (front ++ (sourcesBytes sources ++ back),
            front.length + sources.length * format.addressLen) := by
  induction sources with
  | nil => intro front _; simp [writeSources, sourcesBytes]
  | cons source sources ih =>
      intro front h
      rw [List.forall_mem_cons] at h
      have hlen := hf.length_octets h.1
      have hroom : List.replicate ((source :: sources).length * format.addressLen) (0 : UInt8)
          = List.replicate format.addressLen 0
            ++ List.replicate (sources.length * format.addressLen) 0 := by
        rw [List.replicate_append_replicate, List.length_cons]
        congr 1
        ring
      have hoffset : front.length + format.addressLen = (front ++ addressBytes source).length := by
        rw [List.length_append, hlen]
      rw [writeSources, h.1, bind_ok, hroom, List.append_assoc,
        copyInto_append _ rfl (by simp) (by simpa using hlen), bind_ok, hoffset,
        ← List.append_assoc front, ih h.2, ← hoffset]
      simp only [sourcesBytes, List.flatMap_cons, List.append_assoc, List.length_cons]
      congr 2
      ring

/-- The room a record needs, cut where the writer writes. -/
theorem replicate_recordLen (format : RecordFormat) (record : MembershipRecord) :
    List.replicate (format.recordLen record) (0 : UInt8)
      = [0, 0] ++ ([0, 0] ++ (List.replicate format.addressLen 0
          ++ List.replicate (record.sources.length * format.addressLen) 0)) := by
  rw [List.replicate_append_replicate]
  change _ = List.replicate 2 0 ++ (List.replicate 2 0 ++ _)
  rw [List.replicate_append_replicate, List.replicate_append_replicate]
  congr 1
  simp only [RecordFormat.recordLen, RecordFormat.recordHeaderLen]
  omega

/-- **One iteration of the writer** fills the room of one record and moves on. -/
theorem RecordFormat.Lawful.writeRecords_cons (hf : format.Lawful) (front back : Bytes)
    {record : MembershipRecord} (records : List MembershipRecord) (h : Encodable format record) :
    writeRecords format (record :: records)
        (front ++ (List.replicate (format.recordLen record) 0 ++ back)) front.length
      = writeRecords format records (front ++ (recordBytes record ++ back))
          (front.length + format.recordLen record) := by
  -- what stands before each write; its length is the offset of the write
  obtain ⟨header, hheader⟩ : ∃ b, b = front ++ [kindByte record.kind, 0] := ⟨_, rfl⟩
  obtain ⟨counted, hcounted⟩ :
    ∃ b, b = header ++ u16ToBe (UInt16.ofNat record.sources.length) := ⟨_, rfl⟩
  obtain ⟨grouped, hgrouped⟩ : ∃ b, b = counted ++ addressBytes record.group := ⟨_, rfl⟩
  have hheaderLen : header.length = front.length + 2 := by simp [hheader]
  have hcountedLen : counted.length = front.length + 4 := by simp [hcounted, hheaderLen]
  have hgroupedLen : grouped.length = front.length + format.recordHeaderLen := by
    rw [hgrouped, List.length_append, hcountedLen, hf.length_octets h.group,
      RecordFormat.recordHeaderLen, Nat.add_assoc]
  have hkind (rest : Bytes) : front ++ kindByte record.kind :: 0 :: rest = header ++ rest := by
    simp [hheader]
  rw [writeRecords, h.group, h.kind, replicate_recordLen]
  simp only [bind_ok, List.append_assoc, List.cons_append, List.nil_append]
  rw [setAt_append _ _ _ rfl, bind_ok, hkind,
    show ∀ rest : Bytes, 0 :: 0 :: rest = [0, 0] ++ rest from fun _ => rfl,
    copyInto_append _ hheaderLen.symm (by simp [hheaderLen]) (by simp), bind_ok,
    ← List.append_assoc header, ← hcounted,
    copyInto_append _ hcountedLen.symm
      (by simp [hcountedLen, RecordFormat.recordHeaderLen, Nat.add_assoc])
      (by simpa using hf.length_octets h.group), bind_ok,
    ← List.append_assoc counted, ← hgrouped, ← hgroupedLen,
    hf.writeSources_append _ h.sources, bind_ok]
  simp only [hgroupedLen]
  simp only [hgrouped, hcounted, hheader, recordBytes, List.append_assoc, RecordFormat.recordLen,
    Nat.add_assoc]

theorem RecordFormat.Lawful.writeRecords_append (hf : format.Lawful) (back : Bytes)
    {records : List MembershipRecord} :
    ∀ front : Bytes, (∀ record ∈ records, Encodable format record) →
      writeRecords format records
        (front ++ (List.replicate (format.recordsLen records) 0 ++ back)) front.length
        = .ok (front ++ (recordsBytes records ++ back),
            front.length + format.recordsLen records) := by
  induction records with
  | nil => intro front _; simp [writeRecords, recordsBytes, RecordFormat.recordsLen]
  | cons record records ih =>
      intro front h
      rw [List.forall_mem_cons] at h
      have hroom : List.replicate (format.recordsLen (record :: records)) (0 : UInt8)
          = List.replicate (format.recordLen record) 0
            ++ List.replicate (format.recordsLen records) 0 := by
        rw [List.replicate_append_replicate]
        rfl
      have hnext : front.length + format.recordLen record
          = (front ++ recordBytes record).length := by
        rw [List.length_append, hf.length_recordBytes h.1]
      rw [hroom, List.append_assoc, hf.writeRecords_cons front _ records h.1, hnext,
        ← List.append_assoc front, ih _ h.2, ← hnext]
      simp only [recordsBytes, List.flatMap_cons, List.append_assoc, RecordFormat.recordsLen,
        List.map_cons, List.sum_cons, Nat.add_assoc]

/-! ## The message -/

theorem length_messageBytes (type : UInt8) (field : Bytes) (records : List MembershipRecord) :
    (messageBytes type field records).length
      = 6 + field.length + (recordsBytes records).length := by
  simp only [messageBytes, List.length_append, List.length_cons, List.length_nil, length_u16ToBe]
  omega

theorem RecordFormat.length_le_recordsLen (format : RecordFormat)
    (records : List MembershipRecord) :
    records.length * format.recordHeaderLen ≤ format.recordsLen records := by
  induction records with
  | nil => simp
  | cons record records ih =>
      simp only [RecordFormat.recordsLen, RecordFormat.recordLen, List.map_cons, List.sum_cons,
        List.length_cons, Nat.add_mul, Nat.one_mul] at *
      omega

theorem toNat_ofNat_of_le_u16Max {n : ℕ} (h : n ≤ u16Max) : (UInt16.ofNat n).toNat = n :=
  UInt16.toNat_ofNat_of_lt' (Nat.lt_succ_of_le h)

/-- A built record is a wire record without auxiliary data. -/
theorem exists_wire {record : MembershipRecord} (h : record.sources.length ≤ u16Max) :
    ∃ wire : WireRecord, wire.record = record ∧ wire.bytes = recordBytes record := by
  refine ⟨⟨record, 0, UInt16.ofNat record.sources.length, [], toNat_ofNat_of_le_u16Max h, rfl⟩,
    rfl, ?_⟩
  simp only [WireRecord.bytes, recordBytes, List.append_nil]

theorem exists_wires {records : List MembershipRecord}
    (h : ∀ record ∈ records, record.sources.length ≤ u16Max) :
    ∃ wires : List WireRecord, wires.map WireRecord.record = records ∧
      wiresBytes wires = recordsBytes records := by
  induction records with
  | nil => exact ⟨[], rfl, rfl⟩
  | cons record records ih =>
      rw [List.forall_mem_cons] at h
      obtain ⟨wire, hrecord, hbytes⟩ := exists_wire h.1
      obtain ⟨wires, hrecords, hwires⟩ := ih h.2
      refine ⟨wire :: wires, by rw [List.map_cons, hrecord, hrecords], ?_⟩
      rw [wiresBytes_cons, hbytes, hwires, recordsBytes, recordsBytes, List.flatMap_cons]

theorem RecordFormat.Lawful.parseFormatRecords_messageBytes (hf : format.Lawful) (type : UInt8)
    {field : Bytes} (hfield : field.length = 2) {records : List MembershipRecord}
    {limits : MembershipParseLimits} (hcount : records.length ≤ u16Max)
    (h : ∀ record ∈ records, Encodable format record) (hlimits : limits.Admits records) :
    parseFormatRecords format (messageBytes type field records) limits = .ok records := by
  obtain ⟨wires, rfl, hwires⟩ := exists_wires fun record hrecord => (h record hrecord).sourceCount
  have hheader : ([type, 0] ++ (field ++ [0, 0])).length = 6 := by simp [hfield]
  have hparse := hf.parseFormatRecords_wires hheader
    ((toNat_ofNat_of_le_u16Max hcount).trans (List.length_map _))
    (fun wire hwire => h wire.record (List.mem_map_of_mem hwire)) hlimits
  rw [hwires] at hparse
  simpa only [messageBytes, List.append_assoc] using hparse

theorem validateRecords_of_encodable {records : List MembershipRecord}
    (h : ∀ record ∈ records, Encodable format record) : validateRecords records = .ok () := by
  induction records with
  | nil => rfl
  | cons record records ih =>
      rw [List.forall_mem_cons] at h
      rw [validateRecords, h.1.valid, bind_ok, ih h.2]

end Format

/-! ## IGMPv3 -/

/-- The IPv4 header of a report, with its checksum field. -/
def ipv4ReportHeader (totalLen : ℕ) (field : Bytes) : Bytes :=
  [0x46, 0xc0] ++ (u16ToBe (UInt16.ofNat totalLen) ++ ([0, 0, 0, 0, 1, 2] ++
    (field ++ [0, 0, 0, 0, 224, 0, 0, 22, 0x94, 4, 0, 0])))

/-- The message that is built, with its checksum. -/
def igmpv3Message (records : List MembershipRecord) : Bytes :=
  messageBytes 0x22 (u16ToBe (checksum (messageBytes 0x22 [0, 0] records))) records

/-- The packet that is built. -/
def igmpv3Packet (records : List MembershipRecord) : Bytes :=
  let totalLen := 24 + (8 + igmpv3Format.recordsLen records)
  ipv4ReportHeader totalLen (u16ToBe (checksum (ipv4ReportHeader totalLen [0, 0]))) ++
    igmpv3Message records

/-- What a builder has checked when it succeeds; `overhead` is what its length field
counts besides the records. -/
structure Buildable (format : RecordFormat) (overhead : ℕ) (records : List MembershipRecord) :
    Prop where
  count : records.length ≤ u16Max
  encodable : ∀ record ∈ records, Encodable format record
  length : overhead + (8 + format.recordsLen records) ≤ u16Max

section Checks

variable {protocol : MembershipProtocol} {overhead : ℕ} {records : List MembershipRecord}
  {error : ℕ → MembershipBuildError} {body : ℕ → Outcome MembershipBuildError Bytes}

/-- The checks both builders start with, passed. -/
theorem run_checks (hvalid : validateBuildRecords protocol records = .ok ())
    (hlen : overhead + (8 + protocol.format.recordsLen records) ≤ u16Max) :
    (do
      validateBuildRecords protocol records
      let recordsLen ← encodedRecordsLen protocol.format records 0
      ensure (¬ overhead + (8 + recordsLen) > u16Max) (error recordsLen)
      body recordsLen) = body (protocol.format.recordsLen records) := by
  have hrecordsLen : encodedRecordsLen protocol.format records 0
      = .ok (0 + protocol.format.recordsLen records) := by
    refine encodedRecordsLen_of_le (fun record hrecord =>
      ((encodable_of_validateBuildRecords hvalid).2 record hrecord).sourceCount) ?_
    rw [u16Max] at hlen
    rw [usizeMax]
    omega
  rw [hvalid, bind_ok, hrecordsLen, bind_ok, Nat.zero_add,
    ensure_of (not_lt.mpr hlen), bind_ok]

/-- The checks both builders start with, seen from the end. -/
theorem buildable_of_checks {packet : Bytes}
    (h : (do
      validateBuildRecords protocol records
      let recordsLen ← encodedRecordsLen protocol.format records 0
      ensure (¬ overhead + (8 + recordsLen) > u16Max) (error recordsLen)
      body recordsLen) = .ok packet) :
    validateBuildRecords protocol records = .ok () ∧
      Buildable protocol.format overhead records := by
  obtain ⟨_, hvalid, h⟩ := bind_eq_ok_iff.mp h
  obtain ⟨hcount, hrecords⟩ := encodable_of_validateBuildRecords hvalid
  obtain ⟨recordsLen, hlen, h⟩ := bind_eq_ok_iff.mp h
  obtain ⟨_, hfits, -⟩ := bind_eq_ok_iff.mp h
  have hrecordsLen := encodedRecordsLen_eq hlen
  rw [Nat.zero_add] at hrecordsLen
  subst hrecordsLen
  exact ⟨hvalid, hcount, hrecords, not_lt.mp (ensure_eq_ok_iff.mp hfits)⟩

end Checks

/-- The part of the IGMPv3 builder behind its checks always succeeds. -/
theorem buildIgmpv3MembershipReport_of {records : List MembershipRecord}
    (hvalid : validateBuildRecords .igmpv3 records = .ok ())
    (hlen : 24 + (8 + igmpv3Format.recordsLen records) ≤ u16Max) :
    buildIgmpv3MembershipReport records = .ok (igmpv3Packet records) := by
  have hwrite := igmpv3Format_lawful.writeRecords_append []
    ([0x22, 0, 0, 0, 0, 0] ++ u16ToBe (UInt16.ofNat records.length))
    (encodable_of_validateBuildRecords hvalid).2
  have hunspecified : Ipv4Addr.unspecified.octets.toList = [0, 0, 0, 0] := by decide
  have hdestination : igmpv3ReportDestination.octets.toList = [224, 0, 0, 22] := by decide
  refine (run_checks hvalid hlen).trans ?_
  rw [igmpv3Packet, igmpv3Message, ipv4ReportHeader, ipv4ReportHeader, messageBytes, messageBytes]
  dsimp only [MembershipProtocol.format]
  rw [hunspecified, hdestination, ← List.replicate_append_replicate,
    ← List.replicate_append_replicate]
  generalize UInt16.ofNat records.length = count at hwrite ⊢
  generalize UInt16.ofNat (24 + (8 + igmpv3Format.recordsLen records)) = totalLen
  -- every write of the builder lands in a part of the buffer that is written out
  simp [List.replicate_succ, setAt, copyInto, u16ToBe, sliceFrom, slice] at hwrite ⊢
  simp [hwrite]
  omega

theorem buildIgmpv3MembershipReport_eq {records : List MembershipRecord} {packet : Bytes}
    (h : buildIgmpv3MembershipReport records = .ok packet) :
    packet = igmpv3Packet records ∧ Buildable igmpv3Format 24 records := by
  obtain ⟨hvalid, hbuildable⟩ := buildable_of_checks h
  exact ⟨Outcome.ok.inj (h.symm.trans (buildIgmpv3MembershipReport_of hvalid hbuildable.length)),
    hbuildable⟩

theorem parseIgmpRecords_igmpv3Message {overhead : ℕ} {records : List MembershipRecord}
    {limits : MembershipParseLimits} (h : Buildable igmpv3Format overhead records)
    (hlimits : limits.Admits records) :
    parseIgmpRecords (igmpv3Message records) igmpv3ReportDestination limits = .ok records := by
  have htype : (byteAt (igmpv3Message records) 0 : Outcome MembershipParseError UInt8)
      = .ok 0x22 := rfl
  rw [parseIgmpRecords, htype, bind_ok]
  change ensure _ _ >>= _ = _
  rw [ensure_of rfl]
  exact igmpv3Format_lawful.parseFormatRecords_messageBytes _ (length_u16ToBe _) h.count
    h.encodable hlimits

/-- The checksum of the header verifies. -/
theorem onesComplementSum_ipv4ReportHeader (totalLen : ℕ) :
    onesComplementSum (ipv4ReportHeader totalLen
      (u16ToBe (checksum (ipv4ReportHeader totalLen [0, 0])))) = 0xffff := by
  have hsplit : ∀ field, ipv4ReportHeader totalLen field =
      ([0x46, 0xc0] ++ (u16ToBe (UInt16.ofNat totalLen) ++ [0, 0, 0, 0, 1, 2])) ++
        (field ++ [0, 0, 0, 0, 224, 0, 0, 22, 0x94, 4, 0, 0]) := by
    intro field
    simp only [ipv4ReportHeader, List.append_assoc]
  rw [hsplit, hsplit]
  exact onesComplementSum_field _ ⟨5, rfl⟩

theorem onesComplementSum_igmpv3Message (records : List MembershipRecord) :
    onesComplementSum (igmpv3Message records) = 0xffff := by
  rw [igmpv3Message, messageBytes, messageBytes]
  exact onesComplementSum_field [0x22, 0] ⟨1, rfl⟩

/-- What the parser reads in the header, whatever stands in its checksum field. -/
structure Ipv4ReportFields (packet : Bytes) (totalLen : ℕ) : Prop where
  first : (byteAt packet 0 : Outcome MembershipParseError UInt8) = .ok 0x46
  total : (u16At packet 2 : Outcome MembershipParseError UInt16) = .ok (UInt16.ofNat totalLen)
  protocol : (byteAt packet 9 : Outcome MembershipParseError UInt8) = .ok 2
  hop : (byteAt packet 8 : Outcome MembershipParseError UInt8) = .ok 1
  fragment : (u16At packet 6 : Outcome MembershipParseError UInt16) = .ok 0
  source : (readIpv4 packet 12 : Outcome MembershipParseError Ipv4Addr) = .ok .unspecified
  destination : (readIpv4 packet 16 : Outcome MembershipParseError Ipv4Addr)
    = .ok igmpv3ReportDestination

theorem ipv4ReportFields_append (totalLen : ℕ) (sum : UInt16) (rest : Bytes) :
    Ipv4ReportFields (ipv4ReportHeader totalLen (u16ToBe sum) ++ rest) totalLen where
  first := rfl
  total := by
    simp only [ipv4ReportHeader, List.append_assoc]
    exact u16At_append _ _ rfl
  protocol := rfl
  hop := rfl
  fragment := rfl
  source := rfl
  destination := rfl

theorem slice_ipv4ReportHeader_options (totalLen : ℕ) (sum : UInt16) (rest : Bytes) :
    (slice (ipv4ReportHeader totalLen (u16ToBe sum) ++ rest) ipv4MinHeaderLen 24 :
      Outcome MembershipParseError Bytes) = .ok [0x94, 4, 0, 0] := by
  have hlen : 24 ≤ (ipv4ReportHeader totalLen (u16ToBe sum) ++ rest).length := by
    rw [List.length_append]
    exact Nat.le_add_right _ _
  rw [slice, if_pos ⟨by decide, hlen⟩]
  rfl

/-- A built IGMPv3 report is read back, whatever follows the packet. -/
theorem parseIpv4MembershipReport_igmpv3Packet {records : List MembershipRecord}
    {limits : MembershipParseLimits} (h : Buildable igmpv3Format 24 records)
    (hlimits : limits.Admits records) (padding : Bytes) :
    parseIpv4MembershipReport (igmpv3Packet records ++ padding) limits
      = .ok { protocol := .igmpv3, records } := by
  have hf := igmpv3Format_lawful
  have hparse := parseIgmpRecords_igmpv3Message h hlimits
  have hmessageSum := onesComplementSum_igmpv3Message records
  have hmessageLen : (igmpv3Message records).length = 8 + igmpv3Format.recordsLen records := by
    rw [igmpv3Message, length_messageBytes, length_u16ToBe, hf.length_recordsBytes h.encodable]
  rw [igmpv3Packet, List.append_assoc]
  -- from here on the message and the checksum are opaque
  generalize igmpv3Message records = message at hparse hmessageSum hmessageLen ⊢
  obtain ⟨totalLen, htotalLen⟩ : ∃ n, n = 24 + (8 + igmpv3Format.recordsLen records) := ⟨_, rfl⟩
  have hlength := h.length
  rw [← htotalLen] at hlength ⊢
  have hheaderSum := onesComplementSum_ipv4ReportHeader totalLen
  generalize checksum (ipv4ReportHeader totalLen [0, 0]) = sum at hheaderSum ⊢
  have hfields := ipv4ReportFields_append totalLen sum (message ++ padding)
  have hoptions := slice_ipv4ReportHeader_options totalLen sum (message ++ padding)
  have hheaderLen : (ipv4ReportHeader totalLen (u16ToBe sum)).length = 24 := rfl
  generalize ipv4ReportHeader totalLen (u16ToBe sum) = header
    at hheaderSum hfields hoptions hheaderLen ⊢
  have hpacketLen : (header ++ (message ++ padding)).length = totalLen + padding.length := by
    simp only [List.length_append, hheaderLen, hmessageLen, htotalLen]
    omega
  have hheaderSlice : (slice (header ++ (message ++ padding)) 0 24 :
      Outcome MembershipParseError Bytes) = .ok header := by
    rw [slice, if_pos ⟨by omega, by omega⟩, ← hheaderLen, List.take_left]
    rfl
  have hmessageSlice : (slice (header ++ (message ++ padding)) 24 totalLen :
      Outcome MembershipParseError Bytes) = .ok message :=
    slice_append _ hheaderLen.symm (by rw [hheaderLen, hmessageLen, htotalLen])
  generalize header ++ (message ++ padding) = packet
    at hfields hoptions hpacketLen hheaderSlice hmessageSlice ⊢
  have htotalNat : (UInt16.ofNat totalLen).toNat = totalLen := toNat_ofNat_of_le_u16Max hlength
  have hihl : ((0x46 : UInt8) &&& 0x0f).toNat * 4 = 24 := rfl
  have hfixed : ¬ packet.length < ipv4MinHeaderLen := by rw [ipv4MinHeaderLen]; omega
  have hsourceOk :
      ¬ (Ipv4Addr.unspecified.isMulticast || Ipv4Addr.unspecified.isBroadcast) = true := by
    decide
  rw [parseIpv4MembershipReport]
  simp only [requireLen, ensure_of hfixed, hfields.first, hihl, bind_ok]
  rw [ensure_of (by decide), bind_ok, ensure_of (by omega),
    bind_ok, hfields.total, bind_ok, htotalNat, ensure_of (by omega)]
  rw [bind_ok, hfields.protocol, bind_ok, ensure_of rfl,
    bind_ok, hfields.hop, bind_ok, ensure_of rfl, bind_ok,
    hfields.fragment, bind_ok, ensure_of (by decide), bind_ok,
    hfields.source, bind_ok, ensure_of hsourceOk, bind_ok,
    if_neg (by decide), hoptions, bind_ok, hasIpv4RouterAlert_builder, bind_ok,
    ensure_of rfl, bind_ok, hheaderSlice, bind_ok,
    ensure_of hheaderSum, bind_ok, hmessageSlice, bind_ok,
    ensure_of (by omega), bind_ok, ensure_of hmessageSum,
    bind_ok, hfields.destination, bind_ok, hparse, bind_ok,
    validateRecords_of_encodable h.encodable, bind_ok, pure_eq_ok]
  rfl

/-! ## MLDv2 -/

/-- The IPv6 header and the hop-by-hop Router Alert of a report. -/
def ipv6ReportHeader (payloadLen : ℕ) : Bytes :=
  [0x60, 0, 0, 0] ++ (u16ToBe (UInt16.ofNat payloadLen) ++ ([0, 1] ++
    (Ipv6Addr.unspecified.octets.toList ++ (mldv2ReportDestination.octets.toList ++
      [58, 0, 5, 2, 0, 0, 1, 0]))))

/-- The message that is built, with its checksum. -/
def mldv2Message (records : List MembershipRecord) : Bytes :=
  messageBytes 143 (u16ToBe (icmpv6Checksum Ipv6Addr.unspecified.octets
    mldv2ReportDestination.octets 58 (messageBytes 143 [0, 0] records))) records

/-- The packet that is built. -/
def mldv2Packet (records : List MembershipRecord) : Bytes :=
  ipv6ReportHeader (8 + (8 + mldv2Format.recordsLen records)) ++ mldv2Message records

/-- The part of the MLDv2 builder behind its checks always succeeds. -/
theorem buildMldv2MembershipReport_of {records : List MembershipRecord}
    (hvalid : validateBuildRecords .mldv2 records = .ok ())
    (hlen : 8 + (8 + mldv2Format.recordsLen records) ≤ u16Max) :
    buildMldv2MembershipReport records = .ok (mldv2Packet records) := by
  have hwrite := mldv2Format_lawful.writeRecords_append []
    ([143, 0, 0, 0, 0, 0] ++ u16ToBe (UInt16.ofNat records.length))
    (encodable_of_validateBuildRecords hvalid).2
  have hunspecified : Ipv6Addr.unspecified.octets.toList = List.replicate 16 0 := by decide
  have hdestination : mldv2ReportDestination.octets.toList
      = [0xff, 2, 0, 0, 0, 0, 0, 0, 0, 0, 0, 0, 0, 0, 0, 0x16] := by decide
  refine (run_checks hvalid hlen).trans ?_
  rw [mldv2Packet, mldv2Message, ipv6ReportHeader, messageBytes, messageBytes]
  dsimp only [MembershipProtocol.format]
  rw [hunspecified, hdestination, ← List.replicate_append_replicate,
    ← List.replicate_append_replicate, ← List.replicate_append_replicate]
  generalize UInt16.ofNat records.length = count at hwrite ⊢
  generalize UInt16.ofNat (8 + (8 + mldv2Format.recordsLen records)) = payloadLen
  simp [List.replicate_succ, setAt, copyInto, u16ToBe, sliceFrom, slice, ipv6HeaderLen]
    at hwrite ⊢
  simp [hwrite]

theorem buildMldv2MembershipReport_eq {records : List MembershipRecord} {packet : Bytes}
    (h : buildMldv2MembershipReport records = .ok packet) :
    packet = mldv2Packet records ∧ Buildable mldv2Format 8 records := by
  obtain ⟨hvalid, hbuildable⟩ := buildable_of_checks h
  exact ⟨Outcome.ok.inj (h.symm.trans (buildMldv2MembershipReport_of hvalid hbuildable.length)),
    hbuildable⟩

theorem parseMldRecords_mldv2Message {overhead : ℕ} {records : List MembershipRecord}
    {limits : MembershipParseLimits} (h : Buildable mldv2Format overhead records)
    (hlimits : limits.Admits records) :
    parseMldRecords (mldv2Message records) mldv2ReportDestination limits = .ok records := by
  have htype : (byteAt (mldv2Message records) 0 : Outcome MembershipParseError UInt8)
      = .ok 143 := rfl
  rw [parseMldRecords, htype, bind_ok]
  change ensure _ _ >>= _ = _
  rw [ensure_of rfl]
  exact mldv2Format_lawful.parseFormatRecords_messageBytes _ (length_u16ToBe _) h.count
    h.encodable hlimits

theorem icmpv6Checksum_mldv2Message (records : List MembershipRecord) :
    icmpv6Checksum Ipv6Addr.unspecified.octets mldv2ReportDestination.octets 58
      (mldv2Message records) = 0 := by
  rw [mldv2Message, messageBytes, messageBytes]
  exact icmpv6Checksum_field Ipv6Addr.unspecified.octets mldv2ReportDestination.octets 58 _
    (show Even ([143, 0] : Bytes).length by decide)

/-- What the parser reads in the header. -/
structure Ipv6ReportFields (packet : Bytes) (payloadLen : ℕ) : Prop where
  payload : (u16At packet 4 : Outcome MembershipParseError UInt16) = .ok (UInt16.ofNat payloadLen)
  hop : (byteAt packet 7 : Outcome MembershipParseError UInt8) = .ok 1
  next : (byteAt packet 6 : Outcome MembershipParseError UInt8) = .ok 0
  extensionNext : (byteAt packet 40 : Outcome MembershipParseError UInt8) = .ok 58
  extensionLen : (byteAt packet 41 : Outcome MembershipParseError UInt8) = .ok 0
  source : (readIpv6 packet 8 : Outcome MembershipParseError Ipv6Addr) = .ok .unspecified
  destination : (readIpv6 packet 24 : Outcome MembershipParseError Ipv6Addr)
    = .ok mldv2ReportDestination
  options : (slice packet 42 48 : Outcome MembershipParseError Bytes) = .ok [5, 2, 0, 0, 1, 0]

theorem ipv6ReportFields_append (payloadLen : ℕ) (rest : Bytes) :
    Ipv6ReportFields (ipv6ReportHeader payloadLen ++ rest) payloadLen where
  payload := by
    simp only [ipv6ReportHeader, List.append_assoc]
    exact u16At_append _ _ rfl
  hop := rfl
  next := rfl
  extensionNext := rfl
  extensionLen := rfl
  source := rfl
  destination := rfl
  options := by
    have hlen : 48 ≤ (ipv6ReportHeader payloadLen ++ rest).length := by
      rw [List.length_append]
      exact Nat.le_add_right _ _
    rw [slice, if_pos ⟨by decide, hlen⟩]
    rfl

/-- The hop-by-hop header of a report carries the Router Alert. -/
theorem Ipv6ReportFields.parseHopByHop {packet : Bytes} {payloadLen : ℕ}
    (h : Ipv6ReportFields packet payloadLen) (hextension : 8 ≤ payloadLen)
    (hfits : ipv6HeaderLen + payloadLen ≤ packet.length) :
    parseHopByHop packet (ipv6HeaderLen + payloadLen) = .ok (58, 48, true) := by
  obtain ⟨extension, hslice, hlen⟩ : ∃ extension, (slice packet ipv6HeaderLen
      (ipv6HeaderLen + payloadLen) : Outcome MembershipParseError Bytes) = .ok extension ∧
        extension.length = payloadLen := by
    refine ⟨_, if_pos ⟨by omega, hfits⟩, ?_⟩
    rw [List.length_drop, List.length_take]
    omega
  rw [Amt.parseHopByHop, h.next, bind_ok]
  simp only [if_pos]
  rw [hslice, bind_ok, requireLen, ensure_of (by omega), bind_ok,
    show ipv6HeaderLen = 40 from rfl, h.extensionNext, bind_ok, h.extensionLen,
    bind_ok]
  change ensure _ _ >>= _ = _
  rw [ensure_of (by change ¬ _ < 8; omega), bind_ok]
  change slice packet 42 48 >>= _ = _
  rw [h.options, bind_ok, hasIpv6RouterAlert_builder]
  rfl

/-- The same for MLDv2. -/
theorem parseIpv6MembershipReport_mldv2Packet {records : List MembershipRecord}
    {limits : MembershipParseLimits} (h : Buildable mldv2Format 8 records)
    (hlimits : limits.Admits records) (padding : Bytes) :
    parseIpv6MembershipReport (mldv2Packet records ++ padding) limits
      = .ok { protocol := .mldv2, records } := by
  have hparse := parseMldRecords_mldv2Message h hlimits
  have hsum := icmpv6Checksum_mldv2Message records
  have hmessageLen : (mldv2Message records).length = 8 + mldv2Format.recordsLen records := by
    rw [mldv2Message, length_messageBytes, length_u16ToBe,
      mldv2Format_lawful.length_recordsBytes h.encodable]
  rw [mldv2Packet, List.append_assoc]
  generalize mldv2Message records = message at hparse hsum hmessageLen ⊢
  obtain ⟨payloadLen, hpayloadLen⟩ : ∃ n, n = 8 + (8 + mldv2Format.recordsLen records) := ⟨_, rfl⟩
  have hlength := h.length
  rw [← hpayloadLen] at hlength ⊢
  have hfields := ipv6ReportFields_append payloadLen (message ++ padding)
  have hheaderLen : (ipv6ReportHeader payloadLen).length = 48 := rfl
  generalize ipv6ReportHeader payloadLen = header at hfields hheaderLen ⊢
  have hpacketLen : (header ++ (message ++ padding)).length
      = ipv6HeaderLen + payloadLen + padding.length := by
    simp only [List.length_append, hheaderLen, hmessageLen, hpayloadLen, ipv6HeaderLen]
    omega
  have hmessageSlice : (slice (header ++ (message ++ padding)) 48 (ipv6HeaderLen + payloadLen) :
      Outcome MembershipParseError Bytes) = .ok message :=
    slice_append _ hheaderLen.symm (by rw [ipv6HeaderLen]; omega)
  generalize header ++ (message ++ padding) = packet
    at hfields hpacketLen hmessageSlice ⊢
  have hpayloadNat : (UInt16.ofNat payloadLen).toNat = payloadLen :=
    toNat_ofNat_of_le_u16Max hlength
  have hhopByHop := hfields.parseHopByHop (by omega) (by omega)
  have hsourceOk : ¬ Ipv6Addr.unspecified.isMulticast = true := by decide
  rw [parseIpv6MembershipReport, requireLen, ensure_of (by omega), bind_ok,
    hfields.payload, bind_ok, hpayloadNat]
  simp only [ensure_of (show ¬ ipv6HeaderLen + payloadLen > packet.length by omega),
    hfields.hop, hfields.source, hfields.destination, hhopByHop, hmessageSlice,
    ensure_of trivial, ensure_of hsourceOk, ensure_of hsum, requireLen,
    bind_ok]
  rw [ensure_of (by omega), bind_ok, hparse, bind_ok,
    validateRecords_of_encodable h.encodable]
  rfl

/-! ## Wider limits accept more

The limits are only ever compared with the counts of a packet, so a parser with wider
limits returns whatever one with narrower limits returns. -/

section Limits

variable {limits limits' : MembershipParseLimits}

/-- `limits'` allows whatever `limits` allows. -/
structure MembershipParseLimits.Widens (limits limits' : MembershipParseLimits) : Prop where
  maxRecords : limits.maxRecords ≤ limits'.maxRecords
  maxSourcesPerRecord : limits.maxSourcesPerRecord ≤ limits'.maxSourcesPerRecord

theorem checkParseLimit_leOk {limit limit' : ℕ} (resource : String) (requested : ℕ)
    (h : limit ≤ limit') : (checkParseLimit resource requested limit).LeOk
      (checkParseLimit resource requested limit') :=
  Outcome.LeOk.ensure fun hle => hle.trans h

theorem parseRecord_leOk (format : RecordFormat) (message : Bytes) (offset : ℕ)
    (h : limits.Widens limits') :
    (parseRecord format message limits offset).LeOk
      (parseRecord format message limits' offset) := by
  refine .bind_right fun _ => .bind_right fun _ => .bind_right fun _ => .bind_right fun _ =>
    .bind_right fun _ => .bind_right fun _ => .bind_right fun _ => .bind_right fun _ => ?_
  exact (checkParseLimit_leOk _ _ h.maxSourcesPerRecord).bind fun _ => .refl _

theorem parseRecordLoop_leOk (format : RecordFormat) (message : Bytes)
    (h : limits.Widens limits') (count : ℕ) :
    ∀ offset : ℕ, (parseRecordLoop format message limits count offset).LeOk
      (parseRecordLoop format message limits' count offset) := by
  induction count with
  | zero => intro offset; exact .refl _
  | succ count ih =>
      intro offset
      exact (parseRecord_leOk format message offset h).bind fun _ => (ih _).bind fun _ => .refl _

theorem parseFormatRecords_leOk (format : RecordFormat) (message : Bytes)
    (h : limits.Widens limits') :
    (parseFormatRecords format message limits).LeOk
      (parseFormatRecords format message limits') := by
  refine .bind_right fun _ => .bind_right fun _ => ?_
  refine (checkParseLimit_leOk _ _ h.maxRecords).bind fun _ => .bind_right fun _ =>
    .bind_right fun _ => .bind_right fun _ => ?_
  exact (parseRecordLoop_leOk format message h _ _).bind fun _ => .refl _

theorem parseIgmpRecords_leOk (igmp : Bytes) (destination : Ipv4Addr) (h : limits.Widens limits') :
    (parseIgmpRecords igmp destination limits).LeOk
      (parseIgmpRecords igmp destination limits') := by
  refine .bind_right fun kind => ?_
  split
  case h_3 => exact .bind_right fun _ => parseFormatRecords_leOk _ _ h
  all_goals exact .refl _

theorem parseMldRecords_leOk (icmp : Bytes) (destination : Ipv6Addr) (h : limits.Widens limits') :
    (parseMldRecords icmp destination limits).LeOk (parseMldRecords icmp destination limits') := by
  refine .bind_right fun kind => ?_
  split
  case h_3 => exact .bind_right fun _ => parseFormatRecords_leOk _ _ h
  all_goals exact .refl _

theorem parseIpv4MembershipReport_leOk (packet : Bytes) (h : limits.Widens limits') :
    (parseIpv4MembershipReport packet limits).LeOk (parseIpv4MembershipReport packet limits') := by
  unfold parseIpv4MembershipReport
  repeat refine .bind_right fun _ => ?_
  -- whether there are options to look for a Router Alert in
  dsimp only
  split
  all_goals
    repeat refine .bind_right fun _ => ?_
    exact (parseIgmpRecords_leOk _ _ h).bind fun _ => .refl _

theorem parseIpv6MembershipReport_leOk (packet : Bytes) (h : limits.Widens limits') :
    (parseIpv6MembershipReport packet limits).LeOk (parseIpv6MembershipReport packet limits') := by
  unfold parseIpv6MembershipReport
  repeat refine .bind_right fun _ => ?_
  exact (parseMldRecords_leOk _ _ h).bind fun _ => .refl _

theorem parseMembershipReportWithLimits_leOk (packet : Bytes) (h : limits.Widens limits') :
    (parseMembershipReportWithLimits packet limits).LeOk
      (parseMembershipReportWithLimits packet limits') := by
  unfold parseMembershipReportWithLimits
  cases packet.head? with
  | none => exact .refl _
  | some first =>
      simp only
      split
      · exact parseIpv4MembershipReport_leOk packet h
      · exact parseIpv6MembershipReport_leOk packet h
      · exact .refl _

end Limits

/-! ## The round trip -/

/-- **A report that can be built is parsed back**, whatever bytes follow it, under any
limits that admit it. -/
theorem parse_buildMembershipReport {report : MembershipReport} {packet : Bytes}
    {limits : MembershipParseLimits} (h : buildMembershipReport report = .ok packet)
    (hlimits : limits.Admits report.records) (padding : Bytes) :
    parseMembershipReportWithLimits (packet ++ padding) limits = .ok report := by
  obtain ⟨protocol, records⟩ := report
  cases protocol with
  | igmpv3 =>
      obtain ⟨rfl, hbuild⟩ := buildIgmpv3MembershipReport_eq h
      change parseIpv4MembershipReport _ _ = _
      exact parseIpv4MembershipReport_igmpv3Packet hbuild hlimits padding
  | mldv2 =>
      obtain ⟨rfl, hbuild⟩ := buildMldv2MembershipReport_eq h
      change parseIpv6MembershipReport _ _ = _
      exact parseIpv6MembershipReport_mldv2Packet hbuild hlimits padding

/-- **Parsing inverts building.**  For both protocols, whatever bytes follow the packet,
and under every limits that allow the report's number of records and the number of
sources of each of them. -/
theorem parseMembershipReportWithLimits_build {report : MembershipReport} {packet : Bytes}
    {limits : MembershipParseLimits} (hbuild : buildMembershipReport report = .ok packet)
    (hrecords : report.records.length ≤ limits.maxRecords)
    (hsources : ∀ record ∈ report.records, record.sources.length ≤ limits.maxSourcesPerRecord)
    (padding : Bytes) :
    parseMembershipReportWithLimits (packet ++ padding) limits = .ok report :=
  parse_buildMembershipReport hbuild ⟨hrecords, hsources⟩ padding

/-- A report with three records: any source of `ff3e::1`, two sources of `ff3e::2`, and all but
one source of `ff3e::3`. -/
def mixedReport : MembershipReport :=
  { protocol := .mldv2
    records :=
      [⟨.modeIsExclude, .v6 (.new 0xff3e 0 0 0 0 0 0 1), []⟩,
        ⟨.modeIsInclude, .v6 (.new 0xff3e 0 0 0 0 0 0 2),
          [.v6 (.new 0x2001 0xdb8 0 0 0 0 0 1), .v6 (.new 0x2001 0xdb8 0 0 0 0 0 2)]⟩,
        ⟨.changeToExclude, .v6 (.new 0xff3e 0 0 0 0 0 0 3),
          [.v6 (.new 0x2001 0xdb8 0 0 0 0 0 3)]⟩] }

theorem parseMembershipReportWithLimits_build_mixed :
    ∃ packet, buildMembershipReport mixedReport = .ok packet ∧
      parseMembershipReportWithLimits (packet ++ [1, 2, 3]) ⟨3, 2⟩ = .ok mixedReport := by
  obtain ⟨packet, hbuild⟩ : ∃ packet, buildMembershipReport mixedReport = .ok packet :=
    ⟨_, buildMldv2MembershipReport_of (by decide +kernel) (by decide +kernel)⟩
  exact ⟨packet, hbuild, parseMembershipReportWithLimits_build hbuild (by decide) (by decide) _⟩

/-- **What is parsed is what was built**, whatever the limits: a parser that accepts
the datagram returns the report it was built from. -/
theorem eq_of_parse_buildMembershipReport {report report' : MembershipReport} {packet : Bytes}
    {limits : MembershipParseLimits} (h : buildMembershipReport report = .ok packet)
    (hparse : parseMembershipReportWithLimits packet limits = .ok report') : report' = report := by
  -- limits wide enough for the report and for the parser at hand
  let wide : MembershipParseLimits :=
    { maxRecords := max limits.maxRecords report.records.length
      maxSourcesPerRecord := max limits.maxSourcesPerRecord
        (report.records.map fun record => record.sources.length).sum }
  have hwidens : limits.Widens wide := ⟨le_max_left _ _, le_max_left _ _⟩
  have hadmits : wide.Admits report.records :=
    ⟨le_max_right _ _, fun record hrecord => le_max_of_le_right
      (List.single_le_sum (by simp) _ (List.mem_map_of_mem hrecord))⟩
  have hwide := parse_buildMembershipReport h hadmits []
  rw [List.append_nil, parseMembershipReportWithLimits_leOk packet hwidens report' hparse] at hwide
  exact Outcome.ok.inj hwide

end Amt

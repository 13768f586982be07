import Amt.Membership.RoundTrip

/-!
# Which reports are built, and which are accepted

The round trip of `Amt.Membership.RoundTrip` starts from a datagram that was built.  Here
is when one is, and when a parser takes it.

* **Building.**  A builder succeeds exactly if there is a record, every record may be sent
  (`Sendable`), and the datagram is not longer than its length field can say
  (`buildMembershipReport_isOk_iff`).  The bounds on the number of records and on the
  sources of a record are implied by the last condition, and no builder panics.
* **Accepting.**  Whatever a parser returns is well formed and within its limits
  (`parse_accepted`), so that of the datagrams a builder makes, a parser accepts exactly
  those whose report is within its limits (`parse_build_isOk_iff`).
-/

namespace Amt

open Outcome (ensure Ensures bind_eq_ok_iff bind_ne_panic ensure_eq_ok_iff ensure_ne_panic)

/-! ## Building -/

/-- What the length field of a report counts besides the records and the message header. -/
def MembershipProtocol.overhead : MembershipProtocol → ℕ
  | .igmpv3 => 24
  | .mldv2 => 8

/-- What `validate_build_records` asks of a record, apart from the number of its sources. -/
structure Sendable (protocol : MembershipProtocol) (record : MembershipRecord) : Prop where
  kind : ∃ byte, encodeRecordKind record.kind = .ok byte
  group : isAmtForwardableGroup record.group = true
  family : protocolFamily protocol record.group = true
  sources : ∀ source ∈ record.sources,
    record.group.sameFamily source = true ∧ isValidSource source = true

/-- The checks of the builder, as a property of the record. -/
theorem validateBuildRecord_eq_ok_iff {protocol : MembershipProtocol} {record : MembershipRecord} :
    validateBuildRecord protocol record = .ok () ↔
      Sendable protocol record ∧ record.sources.length ≤ u16Max := by
  have hsources : (¬ (record.sources.any fun source =>
      !record.group.sameFamily source || !isValidSource source) = true) ↔
        ∀ source ∈ record.sources,
          record.group.sameFamily source = true ∧ isValidSource source = true := by
    simp
  simp only [validateBuildRecord, bind_eq_ok_iff, ensure_eq_ok_iff, hsources,
    not_lt]
  constructor
  · rintro ⟨byte, hkind, _, hgroup, _, hfamily, _, hcount, hvalid⟩
    exact ⟨⟨⟨byte, hkind⟩, hgroup, hfamily, hvalid⟩, hcount⟩
  · rintro ⟨⟨⟨byte, hkind⟩, hgroup, hfamily, hvalid⟩, hcount⟩
    exact ⟨byte, hkind, (), hgroup, (), hfamily, (), hcount, hvalid⟩

theorem validateBuildRecordLoop_eq_ok_iff {protocol : MembershipProtocol}
    {records : List MembershipRecord} :
    validateBuildRecordLoop protocol records = .ok () ↔
      ∀ record ∈ records, Sendable protocol record ∧ record.sources.length ≤ u16Max := by
  induction records with
  | nil => simp [validateBuildRecordLoop]
  | cons record records ih =>
      rw [validateBuildRecordLoop, bind_eq_ok_iff, List.forall_mem_cons,
        ← validateBuildRecord_eq_ok_iff, ← ih]
      constructor
      · rintro ⟨⟨⟩, hrecord, hrecords⟩
        exact ⟨hrecord, hrecords⟩
      · rintro ⟨hrecord, hrecords⟩
        exact ⟨(), hrecord, hrecords⟩

theorem validateBuildRecords_eq_ok_iff {protocol : MembershipProtocol}
    {records : List MembershipRecord} :
    validateBuildRecords protocol records = .ok () ↔
      records ≠ [] ∧ records.length ≤ u16Max ∧
        ∀ record ∈ records, Sendable protocol record ∧ record.sources.length ≤ u16Max := by
  simp [validateBuildRecords, bind_eq_ok_iff, validateBuildRecordLoop_eq_ok_iff]

/-! ### No builder panics -/

theorem encodeRecordKind_ne_panic (kind : MembershipRecordKind) :
    encodeRecordKind kind ≠ .panic := by
  cases kind <;> rintro ⟨⟩

theorem validateBuildRecord_ne_panic (protocol : MembershipProtocol) (record : MembershipRecord) :
    validateBuildRecord protocol record ≠ .panic := by
  refine bind_ne_panic (encodeRecordKind_ne_panic _) fun _ _ => ?_
  refine bind_ne_panic ensure_ne_panic fun _ _ => ?_
  refine bind_ne_panic ensure_ne_panic fun _ _ => ?_
  exact bind_ne_panic ensure_ne_panic fun _ _ => ensure_ne_panic

theorem validateBuildRecords_ne_panic (protocol : MembershipProtocol)
    (records : List MembershipRecord) : validateBuildRecords protocol records ≠ .panic := by
  have hloop : validateBuildRecordLoop protocol records ≠ .panic := by
    induction records with
    | nil => rintro ⟨⟩
    | cons record records ih =>
        exact bind_ne_panic (validateBuildRecord_ne_panic protocol record) fun _ _ => ih
  refine bind_ne_panic ensure_ne_panic fun _ _ => ?_
  exact bind_ne_panic ensure_ne_panic fun _ _ => hloop

theorem encodedRecordsLen_ne_panic (format : RecordFormat) (records : List MembershipRecord) :
    ∀ len : ℕ, encodedRecordsLen format records len ≠ .panic := by
  induction records with
  | nil => rintro len ⟨⟩
  | cons record records ih =>
      intro len
      refine bind_ne_panic ?_ fun _ _ => ?_
      · refine bind_ne_panic ensure_ne_panic fun _ _ => ?_
        exact bind_ne_panic ensure_ne_panic fun _ _ => by rintro ⟨⟩
      · exact bind_ne_panic ensure_ne_panic fun _ _ => ih _

/-! ### The length -/

theorem recordLen_le_recordsLen {format : RecordFormat} {record : MembershipRecord}
    {records : List MembershipRecord} (h : record ∈ records) :
    format.recordLen record ≤ format.recordsLen records :=
  List.single_le_sum (by simp) _ (List.mem_map_of_mem h)

/-- Records that fit a length field are few, with few sources. -/
theorem RecordFormat.counts_of_le {format : RecordFormat} (haddress : 0 < format.addressLen)
    {records : List MembershipRecord} {bound : ℕ} (h : format.recordsLen records ≤ bound) :
    records.length ≤ bound ∧ ∀ record ∈ records, record.sources.length ≤ bound := by
  constructor
  · have hheader : records.length * 1 ≤ records.length * format.recordHeaderLen :=
      Nat.mul_le_mul_left _ (by rw [RecordFormat.recordHeaderLen]; omega)
    have := format.length_le_recordsLen records
    omega
  · intro record hrecord
    have hone : format.recordLen record ≤ format.recordsLen records :=
      recordLen_le_recordsLen hrecord
    have hsources : record.sources.length * 1 ≤ record.sources.length * format.addressLen :=
      Nat.mul_le_mul_left _ haddress
    rw [RecordFormat.recordLen] at hone
    omega

/-! ### The builders -/

theorem MembershipProtocol.addressLen_pos (protocol : MembershipProtocol) :
    0 < protocol.format.addressLen := by
  cases protocol <;> decide

/-- **When a report is built.** -/
theorem buildMembershipReport_isOk_iff (report : MembershipReport) :
    (∃ packet, buildMembershipReport report = .ok packet) ↔
      report.records ≠ [] ∧ (∀ record ∈ report.records, Sendable report.protocol record) ∧
        report.protocol.overhead + (8 + report.protocol.format.recordsLen report.records)
          ≤ u16Max := by
  constructor
  · rintro ⟨packet, hbuild⟩
    have hchecks : validateBuildRecords report.protocol report.records = .ok () ∧
        report.protocol.overhead + (8 + report.protocol.format.recordsLen report.records)
          ≤ u16Max := by
      obtain ⟨protocol, records⟩ := report
      cases protocol with
      | igmpv3 =>
          obtain ⟨⟨⟩, hvalid, -⟩ := bind_eq_ok_iff.mp hbuild
          exact ⟨hvalid, (buildIgmpv3MembershipReport_eq hbuild).2.length⟩
      | mldv2 =>
          obtain ⟨⟨⟩, hvalid, -⟩ := bind_eq_ok_iff.mp hbuild
          exact ⟨hvalid, (buildMldv2MembershipReport_eq hbuild).2.length⟩
    obtain ⟨hvalid, hlen⟩ := hchecks
    obtain ⟨hne, -, hrecords⟩ := validateBuildRecords_eq_ok_iff.mp hvalid
    exact ⟨hne, fun record hrecord => (hrecords record hrecord).1, hlen⟩
  · rintro ⟨hne, hsendable, hlen⟩
    have hfits : report.protocol.format.recordsLen report.records ≤ u16Max := by omega
    obtain ⟨hcount, hcounts⟩ :=
      RecordFormat.counts_of_le report.protocol.addressLen_pos hfits
    have hvalid : validateBuildRecords report.protocol report.records = .ok () :=
      validateBuildRecords_eq_ok_iff.mpr
        ⟨hne, hcount, fun record hrecord => ⟨hsendable record hrecord, hcounts record hrecord⟩⟩
    obtain ⟨protocol, records⟩ := report
    cases protocol with
    | igmpv3 => exact ⟨_, buildIgmpv3MembershipReport_of hvalid hlen⟩
    | mldv2 => exact ⟨_, buildMldv2MembershipReport_of hvalid hlen⟩

/-- A builder does not panic if it does not once its checks have passed. -/
theorem checks_ne_panic {protocol : MembershipProtocol} {overhead : ℕ}
    {records : List MembershipRecord} {error : ℕ → MembershipBuildError}
    {body : ℕ → Outcome MembershipBuildError Bytes} {build : Outcome MembershipBuildError Bytes}
    (hbuild : build = do
      validateBuildRecords protocol records
      let recordsLen ← encodedRecordsLen protocol.format records 0
      ensure (¬ overhead + (8 + recordsLen) > u16Max) (error recordsLen)
      body recordsLen)
    (hpassed : validateBuildRecords protocol records = .ok () →
      overhead + (8 + protocol.format.recordsLen records) ≤ u16Max → build ≠ .panic) :
    build ≠ .panic := by
  rw [hbuild]
  refine bind_ne_panic (validateBuildRecords_ne_panic _ _) fun _ hvalid => ?_
  refine bind_ne_panic (encodedRecordsLen_ne_panic _ _ _) fun recordsLen hlen => ?_
  refine bind_ne_panic ensure_ne_panic fun _ hfits => ?_
  obtain rfl : recordsLen = protocol.format.recordsLen records := by
    rw [encodedRecordsLen_eq hlen, Nat.zero_add]
  have hfits := not_lt.mp (ensure_eq_ok_iff.mp hfits)
  have hpassed := hpassed hvalid hfits
  rw [hbuild, run_checks hvalid hfits] at hpassed
  exact hpassed

/-- A report that is not built is refused with an error. -/
theorem buildMembershipReport_ne_panic (report : MembershipReport) :
    buildMembershipReport report ≠ .panic := by
  obtain ⟨protocol, records⟩ := report
  cases protocol with
  | igmpv3 =>
      refine checks_ne_panic rfl fun hvalid hlen => ?_
      exact (buildIgmpv3MembershipReport_of hvalid hlen).trans_ne (by simp)
  | mldv2 =>
      refine checks_ne_panic rfl fun hvalid hlen => ?_
      exact (buildMldv2MembershipReport_of hvalid hlen).trans_ne (by simp)

/-! ## Accepting -/

/-- The one record of a report of the older protocol versions. -/
def LegacyRecords (records : List MembershipRecord) : Prop :=
  ∃ kind group, (kind = .legacyReport ∨ kind = .legacyLeave) ∧ records = [legacyRecord kind group]

/-- **What an accepted report looks like.** -/
structure MembershipReport.Accepted (limits : MembershipParseLimits) (report : MembershipReport) :
    Prop where
  within : limits.Admits report.records ∨ LegacyRecords report.records
  family : ∀ record ∈ report.records, protocolFamily report.protocol record.group = true
  sources : ∀ record ∈ report.records, ∀ source ∈ record.sources,
    record.group.sameFamily source = true ∧ isValidSource source = true

theorem validateRecords_ensures {records : List MembershipRecord}
    (h : validateRecords records = .ok ()) :
    ∀ record ∈ records, ∀ source ∈ record.sources,
      record.group.sameFamily source = true ∧ isValidSource source = true := by
  induction records with
  | nil => simp
  | cons record records ih =>
      obtain ⟨⟨⟩, hrecord, hrecords⟩ := bind_eq_ok_iff.mp h
      exact List.forall_mem_cons.mpr ⟨(validateRecord_eq_ok_iff.mp hrecord).2, ih hrecords⟩

/-- What is known of the records before they are validated. -/
def ParsedRecords (protocol : MembershipProtocol) (limits : MembershipParseLimits)
    (records : List MembershipRecord) : Prop :=
  (limits.Admits records ∨ LegacyRecords records) ∧
    ∀ record ∈ records, protocolFamily protocol record.group = true

theorem parsedRecords_legacy {protocol : MembershipProtocol} {limits : MembershipParseLimits}
    {kind : MembershipRecordKind} {group : IpAddr}
    (hkind : kind = .legacyReport ∨ kind = .legacyLeave)
    (hgroup : protocolFamily protocol group = true) :
    ParsedRecords protocol limits [legacyRecord kind group] :=
  ⟨.inr ⟨kind, group, hkind, rfl⟩, by simpa [legacyRecord] using hgroup⟩

theorem RecordsMessage.parsedRecords {protocol : MembershipProtocol}
    {limits : MembershipParseLimits} {records : List MembershipRecord} {message : Bytes}
    (h : RecordsMessage protocol limits records message) : ParsedRecords protocol limits records :=
  ⟨.inl h.within, fun record hrecord => (h.family record hrecord).1⟩

theorem parseIgmpRecords_ensures (igmp : Bytes) (destination : Ipv4Addr)
    (limits : MembershipParseLimits) :
    Ensures (parseIgmpRecords igmp destination limits) (ParsedRecords .igmpv3 limits) := by
  refine .bind_right fun kind => ?_
  split
  · refine .bind_right fun _ => .bind_right fun _ => .bind_right fun _ => .ok ?_
    exact parsedRecords_legacy (.inl rfl) rfl
  · refine .bind_right fun _ => .bind_right fun _ => .bind_right fun _ => .ok ?_
    exact parsedRecords_legacy (.inr rfl) rfl
  · refine .bind_right fun _ records hrecords => ?_
    exact ((parseFormatRecords_eq_ok_iff .igmpv3).mp hrecords).parsedRecords
  · exact .err

theorem parseMldRecords_ensures (icmp : Bytes) (destination : Ipv6Addr)
    (limits : MembershipParseLimits) :
    Ensures (parseMldRecords icmp destination limits) (ParsedRecords .mldv2 limits) := by
  refine .bind_right fun kind => ?_
  split
  · refine .bind_right fun _ => .bind_right fun _ => .bind_right fun _ => .ok ?_
    exact parsedRecords_legacy (.inl rfl) rfl
  · refine .bind_right fun _ => .bind_right fun _ => .bind_right fun _ => .ok ?_
    exact parsedRecords_legacy (.inr rfl) rfl
  · refine .bind_right fun _ records hrecords => ?_
    exact ((parseFormatRecords_eq_ok_iff .mldv2).mp hrecords).parsedRecords
  · exact .err

/-- The end of both parsers: the records are validated. -/
theorem accepted_of_parsedRecords {protocol : MembershipProtocol} {limits : MembershipParseLimits}
    {records : List MembershipRecord} (h : ParsedRecords protocol limits records) :
    Ensures (validateRecords records >>= fun _ => pure { protocol, records })
      (MembershipReport.Accepted limits) := by
  intro report hreport
  obtain ⟨⟨⟩, hvalid, hpure⟩ := bind_eq_ok_iff.mp hreport
  cases hpure
  exact ⟨h.1, h.2, validateRecords_ensures hvalid⟩

/-- **Whatever a parser returns is well formed and within its limits.** -/
theorem parse_accepted (packet : Bytes) (limits : MembershipParseLimits) :
    Ensures (parseMembershipReportWithLimits packet limits)
      (MembershipReport.Accepted limits) := by
  unfold parseMembershipReportWithLimits
  cases packet.head? with
  | none => exact .err
  | some first =>
      simp only
      split
      · unfold parseIpv4MembershipReport
        iterate 14 refine .bind_right fun _ => ?_
        -- whether there are options to look for a Router Alert in
        dsimp only
        split
        all_goals
          repeat first
            | exact (parseIgmpRecords_ensures _ _ _).bind fun _ h => accepted_of_parsedRecords h
            | refine .bind_right fun _ => ?_
      · unfold parseIpv6MembershipReport
        repeat first
          | exact (parseMldRecords_ensures _ _ _).bind fun _ h => accepted_of_parsedRecords h
          | refine .bind_right fun _ => ?_
      · exact .err

/-- **When a datagram that was built is accepted.** -/
theorem parse_build_isOk_iff {report : MembershipReport} {packet : Bytes}
    {limits : MembershipParseLimits} (hbuild : buildMembershipReport report = .ok packet) :
    (∃ parsed, parseMembershipReportWithLimits packet limits = .ok parsed) ↔
      limits.Admits report.records := by
  constructor
  · rintro ⟨parsed, hparse⟩
    obtain rfl := eq_of_parse_buildMembershipReport hbuild hparse
    rcases (parse_accepted packet limits parsed hparse).within with hadmits | hlegacy
    · exact hadmits
    · -- a legacy record has no type on the wire
      obtain ⟨kind, group, hkind, hrecords⟩ := hlegacy
      obtain ⟨-, hsendable, -⟩ := (buildMembershipReport_isOk_iff parsed).mp ⟨packet, hbuild⟩
      obtain ⟨byte, hbyte⟩ := (hsendable (legacyRecord kind group) (by simp [hrecords])).kind
      rcases hkind with rfl | rfl <;> cases hbyte
  · intro hadmits
    have hparse := parse_buildMembershipReport hbuild hadmits []
    rw [List.append_nil] at hparse
    exact ⟨report, hparse⟩

end Amt

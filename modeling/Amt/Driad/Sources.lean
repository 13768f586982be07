import Amt.DesiredMembership.Exact

/-!
# The desired report, source by source

A gateway that finds its relays through DNS has one tunnel for each source, so the desired
report has to be taken apart: `desired_driad_reports` gives every source a report of its own,
with one record for each of its groups, and counts the records it cannot serve, which are
those of groups outside the source-specific range and those that **exclude** sources.

* **The partition loses nothing and repeats nothing.**  The pairs of a source and a group in
  the Include records of the range (`sourcePairs`) are distinct, and each is in the report of
  its source once (`count_reportedPairs`).
* **It comes after the merge.**  A record of the desired report is the union of what all the
  joins and all the local hosts ask for in its group, so one any-source request turns it into
  an Exclude record, and the pairs of everybody else go with it
  (`desiredDriadReports_carries_iff`).
-/

namespace Amt

open LocalMembershipManager (Op)

/-! ## The partition -/

/-- `232.0.0.0/8` and `ff3x::/16`. -/
def isSsmMulticastGroup : IpAddr → Bool
  | .v4 group => group.octets.toList.head? == some 232
  | .v6 group => group.segment0 &&& 0xfff0 == 0xff30

/-- A record that a source tunnel can serve. -/
def isSourceSpecific (record : MembershipRecord) : Bool :=
  record.kind = .modeIsInclude && isSsmMulticastGroup record.group

/-- The record of one group in the report of one source. -/
def sourceRecord (source group : IpAddr) : MembershipRecord where
  kind := .modeIsInclude
  group := group
  sources := [source]

/-- One iteration of the loop over the desired records: the records by source, and the number
of those that are not supported. -/
def addDriadRecord (collected : BTreeMap IpAddr (List MembershipRecord) × ℕ)
    (record : MembershipRecord) : BTreeMap IpAddr (List MembershipRecord) × ℕ :=
  if isSourceSpecific record then
    (record.sources.foldl (fun records source =>
        BTreeMap.upsert records source [] (· ++ [sourceRecord source record.group]))
      collected.1, collected.2)
  else (collected.1, collected.2 + 1)

/-- A report for each source, and the number of records that name none. -/
def desiredDriadReports (protocol : MembershipProtocol) (joins : List GatewayJoin)
    (manager : Option LocalMembershipManager) : BTreeMap IpAddr MembershipReport × ℕ :=
  let collected :=
    (desiredMembershipReport protocol joins manager).records.foldl addDriadRecord (∅, 0)
  (collected.1.map fun _ records => { protocol, records }, collected.2)

/-! ### The pairs -/

/-- The pairs of a source and a group in the records that can be served. -/
def sourcePairs (records : List MembershipRecord) : List (IpAddr × IpAddr) :=
  (records.filter isSourceSpecific).flatMap fun record =>
    record.sources.map fun source => (source, record.group)

theorem mem_sourcePairs {records : List MembershipRecord} {source group : IpAddr} :
    (source, group) ∈ sourcePairs records ↔
      isSsmMulticastGroup group = true ∧ ∃ record ∈ records,
        record.kind = .modeIsInclude ∧ record.group = group ∧ source ∈ record.sources := by
  simp only [sourcePairs, isSourceSpecific, List.mem_flatMap, List.mem_filter, List.mem_map,
    Bool.and_eq_true, decide_eq_true_eq, Prod.mk.injEq]
  constructor
  · rintro ⟨record, ⟨hrecord, hkind, hssm⟩, source, hsource, rfl, rfl⟩
    exact ⟨hssm, record, hrecord, hkind, rfl, hsource⟩
  · rintro ⟨hssm, record, hrecord, hkind, rfl, hsource⟩
    exact ⟨record, ⟨hrecord, hkind, hssm⟩, source, hsource, rfl, rfl⟩

/-- The two nested loops are one loop over the pairs. -/
theorem foldl_addDriadRecord (records : List MembershipRecord)
    (collected : BTreeMap IpAddr (List MembershipRecord) × ℕ) :
    (records.foldl addDriadRecord collected).1
      = (sourcePairs records).foldl (fun records pair =>
          BTreeMap.upsert records pair.1 [] (· ++ [sourceRecord pair.1 pair.2])) collected.1 := by
  induction records generalizing collected with
  | nil => rfl
  | cons record records ih =>
      rw [List.foldl_cons, ih, addDriadRecord]
      cases hspecific : isSourceSpecific record with
      | true =>
          rw [if_pos rfl, sourcePairs, sourcePairs, List.filter_cons_of_pos hspecific,
            List.flatMap_cons, List.foldl_append, List.foldl_map]
      | false =>
          rw [if_neg Bool.false_ne_true, sourcePairs, sourcePairs,
            List.filter_cons_of_neg (Bool.eq_false_iff.mp hspecific)]

section Reports

variable {protocol : MembershipProtocol} {joins : List GatewayJoin}
  {manager : Option LocalMembershipManager}

/-- The pairs of one source. -/
def ownPairs (protocol : MembershipProtocol) (joins : List GatewayJoin)
    (manager : Option LocalMembershipManager) (source : IpAddr) : List (IpAddr × IpAddr) :=
  (sourcePairs (desiredMembershipReport protocol joins manager).records).filter
    fun pair => pair.1 = source

/-- **The report of a source** is made of its own pairs, in the order of the groups, and there
is one if there is a pair. -/
theorem getElem?_desiredDriadReports (source : IpAddr) :
    (desiredDriadReports protocol joins manager).1[source]? =
      if (ownPairs protocol joins manager source).isEmpty then none
      else some
        { protocol
          records := (ownPairs protocol joins manager source).map
            fun pair => sourceRecord pair.1 pair.2 } := by
  have hcollect : ∀ (pairs : List (IpAddr × IpAddr)) (records : List MembershipRecord),
      pairs.foldl (fun records pair => records ++ [sourceRecord pair.1 pair.2]) records
        = records ++ pairs.map fun pair => sourceRecord pair.1 pair.2 := by
    intro pairs
    induction pairs with
    | nil => intro records; simp
    | cons pair pairs ih => intro records; simp [ih]
  rw [desiredDriadReports, Std.ExtTreeMap.getElem?_map, foldl_addDriadRecord,
    BTreeMap.getElem?_foldl_upsert, Std.ExtTreeMap.getElem?_empty, Option.getD_none, hcollect,
    List.nil_append]
  show Option.map _ (if (ownPairs protocol joins manager source).isEmpty then none
    else some ((ownPairs protocol joins manager source).map _)) = _
  split
  · rfl
  · rfl

theorem getElem?_desiredDriadReports_eq_some {source : IpAddr} {report : MembershipReport}
    (h : (desiredDriadReports protocol joins manager).1[source]? = some report) :
    report.records = (ownPairs protocol joins manager source).map
      fun pair => sourceRecord pair.1 pair.2 := by
  rw [getElem?_desiredDriadReports] at h
  split at h
  · cases h
  · exact (Option.some.inj h) ▸ rfl

/-! ### Each pair once -/

/-- The groups of the desired report differ, and so do the sources of each record. -/
theorem nodup_sourcePairs_desired (protocol : MembershipProtocol) (joins : List GatewayJoin)
    (manager : Option LocalMembershipManager) :
    (sourcePairs (desiredMembershipReport protocol joins manager).records).Nodup := by
  have hgroups : (desiredMembershipReport protocol joins manager).records.Pairwise
      fun record record' => record.group ≠ record'.group := by
    rw [← List.pairwise_map, desiredMembershipReport, groups_map_toList _ fun _ _ => rfl]
    exact BTreeMap.keys_nodup _
  refine List.nodup_flatMap.mpr ⟨fun record hrecord => ?_, (hgroups.filter _).imp ?_⟩
  · obtain ⟨entry, -, rfl⟩ := List.mem_map.mp (List.mem_filter.mp hrecord).1
    exact (BTreeSet.toList_nodup _).map fun source source' heq => congrArg Prod.fst heq
  · intro record record' hne pair hpair hpair'
    obtain ⟨source, -, rfl⟩ := List.mem_map.mp hpair
    obtain ⟨source', -, heq⟩ := List.mem_map.mp hpair'
    exact hne (congrArg Prod.snd heq).symm

/-- The pairs that a table of reports carries. -/
def reportedPairs (reports : BTreeMap IpAddr MembershipReport) : List (IpAddr × IpAddr) :=
  reports.toList.flatMap fun entry => entry.2.records.flatMap fun record =>
    record.sources.map fun source => (source, record.group)

theorem reportedPairs_desired :
    reportedPairs (desiredDriadReports protocol joins manager).1
      = (desiredDriadReports protocol joins manager).1.keys.flatMap
          (ownPairs protocol joins manager) := by
  rw [reportedPairs, ← Std.ExtTreeMap.map_fst_toList_eq_keys, List.flatMap_map]
  refine List.flatMap_congr fun entry hentry => ?_
  rw [getElem?_desiredDriadReports_eq_some (BTreeMap.mem_toList_iff.mp hentry), List.flatMap_map]
  exact List.flatMap_singleton' _

theorem mem_ownPairs {source : IpAddr} {pair : IpAddr × IpAddr} :
    pair ∈ ownPairs protocol joins manager source ↔
      pair ∈ sourcePairs (desiredMembershipReport protocol joins manager).records ∧
        pair.1 = source := by
  rw [ownPairs, List.mem_filter, decide_eq_true_eq]

/-- A source has a report if some record can be served for it. -/
theorem mem_keys_desiredDriadReports {source : IpAddr} :
    source ∈ (desiredDriadReports protocol joins manager).1.keys ↔
      ∃ group, (source, group) ∈
        sourcePairs (desiredMembershipReport protocol joins manager).records := by
  rw [BTreeMap.mem_keys_iff_exists]
  simp only [getElem?_desiredDriadReports]
  constructor
  · rintro ⟨report, hreport⟩
    split at hreport
    · cases hreport
    · next hsome =>
        rw [List.isEmpty_iff] at hsome
        obtain ⟨⟨source', group⟩, hpair⟩ := List.exists_mem_of_ne_nil _ hsome
        obtain ⟨hmem, rfl⟩ := mem_ownPairs.mp hpair
        exact ⟨group, hmem⟩
  · rintro ⟨group, hpair⟩
    have hown : (source, group) ∈ ownPairs protocol joins manager source :=
      mem_ownPairs.mpr ⟨hpair, rfl⟩
    rw [if_neg (by rw [List.isEmpty_iff]; exact List.ne_nil_of_mem hown)]
    exact ⟨_, rfl⟩

theorem mem_reportedPairs_desired {source group : IpAddr} :
    (source, group) ∈ reportedPairs (desiredDriadReports protocol joins manager).1 ↔
      (source, group) ∈
        sourcePairs (desiredMembershipReport protocol joins manager).records := by
  rw [reportedPairs_desired, List.mem_flatMap]
  constructor
  · rintro ⟨source', -, hpair⟩
    exact (mem_ownPairs.mp hpair).1
  · intro hpair
    exact ⟨source, mem_keys_desiredDriadReports.mpr ⟨group, hpair⟩,
      mem_ownPairs.mpr ⟨hpair, rfl⟩⟩

/-- **The reports carry each pair once.** -/
theorem count_reportedPairs (source group : IpAddr) :
    (reportedPairs (desiredDriadReports protocol joins manager).1).count (source, group)
      = if (source, group) ∈
          sourcePairs (desiredMembershipReport protocol joins manager).records then 1 else 0 := by
  have hnodup : (reportedPairs (desiredDriadReports protocol joins manager).1).Nodup := by
    rw [reportedPairs_desired]
    refine List.nodup_flatMap.mpr ⟨fun source _ =>
      (nodup_sourcePairs_desired protocol joins manager).filter _,
      (BTreeMap.keys_nodup _).imp ?_⟩
    intro source source' hne pair hpair hpair'
    exact hne ((mem_ownPairs.mp hpair).2.symm.trans (mem_ownPairs.mp hpair').2)
  rw [hnodup.count]
  exact if_congr mem_reportedPairs_desired rfl rfl

/-- The report of a source has records of that source only. -/
theorem sources_of_mem_report {source : IpAddr} {report : MembershipReport}
    (h : (desiredDriadReports protocol joins manager).1[source]? = some report)
    {record : MembershipRecord} (hrecord : record ∈ report.records) :
    record.kind = .modeIsInclude ∧ record.sources = [source] := by
  rw [getElem?_desiredDriadReports_eq_some h] at hrecord
  obtain ⟨pair, hpair, rfl⟩ := List.mem_map.mp hrecord
  refine ⟨rfl, ?_⟩
  rw [← (mem_ownPairs.mp hpair).2]
  rfl

/-! ## What the reports carry -/

/-- The report of the source asks for it in the group. -/
def carriesPair (reports : BTreeMap IpAddr MembershipReport) (source group : IpAddr) : Bool :=
  reports[source]?.any fun report => report.records.any fun record =>
    record.group = group && record.sources.contains source

theorem carriesPair_desired_iff {source group : IpAddr} :
    carriesPair (desiredDriadReports protocol joins manager).1 source group = true ↔
      (source, group) ∈
        sourcePairs (desiredMembershipReport protocol joins manager).records := by
  simp only [carriesPair, Option.any_eq_true, List.any_eq_true, Bool.and_eq_true,
    decide_eq_true_eq, List.contains_iff_mem]
  constructor
  · rintro ⟨report, hreport, record, hrecord, rfl, -⟩
    rw [getElem?_desiredDriadReports_eq_some hreport] at hrecord
    obtain ⟨pair, hpair, rfl⟩ := List.mem_map.mp hrecord
    obtain ⟨hmem, rfl⟩ := mem_ownPairs.mp hpair
    exact hmem
  · intro hpair
    obtain ⟨report, hreport⟩ := BTreeMap.mem_keys_iff_exists.mp
      (mem_keys_desiredDriadReports.mpr ⟨group, hpair⟩)
    refine ⟨report, hreport, sourceRecord source group, ?_, rfl, List.mem_singleton.mpr rfl⟩
    rw [getElem?_desiredDriadReports_eq_some hreport]
    exact List.mem_map.mpr ⟨(source, group), mem_ownPairs.mpr ⟨hpair, rfl⟩, rfl⟩

/-- The pairs come from the groups whose merged filter includes. -/
theorem mem_sourcePairs_desired_iff {source group : IpAddr} :
    (source, group) ∈ sourcePairs (desiredMembershipReport protocol joins manager).records ↔
      isSsmMulticastGroup group = true ∧
        ∃ merged, (desiredState protocol joins manager).aggregate[group]? = some merged ∧
          merged.mode = .Include ∧ merged.wantsSource source = true := by
  rw [mem_sourcePairs]
  refine and_congr_right fun _ => ?_
  simp only [desiredMembershipReport, RelayState.aggregateInterests, List.mem_map]
  constructor
  · rintro ⟨_, ⟨⟨group, merged⟩, hentry, rfl⟩, hkind, rfl, hsource⟩
    have hmode : merged.mode = .Include := by
      cases hmode : merged.mode with
      | Include => rfl
      | Exclude => simp [desiredRecord, hmode] at hkind
    refine ⟨merged, BTreeMap.mem_toList_iff.mp hentry, hmode, ?_⟩
    simpa [GroupInterest.wantsSource_iff, hmode] using Std.ExtTreeSet.mem_toList.mp hsource
  · rintro ⟨merged, hmerged, hmode, hwants⟩
    refine ⟨_, ⟨(group, merged), BTreeMap.mem_toList_iff.mpr hmerged, rfl⟩, ?_, rfl, ?_⟩
    · simp [desiredRecord, hmode]
    · refine Std.ExtTreeSet.mem_toList.mpr ?_
      simpa [GroupInterest.wantsSource_iff, hmode] using hwants

end Reports

/-! ### Through the merge -/

section Merge

variable {E : Type*} (config : LocalMembershipConfig) (joins : List GatewayJoin)
  (runs : Option (List (Op E)))

/-- Somebody asks for any source of the group, or for all but some. -/
def AnySourceAsked (group : IpAddr) : Prop :=
  (∃ join ∈ joins, join.group = group ∧ join.source = none) ∨
    isAmtExportableGroup group = true ∧ ∃ m ∈ localManager config runs, ∃ reporter interest,
      m.state.endpointInterest reporter group = some interest ∧ interest.mode = .Exclude

/-- Somebody asks for the source. -/
def SourceAsked (source group : IpAddr) : Prop :=
  (∃ join ∈ joins, join.Wants source group) ∨
    isAmtExportableGroup group = true ∧ ∃ m ∈ localManager config runs, ∃ reporter interest,
      m.state.endpointInterest reporter group = some interest ∧
        interest.wantsSource source = true

/-- **Which pairs are carried**: those of the range that somebody asks for, in groups of which
**nobody** asks for any source. -/
theorem desiredDriadReports_carries_iff (source group : IpAddr) :
    carriesPair (desiredDriadReports config.protocol joins (localManager config runs)).1
        source group = true ↔
      isSsmMulticastGroup group = true ∧ ¬ AnySourceAsked config joins runs group ∧
        SourceAsked config joins runs source group := by
  rw [carriesPair_desired_iff, mem_sourcePairs_desired_iff, AnySourceAsked, SourceAsked,
    ← exists_aggregate_exclude_iff, ← exists_aggregate_wants_iff]
  refine and_congr_right fun _ => ?_
  constructor
  · rintro ⟨merged, hmerged, hmode, hwants⟩
    refine ⟨?_, merged, hmerged, hwants⟩
    rintro ⟨merged', hmerged', hexclude⟩
    rw [hmerged] at hmerged'
    obtain rfl := Option.some.inj hmerged'
    rw [hmode] at hexclude
    cases hexclude
  · rintro ⟨hnobody, merged, hmerged, hwants⟩
    cases hmode : merged.mode with
    | Include => exact ⟨merged, hmerged, hmode, hwants⟩
    | Exclude => exact absurd ⟨merged, hmerged, hmode⟩ hnobody

end Merge

end Amt

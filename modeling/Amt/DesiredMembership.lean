import Amt.LocalMembership
import Amt.Gateway.Run

/-!
# What a gateway asks its relay for

The desired memberships of a gateway are its configured joins and what its local network
exports.  `desired_membership_report` merges the two as two endpoints of a scratch state
and reports the aggregate, one record per group; `replace_memberships` adds a leave for
every group the gateway had asked for and no longer wants, and sends all of it as **one**
datagram.

Two questions about that datagram are answered here.

* **Can it be built?**  Its records may always be sent, so the only obstacles are its
  length and leaves of another address family (`replaceMemberships_desired_iff`).  The
  limits on local reports bound groups, sources and subscriptions, but not the product of
  groups and excluded sources, which is what the length counts.
* **Does a relay accept it?**  There are never too many records, so it does exactly if no
  merged source list is longer than the relay allows (`parse_desired_isOk_iff`).  The
  limit is checked for each reporter, and again by the relay for the union.
-/

namespace Amt

open LocalMembershipManager (Listable)

/-! ## Configured joins -/

/-- A join of the configuration; no source is any source. -/
structure GatewayJoin where
  group : IpAddr
  source : Option IpAddr
deriving DecidableEq, Repr

namespace GatewayJoin

/-- What `validate_gateway_join` and the check of the protocol ask of a join. -/
structure Valid (protocol : MembershipProtocol) (join : GatewayJoin) : Prop where
  group : isAmtForwardableGroup join.group = true
  family : protocolFamily protocol join.group = true
  source : ∀ source, join.source = some source →
    join.group.sameFamily source = true ∧ isValidSource source = true

end GatewayJoin

/-- One iteration of the loop over the joins: `none` is any source. -/
def addJoin (groups : BTreeMap IpAddr (Option (BTreeSet IpAddr))) (join : GatewayJoin) :
    BTreeMap IpAddr (Option (BTreeSet IpAddr)) :=
  BTreeMap.upsert groups join.group (some ∅) fun interest =>
    match interest, join.source with
    | _, none => none
    | some sources, some source => some (sources.insert source)
    | none, some _ => none

/-- The record of one group of the configured joins. -/
def joinsRecord (group : IpAddr) : Option (BTreeSet IpAddr) → MembershipRecord
  | some sources => { kind := .modeIsInclude, group, sources := sources.toList }
  | none => { kind := .modeIsExclude, group, sources := [] }

/-- One record per group; a join without a source outweighs those with one. -/
def configuredJoinsReport (protocol : MembershipProtocol) (joins : List GatewayJoin) :
    Option MembershipReport :=
  let groups : BTreeMap IpAddr (Option (BTreeSet IpAddr)) := joins.foldl addJoin ∅
  let records := groups.toList.map fun entry => joinsRecord entry.1 entry.2
  if records.isEmpty then none else some { protocol, records }

/-! ## The desired report -/

/-- Where the scratch state keeps the configured joins. -/
def joinsEndpoint : SocketAddr := .new (.v4 .unspecified) 1

/-- Where it keeps what the local hosts want. -/
def localEndpoint : SocketAddr := .new (.v4 .unspecified) 2

/-- Apply a report if there is one. -/
def applyIfSome (state : RelayState) (endpoint : SocketAddr) :
    Option MembershipReport → RelayState
  | some report => (state.applyReport endpoint report).1
  | none => state

/-- The scratch state of `desired_membership_report`. -/
def desiredState (protocol : MembershipProtocol) (joins : List GatewayJoin)
    (manager : Option LocalMembershipManager) : RelayState :=
  applyIfSome (applyIfSome .default joinsEndpoint (configuredJoinsReport protocol joins))
    localEndpoint (manager.bind LocalMembershipManager.currentReport)

/-- The record of a merged filter. -/
def desiredRecord (group : IpAddr) (interest : GroupInterest) : MembershipRecord where
  kind :=
    match interest.mode with
    | .Include => .modeIsInclude
    | .Exclude => .modeIsExclude
  group := group
  sources := interest.sources.toList

/-- The joins and the local hosts, merged as a relay merges two gateways. -/
def desiredMembershipReport (protocol : MembershipProtocol) (joins : List GatewayJoin)
    (manager : Option LocalMembershipManager) : MembershipReport where
  protocol := protocol
  records := (desiredState protocol joins manager).aggregateInterests.toList.map fun entry =>
    desiredRecord entry.1 entry.2

/-! ## What the two parts name -/

/-- A group that may be reported to a relay of the protocol. -/
def Reportable (protocol : MembershipProtocol) (group : IpAddr) : Prop :=
  isAmtForwardableGroup group = true ∧ protocolFamily protocol group = true

instance instDecidableReportable (protocol : MembershipProtocol) (group : IpAddr) :
    Decidable (Reportable protocol group) :=
  inferInstanceAs (Decidable (_ ∧ _))

/-- The records name reportable groups and list sources that may be listed there. -/
structure RecordsReportable (protocol : MembershipProtocol) (records : List MembershipRecord) :
    Prop where
  groups : ∀ record ∈ records, Reportable protocol record.group
  sources : RecordsListed Listable records

/-- What the joins read so far call for. -/
def JoinedGroups (protocol : MembershipProtocol)
    (groups : BTreeMap IpAddr (Option (BTreeSet IpAddr))) : Prop :=
  ∀ (g : IpAddr) (interest : Option (BTreeSet IpAddr)), groups[g]? = some interest →
    Reportable protocol g ∧ ∀ sources ∈ interest, ∀ source ∈ sources, Listable g source

/-- The step of the loop over the joins. -/
theorem JoinedGroups.addJoin {protocol : MembershipProtocol}
    {groups : BTreeMap IpAddr (Option (BTreeSet IpAddr))} (h : JoinedGroups protocol groups)
    {join : GatewayJoin} (hjoin : join.Valid protocol) :
    JoinedGroups protocol (addJoin groups join) := by
  intro g interest hinterest
  rw [Amt.addJoin, BTreeMap.getElem?_upsert] at hinterest
  split at hinterest
  · rename_i hg
    subst hg
    refine ⟨⟨hjoin.group, hjoin.family⟩, fun sources hsources source hsource => ?_⟩
    -- what was listed before, and the join's own source
    have hbefore : ∀ sources ∈ groups[join.group]?.getD (some ∅), ∀ source ∈ sources,
        Listable join.group source := by
      intro sources hsources source hsource
      cases hheld : groups[join.group]? with
      | none =>
          rw [hheld] at hsources
          cases hsources
          simp at hsource
      | some held =>
          rw [hheld] at hsources
          exact (h join.group held hheld).2 sources hsources source hsource
    cases Option.some.inj hinterest
    generalize groups[join.group]?.getD (some ∅) = held at hbefore hsources
    split at hsources
    · cases hsources
    · rename_i _ earlier added hadded
      cases hsources
      rcases BTreeSet.mem_insert_iff.mp hsource with rfl | hmem
      · exact hjoin.source source hadded
      · exact hbefore earlier rfl source hmem
    · cases hsources
  · exact h g interest hinterest

/-- The configured joins can be reported. -/
theorem configuredJoinsReport_reportable {protocol : MembershipProtocol}
    {joins : List GatewayJoin} (hjoins : ∀ join ∈ joins, join.Valid protocol) :
    ∀ report ∈ configuredJoinsReport protocol joins,
      RecordsReportable protocol report.records := by
  have hgroups : JoinedGroups protocol (joins.foldl addJoin ∅) := by
    refine List.foldlRecOn (motive := JoinedGroups protocol) joins addJoin ?_ ?_
    · intro g interest hinterest
      simp at hinterest
    · intro groups hgroups join hjoin
      exact hgroups.addJoin (hjoins join hjoin)
  intro report hreport
  rw [configuredJoinsReport] at hreport
  split at hreport
  · cases hreport
  · cases hreport
    constructor
    · intro record hrecord
      obtain ⟨⟨g, interest⟩, hentry, rfl⟩ := List.mem_map.mp hrecord
      have hg := hgroups g interest (BTreeMap.mem_toList_iff.mp hentry)
      cases interest <;> exact hg.1
    · intro record hrecord source hsource
      obtain ⟨⟨g, interest⟩, hentry, rfl⟩ := List.mem_map.mp hrecord
      have hg := hgroups g interest (BTreeMap.mem_toList_iff.mp hentry)
      cases interest with
      | none => cases hsource
      | some sources =>
          exact hg.2 sources rfl source (Std.ExtTreeSet.mem_toList.mp hsource)

/-- So can what the local hosts want. -/
theorem currentReport_reportable {config : LocalMembershipConfig}
    {manager : LocalMembershipManager} (h : manager.Kept config) :
    ∀ report ∈ manager.currentReport, RecordsReportable config.protocol report.records := by
  intro report hreport
  rw [manager.currentReport_eq] at hreport
  split at hreport
  · cases hreport
  · cases hreport
    have hentry : ∀ entry ∈ manager.currentExportableInterests.toList,
        Reportable config.protocol entry.1 ∧ ∀ source ∈ entry.2.sources,
          Listable entry.1 source := by
      intro entry hmem
      obtain ⟨hmerged, hfamily, hexportable⟩ :=
        (manager.getElem?_currentExportableInterests entry.1 entry.2).mp
          (BTreeMap.mem_toList_iff.mp hmem)
      rw [h.config_eq] at hfamily
      exact ⟨⟨LocalMembershipManager.isAmtForwardableGroup_of_exportable hexportable, hfamily⟩,
        fun source hsource => h.sourced.aggregate h.wellFormed hmerged hsource⟩
    constructor
    · intro record hrecord
      obtain ⟨entry, hmem, rfl⟩ := List.mem_map.mp hrecord
      have := (hentry entry hmem).1
      unfold recordForInterest
      cases entry.2.mode <;> exact this
    · intro record hrecord source hsource
      obtain ⟨entry, hmem, rfl⟩ := List.mem_map.mp hrecord
      have hlisted := (hentry entry hmem).2 source
      unfold recordForInterest at hsource ⊢
      cases hmode : entry.2.mode <;> rw [hmode] at hsource <;>
        exact hlisted (Std.ExtTreeSet.mem_toList.mp hsource)

/-! ## The desired state -/

section Desired

variable {protocol : MembershipProtocol} {joins : List GatewayJoin}
  {manager : Option LocalMembershipManager}

/-- A state that holds reportable groups and listable sources only. -/
structure ReportableState (protocol : MembershipProtocol) (state : RelayState) : Prop where
  wellFormed : state.WellFormed
  grouped : state.Grouped (Reportable protocol)
  sourced : state.Sourced Listable

theorem reportableState_default : ReportableState protocol .default :=
  ⟨RelayState.wellFormed_default, RelayState.grouped_default, RelayState.sourced_default⟩

theorem ReportableState.applyIfSome {state : RelayState} (h : ReportableState protocol state)
    (endpoint : SocketAddr) {report : Option MembershipReport}
    (hreport : ∀ r ∈ report, RecordsReportable protocol r.records) :
    ReportableState protocol (applyIfSome state endpoint report) := by
  cases report with
  | none => exact h
  | some report =>
      have hrecords := hreport report rfl
      exact ⟨h.wellFormed.applyReport endpoint report,
        h.grouped.applyReport hrecords.groups endpoint,
        h.sourced.applyReport hrecords.sources endpoint⟩

theorem reportableState_desiredState (hjoins : ∀ join ∈ joins, join.Valid protocol)
    (hmanager : ∀ m ∈ manager, ∃ config, config.protocol = protocol ∧ m.Kept config) :
    ReportableState protocol (desiredState protocol joins manager) := by
  refine (reportableState_default.applyIfSome joinsEndpoint
    (configuredJoinsReport_reportable hjoins)).applyIfSome localEndpoint ?_
  intro report hreport
  obtain ⟨m, hm, hcurrent⟩ := Option.bind_eq_some_iff.mp hreport
  obtain ⟨config, rfl, hkept⟩ := hmanager m hm
  exact currentReport_reportable hkept report hcurrent

/-- **Every desired record may be sent.** -/
theorem sendable_desired (hjoins : ∀ join ∈ joins, join.Valid protocol)
    (hmanager : ∀ m ∈ manager, ∃ config, config.protocol = protocol ∧ m.Kept config) :
    ∀ record ∈ (desiredMembershipReport protocol joins manager).records,
      Sendable protocol record := by
  have hstate := reportableState_desiredState hjoins hmanager
  intro record hrecord
  obtain ⟨⟨g, merged⟩, hentry, rfl⟩ := List.mem_map.mp hrecord
  have hmerged : (desiredState protocol joins manager).aggregate[g]? = some merged :=
    BTreeMap.mem_toList_iff.mp hentry
  obtain ⟨e, interest, hinterest⟩ :=
    (hstate.wellFormed.aggregate_isSome_iff g).mp ⟨merged, hmerged⟩
  obtain ⟨hgroup, hfamily⟩ := hstate.grouped e g interest hinterest
  refine ⟨?_, hgroup, hfamily, fun source hsource => ?_⟩
  · cases hmode : merged.mode with
    | Include => exact ⟨1, by simp [desiredRecord, hmode, encodeRecordKind]⟩
    | Exclude => exact ⟨2, by simp [desiredRecord, hmode, encodeRecordKind]⟩
  · exact hstate.sourced.aggregate hstate.wellFormed hmerged
      (Std.ExtTreeSet.mem_toList.mp hsource)

end Desired

/-! ## Without configured joins -/

section Local

variable {config : LocalMembershipConfig} {manager : LocalMembershipManager}

/-- **The export, reported to an empty state, is the aggregate of that state.** -/
theorem aggregate_desiredState_local (h : manager.Kept config) (protocol : MembershipProtocol) :
    (desiredState protocol [] (some manager)).aggregate = manager.currentExportableInterests := by
  show (applyIfSome .default localEndpoint manager.currentReport).aggregate = _
  refine Std.ExtTreeMap.ext_getElem? fun g => ?_
  rw [manager.currentReport_eq]
  split
  · rename_i hempty
    have hnone : manager.currentExportableInterests[g]? = none := by
      cases hheld : manager.currentExportableInterests[g]? with
      | none => rfl
      | some interest =>
          have := BTreeMap.mem_toList_iff.mpr hheld
          simp [List.isEmpty_iff.mp hempty] at this
    rw [hnone]
    simp [applyIfSome, RelayState.default]
  · generalize hreport : (MembershipReport.mk manager.config.protocol
      (manager.currentExportableInterests.toList.map fun entry =>
        recordForInterest entry.1 entry.2 .state)) = report
    have hsingle : ∀ e g, e ≠ localEndpoint →
        (RelayState.default.applyReport localEndpoint report).1.endpointInterest e g = none := by
      intro e g he
      rw [RelayState.endpointInterest_applyReport, if_neg (Ne.symm he)]
      simp [RelayState.default, RelayState.endpointInterest]
    show (RelayState.default.applyReport localEndpoint report).1.aggregate[g]? = _
    have hwf := RelayState.wellFormed_default.applyReport localEndpoint report
    rw [hwf.aggregate_of_single hsingle, RelayState.endpointInterest_applyReport, if_pos rfl,
      ← hreport, foldl_effect_toList _ fun g interest => recordForInterest_group g interest _]
    cases hheld : manager.currentExportableInterests[g]? with
    | none => simp [RelayState.default, RelayState.endpointInterest]
    | some interest =>
        have hcanonical := h.wellFormed.canonical_aggregate
          ((manager.getElem?_currentExportableInterests g interest).mp hheld).1
        exact effect_recordForInterest g hcanonical .state _

theorem records_desired_local (h : manager.Kept config) (protocol : MembershipProtocol) :
    (desiredMembershipReport protocol [] (some manager)).records =
      manager.currentExportableInterests.toList.map fun entry =>
        desiredRecord entry.1 entry.2 := by
  rw [desiredMembershipReport, RelayState.aggregateInterests, aggregate_desiredState_local h]

theorem recordsLen_desired_local (h : manager.Kept config) (protocol : MembershipProtocol)
    (format : RecordFormat) :
    format.recordsLen (desiredMembershipReport protocol [] (some manager)).records =
      (manager.currentExportableInterests.toList.map fun entry =>
        format.recordHeaderLen + entry.2.sources.size * format.addressLen).sum := by
  rw [records_desired_local h, RecordFormat.recordsLen, List.map_map]
  congr 1
  refine List.map_congr_left fun entry _ => ?_
  rw [Function.comp_apply, RecordFormat.recordLen, desiredRecord, Std.ExtTreeSet.length_toList]

end Local

/-! ## Can it be built? -/

namespace Gateway

variable {gateway : Gateway}

/-- A replacement fails to be built exactly if its report is not empty and is refused by the
builder. -/
theorem replaceMemberships_builds_iff {relay : SocketAddr} {session : GatewaySession}
    (hrelay : gateway.relayEndpoint = some relay) (hsession : gateway.session = some session)
    (report : MembershipReport) :
    (∀ error, (gateway.replaceMemberships report).2 ≠ .err (.membershipBuild error)) ↔
      (gateway.replacementReport report).records = [] ∨
        ∃ packet, buildMembershipReport (gateway.replacementReport report) = .ok packet := by
  unfold replaceMemberships
  dsimp only
  split
  · rename_i hempty
    refine iff_of_true (fun error => ?_) (.inl (List.isEmpty_iff.mp hempty))
    rintro ⟨⟩
  · rename_i hnonempty
    rw [membershipUpdate, hrelay, hsession]
    dsimp only
    cases hbuild : buildMembershipReport (gateway.replacementReport report) with
    | panic => exact absurd hbuild (buildMembershipReport_ne_panic _)
    | err error =>
        refine iff_of_false (fun hall => hall error rfl) ?_
        rintro (hempty | ⟨packet, hpacket⟩)
        · exact hnonempty (List.isEmpty_iff.mpr hempty)
        · cases hpacket
    | ok packet =>
        refine iff_of_true (fun error => ?_) (.inr ⟨packet, rfl⟩)
        rintro ⟨⟩

theorem recordsLen_le_replacementReport (gateway : Gateway) (report : MembershipReport)
    (format : RecordFormat) :
    format.recordsLen report.records
      ≤ format.recordsLen (gateway.replacementReport report).records := by
  show _ ≤ format.recordsLen (report.records ++ gateway.missingLeaves report)
  rw [RecordFormat.recordsLen, RecordFormat.recordsLen, List.map_append, List.sum_append]
  exact Nat.le_add_right _ _

theorem mem_missingLeaves_sendable_iff {protocol : MembershipProtocol} {report : MembershipReport}
    {record : MembershipRecord} (hrecord : record ∈ gateway.missingLeaves report) :
    Sendable protocol record ↔ Reportable protocol record.group := by
  obtain ⟨g, -, rfl⟩ := List.mem_map.mp hrecord
  constructor
  · intro h
    exact ⟨h.group, h.family⟩
  · rintro ⟨hgroup, hfamily⟩
    exact ⟨⟨3, rfl⟩, hgroup, hfamily, by simp⟩

/-- **When a replacement by sendable records is built**: its leaves are of the protocol's
family, and it fits the length field. -/
theorem replaceMemberships_sendable_iff {relay : SocketAddr} {session : GatewaySession}
    (hrelay : gateway.relayEndpoint = some relay) (hsession : gateway.session = some session)
    {report : MembershipReport}
    (hsendable : ∀ record ∈ report.records, Sendable report.protocol record) :
    (∀ error, (gateway.replaceMemberships report).2 ≠ .err (.membershipBuild error)) ↔
      (∀ record ∈ gateway.missingLeaves report, Reportable report.protocol record.group) ∧
        report.protocol.overhead +
          (8 + report.protocol.format.recordsLen (gateway.replacementReport report).records)
            ≤ u16Max := by
  have hall : (∀ record ∈ (gateway.replacementReport report).records,
      Sendable report.protocol record) ↔
        ∀ record ∈ gateway.missingLeaves report, Reportable report.protocol record.group := by
    show (∀ record ∈ report.records ++ gateway.missingLeaves report, _) ↔ _
    rw [List.forall_mem_append]
    constructor
    · rintro ⟨-, hleaves⟩ record hrecord
      exact (mem_missingLeaves_sendable_iff hrecord).mp (hleaves record hrecord)
    · intro hleaves
      exact ⟨hsendable, fun record hrecord =>
        (mem_missingLeaves_sendable_iff hrecord).mpr (hleaves record hrecord)⟩
  rw [replaceMemberships_builds_iff hrelay hsession, buildMembershipReport_isOk_iff]
  show _ ∨ (_ ∧ (∀ record ∈ (gateway.replacementReport report).records,
    Sendable report.protocol record) ∧ report.protocol.overhead + _ ≤ _) ↔ _
  by_cases hempty : (gateway.replacementReport report).records = []
  · refine iff_of_true (.inl hempty) ⟨hall.mp (by simp [hempty]), ?_⟩
    rw [hempty]
    cases report.protocol <;> decide
  · simp only [hempty, false_or, ne_eq, not_false_eq_true, true_and]
    rw [hall]
    rfl

/-- An export that does not fit the length field is not sent. -/
theorem replaceMemberships_too_long {relay : SocketAddr} {session : GatewaySession}
    (hrelay : gateway.relayEndpoint = some relay) (hsession : gateway.session = some session)
    {config : LocalMembershipConfig} {manager : LocalMembershipManager}
    (hkept : manager.Kept config) {protocol : MembershipProtocol}
    (hprotocol : config.protocol = protocol)
    (hlen : ¬ protocol.overhead + (8 + protocol.format.recordsLen
      (desiredMembershipReport protocol [] (some manager)).records) ≤ u16Max) :
    ∃ error, (gateway.replaceMemberships
      (desiredMembershipReport protocol [] (some manager))).2 = .err (.membershipBuild error) := by
  have hsendable : ∀ record ∈ (desiredMembershipReport protocol []
      (some manager)).records, Sendable protocol record := by
    refine sendable_desired (by simp) ?_
    rintro _ ⟨⟩
    exact ⟨config, hprotocol, hkept⟩
  by_contra hnone
  obtain ⟨-, hfits⟩ := (replaceMemberships_sendable_iff hrelay hsession hsendable).mp
    fun error herror => hnone ⟨error, herror⟩
  have hle := gateway.recordsLen_le_replacementReport
    (desiredMembershipReport protocol [] (some manager)) protocol.format
  exact hlen (le_trans (Nat.add_le_add_left (Nat.add_le_add_left hle _) _) hfits)

/-- **When the desired memberships can be sent.**  For every reachable local state, every
valid joins and every gateway with a session, `replace_memberships` refuses to build the
update only for its length, or for leaves of another family than the protocol's. -/
theorem replaceMemberships_desired_iff {E : Type*} (config : LocalMembershipConfig)
    (ops : List (LocalMembershipManager.Op E)) {joins : List GatewayJoin}
    (hjoins : ∀ join ∈ joins, join.Valid config.protocol) {gatewayConfig : GatewayConfig}
    {discoveryDraw requestDraw : Nonce} {calls : List GatewayCall}
    (hrun : Run Called (Gateway.new gatewayConfig discoveryDraw requestDraw) calls gateway)
    (hsession : gateway.session.isSome = true) :
    (∀ error, (gateway.replaceMemberships (desiredMembershipReport config.protocol joins
        (some (.after config ops)))).2 ≠ .err (.membershipBuild error)) ↔
      (∀ record ∈ gateway.missingLeaves (desiredMembershipReport config.protocol joins
        (some (.after config ops))), Reportable config.protocol record.group) ∧
      config.protocol.overhead + (8 + config.protocol.format.recordsLen
        (gateway.replacementReport (desiredMembershipReport config.protocol joins
          (some (.after config ops)))).records) ≤ u16Max := by
  obtain ⟨session, hsession⟩ := Option.isSome_iff_exists.mp hsession
  have hconsistent := Consistent.run hrun
  have hrelay : ∃ relay, gateway.relayEndpoint = some relay := by
    rw [← Option.isSome_iff_exists]
    cases hphase : gateway.phase with
    | discovering =>
        rw [(hconsistent.discovering hphase).2] at hsession
        cases hsession
    | awaitingMembershipQuery => exact hconsistent.awaiting hphase
    | established => exact (hconsistent.established hphase).1
  obtain ⟨relay, hrelay⟩ := hrelay
  refine replaceMemberships_sendable_iff hrelay hsession (sendable_desired hjoins ?_)
  intro m hm
  cases hm
  exact ⟨config, rfl, LocalMembershipManager.kept_after config ops⟩

end Gateway

/-! ### An export that is too long -/

section Flood

open LocalMembershipManager (Op)

/-- A host that sends from the unspecified address, as the builders do. -/
def unnumberedHost : SocketAddr := .new (.v6 .unspecified) 0

/-- A built report that reaches a manager of its protocol is applied. -/
theorem state_tryRecv_built {manager : LocalMembershipManager} {report : MembershipReport}
    {packet : Bytes} (hmanager : manager.config.protocol = .mldv2)
    (hreport : report.protocol = .mldv2) (hbuild : buildMembershipReport report = .ok packet)
    (hadmits : MembershipParseLimits.default.Admits report.records) (now : Instant) :
    (manager.step (.tryRecv now [.datagram packet] : Op Empty)).state
      = (manager.state.applyReportLimited unnumberedHost report manager.limits).1 := by
  have hparse : parseMembershipReport packet = .ok report := by
    have := parse_buildMembershipReport hbuild hadmits []
    rwa [List.append_nil] at this
  have hsource : parseDatagramSource packet = some (.v6 .unspecified) := by
    obtain ⟨protocol, records⟩ := report
    obtain rfl : protocol = .mldv2 := hreport
    obtain ⟨rfl, -⟩ := buildMldv2MembershipReport_eq hbuild
    rw [mldv2Packet]
    have hlen : 40 ≤ (ipv6ReportHeader (8 + (8 + mldv2Format.recordsLen records)) ++
        mldv2Message records).length := by
      rw [List.length_append]
      exact le_trans (by decide) (Nat.le_add_right 48 _)
    exact parseDatagramSource_v6 rfl (by decide) rfl hlen
  show (LocalMembershipManager.tryRecvLoop now 16 manager [.datagram packet]).1.state = _
  rw [LocalMembershipManager.tryRecvLoop, LocalMembershipManager.receive, hparse]
  dsimp only
  rw [if_neg (by simp [hreport, hmanager]), hsource]
  dsimp only
  show _ = (manager.state.applyReportLimited (.new (.v6 .unspecified) 0) report manager.limits).1
  generalize manager.state.applyReportLimited (.new (.v6 .unspecified) 0) report
    manager.limits = result
  obtain ⟨state, outcome⟩ := result
  cases outcome <;> rfl

/-- What a host's reports make of the state. -/
def hostState (reports : List MembershipReport) : RelayState :=
  reports.foldl (fun state report => (state.applyReportLimited unnumberedHost report .default).1)
    .default

/-- The bytes of a report that can be built. -/
def builtPacket (report : MembershipReport) : Bytes :=
  match buildMembershipReport report with
  | .ok packet => packet
  | _ => []

/-- The host's reports arrive one after the other. -/
def hostOps (reports : List MembershipReport) : List (Op Empty) :=
  reports.map fun report => .tryRecv 0 [.datagram (builtPacket report)]

theorem state_after_hostOps {reports : List MembershipReport}
    (hbuilt : ∀ report ∈ reports, report.protocol = .mldv2 ∧
      (∃ packet, buildMembershipReport report = .ok packet) ∧
        MembershipParseLimits.default.Admits report.records) :
    (LocalMembershipManager.after (.new .mldv2) (hostOps reports)).state = hostState reports := by
  induction reports using List.reverseRecOn with
  | nil => rfl
  | append_singleton reports report ih =>
      obtain ⟨hprotocol, ⟨packet, hpacket⟩, hadmits⟩ := hbuilt report (by simp)
      have hkept := LocalMembershipManager.kept_after (.new .mldv2) (hostOps reports)
      have hlast := state_tryRecv_built (congrArg LocalMembershipConfig.protocol hkept.config_eq)
        hprotocol hpacket hadmits 0
      rw [ih fun r hr => hbuilt r (List.mem_append_left _ hr), hkept.limits_eq] at hlast
      rw [hostState, List.foldl_append]
      show _ = ((hostState reports).applyReportLimited unnumberedHost report .default).1
      rw [← hlast]
      simp [LocalMembershipManager.after, hostOps, builtPacket, hpacket]

/-- The `i`-th group of the flood. -/
def floodGroup (i : ℕ) : IpAddr := .v6 (.new 0xff3e 0 0 0 0 0 0 (UInt16.ofNat (i + 1)))

/-- As many sources as a record may exclude. -/
def floodSources : List IpAddr :=
  (List.range 128).map fun i => .v6 (.new (UInt16.ofNat (0x2000 + i)) 0 0 0 0 0 0 1)

/-- Sixteen groups, in each of which 128 sources are excluded. -/
def floodReport (k : ℕ) : MembershipReport where
  protocol := .mldv2
  records := (List.range 16).map fun i =>
    { kind := .modeIsExclude, group := floodGroup (16 * k + i), sources := floodSources }

/-- Two such reports: 32 groups, of the 128 an endpoint may have. -/
def floodReports : List MembershipReport := [floodReport 0, floodReport 1]

theorem floodReports_built : ∀ report ∈ floodReports, report.protocol = .mldv2 ∧
    (∃ packet, buildMembershipReport report = .ok packet) ∧
      MembershipParseLimits.default.Admits report.records := by
  have hchecks : ∀ report ∈ floodReports, report.protocol = .mldv2 ∧
      validateBuildRecords .mldv2 report.records = .ok () ∧
      8 + (8 + mldv2Format.recordsLen report.records) ≤ u16Max ∧
      report.records.length ≤ 512 ∧
      ∀ record ∈ report.records, record.sources.length ≤ 128 := by decide +kernel
  intro report hreport
  obtain ⟨hprotocol, hvalid, hlen, hcount, hsources⟩ := hchecks report hreport
  obtain ⟨protocol, records⟩ := report
  obtain rfl : protocol = .mldv2 := hprotocol
  exact ⟨rfl, ⟨_, buildMldv2MembershipReport_of hvalid hlen⟩, hcount, hsources⟩

/-- A gateway for MLDv2 that has discovered its relay and received a query. -/
def mldGateway : Gateway :=
  (Gateway.callAll
    (.numbered Gateway.sampleRelay .mldv2)
    [.handleDatagramWithEcn Gateway.sampleRelay
        (encode (.relayAdvertisement 1 Gateway.sampleRelay.ip)) .notEct,
      .handleDatagramWithEcn Gateway.sampleRelay
        (encode (.membershipQuery ⟨.zero 6⟩ 2 false none
          (match (buildMldv2GeneralQuery .forAmt : Outcome Unit Bytes) with
            | .ok query => query
            | _ => []))) .notEct]).2

theorem mldGateway_session : mldGateway.session.isSome = true := by decide +kernel

/-- The manager that has received the flood. -/
def floodedManager : LocalMembershipManager := .after (.new .mldv2) (hostOps floodReports)

/-- The flood is exported as it was reported, in more bytes than a datagram has. -/
theorem recordsLen_flood : ¬ MembershipProtocol.mldv2.overhead +
    (8 + MembershipProtocol.mldv2.format.recordsLen
      (desiredMembershipReport .mldv2 [] (some floodedManager)).records) ≤ u16Max := by
  have hkept := LocalMembershipManager.kept_after (.new .mldv2) (hostOps floodReports)
  have hexport := LocalMembershipManager.currentExportableInterests_eq hkept.config_eq
    (state_after_hostOps floodReports_built)
  rw [floodedManager, recordsLen_desired_local hkept, hexport]
  decide +kernel

/-- 32 groups with 128 excluded sources each, within every limit, and the gateway fails to
build its update. -/
theorem replaceMemberships_flooded :
    mldGateway.session.isSome = true ∧
      floodedManager = .after (.new .mldv2) (hostOps floodReports) ∧
      ∃ error, (mldGateway.replaceMemberships
        (desiredMembershipReport .mldv2 [] (some floodedManager))).2
          = .err (.membershipBuild error) := by
  have hkept : floodedManager.Kept (.new .mldv2) := LocalMembershipManager.kept_after _ _
  have hrelay : mldGateway.relayEndpoint.isSome = true := by decide +kernel
  refine ⟨mldGateway_session, rfl, ?_⟩
  obtain ⟨session, hsession⟩ := Option.isSome_iff_exists.mp mldGateway_session
  obtain ⟨relay, hrelay⟩ := Option.isSome_iff_exists.mp hrelay
  exact Gateway.replaceMemberships_too_long hrelay hsession hkept rfl recordsLen_flood

/-- Two configured joins, one of them for a source that the hosts want of the group as well. -/
def configuredJoins : List GatewayJoin :=
  [⟨.v6 (.new 0xff3e 0 0 0 0 0 0 9), none⟩,
    ⟨.v6 (.new 0xff3e 0 0 0 0 0 0 2), some (.v6 (.new 0x2001 0xdb8 0 0 0 0 0 1))⟩]

/-- They are sent together with what the host reports. -/
theorem replaceMemberships_joined :
    mldGateway.session.isSome = true ∧
      ∀ error, (mldGateway.replaceMemberships (desiredMembershipReport .mldv2 configuredJoins
        (some (.after (.new .mldv2) (hostOps [mixedReport]))))).2
          ≠ .err (.membershipBuild error) := by
  have hjoins : ∀ join ∈ configuredJoins, join.Valid .mldv2 := by
    rintro join (_ | ⟨_, _ | ⟨_, ⟨⟩⟩⟩)
    · exact ⟨by decide, by decide, by rintro _ ⟨⟩⟩
    · exact ⟨by decide, by decide, by rintro _ ⟨⟩; exact ⟨by decide, by decide⟩⟩
  refine ⟨mldGateway_session, (Gateway.replaceMemberships_desired_iff (.new .mldv2) _ hjoins
    (Gateway.run_callAll _ _) mldGateway_session).mpr ⟨?_, ?_⟩⟩
  · decide +kernel
  · decide +kernel

end Flood

/-! ## Does a relay accept it? -/

section Local

variable {config : LocalMembershipConfig} {manager : LocalMembershipManager}

/-- The records of an export are within the limits of a default relay if its source lists
are. -/
theorem admits_desired_local_iff (h : manager.Kept config) (protocol : MembershipProtocol)
    {relay : Relay} (hlimits : relay.config.limits = .default) :
    relay.parseLimits.Admits (desiredMembershipReport protocol [] (some manager)).records ↔
      ∀ (g : IpAddr) (interest : GroupInterest),
        manager.currentExportableInterests[g]? = some interest →
          interest.sources.size ≤ RelayLimits.default.maxSourcesPerGroup := by
  rw [records_desired_local h]
  constructor
  · rintro ⟨-, hsources⟩ g interest hinterest
    have hrecord := hsources (desiredRecord g interest)
      (List.mem_map.mpr ⟨(g, interest), BTreeMap.mem_toList_iff.mpr hinterest, rfl⟩)
    rwa [desiredRecord, Std.ExtTreeSet.length_toList, Relay.parseLimits, hlimits] at hrecord
  · intro hsources
    constructor
    · rw [List.length_map, Std.ExtTreeMap.length_toList, Relay.parseLimits, hlimits]
      exact h.size_currentExportableInterests.trans (by decide)
    · intro record hrecord
      obtain ⟨⟨g, interest⟩, hentry, rfl⟩ := List.mem_map.mp hrecord
      rw [desiredRecord, Std.ExtTreeSet.length_toList, Relay.parseLimits, hlimits]
      exact hsources g interest (BTreeMap.mem_toList_iff.mp hentry)

/-- An export whose records fit the length field is built; `sizes` are its source lists'
lengths. -/
theorem exists_built_of_sizes (h : manager.Kept config) {protocol : MembershipProtocol}
    (hprotocol : config.protocol = protocol) {sizes : List ℕ}
    (hsizes : (manager.currentExportableInterests.toList.map
      fun entry => entry.2.sources.size) = sizes) (hne : sizes ≠ [])
    (hlen : protocol.overhead + (8 + (sizes.map fun size =>
      protocol.format.recordHeaderLen + size * protocol.format.addressLen).sum) ≤ u16Max) :
    ∃ packet, buildMembershipReport (desiredMembershipReport protocol [] (some manager))
      = .ok packet := by
  refine (buildMembershipReport_isOk_iff _).mpr ⟨?_, ?_, ?_⟩
  · rw [records_desired_local h]
    intro hempty
    rw [← hsizes, List.map_eq_nil_iff.mp hempty] at hne
    exact hne rfl
  · refine sendable_desired (by simp) ?_
    rintro _ ⟨⟩
    exact ⟨config, hprotocol, h⟩
  · show protocol.overhead + (8 + protocol.format.recordsLen _) ≤ _
    rw [recordsLen_desired_local h]
    rwa [← hsizes, List.map_map] at hlen

/-- **When a default relay accepts the export.**  For every reachable local state whose
desired report is built, the relay's parser accepts the datagram exactly if no exported
group has a longer merged source list than the relay allows in a record. -/
theorem parse_desired_isOk_iff {E : Type*} (config : LocalMembershipConfig)
    (ops : List (LocalMembershipManager.Op E)) {relay : Relay}
    (hlimits : relay.config.limits = .default) {packet : Bytes}
    (hbuild : buildMembershipReport
      (desiredMembershipReport config.protocol [] (some (.after config ops))) = .ok packet) :
    (∃ report, parseMembershipReportWithLimits packet relay.parseLimits = .ok report) ↔
      ∀ (g : IpAddr) (interest : GroupInterest),
        (LocalMembershipManager.after config ops).currentExportableInterests[g]?
          = some interest →
            interest.sources.size ≤ RelayLimits.default.maxSourcesPerGroup := by
  rw [parse_build_isOk_iff hbuild]
  exact admits_desired_local_iff (LocalMembershipManager.kept_after config ops) _ hlimits

end Local

/-! ### Two hosts with one group -/

section TwoHosts

open LocalMembershipManager (Op)

/-- A report as a host with an IPv4 address sends it. -/
def hostPacket (source : Ipv4Addr) (records : List MembershipRecord) : Bytes :=
  let header (field : Bytes) : Bytes :=
    [0x46, 0xc0] ++ (u16ToBe (UInt16.ofNat (32 + igmpv3Format.recordsLen records)) ++
      ([0, 0, 0, 0, 1, 2] ++ (field ++ (source.octets.toList ++
        [224, 0, 0, 22, 0x94, 4, 0, 0]))))
  header (u16ToBe (checksum (header [0, 0]))) ++ igmpv3Message records

/-- `count` sources of one group, of the 128 a record may list. -/
def includeSources (first count : ℕ) : List MembershipRecord :=
  [{ kind := .modeIsInclude
     group := .v4 (.new 232 1 1 1)
     sources := (List.range count).map fun i => .v4 (.new (UInt8.ofNat (first + i)) 0 2 1) }]

/-- The reports of two hosts, for different sources of the group. -/
def twoHostsOps : List (Op Empty) :=
  [.tryRecv 0 [.datagram (hostPacket (.new 192 0 2 1) (includeSources 1 65))],
    .tryRecv 0 [.datagram (hostPacket (.new 192 0 2 2) (includeSources 101 65))]]

/-- A relay that has not heard of any gateway. -/
def defaultRelay : Relay := .new (.default ⟨.zero 32⟩) 0

/-- The manager that has received both. -/
def twoHosts : LocalMembershipManager := .after (.new .igmpv3) twoHostsOps

theorem sizes_twoHosts :
    (twoHosts.currentExportableInterests.toList.map fun entry => entry.2.sources.size)
      = [130] := by
  decide +kernel

/-- Two reports within every limit, and the export lists 130 sources in a record. -/
theorem parse_desired_twoHosts :
    twoHosts = .after (.new .igmpv3) twoHostsOps ∧
      ∃ packet, buildMembershipReport (desiredMembershipReport .igmpv3 [] (some twoHosts))
          = .ok packet ∧
        ¬ ∃ report, parseMembershipReportWithLimits packet defaultRelay.parseLimits
          = .ok report := by
  have hkept : twoHosts.Kept (.new .igmpv3) := LocalMembershipManager.kept_after _ _
  have hprotocol : (LocalMembershipConfig.new .igmpv3).protocol = .igmpv3 := rfl
  obtain ⟨packet, hbuild⟩ :=
    exists_built_of_sizes hkept hprotocol sizes_twoHosts (by simp) (by decide)
  refine ⟨rfl, packet, hbuild, ?_⟩
  rw [parse_build_isOk_iff hbuild, admits_desired_local_iff hkept .igmpv3 rfl]
  intro hall
  have hmem : 130 ∈ twoHosts.currentExportableInterests.toList.map
      fun entry => entry.2.sources.size := by
    rw [sizes_twoHosts]
    exact List.mem_singleton.mpr rfl
  obtain ⟨⟨g, interest⟩, hentry, hsize⟩ := List.mem_map.mp hmem
  have hle := hall g interest (BTreeMap.mem_toList_iff.mp hentry)
  rw [show interest.sources.size = 130 from hsize] at hle
  exact absurd hle (by decide)

/-- Two hosts that want some sources of the group, and one of them all but two of another. -/
def fewSourcesOps : List (Op Empty) :=
  [.tryRecv 0 [.datagram (hostPacket (.new 192 0 2 1) (includeSources 1 3))],
    .tryRecv 0 [.datagram (hostPacket (.new 192 0 2 2) (includeSources 3 3 ++
      [⟨.modeIsExclude, .v4 (.new 239 1 1 1),
        [.v4 (.new 198 51 100 1), .v4 (.new 198 51 100 2)]⟩]))]]

theorem sizes_fewSources : ((LocalMembershipManager.after (.new .igmpv3)
    fewSourcesOps).currentExportableInterests.toList.map fun entry => entry.2.sources.size)
      = [5, 2] := by
  decide +kernel

theorem parse_desired_fewSources :
    ∃ packet, buildMembershipReport (desiredMembershipReport .igmpv3 []
        (some (.after (.new .igmpv3) fewSourcesOps))) = .ok packet ∧
      ∃ report, parseMembershipReportWithLimits packet defaultRelay.parseLimits
        = .ok report := by
  have hkept := LocalMembershipManager.kept_after (.new .igmpv3) fewSourcesOps
  obtain ⟨packet, hbuild⟩ := exists_built_of_sizes hkept rfl sizes_fewSources (by simp) (by decide)
  refine ⟨packet, hbuild, ?_⟩
  refine (parse_desired_isOk_iff (.new .igmpv3) fewSourcesOps rfl hbuild).mpr ?_
  intro g interest hheld
  have hmem := List.mem_map_of_mem (f := fun entry : IpAddr × GroupInterest =>
    entry.2.sources.size) (BTreeMap.mem_toList_iff.mpr hheld)
  rw [sizes_fewSources] at hmem
  have hall : ∀ size ∈ [5, 2], size ≤ RelayLimits.default.maxSourcesPerGroup := by decide
  exact hall _ hmem

end TwoHosts

end Amt

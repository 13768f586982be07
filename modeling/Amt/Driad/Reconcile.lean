import Amt.Driad.Probing
import Amt.Driad.Sources
import Amt.Lib.Admission

/-!
# One tunnel for each source, within the limit

`reconcile_driad_tunnels` brings the table of source tunnels in line with the reports of
`desired_driad_reports`, in one pass that first removes, then updates and admits:

* a tunnel whose source is no longer desired is shut down and dropped;
* a tunnel whose source still is stays, and is given the new report;
* a new source gets a tunnel while there are fewer than `max_source_tunnels`, and is counted
  otherwise.

The pass over the reports is the admission of `Amt.Lib.Admission`: a kept tunnel never makes
way for a new source, and the new sources that find room are the lowest ones, since the
reports are ordered by source.  What the daemon does with the table between two calls is to
poll its tunnels, which changes no key, so that the bound holds over whole runs
(`size_driadTunnels_le`), and with it the result of each call is exact
(`reconcileDriadTunnels_exact`).
-/

namespace Amt

open LocalMembershipManager (Op)
open DriadSourceTunnel (FailInput LaunchFrame PollInput QueueFrame)

/-! ## The pass -/

/-- What the call is given; the limit and the environment are arguments of their own. -/
structure DriadReconcileContext where
  config : GatewayDriadConfig
  protocol : MembershipProtocol
  ecn : Bool
  joins : List GatewayJoin
  manager : Option LocalMembershipManager

/-- What the call meets at one source: the answer to a changed report, and the clocks of a new
tunnel. -/
structure ReconcileInput where
  answering : Answering
  failed : FailInput
  createdAt : Instant
  rebuiltAt : Instant

section Reconcile

variable (maxSourceTunnels : ℕ) (context : DriadReconcileContext)
  (inputs : IpAddr → ReconcileInput)

namespace DriadReconcileContext

/-- The reports of the call. -/
def reports (context : DriadReconcileContext) : BTreeMap IpAddr MembershipReport :=
  (desiredDriadReports context.protocol context.joins context.manager).1

/-- `set_desired` of the tunnel of a source.  It returns nothing, and it does not panic
(`setDesired_ok`). -/
def update (source : IpAddr) (report : MembershipReport) (tunnel : DriadSourceTunnel) :
    DriadSourceTunnel :=
  (tunnel.setDesired report (inputs source).answering (inputs source).failed).1

/-- `DriadSourceTunnel::new` for a source. -/
def create (source : IpAddr) (report : MembershipReport) : DriadSourceTunnel :=
  .new source context.protocol context.ecn context.config report (inputs source).createdAt
    (inputs source).rebuiltAt

end DriadReconcileContext

open DriadReconcileContext (update create)

/-- The tunnels whose source is no longer desired leave the table.  Their shutdown sends what
it has to send and changes nothing that is kept. -/
def removeUndesired (tunnels : BTreeMap IpAddr DriadSourceTunnel)
    (reports : BTreeMap IpAddr MembershipReport) : BTreeMap IpAddr DriadSourceTunnel :=
  (tunnels.keys.filter fun source => !reports.contains source).foldl
    (fun tunnels source => tunnels.erase source) tunnels

/-- One iteration of the loop over the reports: the tunnels, and the number of sources over
the limit. -/
def reconcileSource (state : BTreeMap IpAddr DriadSourceTunnel × ℕ)
    (entry : IpAddr × MembershipReport) : BTreeMap IpAddr DriadSourceTunnel × ℕ :=
  match state.1[entry.1]? with
  | some tunnel => (state.1.insert entry.1 (update inputs entry.1 entry.2 tunnel), state.2)
  | none =>
      if maxSourceTunnels ≤ state.1.size then (state.1, state.2 + 1)
      else (state.1.insert entry.1 (create context inputs entry.1 entry.2), state.2)

/-- The tunnels, and the two counts of what was ignored, of which the call warns when they
are not those of the last call. -/
def reconcileDriadTunnels (tunnels : BTreeMap IpAddr DriadSourceTunnel) :
    BTreeMap IpAddr DriadSourceTunnel × (ℕ × ℕ) :=
  let desired := desiredDriadReports context.protocol context.joins context.manager
  let reconciled := desired.1.toList.foldl (reconcileSource maxSourceTunnels context inputs)
    (removeUndesired tunnels desired.1, 0)
  (reconciled.1, (desired.2, reconciled.2))

/-! ### A kept tunnel -/

/-- Whatever becomes of its relay, the tunnel has the report it was given. -/
theorem desired_setDesired (tunnel : DriadSourceTunnel) (report : MembershipReport)
    (answering : Answering) (failed : FailInput) :
    (tunnel.setDesired report answering failed).1.desired = report := by
  unfold DriadSourceTunnel.setDesired
  split
  · assumption
  · dsimp only
    split
    · rfl
    · split
      · rfl
      · exact (LaunchFrame.failActive _ _ _ _).desired
      · rfl

/-! ### The table after the pass -/

theorem getElem?_removeUndesired (tunnels : BTreeMap IpAddr DriadSourceTunnel)
    (reports : BTreeMap IpAddr MembershipReport) (source : IpAddr) :
    (removeUndesired tunnels reports)[source]? =
      if reports.contains source then tunnels[source]? else none := by
  rw [removeUndesired, BTreeMap.getElem?_foldl_erase]
  simp only [List.mem_filter, Bool.not_eq_eq_eq_not, Bool.not_true]
  cases hdesired : reports.contains source with
  | true => simp
  | false =>
      simp only [and_true, Bool.false_eq_true, if_false, ite_eq_left_iff]
      intro hnot
      rw [BTreeMap.mem_keys_iff_exists, not_exists] at hnot
      exact Option.eq_none_iff_forall_ne_some.mpr hnot

theorem reconcileDriadTunnels_eq (tunnels : BTreeMap IpAddr DriadSourceTunnel) :
    (reconcileDriadTunnels maxSourceTunnels context inputs tunnels).1
      = context.reports.toList.foldl
          (BTreeMap.serve maxSourceTunnels (update inputs) (create context inputs))
          (removeUndesired tunnels context.reports) := by
  show (context.reports.toList.foldl (reconcileSource maxSourceTunnels context inputs)
    (removeUndesired tunnels context.reports, 0)).1 = _
  refine (List.foldl_hom Prod.fst fun state entry => ?_).symm
  rw [reconcileSource, BTreeMap.serve]
  cases state.1[entry.1]? with
  | some tunnel => rfl
  | none =>
      show (if _ then _ else _) = Prod.fst (if _ then _ else _)
      rw [apply_ite Prod.fst]

section Table

variable {maxSourceTunnels context inputs} {tunnels : BTreeMap IpAddr DriadSourceTunnel}

/-- Each source has one report. -/
theorem nodup_reports (context : DriadReconcileContext) :
    (context.reports.toList.map Prod.fst).Nodup := by
  rw [Std.ExtTreeMap.map_fst_toList_eq_keys]
  exact BTreeMap.keys_nodup _

/-- A tunnel stays if its source has a report. -/
theorem getElem?_reconcile_of_some {source : IpAddr} {tunnel : DriadSourceTunnel}
    {report : MembershipReport} (htunnel : tunnels[source]? = some tunnel)
    (hreport : context.reports[source]? = some report) :
    (reconcileDriadTunnels maxSourceTunnels context inputs tunnels).1[source]?
      = some (update inputs source report tunnel) := by
  rw [reconcileDriadTunnels_eq]
  refine BTreeMap.getElem?_foldl_serve_of_some (nodup_reports context)
    (BTreeMap.mem_toList_iff.mpr hreport) ?_
  rw [getElem?_removeUndesired, if_pos (BTreeMap.contains_of_some hreport), htunnel]

/-- The sources that are admitted, with their reports. -/
def admitted (maxSourceTunnels : ℕ) (context : DriadReconcileContext)
    (tunnels : BTreeMap IpAddr DriadSourceTunnel) : List (IpAddr × MembershipReport) :=
  BTreeMap.newcomers maxSourceTunnels (removeUndesired tunnels context.reports)
    context.reports.toList

/-- A source without a tunnel gets one if it is admitted. -/
theorem getElem?_reconcile_eq_some_iff {source : IpAddr} (hnone : tunnels[source]? = none)
    (tunnel : DriadSourceTunnel) :
    (reconcileDriadTunnels maxSourceTunnels context inputs tunnels).1[source]? = some tunnel ↔
      ∃ report, (source, report) ∈ admitted maxSourceTunnels context tunnels ∧
        create context inputs source report = tunnel := by
  rw [reconcileDriadTunnels_eq]
  refine BTreeMap.getElem?_foldl_serve_eq_some_iff (nodup_reports context) ?_ tunnel
  rw [getElem?_removeUndesired, hnone, ite_self]

/-- A tunnel whose source has no report is gone. -/
theorem getElem?_reconcile_of_undesired {source : IpAddr}
    (hnone : context.reports[source]? = none) :
    (reconcileDriadTunnels maxSourceTunnels context inputs tunnels).1[source]? = none := by
  have hnotAsked : source ∉ context.reports.toList.map Prod.fst := by
    rw [Std.ExtTreeMap.map_fst_toList_eq_keys, BTreeMap.mem_keys_iff_exists]
    rintro ⟨report, hreport⟩
    rw [hnone] at hreport
    cases hreport
  rw [reconcileDriadTunnels_eq, BTreeMap.getElem?_foldl_serve_of_notMem hnotAsked,
    getElem?_removeUndesired, if_neg (Bool.eq_false_iff.mp (BTreeMap.contains_of_none hnone))]

/-- The removal makes the table no larger. -/
theorem size_removeUndesired_le (reports : BTreeMap IpAddr MembershipReport) :
    (removeUndesired tunnels reports).size ≤ tunnels.size := by
  refine BTreeMap.size_le_of_getElem? fun source tunnel htunnel => ?_
  rw [getElem?_removeUndesired] at htunnel
  split at htunnel
  · exact ⟨tunnel, htunnel⟩
  · cases htunnel

theorem size_reconcile (hbound : tunnels.size ≤ maxSourceTunnels) :
    (reconcileDriadTunnels maxSourceTunnels context inputs tunnels).1.size
      = min maxSourceTunnels context.reports.size := by
  rw [reconcileDriadTunnels_eq, BTreeMap.size_foldl_serve_eq_min (nodup_reports context)
    ((size_removeUndesired_le _).trans hbound), Std.ExtTreeMap.length_toList]
  intro source hsource
  obtain ⟨tunnel, htunnel⟩ := BTreeMap.mem_keys_iff_exists.mp hsource
  rw [getElem?_removeUndesired] at htunnel
  split at htunnel
  · next hdesired =>
      rw [Std.ExtTreeMap.map_fst_toList_eq_keys]
      exact Std.ExtTreeMap.mem_keys.mpr (Std.ExtTreeMap.mem_iff_contains.mpr hdesired)
  · cases htunnel

/-- Of the sources without a tunnel, a lower one is admitted first. -/
theorem admitted_of_lt {source lower : IpAddr} {report report' : MembershipReport}
    (hadmitted : (source, report) ∈ admitted maxSourceTunnels context tunnels)
    (hreport : context.reports[lower]? = some report') (hlt : lower < source)
    (hnone : tunnels[lower]? = none) :
    (lower, report') ∈ admitted maxSourceTunnels context tunnels := by
  have hsorted : context.reports.toList.Pairwise fun a b => a.1 < b.1 := by
    rw [← List.pairwise_map, Std.ExtTreeMap.map_fst_toList_eq_keys]
    exact BTreeMap.keys_pairwise_lt _
  refine BTreeMap.mem_newcomers_of_lt hsorted hadmitted (BTreeMap.mem_toList_iff.mpr hreport) ?_
    hlt
  rw [getElem?_removeUndesired, hnone, ite_self]

theorem getElem?_of_mem_admitted {source : IpAddr} {report : MembershipReport}
    (h : (source, report) ∈ admitted maxSourceTunnels context tunnels) :
    context.reports[source]? = some report :=
  BTreeMap.mem_toList_iff.mp (List.mem_filter.mp (List.mem_of_mem_take h)).1

end Table

/-- **What one call makes of the table.** -/
structure Reconciled (before result : BTreeMap IpAddr DriadSourceTunnel) : Prop where
  /-- There are tunnels for desired sources only. -/
  desired : ∀ (source : IpAddr) (tunnel : DriadSourceTunnel), result[source]? = some tunnel →
    ∃ report, context.reports[source]? = some report
  /-- There are as many as there may be and are asked for. -/
  size : result.size = min maxSourceTunnels context.reports.size
  /-- The tunnel of a source that is still desired is the one it was, with the new report. -/
  kept : ∀ (source : IpAddr) (tunnel : DriadSourceTunnel) (report : MembershipReport),
    before[source]? = some tunnel → context.reports[source]? = some report →
      result[source]? = some (update inputs source report tunnel) ∧
        (update inputs source report tunnel).desired = report
  /-- Every other tunnel is a new one with the report of its source. -/
  created : ∀ (source : IpAddr) (tunnel : DriadSourceTunnel),
    before[source]? = none → result[source]? = some tunnel →
    ∃ report, context.reports[source]? = some report ∧
      tunnel = create context inputs source report ∧ tunnel.desired = report
  /-- No new source is admitted before a lower one. -/
  ascending : ∀ (source : IpAddr) (tunnel : DriadSourceTunnel),
    before[source]? = none → result[source]? = some tunnel →
    ∀ (lower : IpAddr) (report : MembershipReport), context.reports[lower]? = some report →
      lower < source → ∃ tunnel', result[lower]? = some tunnel'

/-- One reconciliation, whatever the table was. -/
theorem reconciled_reconcileDriadTunnels {tunnels : BTreeMap IpAddr DriadSourceTunnel}
    (hbound : tunnels.size ≤ maxSourceTunnels) :
    Reconciled maxSourceTunnels context inputs tunnels
      (reconcileDriadTunnels maxSourceTunnels context inputs tunnels).1 where
  desired source tunnel htunnel := by
    cases hreport : context.reports[source]? with
    | some report => exact ⟨report, rfl⟩
    | none =>
        rw [getElem?_reconcile_of_undesired hreport] at htunnel
        cases htunnel
  size := size_reconcile hbound
  kept source tunnel report htunnel hreport :=
    ⟨getElem?_reconcile_of_some htunnel hreport, desired_setDesired _ _ _ _⟩
  created source tunnel hnone htunnel := by
    obtain ⟨report, hadmitted, rfl⟩ := (getElem?_reconcile_eq_some_iff hnone tunnel).mp htunnel
    exact ⟨report, getElem?_of_mem_admitted hadmitted, rfl,
      (QueueFrame.rebuildProbeQueue _ _).desired⟩
  ascending source tunnel hnone htunnel lower report hreport hlt := by
    obtain ⟨_, hadmitted, -⟩ := (getElem?_reconcile_eq_some_iff hnone tunnel).mp htunnel
    cases hlower : tunnels[lower]? with
    | some tunnel' => exact ⟨_, getElem?_reconcile_of_some hlower hreport⟩
    | none =>
        exact ⟨_, (getElem?_reconcile_eq_some_iff hlower _).mpr
          ⟨report, admitted_of_lt hadmitted hreport hlt hlower, rfl⟩⟩

end Reconcile

/-! ## Runs -/

/-- What happens to the table: a call with whatever is desired by then, or a poll of every
tunnel. -/
inductive DriadEvent where
  | reconcile (context : DriadReconcileContext) (inputs : IpAddr → ReconcileInput)
  | poll (inputs : IpAddr → PollInput)

/-- The tunnels after one event. -/
def driadStep (maxSourceTunnels : ℕ) (tunnels : BTreeMap IpAddr DriadSourceTunnel) :
    DriadEvent → BTreeMap IpAddr DriadSourceTunnel
  | .reconcile context inputs => (reconcileDriadTunnels maxSourceTunnels context inputs tunnels).1
  | .poll inputs => tunnels.map fun source tunnel => (tunnel.poll (inputs source)).1

/-- The tunnels of a gateway that started with none. -/
def driadTunnels (maxSourceTunnels : ℕ) (events : List DriadEvent) :
    BTreeMap IpAddr DriadSourceTunnel :=
  events.foldl (driadStep maxSourceTunnels) ∅

theorem size_driadStep_le {maxSourceTunnels : ℕ} {tunnels : BTreeMap IpAddr DriadSourceTunnel}
    (hbound : tunnels.size ≤ maxSourceTunnels) (event : DriadEvent) :
    (driadStep maxSourceTunnels tunnels event).size ≤ maxSourceTunnels := by
  cases event with
  | reconcile context inputs =>
      rw [driadStep, size_reconcile hbound]
      exact min_le_left _ _
  | poll inputs =>
      rw [driadStep, Std.ExtTreeMap.size_map]
      exact hbound

/-- The limit holds over every run. -/
theorem size_driadTunnels_le (maxSourceTunnels : ℕ) (events : List DriadEvent) :
    (driadTunnels maxSourceTunnels events).size ≤ maxSourceTunnels := by
  induction events using List.reverseRecOn with
  | nil => simp [driadTunnels]
  | append_singleton events event ih =>
      rw [driadTunnels, List.foldl_append]
      exact size_driadStep_le ih event

/-- **The reports partition what is included.** -/
structure PartitionedBySource (context : DriadReconcileContext) : Prop where
  /-- An included pair of the range is in the reports once. -/
  once : ∀ source group, isSsmMulticastGroup group = true →
    (∃ record ∈ (desiredMembershipReport context.protocol context.joins context.manager).records,
      record.kind = .modeIsInclude ∧ record.group = group ∧ source ∈ record.sources) →
        (reportedPairs context.reports).count (source, group) = 1
  /-- Nothing else is. -/
  only : ∀ source group, (source, group) ∈ reportedPairs context.reports →
    isSsmMulticastGroup group = true ∧
      ∃ record ∈ (desiredMembershipReport context.protocol context.joins
        context.manager).records,
        record.kind = .modeIsInclude ∧ record.group = group ∧ source ∈ record.sources
  /-- The report of a source includes that source in each of its groups. -/
  own : ∀ (source : IpAddr) (report : MembershipReport), context.reports[source]? = some report →
    ∀ record ∈ report.records, record.kind = .modeIsInclude ∧ record.sources = [source]

theorem partitionedBySource (context : DriadReconcileContext) : PartitionedBySource context where
  once source group hssm hrecord := by
    rw [DriadReconcileContext.reports, count_reportedPairs,
      if_pos (mem_sourcePairs.mpr ⟨hssm, hrecord⟩)]
  only source group hpair := mem_sourcePairs.mp (mem_reportedPairs_desired.mp hpair)
  own source report hreport record hrecord := sources_of_mem_report hreport hrecord

/-- **Every call of every run is exact.**  Whatever the joins and the local interest were at
the earlier calls, and whatever the tunnels have done since, a call leaves as many tunnels as
the limit and the desired sources allow, keeps those that are still desired, and admits new
sources from the lowest up; and the reports it hands out partition the included pairs. -/
theorem reconcileDriadTunnels_exact (maxSourceTunnels : ℕ) (events : List DriadEvent)
    (context : DriadReconcileContext) (inputs : IpAddr → ReconcileInput) :
    Reconciled maxSourceTunnels context inputs (driadTunnels maxSourceTunnels events)
        (driadTunnels maxSourceTunnels (events ++ [.reconcile context inputs])) ∧
      PartitionedBySource context := by
  refine ⟨?_, partitionedBySource context⟩
  rw [driadTunnels, driadTunnels, List.foldl_append]
  exact reconciled_reconcileDriadTunnels _ _ _ (size_driadTunnels_le maxSourceTunnels events)

/-! ## One more interest -/

section Added

variable {E : Type*} (config : LocalMembershipConfig) (joins : List GatewayJoin)

/-- **What one more interest does to the reports.**  Of two reachable local states of which the
second has one interest more, every pair that is carried in the first is carried in the second,
unless the interest excludes, in the group of the pair and the group may be exported; and then
it is not. -/
theorem carriesPair_added_iff (ops ops' : List (Op E)) (reporter : SocketAddr) (group : IpAddr)
    (added : GroupInterest)
    (hnew : (LocalMembershipManager.after config ops).state.endpointInterest reporter group = none)
    (hadded : ∀ e g, (LocalMembershipManager.after config ops').state.endpointInterest e g =
      if e = reporter ∧ g = group then some added
      else (LocalMembershipManager.after config ops).state.endpointInterest e g)
    (source g : IpAddr)
    (hcarried : carriesPair (desiredDriadReports config.protocol joins
      (some (.after config ops))).1 source g = true) :
    carriesPair (desiredDriadReports config.protocol joins
        (some (.after config ops'))).1 source g = true ↔
      ¬ (g = group ∧ isAmtExportableGroup group = true ∧ added.mode = .Exclude) := by
  -- what is held stays held
  have hstays : ∀ {e interest},
      (LocalMembershipManager.after config ops).state.endpointInterest e g = some interest →
        (LocalMembershipManager.after config ops').state.endpointInterest e g
          = some interest := by
    intro e interest hinterest
    rw [hadded, if_neg, hinterest]
    rintro ⟨rfl, rfl⟩
    rw [hnew] at hinterest
    cases hinterest
  obtain ⟨hssm, hnobody, hasked⟩ :=
    (desiredDriadReports_carries_iff config joins (some ops) source g).mp hcarried
  have hasked' : SourceAsked config joins (some ops') source g := by
    rcases hasked with hjoin | ⟨hexportable, _, ⟨⟩, e, interest, hinterest, hwants⟩
    · exact .inl hjoin
    · exact .inr ⟨hexportable, _, rfl, e, interest, hstays hinterest, hwants⟩
  refine (desiredDriadReports_carries_iff config joins (some ops') source g).trans ?_
  constructor
  · rintro ⟨-, hnobody', -⟩ ⟨rfl, hexportable, hexclude⟩
    refine hnobody' (.inr ⟨hexportable, _, rfl, reporter, added, ?_, hexclude⟩)
    rw [hadded, if_pos ⟨rfl, rfl⟩]
  · intro hnot
    refine ⟨hssm, ?_, hasked'⟩
    rintro (hjoin | ⟨hexportable, _, ⟨⟩, e, interest, hinterest, hexclude⟩)
    · exact hnobody (.inl hjoin)
    · rw [hadded] at hinterest
      split at hinterest
      · next hhere =>
          obtain ⟨rfl, rfl⟩ := hhere
          obtain rfl := Option.some.inj hinterest
          exact hnot ⟨rfl, hexportable, hexclude⟩
      · exact hnobody (.inr ⟨hexportable, _, rfl, e, interest, hinterest, hexclude⟩)

end Added

/-! ### A tunnel that is torn down -/

def ssmGroup : IpAddr := .v4 (.new 232 1 1 1)

def ssmSource : IpAddr := .v4 (.new 198 51 100 7)

/-- One host asks for the source. -/
def includeOp : Op Empty :=
  .tryRecv 0 [.datagram (hostPacket (.new 192 0 2 1) [sourceRecord ssmSource ssmGroup])]

/-- Another one asks for any source of the same group. -/
def anySourceOp : Op Empty :=
  .tryRecv 0 [.datagram (hostPacket (.new 192 0 2 2)
    [{ kind := .modeIsExclude, group := ssmGroup, sources := [] }])]

def hostEndpoint (host : UInt8) : SocketAddr := .new (.v4 (.new 192 0 2 host)) 0

/-- The local state after some of these reports. -/
def heard (ops : List (Op Empty)) : LocalMembershipManager := .after (.new .igmpv3) ops

/-- The call that follows. -/
def reconcileHeard (ops : List (Op Empty)) : DriadEvent :=
  .reconcile
    { config := .default, protocol := .igmpv3, ecn := false, joins := [],
      manager := some (heard ops) }
    fun _ =>
      { answering := { sent := true, refreshedAt := 0, deadlineFrom := 0, random := none },
        failed := { heldAt := 0, rebuiltAt := 0 }, createdAt := 0, rebuiltAt := 0 }

/-- The second host's report changes nothing of what the first one asks for, and takes its
source out of the reports and its tunnel down. -/
theorem carriesPair_lost_any_source :
    (heard [includeOp]).state.endpointInterest (hostEndpoint 2) ssmGroup = none ∧
      (heard [includeOp, anySourceOp]).state.endpointInterest (hostEndpoint 2) ssmGroup
        = some (.ofExclude []) ∧
      (heard [includeOp]).state.endpointInterest (hostEndpoint 1) ssmGroup
        = some (.ofInclude [ssmSource]) ∧
      (heard [includeOp, anySourceOp]).state.endpointInterest (hostEndpoint 1) ssmGroup
        = some (.ofInclude [ssmSource]) ∧
      carriesPair (desiredDriadReports .igmpv3 [] (some (heard [includeOp]))).1
        ssmSource ssmGroup = true ∧
      carriesPair (desiredDriadReports .igmpv3 [] (some (heard [includeOp, anySourceOp]))).1
        ssmSource ssmGroup = false ∧
      (driadTunnels 64 [reconcileHeard [includeOp]]).contains ssmSource = true ∧
      (driadTunnels 64 [reconcileHeard [includeOp],
        reconcileHeard [includeOp, anySourceOp]]).contains ssmSource = false := by
  refine ⟨?_, ?_, ?_, ?_, ?_, ?_, ?_, ?_⟩ <;> decide +kernel

/-- A host that asks for one source of a group. -/
def oneSourceReport : MembershipReport where
  protocol := .mldv2
  records := [sourceRecord (.v6 (.new 0x2001 0xdb8 0 0 0 0 0 1)) (.v6 (.new 0xff3e 0 0 0 0 0 0 1))]

/-- Its report leaves a join for another source of the group as it is. -/
theorem carriesPair_added_include :
    carriesPair (desiredDriadReports .mldv2
      [{ group := .v6 (.new 0xff3e 0 0 0 0 0 0 1),
         source := some (.v6 (.new 0x2001 0xdb8 0 0 0 0 0 2)) }]
      (some (.after (.new .mldv2) (hostOps [oneSourceReport])))).1
        (.v6 (.new 0x2001 0xdb8 0 0 0 0 0 2)) (.v6 (.new 0xff3e 0 0 0 0 0 0 1)) = true := by
  have hstate : (LocalMembershipManager.after (.new .mldv2) (hostOps [oneSourceReport])).state
      = (RelayState.default.applyReport unnumberedHost oneSourceReport).1 := by
    rw [state_after_hostOps]
    · rcases RelayState.applyReportLimited_cases RelayState.wellFormed_default.indexed
        unnumberedHost oneSourceReport .default with ⟨-, -, heq⟩ | ⟨error, heq⟩
      · exact congrArg Prod.fst heq
      · have hok : (RelayState.default.applyReportLimited unnumberedHost oneSourceReport
            .default).2 = .ok 1 := by
          decide +kernel
        rw [heq] at hok
        cases hok
    · intro report hreport
      obtain rfl := List.mem_singleton.mp hreport
      exact ⟨rfl, ⟨_, rfl⟩, ⟨by decide, by decide⟩⟩
  refine (carriesPair_added_iff (.new .mldv2) _ [] (hostOps [oneSourceReport]) unnumberedHost
    (.v6 (.new 0xff3e 0 0 0 0 0 0 1)) (.ofInclude [.v6 (.new 0x2001 0xdb8 0 0 0 0 0 1)])
    (by decide +kernel) (fun e g => ?_) _ _ (by decide +kernel)).mpr ?_
  · have hnothing : ∀ e g, RelayState.default.endpointInterest e g = none := by
      intro e g
      simp [RelayState.default, RelayState.endpointInterest]
    show _ = if _ then _ else RelayState.default.endpointInterest e g
    rw [hstate, RelayState.endpointInterest_applyReport, hnothing]
    by_cases he : unnumberedHost = e
    · by_cases hg : (.v6 (.new 0xff3e 0 0 0 0 0 0 1) : IpAddr) = g
      · subst he hg
        decide +kernel
      · have hothers : oneSourceReport.records.filter (fun record => record.group = g) = [] := by
          simp [oneSourceReport, sourceRecord, hg]
        rw [hothers, if_pos he, if_neg fun h => hg h.2.symm]
        rfl
    · rw [if_neg he, if_neg fun h => he h.1.symm]
  · rintro ⟨-, -, ⟨⟩⟩

end Amt

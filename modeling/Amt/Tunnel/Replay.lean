import Amt.State.Subscriptions
import Amt.Tunnel

/-!
# Replaying the complete state over a lossy tunnel

Membership updates travel over UDP, so any of them may be lost.  The gateway's remedy is
to replay its complete state: `replace_memberships` sends a record for every group it
wants and, for every group it wanted before and no longer wants, a leave.

The leaves are computed from the gateway's own reception state, and that state is updated
when the report is *sent*.  So a leave is sent once: if its datagram is lost, the gateway
has already forgotten the group, and no later replay mentions it.

`replay_synced_iff` says exactly when a replay brings the two sides together: every group
the relay still holds for the gateway must be named by the report or still be in the
gateway's reception state.  `lost_leave_is_never_repaired` is a run of three replays in
which it is not.
-/

namespace Amt

/-! ## What a complete report does to a table -/

/-- A complete state report: each group once, with its sources or in Exclude mode. -/
structure MembershipReport.IsCompleteState (report : MembershipReport) : Prop where
  once : (report.records.map fun record => record.group).Nodup
  state : ∀ record ∈ report.records,
    (record.kind = .modeIsInclude ∧ record.sources ≠ []) ∨ record.kind = .modeIsExclude

/-- The report names the group. -/
def MembershipReport.Names (report : MembershipReport) (g : IpAddr) : Prop :=
  g ∈ report.records.map fun record => record.group

theorem actRecords_append (records records' : List MembershipRecord) (held : Memberships) :
    actRecords (records ++ records') held = actRecords records' (actRecords records held) := by
  funext g
  simp only [actRecords, List.filter_append, List.foldl_append]

theorem actRecords_of_mem {records : List MembershipRecord}
    (honce : (records.map fun record => record.group).Nodup) {record : MembershipRecord}
    (hrecord : record ∈ records) (held : Memberships) :
    actRecords records held record.group = record.effect (held record.group) := by
  rw [actRecords, filter_group_of_mem honce hrecord]
  rfl

theorem actRecords_of_not_mem {records : List MembershipRecord} {g : IpAddr}
    (h : g ∉ records.map fun record => record.group) (held : Memberships) :
    actRecords records held g = held g := by
  rw [actRecords, filter_group_eq_nil_iff.mpr h]
  rfl

/-- **A named group ends up the same** whatever was held before: a state record overwrites. -/
theorem MembershipReport.IsCompleteState.act_eq {report : MembershipReport}
    (h : report.IsCompleteState) {g : IpAddr} (hg : report.Names g) (held held' : Memberships) :
    report.act held g = report.act held' g := by
  obtain ⟨record, hrecord, rfl⟩ := List.mem_map.mp hg
  rw [MembershipReport.act, MembershipReport.act, actRecords_of_mem h.once hrecord,
    actRecords_of_mem h.once hrecord]
  rcases h.state record hrecord with ⟨hkind, -⟩ | hkind
  · simp [MembershipRecord.effect, hkind]
  · simp [MembershipRecord.effect, hkind]

theorem actRecords_of_leaves {records : List MembershipRecord} {g : IpAddr}
    (hleaves : ∀ record ∈ records, record.IsLeave)
    (hg : g ∈ records.map fun record => record.group) (held : Memberships) :
    actRecords records held g = none := by
  refine RelayState.foldl_effect_of_leaves (fun record hrecord => ?_) ?_ (held g)
  · exact hleaves record (List.mem_filter.mp hrecord).1
  · exact fun hnil => filter_group_eq_nil_iff.mp hnil hg

/-! ## The reception state -/

namespace Gateway

/-- The reception state is well formed and has no endpoint but its own. -/
structure SingleTable (gateway : Gateway) : Prop where
  wellFormed : gateway.receptionState.WellFormed
  single : ∀ e g, e ≠ receptionStateEndpoint →
    gateway.receptionState.endpointInterest e g = none

variable {gateway : Gateway}

theorem SingleTable.of_eq (h : gateway.SingleTable) {gateway' : Gateway}
    (hsame : gateway'.receptionState = gateway.receptionState) : gateway'.SingleTable := by
  constructor
  · rw [hsame]
    exact h.wellFormed
  · rw [hsame]
    exact h.single

theorem SingleTable.of_applyReport (h : gateway.SingleTable) {gateway' : Gateway}
    {report : MembershipReport} (hreception : gateway'.receptionState =
      (gateway.receptionState.applyReport receptionStateEndpoint report).1) :
    gateway'.SingleTable := by
  constructor
  · rw [hreception]
    exact h.wellFormed.applyReport _ _
  · intro e g he
    rw [hreception, RelayState.endpointInterest_applyReport, if_neg he.symm]
    exact h.single e g he

theorem SingleTable.perform (h : gateway.SingleTable) (request : MembershipRequest) :
    (gateway.perform request).1.SingleTable := by
  rcases gateway.perform_cases request with hnone | ⟨_, _, _, -, -, hreception⟩
  · rw [hnone]
    exact h
  · exact h.of_applyReport hreception

/-- The aggregate of a single table lists the groups of that table. -/
theorem SingleTable.mem_keys_iff (h : gateway.SingleTable) (g : IpAddr) :
    g ∈ gateway.receptionState.aggregateInterests.keys ↔
      gateway.receptionInterest g ≠ none := by
  rw [BTreeMap.mem_keys_iff_exists, RelayState.aggregateInterests]
  rcases h.wellFormed.aggregate_cases g with ⟨hnone, hnobody⟩ |
      ⟨merged, hmerged, ⟨e, interest, hinterest⟩, -⟩
  · simp [hnone, receptionInterest, hnobody]
  · have he : e = receptionStateEndpoint := by
      by_contra hne
      rw [h.single e g hne] at hinterest
      cases hinterest
    subst he
    simp [hmerged, receptionInterest, hinterest]

theorem isLeave_of_mem_missingLeaves {report : MembershipReport} {record : MembershipRecord}
    (h : record ∈ gateway.missingLeaves report) : record.IsLeave := by
  obtain ⟨g, -, rfl⟩ := List.mem_map.mp h
  exact .inr ⟨.inr rfl, rfl⟩

theorem SingleTable.mem_missingLeaves_iff (h : gateway.SingleTable) (report : MembershipReport)
    (g : IpAddr) :
    g ∈ (gateway.missingLeaves report).map (fun record => record.group) ↔
      ¬ report.Names g ∧ gateway.receptionInterest g ≠ none := by
  rw [← h.mem_keys_iff g, and_comm]
  simp [missingLeaves, MembershipReport.Names]

/-- **What a replay does to any table**: groups it names see the report, groups the
gateway remembers and does not name are dropped, and all others stay as they were. -/
theorem SingleTable.act_replacementReport (h : gateway.SingleTable) (report : MembershipReport)
    (held : Memberships) (g : IpAddr) :
    (report.Names g → (gateway.replacementReport report).act held g = report.act held g) ∧
      (¬ report.Names g → gateway.receptionInterest g ≠ none →
        (gateway.replacementReport report).act held g = none) ∧
      (¬ report.Names g → gateway.receptionInterest g = none →
        (gateway.replacementReport report).act held g = held g) := by
  have hact : (gateway.replacementReport report).act held =
      actRecords (gateway.missingLeaves report) (report.act held) := actRecords_append _ _ held
  have hleaves := h.mem_missingLeaves_iff report g
  rw [hact]
  refine ⟨fun hnamed => ?_, fun hnamed hheld => ?_, fun hnamed hforgotten => ?_⟩
  · exact actRecords_of_not_mem (mt hleaves.mp fun hboth => hboth.1 hnamed) _
  · exact actRecords_of_leaves (fun record => isLeave_of_mem_missingLeaves)
      (hleaves.mpr ⟨hnamed, hheld⟩) _
  · rw [actRecords_of_not_mem (mt hleaves.mp fun hboth => hboth.2 hforgotten)]
    exact actRecords_of_not_mem hnamed held

end Gateway

/-! ## Runs -/

namespace Tunnel

section Run

variable (hmac : RelaySecret → Bytes → Octets 32) (p : SocketAddr)

/-- The gateway only replays complete states; the relay spares `p` otherwise. -/
def Replaying : TunnelEvent → Prop
  | .request (.replace report) _ => report.IsCompleteState
  | .request _ _ => False
  | event => Spares p event

/-- A step of a tunnel that may lose any datagram. -/
def LossyStep (tunnel : Tunnel) (event : TunnelEvent) (tunnel' : Tunnel) : Prop :=
  Replaying p event ∧ tunnel.step hmac p event = tunnel'

end Run

theorem singleTable_step {hmac : RelaySecret → Bytes → Octets 32} {p : SocketAddr}
    {tunnel : Tunnel} (h : tunnel.gateway.SingleTable) (event : TunnelEvent) :
    (tunnel.step hmac p event).gateway.SingleTable := by
  by_cases hrequest : ∃ request delivery, event = .request request delivery
  · obtain ⟨request, delivery, rfl⟩ := hrequest
    exact h.perform request
  · exact h.of_eq (receptionState_step fun request delivery heq =>
      hrequest ⟨request, delivery, heq⟩)

theorem Fresh.singleTable {p : SocketAddr} {tunnel : Tunnel} (h : tunnel.Fresh p) :
    tunnel.gateway.SingleTable := by
  constructor
  · rw [h.reception]
    exact RelayState.wellFormed_default
  · intro e g _
    rw [h.reception]
    rfl

/-- **When a replay resynchronises the tunnel.**  In every run of replays over a tunnel
that loses any of them, and for every replay that is delivered and accepted: the two
copies agree afterwards exactly when every group that the relay held for `p` before is
named by the report or was still in the gateway's reception state. -/
theorem replay_synced_iff (hmac : RelaySecret → Bytes → Octets 32) (p : SocketAddr)
    {start tunnel : Tunnel} {events : List TunnelEvent} (hstart : start.Fresh p)
    (hrun : Run (LossyStep hmac p) start events tunnel) {report : MembershipReport}
    (hcomplete : report.IsCompleteState) {env : CallEnv}
    {outcome : Outcome RelayError RelayAction}
    (hanswer : tunnel.answer hmac p (.replace report) (some env) = some outcome)
    (haccepted : Relay.acceptsUpdate outcome = true) :
    (∀ g, (tunnel.step hmac p (.request (.replace report) (some env))).relay.state.endpointInterest
        p g =
      (tunnel.step hmac p (.request (.replace report) (some env))).gateway.receptionInterest g) ↔
    ∀ g, tunnel.relay.state.endpointInterest p g ≠ none →
      report.Names g ∨ tunnel.gateway.receptionInterest g ≠ none := by
  have hsingle : tunnel.gateway.SingleTable := by
    refine Run.invariant (I := fun t => t.gateway.SingleTable) ?_ hstart.singleTable hrun
    rintro t event _ h ⟨-, rfl⟩
    exact singleTable_step h event
  obtain ⟨hrelay, hgateway⟩ := step_request_accepted hanswer haccepted
  rw [hrelay, hgateway]
  refine forall_congr' fun g => ?_
  obtain ⟨hnamed, hheld, hforgotten⟩ := hsingle.act_replacementReport report
    (tunnel.relay.state.endpointInterest p) g
  obtain ⟨hnamed', hheld', hforgotten'⟩ := hsingle.act_replacementReport report
    tunnel.gateway.receptionInterest g
  by_cases hname : report.Names g
  · refine iff_of_true ?_ fun _ => .inl hname
    exact (hnamed hname).trans ((hcomplete.act_eq hname _ _).trans (hnamed' hname).symm)
  · by_cases hreception : tunnel.gateway.receptionInterest g = none
    · -- the gateway has forgotten the group: the relay keeps what it held
      simp only [Gateway.requestReport, hforgotten hname hreception,
        hforgotten' hname hreception, hreception, hname, ne_eq, not_true_eq_false, or_self]
      exact not_not.symm
    · refine iff_of_true ?_ fun _ => .inr hreception
      exact (hheld hname hreception).trans (hheld' hname hreception).symm

/-! ### A lost join and a lost leave -/

/-- The complete state "any source of `232.1.1.n`". -/
def onlyGroup (n : UInt8) : MembershipReport :=
  { protocol := .igmpv3
    records := [{ kind := .modeIsExclude, group := .v4 (.new 232 1 1 n), sources := [] }] }

theorem onlyGroup_isCompleteState (n : UInt8) : (onlyGroup n).IsCompleteState :=
  ⟨by simp [onlyGroup], by simp [onlyGroup]⟩

theorem lossyStep_onlyGroup (tunnel : Tunnel) (n : UInt8) (delivery : Option CallEnv) :
    LossyStep zeroDigest samplePeer tunnel (.request (.replace (onlyGroup n)) delivery)
      (tunnel.step zeroDigest samplePeer (.request (.replace (onlyGroup n)) delivery)) :=
  ⟨onlyGroup_isCompleteState n, rfl⟩

/-- A join that was lost is repaired by the next replay. -/
theorem replay_repairs_lost_join :
    ((sample.step zeroDigest samplePeer (.request (.replace (onlyGroup 1)) none)).step
        zeroDigest samplePeer (.request (.replace (onlyGroup 1)) (some sampleEnv))
        ).relay.state.endpointInterest samplePeer =
      ((sample.step zeroDigest samplePeer (.request (.replace (onlyGroup 1)) none)).step
        zeroDigest samplePeer (.request (.replace (onlyGroup 1)) (some sampleEnv))
        ).gateway.receptionInterest := by
  have hanswer : ((sample.step zeroDigest samplePeer
      (.request (.replace (onlyGroup 1)) none)).answer
      zeroDigest samplePeer (.replace (onlyGroup 1)) (some sampleEnv)).any
        Relay.acceptsUpdate = true := by decide +kernel
  obtain ⟨outcome, houtcome, haccepted⟩ := (Option.any_eq_true _ _).mp hanswer
  have hnothing : (sample.step zeroDigest samplePeer
      (.request (.replace (onlyGroup 1)) none)).relay.state = .default := by decide +kernel
  funext g
  refine (replay_synced_iff zeroDigest samplePeer sample_fresh
    (Run.nil.snoc (lossyStep_onlyGroup sample 1 none)) (onlyGroup_isCompleteState 1) houtcome
    haccepted).mpr (fun g hheld => absurd ?_ hheld) g
  rw [hnothing]
  rfl

/-- **A leave that was lost is never sent again.**  The gateway wants group 1, then group 2
instead, and replays that once more; the middle datagram is lost.  The last one is
delivered and accepted, and the relay still forwards group 1 to a gateway that does not
want it. -/
theorem lost_leave_is_never_repaired :
    ∃ (tunnel : Tunnel) (events : List TunnelEvent),
      sample.Fresh samplePeer ∧ Run (LossyStep zeroDigest samplePeer) sample events tunnel ∧
        (onlyGroup 2).IsCompleteState ∧
        (tunnel.answer zeroDigest samplePeer (.replace (onlyGroup 2)) (some sampleEnv)).any
          Relay.acceptsUpdate = true ∧
        (tunnel.step zeroDigest samplePeer
          (.request (.replace (onlyGroup 2)) (some sampleEnv))).relay.state.endpointInterest
            samplePeer (.v4 (.new 232 1 1 1)) = some (.ofExclude []) ∧
        (tunnel.step zeroDigest samplePeer
          (.request (.replace (onlyGroup 2)) (some sampleEnv))).gateway.receptionInterest
            (.v4 (.new 232 1 1 1)) = none := by
  refine ⟨(sample.step zeroDigest samplePeer
      (.request (.replace (onlyGroup 1)) (some sampleEnv))).step zeroDigest samplePeer
        (.request (.replace (onlyGroup 2)) none), _, sample_fresh,
    (Run.nil.snoc (lossyStep_onlyGroup _ 1 _)).snoc (lossyStep_onlyGroup _ 2 none),
    onlyGroup_isCompleteState 2, ?_, ?_, ?_⟩
  · decide +kernel
  · decide +kernel
  · decide +kernel

end Tunnel

end Amt

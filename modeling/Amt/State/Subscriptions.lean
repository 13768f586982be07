import Amt.State.Aggregate
import Amt.State.Limits

/-!
# Counting native subscriptions

The number of native subscriptions is the sum over groups of what the filters of the
group need together: one any-source subscription as soon as one of them is an Exclude
filter, one subscription per included source otherwise (`upstreamNeed`).

This need is *not monotone* in the filters.  When the last Exclude filter of a group
goes away, its one subscription is replaced by one for every source that the remaining
gateways include.  So dropping interest can raise the number of subscriptions, and
`releaseFits` is the exact arithmetic condition under which it stays within the limit,
in terms of the state before: what the other endpoints of the released groups need
without the leaving endpoint, against what these groups needed with it.

Two paths drop interest.  `remove_endpoint` checks no limit, so that a removal which
does not fit leaves the relay above its limit (`afterLimited_subscriptions_le_iff`).
`apply_report_limited` checks it after the fact, so that a report of leaves which does
not fit is refused (`applyReportLimited_leaves_ok_iff`).
-/

namespace Amt

open Std (ExtTreeMap ExtTreeSet)

/-! ## The need of a group -/

/-- The number of native subscriptions the filters of one group need. -/
def upstreamNeed (interests : List GroupInterest) : ℕ :=
  if interests.any fun i => i.mode = .Exclude then 1
  else (interests.flatMap fun i => i.sources.toList).toFinset.card

/-- The need depends on which filters there are, not on their order or multiplicity. -/
theorem upstreamNeed_congr {interests interests' : List GroupInterest}
    (h : ∀ i, i ∈ interests ↔ i ∈ interests') :
    upstreamNeed interests = upstreamNeed interests' := by
  have hany : (interests.any fun i => i.mode = .Exclude) =
      interests'.any fun i => i.mode = .Exclude := by
    rw [Bool.eq_iff_iff, List.any_eq_true, List.any_eq_true]
    simp only [h]
  have hsources : (interests.flatMap fun i => i.sources.toList).toFinset =
      (interests'.flatMap fun i => i.sources.toList).toFinset := by
    ext source
    simp only [List.mem_toFinset, List.mem_flatMap, h]
  rw [upstreamNeed, upstreamNeed, hany, hsources]

namespace RelayState

/-- The filters of a group. -/
def interestsIn (state : RelayState) (g : IpAddr) : List GroupInterest :=
  (heldIn state.endpoints g).map fun x => x.2.2

/-- The filters of a group, without those of one endpoint. -/
def interestsWithout (state : RelayState) (endpoint : SocketAddr) (g : IpAddr) :
    List GroupInterest :=
  ((heldIn state.endpoints g).filter fun x => x.1 ≠ endpoint).map fun x => x.2.2

/-- The groups an endpoint holds an interest in. -/
def heldGroups (state : RelayState) (endpoint : SocketAddr) : List IpAddr :=
  (state.endpoints[endpoint]?.getD .default).groups.keys

variable {state : RelayState}

theorem mem_interestsIn {g : IpAddr} {interest : GroupInterest} :
    interest ∈ state.interestsIn g ↔ ∃ e, state.endpointInterest e g = some interest :=
  mem_map_heldIn

theorem mem_interestsWithout {endpoint : SocketAddr} {g : IpAddr} {interest : GroupInterest} :
    interest ∈ state.interestsWithout endpoint g ↔
      ∃ e, e ≠ endpoint ∧ state.endpointInterest e g = some interest := by
  rw [interestsWithout, List.mem_map]
  constructor
  · rintro ⟨x, hx, rfl⟩
    obtain ⟨hheld, hne⟩ := List.mem_filter.mp hx
    exact ⟨x.1, of_decide_eq_true hne, (mem_heldIn.mp hheld).2⟩
  · rintro ⟨e, hne, hinterest⟩
    exact ⟨(e, g, interest),
      List.mem_filter.mpr ⟨mem_heldIn.mpr ⟨rfl, hinterest⟩, decide_eq_true hne⟩, rfl⟩

theorem mem_heldGroups {endpoint : SocketAddr} {g : IpAddr} :
    g ∈ state.heldGroups endpoint ↔
      ∃ interest, state.endpointInterest endpoint g = some interest := by
  rw [heldGroups, BTreeMap.mem_keys_iff_exists]
  simp only [getElem?_groups_getD]

theorem heldGroups_nodup (endpoint : SocketAddr) : (state.heldGroups endpoint).Nodup :=
  BTreeMap.keys_nodup _

/-! ## Subscriptions, counted group by group -/

/-- The subscriptions of one group. -/
def subscriptionsIn (state : RelayState) (g : IpAddr) : Finset UpstreamSubscription :=
  (BTreeSet.toFinset state.subscriptions).filter fun subscription => subscription.group = g

/-- **A well-formed state holds in each group exactly what its filters need.** -/
theorem WellFormed.card_subscriptionsIn (h : state.WellFormed) (g : IpAddr) :
    (state.subscriptionsIn g).card = upstreamNeed (state.interestsIn g) := by
  have hexclude : ((state.interestsIn g).any fun i => i.mode = .Exclude) = true ↔
      state.SomeExclude g := by
    rw [List.any_eq_true]
    constructor
    · rintro ⟨i, hi, hmode⟩
      obtain ⟨e, hinterest⟩ := mem_interestsIn.mp hi
      exact ⟨e, i, hinterest, of_decide_eq_true hmode⟩
    · rintro ⟨e, i, hinterest, hmode⟩
      exact ⟨i, mem_interestsIn.mpr ⟨e, hinterest⟩, decide_eq_true hmode⟩
  have hmem : ∀ subscription, subscription ∈ state.subscriptionsIn g ↔
      subscription ∈ state.subscriptions ∧ subscription.group = g := by
    simp [subscriptionsIn]
  unfold upstreamNeed
  by_cases hsome : state.SomeExclude g
  · rw [if_pos (hexclude.mpr hsome), Finset.card_eq_one]
    refine ⟨.asm g, Finset.ext fun subscription => ?_⟩
    rw [hmem, Finset.mem_singleton]
    constructor
    · rintro ⟨hheld, rfl⟩
      obtain ⟨group, _ | source⟩ := subscription
      · rfl
      · exact absurd hsome ((h.mem_subscriptions_ssm group source).mp hheld).1
    · rintro rfl
      exact ⟨(h.mem_subscriptions_asm g).mpr hsome, rfl⟩
  · rw [if_neg (hexclude.not.mpr hsome)]
    -- without an Exclude filter the subscriptions are the included sources
    have himage : state.subscriptionsIn g =
        ((state.interestsIn g).flatMap fun i => i.sources.toList).toFinset.image (.ssm g) := by
      ext subscription
      rw [hmem, Finset.mem_image]
      constructor
      · rintro ⟨hheld, rfl⟩
        obtain ⟨group, _ | source⟩ := subscription
        · exact absurd ((h.mem_subscriptions_asm group).mp hheld) hsome
        · obtain ⟨-, e, i, hinterest, -, hsource⟩ :=
            (h.mem_subscriptions_ssm group source).mp hheld
          refine ⟨source, ?_, rfl⟩
          rw [List.mem_toFinset, List.mem_flatMap]
          exact ⟨i, mem_interestsIn.mpr ⟨e, hinterest⟩, ExtTreeSet.mem_toList.mpr hsource⟩
      · rintro ⟨source, hsource, rfl⟩
        rw [List.mem_toFinset, List.mem_flatMap] at hsource
        obtain ⟨i, hi, hsource⟩ := hsource
        obtain ⟨e, hinterest⟩ := mem_interestsIn.mp hi
        have hmode : i.mode = .Include := by
          cases hmode : i.mode with
          | Include => rfl
          | Exclude => exact absurd ⟨e, i, hinterest, hmode⟩ hsome
        exact ⟨(h.mem_subscriptions_ssm g source).mpr
          ⟨hsome, e, i, hinterest, hmode, ExtTreeSet.mem_toList.mp hsource⟩, rfl⟩
    rw [himage]
    refine Finset.card_image_of_injective _ fun source source' heq => ?_
    exact Option.some.inj (congrArg UpstreamSubscription.source heq)

/-- The number of subscriptions, over any set of groups that contains all of theirs. -/
theorem WellFormed.size_subscriptions (h : state.WellFormed) {groups : Finset IpAddr}
    (hgroups : ∀ subscription ∈ state.subscriptions, subscription.group ∈ groups) :
    state.subscriptions.size = ∑ g ∈ groups, upstreamNeed (state.interestsIn g) := by
  rw [← BTreeSet.card_toFinset,
    Finset.card_eq_sum_card_fiberwise (f := UpstreamSubscription.group) (t := groups)]
  · exact Finset.sum_congr rfl fun g _ => h.card_subscriptionsIn g
  · intro subscription hmem
    exact hgroups subscription (BTreeSet.mem_toFinset.mp hmem)

/-! ## Releasing groups -/

/-- `state'` is `state` after one endpoint gave up its interest in some groups. -/
def Releases (state : RelayState) (endpoint : SocketAddr) (released : List IpAddr)
    (state' : RelayState) : Prop :=
  ∀ (e : SocketAddr) (g : IpAddr), state'.endpointInterest e g =
    if e = endpoint ∧ g ∈ released then none else state.endpointInterest e g

theorem Releases.shrinks {endpoint : SocketAddr} {released : List IpAddr} {state' : RelayState}
    (h : state.Releases endpoint released state') : state.Shrinks state' := by
  intro e g interest hinterest
  rw [h e g] at hinterest
  split at hinterest
  · cases hinterest
  · exact hinterest

/-- **What a release does to the number of subscriptions**: the released groups are
counted anew without the endpoint, all others are as before. -/
theorem Releases.size_subscriptions {endpoint : SocketAddr} {released : List IpAddr}
    {state' : RelayState} (h : state.Releases endpoint released state') (hwf : state.WellFormed)
    (hwf' : state'.WellFormed) (hnodup : released.Nodup) :
    state'.subscriptions.size +
        (released.map fun g => upstreamNeed (state.interestsIn g)).sum =
      state.subscriptions.size +
        (released.map fun g => upstreamNeed (state.interestsWithout endpoint g)).sum := by
  -- all groups that either state subscribes to, and the released ones
  let groups : Finset IpAddr :=
    (BTreeSet.toFinset state.subscriptions ∪ BTreeSet.toFinset state'.subscriptions).image
      UpstreamSubscription.group ∪ released.toFinset
  have hgroups : ∀ subscription : UpstreamSubscription,
      subscription ∈ state.subscriptions ∨ subscription ∈ state'.subscriptions →
        subscription.group ∈ groups := by
    intro subscription hmem
    refine Finset.mem_union_left _ (Finset.mem_image_of_mem _ ?_)
    simpa using hmem
  have hreleased : released.toFinset ⊆ groups := Finset.subset_union_right
  have hafter_in : ∀ g ∈ released.toFinset,
      upstreamNeed (state'.interestsIn g) = upstreamNeed (state.interestsWithout endpoint g) := by
    intro g hg
    refine upstreamNeed_congr fun i => ?_
    rw [mem_interestsIn, mem_interestsWithout]
    refine exists_congr fun e => ?_
    rw [h e g]
    by_cases he : e = endpoint
    · simp [he, List.mem_toFinset.mp hg]
    · simp [he]
  have hafter_out : ∀ g ∈ groups \ released.toFinset,
      upstreamNeed (state'.interestsIn g) = upstreamNeed (state.interestsIn g) := by
    intro g hg
    refine upstreamNeed_congr fun i => ?_
    have hnot : g ∉ released := fun hmem =>
      (Finset.mem_sdiff.mp hg).2 (List.mem_toFinset.mpr hmem)
    simp only [mem_interestsIn, h _ g, hnot, and_false, if_false]
  rw [hwf.size_subscriptions fun s hs => hgroups s (.inl hs),
    hwf'.size_subscriptions fun s hs => hgroups s (.inr hs),
    ← Finset.sum_sdiff hreleased, ← Finset.sum_sdiff hreleased, Finset.sum_congr rfl hafter_in,
    Finset.sum_congr rfl hafter_out, ← List.sum_toFinset _ hnodup, ← List.sum_toFinset _ hnodup]
  exact Nat.add_right_comm _ _ _

/-- The release stays within the limit on native subscriptions: what the released groups
need without the endpoint is paid for by what they needed with it and by the room that
is left. -/
def releaseFits (limits : RelayLimits) (state : RelayState) (endpoint : SocketAddr)
    (released : List IpAddr) : Prop :=
  state.subscriptions.size +
      (released.map fun g => upstreamNeed (state.interestsWithout endpoint g)).sum ≤
    limits.maxUpstreamSubscriptions +
      (released.map fun g => upstreamNeed (state.interestsIn g)).sum

theorem Releases.size_le_iff {endpoint : SocketAddr} {released : List IpAddr}
    {state' : RelayState} (h : state.Releases endpoint released state') (hwf : state.WellFormed)
    (hwf' : state'.WellFormed) (hnodup : released.Nodup) (limits : RelayLimits) :
    state'.subscriptions.size ≤ limits.maxUpstreamSubscriptions ↔
      releaseFits limits state endpoint released := by
  have hsize := h.size_subscriptions hwf hwf' hnodup
  unfold releaseFits
  omega

/-! ## Removals -/

theorem releases_removeEndpoint (state : RelayState) (endpoint : SocketAddr) :
    state.Releases endpoint (state.heldGroups endpoint) (state.removeEndpoint endpoint).1 := by
  intro e g
  rw [endpointInterest_removeEndpoint]
  by_cases he : endpoint = e
  · subst he
    by_cases hg : g ∈ state.heldGroups endpoint
    · simp [hg]
    · have hnone : state.endpointInterest endpoint g = none := by
        cases hinterest : state.endpointInterest endpoint g with
        | none => rfl
        | some interest => exact absurd (mem_heldGroups.mpr ⟨interest, hinterest⟩) hg
      simp [hg, hnone]
  · simp [he, Ne.symm he]

theorem WellFormed.size_removeEndpoint_le_iff (h : state.WellFormed) (endpoint : SocketAddr)
    (limits : RelayLimits) :
    (state.removeEndpoint endpoint).1.subscriptions.size ≤ limits.maxUpstreamSubscriptions ↔
      releaseFits limits state endpoint (state.heldGroups endpoint) :=
  (releases_removeEndpoint state endpoint).size_le_iff h (h.removeEndpoint endpoint)
    (heldGroups_nodup endpoint) limits

/-- A report never raises the number of subscriptions above the limit. -/
theorem WellFormed.size_applyReportLimited_le (h : state.WellFormed) {limits : RelayLimits}
    (hle : state.subscriptions.size ≤ limits.maxUpstreamSubscriptions) (endpoint : SocketAddr)
    (report : MembershipReport) :
    (state.applyReportLimited endpoint report limits).1.subscriptions.size ≤
      limits.maxUpstreamSubscriptions := by
  rcases applyReportLimited_cases h.indexed endpoint report limits with
    ⟨-, hchecks, heq⟩ | ⟨error, heq⟩
  · rw [heq]
    exact (checkLimits_eq_ok_iff.mp hchecks).2.2.2.2.2.2
  · rw [heq]
    exact hle

theorem length_upstreamSubscriptions (state : RelayState) :
    state.upstreamSubscriptions.length = state.subscriptions.size :=
  ExtTreeSet.length_toList

/-- The state one call later. -/
theorem afterLimited_take_succ {limits : RelayLimits} {ops : List LimitedOp} {k : ℕ}
    {op : LimitedOp} (h : ops[k]? = some op) :
    afterLimited limits (ops.take (k + 1)) =
      (afterLimited limits (ops.take k)).limitedStep limits op := by
  rw [List.take_add_one, h, afterLimited, List.foldl_append]
  rfl

/-- **Exactly the removals that do not fit break the limit.**  In a run under fixed
limits the number of native subscriptions is within its limit in every state if and only
if every removal of the run fits the state it is made in. -/
theorem afterLimited_subscriptions_le_iff (limits : RelayLimits) (ops : List LimitedOp) :
    (∀ k, (afterLimited limits (ops.take k)).upstreamSubscriptions.length ≤
        limits.maxUpstreamSubscriptions) ↔
      ∀ (k : ℕ) (endpoint : SocketAddr), ops[k]? = some (.remove endpoint) →
        releaseFits limits (afterLimited limits (ops.take k)) endpoint
          ((afterLimited limits (ops.take k)).heldGroups endpoint) := by
  simp only [length_upstreamSubscriptions]
  constructor
  · intro hle k endpoint hop
    refine ((wellFormed_afterLimited limits _).size_removeEndpoint_le_iff endpoint limits).mp ?_
    have hafter := hle (k + 1)
    rw [afterLimited_take_succ hop] at hafter
    exact hafter
  · intro hfits k
    induction k with
    | zero => exact Nat.zero_le _
    | succ k ih =>
        have hwf := wellFormed_afterLimited limits (ops.take k)
        cases hop : ops[k]? with
        | none =>
            rw [List.take_add_one, hop, Option.toList_none, List.append_nil]
            exact ih
        | some op =>
            rw [afterLimited_take_succ hop]
            cases op with
            | report endpoint report => exact hwf.size_applyReportLimited_le ih endpoint report
            | remove endpoint =>
                exact (hwf.size_removeEndpoint_le_iff endpoint limits).mpr (hfits k endpoint hop)

/-! ## Leaves -/

end RelayState

/-- The record asks for nothing any more. -/
def MembershipRecord.IsLeave (record : MembershipRecord) : Prop :=
  record.kind = .legacyLeave ∨
    (record.kind = .modeIsInclude ∨ record.kind = .changeToInclude) ∧ record.sources = []

instance (record : MembershipRecord) : Decidable record.IsLeave :=
  inferInstanceAs (Decidable (_ ∨ _))

theorem MembershipRecord.IsLeave.effect_eq_none {record : MembershipRecord} (h : record.IsLeave)
    (held : Option GroupInterest) : record.effect held = none := by
  rcases h with hkind | ⟨hkind | hkind, hsources⟩
  · simp [effect, hkind]
  · simp [effect, hkind, hsources]
  · simp [effect, hkind, hsources]

namespace RelayState

variable {state : RelayState}

/-- The groups of an endpoint that a report names. -/
def reportedGroups (state : RelayState) (endpoint : SocketAddr) (report : MembershipReport) :
    List IpAddr :=
  (state.heldGroups endpoint).filter fun g => report.records.any fun record => record.group = g

theorem foldl_effect_of_leaves {records : List MembershipRecord}
    (hleaves : ∀ record ∈ records, record.IsLeave) (hne : records ≠ [])
    (held : Option GroupInterest) :
    records.foldl (fun held record => record.effect held) held = none := by
  induction records using List.reverseRecOn with
  | nil => exact absurd rfl hne
  | append_singleton records record _ =>
      rw [List.foldl_append]
      exact (hleaves record (by simp)).effect_eq_none _

/-- Leaving only releases, and only in the groups of the report. -/
theorem releases_applyReport_of_leaves (state : RelayState) (endpoint : SocketAddr)
    {report : MembershipReport} (hleaves : ∀ record ∈ report.records, record.IsLeave) :
    state.Releases endpoint (state.reportedGroups endpoint report)
      (state.applyReport endpoint report).1 := by
  intro e g
  rw [endpointInterest_applyReport]
  by_cases he : endpoint = e
  · subst he
    have hmem : g ∈ state.reportedGroups endpoint report ↔
        (∃ interest, state.endpointInterest endpoint g = some interest) ∧
          report.records.filter (fun record => record.group = g) ≠ [] := by
      rw [reportedGroups, List.mem_filter, mem_heldGroups]
      simp
    rw [if_pos rfl]
    by_cases hnamed : report.records.filter (fun record => record.group = g) = []
    · have : g ∉ state.reportedGroups endpoint report := fun h => (hmem.mp h).2 hnamed
      simp [hnamed, this]
    · -- the last record about the group empties it
      rw [foldl_effect_of_leaves (fun record h => hleaves record (List.mem_filter.mp h).1) hnamed]
      cases hinterest : state.endpointInterest endpoint g with
      | none => simp
      | some interest => simp [hmem.mpr ⟨⟨interest, hinterest⟩, hnamed⟩]
  · simp [he, Ne.symm he]

/-- A report is refused only by its own size or by the state after it. -/
theorem applyReportLimited_isOk_iff (hindexed : state.rebuildIndexes = state)
    {endpoint : SocketAddr} {report : MembershipReport} {limits : RelayLimits} :
    (∃ applied, (state.applyReportLimited endpoint report limits).2 = .ok applied) ↔
      checkReport report limits = .ok () ∧
        (state.applyReport endpoint report).1.checkLimits endpoint limits = .ok () := by
  constructor
  · rintro ⟨applied, hok⟩
    rcases applyReportLimited_cases hindexed endpoint report limits with
      ⟨hreport, hchecks, -⟩ | ⟨error, heq⟩
    · exact ⟨hreport, hchecks⟩
    · rw [heq] at hok
      cases hok
  · rintro ⟨hreport, hchecks⟩
    refine ⟨(state.applyReport endpoint report).2, ?_⟩
    unfold applyReportLimited
    simp only [hreport, hchecks]

/-- A state within its limits passes every check but the one on subscriptions. -/
theorem WithinLimits.checkLimits_eq_ok_iff {limits : RelayLimits} (h : state.WithinLimits limits)
    (endpoint : SocketAddr) :
    state.checkLimits endpoint limits = .ok () ↔
      state.subscriptions.size ≤ limits.maxUpstreamSubscriptions := by
  rw [RelayState.checkLimits_eq_ok_iff]
  constructor
  · rintro ⟨-, -, -, -, -, -, hsize⟩
    exact hsize
  · intro hsize
    refine ⟨h.endpoints, h.perIp endpoint.ip, ?_, ?_, h.totalGroups, h.totalSources, hsize⟩
    · cases hstate : state.endpoints[endpoint]? with
      | none => exact Nat.zero_le _
      | some endpointState => exact h.groups endpoint endpointState hstate
    · cases hstate : state.endpoints[endpoint]? with
      | none => exact Nat.zero_le _
      | some endpointState =>
          exact maxGroupSourceCount_le_iff.mpr (h.sources endpoint endpointState hstate)

/-- **Exactly the leaves that fit are accepted.**  In every state a relay reaches under
fixed limits, a report of at most the permitted number of leaves is accepted if and only
if none of its records carries more sources than a group may have and the release of the
groups it names fits. -/
theorem applyReportLimited_leaves_ok_iff (limits : RelayLimits) (ops : List LimitedOp)
    (endpoint : SocketAddr) (report : MembershipReport)
    (hcount : report.records.length ≤ limits.maxRecordsPerReport)
    (hleaves : ∀ record ∈ report.records, record.IsLeave) :
    (∃ applied,
        ((afterLimited limits ops).applyReportLimited endpoint report limits).2 = .ok applied) ↔
      (∀ record ∈ report.records, record.sources.length ≤ limits.maxSourcesPerGroup) ∧
        releaseFits limits (afterLimited limits ops) endpoint
          ((afterLimited limits ops).reportedGroups endpoint report) := by
  have hwf := wellFormed_afterLimited limits ops
  have hlimits := withinLimits_afterLimited limits ops
  generalize afterLimited limits ops = state at hwf hlimits
  have hreleases := releases_applyReport_of_leaves state endpoint hleaves
  have hwf' := hwf.applyReport endpoint report
  have hlimits' := hlimits.of_shrinks hwf hwf' hreleases.shrinks
  rw [applyReportLimited_isOk_iff hwf.indexed, checkReport_eq_ok_iff,
    hlimits'.checkLimits_eq_ok_iff endpoint,
    hreleases.size_le_iff hwf hwf' ((heldGroups_nodup endpoint).filter _) limits]
  exact ⟨fun h => ⟨h.1.2, h.2⟩, fun h => ⟨⟨hcount, h.1⟩, h.2⟩⟩

/-! ## A last any-source gateway

Two gateways of one group under a limit of one native subscription: the first excludes
nothing, so the group needs its any-source subscription only, and the second may include
two sources.  Without the first the group needs two. -/

/-- The default limits with room for one native subscription. -/
def oneSubscription : RelayLimits := { RelayLimits.default with maxUpstreamSubscriptions := 1 }

def anySourceGateway : SocketAddr := .v4 (.new 192 0 2 1) 5001
def twoSourceGateway : SocketAddr := .v4 (.new 192 0 2 2) 5002
def sharedGroup : IpAddr := .v4 (.new 232 1 1 1)
def sourceOne : IpAddr := .v4 (.new 198 51 100 1)
def sourceTwo : IpAddr := .v4 (.new 198 51 100 2)

/-- Both gateways join. -/
def bothJoined : List LimitedOp :=
  [.report anySourceGateway ⟨.igmpv3, [⟨.changeToExclude, sharedGroup, []⟩]⟩,
    .report twoSourceGateway ⟨.igmpv3, [⟨.changeToInclude, sharedGroup, [sourceOne, sourceTwo]⟩]⟩]

/-- Removing the first gateway leaves two subscriptions where one is allowed. -/
theorem removal_exceeds_subscription_limit :
    (afterLimited oneSubscription
        (bothJoined ++ [.remove anySourceGateway])).upstreamSubscriptions =
        [.ssm sharedGroup sourceOne, .ssm sharedGroup sourceTwo] ∧
      oneSubscription.maxUpstreamSubscriptions = 1 := by
  decide +kernel

/-- The first gateway's leave is refused for the same reason. -/
theorem leave_refused_for_subscription_limit :
    MembershipRecord.IsLeave ⟨.changeToInclude, sharedGroup, []⟩ ∧
      ((afterLimited oneSubscription bothJoined).applyReportLimited anySourceGateway
        ⟨.igmpv3, [⟨.changeToInclude, sharedGroup, []⟩]⟩ oneSubscription).2 =
        .err { resource := "upstream subscriptions", requested := 2, limit := 1 } := by
  decide +kernel

/-- The second gateway may leave: the group keeps its any-source subscription. -/
theorem leave_accepted_for_included_sources :
    (∃ applied,
        ((afterLimited oneSubscription bothJoined).applyReportLimited twoSourceGateway
          ⟨.igmpv3, [⟨.changeToInclude, sharedGroup, []⟩]⟩ oneSubscription).2 = .ok applied) :=
  (applyReportLimited_leaves_ok_iff oneSubscription bothJoined twoSourceGateway
    ⟨.igmpv3, [⟨.changeToInclude, sharedGroup, []⟩]⟩ (by decide +kernel)
    (by decide +kernel)).mpr ⟨by decide +kernel, by unfold releaseFits; decide +kernel⟩

end RelayState

end Amt

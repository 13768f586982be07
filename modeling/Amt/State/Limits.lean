import Amt.State.Index

/-!
# Resource limits over whole runs

`apply_report_limited` checks, after each report, the reporting endpoint, its IP and
the global counters.  Nothing re-checks the other endpoints, so that *their* bounds hold
is a property of runs: a report touches one endpoint only, a refused report is rolled
back, and a removal shrinks every quantity bounded here (`WithinLimits`).

The number of native subscriptions is not among them: it can grow when interest is
removed, and is treated on its own.
-/

namespace Amt

open Std (ExtTreeMap ExtTreeSet)

namespace RelayState

/-! ## Runs under fixed limits -/

/-- The calls of a relay that enforces its limits. -/
inductive LimitedOp where
  | report (endpoint : SocketAddr) (report : MembershipReport)
  | remove (endpoint : SocketAddr)
deriving DecidableEq

/-- The state after one operation. -/
def limitedStep (limits : RelayLimits) (state : RelayState) : LimitedOp → RelayState
  | .report endpoint report => (state.applyReportLimited endpoint report limits).1
  | .remove endpoint => (state.removeEndpoint endpoint).1

/-- The state after a sequence of calls under fixed limits. -/
def afterLimited (limits : RelayLimits) (ops : List LimitedOp) : RelayState :=
  ops.foldl (limitedStep limits) .default

theorem WellFormed.limitedStep {state : RelayState} (h : state.WellFormed) (limits : RelayLimits)
    (op : LimitedOp) : (state.limitedStep limits op).WellFormed := by
  cases op with
  | report endpoint report => exact h.applyReportLimited endpoint report limits
  | remove endpoint => exact h.removeEndpoint endpoint

theorem wellFormed_afterLimited (limits : RelayLimits) (ops : List LimitedOp) :
    (afterLimited limits ops).WellFormed :=
  List.foldlRecOn ops (limitedStep limits) wellFormed_default fun _ hstate op _ =>
    hstate.limitedStep limits op

/-! ## What passing the checks says -/

theorem checkLimits_eq_ok_iff {state : RelayState} {endpoint : SocketAddr} {limits : RelayLimits} :
    state.checkLimits endpoint limits = .ok () ↔
      state.endpoints.size ≤ limits.maxEndpoints ∧
      state.endpointCountForIp endpoint.ip ≤ limits.maxEndpointsPerIp ∧
      (state.endpoints[endpoint]?.elim 0 fun s => s.groups.size) ≤ limits.maxGroupsPerEndpoint ∧
      maxGroupSourceCount state.endpoints[endpoint]? ≤ limits.maxSourcesPerGroup ∧
      state.totalEndpointGroups ≤ limits.maxTotalEndpointGroups ∧
      state.totalSources ≤ limits.maxTotalSources ∧
      state.subscriptions.size ≤ limits.maxUpstreamSubscriptions := by
  simp [checkLimits, checkLimit, Outcome.bind_eq_ok_iff]

theorem checkReport_eq_ok_iff {report : MembershipReport} {limits : RelayLimits} :
    checkReport report limits = .ok () ↔
      report.records.length ≤ limits.maxRecordsPerReport ∧
        ∀ record ∈ report.records, record.sources.length ≤ limits.maxSourcesPerGroup := by
  have hsources : ∀ records, checkRecordSources limits records = .ok () ↔
      ∀ record ∈ records, record.sources.length ≤ limits.maxSourcesPerGroup := by
    intro records
    induction records with
    | nil => simp [checkRecordSources]
    | cons record records ih =>
        simp [checkRecordSources, checkLimit, Outcome.bind_eq_ok_iff, ih]
  simp [checkReport, checkLimit, Outcome.bind_eq_ok_iff, hsources]

theorem maxGroupSourceCount_le_iff {endpointState : EndpointState} {limit : ℕ} :
    maxGroupSourceCount (some endpointState) ≤ limit ↔
      ∀ (g : IpAddr) (interest : GroupInterest), endpointState.groups[g]? = some interest →
        interest.sources.size ≤ limit := by
  have hmem : ∀ n, n ∈ (endpointState.groups.toList.map fun held => held.2.sources.size) ↔
      ∃ (g : IpAddr) (interest : GroupInterest),
        endpointState.groups[g]? = some interest ∧ interest.sources.size = n := by
    intro n
    rw [List.mem_map]
    constructor
    · rintro ⟨⟨g, interest⟩, hheld, hsize⟩
      exact ⟨g, interest, BTreeMap.mem_toList_iff.mp hheld, hsize⟩
    · rintro ⟨g, interest, hheld, hsize⟩
      exact ⟨(g, interest), BTreeMap.mem_toList_iff.mpr hheld, hsize⟩
  simp only [maxGroupSourceCount]
  cases hmax : (endpointState.groups.toList.map fun held => held.2.sources.size).max? with
  | none =>
      have hempty := List.max?_eq_none_iff.mp hmax
      refine iff_of_true (Nat.zero_le _) fun g interest hheld => ?_
      have := (hmem interest.sources.size).mpr ⟨g, interest, hheld, rfl⟩
      simp [hempty] at this
  | some largest =>
      obtain ⟨hattained, hbound⟩ := List.max?_eq_some_iff.mp hmax
      constructor
      · intro hle g interest hheld
        exact (hbound _ ((hmem _).mpr ⟨g, interest, hheld, rfl⟩)).trans hle
      · intro hall
        obtain ⟨g, interest, hheld, rfl⟩ := (hmem largest).mp hattained
        exact hall g interest hheld

/-! ## Bounds kept by every call -/

/-- The bounds of a relay, except that on native subscriptions. -/
structure WithinLimits (limits : RelayLimits) (state : RelayState) : Prop where
  endpoints : state.endpoints.size ≤ limits.maxEndpoints
  perIp : ∀ ip, state.endpointCountForIp ip ≤ limits.maxEndpointsPerIp
  groups : ∀ (e : SocketAddr) (endpointState : EndpointState),
    state.endpoints[e]? = some endpointState →
      endpointState.groups.size ≤ limits.maxGroupsPerEndpoint
  sources : ∀ (e : SocketAddr) (endpointState : EndpointState),
    state.endpoints[e]? = some endpointState →
      ∀ (g : IpAddr) (interest : GroupInterest), endpointState.groups[g]? = some interest →
        interest.sources.size ≤ limits.maxSourcesPerGroup
  totalGroups : state.totalEndpointGroups ≤ limits.maxTotalEndpointGroups
  totalSources : state.totalSources ≤ limits.maxTotalSources

theorem withinLimits_default (limits : RelayLimits) : WithinLimits limits .default where
  endpoints := by simp [default]
  perIp ip := by
    have hkeys : RelayState.default.endpoints.keys = [] := rfl
    simp [endpointCountForIp, hkeys]
  groups e endpointState h := by simp [default] at h
  sources e endpointState h := by simp [default] at h
  totalGroups := Nat.zero_le _
  totalSources := Nat.zero_le _

/-- Fewer endpoints on an IP count less. -/
theorem endpointCountForIp_le {state state' : RelayState} {ip : IpAddr}
    (h : ∀ e : SocketAddr, e.ip = ip → ∀ after : EndpointState,
      state'.endpoints[e]? = some after → ∃ before, state.endpoints[e]? = some before) :
    state'.endpointCountForIp ip ≤ state.endpointCountForIp ip := by
  refine (List.subperm_of_subset ((BTreeMap.keys_nodup _).filter _) fun e he => ?_).length_le
  obtain ⟨hkey, hip⟩ := List.mem_filter.mp he
  obtain ⟨after, hafter⟩ := BTreeMap.mem_keys_iff_exists.mp hkey
  refine List.mem_filter.mpr ⟨BTreeMap.mem_keys_iff_exists.mpr ?_, hip⟩
  exact h e (of_decide_eq_true hip) after hafter

/-- **An accepted report.**  The reporting endpoint, its IP and the counters have been
checked; every other endpoint is as before. -/
theorem WithinLimits.applyReport {limits : RelayLimits} {state : RelayState}
    (h : state.WithinLimits limits) {endpoint : SocketAddr} {report : MembershipReport}
    (hchecks : (state.applyReport endpoint report).1.checkLimits endpoint limits = .ok ()) :
    (state.applyReport endpoint report).1.WithinLimits limits := by
  have hothers : ∀ e : SocketAddr, endpoint ≠ e →
      (state.applyReport endpoint report).1.endpoints[e]? = state.endpoints[e]? :=
    fun e he => getElem?_endpoints_applyReport_of_ne state report he
  obtain ⟨hcount, hip, hgroups, hsources, htotalGroups, htotalSources, -⟩ :=
    checkLimits_eq_ok_iff.mp hchecks
  refine ⟨hcount, fun ip => ?_, fun e after hafter => ?_, fun e after hafter => ?_, htotalGroups,
    htotalSources⟩
  · by_cases heq : endpoint.ip = ip
    · exact heq ▸ hip
    · refine le_trans (endpointCountForIp_le fun e he after hafter => ?_) (h.perIp ip)
      have hne : endpoint ≠ e := fun hsame => heq (hsame ▸ he)
      exact ⟨after, (hothers e hne).symm.trans hafter⟩
  · by_cases he : endpoint = e
    · subst he
      rw [hafter] at hgroups
      exact hgroups
    · exact h.groups e after ((hothers e he).symm.trans hafter)
  · by_cases he : endpoint = e
    · subst he
      rw [hafter] at hsources
      exact maxGroupSourceCount_le_iff.mp hsources
    · exact h.sources e after ((hothers e he).symm.trans hafter)

theorem WithinLimits.applyReportLimited {limits : RelayLimits} {state : RelayState}
    (h : state.WithinLimits limits) (hwf : state.WellFormed) (endpoint : SocketAddr)
    (report : MembershipReport) :
    (state.applyReportLimited endpoint report limits).1.WithinLimits limits := by
  rcases applyReportLimited_cases hwf.indexed endpoint report limits with
    ⟨-, hchecks, heq⟩ | ⟨error, heq⟩
  · rw [heq]
    exact h.applyReport hchecks
  · rw [heq]
    exact h

/-! ### Shrinking states -/

theorem heldInterests_nodup (endpoints : BTreeMap SocketAddr EndpointState) :
    (heldInterests endpoints).Nodup := by
  refine List.nodup_flatMap.mpr ⟨fun entry _ => ?_, ?_⟩
  · exact (BTreeMap.toList_nodup _).map fun _ _ h => (Prod.mk.inj h).2
  · -- entries of different endpoints
    have hkeys : endpoints.toList.Pairwise fun x y => x.1 ≠ y.1 := by
      have := BTreeMap.keys_nodup endpoints
      rw [← ExtTreeMap.map_fst_toList_eq_keys] at this
      exact List.pairwise_map.mp this
    refine hkeys.imp fun hne => ?_
    intro x hx hy
    obtain ⟨_, -, rfl⟩ := List.mem_map.mp hx
    obtain ⟨_, -, heq⟩ := List.mem_map.mp hy
    exact hne (congrArg Prod.fst heq).symm

theorem Shrinks.heldInterests_subset {state state' : RelayState} (h : state.Shrinks state') :
    heldInterests state'.endpoints ⊆ heldInterests state.endpoints := by
  rintro ⟨e, g, interest⟩ hx
  exact mem_heldInterests.mpr (h e g interest (mem_heldInterests.mp hx))

/-- A sum over the held interests of a smaller state is smaller. -/
theorem Shrinks.sum_le {state state' : RelayState} (h : state.Shrinks state')
    (f : SocketAddr × IpAddr × GroupInterest → ℕ) :
    ((heldInterests state'.endpoints).map f).sum ≤ ((heldInterests state.endpoints).map f).sum := by
  rw [← List.sum_toFinset f (heldInterests_nodup _), ← List.sum_toFinset f (heldInterests_nodup _)]
  refine Finset.sum_le_sum_of_subset fun x hx => ?_
  exact List.mem_toFinset.mpr (h.heldInterests_subset (List.mem_toFinset.mp hx))

theorem totalEndpointGroups_eq_length {state : RelayState}
    (hindexed : state.rebuildIndexes = state) :
    state.totalEndpointGroups = ((heldInterests state.endpoints).map fun _ => 1).sum := by
  rw [← hindexed, totalEndpointGroups_rebuildIndexes]
  simp only [rebuildIndexes, heldInterests, List.map_const', List.sum_replicate, smul_eq_mul,
    mul_one, List.length_flatMap, List.length_map, ExtTreeMap.length_toList]

theorem totalSources_eq_sum {state : RelayState} (hindexed : state.rebuildIndexes = state) :
    state.totalSources = ((heldInterests state.endpoints).map fun x => x.2.2.sources.size).sum := by
  have hscan : state.rebuildIndexes.totalSources =
      ((heldInterests state.endpoints).map fun x => x.2.2.sources.size).sum := by
    simp only [rebuildIndexes, scan_eq]
  rwa [hindexed] at hscan

/-- An endpoint of the smaller state is one of the larger state, with at least its groups. -/
theorem Shrinks.endpoint {state state' : RelayState} (h : state.Shrinks state')
    (hwf' : state'.WellFormed) {e : SocketAddr} {after : EndpointState}
    (hafter : state'.endpoints[e]? = some after) :
    ∃ before, state.endpoints[e]? = some before ∧
      ∀ (g : IpAddr) (interest : GroupInterest),
        after.groups[g]? = some interest → before.groups[g]? = some interest := by
  have hinterest : ∀ (g : IpAddr) (interest : GroupInterest), after.groups[g]? = some interest →
      state.endpointInterest e g = some interest := by
    intro g interest hgroup
    refine h e g interest ?_
    rw [endpointInterest, hafter]
    exact hgroup
  -- a stored endpoint has a group, so the larger state stores it as well
  obtain ⟨g, interest, hgroup⟩ :=
    BTreeMap.isEmpty_eq_false_iff_exists.mp (hwf'.nonempty e after hafter)
  obtain ⟨before, hbefore, -⟩ := Option.bind_eq_some_iff.mp (hinterest g interest hgroup)
  refine ⟨before, hbefore, fun g interest hgroup => ?_⟩
  have := hinterest g interest hgroup
  rw [endpointInterest, hbefore] at this
  exact this

/-- **A shrunk state is within the limits** of the state it came from. -/
theorem WithinLimits.of_shrinks {limits : RelayLimits} {state state' : RelayState}
    (h : state.WithinLimits limits) (hwf : state.WellFormed) (hwf' : state'.WellFormed)
    (hshrinks : state.Shrinks state') : state'.WithinLimits limits := by
  refine ⟨?_, fun ip => ?_, fun e after hafter => ?_, fun e after hafter g interest hgroup => ?_,
    ?_, ?_⟩
  · refine (BTreeMap.size_le_of_getElem? fun e after hafter => ?_).trans h.endpoints
    obtain ⟨before, hbefore, -⟩ := hshrinks.endpoint hwf' hafter
    exact ⟨before, hbefore⟩
  · refine (endpointCountForIp_le fun e _ after hafter => ?_).trans (h.perIp ip)
    obtain ⟨before, hbefore, -⟩ := hshrinks.endpoint hwf' hafter
    exact ⟨before, hbefore⟩
  · obtain ⟨before, hbefore, hgroups⟩ := hshrinks.endpoint hwf' hafter
    refine (BTreeMap.size_le_of_getElem? fun g interest hgroup => ?_).trans
      (h.groups e before hbefore)
    exact ⟨interest, hgroups g interest hgroup⟩
  · obtain ⟨before, hbefore, hgroups⟩ := hshrinks.endpoint hwf' hafter
    exact h.sources e before hbefore g interest (hgroups g interest hgroup)
  · refine le_trans ?_ h.totalGroups
    rw [totalEndpointGroups_eq_length hwf.indexed, totalEndpointGroups_eq_length hwf'.indexed]
    exact hshrinks.sum_le _
  · refine le_trans ?_ h.totalSources
    rw [totalSources_eq_sum hwf.indexed, totalSources_eq_sum hwf'.indexed]
    exact hshrinks.sum_le _

/-! ## Runs -/

theorem WithinLimits.limitedStep {limits : RelayLimits} {state : RelayState}
    (h : state.WithinLimits limits) (hwf : state.WellFormed) (op : LimitedOp) :
    (state.limitedStep limits op).WithinLimits limits := by
  cases op with
  | report endpoint report => exact h.applyReportLimited hwf endpoint report
  | remove endpoint =>
      exact h.of_shrinks hwf (hwf.removeEndpoint endpoint) (shrinks_removeEndpoint state endpoint)

theorem withinLimits_afterLimited (limits : RelayLimits) (ops : List LimitedOp) :
    (afterLimited limits ops).WithinLimits limits := by
  -- the step lemma needs fresh indexes, so both invariants are carried together
  let I : RelayState → Prop := fun state => state.WellFormed ∧ state.WithinLimits limits
  have hrun : I (ops.foldl (RelayState.limitedStep limits) .default) :=
    List.foldlRecOn ops (RelayState.limitedStep limits)
      ⟨wellFormed_default, withinLimits_default limits⟩
      fun _ hstate op _ => ⟨hstate.1.limitedStep limits op, hstate.2.limitedStep hstate.1 op⟩
  exact hrun.2

/-- **Every state of a run under fixed limits is within them**: endpoints, endpoints per
IP, groups per endpoint, sources per stored interest, and both totals as sums over all
endpoints. -/
theorem afterLimited_within_limits (limits : RelayLimits) (ops : List LimitedOp) :
    (afterLimited limits ops).endpointCount ≤ limits.maxEndpoints ∧
    (∀ ip, (afterLimited limits ops).endpointCountForIp ip ≤ limits.maxEndpointsPerIp) ∧
    (∀ (e : SocketAddr) (endpointState : EndpointState),
      (afterLimited limits ops).endpoints[e]? = some endpointState →
        endpointState.groups.size ≤ limits.maxGroupsPerEndpoint) ∧
    (∀ (e : SocketAddr) (g : IpAddr) (interest : GroupInterest),
      (afterLimited limits ops).endpointInterest e g = some interest →
        interest.sources.size ≤ limits.maxSourcesPerGroup) ∧
    ((afterLimited limits ops).endpoints.toList.map fun entry => entry.2.groups.size).sum ≤
      limits.maxTotalEndpointGroups ∧
    ((afterLimited limits ops).endpoints.toList.map fun entry =>
      (entry.2.groups.toList.map fun held => held.2.sources.size).sum).sum ≤
      limits.maxTotalSources := by
  have hindexed := (wellFormed_afterLimited limits ops).indexed
  have h := withinLimits_afterLimited limits ops
  generalize afterLimited limits ops = state at hindexed h
  refine ⟨h.endpoints, h.perIp, h.groups, fun e g interest hinterest => ?_, ?_, ?_⟩
  · obtain ⟨endpointState, hstate, hgroup⟩ := Option.bind_eq_some_iff.mp hinterest
    exact h.sources e endpointState hstate g interest hgroup
  · rw [← totalEndpointGroups_rebuildIndexes, hindexed]
    exact h.totalGroups
  · rw [← totalSources_rebuildIndexes, hindexed]
    exact h.totalSources

end RelayState

end Amt

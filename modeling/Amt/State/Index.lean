import Amt.State.Endpoint

/-!
# The derived fields of a relay state

`rebuild_indexes` recomputes the forwarding table, the merged filters, the native
subscriptions and two counters by one nested scan over all endpoints.  The load-bearing
step is to flatten that scan: `heldInterests` lists every interest with its endpoint and
its group, and each accumulator is a fold of keyed updates over this list
(`scan_eq`).  `BTreeMap.getElem?_foldl_upsert` then reads every derived field back one
group at a time.

`WellFormed` states hold no empty endpoint, no Include interest without sources, and
derived fields that a rebuild would not change.  All three mutators keep it, on their
success and on their failure path, so it holds of every reachable state.
-/

namespace Amt

open Std (ExtTreeMap ExtTreeSet)

namespace RelayState

/-! ## The scan, flattened -/

/-- Every interest with its endpoint and its group, in the order of the scan. -/
def heldInterests (endpoints : BTreeMap SocketAddr EndpointState) :
    List (SocketAddr × IpAddr × GroupInterest) :=
  endpoints.toList.flatMap fun entry => entry.2.groups.toList.map fun held => (entry.1, held)

theorem mem_heldInterests {endpoints : BTreeMap SocketAddr EndpointState} {e : SocketAddr}
    {g : IpAddr} {interest : GroupInterest} :
    (e, g, interest) ∈ heldInterests endpoints ↔
      endpoints[e]?.bind (fun state => state.groups[g]?) = some interest := by
  rw [heldInterests, List.mem_flatMap, Option.bind_eq_some_iff]
  constructor
  · rintro ⟨⟨e', state⟩, hentry, hheld⟩
    obtain ⟨⟨g', interest'⟩, hgroup, heq⟩ := List.mem_map.mp hheld
    obtain ⟨rfl, rfl, rfl⟩ : e' = e ∧ g' = g ∧ interest' = interest := by simpa using heq
    exact ⟨state, BTreeMap.mem_toList_iff.mp hentry, BTreeMap.mem_toList_iff.mp hgroup⟩
  · rintro ⟨state, hstate, hgroup⟩
    exact ⟨(e, state), BTreeMap.mem_toList_iff.mpr hstate,
      List.mem_map.mpr ⟨(g, interest), BTreeMap.mem_toList_iff.mpr hgroup, rfl⟩⟩

/-- One visit of the flattened scan. -/
def visitHeld (scan : IndexScan) (held : SocketAddr × IpAddr × GroupInterest) : IndexScan :=
  scan.visitGroup held.1 held.2

/-- The scan is a fold over the held interests, up to the group counter, which the
outer loop advances. -/
theorem foldl_visitEndpoint (entries : List (SocketAddr × EndpointState)) (scan : IndexScan) :
    entries.foldl IndexScan.visitEndpoint scan =
      { (entries.flatMap fun entry => entry.2.groups.toList.map fun held => (entry.1, held)).foldl
          visitHeld scan with
        totalEndpointGroups :=
          scan.totalEndpointGroups + (entries.map fun entry => entry.2.groups.size).sum } := by
  -- the inner loop does not touch the group counter
  have hcounter : ∀ (held : List (SocketAddr × IpAddr × GroupInterest)) (scan : IndexScan) (n : ℕ),
      held.foldl visitHeld { scan with totalEndpointGroups := n } =
        { held.foldl visitHeld scan with totalEndpointGroups := n } := by
    intro held
    induction held with
    | nil => exact fun _ _ => rfl
    | cons x held ih => exact fun scan n => ih (visitHeld scan x) n
  induction entries generalizing scan with
  | nil => rfl
  | cons entry entries ih =>
      have hinner : scan.visitEndpoint entry =
          { (entry.2.groups.toList.map fun held => (entry.1, held)).foldl visitHeld scan with
            totalEndpointGroups := scan.totalEndpointGroups + entry.2.groups.size } := by
        rw [← hcounter, List.foldl_map]
        rfl
      rw [List.foldl_cons, hinner, ih, hcounter, List.flatMap_cons, List.foldl_append,
        List.map_cons, List.sum_cons, Nat.add_assoc]

/-- **The accumulators of the flattened scan, one by one.** -/
theorem foldl_visitHeld (held : List (SocketAddr × IpAddr × GroupInterest)) (scan : IndexScan) :
    held.foldl visitHeld scan =
      { forwarding :=
          held.foldl (fun m x => BTreeMap.upsert m x.2.1 ∅ fun es => es.insert x.1) scan.forwarding
        groups :=
          held.foldl (fun m x => BTreeMap.upsert m x.2.1 .default fun summary =>
            summary.apply x.2.2) scan.groups
        totalEndpointGroups := scan.totalEndpointGroups
        totalSources := scan.totalSources + (held.map fun x => x.2.2.sources.size).sum } := by
  induction held generalizing scan with
  | nil => rfl
  | cons x held ih =>
      rw [List.foldl_cons, ih, List.map_cons, List.sum_cons, ← Nat.add_assoc]
      rfl

theorem scan_eq (endpoints : BTreeMap SocketAddr EndpointState) :
    endpoints.toList.foldl IndexScan.visitEndpoint .empty =
      { forwarding :=
          (heldInterests endpoints).foldl
            (fun m x => BTreeMap.upsert m x.2.1 ∅ fun es => es.insert x.1) ∅
        groups :=
          (heldInterests endpoints).foldl
            (fun m x => BTreeMap.upsert m x.2.1 .default fun summary => summary.apply x.2.2) ∅
        totalEndpointGroups := (endpoints.toList.map fun entry => entry.2.groups.size).sum
        totalSources := ((heldInterests endpoints).map fun x => x.2.2.sources.size).sum } := by
  rw [foldl_visitEndpoint, foldl_visitHeld]
  simp [IndexScan.empty, heldInterests]

/-! ## The forwarding table -/

/-- The interests held in one group. -/
def heldIn (endpoints : BTreeMap SocketAddr EndpointState) (g : IpAddr) :
    List (SocketAddr × IpAddr × GroupInterest) :=
  (heldInterests endpoints).filter fun x => x.2.1 = g

theorem mem_heldIn {state : RelayState} {g : IpAddr} {x : SocketAddr × IpAddr × GroupInterest} :
    x ∈ heldIn state.endpoints g ↔
      x.2.1 = g ∧ state.endpointInterest x.1 g = some x.2.2 := by
  obtain ⟨e, g', interest⟩ := x
  rw [heldIn, List.mem_filter, mem_heldInterests, decide_eq_true_eq, endpointInterest]
  constructor
  · rintro ⟨hheld, rfl⟩
    exact ⟨rfl, hheld⟩
  · rintro ⟨rfl, hheld⟩
    exact ⟨hheld, rfl⟩

/-- `forwarding[g]`, when present, is the set of endpoints holding an interest in `g`,
and it is present exactly when there is one. -/
theorem forwarding_rebuildIndexes (state : RelayState) (g : IpAddr) :
    (state.rebuildIndexes.forwarding[g]? = none ∧ ∀ e, state.endpointInterest e g = none) ∨
      ∃ endpoints, state.rebuildIndexes.forwarding[g]? = some endpoints ∧
        (∃ e, e ∈ endpoints) ∧
        ∀ e, e ∈ endpoints ↔ (state.endpointInterest e g).isSome = true := by
  have hread : state.rebuildIndexes.forwarding[g]? =
      if (heldIn state.endpoints g).isEmpty then none
      else some ((heldIn state.endpoints g).foldl (fun es x => es.insert x.1) ∅) := by
    simp only [rebuildIndexes, scan_eq]
    rw [BTreeMap.getElem?_foldl_upsert, heldIn]
    simp
  -- membership in a fold of inserts
  have hfold : ∀ (l : List (SocketAddr × IpAddr × GroupInterest)) (es : BTreeSet SocketAddr)
      (e : SocketAddr), e ∈ l.foldl (fun es x => es.insert x.1) es ↔
        e ∈ es ∨ ∃ x ∈ l, x.1 = e := by
    intro l
    induction l with
    | nil => simp
    | cons x l ih =>
        intro es e
        rw [List.foldl_cons, ih, BTreeSet.mem_insert_iff]
        rw [List.exists_mem_cons_iff, eq_comm]
        tauto
  have hheld : ∀ e, (∃ x ∈ heldIn state.endpoints g, x.1 = e) ↔
      (state.endpointInterest e g).isSome = true := by
    intro e
    rw [Option.isSome_iff_exists]
    constructor
    · rintro ⟨x, hx, rfl⟩
      exact ⟨x.2.2, (mem_heldIn.mp hx).2⟩
    · rintro ⟨interest, hinterest⟩
      exact ⟨(e, g, interest), mem_heldIn.mpr ⟨rfl, hinterest⟩, rfl⟩
  by_cases hempty : (heldIn state.endpoints g).isEmpty
  · refine .inl ⟨by rw [hread, if_pos hempty], fun e => ?_⟩
    have := (hheld e).not.mp (by simp [List.isEmpty_iff.mp hempty])
    simpa using this
  · refine .inr ⟨_, by rw [hread, if_neg hempty], ?_, fun e => ?_⟩
    · obtain ⟨x, hx⟩ := List.exists_mem_of_ne_nil _ (mt List.isEmpty_iff.mpr hempty)
      exact ⟨x.1, (hfold _ _ _).mpr (.inr ⟨x, hx, rfl⟩)⟩
    · rw [hfold, hheld]
      simp

/-! ## The counters -/

theorem totalSources_rebuildIndexes (state : RelayState) :
    state.rebuildIndexes.totalSources =
      (state.endpoints.toList.map fun entry =>
        (entry.2.groups.toList.map fun held => held.2.sources.size).sum).sum := by
  simp only [rebuildIndexes, scan_eq, heldInterests]
  rw [List.map_flatMap, List.flatMap_def, List.sum_flatten, List.map_map]
  refine congrArg List.sum (List.map_congr_left fun entry _ => ?_)
  simp only [Function.comp_apply, List.map_map]
  rfl

theorem totalEndpointGroups_rebuildIndexes (state : RelayState) :
    state.rebuildIndexes.totalEndpointGroups =
      (state.endpoints.toList.map fun entry => entry.2.groups.size).sum := by
  simp only [rebuildIndexes, scan_eq]

/-! ## Well-formed states -/

/-- The invariant of a relay state. -/
structure WellFormed (state : RelayState) : Prop where
  /-- No endpoint is stored without a group. -/
  nonempty : ∀ (e : SocketAddr) (endpointState : EndpointState),
    state.endpoints[e]? = some endpointState → endpointState.groups.isEmpty = false
  /-- No Include interest is stored without a source. -/
  canonical : ∀ (e : SocketAddr) (endpointState : EndpointState),
    state.endpoints[e]? = some endpointState → endpointState.Canonical
  /-- The derived fields are the ones a rebuild computes. -/
  indexed : state.rebuildIndexes = state

theorem wellFormed_default : WellFormed .default where
  nonempty e endpointState h := by simp [default] at h
  canonical e endpointState h := by simp [default] at h
  indexed := rfl

/-- A rebuild reads the endpoints only. -/
theorem rebuildIndexes_congr {state state' : RelayState} (h : state.endpoints = state'.endpoints) :
    state.rebuildIndexes = state'.rebuildIndexes := by
  unfold rebuildIndexes
  rw [h]

/-- What the endpoint holds, as the mutators read it. -/
theorem getElem?_groups_getD (state : RelayState) (e : SocketAddr) (g : IpAddr) :
    (state.endpoints[e]?.getD .default).groups[g]? = state.endpointInterest e g := by
  unfold endpointInterest
  cases state.endpoints[e]? with
  | none => simp [EndpointState.default]
  | some endpointState => rfl

theorem WellFormed.canonical_getD {state : RelayState} (h : state.WellFormed) (e : SocketAddr) :
    (state.endpoints[e]?.getD .default).Canonical := by
  cases hstate : state.endpoints[e]? with
  | none => exact EndpointState.canonical_default
  | some endpointState => exact h.canonical e endpointState hstate

/-! ### Reports -/

/-- The endpoint's entry after a report: absent when the report left it no group. -/
def reportedEntry (state : RelayState) (endpoint : SocketAddr) (report : MembershipReport) :
    Option EndpointState :=
  let after := ((state.endpoints[endpoint]?.getD .default).applyRecords report.records).1
  if after.groups.isEmpty then none else some after

theorem getElem?_endpoints_applyReport {state : RelayState} {endpoint : SocketAddr}
    {report : MembershipReport} (hrecords : report.records.isEmpty = false) (e : SocketAddr) :
    (state.applyReport endpoint report).1.endpoints[e]? =
      if endpoint = e then state.reportedEntry endpoint report else state.endpoints[e]? := by
  simp only [applyReport, hrecords, Bool.false_eq_true, if_false, rebuildIndexes, reportedEntry]
  cases ((state.endpoints[endpoint]?.getD .default).applyRecords
    report.records).1.groups.isEmpty <;> simp

/-- The other endpoints are not touched. -/
theorem getElem?_endpoints_applyReport_of_ne (state : RelayState) {endpoint e : SocketAddr}
    (report : MembershipReport) (he : endpoint ≠ e) :
    (state.applyReport endpoint report).1.endpoints[e]? = state.endpoints[e]? := by
  cases hrecords : report.records.isEmpty with
  | true => simp [RelayState.applyReport, hrecords]
  | false => rw [getElem?_endpoints_applyReport hrecords, if_neg he]

/-- **A report, read at one endpoint and group**: the records about the group act on
what the reporting endpoint held; every other endpoint keeps its interests. -/
theorem endpointInterest_applyReport (state : RelayState) (endpoint : SocketAddr)
    (report : MembershipReport) (e : SocketAddr) (g : IpAddr) :
    (state.applyReport endpoint report).1.endpointInterest e g =
      if endpoint = e then
        (report.records.filter fun record => record.group = g).foldl
          (fun held record => record.effect held) (state.endpointInterest e g)
      else state.endpointInterest e g := by
  cases hrecords : report.records.isEmpty with
  | true => simp [applyReport, List.isEmpty_iff.mp hrecords]
  | false =>
      rw [endpointInterest, getElem?_endpoints_applyReport hrecords]
      by_cases he : endpoint = e
      · subst he
        rw [if_pos rfl, if_pos rfl, ← getElem?_groups_getD, ← EndpointState.getElem?_applyRecords,
          reportedEntry]
        cases hempty : ((state.endpoints[endpoint]?.getD .default).applyRecords
            report.records).1.groups.isEmpty with
        | true => simp [BTreeMap.isEmpty_eq_true_iff.mp hempty g]
        | false => rfl
      · rw [if_neg he, if_neg he, endpointInterest]

/-- The indexes stay exact. -/
theorem WellFormed.applyReport {state : RelayState} (h : state.WellFormed) (endpoint : SocketAddr)
    (report : MembershipReport) : (state.applyReport endpoint report).1.WellFormed := by
  cases hrecords : report.records.isEmpty with
  | true => simpa [RelayState.applyReport, hrecords] using h
  | false =>
      have hindexed : (state.applyReport endpoint report).1.rebuildIndexes =
          (state.applyReport endpoint report).1 := by
        simp only [RelayState.applyReport, hrecords, Bool.false_eq_true, if_false]
        rfl
      -- the reporting endpoint is stored only with a group; the others are untouched
      have hentry : ∀ (e : SocketAddr) (after : EndpointState),
          (state.applyReport endpoint report).1.endpoints[e]? = some after →
            after.groups.isEmpty = false ∧ after.Canonical := by
        intro e after hafter
        rw [getElem?_endpoints_applyReport hrecords] at hafter
        by_cases he : endpoint = e
        · rw [if_pos he, reportedEntry] at hafter
          split at hafter
          · cases hafter
          · rename_i hempty
            cases hafter
            exact ⟨by simpa using hempty,
              EndpointState.canonical_applyRecords (h.canonical_getD endpoint) report.records⟩
        · rw [if_neg he] at hafter
          exact ⟨h.nonempty e after hafter, h.canonical e after hafter⟩
      exact ⟨fun e after hafter => (hentry e after hafter).1,
        fun e after hafter => (hentry e after hafter).2, hindexed⟩

theorem exists_interest_of_endpointHasInterests {state : RelayState}
    {endpoint : SocketAddr} (h : state.endpointHasInterests endpoint = true) :
    ∃ g interest, state.endpointInterest endpoint g = some interest := by
  obtain ⟨endpointState, hstate, hgroups⟩ := (Option.any_eq_true _ _).mp h
  obtain ⟨g, interest, hinterest⟩ :=
    BTreeMap.isEmpty_eq_false_iff_exists.mp ((Bool.not_eq_true' _).mp hgroups)
  refine ⟨g, interest, ?_⟩
  rw [endpointInterest, hstate]
  exact hinterest

/-! ### Limited reports -/

/-- **Putting the endpoint back undoes the report.** -/
theorem restoreEndpoint_applyReport {state : RelayState} (hindexed : state.rebuildIndexes = state)
    (endpoint : SocketAddr) (report : MembershipReport) :
    (state.applyReport endpoint report).1.restoreEndpoint endpoint state.endpoints[endpoint]? =
      state := by
  refine Eq.trans ?_ hindexed
  refine rebuildIndexes_congr (ExtTreeMap.ext_getElem? fun e => ?_)
  cases hprevious : state.endpoints[endpoint]? with
  | none =>
      by_cases he : endpoint = e
      · subst he
        simp [hprevious]
      · simp [he, getElem?_endpoints_applyReport_of_ne state report he]
  | some previous =>
      by_cases he : endpoint = e
      · subst he
        simp [hprevious]
      · simp [he, getElem?_endpoints_applyReport_of_ne state report he]

theorem checkRecordSources_ne_panic (limits : RelayLimits) (records : List MembershipRecord) :
    checkRecordSources limits records ≠ .panic := by
  induction records with
  | nil => simp [checkRecordSources]
  | cons record records ih =>
      exact Outcome.bind_ne_panic Outcome.ensure_ne_panic fun _ _ => ih

theorem checkReport_ne_panic (report : MembershipReport) (limits : RelayLimits) :
    checkReport report limits ≠ .panic :=
  Outcome.bind_ne_panic Outcome.ensure_ne_panic fun _ _ =>
    checkRecordSources_ne_panic limits report.records

theorem checkLimits_ne_panic (state : RelayState) (endpoint : SocketAddr) (limits : RelayLimits) :
    state.checkLimits endpoint limits ≠ .panic := by
  unfold checkLimits
  repeat refine Outcome.bind_ne_panic Outcome.ensure_ne_panic fun _ _ => ?_
  exact Outcome.ensure_ne_panic

/-- **What a limited report can do** to a state with fresh indexes: pass every check and
act as the unlimited one, or fail and leave the state as it was. -/
theorem applyReportLimited_cases {state : RelayState} (hindexed : state.rebuildIndexes = state)
    (endpoint : SocketAddr) (report : MembershipReport) (limits : RelayLimits) :
    (checkReport report limits = .ok () ∧
        (state.applyReport endpoint report).1.checkLimits endpoint limits = .ok () ∧
        state.applyReportLimited endpoint report limits =
          ((state.applyReport endpoint report).1, .ok (state.applyReport endpoint report).2)) ∨
      ∃ error, state.applyReportLimited endpoint report limits = (state, .err error) := by
  unfold applyReportLimited
  cases hreport : checkReport report limits with
  | panic => exact absurd hreport (checkReport_ne_panic report limits)
  | err error => exact .inr ⟨error, rfl⟩
  | ok =>
      cases hlimits : (state.applyReport endpoint report).1.checkLimits endpoint limits with
      | panic => exact absurd hlimits (checkLimits_ne_panic _ endpoint limits)
      | err error =>
          refine .inr ⟨error, ?_⟩
          simp only [hlimits]
          rw [restoreEndpoint_applyReport hindexed]
      | ok => exact .inl ⟨rfl, rfl, by simp only [hlimits]⟩

/-- On success the limited report is the unlimited one, whatever the state. -/
theorem applyReportLimited_of_ok {state : RelayState} {endpoint : SocketAddr}
    {report : MembershipReport} {limits : RelayLimits} {applied : ℕ}
    (h : (state.applyReportLimited endpoint report limits).2 = .ok applied) :
    (state.applyReportLimited endpoint report limits).1
      = (state.applyReport endpoint report).1 := by
  unfold applyReportLimited at h ⊢
  cases hreport : checkReport report limits with
  | panic => simp [hreport] at h
  | err error => simp [hreport] at h
  | ok =>
      cases hlimits : (state.applyReport endpoint report).1.checkLimits endpoint limits with
      | panic => simp [hreport, hlimits] at h
      | err error => simp [hreport, hlimits] at h
      | ok => simp only [hlimits]

theorem WellFormed.applyReportLimited {state : RelayState} (h : state.WellFormed)
    (endpoint : SocketAddr) (report : MembershipReport) (limits : RelayLimits) :
    (state.applyReportLimited endpoint report limits).1.WellFormed := by
  rcases applyReportLimited_cases h.indexed endpoint report limits with
    ⟨-, -, heq⟩ | ⟨error, heq⟩
  · rw [heq]
    exact h.applyReport endpoint report
  · rw [heq]
    exact h

/-! ### Removal -/

theorem containsEndpoint_eq_isSome (state : RelayState) (endpoint : SocketAddr) :
    state.containsEndpoint endpoint = state.endpoints[endpoint]?.isSome :=
  ExtTreeMap.contains_eq_isSome_getElem?

/-- `remove_endpoint` says whether there was something to remove. -/
theorem removeEndpoint_removed (state : RelayState) (endpoint : SocketAddr) :
    (state.removeEndpoint endpoint).2 = state.containsEndpoint endpoint := by
  unfold removeEndpoint containsEndpoint
  split
  · rename_i hcontains
    exact hcontains.symm
  · rename_i habsent
    exact (Bool.not_eq_true _ ▸ habsent).symm

theorem getElem?_endpoints_removeEndpoint (state : RelayState) (endpoint e : SocketAddr) :
    (state.removeEndpoint endpoint).1.endpoints[e]? =
      if endpoint = e then none else state.endpoints[e]? := by
  unfold removeEndpoint
  split
  · simp [rebuildIndexes]
  · rename_i habsent
    by_cases he : endpoint = e
    · subst he
      simpa [← ExtTreeMap.mem_iff_contains] using habsent
    · rw [if_neg he]

theorem endpointInterest_removeEndpoint (state : RelayState) (endpoint e : SocketAddr)
    (g : IpAddr) :
    (state.removeEndpoint endpoint).1.endpointInterest e g =
      if endpoint = e then none else state.endpointInterest e g := by
  rw [endpointInterest, getElem?_endpoints_removeEndpoint]
  split <;> rfl

/-- Every interest of `state'` is one of `state`. -/
def Shrinks (state state' : RelayState) : Prop :=
  ∀ (e : SocketAddr) (g : IpAddr) (interest : GroupInterest),
    state'.endpointInterest e g = some interest → state.endpointInterest e g = some interest

theorem Shrinks.refl (state : RelayState) : state.Shrinks state := fun _ _ _ h => h

theorem Shrinks.trans {state₁ state₂ state₃ : RelayState} (h : state₁.Shrinks state₂)
    (h' : state₂.Shrinks state₃) : state₁.Shrinks state₃ :=
  fun e g interest hinterest => h e g interest (h' e g interest hinterest)

theorem shrinks_removeEndpoint (state : RelayState) (endpoint : SocketAddr) :
    state.Shrinks (state.removeEndpoint endpoint).1 := by
  intro e g interest hinterest
  rw [endpointInterest_removeEndpoint] at hinterest
  split at hinterest
  · cases hinterest
  · exact hinterest

theorem WellFormed.removeEndpoint {state : RelayState} (h : state.WellFormed)
    (endpoint : SocketAddr) : (state.removeEndpoint endpoint).1.WellFormed := by
  have hentry : ∀ (e : SocketAddr) (endpointState : EndpointState),
      (state.removeEndpoint endpoint).1.endpoints[e]? = some endpointState →
        state.endpoints[e]? = some endpointState := by
    intro e endpointState hstate
    rw [getElem?_endpoints_removeEndpoint] at hstate
    split at hstate
    · cases hstate
    · exact hstate
  refine ⟨fun e endpointState hstate => h.nonempty e endpointState (hentry e endpointState hstate),
    fun e endpointState hstate => h.canonical e endpointState (hentry e endpointState hstate), ?_⟩
  unfold RelayState.removeEndpoint
  split
  · rfl
  · exact h.indexed

/-! ## Runs -/

/-- The mutators of a relay state. -/
inductive Op where
  | applyReport (endpoint : SocketAddr) (report : MembershipReport)
  | applyReportLimited (endpoint : SocketAddr) (report : MembershipReport) (limits : RelayLimits)
  | removeEndpoint (endpoint : SocketAddr)

/-- The state after a call, whatever the call returned. -/
def step (state : RelayState) : Op → RelayState
  | .applyReport endpoint report => (state.applyReport endpoint report).1
  | .applyReportLimited endpoint report limits =>
      (state.applyReportLimited endpoint report limits).1
  | .removeEndpoint endpoint => (state.removeEndpoint endpoint).1

/-- The state after a sequence of calls on the default state. -/
def afterOps (ops : List Op) : RelayState := ops.foldl step .default

theorem WellFormed.step {state : RelayState} (h : state.WellFormed) (op : Op) :
    (state.step op).WellFormed := by
  cases op with
  | applyReport endpoint report => exact h.applyReport endpoint report
  | applyReportLimited endpoint report limits => exact h.applyReportLimited endpoint report limits
  | removeEndpoint endpoint => exact h.removeEndpoint endpoint

theorem wellFormed_afterOps (ops : List Op) : (afterOps ops).WellFormed :=
  List.foldlRecOn ops step wellFormed_default fun _ hstate op _ => hstate.step op

/-- **A limited report is all or nothing.**  In every reachable state, and for every
report and limits: a refused report leaves the whole state as it was, indexes and totals
included; an accepted one leaves the state, and returns the count, of the unlimited
report. -/
theorem afterOps_applyReportLimited_atomic (ops : List Op) (endpoint : SocketAddr)
    (report : MembershipReport) (limits : RelayLimits) :
    (∀ error, ((afterOps ops).applyReportLimited endpoint report limits).2 = .err error →
      ((afterOps ops).applyReportLimited endpoint report limits).1 = afterOps ops) ∧
    (∀ applied, ((afterOps ops).applyReportLimited endpoint report limits).2 = .ok applied →
      ((afterOps ops).applyReportLimited endpoint report limits).1
          = ((afterOps ops).applyReport endpoint report).1 ∧
        applied = ((afterOps ops).applyReport endpoint report).2) ∧
    ((afterOps ops).applyReportLimited endpoint report limits).2 ≠ .panic := by
  rcases applyReportLimited_cases (wellFormed_afterOps ops).indexed endpoint report limits with
    ⟨-, -, heq⟩ | ⟨error, heq⟩
  · rw [heq]
    exact ⟨by simp, fun applied happlied => ⟨rfl, (Outcome.ok.inj happlied).symm⟩, by simp⟩
  · rw [heq]
    exact ⟨fun _ _ => rfl, by simp, by simp⟩

/-! ## The indexed lookup -/

/-- The lookup without the index: every endpoint, in address order, filtered by what it
wants. -/
def scanEndpoints (state : RelayState) (source group : IpAddr) : List SocketAddr :=
  state.endpoints.keys.filter fun e =>
    (state.endpointInterest e group).any fun interest => interest.wantsSource source

theorem mem_keys_of_endpointInterest {state : RelayState} {e : SocketAddr} {g : IpAddr}
    {interest : GroupInterest} (h : state.endpointInterest e g = some interest) :
    e ∈ state.endpoints.keys := by
  obtain ⟨endpointState, hstate, -⟩ := Option.bind_eq_some_iff.mp h
  exact BTreeMap.mem_keys_iff_exists.mpr ⟨endpointState, hstate⟩

theorem scanEndpoints_pairwise_lt (state : RelayState) (source group : IpAddr) :
    (state.scanEndpoints source group).Pairwise (· < ·) :=
  (BTreeMap.keys_pairwise_lt state.endpoints).filter _

/-- **The index finds what a scan finds**, in the same order. -/
theorem matchingEndpoints_eq_scanEndpoints {state : RelayState}
    (hindexed : state.rebuildIndexes = state) (source group : IpAddr) :
    state.matchingEndpoints source group = state.scanEndpoints source group := by
  have hforwarding := forwarding_rebuildIndexes state group
  rw [hindexed] at hforwarding
  unfold matchingEndpoints
  rcases hforwarding with ⟨hnone, hnobody⟩ | ⟨endpoints, hsome, -, hmem⟩
  · rw [hnone]
    refine (List.filter_eq_nil_iff.mpr fun e _ => ?_).symm
    simp [hnobody e]
  · rw [hsome]
    refine ((BTreeSet.toList_pairwise_lt endpoints).filter _).eq_of_mem_iff
      (scanEndpoints_pairwise_lt state source group) fun e => ?_
    simp only [scanEndpoints, List.mem_filter, ExtTreeSet.mem_toList, hmem, endpointWants]
    constructor
    · rintro ⟨hheld, hwants⟩
      obtain ⟨interest, hinterest⟩ := Option.isSome_iff_exists.mp hheld
      exact ⟨mem_keys_of_endpointInterest hinterest, hwants⟩
    · rintro ⟨-, hwants⟩
      obtain ⟨interest, hinterest, -⟩ := (Option.any_eq_true _ _).mp hwants
      exact ⟨by simp [hinterest], hwants⟩

theorem WellFormed.mem_matchingEndpoints {state : RelayState} (h : state.WellFormed)
    (e : SocketAddr) (source group : IpAddr) :
    e ∈ state.matchingEndpoints source group ↔ state.endpointWants source group e = true := by
  rw [matchingEndpoints_eq_scanEndpoints h.indexed, scanEndpoints, List.mem_filter]
  refine and_iff_right_of_imp fun hwants => ?_
  obtain ⟨interest, hinterest, -⟩ := (Option.any_eq_true _ _).mp hwants
  exact mem_keys_of_endpointInterest hinterest

/-- **The derived fields of every reachable state**: no empty endpoint, no empty Include
interest, a forwarding table without stale or empty entries, exact counters, and a
lookup that agrees with a scan of all endpoints. -/
theorem afterOps_indexes_exact (ops : List Op) :
    (∀ (e : SocketAddr) (endpointState : EndpointState),
      (afterOps ops).endpoints[e]? = some endpointState → endpointState.groups.isEmpty = false) ∧
    (∀ (e : SocketAddr) (g : IpAddr) (interest : GroupInterest),
      (afterOps ops).endpointInterest e g = some interest → interest.mode = .Include →
        ∃ source, source ∈ interest.sources) ∧
    (∀ (g : IpAddr) (endpoints : BTreeSet SocketAddr),
      (afterOps ops).forwarding[g]? = some endpoints → (∃ e, e ∈ endpoints) ∧
        ∀ e, e ∈ endpoints ↔ ((afterOps ops).endpointInterest e g).isSome = true) ∧
    (∀ g : IpAddr, (afterOps ops).forwarding[g]? = none →
      ∀ e, (afterOps ops).endpointInterest e g = none) ∧
    (afterOps ops).totalEndpointGroups =
      ((afterOps ops).endpoints.toList.map fun entry => entry.2.groups.size).sum ∧
    (afterOps ops).totalSources =
      ((afterOps ops).endpoints.toList.map fun entry =>
        (entry.2.groups.toList.map fun held => held.2.sources.size).sum).sum ∧
    (∀ source group : IpAddr,
      (afterOps ops).matchingEndpoints source group =
        (afterOps ops).scanEndpoints source group ∧
      ((afterOps ops).matchingEndpoints source group).Pairwise (· < ·) ∧
      ∀ e, e ∈ (afterOps ops).matchingEndpoints source group ↔
        ∃ interest, (afterOps ops).endpointInterest e group = some interest ∧
          interest.wantsSource source = true) := by
  have hwf := wellFormed_afterOps ops
  have hindexed := hwf.indexed
  generalize afterOps ops = state at hwf hindexed
  have hforwarding := fun g => forwarding_rebuildIndexes state g
  have hgroups := totalEndpointGroups_rebuildIndexes state
  have hsources := totalSources_rebuildIndexes state
  rw [hindexed] at hforwarding hgroups hsources
  refine ⟨hwf.nonempty, ?_, ?_, ?_, hgroups, hsources, fun source group => ?_⟩
  · intro e g interest hinterest hmode
    obtain ⟨endpointState, hstate, hgroup⟩ := Option.bind_eq_some_iff.mp hinterest
    exact hwf.canonical e endpointState hstate g interest hgroup hmode
  · intro g endpoints hsome
    rcases hforwarding g with ⟨hnone, -⟩ | ⟨endpoints', hsome', hnonempty, hmem⟩
    · rw [hnone] at hsome
      cases hsome
    · obtain rfl : endpoints' = endpoints := Option.some.inj (hsome'.symm.trans hsome)
      exact ⟨hnonempty, hmem⟩
  · intro g hnone
    rcases hforwarding g with ⟨-, hnobody⟩ | ⟨endpoints, hsome, -⟩
    · exact hnobody
    · rw [hsome] at hnone
      cases hnone
  · have heq := matchingEndpoints_eq_scanEndpoints hindexed source group
    refine ⟨heq, heq ▸ scanEndpoints_pairwise_lt state source group, fun e => ?_⟩
    rw [heq, scanEndpoints, List.mem_filter, Option.any_eq_true]
    constructor
    · rintro ⟨-, hwants⟩
      exact hwants
    · rintro ⟨interest, hinterest, hwants⟩
      exact ⟨mem_keys_of_endpointInterest hinterest, interest, hinterest, hwants⟩

end RelayState

end Amt

import Amt.State.Denotation

/-!
# Reports as overwrites

Datagrams are duplicated and reordered on their way to a relay.  What that does to the
state is settled by two facts about a report.

* **A record is an overwrite.**  Seen from one group, a stored filter consists of its mode
  and, for each source, whether it is wanted (`filterView`); an absent group is an Include
  list without sources.  A record writes some of these and leaves the others
  (`MembershipRecord.writes`, `filterView_effect`), the later record wins, and in a canonical
  state the view determines what is stored (`filterView_injective`).  A report that comes
  twice therefore does what it does once, however often it names a group
  (`afterOps_applyReport_twice`).
* **A report concerns one endpoint.**  The derived indexes are a function of the endpoints, and
  the endpoints of a well-formed state are a function of the interests
  (`WellFormed.eq_of_endpointInterest`), so that updates of different endpoints commute and
  only the order of each endpoint's own updates matters (`afterOps_updates_commute`).

The same extensionality says when a report changes nothing, which is what `preview_report`
decides without building a state (`previewReport_snd_iff`).
-/

namespace Amt

/-! ## What is stored, seen from one group -/

/-- The mode of a stored interest; nothing stored is an Include list without sources. -/
def filterMode (held : Option GroupInterest) : FilterMode :=
  held.elim .Include fun interest => interest.mode

/-- **The view of a stored interest**: at `none` whether its mode is Exclude, at `some s`
whether it wants `s`. -/
def filterView (held : Option GroupInterest) : Option IpAddr → Prop
  | none => filterMode held = .Exclude
  | some source => source ∈ wantedSources held

/-- Where an Include list has sources, the view determines what is stored. -/
theorem filterView_injective {held held' : Option GroupInterest} (h : ∀ i ∈ held, i.Canonical)
    (h' : ∀ i ∈ held', i.Canonical) (hview : filterView held = filterView held') :
    held = held' := by
  have hmode : filterMode held = .Exclude ↔ filterMode held' = .Exclude :=
    iff_of_eq (congrFun hview none)
  have hwanted : ∀ source, source ∈ wantedSources held ↔ source ∈ wantedSources held' :=
    fun source => iff_of_eq (congrFun hview (some source))
  have habsent : ∀ {sources : BTreeSet IpAddr}, GroupInterest.Canonical ⟨.Include, sources⟩ →
      ¬ ∀ source, source ∈ wantedSources (some ⟨.Include, sources⟩) ↔
        source ∈ wantedSources none := by
    intro sources hcanonical hsame
    obtain ⟨source, hsource⟩ := hcanonical rfl
    rw [wantedSources_include, wantedSources_none] at hsame
    exact (hsame source).mp hsource
  rcases held with _ | ⟨mode, sources⟩ <;> rcases held' with _ | ⟨mode', sources'⟩
  · rfl
  · cases mode' with
    | Include => exact absurd (fun source => (hwanted source).symm) (habsent (h' _ rfl))
    | Exclude => exact absurd (hmode.mpr rfl) (by rintro ⟨⟩)
  · cases mode with
    | Include => exact absurd hwanted (habsent (h _ rfl))
    | Exclude => exact absurd (hmode.mp rfl) (by rintro ⟨⟩)
  · cases mode <;> cases mode'
    · rw [wantedSources_include, wantedSources_include] at hwanted
      rw [Std.ExtTreeSet.ext_mem hwanted]
    · exact absurd (hmode.mpr rfl) (by rintro ⟨⟩)
    · exact absurd (hmode.mp rfl) (by rintro ⟨⟩)
    · rw [wantedSources_exclude, wantedSources_exclude] at hwanted
      rw [Std.ExtTreeSet.ext_mem fun source => not_iff_not.mp (hwanted source)]

/-! ## Records as overwrites -/

namespace MembershipRecord

open scoped Classical in
/-- **What a record writes** into the view of its group. -/
noncomputable def writes (record : MembershipRecord) : Overwrite (Option IpAddr) Prop :=
  match record.kind with
  | .legacyReport => fun _ => some True
  | .legacyLeave => fun _ => some False
  | .modeIsInclude | .changeToInclude => fun
      | none => some False
      | some source => some (source ∈ record.sources)
  | .modeIsExclude | .changeToExclude => fun
      | none => some True
      | some source => some (source ∉ record.sources)
  | .allowNewSources => fun
      | none => none
      | some source => if source ∈ record.sources then some True else none
  | .blockOldSources => fun
      | none => none
      | some source => if source ∈ record.sources then some False else none

variable (record : MembershipRecord)

/-- Mode records set the mode, the others leave it, an emptied Include list included. -/
theorem filterMode_effect (held : Option GroupInterest) :
    (filterMode (record.effect held) = .Exclude) =
      record.writes.apply (filterView held) none := by
  cases hkind : record.kind with
  | legacyReport | modeIsExclude | changeToExclude =>
      simp [effect, writes, Overwrite.apply, hkind, filterMode, GroupInterest.ofExclude]
  | legacyLeave => simp [effect, writes, Overwrite.apply, hkind, filterMode]
  | modeIsInclude | changeToInclude =>
      simp only [effect, writes, Overwrite.apply, hkind]
      split <;> simp [filterMode, GroupInterest.ofInclude]
  | allowNewSources =>
      simp only [effect, writes, Overwrite.apply, hkind, Option.getD_none, filterView]
      split
      · rfl
      · rcases held with _ | ⟨mode, sources⟩
        · rfl
        · cases mode <;> rfl
  | blockOldSources =>
      simp only [effect, writes, Overwrite.apply, hkind, Option.getD_none, filterView]
      split
      · rfl
      · rcases held with _ | ⟨mode, sources⟩
        · rfl
        · cases mode with
          | Include =>
              simp only [Option.bind_some]
              split <;> simp [filterMode]
          | Exclude => rfl

theorem mem_asked_iff (source : IpAddr) (held : Option GroupInterest) :
    (source ∈ record.asked (wantedSources held)) =
      record.writes.apply (filterView held) (some source) := by
  cases hkind : record.kind with
  | legacyReport | legacyLeave | modeIsInclude | changeToInclude | modeIsExclude
    | changeToExclude => simp [asked, writes, Overwrite.apply, hkind, listed]
  | allowNewSources =>
      simp only [asked, writes, Overwrite.apply, hkind, listed, Set.mem_union, Set.mem_ofPred_eq]
      by_cases hsource : source ∈ record.sources
      · simp [hsource]
      · simp [hsource, filterView]
  | blockOldSources =>
      simp only [asked, writes, Overwrite.apply, hkind, listed, Set.mem_sdiff, Set.mem_ofPred_eq]
      by_cases hsource : source ∈ record.sources
      · simp [hsource]
      · simp [hsource, filterView]

/-- **A record overwrites the view of its group.** -/
theorem filterView_effect (held : Option GroupInterest) :
    filterView (record.effect held) = record.writes.apply (filterView held) := by
  funext coordinate
  cases coordinate with
  | none => exact record.filterMode_effect held
  | some source =>
      rw [← record.mem_asked_iff source held, ← record.wantedSources_effect held]
      rfl

/-- **Records done twice do what they do once.** -/
theorem foldl_effect_twice (records : List MembershipRecord) {held : Option GroupInterest}
    (hheld : ∀ i ∈ held, i.Canonical) :
    records.foldl (fun held record => record.effect held)
        (records.foldl (fun held record => record.effect held) held) =
      records.foldl (fun held record => record.effect held) held := by
  have hcanonical : ∀ held : Option GroupInterest, (∀ i ∈ held, i.Canonical) →
      ∀ i ∈ records.foldl (fun held record => record.effect held) held, i.Canonical :=
    fun held h => List.foldlRecOn
      (motive := fun held : Option GroupInterest => ∀ i ∈ held, i.Canonical) records _ h
      fun _ h record _ => effect_canonical h
  have hview : ∀ held : Option GroupInterest,
      filterView (records.foldl (fun held record => record.effect held) held) =
        records.foldl (fun view record => record.writes.apply view) (filterView held) :=
    fun held => (List.foldl_hom filterView
      fun held record => (record.filterView_effect held).symm).symm
  refine filterView_injective (hcanonical _ (hcanonical _ hheld)) (hcanonical _ hheld) ?_
  rw [hview, hview]
  exact Overwrite.foldl_apply_foldl writes records (filterView held)

end MembershipRecord

namespace RelayState

variable {state state' : RelayState}

/-! ## A state is known by its interests -/

/-- **The interests determine the state**, indexes and counters included. -/
theorem WellFormed.eq_of_endpointInterest (h : state.WellFormed) (h' : state'.WellFormed)
    (hsame : ∀ e g, state.endpointInterest e g = state'.endpointInterest e g) :
    state = state' := by
  -- an endpoint that is stored holds an interest, so that it is stored on both sides
  have hstored : ∀ {s s' : RelayState}, s.WellFormed →
      (∀ e g, s.endpointInterest e g = s'.endpointInterest e g) →
      ∀ e : SocketAddr, s'.endpoints[e]? = none → s.endpoints[e]? = none := by
    intro s s' hs hsame e hnone
    cases hsome : s.endpoints[e]? with
    | none => rfl
    | some endpointState =>
        obtain ⟨g, interest, hinterest⟩ :=
          BTreeMap.isEmpty_eq_false_iff_exists.mp (hs.nonempty e endpointState hsome)
        have hheld := hsame e g
        rw [endpointInterest, endpointInterest, hsome, hnone] at hheld
        exact absurd (hinterest.symm.trans hheld) (by simp)
  have hendpoints : state.endpoints = state'.endpoints := by
    refine Std.ExtTreeMap.ext_getElem? fun {e} => ?_
    cases hleft : state.endpoints[e]? with
    | none => exact (hstored h' (fun e g => (hsame e g).symm) e hleft).symm
    | some endpointState =>
        cases hright : state'.endpoints[e]? with
        | none => exact absurd (hstored h hsame e hright) (by simp [hleft])
        | some endpointState' =>
            refine congrArg some (EndpointState.ext_getElem? fun g => ?_)
            have hheld := hsame e g
            rwa [endpointInterest, endpointInterest, hleft, hright] at hheld
  exact h.indexed.symm.trans ((rebuildIndexes_congr hendpoints).trans h'.indexed)

/-! ## A report that comes twice -/

theorem WellFormed.canonical_interest (h : state.WellFormed) (e : SocketAddr) (g : IpAddr) :
    ∀ i ∈ state.endpointInterest e g, i.Canonical := by
  intro interest hinterest
  obtain ⟨endpointState, hstate, hgroup⟩ := Option.bind_eq_some_iff.mp hinterest
  exact h.canonical e endpointState hstate g interest hgroup

theorem WellFormed.applyReport_twice (h : state.WellFormed) (endpoint : SocketAddr)
    (report : MembershipReport) :
    ((state.applyReport endpoint report).1.applyReport endpoint report).1 =
      (state.applyReport endpoint report).1 := by
  have honce := h.applyReport endpoint report
  refine (honce.applyReport endpoint report).eq_of_endpointInterest honce fun e g => ?_
  rw [endpointInterest_applyReport, endpointInterest_applyReport]
  by_cases he : endpoint = e
  · rw [if_pos he, if_pos he]
    exact MembershipRecord.foldl_effect_twice _ (h.canonical_interest e g)
  · rw [if_neg he, if_neg he]

/-! ## What a preview tells -/

theorem previewReport_fst (state : RelayState) (endpoint : SocketAddr)
    (report : MembershipReport) :
    (state.previewReport endpoint report).1 = (state.applyReport endpoint report).2 := by
  unfold previewReport applyReport
  split <;> rfl

/-- A report leaves a state with fresh indexes alone exactly when it leaves the entry of its
endpoint alone. -/
theorem applyReport_eq_self_iff (hindexed : state.rebuildIndexes = state) {endpoint : SocketAddr}
    {report : MembershipReport} (hrecords : report.records.isEmpty = false) :
    (state.applyReport endpoint report).1 = state ↔
      state.reportedEntry endpoint report = state.endpoints[endpoint]? := by
  have hentry : ∀ e : SocketAddr, (state.applyReport endpoint report).1.endpoints[e]? =
      if endpoint = e then state.reportedEntry endpoint report else state.endpoints[e]? :=
    fun e => getElem?_endpoints_applyReport hrecords e
  constructor
  · intro hself
    have hendpoint := hentry endpoint
    rw [hself, if_pos rfl] at hendpoint
    exact hendpoint.symm
  · intro hsame
    have hendpoints : (state.applyReport endpoint report).1.endpoints = state.endpoints := by
      refine Std.ExtTreeMap.ext_getElem? fun {e} => ?_
      rw [hentry e]
      by_cases he : endpoint = e
      · rw [if_pos he, hsame, he]
      · rw [if_neg he]
    have hafter : (state.applyReport endpoint report).1.rebuildIndexes =
        (state.applyReport endpoint report).1 := by
      simp only [applyReport, hrecords, Bool.false_eq_true, if_false]
      rfl
    exact hafter.symm.trans ((rebuildIndexes_congr hendpoints).trans hindexed)

/-- **The preview is exact**: it returns the count of the report, and whether the report
changes the state. -/
theorem previewReport_snd_iff (hindexed : state.rebuildIndexes = state) (endpoint : SocketAddr)
    (report : MembershipReport) :
    (state.previewReport endpoint report).2 = true ↔
      (state.applyReport endpoint report).1 ≠ state := by
  cases hrecords : report.records.isEmpty with
  | true => simp [previewReport, applyReport, hrecords]
  | false =>
      rw [Ne, applyReport_eq_self_iff hindexed hrecords]
      simp only [previewReport, hrecords, Bool.false_eq_true, if_false, reportedEntry]
      generalize ((state.endpoints[endpoint]?.getD .default).applyRecords report.records).1 = after
      cases after.groups.isEmpty with
      | true => cases state.endpoints[endpoint]? <;> simp
      | false =>
          simp only [Bool.false_eq_true, if_false, decide_eq_true_iff]
          exact not_congr eq_comm

/-! ## Updates of different endpoints -/

/-- What a gateway may ask for, without limits. -/
inductive Update where
  | report (report : MembershipReport)
  | remove

/-- The state after one update. -/
def update (state : RelayState) (endpoint : SocketAddr) : Update → RelayState
  | .report report => (state.applyReport endpoint report).1
  | .remove => (state.removeEndpoint endpoint).1

/-- What an update makes of the interests of its endpoint. -/
def Update.effect : Update → (IpAddr → Option GroupInterest) → IpAddr → Option GroupInterest
  | .report sent, held, g =>
      (sent.records.filter fun record => record.group = g).foldl
        (fun held record => record.effect held) (held g)
  | .remove, _, _ => none

/-- An update acts on one endpoint. -/
theorem endpointInterest_update (state : RelayState) (endpoint : SocketAddr) (update : Update)
    (e : SocketAddr) :
    (state.update endpoint update).endpointInterest e =
      if endpoint = e then update.effect (state.endpointInterest e)
      else state.endpointInterest e := by
  funext g
  cases update with
  | report report =>
      refine (endpointInterest_applyReport state endpoint report e g).trans ?_
      by_cases he : endpoint = e
      · rw [if_pos he, if_pos he]
        rfl
      · rw [if_neg he, if_neg he]
  | remove =>
      refine (endpointInterest_removeEndpoint state endpoint e g).trans ?_
      by_cases he : endpoint = e
      · rw [if_pos he, if_pos he]
        rfl
      · rw [if_neg he, if_neg he]

theorem WellFormed.update (h : state.WellFormed) (endpoint : SocketAddr) (update : Update) :
    (state.update endpoint update).WellFormed := by
  cases update with
  | report report => exact h.applyReport endpoint report
  | remove => exact h.removeEndpoint endpoint

/-- The updates of several gateways, in the order of their arrival. -/
def updates (state : RelayState) (arrived : List (SocketAddr × Update)) : RelayState :=
  arrived.foldl (fun state arrival => state.update arrival.1 arrival.2) state

theorem WellFormed.updates (h : state.WellFormed) (arrived : List (SocketAddr × Update)) :
    (state.updates arrived).WellFormed :=
  List.foldlRecOn (motive := fun state : RelayState => state.WellFormed) arrived _ h
    fun _ h arrival _ => h.update arrival.1 arrival.2

/-- **Only each gateway's own order matters.** -/
theorem WellFormed.updates_congr (h : state.WellFormed)
    {first second : List (SocketAddr × Update)}
    (hsame : ∀ e, (first.filter fun arrival => arrival.1 = e) =
      second.filter fun arrival => arrival.1 = e) :
    state.updates first = state.updates second := by
  refine (h.updates first).eq_of_endpointInterest (h.updates second) fun e g => ?_
  have hkeyed : ∀ (state : RelayState) (arrival : SocketAddr × Update) (e : SocketAddr),
      endpointInterest (state.update arrival.1 arrival.2) e =
        if arrival.1 = e then arrival.2.effect (endpointInterest state e)
        else endpointInterest state e :=
    fun state arrival e => endpointInterest_update state arrival.1 arrival.2 e
  exact congrFun (read_foldl_keyed_congr hkeyed hsame state e) g

/-- Updates of two endpoints, read at one of all endpoints. -/
theorem filter_pair_comm {a b : SocketAddr} (hab : a ≠ b) (u v : Update) (e : SocketAddr) :
    ([(a, u), (b, v)].filter fun arrival => arrival.1 = e) =
      [(b, v), (a, u)].filter fun arrival => arrival.1 = e := by
  by_cases ha : a = e
  · have hb : b ≠ e := fun hb => hab (ha.trans hb.symm)
    simp [ha, hb]
  · by_cases hb : b = e <;> simp [ha, hb]

/-! ## Reachable states -/

/-- **A duplicated report is harmless.**  In every reachable state a report that is applied a
second time leaves the whole state as the first left it, whatever its records, and the relay
sees beforehand that it will. -/
theorem afterOps_applyReport_twice (ops : List Op) (endpoint : SocketAddr)
    (report : MembershipReport) :
    (((afterOps ops).applyReport endpoint report).1.applyReport endpoint report).1 =
        ((afterOps ops).applyReport endpoint report).1 ∧
      (((afterOps ops).applyReport endpoint report).1.previewReport endpoint report).2 = false := by
  have hwf := wellFormed_afterOps ops
  have htwice := hwf.applyReport_twice endpoint report
  refine ⟨htwice, ?_⟩
  rw [Bool.eq_false_iff, Ne,
    previewReport_snd_iff (hwf.applyReport endpoint report).indexed endpoint report]
  exact not_not.mpr htwice

/-- **Gateways do not get in each other's way.**  In every reachable state, updates of two
different endpoints lead to the same state in either order, indexes and counters included;
and so do any two orders of arrival that agree on each endpoint's own updates. -/
theorem afterOps_updates_commute (ops : List Op) :
    (∀ a b : SocketAddr, a ≠ b → ∀ u v : Update,
      ((afterOps ops).update a u).update b v = ((afterOps ops).update b v).update a u) ∧
    ∀ first second : List (SocketAddr × Update),
      (∀ e, (first.filter fun arrival => arrival.1 = e) =
        second.filter fun arrival => arrival.1 = e) →
      (afterOps ops).updates first = (afterOps ops).updates second := by
  have hwf := wellFormed_afterOps ops
  exact ⟨fun a b hab u v => hwf.updates_congr (filter_pair_comm hab u v),
    fun first second hsame => hwf.updates_congr hsame⟩

end RelayState

end Amt

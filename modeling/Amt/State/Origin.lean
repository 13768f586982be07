import Amt.State.Limits
import Amt.State.Aggregate

/-!
# Where the sources of a state come from

A source that some stored or merged filter lists was listed by a record for that group.
`Sourced V` says it for any relation `V` between a group and a source: if it holds of the
records that are applied, it holds of every stored filter (`Sourced.applyReport`) and of
the aggregate (`Sourced.aggregate`), although merging adds sources of several endpoints
and takes sources out of Exclude filters.

The second half bounds the *groups* of the aggregate.  Each of them needs a subscription,
so that a report which passes the limits leaves at most as many groups as there may be
subscriptions; and a removal, after which there may be too many subscriptions, never adds
a group.
-/

namespace Amt

open Std (ExtTreeMap ExtTreeSet)

variable {V : IpAddr → IpAddr → Prop}

/-- The records list only sources that `V` allows in their group. -/
def RecordsListed (V : IpAddr → IpAddr → Prop) (records : List MembershipRecord) : Prop :=
  ∀ record ∈ records, ∀ source ∈ record.sources, V record.group source

/-- A record leaves no source in a filter that neither it nor the filter before listed. -/
theorem MembershipRecord.mem_effect {record : MembershipRecord} {held : Option GroupInterest}
    {interest : GroupInterest} (h : record.effect held = some interest) {source : IpAddr}
    (hsource : source ∈ interest.sources) :
    source ∈ record.sources ∨ ∃ before, held = some before ∧ source ∈ before.sources := by
  obtain ⟨kind, group, sources⟩ := record
  cases kind with
  | legacyReport =>
      cases h
      simp [GroupInterest.ofExclude] at hsource
  | modeIsExclude | changeToExclude =>
      cases h
      exact .inl (by simpa [GroupInterest.ofExclude] using hsource)
  | legacyLeave => cases h
  | modeIsInclude | changeToInclude =>
      simp only [effect] at h
      split at h
      · cases h
      · cases h
        exact .inl (by simpa [GroupInterest.ofInclude] using hsource)
  | allowNewSources =>
      simp only [effect] at h
      split at h
      · exact .inr ⟨interest, h, hsource⟩
      · -- without a filter before, the source starts from one that includes nothing
        have hbefore : source ∈ (held.getD (.ofInclude [])).sources →
            ∃ before, held = some before ∧ source ∈ before.sources := by
          intro hmem
          cases held with
          | none => simp [GroupInterest.ofInclude] at hmem
          | some before => exact ⟨before, rfl, hmem⟩
        split at h
        · cases h
          exact (BTreeSet.mem_insertMany_iff.mp hsource).symm.imp_right hbefore
        · cases h
          exact .inr (hbefore ((BTreeSet.mem_foldl_erase_iff _ _).mp hsource).1)
  | blockOldSources =>
      simp only [effect] at h
      split at h
      · exact .inr ⟨interest, h, hsource⟩
      · obtain ⟨before, hheld, h⟩ := Option.bind_eq_some_iff.mp h
        split at h
        · split at h
          · cases h
          · cases h
            exact .inr ⟨before, hheld, ((BTreeSet.mem_foldl_erase_iff _ _).mp hsource).1⟩
        · cases h
          exact (BTreeSet.mem_insertMany_iff.mp hsource).symm.imp_right
            fun hmem => ⟨before, hheld, hmem⟩

/-- A filter is its mode and what it wants. -/
theorem GroupInterest.ext_wants {interest interest' : GroupInterest}
    (hmode : interest.mode = .Exclude ↔ interest'.mode = .Exclude)
    (hwants : ∀ source, interest.wantsSource source = true ↔ interest'.wantsSource source = true) :
    interest = interest' := by
  obtain ⟨mode, sources⟩ := interest
  obtain ⟨mode', sources'⟩ := interest'
  obtain rfl : mode = mode' := by
    cases mode <;> cases mode' <;> simp_all
  congr 1
  refine ExtTreeSet.ext_mem fun source => ?_
  have hsource := hwants source
  simp only [GroupInterest.wantsSource_iff] at hsource
  cases mode with
  | Include => simpa using hsource
  | Exclude => simpa [not_iff_not] using hsource

namespace RelayState

variable {state state' : RelayState}

/-- Every stored filter lists only sources that `V` allows in its group. -/
def Sourced (V : IpAddr → IpAddr → Prop) (state : RelayState) : Prop :=
  ∀ (e : SocketAddr) (g : IpAddr) (interest : GroupInterest),
    state.endpointInterest e g = some interest → ∀ source ∈ interest.sources, V g source

theorem sourced_default : Sourced V .default := by
  intro e g interest hinterest
  simp [default, endpointInterest] at hinterest

/-- Every source held was listed by some record. -/
theorem Sourced.applyReport (h : state.Sourced V) {report : MembershipReport}
    (hreport : RecordsListed V report.records) (endpoint : SocketAddr) :
    (state.applyReport endpoint report).1.Sourced V := by
  intro e g interest hinterest source hsource
  rw [endpointInterest_applyReport] at hinterest
  split at hinterest
  · -- the records for the group act one after the other
    have hfold : ∀ i ∈ (report.records.filter fun record => record.group = g).foldl
        (fun held record => record.effect held) (state.endpointInterest e g),
          ∀ s ∈ i.sources, V g s := by
      refine List.foldlRecOn (motive := fun held : Option GroupInterest =>
        ∀ i ∈ held, ∀ s ∈ i.sources, V g s) _ _ (h e g) ?_
      intro held hheld record hrecord i hi s hs
      obtain ⟨hmem, hgroup⟩ := List.mem_filter.mp hrecord
      rcases record.mem_effect hi hs with hlisted | ⟨before, hbefore, hs⟩
      · rw [← of_decide_eq_true hgroup]
        exact hreport record hmem s hlisted
      · exact hheld before hbefore s hs
    exact hfold interest hinterest source hsource
  · exact h e g interest hinterest source hsource

theorem Sourced.of_shrinks (h : state.Sourced V) (hshrinks : state.Shrinks state') :
    state'.Sourced V :=
  fun e g interest hinterest => h e g interest (hshrinks e g interest hinterest)

/-- **Merging invents no source.** -/
theorem Sourced.aggregate (h : state.Sourced V) (hwf : state.WellFormed) {g : IpAddr}
    {merged : GroupInterest} (hmerged : state.aggregate[g]? = some merged) {source : IpAddr}
    (hsource : source ∈ merged.sources) : V g source := by
  rcases hwf.aggregate_cases g with ⟨hnone, -⟩ | ⟨merged', hmerged', -, hmode, hwants⟩
  · rw [hnone] at hmerged
    cases hmerged
  · obtain rfl : merged' = merged := Option.some.inj (hmerged'.symm.trans hmerged)
    cases hcase : merged'.mode with
    | Include =>
        obtain ⟨e, interest, hinterest, hwanted⟩ := (hwants source).mp
          (GroupInterest.wantsSource_iff.mpr (by simp [hcase, hsource]))
        have hinclude : interest.mode = .Include := by
          cases hi : interest.mode with
          | Include => rfl
          | Exclude =>
              rw [hmode.mpr ⟨e, interest, hinterest, hi⟩] at hcase
              cases hcase
        have hlisted : source ∈ interest.sources := by
          simpa [GroupInterest.wantsSource, hinclude] using hwanted
        exact h e g interest hinterest source hlisted
    | Exclude =>
        obtain ⟨e, interest, hinterest, hexclude⟩ := hmode.mp hcase
        have hunwanted : ¬ interest.wantsSource source = true := by
          intro hwanted
          have hmergedWants := (hwants source).mpr ⟨e, interest, hinterest, hwanted⟩
          rw [GroupInterest.wantsSource_iff] at hmergedWants
          simp [hcase, hsource] at hmergedWants
        have hlisted : source ∈ interest.sources := by
          simpa [GroupInterest.wantsSource, hexclude] using hunwanted
        exact h e g interest hinterest source hlisted

/-- Every stored group is one that `G` allows. -/
def Grouped (G : IpAddr → Prop) (state : RelayState) : Prop :=
  ∀ (e : SocketAddr) (g : IpAddr) (interest : GroupInterest),
    state.endpointInterest e g = some interest → G g

theorem grouped_default {G : IpAddr → Prop} : Grouped G .default := by
  intro e g interest hinterest
  simp [default, endpointInterest] at hinterest

theorem Grouped.applyReport {G : IpAddr → Prop} (h : state.Grouped G) {report : MembershipReport}
    (hreport : ∀ record ∈ report.records, G record.group) (endpoint : SocketAddr) :
    (state.applyReport endpoint report).1.Grouped G := by
  intro e g interest hinterest
  by_cases hnamed : ∃ record ∈ report.records, record.group = g
  · obtain ⟨record, hrecord, rfl⟩ := hnamed
    exact hreport record hrecord
  · have hnone : (report.records.filter fun record => record.group = g) = [] :=
      List.filter_eq_nil_iff.mpr fun record hrecord hgroup =>
        hnamed ⟨record, hrecord, of_decide_eq_true hgroup⟩
    rw [endpointInterest_applyReport, hnone] at hinterest
    exact h e g interest (by simpa using hinterest)

/-! ## The groups of the aggregate -/

theorem WellFormed.aggregate_isSome_iff (h : state.WellFormed) (g : IpAddr) :
    (∃ merged, state.aggregate[g]? = some merged) ↔
      ∃ e interest, state.endpointInterest e g = some interest := by
  rcases h.aggregate_cases g with ⟨hnone, hheld⟩ | ⟨merged, hmerged, hheld, -⟩
  · refine iff_of_false ?_ ?_
    · rintro ⟨merged, hmerged⟩
      rw [hnone] at hmerged
      cases hmerged
    · rintro ⟨e, interest, hinterest⟩
      rw [hheld e] at hinterest
      cases hinterest
  · exact iff_of_true ⟨merged, hmerged⟩ hheld

/-- The aggregate wants what somebody wants. -/
theorem WellFormed.aggregate_wants_iff (h : state.WellFormed) (g source : IpAddr) :
    (∃ merged, state.aggregate[g]? = some merged ∧ merged.wantsSource source = true) ↔
      ∃ e interest, state.endpointInterest e g = some interest ∧
        interest.wantsSource source = true := by
  rcases h.aggregate_cases g with ⟨hnone, hheld⟩ | ⟨merged, hmerged, -, -, hwants⟩
  · simp [hnone, hheld]
  · rw [← hwants source]
    simp [hmerged]

/-- The aggregate excludes where somebody excludes. -/
theorem WellFormed.aggregate_exclude_iff (h : state.WellFormed) (g : IpAddr) :
    (∃ merged, state.aggregate[g]? = some merged ∧ merged.mode = .Exclude) ↔
      ∃ e interest, state.endpointInterest e g = some interest ∧ interest.mode = .Exclude := by
  rcases h.aggregate_cases g with ⟨hnone, hheld⟩ | ⟨merged, hmerged, -, hmode, -⟩
  · simp [hnone, hheld]
  · rw [← hmode]
    simp [hmerged]

/-- A merged filter does not include nothing. -/
theorem WellFormed.canonical_aggregate (h : state.WellFormed) {g : IpAddr}
    {merged : GroupInterest} (hmerged : state.aggregate[g]? = some merged) : merged.Canonical := by
  intro hinclude
  rcases h.aggregate_cases g with ⟨hnone, -⟩ | ⟨merged', hmerged', hheld, hmode, hwants⟩
  · rw [hnone] at hmerged
    cases hmerged
  · obtain rfl : merged' = merged := Option.some.inj (hmerged'.symm.trans hmerged)
    obtain ⟨e, interest, hinterest⟩ := hheld
    have hmodeInterest : interest.mode = .Include := by
      cases hi : interest.mode with
      | Include => rfl
      | Exclude =>
          rw [hmode.mpr ⟨e, interest, hinterest, hi⟩] at hinclude
          cases hinclude
    obtain ⟨source, hsource⟩ := h.canonical_endpointInterest hinterest hmodeInterest
    have hwanted := (hwants source).mpr
      ⟨e, interest, hinterest, GroupInterest.wantsSource_iff.mpr (.inl ⟨hmodeInterest, hsource⟩)⟩
    refine ⟨source, ?_⟩
    simpa [hinclude] using GroupInterest.wantsSource_iff.mp hwanted

/-- **The filter of a group that one endpoint holds** is the endpoint's own. -/
theorem WellFormed.aggregate_of_single (h : state.WellFormed) {endpoint : SocketAddr}
    (hsingle : ∀ e g, e ≠ endpoint → state.endpointInterest e g = none) (g : IpAddr) :
    state.aggregate[g]? = state.endpointInterest endpoint g := by
  have hall : ∀ {e interest}, state.endpointInterest e g = some interest →
      state.endpointInterest endpoint g = some interest := by
    intro e interest hinterest
    by_cases he : e = endpoint
    · rw [← he, hinterest]
    · rw [hsingle e g he] at hinterest
      cases hinterest
  rcases h.aggregate_cases g with ⟨hnone, hheld⟩ | ⟨merged, hmerged, hheld, hmode, hwants⟩
  · rw [hnone, hheld endpoint]
  · obtain ⟨e, interest, hinterest⟩ := hheld
    have hown := hall hinterest
    rw [hmerged, hown]
    refine congrArg some (GroupInterest.ext_wants ?_ fun source => ?_)
    · rw [hmode]
      constructor
      · rintro ⟨e', interest', hinterest', hexclude⟩
        rwa [Option.some.inj (hown.symm.trans (hall hinterest'))]
      · intro hexclude
        exact ⟨endpoint, interest, hown, hexclude⟩
    · rw [hwants]
      constructor
      · rintro ⟨e', interest', hinterest', hwanted⟩
        rwa [Option.some.inj (hown.symm.trans (hall hinterest'))]
      · intro hwanted
        exact ⟨endpoint, interest, hown, hwanted⟩

/-- Every group of the aggregate has a subscription. -/
theorem WellFormed.exists_subscription (h : state.WellFormed) {g : IpAddr}
    (hg : ∃ merged, state.aggregate[g]? = some merged) :
    ∃ subscription ∈ state.subscriptions, subscription.group = g := by
  obtain ⟨e, interest, hinterest⟩ := (h.aggregate_isSome_iff g).mp hg
  by_cases hexclude : state.SomeExclude g
  · exact ⟨.asm g, (h.mem_subscriptions_asm g).mpr hexclude, rfl⟩
  · have hmode : interest.mode = .Include := by
      cases hmode : interest.mode with
      | Include => rfl
      | Exclude => exact absurd ⟨e, interest, hinterest, hmode⟩ hexclude
    obtain ⟨source, hsource⟩ := h.canonical_endpointInterest hinterest hmode
    exact ⟨.ssm g source, (h.mem_subscriptions_ssm g source).mpr
      ⟨hexclude, e, interest, hinterest, hmode, hsource⟩, rfl⟩

theorem WellFormed.size_aggregate_le (h : state.WellFormed) :
    state.aggregate.size ≤ state.subscriptions.size := by
  rw [← BTreeSet.card_toFinset, ← ExtTreeMap.length_keys,
    ← List.toFinset_card_of_nodup (BTreeMap.keys_nodup _)]
  refine (Finset.card_le_card ?_).trans
    (Finset.card_image_le (f := UpstreamSubscription.group))
  intro g hg
  obtain ⟨subscription, hmem, rfl⟩ :=
    h.exists_subscription (BTreeMap.mem_keys_iff_exists.mp (List.mem_toFinset.mp hg))
  exact Finset.mem_image.mpr ⟨subscription, BTreeSet.mem_toFinset.mpr hmem, rfl⟩

/-- A removal does not add groups. -/
theorem Shrinks.size_aggregate_le (hshrinks : state.Shrinks state') (h : state.WellFormed)
    (h' : state'.WellFormed) : state'.aggregate.size ≤ state.aggregate.size := by
  refine BTreeMap.size_le_of_getElem? fun g merged hmerged => ?_
  obtain ⟨e, interest, hinterest⟩ := (h'.aggregate_isSome_iff g).mp ⟨merged, hmerged⟩
  exact (h.aggregate_isSome_iff g).mpr ⟨e, interest, hshrinks e g interest hinterest⟩

/-- **The aggregate keeps to the limit on subscriptions**, in groups, whatever is reported or
removed. -/
theorem WellFormed.size_aggregate_limitedStep (h : state.WellFormed) {limits : RelayLimits}
    (hsize : state.aggregate.size ≤ limits.maxUpstreamSubscriptions) (op : LimitedOp) :
    (state.limitedStep limits op).aggregate.size ≤ limits.maxUpstreamSubscriptions := by
  cases op with
  | report endpoint report =>
      show (state.applyReportLimited endpoint report limits).1.aggregate.size ≤ _
      rcases applyReportLimited_cases h.indexed endpoint report limits with
        ⟨-, hchecks, heq⟩ | ⟨error, heq⟩
      · rw [heq]
        obtain ⟨-, -, -, -, -, -, hsubscriptions⟩ := checkLimits_eq_ok_iff.mp hchecks
        exact (h.applyReport endpoint report).size_aggregate_le.trans hsubscriptions
      · rw [heq]
        exact hsize
  | remove endpoint =>
      exact ((shrinks_removeEndpoint state endpoint).size_aggregate_le h
        (h.removeEndpoint endpoint)).trans hsize

end RelayState

end Amt

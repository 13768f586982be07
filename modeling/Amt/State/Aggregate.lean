import Amt.State.Index

/-!
# Merged filters and native subscriptions

The relay joins a group upstream once for all its gateways.  `GroupSummary` collects
the filters of a group: the union of the Include sets, the intersection of the Exclude
sets, and in the end the Exclude intersection minus the Include union.

Read as sets of wanted sources this is a union (`Summarises.intoInterest`): an Exclude
filter wants the complement of its set, complements turn the intersection into a union,
and the subtraction adds the included sources back.  The subscriptions follow the
merged filter's mode, so that a well-formed state subscribes to exactly what its
gateways need (`mem_subscriptions_asm`, `mem_subscriptions_ssm`).
-/

namespace Amt

open Std (ExtTreeMap ExtTreeSet)

/-! ## Summaries -/

namespace GroupSummary

/-- The summary holds the Include union and the Exclude intersection of the interests. -/
structure Summarises (summary : GroupSummary) (interests : List GroupInterest) : Prop where
  mem_include : ∀ source, source ∈ summary.includeSources ↔
    ∃ i ∈ interests, i.mode = .Include ∧ source ∈ i.sources
  exclude_none : summary.excludeSources = none → ∀ i ∈ interests, i.mode = .Include
  exclude_some : ∀ excluded, summary.excludeSources = some excluded →
    (∃ i ∈ interests, i.mode = .Exclude) ∧
      ∀ source, source ∈ excluded ↔ ∀ i ∈ interests, i.mode = .Exclude → source ∈ i.sources

theorem summarises_default : Summarises .default [] where
  mem_include := by simp [default]
  exclude_none := by simp
  exclude_some := by simp [default]

/-- One more interest, in either mode. -/
theorem Summarises.apply {summary : GroupSummary} {interests : List GroupInterest}
    (h : summary.Summarises interests) (interest : GroupInterest) :
    (summary.apply interest).Summarises (interests ++ [interest]) := by
  obtain ⟨mode, sources⟩ := interest
  cases mode with
  | Include =>
      refine ⟨fun source => ?_, fun hnone i hi => ?_, fun excluded hsome => ?_⟩
      · simp [GroupSummary.apply, h.mem_include, or_and_right, exists_or]
      · rcases List.mem_append.mp hi with hi | hi
        · exact h.exclude_none hnone i hi
        · rw [List.mem_singleton.mp hi]
      · obtain ⟨⟨i, hi, hmode⟩, hmem⟩ := h.exclude_some excluded hsome
        refine ⟨⟨i, List.mem_append_left _ hi, hmode⟩, fun source => ?_⟩
        simp [hmem, or_imp, forall_and]
  | Exclude =>
      refine ⟨fun source => ?_, fun hnone => ?_, fun excluded hsome => ?_⟩
      · simp [GroupSummary.apply, h.mem_include, or_and_right, exists_or]
      · simp only [GroupSummary.apply] at hnone
        split at hnone <;> cases hnone
      · refine ⟨⟨⟨.Exclude, sources⟩, by simp, rfl⟩, fun source => ?_⟩
        simp only [GroupSummary.apply] at hsome
        cases hprevious : summary.excludeSources with
        | none =>
            -- the first Exclude interest: every earlier one is an Include interest
            obtain rfl : sources = excluded := by simpa [hprevious] using hsome
            have hothers : ∀ i ∈ interests, i.mode ≠ .Exclude := fun i hi =>
              by simp [h.exclude_none hprevious i hi]
            simp only [List.mem_append, List.mem_singleton, or_imp, forall_and, forall_eq,
              true_imp_iff]
            exact ⟨fun hs => ⟨fun i hi hmode => absurd hmode (hothers i hi), hs⟩, fun hs => hs.2⟩
        | some previous =>
            obtain rfl : previous.filter (fun s => sources.contains s) = excluded := by
              simpa [hprevious] using hsome
            obtain ⟨-, hmem⟩ := h.exclude_some previous hprevious
            simp [hmem, or_imp, forall_and]

theorem summarises_foldl (interests : List GroupInterest) :
    Summarises (interests.foldl GroupSummary.apply .default) interests := by
  induction interests using List.reverseRecOn with
  | nil => exact summarises_default
  | append_singleton interests interest ih =>
      rw [List.foldl_append]
      exact ih.apply interest

/-- **The merged filter wants what one of the filters wants**, and it is an Exclude
filter when one of them is. -/
theorem Summarises.intoInterest {summary : GroupSummary} {interests : List GroupInterest}
    (h : summary.Summarises interests) (hne : interests ≠ [])
    (hcanonical : ∀ i ∈ interests, i.Canonical) :
    ∃ merged, summary.intoInterest = some merged ∧
      (merged.mode = .Exclude ↔ ∃ i ∈ interests, i.mode = .Exclude) ∧
      ∀ source, merged.wantsSource source = true ↔
        ∃ i ∈ interests, i.wantsSource source = true := by
  unfold GroupSummary.intoInterest
  cases hexclude : summary.excludeSources with
  | none =>
      have hmodes := h.exclude_none hexclude
      -- some interest is held, and as an Include interest it has a source
      obtain ⟨i, hi⟩ := List.exists_mem_of_ne_nil _ hne
      obtain ⟨source, hsource⟩ := hcanonical i hi (hmodes i hi)
      have hnonempty : summary.includeSources.isEmpty = false :=
        BTreeSet.isEmpty_eq_false_iff_exists.mpr
          ⟨source, (h.mem_include source).mpr ⟨i, hi, hmodes i hi, hsource⟩⟩
      refine ⟨⟨.Include, summary.includeSources⟩, by simp [hnonempty], ?_, fun source => ?_⟩
      · simp only [reduceCtorEq, false_iff, not_exists, not_and]
        exact fun i hi hmode => by simp [hmodes i hi] at hmode
      · simp only [GroupInterest.wantsSource_iff, h.mem_include, reduceCtorEq, false_and, or_false,
          true_and]
        refine exists_congr fun i => and_congr_right fun hi => ?_
        simp [hmodes i hi]
  | some excluded =>
      obtain ⟨hexists, hmem⟩ := h.exclude_some excluded hexclude
      refine ⟨_, rfl, by simpa using hexists, fun source => ?_⟩
      simp only [GroupInterest.wantsSource_iff, reduceCtorEq, false_and, false_or, true_and,
        BTreeSet.mem_foldl_erase_iff, ExtTreeSet.mem_toList, h.mem_include, hmem]
      constructor
      · intro hwants
        by_cases hincluded : ∃ i ∈ interests, i.mode = .Include ∧ source ∈ i.sources
        · obtain ⟨i, hi, hboth⟩ := hincluded
          exact ⟨i, hi, .inl hboth⟩
        · have : ¬ ∀ i ∈ interests, i.mode = .Exclude → source ∈ i.sources :=
            fun hall => hwants ⟨hall, hincluded⟩
          push Not at this
          obtain ⟨i, hi, hboth⟩ := this
          exact ⟨i, hi, .inr hboth⟩
      · rintro ⟨i, hi, hboth | ⟨hmode, hnot⟩⟩ ⟨hall, hincluded⟩
        · exact hincluded ⟨i, hi, hboth⟩
        · exact hnot (hall i hi hmode)

end GroupSummary

namespace RelayState

/-! ## The aggregate -/

/-- The interests held in a group are those of its endpoints. -/
theorem mem_map_heldIn {state : RelayState} {g : IpAddr} {interest : GroupInterest} :
    interest ∈ (heldIn state.endpoints g).map (fun x => x.2.2) ↔
      ∃ e, state.endpointInterest e g = some interest := by
  rw [List.mem_map]
  constructor
  · rintro ⟨x, hx, rfl⟩
    exact ⟨x.1, (mem_heldIn.mp hx).2⟩
  · rintro ⟨e, hinterest⟩
    exact ⟨(e, g, interest), mem_heldIn.mpr ⟨rfl, hinterest⟩, rfl⟩

theorem getElem?_aggregate_rebuildIndexes (state : RelayState) (g : IpAddr) :
    state.rebuildIndexes.aggregate[g]? =
      if (heldIn state.endpoints g).isEmpty then none
      else (((heldIn state.endpoints g).map fun x => x.2.2).foldl GroupSummary.apply
        .default).intoInterest := by
  simp only [rebuildIndexes, scan_eq]
  rw [BTreeMap.getElem?_filterMap_eq, BTreeMap.getElem?_foldl_upsert, List.foldl_map, heldIn]
  split <;> simp

variable {state : RelayState}

theorem WellFormed.canonical_endpointInterest (h : state.WellFormed) {e : SocketAddr} {g : IpAddr}
    {interest : GroupInterest} (hinterest : state.endpointInterest e g = some interest) :
    interest.Canonical := by
  obtain ⟨endpointState, hstate, hgroup⟩ := Option.bind_eq_some_iff.mp hinterest
  exact h.canonical e endpointState hstate g interest hgroup

/-- **The aggregate, read at one group.** -/
theorem WellFormed.aggregate_cases (h : state.WellFormed) (g : IpAddr) :
    (state.aggregate[g]? = none ∧ ∀ e, state.endpointInterest e g = none) ∨
      ∃ merged, state.aggregate[g]? = some merged ∧
        (∃ e interest, state.endpointInterest e g = some interest) ∧
        (merged.mode = .Exclude ↔
          ∃ e interest, state.endpointInterest e g = some interest ∧ interest.mode = .Exclude) ∧
        ∀ source, merged.wantsSource source = true ↔
          ∃ e interest, state.endpointInterest e g = some interest ∧
            interest.wantsSource source = true := by
  have hread := getElem?_aggregate_rebuildIndexes state g
  rw [h.indexed] at hread
  -- what holds of a held interest holds of an interest of some endpoint
  have hexists : ∀ P : GroupInterest → Prop,
      (∃ i ∈ (heldIn state.endpoints g).map (fun x => x.2.2), P i) ↔
        ∃ e interest, state.endpointInterest e g = some interest ∧ P interest := by
    intro P
    constructor
    · rintro ⟨i, hi, hP⟩
      obtain ⟨e, hinterest⟩ := mem_map_heldIn.mp hi
      exact ⟨e, i, hinterest, hP⟩
    · rintro ⟨e, i, hinterest, hP⟩
      exact ⟨i, mem_map_heldIn.mpr ⟨e, hinterest⟩, hP⟩
  by_cases hempty : (heldIn state.endpoints g).isEmpty
  · refine .inl ⟨by rw [hread, if_pos hempty], fun e => ?_⟩
    cases hinterest : state.endpointInterest e g with
    | none => rfl
    | some interest =>
        have := mem_map_heldIn.mpr ⟨e, hinterest⟩
        simp [List.isEmpty_iff.mp hempty] at this
  · have hne : (heldIn state.endpoints g).map (fun x => x.2.2) ≠ [] := by
      simpa [List.isEmpty_iff] using hempty
    obtain ⟨merged, hmerged, hmode, hwants⟩ :=
      (GroupSummary.summarises_foldl _).intoInterest hne fun i hi => by
        obtain ⟨e, hinterest⟩ := mem_map_heldIn.mp hi
        exact h.canonical_endpointInterest hinterest
    refine .inr ⟨merged, by rw [hread, if_neg hempty, hmerged], ?_, hmode.trans (hexists _),
      fun source => (hwants source).trans (hexists _)⟩
    obtain ⟨i, hi⟩ := List.exists_mem_of_ne_nil _ hne
    obtain ⟨e, hinterest⟩ := mem_map_heldIn.mp hi
    exact ⟨e, i, hinterest⟩

/-! ## The subscriptions -/

/-- The merged filter of a group calls for a subscription of this kind. -/
def calledFor (merged : GroupInterest) : Option IpAddr → Prop
  | none => merged.mode = .Exclude
  | some source => merged.mode = .Include ∧ source ∈ merged.sources

theorem mem_insertSubscriptions {subscriptions : BTreeSet UpstreamSubscription}
    {entry : IpAddr × GroupInterest} {subscription : UpstreamSubscription} :
    subscription ∈ insertSubscriptions subscriptions entry ↔
      subscription ∈ subscriptions ∨
        subscription.group = entry.1 ∧ calledFor entry.2 subscription.source := by
  obtain ⟨g, mode, sources⟩ := entry
  obtain ⟨group, source⟩ := subscription
  cases mode with
  | Exclude =>
      simp only [insertSubscriptions]
      rw [BTreeSet.mem_insert_iff, or_comm]
      cases source <;> simp [calledFor, UpstreamSubscription.asm]
  | Include =>
      simp only [insertSubscriptions]
      rw [BTreeSet.mem_insertMany_iff, List.mem_map]
      refine or_congr_right ?_
      cases source with
      | none => simp [calledFor, UpstreamSubscription.ssm]
      | some source =>
          simp only [ExtTreeSet.mem_toList, UpstreamSubscription.ssm, calledFor, true_and,
            UpstreamSubscription.mk.injEq, Option.some.injEq]
          constructor
          · rintro ⟨_, hmem, rfl, rfl⟩
            exact ⟨rfl, hmem⟩
          · rintro ⟨rfl, hmem⟩
            exact ⟨source, hmem, rfl, rfl⟩

/-- The subscription loop, read at one subscription. -/
theorem mem_foldl_insertSubscriptions {subscription : UpstreamSubscription}
    (entries : List (IpAddr × GroupInterest)) (subscriptions : BTreeSet UpstreamSubscription) :
    subscription ∈ entries.foldl insertSubscriptions subscriptions ↔
      subscription ∈ subscriptions ∨
        ∃ entry ∈ entries, subscription.group = entry.1 ∧
          calledFor entry.2 subscription.source := by
  induction entries generalizing subscriptions with
  | nil => simp
  | cons entry entries ih =>
      rw [List.foldl_cons, ih, mem_insertSubscriptions, List.exists_mem_cons_iff, or_assoc]

theorem mem_subscriptions_iff (hindexed : state.rebuildIndexes = state)
    {subscription : UpstreamSubscription} :
    subscription ∈ state.subscriptions ↔
      ∃ merged, state.aggregate[subscription.group]? = some merged ∧
        calledFor merged subscription.source := by
  have hfold : state.subscriptions = state.aggregate.toList.foldl insertSubscriptions ∅ := by
    rw [← hindexed]
    rfl
  rw [hfold, mem_foldl_insertSubscriptions]
  constructor
  · rintro (hmem | ⟨⟨g, merged⟩, hentry, rfl, hcalled⟩)
    · simp at hmem
    · exact ⟨merged, BTreeMap.mem_toList_iff.mp hentry, hcalled⟩
  · rintro ⟨merged, hmerged, hcalled⟩
    exact .inr ⟨(subscription.group, merged), BTreeMap.mem_toList_iff.mpr hmerged, rfl, hcalled⟩

/-- Some endpoint is in Exclude mode on the group. -/
def SomeExclude (state : RelayState) (g : IpAddr) : Prop :=
  ∃ e interest, state.endpointInterest e g = some interest ∧ interest.mode = .Exclude

/-- Some endpoint includes the source on the group. -/
def SomeIncludes (state : RelayState) (g source : IpAddr) : Prop :=
  ∃ e interest, state.endpointInterest e g = some interest ∧ interest.mode = .Include ∧
    source ∈ interest.sources

theorem WellFormed.mem_subscriptions_asm (h : state.WellFormed) (g : IpAddr) :
    .asm g ∈ state.subscriptions ↔ state.SomeExclude g := by
  rw [mem_subscriptions_iff h.indexed]
  rcases h.aggregate_cases g with ⟨hnone, hnobody⟩ | ⟨merged, hmerged, -, hmode, -⟩
  · simp [UpstreamSubscription.asm, hnone, SomeExclude, hnobody]
  · simp only [UpstreamSubscription.asm, hmerged, Option.some.injEq, calledFor, exists_eq_left']
    exact hmode

/-- A source-specific subscription needs a group that nobody wants as a whole. -/
theorem WellFormed.mem_subscriptions_ssm (h : state.WellFormed) (g source : IpAddr) :
    .ssm g source ∈ state.subscriptions ↔
      ¬ state.SomeExclude g ∧ state.SomeIncludes g source := by
  rw [mem_subscriptions_iff h.indexed]
  rcases h.aggregate_cases g with ⟨hnone, hnobody⟩ | ⟨merged, hmerged, -, hmode, hwants⟩
  · simp [UpstreamSubscription.ssm, hnone, SomeIncludes, hnobody]
  · simp only [UpstreamSubscription.ssm, hmerged, Option.some.injEq, calledFor, exists_eq_left']
    change _ ↔ ¬ (∃ e interest, _) ∧ _
    rw [← hmode]
    constructor
    · rintro ⟨hinclude, hmem⟩
      have hexclude : merged.mode ≠ .Exclude := by simp [hinclude]
      refine ⟨hexclude, ?_⟩
      obtain ⟨e, interest, hinterest, hwant⟩ :=
        (hwants source).mp (GroupInterest.wantsSource_iff.mpr (.inl ⟨hinclude, hmem⟩))
      rcases GroupInterest.wantsSource_iff.mp hwant with hboth | ⟨hmode', -⟩
      · exact ⟨e, interest, hinterest, hboth⟩
      · exact absurd (hmode.mpr ⟨e, interest, hinterest, hmode'⟩) hexclude
    · rintro ⟨hexclude, e, interest, hinterest, hboth⟩
      have hwant := (hwants source).mpr
        ⟨e, interest, hinterest, GroupInterest.wantsSource_iff.mpr (.inl hboth)⟩
      rcases GroupInterest.wantsSource_iff.mp hwant with hmerge | ⟨hmode', -⟩
      · exact hmerge
      · exact absurd hmode' hexclude

/-- **Coverage**: what an endpoint wants, a subscription captures. -/
theorem WellFormed.covered (h : state.WellFormed) {e : SocketAddr} {g source : IpAddr}
    {interest : GroupInterest} (hinterest : state.endpointInterest e g = some interest)
    (hwants : interest.wantsSource source = true) :
    .asm g ∈ state.subscriptions ∨ .ssm g source ∈ state.subscriptions := by
  by_cases hexclude : state.SomeExclude g
  · exact .inl ((h.mem_subscriptions_asm g).mpr hexclude)
  · rcases GroupInterest.wantsSource_iff.mp hwants with hboth | ⟨hmode, -⟩
    · exact .inr ((h.mem_subscriptions_ssm g source).mpr
        ⟨hexclude, e, interest, hinterest, hboth⟩)
    · exact absurd ⟨e, interest, hinterest, hmode⟩ hexclude

/-- **The upstream side of every reachable state**: the aggregate is the union of the
gateways' filters, and the subscriptions are the ones the gateways need, no more, and
never any-source and source-specific for one group at once. -/
theorem afterOps_upstream_exact (ops : List Op) :
    (∀ g : IpAddr, (afterOps ops).aggregate[g]?.isSome = true ↔
      ∃ e, ((afterOps ops).endpointInterest e g).isSome = true) ∧
    (∀ (g : IpAddr) (merged : GroupInterest), (afterOps ops).aggregate[g]? = some merged →
      ∀ source, merged.wantsSource source = true ↔
        ∃ e interest, (afterOps ops).endpointInterest e g = some interest ∧
          interest.wantsSource source = true) ∧
    (∀ g : IpAddr, .asm g ∈ (afterOps ops).upstreamSubscriptions ↔
      ∃ e interest, (afterOps ops).endpointInterest e g = some interest ∧
        interest.mode = .Exclude) ∧
    (∀ g source : IpAddr, .ssm g source ∈ (afterOps ops).upstreamSubscriptions ↔
      (¬ ∃ e interest, (afterOps ops).endpointInterest e g = some interest ∧
        interest.mode = .Exclude) ∧
      ∃ e interest, (afterOps ops).endpointInterest e g = some interest ∧
        interest.mode = .Include ∧ source ∈ interest.sources) ∧
    (∀ (e : SocketAddr) (g source : IpAddr) (interest : GroupInterest),
      (afterOps ops).endpointInterest e g = some interest →
      interest.wantsSource source = true →
        .asm g ∈ (afterOps ops).upstreamSubscriptions ∨
          .ssm g source ∈ (afterOps ops).upstreamSubscriptions) ∧
    (∀ subscription ∈ (afterOps ops).upstreamSubscriptions,
      ∃ e interest, (afterOps ops).endpointInterest e subscription.group = some interest ∧
        match subscription.source with
        | none => interest.mode = .Exclude
        | some source => interest.wantsSource source = true) ∧
    (∀ g source : IpAddr, ¬ (.asm g ∈ (afterOps ops).upstreamSubscriptions ∧
      .ssm g source ∈ (afterOps ops).upstreamSubscriptions)) := by
  have hwf := wellFormed_afterOps ops
  generalize afterOps ops = state at hwf
  simp only [upstreamSubscriptions, ExtTreeSet.mem_toList]
  refine ⟨fun g => ?_, fun g merged hmerged => ?_, hwf.mem_subscriptions_asm,
    hwf.mem_subscriptions_ssm, fun e g source interest => hwf.covered, ?_, fun g source => ?_⟩
  · rcases hwf.aggregate_cases g with ⟨hnone, hnobody⟩ | ⟨merged, hmerged, ⟨e, i, hinterest⟩, -⟩
    · simp [hnone, hnobody]
    · exact iff_of_true (by simp [hmerged]) ⟨e, by simp [hinterest]⟩
  · rcases hwf.aggregate_cases g with ⟨hnone, -⟩ | ⟨merged', hmerged', -, -, hwants⟩
    · rw [hnone] at hmerged
      cases hmerged
    · obtain rfl : merged' = merged := Option.some.inj (hmerged'.symm.trans hmerged)
      exact hwants
  · rintro ⟨g, _ | source⟩ hmem
    · exact (hwf.mem_subscriptions_asm g).mp hmem
    · obtain ⟨-, e, interest, hinterest, hboth⟩ := (hwf.mem_subscriptions_ssm g source).mp hmem
      exact ⟨e, interest, hinterest, GroupInterest.wantsSource_iff.mpr (.inl hboth)⟩
  · rintro ⟨hasm, hssm⟩
    exact ((hwf.mem_subscriptions_ssm g source).mp hssm).1 ((hwf.mem_subscriptions_asm g).mp hasm)

end RelayState

end Amt

import Amt.LocalMembership

/-!
# Changes of the export

Between two exports a manager need not repeat what has stayed the same.  `delta_records`
compares what was advertised with what is to be advertised now, group by group, and writes a
record for each group in which the two differ: a change of the filter, or a leave.

**The delta is exact.**  An endpoint that holds the previous export and receives the delta as
one report holds the current export, in the very form in which it is stored, and there is
nothing to report exactly if nothing has changed (`applyReport_deltaRecords`).  This rests on
two facts that are kept apart here:

* a group has at most one record in a delta, so no record undoes another
  (`groups_deltaRecords_nodup`);
* the record of a group, where there is one, sets the group to its current filter, and it is
  left out only where both exports have the same filter (`deltaRecord_cases`).
-/

namespace Amt

/-! ## The records -/

/-- The body of the loop of `delta_records`: the record of one group, if it gets one. -/
def deltaRecord (protocol : MembershipProtocol) (previous current : BTreeMap IpAddr GroupInterest)
    (group : IpAddr) : Option MembershipRecord :=
  if ¬ groupMatchesProtocol protocol group then none
  else if previous[group]? = current[group]? then none
  else
    match current[group]? with
    | some interest => some (recordForInterest group interest .change)
    | none => some { kind := .changeToInclude, group, sources := [] }

/-- The records that turn the reported filters into the current ones. -/
def deltaRecords (protocol : MembershipProtocol)
    (previous current : BTreeMap IpAddr GroupInterest) : List MembershipRecord :=
  let groups : BTreeSet IpAddr := .ofList (previous.keys ++ current.keys)
  groups.toList.filterMap (deltaRecord protocol previous current)

/-- What has changed since the export was last marked as advertised. -/
def LocalMembershipManager.pendingReport (manager : LocalMembershipManager) :
    Option MembershipReport :=
  let records :=
    deltaRecords manager.config.protocol manager.advertised manager.currentExportableInterests
  if records.isEmpty then none else some { protocol := manager.config.protocol, records }

/-! ## Interest maps -/

/-- A map that may be advertised: groups of the protocol's family, and no filter that
includes nothing. -/
structure Advertisable (protocol : MembershipProtocol)
    (interests : BTreeMap IpAddr GroupInterest) : Prop where
  family : ∀ (g : IpAddr) (interest : GroupInterest), interests[g]? = some interest →
    groupMatchesProtocol protocol g = true
  canonical : ∀ (g : IpAddr) (interest : GroupInterest), interests[g]? = some interest →
    interest.Canonical

variable {protocol : MembershipProtocol} {previous current : BTreeMap IpAddr GroupInterest}

/-- The record of a group, for maps that may be advertised. -/
theorem deltaRecord_cases (hprevious : Advertisable protocol previous)
    (hcurrent : Advertisable protocol current) (g : IpAddr) :
    (deltaRecord protocol previous current g = none ∧ previous[g]? = current[g]?) ∨
      ∃ record, deltaRecord protocol previous current g = some record ∧ record.group = g ∧
        previous[g]? ≠ current[g]? ∧ ∀ held, record.effect held = current[g]? := by
  unfold deltaRecord
  by_cases hfamily : groupMatchesProtocol protocol g = true
  · rw [if_neg (not_not.mpr hfamily)]
    by_cases hsame : previous[g]? = current[g]?
    · exact .inl ⟨if_pos hsame, hsame⟩
    · rw [if_neg hsame]
      cases hinterest : current[g]? with
      | none =>
          -- a leave includes nothing, and that is not stored
          exact .inr ⟨_, rfl, rfl, hinterest ▸ hsame, fun _ => rfl⟩
      | some interest =>
          exact .inr ⟨_, rfl, recordForInterest_group g interest .change, hinterest ▸ hsame,
            effect_recordForInterest g (hcurrent.canonical g interest hinterest) .change⟩
  · -- neither map has a group of the other family
    have hnone : ∀ {interests : BTreeMap IpAddr GroupInterest}, Advertisable protocol interests →
        interests[g]? = none := by
      intro interests hinterests
      cases hheld : interests[g]? with
      | none => rfl
      | some interest => exact absurd (hinterests.family g interest hheld) hfamily
    exact .inl ⟨if_pos hfamily, (hnone hprevious).trans (hnone hcurrent).symm⟩

/-! ## The list -/

/-- Each group has at most one record. -/
theorem mem_deltaRecords_iff (hprevious : Advertisable protocol previous)
    (hcurrent : Advertisable protocol current) {record : MembershipRecord} :
    record ∈ deltaRecords protocol previous current ↔
      deltaRecord protocol previous current record.group = some record := by
  rw [deltaRecords, List.mem_filterMap]
  constructor
  · rintro ⟨g, -, hrecord⟩
    rcases deltaRecord_cases hprevious hcurrent g with ⟨hnone, -⟩ | ⟨found, hfound, hgroup, -⟩
    · rw [hnone] at hrecord
      cases hrecord
    · obtain rfl := Option.some.inj (hfound.symm.trans hrecord)
      rwa [hgroup]
  · intro hrecord
    refine ⟨record.group, Std.ExtTreeSet.mem_toList.mpr (BTreeSet.mem_ofList_iff.mpr ?_), hrecord⟩
    rcases deltaRecord_cases hprevious hcurrent record.group with
      ⟨hnone, -⟩ | ⟨-, -, -, hdiffer, -⟩
    · rw [hnone] at hrecord
      cases hrecord
    · -- a group in which the maps differ is a key of one of them
      rw [List.mem_append, BTreeMap.mem_keys_iff_exists, BTreeMap.mem_keys_iff_exists]
      by_contra hneither
      push Not at hneither
      refine hdiffer ?_
      rw [Option.eq_none_iff_forall_ne_some.mpr hneither.1,
        Option.eq_none_iff_forall_ne_some.mpr hneither.2]

theorem groups_deltaRecords_nodup (hprevious : Advertisable protocol previous)
    (hcurrent : Advertisable protocol current) :
    ((deltaRecords protocol previous current).map fun record => record.group).Nodup := by
  rw [deltaRecords, List.map_filterMap]
  refine (BTreeSet.toList_nodup _).filterMap fun g g' group hgroup hgroup' => ?_
  -- a record is about the group it was written for
  have hown : ∀ {g : IpAddr},
      group ∈ (deltaRecord protocol previous current g).map (fun record => record.group) →
        group = g := by
    intro g hmem
    rcases deltaRecord_cases hprevious hcurrent g with ⟨hnone, -⟩ | ⟨record, hrecord, hg, -⟩
    · rw [hnone] at hmem
      cases hmem
    · rw [hrecord] at hmem
      cases hmem
      exact hg
  exact (hown hgroup).symm.trans (hown hgroup')

/-- There is nothing to report only if nothing has changed. -/
theorem deltaRecords_eq_nil_iff (hprevious : Advertisable protocol previous)
    (hcurrent : Advertisable protocol current) :
    deltaRecords protocol previous current = [] ↔ previous = current := by
  constructor
  · intro hnil
    ext1 g
    rcases deltaRecord_cases hprevious hcurrent g with ⟨-, hsame⟩ | ⟨record, hrecord, hgroup, -⟩
    · exact hsame
    · have hmem : record ∈ deltaRecords protocol previous current :=
        (mem_deltaRecords_iff hprevious hcurrent).mpr (hgroup ▸ hrecord)
      rw [hnil] at hmem
      cases hmem
  · rintro rfl
    refine List.eq_nil_iff_forall_not_mem.mpr fun record hrecord => ?_
    rcases deltaRecord_cases hprevious hcurrent record.group with
      ⟨hnone, -⟩ | ⟨-, -, -, hdiffer, -⟩
    · rw [(mem_deltaRecords_iff hprevious hcurrent).mp hrecord] at hnone
      cases hnone
    · exact hdiffer rfl

/-- **The delta at one group**: what was advertised there becomes what is current. -/
theorem foldl_effect_deltaRecords (hprevious : Advertisable protocol previous)
    (hcurrent : Advertisable protocol current) (g : IpAddr) :
    ((deltaRecords protocol previous current).filter fun record => record.group = g).foldl
      (fun held record => record.effect held) previous[g]? = current[g]? := by
  rcases deltaRecord_cases hprevious hcurrent g with
    ⟨hnone, hsame⟩ | ⟨record, hrecord, rfl, -, heffect⟩
  · have hnot : g ∉ (deltaRecords protocol previous current).map fun record => record.group := by
      intro hmem
      obtain ⟨record, hrecord, rfl⟩ := List.mem_map.mp hmem
      rw [(mem_deltaRecords_iff hprevious hcurrent).mp hrecord] at hnone
      cases hnone
    rw [filter_group_eq_nil_iff.mpr hnot]
    exact hsame
  · rw [filter_group_of_mem (groups_deltaRecords_nodup hprevious hcurrent)
      ((mem_deltaRecords_iff hprevious hcurrent).mpr hrecord)]
    exact heffect _

/-! ## Applying it -/

/-- **The delta of two exports leads from the one to the other.**  Applied as one report to an
endpoint that holds the previous export it leaves the current one, and it is empty exactly if
the two are the same. -/
theorem applyReport_deltaRecords (protocol : MembershipProtocol)
    (previous current : BTreeMap IpAddr GroupInterest) (hprevious : Advertisable protocol previous)
    (hcurrent : Advertisable protocol current) :
    ((EndpointState.mk previous).applyRecords (deltaRecords protocol previous current)).1
        = ⟨current⟩ ∧
      (∀ (state : RelayState) (endpoint : SocketAddr),
        (∀ g, state.endpointInterest endpoint g = previous[g]?) →
        ∀ g, (state.applyReport endpoint
          ⟨protocol, deltaRecords protocol previous current⟩).1.endpointInterest endpoint g
            = current[g]?) ∧
      (deltaRecords protocol previous current = [] ↔ previous = current) := by
  refine ⟨?_, ?_, deltaRecords_eq_nil_iff hprevious hcurrent⟩
  · ext1 g
    rw [EndpointState.getElem?_applyRecords]
    exact foldl_effect_deltaRecords hprevious hcurrent g
  · intro state endpoint hheld g
    rw [RelayState.endpointInterest_applyReport, if_pos rfl, hheld g]
    exact foldl_effect_deltaRecords hprevious hcurrent g

/-- The map of one group. -/
def onlyInterest (g : IpAddr) (interest : GroupInterest) : BTreeMap IpAddr GroupInterest :=
  (∅ : BTreeMap IpAddr GroupInterest).insert g interest

theorem getElem?_onlyInterest_eq_some {g g' : IpAddr} {interest interest' : GroupInterest}
    (h : (onlyInterest g interest)[g']? = some interest') : g = g' ∧ interest = interest' := by
  rw [onlyInterest, BTreeMap.getElem?_insert_eq] at h
  split at h
  · rename_i hg
    exact ⟨hg, Option.some.inj h⟩
  · simp at h

theorem advertisable_onlyInterest {protocol : MembershipProtocol} {g : IpAddr}
    {interest : GroupInterest} (hfamily : groupMatchesProtocol protocol g = true)
    (hcanonical : interest.Canonical) : Advertisable protocol (onlyInterest g interest) := by
  constructor
  · intro g' interest' h
    obtain ⟨rfl, -⟩ := getElem?_onlyInterest_eq_some h
    exact hfamily
  · intro g' interest' h
    obtain ⟨-, rfl⟩ := getElem?_onlyInterest_eq_some h
    exact hcanonical

/-- One source of one group is wanted, then any source of another. -/
theorem applyReport_deltaRecords_moved :
    ((EndpointState.mk (onlyInterest (.v4 (.new 232 1 1 1))
        (.ofInclude [.v4 (.new 198 51 100 1)]))).applyRecords
      (deltaRecords .igmpv3
        (onlyInterest (.v4 (.new 232 1 1 1)) (.ofInclude [.v4 (.new 198 51 100 1)]))
        (onlyInterest (.v4 (.new 232 1 1 2)) (.ofExclude [])))).1
      = ⟨onlyInterest (.v4 (.new 232 1 1 2)) (.ofExclude [])⟩ := by
  refine (applyReport_deltaRecords .igmpv3 _ _ (advertisable_onlyInterest rfl fun _ => ?_)
    (advertisable_onlyInterest rfl fun hmode => ?_)).1
  · exact ⟨_, GroupInterest.mem_sources_ofInclude.mpr (List.mem_singleton.mpr rfl)⟩
  · cases hmode

/-! ## The pending report of a manager -/

namespace LocalMembershipManager

variable {E : Type*} {config : LocalMembershipConfig} {manager : LocalMembershipManager}

theorem Kept.advertisable_currentExportableInterests (h : manager.Kept config) :
    Advertisable config.protocol manager.currentExportableInterests := by
  constructor
  · intro g interest hinterest
    obtain ⟨-, hfamily, -⟩ := (manager.getElem?_currentExportableInterests g interest).mp hinterest
    rw [groupMatchesProtocol_eq, ← h.config_eq]
    exact hfamily
  · intro g interest hinterest
    obtain ⟨hmerged, -⟩ := (manager.getElem?_currentExportableInterests g interest).mp hinterest
    exact h.wellFormed.canonical_aggregate hmerged

/-- What was advertised was an export. -/
theorem advertisable_advertised_after (config : LocalMembershipConfig) (ops : List (Op E)) :
    Advertisable config.protocol (after config ops).advertised := by
  refine (after_invariant (I := fun m => m.Kept config ∧ Advertisable config.protocol m.advertised)
    ⟨kept_new config, ?_⟩ ?_ ops).2
  · constructor <;> simp [new]
  · rintro m m' ⟨hkept, hadvertised⟩ hmove
    refine ⟨hkept.move hmove, ?_⟩
    cases hmove with
    | reported => exact hadvertised
    | forgotten reporter => exact hadvertised
    | advertised => exact hkept.advertisable_currentExportableInterests

/-- **In every run the pending report brings whoever holds the advertised export up to
date**, and there is none exactly if that export is still current. -/
theorem pendingReport_after (config : LocalMembershipConfig) (ops : List (Op E)) :
    ((after config ops).pendingReport = none ↔
      (after config ops).advertised = (after config ops).currentExportableInterests) ∧
    ∀ report ∈ (after config ops).pendingReport,
      ((EndpointState.mk (after config ops).advertised).applyRecords report.records).1
        = ⟨(after config ops).currentExportableInterests⟩ := by
  have hadvertised := advertisable_advertised_after config ops
  have hcurrent := (kept_after config ops).advertisable_currentExportableInterests
  have hprotocol : (after config ops).config.protocol = config.protocol := by
    rw [(kept_after config ops).config_eq]
  rw [pendingReport, hprotocol]
  constructor
  · rw [← deltaRecords_eq_nil_iff hadvertised hcurrent, ← List.isEmpty_iff]
    split
    · rename_i hempty
      exact iff_of_true rfl hempty
    · rename_i hempty
      exact iff_of_false (by rintro ⟨⟩) hempty
  · intro report hreport
    split at hreport
    · cases hreport
    · cases hreport
      ext1 g
      rw [EndpointState.getElem?_applyRecords]
      exact foldl_effect_deltaRecords hadvertised hcurrent g

end LocalMembershipManager

end Amt

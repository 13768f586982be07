import Amt.Lib.Update
import Amt.State

/-!
# One endpoint, group by group

`EndpointState::apply_record` touches one group of one endpoint.  This file says what
it does to that group as a function on what is held there (`MembershipRecord.effect`),
that nothing else changes (`getElem?_updateGroups`), and reads a whole report back one
group at a time: at group `g` it is the fold of the effects of the records about `g`
(`getElem?_applyRecords`).

**Canonical** states hold no Include interest with an empty source list: "include
nothing" is spelled as the absence of the group.  Every record keeps a state canonical.
-/

namespace Amt

/-! ## Source sets -/

namespace GroupInterest

@[simp] theorem mem_sources_ofInclude {sources : List IpAddr} {source : IpAddr} :
    source ∈ (ofInclude sources).sources ↔ source ∈ sources :=
  BTreeSet.mem_ofList_iff

theorem wantsSource_iff {interest : GroupInterest} {source : IpAddr} :
    interest.wantsSource source = true ↔
      (interest.mode = .Include ∧ source ∈ interest.sources) ∨
        (interest.mode = .Exclude ∧ source ∉ interest.sources) := by
  obtain ⟨mode, sources⟩ := interest
  cases mode <;> simp [wantsSource, ← Std.ExtTreeSet.contains_iff_mem]

/-- An interest that is worth storing: it does not include nothing. -/
def Canonical (interest : GroupInterest) : Prop :=
  interest.mode = .Include → ∃ source, source ∈ interest.sources

end GroupInterest

/-! ## The effect of a record on its group -/

/-- What the record makes of the interest held in its group. -/
def MembershipRecord.effect (record : MembershipRecord) (held : Option GroupInterest) :
    Option GroupInterest :=
  match record.kind with
  | .legacyReport => some (.ofExclude [])
  | .legacyLeave => none
  | .modeIsInclude | .changeToInclude =>
      if record.sources.isEmpty then none else some (.ofInclude record.sources)
  | .modeIsExclude | .changeToExclude => some (.ofExclude record.sources)
  | .allowNewSources =>
      if record.sources.isEmpty then held
      else
        let interest := held.getD (.ofInclude [])
        match interest.mode with
        | .Include => some ⟨interest.mode, interest.sources.insertMany record.sources⟩
        | .Exclude =>
            some ⟨interest.mode,
              record.sources.foldl (fun sources s => sources.erase s) interest.sources⟩
  | .blockOldSources =>
      if record.sources.isEmpty then held
      else
        held.bind fun interest =>
          match interest.mode with
          | .Include =>
              let sources :=
                record.sources.foldl (fun sources s => sources.erase s) interest.sources
              if sources.isEmpty then none else some ⟨interest.mode, sources⟩
          | .Exclude => some ⟨interest.mode, interest.sources.insertMany record.sources⟩

/-- No record leaves an Include filter without a source. -/
theorem MembershipRecord.effect_canonical {record : MembershipRecord}
    {held : Option GroupInterest} (hheld : ∀ i ∈ held, i.Canonical) :
    ∀ i ∈ record.effect held, i.Canonical := by
  obtain ⟨kind, group, sources⟩ := record
  -- an Exclude interest is canonical whatever it excludes
  have hexclude : ∀ (sources : BTreeSet IpAddr), GroupInterest.Canonical ⟨.Exclude, sources⟩ :=
    fun _ h => by cases h
  have hne : sources.isEmpty = false → ∃ source, source ∈ sources := by
    intro h
    cases sources with
    | nil => cases h
    | cons source rest => exact ⟨source, List.mem_cons_self⟩
  cases hempty : sources.isEmpty with
  | true =>
      cases kind <;>
        simp_all [effect, GroupInterest.ofExclude]
  | false =>
      obtain ⟨source, hsource⟩ := hne hempty
      cases kind with
      | legacyReport | modeIsExclude | changeToExclude =>
          simp [effect, GroupInterest.ofExclude, hexclude]
      | legacyLeave => simp [effect]
      | modeIsInclude | changeToInclude =>
          simp only [effect, hempty, Bool.false_eq_true, if_false, Option.mem_some_iff,
            forall_eq']
          exact fun _ => ⟨source, GroupInterest.mem_sources_ofInclude.mpr hsource⟩
      | allowNewSources =>
          simp only [effect, hempty, Bool.false_eq_true, if_false]
          obtain ⟨mode, held⟩ := held.getD (.ofInclude [])
          cases mode with
          | Include =>
              rintro i ⟨⟩
              exact fun _ => ⟨source, BTreeSet.mem_insertMany_iff.mpr (.inr hsource)⟩
          | Exclude =>
              rintro i ⟨⟩
              exact hexclude _
      | blockOldSources =>
          simp only [effect, hempty, Bool.false_eq_true, if_false]
          rcases held with _ | ⟨mode, held⟩
          · simp
          · cases mode with
            | Include =>
                simp only [Option.bind_some]
                split
                · simp
                · rename_i hleft
                  rintro i ⟨⟩
                  exact fun _ => BTreeSet.isEmpty_eq_false_iff_exists.mp (by simpa using hleft)
            | Exclude =>
                rintro i ⟨⟩
                exact hexclude _

/-! ## Reports that name each group once -/

theorem filter_group_eq_nil_iff {records : List MembershipRecord} {g : IpAddr} :
    (records.filter fun record => record.group = g) = [] ↔
      g ∉ records.map fun record => record.group := by
  simp only [List.filter_eq_nil_iff, decide_eq_true_eq, List.mem_map, not_exists, not_and]

/-- Where the groups are distinct, a group has one record. -/
theorem filter_group_of_mem {records : List MembershipRecord}
    (honce : (records.map fun record => record.group).Nodup) {record : MembershipRecord}
    (hrecord : record ∈ records) :
    (records.filter fun other => other.group = record.group) = [record] := by
  induction records with
  | nil => cases hrecord
  | cons first rest ih =>
      obtain ⟨hfirst, hrest⟩ := List.nodup_cons.mp honce
      rcases List.mem_cons.mp hrecord with rfl | hmem
      · have hothers : (rest.filter fun other => other.group = record.group) = [] :=
          filter_group_eq_nil_iff.mpr hfirst
        simp [hothers]
      · have hne : first.group ≠ record.group := by
          intro heq
          refine hfirst (List.mem_map.mpr ⟨record, hmem, heq.symm⟩)
        simp [hne, ih hrest hmem]

/-- The groups of records that are written out from a map are its keys. -/
theorem groups_map_toList {V : Type*} (entries : BTreeMap IpAddr V)
    {record : IpAddr → V → MembershipRecord} (hgroup : ∀ g v, (record g v).group = g) :
    ((entries.toList.map fun entry => record entry.1 entry.2).map fun r => r.group)
      = entries.keys := by
  rw [List.map_map, ← Std.ExtTreeMap.map_fst_toList_eq_keys]
  exact List.map_congr_left fun entry _ => hgroup entry.1 entry.2

/-- **Records that are written out from a map, read at one group.** -/
theorem foldl_effect_toList {V : Type*} (entries : BTreeMap IpAddr V)
    {record : IpAddr → V → MembershipRecord} (hgroup : ∀ g v, (record g v).group = g)
    (g : IpAddr) (held : Option GroupInterest) :
    ((entries.toList.map fun entry => record entry.1 entry.2).filter
        fun r => r.group = g).foldl (fun held r => r.effect held) held
      = entries[g]?.elim held fun v => (record g v).effect held := by
  have hgroups := groups_map_toList entries hgroup
  cases hheld : entries[g]? with
  | none =>
      have hnot : g ∉ (entries.toList.map fun entry => record entry.1 entry.2).map
          fun r => r.group := by
        rw [hgroups, BTreeMap.mem_keys_iff_exists, hheld]
        simp
      rw [filter_group_eq_nil_iff.mpr hnot]
      rfl
  | some v =>
      have honce : ((entries.toList.map fun entry => record entry.1 entry.2).map
          fun r => r.group).Nodup := by
        rw [hgroups]
        exact BTreeMap.keys_nodup entries
      have hmem : record g v ∈ entries.toList.map fun entry => record entry.1 entry.2 :=
        List.mem_map.mpr ⟨(g, v), BTreeMap.mem_toList_iff.mpr hheld, rfl⟩
      have hfilter := filter_group_of_mem honce hmem
      rw [hgroup] at hfilter
      rw [hfilter]
      rfl

namespace EndpointState

@[ext] theorem ext_getElem? {state state' : EndpointState}
    (h : ∀ g : IpAddr, state.groups[g]? = state'.groups[g]?) : state = state' := by
  obtain ⟨groups⟩ := state
  obtain ⟨groups'⟩ := state'
  exact congrArg _ (Std.ExtTreeMap.ext_getElem? h)

/-- **One record**: its own group by its effect, every other group unchanged. -/
theorem getElem?_updateGroups (state : EndpointState) (record : MembershipRecord) (g : IpAddr) :
    (state.updateGroups record).groups[g]? =
      if record.group = g then record.effect state.groups[g]? else state.groups[g]? := by
  obtain ⟨kind, group, sources⟩ := record
  by_cases hg : group = g
  · subst hg
    cases kind with
    | legacyReport | legacyLeave | modeIsExclude | changeToExclude =>
        simp [updateGroups, MembershipRecord.effect]
    | modeIsInclude | changeToInclude =>
        cases hempty : sources.isEmpty <;> simp [updateGroups, MembershipRecord.effect, hempty]
    | allowNewSources =>
        cases hempty : sources.isEmpty with
        | true => simp [updateGroups, MembershipRecord.effect, hempty]
        | false =>
            simp only [updateGroups, MembershipRecord.effect, hempty, Bool.false_eq_true,
              if_false, if_true, BTreeMap.getElem?_upsert]
            cases (state.groups[group]?.getD (.ofInclude [])).mode <;> rfl
    | blockOldSources =>
        cases hempty : sources.isEmpty with
        | true => simp [updateGroups, MembershipRecord.effect, hempty]
        | false =>
            simp only [updateGroups, MembershipRecord.effect, hempty, Bool.false_eq_true,
              if_false, if_true]
            cases hheld : state.groups[group]? with
            | none => simp [hheld]
            | some interest =>
                obtain ⟨mode, held⟩ := interest
                cases mode with
                | Include => simp only [Option.bind_some]; split <;> simp
                | Exclude => simp
  · simp only [hg, if_false]
    cases kind with
    | legacyReport | legacyLeave | modeIsExclude | changeToExclude =>
        simp [updateGroups, hg]
    | modeIsInclude | changeToInclude | allowNewSources =>
        cases hempty : sources.isEmpty <;> simp [updateGroups, hempty, hg]
    | blockOldSources =>
        cases hempty : sources.isEmpty with
        | true => simp [updateGroups, hempty]
        | false =>
            simp only [updateGroups, hempty, Bool.false_eq_true, if_false]
            cases hheld : state.groups[group]? with
            | none => rfl
            | some interest =>
                obtain ⟨mode, held⟩ := interest
                cases mode with
                | Include => simp only; split <;> simp [hg]
                | Exclude => simp [hg]

/-! ## Whole reports -/

theorem applyRecords_fst (state : EndpointState) (records : List MembershipRecord) :
    (state.applyRecords records).1 = records.foldl updateGroups state := by
  have h : ∀ (records : List MembershipRecord) (acc : EndpointState × ℕ),
      (records.foldl (fun acc record =>
        ((acc.1.applyRecord record).1,
          if (acc.1.applyRecord record).2 then acc.2 + 1 else acc.2)) acc).1
        = records.foldl updateGroups acc.1 := by
    intro records
    induction records with
    | nil => exact fun _ => rfl
    | cons record records ih => exact fun acc => ih _
  exact h records (state, 0)

/-- **A report, read at one group**: the effects of the records about that group. -/
theorem getElem?_applyRecords (state : EndpointState) (records : List MembershipRecord)
    (g : IpAddr) :
    (state.applyRecords records).1.groups[g]? =
      (records.filter fun record => record.group = g).foldl
        (fun held record => record.effect held) state.groups[g]? := by
  rw [applyRecords_fst]
  let read : EndpointState → IpAddr → Option GroupInterest := fun state g => state.groups[g]?
  have hkeyed : ∀ (state : EndpointState) (record : MembershipRecord) (g : IpAddr),
      read (state.updateGroups record) g =
        if record.group = g then record.effect (read state g) else read state g :=
    getElem?_updateGroups
  exact read_foldl_keyed hkeyed records state g

/-- Every stored interest is worth storing. -/
def Canonical (state : EndpointState) : Prop :=
  ∀ (g : IpAddr) (interest : GroupInterest), state.groups[g]? = some interest → interest.Canonical

theorem canonical_default : Canonical .default := by
  intro g interest h
  simp [default] at h

theorem canonical_updateGroups {state : EndpointState} (h : state.Canonical)
    (record : MembershipRecord) : (state.updateGroups record).Canonical := by
  intro g interest hg
  rw [getElem?_updateGroups] at hg
  by_cases hgroup : record.group = g
  · rw [if_pos hgroup] at hg
    exact MembershipRecord.effect_canonical (fun i hi => h g i hi) interest hg
  · rw [if_neg hgroup] at hg
    exact h g interest hg

/-- The records of a report keep a state canonical, one after the other. -/
theorem canonical_applyRecords {state : EndpointState} (h : state.Canonical)
    (records : List MembershipRecord) : (state.applyRecords records).1.Canonical := by
  rw [applyRecords_fst]
  induction records generalizing state with
  | nil => exact h
  | cons record records ih => exact ih (canonical_updateGroups h record)

end EndpointState

end Amt

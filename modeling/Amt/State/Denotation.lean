import Amt.State.Index

/-!
# What a report asks for

The state stores the filter of a group positively or negatively, depending on its mode,
and an Include filter without sources not at all.  Behind the three forms there is one
notion, the **set of wanted sources** of each group, and on it every record is a plain set
function.

* **`MembershipRecord.asked`** is that function for the group of the record: it sets the
  wanted sources, adds to them or takes from them, according to the kind.
* **`MembershipRecord.act`** is the record on all groups: its own by `asked`, the others
  not at all.
* **The stored forms follow** (`wantedSources_effect`), in every prior form of the group and
  whether or not the state is canonical.  A report therefore acts by its records from left
  to right (`applyReport_acts`), groups that occur in several records included.
-/

namespace Amt

/-! ## Wanted sources -/

/-- The sources an interest wants; where there is no interest, none. -/
def wantedSources (held : Option GroupInterest) : Set IpAddr :=
  {source | held.any (fun interest => interest.wantsSource source) = true}

@[simp] theorem wantedSources_none : wantedSources none = ∅ := by
  ext source
  simp [wantedSources]

theorem wantedSources_include (sources : BTreeSet IpAddr) :
    wantedSources (some ⟨.Include, sources⟩) = {source | source ∈ sources} := by
  ext source
  simp [wantedSources, GroupInterest.wantsSource_iff]

theorem wantedSources_exclude (sources : BTreeSet IpAddr) :
    wantedSources (some ⟨.Exclude, sources⟩) = {source | source ∉ sources} := by
  ext source
  simp [wantedSources, GroupInterest.wantsSource_iff]

/-- The sources of a group that an endpoint wants. -/
def EndpointState.wanted (state : EndpointState) (g : IpAddr) : Set IpAddr :=
  wantedSources state.groups[g]?

/-- The same, in the state of the relay. -/
def RelayState.wanted (state : RelayState) (endpoint : SocketAddr) (g : IpAddr) : Set IpAddr :=
  wantedSources (state.endpointInterest endpoint g)

/-! ## Records as set functions -/

namespace MembershipRecord

/-- The sources listed in a record. -/
def listed (record : MembershipRecord) : Set IpAddr := {source | source ∈ record.sources}

/-- **What a record asks for** in its group, given what was wanted there before. -/
def asked (record : MembershipRecord) (before : Set IpAddr) : Set IpAddr :=
  match record.kind with
  | .legacyReport => Set.univ
  | .legacyLeave => ∅
  | .modeIsInclude | .changeToInclude => record.listed
  | .modeIsExclude | .changeToExclude => record.listedᶜ
  | .allowNewSources => before ∪ record.listed
  | .blockOldSources => before \ record.listed

/-- The record on all groups. -/
def act (record : MembershipRecord) (before : IpAddr → Set IpAddr) : IpAddr → Set IpAddr :=
  Function.update before record.group (record.asked (before record.group))

variable (record : MembershipRecord)

theorem listed_eq_empty_of_isEmpty (h : record.sources.isEmpty = true) : record.listed = ∅ := by
  ext source
  simp [listed, List.isEmpty_iff.mp h]

theorem wantedSources_ofInclude :
    wantedSources (some (.ofInclude record.sources)) = record.listed := by
  rw [GroupInterest.ofInclude, wantedSources_include]
  ext source
  exact BTreeSet.mem_ofList_iff

theorem wantedSources_ofExclude :
    wantedSources (some (.ofExclude record.sources)) = record.listedᶜ := by
  rw [GroupInterest.ofExclude, wantedSources_exclude]
  ext source
  exact not_congr BTreeSet.mem_ofList_iff

/-- Added to an Include list, or taken from an Exclude list. -/
theorem wantedSources_insertMany (sources : BTreeSet IpAddr) :
    wantedSources (some ⟨.Include, sources.insertMany record.sources⟩) =
      wantedSources (some ⟨.Include, sources⟩) ∪ record.listed := by
  rw [wantedSources_include, wantedSources_include]
  ext source
  exact BTreeSet.mem_insertMany_iff

theorem wantedSources_exclude_insertMany (sources : BTreeSet IpAddr) :
    wantedSources (some ⟨.Exclude, sources.insertMany record.sources⟩) =
      wantedSources (some ⟨.Exclude, sources⟩) \ record.listed := by
  rw [wantedSources_exclude, wantedSources_exclude]
  ext source
  show source ∉ _ ↔ source ∉ sources ∧ source ∉ record.sources
  rw [BTreeSet.mem_insertMany_iff, not_or]

/-- Taken from an Include list, or from an Exclude list. -/
theorem wantedSources_erase (sources : BTreeSet IpAddr) :
    wantedSources (some ⟨.Include,
        record.sources.foldl (fun sources s => sources.erase s) sources⟩) =
      wantedSources (some ⟨.Include, sources⟩) \ record.listed := by
  rw [wantedSources_include, wantedSources_include]
  ext source
  exact BTreeSet.mem_foldl_erase_iff record.sources sources

theorem wantedSources_exclude_erase (sources : BTreeSet IpAddr) :
    wantedSources (some ⟨.Exclude,
        record.sources.foldl (fun sources s => sources.erase s) sources⟩) =
      wantedSources (some ⟨.Exclude, sources⟩) ∪ record.listed := by
  rw [wantedSources_exclude, wantedSources_exclude]
  ext source
  show source ∉ _ ↔ source ∉ sources ∨ source ∈ record.sources
  rw [BTreeSet.mem_foldl_erase_iff, not_and_or, not_not]

/-- An Include list without sources wants what an absent group wants. -/
theorem wantedSources_of_isEmpty {sources : BTreeSet IpAddr} (h : sources.isEmpty = true) :
    wantedSources (some ⟨.Include, sources⟩) = wantedSources none := by
  rw [wantedSources_include, wantedSources_none, Std.ExtTreeSet.isEmpty_iff.mp h]
  ext source
  exact iff_of_false Std.ExtTreeSet.not_mem_empty (Set.notMem_empty source)

/-- **A record does to the stored form what it asks for.** -/
theorem wantedSources_effect (held : Option GroupInterest) :
    wantedSources (record.effect held) = record.asked (wantedSources held) := by
  cases hkind : record.kind with
  | legacyReport =>
      simp only [effect, asked, hkind]
      rw [GroupInterest.ofExclude, wantedSources_exclude]
      ext source
      simp
  | legacyLeave =>
      simp only [effect, asked, hkind]
      exact wantedSources_none
  | modeIsInclude | changeToInclude =>
      simp only [effect, asked, hkind]
      split
      · rename_i hempty
        rw [wantedSources_none, record.listed_eq_empty_of_isEmpty hempty]
      · exact record.wantedSources_ofInclude
  | modeIsExclude | changeToExclude =>
      simp only [effect, asked, hkind]
      exact record.wantedSources_ofExclude
  | allowNewSources =>
      simp only [effect, asked, hkind]
      split
      · rename_i hempty
        rw [record.listed_eq_empty_of_isEmpty hempty, Set.union_empty]
      · -- an absent group is an Include list without sources
        have hheld : wantedSources held = wantedSources (some (held.getD (.ofInclude []))) := by
          cases held with
          | none => exact (wantedSources_of_isEmpty (by rfl)).symm
          | some interest => rfl
        rw [hheld]
        generalize held.getD (.ofInclude []) = interest
        obtain ⟨mode, sources⟩ := interest
        cases mode with
        | Include => exact record.wantedSources_insertMany sources
        | Exclude => exact record.wantedSources_exclude_erase sources
  | blockOldSources =>
      simp only [effect, asked, hkind]
      split
      · rename_i hempty
        rw [record.listed_eq_empty_of_isEmpty hempty, Set.sdiff_empty]
      · rcases held with _ | ⟨mode, sources⟩
        · show wantedSources none = wantedSources none \ record.listed
          rw [wantedSources_none, Set.empty_sdiff]
        · cases mode with
          | Include =>
              rw [← record.wantedSources_erase, Option.bind_some]
              dsimp only
              split
              · rename_i hleft
                exact (wantedSources_of_isEmpty hleft).symm
              · rfl
          | Exclude => exact record.wantedSources_exclude_insertMany sources

end MembershipRecord

/-! ## Records and reports on the state -/

/-- **One record** on an endpoint. -/
theorem EndpointState.wanted_applyRecord (state : EndpointState) (record : MembershipRecord) :
    (state.applyRecord record).1.wanted = record.act state.wanted := by
  funext g
  show wantedSources (state.updateGroups record).groups[g]? = _
  rw [getElem?_updateGroups, MembershipRecord.act, Function.update_apply]
  by_cases hg : record.group = g
  · subst hg
    rw [if_pos rfl, if_pos rfl, record.wantedSources_effect]
    rfl
  · rw [if_neg hg, if_neg (Ne.symm hg)]
    rfl

/-- The records about one group are those that move it. -/
theorem foldl_act (records : List MembershipRecord) (held : Option GroupInterest) (g : IpAddr)
    {before : IpAddr → Set IpAddr} (h : before g = wantedSources held) :
    records.foldl (fun before record => record.act before) before g =
      wantedSources ((records.filter fun record => record.group = g).foldl
        (fun held record => record.effect held) held) := by
  let read : (IpAddr → Set IpAddr) → IpAddr → Set IpAddr := fun wanted g => wanted g
  have hkeyed : ∀ (wanted : IpAddr → Set IpAddr) (record : MembershipRecord) (g : IpAddr),
      read (record.act wanted) g =
        if record.group = g then record.asked (read wanted g) else read wanted g := by
    intro wanted record g
    show Function.update wanted record.group (record.asked (wanted record.group)) g = _
    rw [Function.update_apply]
    by_cases hg : record.group = g
    · rw [if_pos hg, if_pos hg.symm, hg]
    · rw [if_neg hg, if_neg (Ne.symm hg)]
  have hread := read_foldl_keyed hkeyed records before g
  rw [show read before g = wantedSources held from h] at hread
  refine hread.trans ?_
  exact List.foldl_hom wantedSources fun held record => (record.wantedSources_effect held).symm

/-- **Records and reports are set functions.**  A record changes what is wanted in its own
group as its kind says, leaves every other group alone, and reports a change exactly when
the stored interest of its group changed.  A report is the composition of its records, from
left to right, on the endpoint it comes from. -/
theorem applyReport_acts :
    (∀ (state : EndpointState) (record : MembershipRecord),
      (state.applyRecord record).1.wanted = record.act state.wanted ∧
      (∀ g, g ≠ record.group →
        (state.applyRecord record).1.groups[g]? = state.groups[g]?) ∧
      ((state.applyRecord record).2 = true ↔
        (state.applyRecord record).1.groups[record.group]? ≠ state.groups[record.group]?)) ∧
    ∀ (state : RelayState) (endpoint : SocketAddr) (report : MembershipReport),
      (state.applyReport endpoint report).1.wanted endpoint =
        report.records.foldl (fun before record => record.act before) (state.wanted endpoint) ∧
      ∀ e, e ≠ endpoint →
        (state.applyReport endpoint report).1.wanted e = state.wanted e := by
  refine ⟨fun state record => ⟨state.wanted_applyRecord record, ?_, ?_⟩,
    fun state endpoint report => ⟨?_, ?_⟩⟩
  · intro g hg
    show (state.updateGroups record).groups[g]? = _
    rw [EndpointState.getElem?_updateGroups, if_neg (Ne.symm hg)]
  · show decide _ = true ↔ _
    rw [decide_eq_true_iff]
    exact ne_comm
  · funext g
    rw [foldl_act report.records (state.endpointInterest endpoint g) g rfl, RelayState.wanted,
      RelayState.endpointInterest_applyReport, if_pos rfl]
  · intro e he
    funext g
    rw [RelayState.wanted, RelayState.endpointInterest_applyReport, if_neg (Ne.symm he)]
    rfl

end Amt

import Amt.DesiredMembership
import Amt.Gateway.Replacement
import Amt.LocalMembership.Delta

/-!
# The desired report says exactly what is wanted

Interest reaches the desired report on two ways, and is merged on both.  The reports of the
local hosts are merged into the aggregate of the manager, of which the exportable groups are
reported; the joins are merged by group, an any-source join overriding the others; and the
two reports are merged once more as two endpoints of a scratch state.

Each stage is read at one group and as a set of wanted sources.

* **The joins** (`joinedAt_foldl`): a group is there if a join names it, it is
  any-source if one of its joins is, and otherwise lists the sources of its joins.  None of
  this mentions the order of the joins or how often one occurs.
* **The export** (`exists_exported_iff`): the merged filter of the manager, in the
  groups that may leave the network.  The families never get in the way, since a manager only
  ever applies reports of its own protocol (`grouped_after`).
* **Both** (`desiredMembershipReport_exact`): a union of unions, so that a source of a group is
  wanted if a join or a host wants it.
-/

namespace Amt

open LocalMembershipManager (Op)

/-! ## Reading a state report -/

/-- The report wants the source in the group. -/
def MembershipReport.wants (report : MembershipReport) (source group : IpAddr) : Bool :=
  report.records.any fun record =>
    record.group = group && record.statedInterest.wantsSource source

/-! ## The joins -/

/-- The join is for any source of its group, or for this one. -/
def GatewayJoin.Wants (join : GatewayJoin) (source group : IpAddr) : Prop :=
  join.group = group ∧ (join.source = none ∨ join.source = some source)

/-- What the joins call for in a group, by the entry their report makes of it. -/
def JoinedAt (joins : List GatewayJoin) (g : IpAddr) : Option (Option (BTreeSet IpAddr)) → Prop
  | none => ∀ join ∈ joins, join.group ≠ g
  | some none => ∃ join ∈ joins, join.group = g ∧ join.source = none
  | some (some sources) =>
      (∃ join ∈ joins, join.group = g) ∧ (∀ join ∈ joins, join.group = g → join.source ≠ none) ∧
        ∀ source, source ∈ sources ↔ ∃ join ∈ joins, join.group = g ∧ join.source = some source

theorem exists_mem_concat_iff (joins : List GatewayJoin) (join : GatewayJoin)
    (Q : GatewayJoin → Prop) :
    (∃ other ∈ joins ++ [join], Q other) ↔ (∃ other ∈ joins, Q other) ∨ Q join := by
  simp [or_and_right, exists_or]

/-- A join for a source of a group that has no any-source join. -/
theorem joinedAt_insert {joins : List GatewayJoin} {join : GatewayJoin} {g source : IpAddr}
    (hg : join.group = g) (hsource : join.source = some source) {sources : BTreeSet IpAddr}
    (hnotAny : ∀ other ∈ joins, other.group = g → other.source ≠ none)
    (hmem : ∀ s, s ∈ sources ↔ ∃ other ∈ joins, other.group = g ∧ other.source = some s) :
    JoinedAt (joins ++ [join]) g (some (some (sources.insert source))) := by
  refine ⟨⟨join, by simp, hg⟩, fun other hother hog => ?_, fun s => ?_⟩
  · rcases List.mem_append.mp hother with hold | hnew
    · exact hnotAny other hold hog
    · rw [List.mem_singleton.mp hnew, hsource]
      exact Option.some_ne_none source
  · rw [BTreeSet.mem_insert_iff, hmem, or_comm, exists_mem_concat_iff]
    simp [hg, hsource, eq_comm]

/-- A join of another group. -/
theorem JoinedAt.append_other {joins : List GatewayJoin} {join : GatewayJoin} {g : IpAddr}
    (hg : join.group ≠ g) {entry : Option (Option (BTreeSet IpAddr))}
    (h : JoinedAt joins g entry) : JoinedAt (joins ++ [join]) g entry := by
  rcases entry with _ | _ | sources
  · simpa [JoinedAt, or_imp, forall_and, hg] using h
  · obtain ⟨other, hother, hboth⟩ := h
    exact ⟨other, List.mem_append_left _ hother, hboth⟩
  · obtain ⟨⟨other, hother, hog⟩, hnotAny, hmem⟩ := h
    refine ⟨⟨other, List.mem_append_left _ hother, hog⟩, ?_, fun s => ?_⟩
    · simpa [or_imp, forall_and, hg] using hnotAny
    · rw [hmem, exists_mem_concat_iff]
      simp [hg]

/-- One more join. -/
theorem JoinedAt.addJoin {joins : List GatewayJoin}
    {groups : BTreeMap IpAddr (Option (BTreeSet IpAddr))}
    (h : ∀ g, JoinedAt joins g groups[g]?) (join : GatewayJoin) (g : IpAddr) :
    JoinedAt (joins ++ [join]) g (addJoin groups join)[g]? := by
  have hbefore := h g
  rw [Amt.addJoin, BTreeMap.getElem?_upsert]
  by_cases hg : join.group = g
  · rw [if_pos hg]
    cases hsource : join.source with
    | none => exact ⟨join, by simp, hg, hsource⟩
    | some source =>
        rcases hheld : groups[g]? with _ | _ | sources <;> rw [hheld] at hbefore
        · -- the first join of the group
          have hothers : ∀ other ∈ joins, other.group ≠ g := hbefore
          refine joinedAt_insert hg hsource (fun other hother hog => ?_) fun s => ?_
          · exact absurd hog (hothers other hother)
          · refine iff_of_false Std.ExtTreeSet.not_mem_empty ?_
            rintro ⟨other, hother, hog, -⟩
            exact hothers other hother hog
        · -- an any-source join overrides this one
          obtain ⟨other, hother, hboth⟩ := hbefore
          exact ⟨other, List.mem_append_left _ hother, hboth⟩
        · exact joinedAt_insert hg hsource hbefore.2.1 hbefore.2.2
  · rw [if_neg hg]
    exact hbefore.append_other hg

theorem joinedAt_foldl (joins : List GatewayJoin) (g : IpAddr) :
    JoinedAt joins g (joins.foldl addJoin ∅)[g]? := by
  induction joins using List.reverseRecOn generalizing g with
  | nil =>
      rw [List.foldl_nil, Std.ExtTreeMap.getElem?_empty]
      simp [JoinedAt]
  | append_singleton joins join ih =>
      rw [List.foldl_append]
      exact JoinedAt.addJoin ih join g

/-- The entry is determined by which joins there are. -/
theorem JoinedAt.unique {joins : List GatewayJoin} {g : IpAddr}
    {entry entry' : Option (Option (BTreeSet IpAddr))} (h : JoinedAt joins g entry)
    (h' : JoinedAt joins g entry') : entry = entry' := by
  rcases entry with _ | _ | sources <;> rcases entry' with _ | _ | sources'
  · rfl
  · obtain ⟨join, hjoin, hg, -⟩ := h'
    exact absurd hg (h join hjoin)
  · obtain ⟨⟨join, hjoin, hg⟩, -⟩ := h'
    exact absurd hg (h join hjoin)
  · obtain ⟨join, hjoin, hg, -⟩ := h
    exact absurd hg (h' join hjoin)
  · rfl
  · obtain ⟨join, hjoin, hg, hany⟩ := h
    exact absurd hany (h'.2.1 join hjoin hg)
  · obtain ⟨⟨join, hjoin, hg⟩, -⟩ := h
    exact absurd hg (h' join hjoin)
  · obtain ⟨join, hjoin, hg, hany⟩ := h'
    exact absurd hany (h.2.1 join hjoin hg)
  · have hsources : sources = sources' := by
      ext1 source
      exact (h.2.2 source).trans (h'.2.2 source).symm
    rw [hsources]

theorem JoinedAt.congr {joins joins' : List GatewayJoin}
    (hsame : ∀ join, join ∈ joins ↔ join ∈ joins') {g : IpAddr}
    {entry : Option (Option (BTreeSet IpAddr))} (h : JoinedAt joins g entry) :
    JoinedAt joins' g entry := by
  rcases entry with _ | _ | sources
  · simpa only [JoinedAt, hsame] using h
  · simpa only [JoinedAt, hsame] using h
  · simpa only [JoinedAt, hsame] using h

/-- **Only which joins there are matters**, not their order or their number. -/
theorem configuredJoinsReport_congr (protocol : MembershipProtocol)
    {joins joins' : List GatewayJoin} (hsame : ∀ join, join ∈ joins ↔ join ∈ joins') :
    configuredJoinsReport protocol joins = configuredJoinsReport protocol joins' := by
  have hgroups : joins.foldl addJoin ∅ = joins'.foldl addJoin ∅ := by
    ext1 g
    exact ((joinedAt_foldl joins g).congr hsame).unique (joinedAt_foldl joins' g)
  rw [configuredJoinsReport, configuredJoinsReport, hgroups]

/-! ## The scratch state -/

/-- A report that is there only if it has records does to a table what its records do. -/
theorem endpointInterest_applyIfSome (state : RelayState) (endpoint : SocketAddr)
    (protocol : MembershipProtocol) (records : List MembershipRecord) (e : SocketAddr)
    (g : IpAddr) :
    (applyIfSome state endpoint
        (if records.isEmpty then none else some { protocol, records })).endpointInterest e g =
      if endpoint = e then
        (records.filter fun record => record.group = g).foldl
          (fun held record => record.effect held) (state.endpointInterest e g)
      else state.endpointInterest e g := by
  cases hempty : records.isEmpty with
  | true =>
      rw [if_pos rfl, List.isEmpty_iff.mp hempty]
      simp [applyIfSome]
  | false =>
      rw [if_neg (by simp)]
      exact RelayState.endpointInterest_applyReport state endpoint _ e g

theorem wellFormed_applyIfSome {state : RelayState} (h : state.WellFormed) (endpoint : SocketAddr)
    (report : Option MembershipReport) : (applyIfSome state endpoint report).WellFormed := by
  cases report with
  | none => exact h
  | some report => exact h.applyReport endpoint report

section Scratch

variable {E : Type*} (config : LocalMembershipConfig) (joins : List GatewayJoin)
  (runs : Option (List (Op E)))

/-- The local manager of a gateway, if it has one: any run of it. -/
def localManager : Option LocalMembershipManager := runs.map (LocalMembershipManager.after config)

theorem wellFormed_desiredState :
    (desiredState config.protocol joins (localManager config runs)).WellFormed :=
  wellFormed_applyIfSome (wellFormed_applyIfSome RelayState.wellFormed_default _ _) _ _

/-- The first of the two reports. -/
theorem endpointInterest_joinsStage (protocol : MembershipProtocol) (e : SocketAddr) (g : IpAddr) :
    (applyIfSome .default joinsEndpoint (configuredJoinsReport protocol joins)).endpointInterest e g
      = if joinsEndpoint = e then
          (joins.foldl addJoin ∅)[g]?.bind fun interest => (joinsRecord g interest).effect none
        else none := by
  have hnothing : RelayState.default.endpointInterest e g = none := by
    simp [RelayState.default, RelayState.endpointInterest]
  have hgroup : ∀ (g : IpAddr) (interest : Option (BTreeSet IpAddr)),
      (joinsRecord g interest).group = g := by
    intro g interest
    cases interest <;> rfl
  rw [configuredJoinsReport, endpointInterest_applyIfSome, foldl_effect_toList _ hgroup, hnothing]
  cases (joins.foldl addJoin ∅)[g]? <;> rfl

/-- The second, on top of whatever there is. -/
theorem endpointInterest_localStage (state : RelayState) (e : SocketAddr) (g : IpAddr) :
    (applyIfSome state localEndpoint
        ((localManager config runs).bind LocalMembershipManager.currentReport)).endpointInterest e g
      = if localEndpoint = e then
          ((localManager config runs).bind fun m => m.currentExportableInterests[g]?).or
            (state.endpointInterest e g)
        else state.endpointInterest e g := by
  cases runs with
  | none => exact (ite_self _).symm
  | some ops =>
      have hkept := LocalMembershipManager.kept_after config ops
      show (applyIfSome state localEndpoint
        (LocalMembershipManager.after config ops).currentReport).endpointInterest e g = _
      rw [LocalMembershipManager.currentReport_eq]
      have happly := endpointInterest_applyIfSome state localEndpoint
        (LocalMembershipManager.after config ops).config.protocol
        ((LocalMembershipManager.after config ops).currentExportableInterests.toList.map
          fun entry => recordForInterest entry.1 entry.2 .state) e g
      rw [List.isEmpty_map,
        foldl_effect_toList _ fun g interest => recordForInterest_group g interest _] at happly
      rw [happly]
      refine if_congr Iff.rfl ?_ rfl
      show _ = ((LocalMembershipManager.after config ops).currentExportableInterests[g]?).or _
      cases hheld : (LocalMembershipManager.after config ops).currentExportableInterests[g]? with
      | none => rfl
      | some interest =>
          exact effect_recordForInterest g
            (hkept.advertisable_currentExportableInterests.canonical g interest hheld) .state _

theorem endpointInterest_desiredState (e : SocketAddr) (g : IpAddr) :
    (desiredState config.protocol joins (localManager config runs)).endpointInterest e g =
      if joinsEndpoint = e then
        (joins.foldl addJoin ∅)[g]?.bind fun interest => (joinsRecord g interest).effect none
      else if localEndpoint = e then
        (localManager config runs).bind fun m => m.currentExportableInterests[g]?
      else none := by
  have hne : localEndpoint ≠ joinsEndpoint := by decide
  rw [desiredState, endpointInterest_localStage, endpointInterest_joinsStage]
  by_cases hjoins : joinsEndpoint = e
  · subst hjoins
    rw [if_neg hne, if_pos rfl, if_pos rfl]
  · rw [if_neg hjoins, if_neg hjoins, Option.or_none]

/-- The scratch state holds what the joins and the export call for. -/
theorem exists_endpointInterest_desiredState_iff (g : IpAddr) (P : GroupInterest → Prop) :
    (∃ e interest, (desiredState config.protocol joins
        (localManager config runs)).endpointInterest e g = some interest ∧ P interest) ↔
      (∃ interest, ((joins.foldl addJoin ∅)[g]?.bind
          fun entry => (joinsRecord g entry).effect none) = some interest ∧ P interest) ∨
        ∃ m ∈ localManager config runs, ∃ interest,
          m.currentExportableInterests[g]? = some interest ∧ P interest := by
  have hne : joinsEndpoint ≠ localEndpoint := by decide
  constructor
  · rintro ⟨e, interest, hinterest, hP⟩
    rw [endpointInterest_desiredState] at hinterest
    split at hinterest
    · exact .inl ⟨interest, hinterest, hP⟩
    · split at hinterest
      · obtain ⟨m, hm, hheld⟩ := Option.bind_eq_some_iff.mp hinterest
        exact .inr ⟨m, hm, interest, hheld, hP⟩
      · cases hinterest
  · rintro (⟨interest, hinterest, hP⟩ | ⟨m, hm, interest, hinterest, hP⟩)
    · refine ⟨joinsEndpoint, interest, ?_, hP⟩
      rw [endpointInterest_desiredState, if_pos rfl]
      exact hinterest
    · refine ⟨localEndpoint, interest, ?_, hP⟩
      rw [endpointInterest_desiredState, if_neg hne, if_pos rfl]
      exact Option.bind_eq_some_iff.mpr ⟨m, hm, hinterest⟩

end Scratch

/-! ### The joins at one group -/

section Joins

variable {joins : List GatewayJoin} {g : IpAddr}

/-- The joins in a group, as a filter. -/
theorem joinedFilter_cases (joins : List GatewayJoin) (g : IpAddr) :
    (((joins.foldl addJoin ∅)[g]?.bind fun entry => (joinsRecord g entry).effect none) = none ∧
        ∀ join ∈ joins, join.group ≠ g) ∨
      (((joins.foldl addJoin ∅)[g]?.bind fun entry => (joinsRecord g entry).effect none)
          = some (.ofExclude []) ∧ ∃ join ∈ joins, join.group = g ∧ join.source = none) ∨
      ∃ sources, ((joins.foldl addJoin ∅)[g]?.bind fun entry => (joinsRecord g entry).effect none)
          = some (.ofInclude sources) ∧
        (∀ join ∈ joins, join.group = g → join.source ≠ none) ∧
        ∀ source, source ∈ sources ↔
          ∃ join ∈ joins, join.group = g ∧ join.source = some source := by
  have hjoined := joinedAt_foldl joins g
  rcases hentry : (joins.foldl addJoin ∅)[g]? with _ | _ | sources <;> rw [hentry] at hjoined
  · exact .inl ⟨rfl, hjoined⟩
  · exact .inr (.inl ⟨rfl, hjoined⟩)
  · obtain ⟨⟨join, hjoin, hg⟩, hnotAny, hmem⟩ := hjoined
    -- the group has a join, and the join a source
    obtain ⟨source, hsource⟩ := Option.ne_none_iff_exists'.mp (hnotAny join hjoin hg)
    have hsome : sources.toList.isEmpty = false := by
      rw [List.isEmpty_eq_false_iff]
      exact List.ne_nil_of_mem
        (Std.ExtTreeSet.mem_toList.mpr ((hmem source).mpr ⟨join, hjoin, hg, hsource⟩))
    refine .inr (.inr ⟨sources.toList, ?_, hnotAny, fun s => ?_⟩)
    · show (if sources.toList.isEmpty then none
        else some (GroupInterest.ofInclude sources.toList)) = _
      rw [if_neg (Bool.eq_false_iff.mp hsome)]
    · rw [Std.ExtTreeSet.mem_toList, hmem]

theorem joinedFilter_wants_iff (joins : List GatewayJoin) (g source : IpAddr) :
    (∃ interest, ((joins.foldl addJoin ∅)[g]?.bind
        fun entry => (joinsRecord g entry).effect none) = some interest ∧
          interest.wantsSource source = true) ↔ ∃ join ∈ joins, join.Wants source g := by
  rcases joinedFilter_cases joins g with ⟨hnone, hnot⟩ | ⟨hany, join, hjoin, hg, hsource⟩ |
    ⟨sources, hsome, hnotAny, hmem⟩
  · rw [hnone]
    refine iff_of_false ?_ ?_
    · rintro ⟨_, ⟨⟩, -⟩
    · rintro ⟨join, hjoin, hg, -⟩
      exact hnot join hjoin hg
  · rw [hany]
    refine iff_of_true ⟨_, rfl, ?_⟩ ⟨join, hjoin, hg, .inl hsource⟩
    simp [GroupInterest.wantsSource_iff, GroupInterest.ofExclude]
  · rw [hsome]
    constructor
    · rintro ⟨_, ⟨⟩, hwants⟩
      have hlisted : source ∈ sources := by
        simpa [GroupInterest.wantsSource_iff, GroupInterest.ofInclude] using hwants
      obtain ⟨join, hjoin, hg, hsource⟩ := (hmem source).mp hlisted
      exact ⟨join, hjoin, hg, .inr hsource⟩
    · rintro ⟨join, hjoin, hg, hsource⟩
      have hlisted : source ∈ sources :=
        (hmem source).mpr ⟨join, hjoin, hg, hsource.resolve_left (hnotAny join hjoin hg)⟩
      refine ⟨_, rfl, ?_⟩
      simpa [GroupInterest.wantsSource_iff, GroupInterest.ofInclude] using hlisted

theorem joinedFilter_exclude_iff (joins : List GatewayJoin) (g : IpAddr) :
    (∃ interest, ((joins.foldl addJoin ∅)[g]?.bind
        fun entry => (joinsRecord g entry).effect none) = some interest ∧
          interest.mode = .Exclude) ↔ ∃ join ∈ joins, join.group = g ∧ join.source = none := by
  rcases joinedFilter_cases joins g with ⟨hnone, hnot⟩ | ⟨hany, join, hjoin, hg, hsource⟩ |
    ⟨sources, hsome, hnotAny, -⟩
  · rw [hnone]
    refine iff_of_false ?_ ?_
    · rintro ⟨_, ⟨⟩, -⟩
    · rintro ⟨join, hjoin, hg, -⟩
      exact hnot join hjoin hg
  · rw [hany]
    exact iff_of_true ⟨_, rfl, rfl⟩ ⟨join, hjoin, hg, hsource⟩
  · rw [hsome]
    refine iff_of_false ?_ ?_
    · rintro ⟨_, ⟨⟩, ⟨⟩⟩
    · rintro ⟨join, hjoin, hg, hsource⟩
      exact hnotAny join hjoin hg hsource

end Joins

/-! ### The export at one group -/

section Export

variable {E : Type*} {config : LocalMembershipConfig}

/-- A manager holds groups of its protocol's family only. -/
theorem LocalMembershipManager.grouped_after (config : LocalMembershipConfig) (ops : List (Op E)) :
    (LocalMembershipManager.after config ops).state.Grouped
      fun g => protocolFamily config.protocol g = true := by
  refine (after_invariant (I := fun m => m.Kept config ∧ m.state.Grouped
    fun g => protocolFamily config.protocol g = true)
      ⟨kept_new config, RelayState.grouped_default⟩ ?_ ops).2
  rintro m m' ⟨hkept, hgrouped⟩ hmove
  refine ⟨hkept.move hmove, ?_⟩
  cases hmove with
  | @reported report endpoint seen hprotocol haccepted =>
      show RelayState.Grouped _ (m.state.applyReportLimited endpoint report _).1
      rcases RelayState.applyReportLimited_cases hkept.wellFormed.indexed endpoint report
        m.limits with ⟨-, -, heq⟩ | ⟨error, heq⟩
      · rw [heq]
        refine hgrouped.applyReport (fun record hrecord => ?_) endpoint
        have hfamily := haccepted.family record hrecord
        rwa [hprotocol, hkept.config_eq] at hfamily
      · rw [heq]
        exact hgrouped
  | forgotten reporter =>
      intro e g interest hinterest
      exact hgrouped e g interest (RelayState.shrinks_removeEndpoint _ _ e g interest hinterest)
  | advertised => exact hgrouped

/-- What is exported of a group: its merged filter, if it may be exported. -/
theorem exists_exported_iff {ops : List (Op E)} (g : IpAddr) (P : GroupInterest → Prop) :
    (∃ interest, (LocalMembershipManager.after config ops).currentExportableInterests[g]?
        = some interest ∧ P interest) ↔
      isAmtExportableGroup g = true ∧ ∃ merged,
        (LocalMembershipManager.after config ops).state.aggregate[g]? = some merged ∧
          P merged := by
  have hkept := LocalMembershipManager.kept_after config ops
  constructor
  · rintro ⟨interest, hinterest, hP⟩
    obtain ⟨hmerged, -, hexportable⟩ :=
      (LocalMembershipManager.getElem?_currentExportableInterests _ g interest).mp hinterest
    exact ⟨hexportable, interest, hmerged, hP⟩
  · rintro ⟨hexportable, merged, hmerged, hP⟩
    obtain ⟨e, interest, hinterest⟩ :=
      (hkept.wellFormed.aggregate_isSome_iff g).mp ⟨merged, hmerged⟩
    have hfamily := LocalMembershipManager.grouped_after config ops e g interest hinterest
    rw [← hkept.config_eq] at hfamily
    exact ⟨merged, (LocalMembershipManager.getElem?_currentExportableInterests _ g merged).mpr
      ⟨hmerged, hfamily, hexportable⟩, hP⟩

/-- A property that a merged filter has if one of the merged filters does, asked of the
export: it is a question about the local hosts. -/
theorem exists_exported_local_iff (runs : Option (List (Op E))) (g : IpAddr)
    {P : GroupInterest → Prop}
    (hP : ∀ state : RelayState, state.WellFormed →
      ((∃ merged, state.aggregate[g]? = some merged ∧ P merged) ↔
        ∃ e interest, state.endpointInterest e g = some interest ∧ P interest)) :
    (∃ m ∈ localManager config runs, ∃ interest,
        m.currentExportableInterests[g]? = some interest ∧ P interest) ↔
      isAmtExportableGroup g = true ∧ ∃ m ∈ localManager config runs, ∃ reporter interest,
        m.state.endpointInterest reporter g = some interest ∧ P interest := by
  cases runs with
  | none =>
      refine iff_of_false ?_ ?_
      · rintro ⟨_, ⟨⟩, -⟩
      · rintro ⟨-, _, ⟨⟩, -⟩
  | some ops =>
      have hwf := (LocalMembershipManager.kept_after config ops).wellFormed
      calc (∃ m ∈ localManager config (some ops), ∃ interest,
            m.currentExportableInterests[g]? = some interest ∧ P interest)
          ↔ ∃ interest, (LocalMembershipManager.after config
              ops).currentExportableInterests[g]? = some interest ∧ P interest := by
            simp [localManager]
        _ ↔ isAmtExportableGroup g = true ∧ ∃ reporter interest,
              (LocalMembershipManager.after config ops).state.endpointInterest reporter g
                = some interest ∧ P interest := by
            rw [exists_exported_iff g P, hP _ hwf]
        _ ↔ _ := by simp [localManager]

end Export

/-! ## The report -/

section Report

variable {E : Type*} (config : LocalMembershipConfig) (joins : List GatewayJoin)
  (runs : Option (List (Op E)))

theorem statedInterest_desiredRecord (g : IpAddr) (interest : GroupInterest) :
    (desiredRecord g interest).statedInterest = interest := by
  obtain ⟨mode, sources⟩ := interest
  have hsources : Std.ExtTreeSet.ofList sources.toList compare = sources :=
    Std.ExtTreeSet.ext_mem fun source => by simp
  cases mode with
  | Include =>
      simp [desiredRecord, MembershipRecord.statedInterest, GroupInterest.ofInclude, hsources]
  | Exclude =>
      simp [desiredRecord, MembershipRecord.statedInterest, GroupInterest.ofExclude, hsources]

theorem desiredMembershipReport_wants_aggregate (source g : IpAddr) :
    (desiredMembershipReport config.protocol joins (localManager config runs)).wants source g
        = true ↔
      ∃ merged, (desiredState config.protocol joins (localManager config runs)).aggregate[g]?
        = some merged ∧ merged.wantsSource source = true := by
  simp only [MembershipReport.wants, desiredMembershipReport, RelayState.aggregateInterests,
    List.any_map, List.any_eq_true, Function.comp_apply, statedInterest_desiredRecord,
    Bool.and_eq_true, decide_eq_true_eq]
  constructor
  · rintro ⟨⟨g', merged⟩, hentry, rfl, hwants⟩
    exact ⟨merged, BTreeMap.mem_toList_iff.mp hentry, hwants⟩
  · rintro ⟨merged, hmerged, hwants⟩
    exact ⟨(g, merged), BTreeMap.mem_toList_iff.mpr hmerged, rfl, hwants⟩

/-- The merged filter of a group wants a source if a join or a host does. -/
theorem exists_aggregate_wants_iff (source g : IpAddr) :
    (∃ merged, (desiredState config.protocol joins (localManager config runs)).aggregate[g]?
        = some merged ∧ merged.wantsSource source = true) ↔
      (∃ join ∈ joins, join.Wants source g) ∨
        isAmtExportableGroup g = true ∧ ∃ m ∈ localManager config runs, ∃ reporter interest,
          m.state.endpointInterest reporter g = some interest ∧
            interest.wantsSource source = true := by
  rw [(wellFormed_desiredState config joins runs).aggregate_wants_iff,
    exists_endpointInterest_desiredState_iff config joins runs g
      (fun interest => interest.wantsSource source = true), joinedFilter_wants_iff,
    exists_exported_local_iff runs g fun _ hwf => hwf.aggregate_wants_iff g source]

/-- It excludes if a join is for any source or a host excludes. -/
theorem exists_aggregate_exclude_iff (g : IpAddr) :
    (∃ merged, (desiredState config.protocol joins (localManager config runs)).aggregate[g]?
        = some merged ∧ merged.mode = .Exclude) ↔
      (∃ join ∈ joins, join.group = g ∧ join.source = none) ∨
        isAmtExportableGroup g = true ∧ ∃ m ∈ localManager config runs, ∃ reporter interest,
          m.state.endpointInterest reporter g = some interest ∧ interest.mode = .Exclude := by
  rw [(wellFormed_desiredState config joins runs).aggregate_exclude_iff,
    exists_endpointInterest_desiredState_iff config joins runs g
      (fun interest => interest.mode = .Exclude), joinedFilter_exclude_iff,
    exists_exported_local_iff runs g fun _ hwf => hwf.aggregate_exclude_iff g]

theorem desiredMembershipReport_isCompleteState :
    (desiredMembershipReport config.protocol joins
      (localManager config runs)).IsCompleteState := by
  constructor
  · rw [desiredMembershipReport, groups_map_toList _ fun _ _ => rfl]
    exact BTreeMap.keys_nodup _
  · intro record hrecord
    obtain ⟨⟨g, merged⟩, hentry, rfl⟩ := List.mem_map.mp hrecord
    have hcanonical := (wellFormed_desiredState config joins runs).canonical_aggregate
      (BTreeMap.mem_toList_iff.mp hentry)
    cases hmode : merged.mode with
    | Include =>
        obtain ⟨source, hsource⟩ := hcanonical hmode
        refine .inl ⟨by simp [desiredRecord, hmode], ?_⟩
        exact List.ne_nil_of_mem (Std.ExtTreeSet.mem_toList.mpr hsource)
    | Exclude => exact .inr (by simp [desiredRecord, hmode])

/-- **The desired report is exact.**  For every list of joins and every reachable local state
of the same protocol (or none), a source of a group is wanted exactly if a join or, in a group
that may be exported, a local host wants it; each group has one record, and none of them
includes nothing; and the report depends on the joins as a set only. -/
theorem desiredMembershipReport_exact :
    (∀ source g, (desiredMembershipReport config.protocol joins
        (localManager config runs)).wants source g = true ↔
      (∃ join ∈ joins, join.Wants source g) ∨
        isAmtExportableGroup g = true ∧ ∃ m ∈ localManager config runs, ∃ reporter interest,
          m.state.endpointInterest reporter g = some interest ∧
            interest.wantsSource source = true) ∧
    (desiredMembershipReport config.protocol joins (localManager config runs)).IsCompleteState ∧
    ∀ joins', (∀ join, join ∈ joins ↔ join ∈ joins') →
      desiredMembershipReport config.protocol joins' (localManager config runs)
        = desiredMembershipReport config.protocol joins (localManager config runs) := by
  refine ⟨fun source g => ?_, desiredMembershipReport_isCompleteState config joins runs,
    fun joins' hsame => ?_⟩
  · rw [desiredMembershipReport_wants_aggregate, exists_aggregate_wants_iff]
  · rw [desiredMembershipReport, desiredMembershipReport, desiredState, desiredState,
      configuredJoinsReport_congr _ hsame]

end Report

end Amt

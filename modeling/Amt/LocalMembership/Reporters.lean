import Amt.Lib.Log
import Amt.LocalMembership

/-!
# Reporters that fall silent

A manager keeps two tables about the hosts of its network: the endpoints of its state, and
the times at which their reports were recorded.  A host without a time would never be
forgotten, and a time without a host would mean nothing.

* **The tables name the same hosts** (`Tracked`).  A report that is refused leaves both as they
  are; one that is applied is followed by an update of the times, and a host whose last
  interest is withdrawn leaves both.
* **A time is that of the latest report.**  The log of a run has one entry for every report
  that was applied (`recorded`), and the time of a host is that of the latest entry about it.
* **A prune forgets the hosts whose time is old enough**, and no other
  (`after_reporters_tracked`).
-/

namespace Amt

namespace LocalMembershipManager

variable {E : Type*}

/-! ## What a reception does -/

/-- The manager after a report of a host was applied. -/
def reported (manager : LocalMembershipManager) (now : Instant) (reporter : IpAddr)
    (report : MembershipReport) : LocalMembershipManager :=
  let state := (manager.state.applyReport (.new reporter 0) report).1
  { manager with
    state
    reporterLastSeen :=
      if state.containsEndpoint (.new reporter 0) then manager.reporterLastSeen.insert reporter now
      else manager.reporterLastSeen.erase reporter }

variable {manager : LocalMembershipManager} {now : Instant}

theorem receive_cases (hindexed : manager.state.rebuildIndexes = manager.state)
    (now : Instant) (datagram : Bytes) :
    ((manager.receive (E := E) now datagram).1 = manager ∧
        ∀ event, (manager.receive (E := E) now datagram).2 ≠ some (.ok event)) ∨
      ∃ event report, manager.receive (E := E) now datagram =
        (manager.reported now event.reporter report, some (.ok event)) := by
  unfold receive
  cases parseMembershipReport datagram with
  | err error => exact .inl ⟨rfl, by simp⟩
  | panic => exact .inl ⟨rfl, by simp⟩
  | ok report =>
      dsimp only
      split
      · exact .inl ⟨rfl, by simp⟩
      · cases parseDatagramSource datagram with
        | none => exact .inl ⟨rfl, by simp⟩
        | some reporter =>
            rcases RelayState.applyReportLimited_cases hindexed (.new reporter 0) report
              manager.limits with ⟨-, -, heq⟩ | ⟨error, heq⟩
            · refine .inr ⟨⟨reporter, report.records.length,
                (manager.state.applyReport (.new reporter 0) report).1.upstreamSubscriptions⟩,
                report, ?_⟩
              dsimp only
              rw [heq]
              rfl
            · dsimp only
              rw [heq]
              exact .inl ⟨rfl, by simp⟩

/-- **A call receives at most one report**: it is applied, or the manager is as before. -/
theorem tryRecv_cases (hindexed : manager.state.rebuildIndexes = manager.state)
    (now : Instant) (captured : List (LocalCapture E)) :
    ((manager.tryRecv now captured).1 = manager ∧
        ∀ event, (manager.tryRecv now captured).2.2 ≠ .ok (some event)) ∨
      ∃ event report, (manager.tryRecv now captured).1 =
          manager.reported now event.reporter report ∧
        (manager.tryRecv now captured).2.2 = .ok (some event) := by
  unfold tryRecv
  generalize maxIrrelevantPacketSkip = skips
  induction captured generalizing skips with
  | nil => cases skips <;> exact .inl ⟨rfl, by simp [tryRecvLoop]⟩
  | cons head captured ih =>
      cases skips with
      | zero => exact .inl ⟨rfl, by simp [tryRecvLoop]⟩
      | succ skips =>
          cases head with
          | failed error => exact .inl ⟨rfl, by simp [tryRecvLoop]⟩
          | datagram datagram =>
              have hreceive := receive_cases (E := E) hindexed now datagram
              unfold tryRecvLoop
              generalize manager.receive (E := E) now datagram = result at hreceive ⊢
              rcases hreceive with ⟨hsame, hnone⟩ | ⟨event, report, rfl⟩
              · obtain ⟨manager', _ | outcome⟩ := result
                · obtain rfl : manager' = manager := hsame
                  exact ih skips
                · refine .inl ⟨hsame, fun event hevent => ?_⟩
                  cases outcome with
                  | ok event' => exact hnone event' rfl
                  | err error => cases hevent
                  | panic => cases hevent
              · exact .inr ⟨event, report, rfl, rfl⟩

/-! ## The log of a run -/

/-- The host and the time of a report that a call has applied. -/
def recorded (manager : LocalMembershipManager) : Op E → Option (IpAddr × Instant)
  | .tryRecv now captured =>
      match (manager.tryRecv now captured).2.2 with
      | .ok (some event) => some (event.reporter, now)
      | _ => none
  | .prune _ | .markAdvertised => none

/-- The reports that a run has applied. -/
def reportLog (config : LocalMembershipConfig) (ops : List (Op E)) : List (IpAddr × Instant) :=
  emitted step recorded (new config) ops

/-- The clock readings of a run. -/
def times (ops : List (Op E)) : List Instant :=
  ops.filterMap fun op =>
    match op with
    | .tryRecv now _ => some now
    | .prune now => some now
    | .markAdvertised => none

/-! ## The two tables -/

/-- **The two tables name the same hosts**, and a time is that of the latest report. -/
structure Tracked (log : List (IpAddr × Instant)) (manager : LocalMembershipManager) : Prop where
  wellFormed : manager.state.WellFormed
  isSome_seen : ∀ reporter, manager.reporterLastSeen[reporter]?.isSome =
    manager.state.containsEndpoint (.new reporter 0)
  endpoint_eq : ∀ e, manager.state.containsEndpoint e = true → e = .new e.ip 0
  latest_eq : ∀ reporter t, manager.reporterLastSeen[reporter]? = some t →
    latest Prod.fst log reporter = some (reporter, t)

theorem tracked_new (config : LocalMembershipConfig) : Tracked [] (new config) where
  wellFormed := RelayState.wellFormed_default
  isSome_seen reporter := by simp [new, RelayState.default, RelayState.containsEndpoint]
  endpoint_eq e h := by simp [new, RelayState.default, RelayState.containsEndpoint] at h
  latest_eq reporter t h := by simp [new] at h

theorem new_ne_new {reporter other : IpAddr} (h : reporter ≠ other) :
    SocketAddr.new reporter 0 ≠ .new other 0 := by
  intro heq
  have hip := congrArg SocketAddr.ip heq
  rw [SocketAddr.ip_new, SocketAddr.ip_new] at hip
  exact h hip

variable {log : List (IpAddr × Instant)}

theorem getElem?_reporterLastSeen_reported (manager : LocalMembershipManager) (now : Instant)
    (reporter : IpAddr) (report : MembershipReport) (other : IpAddr) :
    (manager.reported now reporter report).reporterLastSeen[other]? =
      if reporter = other then
        if (manager.reported now reporter report).state.containsEndpoint (.new reporter 0) then
          some now
        else none
      else manager.reporterLastSeen[other]? := by
  unfold reported
  dsimp only
  split
  · rw [BTreeMap.getElem?_insert_eq]
  · rw [BTreeMap.getElem?_erase_eq]

theorem containsEndpoint_reported_of_ne (manager : LocalMembershipManager) (now : Instant)
    {reporter : IpAddr} (report : MembershipReport) {e : SocketAddr} (he : .new reporter 0 ≠ e) :
    (manager.reported now reporter report).state.containsEndpoint e =
      manager.state.containsEndpoint e := by
  rw [RelayState.containsEndpoint_eq_isSome, RelayState.containsEndpoint_eq_isSome]
  exact congrArg Option.isSome (RelayState.getElem?_endpoints_applyReport_of_ne _ report he)

/-- A report is the latest of its reporter. -/
theorem Tracked.reported (h : Tracked log manager) (now : Instant) (reporter : IpAddr)
    (report : MembershipReport) :
    Tracked (log ++ [(reporter, now)]) (manager.reported now reporter report) where
  wellFormed := h.wellFormed.applyReport _ _
  isSome_seen other := by
    rw [getElem?_reporterLastSeen_reported]
    by_cases hother : reporter = other
    · subst hother
      rw [if_pos rfl]
      split
      · next hcontains => exact hcontains.symm
      · next hcontains => exact (Bool.eq_false_iff.mpr hcontains).symm
    · rw [if_neg hother, containsEndpoint_reported_of_ne _ _ _ (new_ne_new hother)]
      exact h.isSome_seen other
  endpoint_eq e he := by
    by_cases hown : SocketAddr.new reporter 0 = e
    · rw [← hown, SocketAddr.ip_new]
    · rw [containsEndpoint_reported_of_ne _ _ _ hown] at he
      exact h.endpoint_eq e he
  latest_eq other t ht := by
    rw [getElem?_reporterLastSeen_reported] at ht
    rw [latest_append_singleton]
    by_cases hother : reporter = other
    · subst hother
      rw [if_pos rfl] at ht ⊢
      split at ht
      · rw [Option.some.inj ht]
      · cases ht
    · rw [if_neg hother] at ht ⊢
      exact h.latest_eq other t ht

theorem getElem?_endpoints_forgetReporter (manager : LocalMembershipManager) (reporter : IpAddr)
    (e : SocketAddr) :
    (manager.forgetReporter reporter).state.endpoints[e]? =
      if SocketAddr.new reporter 0 = e then none else manager.state.endpoints[e]? :=
  RelayState.getElem?_endpoints_removeEndpoint _ _ e

/-- **What forgetting a list of hosts does** to the two tables. -/
theorem foldl_forgetReporter (reporters : List IpAddr) (manager : LocalMembershipManager) :
    (∀ reporter, (reporters.foldl forgetReporter manager).reporterLastSeen[reporter]? =
      if reporter ∈ reporters then none else manager.reporterLastSeen[reporter]?) ∧
    ∀ e, (reporters.foldl forgetReporter manager).state.endpoints[e]? =
      if e ∈ reporters.map (SocketAddr.new · 0) then none else manager.state.endpoints[e]? := by
  refine ⟨fun reporter => ?_, fun e => ?_⟩
  · have hseen := read_foldl_drop forgetReporter id
      (fun manager reporter => manager.reporterLastSeen[reporter]?)
      (fun manager => BTreeMap.getElem?_erase_eq manager.reporterLastSeen)
      reporters manager reporter
    rwa [List.map_id] at hseen
  · exact read_foldl_drop forgetReporter (SocketAddr.new · 0)
      (fun manager e => manager.state.endpoints[e]?) getElem?_endpoints_forgetReporter
      reporters manager e

/-- Forgetting a reporter forgets its time. -/
theorem Tracked.forgetReporter (h : Tracked log manager) (reporter : IpAddr) :
    Tracked log (manager.forgetReporter reporter) where
  wellFormed := h.wellFormed.removeEndpoint _
  isSome_seen other := by
    rw [RelayState.containsEndpoint_eq_isSome, getElem?_endpoints_forgetReporter]
    show ((manager.reporterLastSeen.erase reporter)[other]?).isSome = _
    rw [BTreeMap.getElem?_erase_eq]
    by_cases hother : reporter = other
    · rw [hother, if_pos rfl, if_pos rfl]
      rfl
    · rw [if_neg hother, if_neg (new_ne_new hother), h.isSome_seen,
        RelayState.containsEndpoint_eq_isSome]
  endpoint_eq e he := by
    rw [RelayState.containsEndpoint_eq_isSome, getElem?_endpoints_forgetReporter] at he
    split at he
    · cases he
    · refine h.endpoint_eq e ?_
      rw [RelayState.containsEndpoint_eq_isSome]
      exact he
  latest_eq other t ht := h.latest_eq other t (BTreeMap.getElem?_erase_eq_some_iff.mp ht).2

/-- **The step.** -/
theorem Tracked.step (h : Tracked log manager) (op : Op E) :
    Tracked (log ++ (manager.recorded op).toList) (manager.step op) := by
  cases op with
  | tryRecv now captured =>
      show Tracked _ (manager.tryRecv now captured).1
      unfold recorded
      dsimp only
      rcases tryRecv_cases h.wellFormed.indexed now captured with
        ⟨hsame, hnone⟩ | ⟨event, report, hreported, hevent⟩
      · rw [hsame]
        split
        · next event hevent => exact absurd hevent (hnone event)
        · rw [Option.toList_none, List.append_nil]
          exact h
      · rw [hreported, hevent]
        exact h.reported now event.reporter report
  | prune now =>
      rw [recorded, Option.toList_none, List.append_nil]
      show Tracked log (manager.pruneStaleReportersAt now).1
      unfold pruneStaleReportersAt
      split
      · exact h
      · exact List.foldlRecOn (motive := Tracked log) _ _ h
          fun _ hkept reporter _ => hkept.forgetReporter reporter
  | markAdvertised =>
      rw [recorded, Option.toList_none, List.append_nil]
      exact ⟨h.wellFormed, h.isSome_seen, h.endpoint_eq, h.latest_eq⟩

theorem tracked_after (config : LocalMembershipConfig) (ops : List (Op E)) :
    Tracked (reportLog config ops) (after config ops) :=
  emitted_invariant step recorded (tracked_new config) (fun _ _ op h => h.step op) ops

/-! ## Prunes -/

theorem times_append_singleton (ops : List (Op E)) (now : Instant) :
    times (ops ++ [.prune now]) = times ops ++ [now] := by
  rw [times, List.filterMap_append]
  rfl

theorem mem_times_of_mem_reportLog {config : LocalMembershipConfig} {ops : List (Op E)}
    {entry : IpAddr × Instant} (h : entry ∈ reportLog config ops) : entry.2 ∈ times ops := by
  induction ops using List.reverseRecOn with
  | nil => cases h
  | append_singleton ops op ih =>
      rw [reportLog, emitted_append_singleton] at h
      rw [times, List.filterMap_append]
      rcases List.mem_append.mp h with h | h
      · exact List.mem_append_left _ (ih h)
      · refine List.mem_append_right _ ?_
        rw [Option.mem_toList] at h
        cases op with
        | tryRecv now captured =>
            unfold recorded at h
            dsimp only at h
            split at h
            · obtain rfl := Option.some.inj h
              exact List.mem_singleton_self now
            · cases h
        | prune now => cases h
        | markAdvertised => cases h

theorem mem_staleReporters_iff {reporter : IpAddr} :
    reporter ∈ manager.staleReporters now ↔
      ∃ t, manager.reporterLastSeen[reporter]? = some t ∧ t ≤ now ∧
        manager.config.reporterTimeout ≤ now - t := by
  rw [staleReporters, mem_staleKeys_iff]
  refine exists_congr fun t => and_congr_right fun _ => ⟨fun h => ?_, fun ⟨hle, h⟩ => ?_⟩
  · have hle : t ≤ now := le_trans (Nat.le_add_right _ _) h
    exact ⟨hle, (Nat.le_sub_iff_add_le' hle).mpr h⟩
  · exact (Nat.le_sub_iff_add_le' hle).mp h

/-- The host is known, and its latest report that was applied was at `t`. -/
def LastRecorded (config : LocalMembershipConfig) (ops : List (Op E)) (reporter : IpAddr)
    (t : Instant) : Prop :=
  reporter ∈ (after config ops).reporterLastSeen ∧
    latest Prod.fst (reportLog config ops) reporter = some (reporter, t)

theorem getElem?_of_lastRecorded {config : LocalMembershipConfig} {ops : List (Op E)}
    {reporter : IpAddr} {t : Instant} :
    (after config ops).reporterLastSeen[reporter]? = some t ↔
      LastRecorded config ops reporter t := by
  have hlatest := (tracked_after config ops).latest_eq reporter
  constructor
  · intro h
    exact ⟨Std.ExtTreeMap.mem_iff_isSome_getElem?.mpr (by rw [h]; rfl), hlatest t h⟩
  · rintro ⟨hmem, h⟩
    obtain ⟨t', ht'⟩ := Option.isSome_iff_exists.mp (Std.ExtTreeMap.mem_iff_isSome_getElem?.mp hmem)
    rw [hlatest t' ht'] at h
    obtain rfl := (Prod.mk.inj (Option.some.inj h)).2
    exact ht'

/-- **A prune in an orderly run**: the hosts that are forgotten are those whose latest report
is at least a timeout old, and nothing else changes in the two tables. -/
structure PrunedExactly (config : LocalMembershipConfig) (ops : List (Op E)) (now : Instant)
    (before pruned : LocalMembershipManager) : Prop where
  forgotten : ∀ reporter t, LastRecorded config ops reporter t →
    config.reporterTimeout ≤ now - t →
      reporter ∉ pruned.reporterLastSeen ∧
        ∀ e : SocketAddr, e.ip = reporter → pruned.state.containsEndpoint e = false
  kept : ∀ reporter, (∀ t, LastRecorded config ops reporter t → now - t < config.reporterTimeout) →
    pruned.reporterLastSeen[reporter]? = before.reporterLastSeen[reporter]? ∧
      ∀ e : SocketAddr, e.ip = reporter →
        pruned.state.endpoints[e]? = before.state.endpoints[e]?

/-- A prune of a manager that queries forgets its stale hosts. -/
theorem after_append_prune {config : LocalMembershipConfig} {ops : List (Op E)} {now : Instant}
    (hquery : config.queryInterval.isSome = true) :
    after config (ops ++ [.prune now]) =
      ((after config ops).staleReporters now).foldl forgetReporter (after config ops) := by
  have hrun : after config (ops ++ [.prune now]) =
      ((after config ops).pruneStaleReportersAt now).1 := by
    rw [after, List.foldl_append]
    rfl
  have henabled : ¬ config.queryInterval.isNone = true := by
    rw [Option.isNone_iff_eq_none]
    exact Option.isSome_iff_ne_none.mp hquery
  rw [hrun, pruneStaleReportersAt, (kept_after config ops).config_eq, if_neg henabled]

/-- While the clock has not gone back, the check for it never fails. -/
theorem mem_staleReporters_after_iff (config : LocalMembershipConfig) {ops : List (Op E)}
    {now : Instant} (hbound : ∀ t ∈ times ops, t ≤ now) (reporter : IpAddr) :
    reporter ∈ (after config ops).staleReporters now ↔
      ∃ t, LastRecorded config ops reporter t ∧ config.reporterTimeout ≤ now - t := by
  rw [mem_staleReporters_iff, (kept_after config ops).config_eq]
  refine exists_congr fun t => ?_
  rw [getElem?_of_lastRecorded]
  refine and_congr_right fun hlast => and_iff_right ?_
  obtain ⟨earlier, later, hlog, -⟩ := exists_append_of_latest hlast.2
  have hmem : (reporter, t) ∈ reportLog config ops := by
    rw [hlog]
    exact List.mem_append_right _ List.mem_cons_self
  exact hbound t (mem_times_of_mem_reportLog hmem)

theorem prunedExactly_after {config : LocalMembershipConfig} {ops : List (Op E)} {now : Instant}
    (hquery : config.queryInterval.isSome = true)
    (htimes : (times (ops ++ [.prune now])).Pairwise (· ≤ ·)) :
    PrunedExactly config ops now (after config ops) (after config (ops ++ [.prune now])) := by
  have htracked := tracked_after config ops
  have hbound : ∀ t ∈ times ops, t ≤ now := by
    rw [times_append_singleton, List.pairwise_append] at htimes
    exact fun t ht => htimes.2.2 t ht now (List.mem_singleton_self now)
  have hstale := mem_staleReporters_after_iff config hbound
  obtain ⟨hseen, hendpoints⟩ :=
    foldl_forgetReporter ((after config ops).staleReporters now) (after config ops)
  rw [← after_append_prune hquery] at hseen hendpoints
  refine ⟨fun reporter t hlast hold => ?_, fun reporter hrecent => ?_⟩
  · have hmem := (hstale reporter).mpr ⟨t, hlast, hold⟩
    refine ⟨?_, fun e he => ?_⟩
    · rw [Std.ExtTreeMap.mem_iff_isSome_getElem?, hseen, if_pos hmem]
      exact Bool.false_ne_true
    · rw [RelayState.containsEndpoint_eq_isSome, hendpoints]
      split
      · rfl
      · next hother =>
          refine Option.isSome_eq_false_iff.mpr (Option.isNone_iff_eq_none.mpr ?_)
          by_contra hsome
          have hcontains : (after config ops).state.containsEndpoint e = true := by
            rw [RelayState.containsEndpoint_eq_isSome]
            exact Option.isSome_iff_ne_none.mpr hsome
          refine hother (List.mem_map.mpr ⟨reporter, hmem, ?_⟩)
          rw [htracked.endpoint_eq e hcontains, he]
  · have hmem : reporter ∉ (after config ops).staleReporters now := by
      intro hmem
      obtain ⟨t, hlast, hold⟩ := (hstale reporter).mp hmem
      exact absurd hold (Nat.not_le.mpr (hrecent t hlast))
    refine ⟨by rw [hseen, if_neg hmem], fun e he => ?_⟩
    rw [hendpoints, if_neg]
    intro hforgotten
    obtain ⟨other, hother, rfl⟩ := List.mem_map.mp hforgotten
    rw [SocketAddr.ip_new] at he
    exact hmem (he ▸ hother)

/-- **The reporters of a run**: the two tables name the same hosts, every endpoint has port 0,
every host has the time of its latest report, and a prune forgets exactly the hosts that have
fallen silent. -/
theorem after_reporters_tracked (config : LocalMembershipConfig) (ops : List (Op E)) :
    (∀ reporter, reporter ∈ (after config ops).reporterLastSeen ↔
      ∃ e, (after config ops).state.containsEndpoint e = true ∧ e.ip = reporter) ∧
    (∀ e, (after config ops).state.containsEndpoint e = true → e.port = 0) ∧
    (∀ reporter ∈ (after config ops).reporterLastSeen, ∃ t, LastRecorded config ops reporter t) ∧
    ∀ now, config.queryInterval.isSome = true →
      (times (ops ++ [.prune now])).Pairwise (· ≤ ·) →
        PrunedExactly config ops now (after config ops) (after config (ops ++ [.prune now])) := by
  have htracked := tracked_after config ops
  refine ⟨fun reporter => ?_, fun e he => ?_, fun reporter hmem => ?_,
    fun now => prunedExactly_after⟩
  · rw [Std.ExtTreeMap.mem_iff_isSome_getElem?, htracked.isSome_seen]
    refine ⟨fun h => ⟨_, h, SocketAddr.ip_new reporter 0⟩, ?_⟩
    rintro ⟨e, he, rfl⟩
    exact htracked.endpoint_eq e he ▸ he
  · rw [htracked.endpoint_eq e he, SocketAddr.port_new]
  · obtain ⟨t, ht⟩ := Option.isSome_iff_exists.mp (Std.ExtTreeMap.mem_iff_isSome_getElem?.mp hmem)
    exact ⟨t, getElem?_of_lastRecorded.mp ht⟩

end LocalMembershipManager

end Amt

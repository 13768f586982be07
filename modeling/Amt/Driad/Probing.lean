import Amt.Driad

/-!
# The discipline of probing

What holds of a `DriadSourceTunnel` between any two of its calls, whatever the resolver, the
sockets and the relays do.

* **Probing stays in one tier.**  All probes under way have the rank `currentRank`, and the
  queue behind them is in the order of the ranks, so that no candidate is tried while a better
  one is still being tried.
* **An active relay ends the round**, and a withdrawal by the DNS ends everything: neither
  leaves a probe or a candidate, and after a withdrawal nothing starts again until the resolver
  returns candidates.

* **A held relay in the queue was found through another one.**  The queue is built without
  the relays that are held down, and a probed candidate has left it; so the hold-down of a
  queued relay is that of the last probe since then which was sent on to it and found it
  loaded (`SourceEvent.redirect` reads it off the events).

Each method is shown to keep `Disciplined`, and a run keeps what its calls keep.  A rebuild of
the queue asks for very little of the tunnel (`disciplined_rebuildProbeQueue`), and what remains
of the argument is that between two rebuilds entries only leave.
-/

namespace Amt

namespace DriadProbe

/-- Polling a probe keeps its candidate. -/
theorem pollLoop_candidate (budget : ℕ) (probe : DriadProbe) (progress : Bool)
    (received : List Received) :
    (pollLoop budget probe progress received).1.candidate = probe.candidate := by
  induction budget generalizing probe progress received with
  | zero => rfl
  | succ budget ih =>
      rcases received with _ | ⟨_ | ⟨peer, bytes, outerEcn, answering⟩, received⟩
      · rfl
      · rfl
      · simp only [pollLoop]
        split
        · split
          · rw [ih]
          · rfl
        · split <;> rfl
        · rw [ih]
        · rw [ih]
        · rw [ih]
        · rw [ih]
        · rfl

theorem poll_candidate (probe : DriadProbe) (received : List Received) :
    (probe.poll received).1.candidate = probe.candidate :=
  pollLoop_candidate _ _ _ _

end DriadProbe

/-- When each relay was last found loaded through another one, since the queue was rebuilt. -/
def SourceEvent.redirect (loads : SocketAddr → Option Instant) :
    SourceEvent → SocketAddr → Option Instant
  | .rebuilt, _ => none
  | .loaded probed advertised heldAt, relay =>
      if advertised = relay ∧ probed ≠ relay then some heldAt else loads relay
  | _, relay => loads relay

theorem Answering.foldl_redirect_sentEvents (answering : Answering) (sent : Bool)
    (loads : SocketAddr → Option Instant) :
    (answering.sentEvents sent).foldl SourceEvent.redirect loads = loads := by
  cases sent <;> rfl

namespace DriadSourceTunnel

/-- **The discipline of a tunnel**, with the loads that the events so far amount to.  The first
six fields are what a reader of the tunnel relies on; the others carry them through the
calls. -/
structure Disciplined (tunnel : DriadSourceTunnel) (loads : SocketAddr → Option Instant) :
    Prop where
  count : tunnel.probes.length ≤ tunnel.maxConcurrentProbes
  rank : ∀ probe ∈ tunnel.probes, some probe.candidate.rank = tunnel.currentRank
  sorted : tunnel.pending.Pairwise fun a b => a.rank ≤ b.rank
  distinct : (tunnel.pending.map DriadCandidate.relay).Nodup
  disjoint : ∀ candidate ∈ tunnel.pending, ∀ probe ∈ tunnel.probes,
    candidate.relay ≠ probe.candidate.relay
  active : tunnel.active.isSome → tunnel.probes = [] ∧ tunnel.pending = []
  withdrawn : tunnel.noRelayPresent →
    tunnel.active = none ∧ tunnel.probes = [] ∧ tunnel.pending = []
  waiting : tunnel.retryRoundAt.isSome →
    tunnel.active = none ∧ tunnel.probes = [] ∧ tunnel.pending = []
  held : ∀ candidate ∈ tunnel.pending, tunnel.holdDowns[candidate.relay]? =
    (loads candidate.relay).map fun heldAt => heldAt + tunnel.relayHoldDown

/-- A call keeps the discipline, with its own events. -/
def Polled.Disciplined {α : Type} (polled : Polled α) (loads : SocketAddr → Option Instant) :
    Prop :=
  polled.tunnel.Disciplined (polled.events.foldl SourceEvent.redirect loads)

theorem Polled.Disciplined.prepend {α : Type} {rest : Polled α} {events : List SourceEvent}
    {loads : SocketAddr → Option Instant}
    (h : rest.Disciplined (events.foldl SourceEvent.redirect loads)) :
    (rest.prepend events).Disciplined loads := by
  unfold Polled.Disciplined
  rw [List.foldl_append]
  exact h

variable {tunnel : DriadSourceTunnel} {loads : SocketAddr → Option Instant}

/-! ## Rebuilding the queue -/

/-- The new queue is sorted, without duplicates, held relays or running probes. -/
theorem eligibleCandidates_spec (tunnel : DriadSourceTunnel) :
    (tunnel.eligibleCandidates.Pairwise fun a b => a.rank ≤ b.rank) ∧
      (tunnel.eligibleCandidates.map DriadCandidate.relay).Nodup ∧
      ∀ candidate ∈ tunnel.eligibleCandidates,
        tunnel.holdDowns[candidate.relay]? = none ∧
          ∀ probe ∈ tunnel.probes, candidate.relay ≠ probe.candidate.relay := by
  have hperm := sortByKey_perm DriadCandidate.rank
    (retainUnseen DriadCandidate.relay
      (fun candidate =>
        tunnel.addressFamilyAllowed candidate.relay.ip &&
          !tunnel.holdDowns.contains candidate.relay)
      tunnel.inFlight tunnel.candidates)
  refine ⟨pairwise_sortByKey _ _, ?_, ?_⟩
  · exact (hperm.map _).nodup_iff.mpr (nodup_keys_retainUnseen _ _)
  · intro candidate hmem
    have hkept := hperm.mem_iff.mp hmem
    constructor
    · have hallowed := allowed_of_mem_retainUnseen hkept
      simp only [Bool.and_eq_true, Bool.not_eq_true'] at hallowed
      exact Std.ExtTreeMap.getElem?_eq_none_of_contains_eq_false hallowed.2
    · intro probe hprobe heq
      refine key_not_mem_of_mem_retainUnseen hkept ?_
      rw [heq, inFlight, BTreeSet.mem_ofList_iff]
      exact List.mem_map_of_mem hprobe

/-- Ranks that are all equal have that rank as their minimum. -/
theorem min?_rank_of_forall {probes : List DriadProbe} {rank : DriadRank}
    (h : ∀ probe ∈ probes, probe.candidate.rank = rank) (hne : probes ≠ []) :
    (probes.map fun probe => probe.candidate.rank).min? = some rank := by
  obtain ⟨probe, rest, rfl⟩ := List.exists_cons_of_ne_nil hne
  rw [List.min?_eq_some_iff]
  constructor
  · exact List.mem_map.mpr ⟨probe, List.mem_cons_self, h probe List.mem_cons_self⟩
  · intro other hother
    obtain ⟨member, hmember, rfl⟩ := List.mem_map.mp hother
    exact (h member hmember).ge

/-- **What a rebuild makes**, of any tunnel without an active relay whose probes have one
rank. -/
theorem disciplined_rebuildProbeQueue (now : Instant) (hactive : tunnel.active = none)
    (hcount : tunnel.probes.length ≤ tunnel.maxConcurrentProbes) {rank : Option DriadRank}
    (hrank : ∀ probe ∈ tunnel.probes, some probe.candidate.rank = rank)
    (hwithdrawn : tunnel.noRelayPresent → tunnel.probes = []) :
    (tunnel.rebuildProbeQueue now).Disciplined fun _ => none := by
  unfold rebuildProbeQueue
  dsimp only
  split
  · next hgone =>
      have hprobes := hwithdrawn hgone
      refine ⟨hcount, ?_, .nil, List.nodup_nil, ?_, ?_, ?_, ?_, ?_⟩ <;> simp [hprobes, hactive]
  · next hpresent =>
      obtain ⟨hsorted, hdistinct, hfresh⟩ := eligibleCandidates_spec
        { tunnel with holdDowns := tunnel.holdDowns.filter fun _ expires => now < expires }
      refine ⟨hcount, ?_, hsorted, hdistinct, fun candidate hmem => (hfresh candidate hmem).2,
        ?_, ?_, ?_, ?_⟩
      · intro probe hprobe
        have hall : ∀ other ∈ tunnel.probes, other.candidate.rank = probe.candidate.rank :=
          fun other hother => Option.some.inj ((hrank other hother).trans (hrank probe hprobe).symm)
        simp only
        rw [min?_rank_of_forall hall (List.ne_nil_of_mem hprobe), Option.some_or]
      · simp [hactive]
      · exact fun hgone => absurd hgone hpresent
      · simp
      · exact fun candidate hmem => (hfresh candidate hmem).1

theorem disciplined_new (source : IpAddr) (protocol : MembershipProtocol) (ecn : Bool)
    (config : GatewayDriadConfig) (desired : MembershipReport) (now rebuiltAt : Instant) :
    (new source protocol ecn config desired now rebuiltAt).Disciplined fun _ => none :=
  have hprobes : ∀ probe ∈ ([] : List DriadProbe), some probe.candidate.rank = none :=
    fun _ hprobe => absurd hprobe List.not_mem_nil
  disciplined_rebuildProbeQueue rebuiltAt rfl (Nat.zero_le _) hprobes fun _ => rfl

/-- A step to another rank changes nothing else. -/
theorem advanceRank_eq (tunnel : DriadSourceTunnel) :
    ∃ currentRank, tunnel.advanceRank = { tunnel with currentRank } := by
  unfold advanceRank
  split
  · exact ⟨_, rfl⟩
  · exact ⟨_, rfl⟩

namespace Disciplined

theorem rebuildProbeQueue (h : tunnel.Disciplined loads) (now : Instant)
    (hactive : tunnel.active = none) :
    (tunnel.rebuildProbeQueue now).Disciplined fun _ => none :=
  disciplined_rebuildProbeQueue now hactive h.count h.rank fun hgone => (h.withdrawn hgone).2.1

/-! ## DNS refreshes -/

/-- Taking over an answer of the DNS. -/
theorem pollRefresh (h : tunnel.Disciplined loads) (refresh : DriadPoll) (rebuiltAt : Instant) :
    (tunnel.pollRefresh refresh rebuiltAt).Disciplined loads := by
  unfold DriadSourceTunnel.pollRefresh
  split
  · exact h
  · exact h
  · next selections =>
    dsimp only
    split
    · next hrebuild =>
        have hactive := Option.isNone_iff_eq_none.mp (Bool.and_eq_true_iff.mp hrebuild).1
        have hrebuilt : (DriadSourceTunnel.rebuildProbeQueue
            { tunnel with dnsCandidates := selections, noRelayPresent := false }
            rebuiltAt).Disciplined fun _ => none :=
          disciplined_rebuildProbeQueue _ hactive h.count h.rank (by simp)
        exact hrebuilt
    · exact ⟨h.count, h.rank, h.sorted, h.distinct, h.disjoint, h.active, by simp, h.waiting,
        h.held⟩
  · exact ⟨Nat.zero_le _, by simp, .nil, List.nodup_nil, by simp, fun _ => ⟨rfl, rfl⟩,
      fun _ => ⟨rfl, rfl, rfl⟩, fun _ => ⟨rfl, rfl, rfl⟩, by simp⟩
  · exact h

/-! ## The probes under way -/

/-- Probes may leave, and those that stay may change in all but their candidate. -/
theorem replaceProbes (h : tunnel.Disciplined loads) {probes : List DriadProbe}
    (hlength : probes.length ≤ tunnel.probes.length)
    (hmem : ∀ probe ∈ probes, ∃ old ∈ tunnel.probes, probe.candidate = old.candidate) :
    ({ tunnel with probes } : DriadSourceTunnel).Disciplined loads := by
  have hnil : tunnel.probes = [] → probes = [] := by
    intro hold
    rw [hold] at hlength
    exact List.length_eq_zero_iff.mp (Nat.le_zero.mp hlength)
  refine ⟨hlength.trans h.count, ?_, h.sorted, h.distinct, ?_, ?_, ?_, ?_, h.held⟩
  · intro probe hprobe
    obtain ⟨old, hold, heq⟩ := hmem probe hprobe
    rw [heq]
    exact h.rank old hold
  · intro candidate hcandidate probe hprobe
    obtain ⟨old, hold, heq⟩ := hmem probe hprobe
    rw [heq]
    exact h.disjoint candidate hcandidate old hold
  · exact fun hactive => ⟨hnil (h.active hactive).1, (h.active hactive).2⟩
  · intro hgone
    obtain ⟨hactive, hprobes, hpending⟩ := h.withdrawn hgone
    exact ⟨hactive, hnil hprobes, hpending⟩
  · intro hwait
    obtain ⟨hactive, hprobes, hpending⟩ := h.waiting hwait
    exact ⟨hactive, hnil hprobes, hpending⟩

/-- A hold-down for a probed candidate and the address it was sent on to. -/
theorem holdProbed (h : tunnel.Disciplined loads) {candidate : DriadCandidate}
    (hprobed : ∀ queued ∈ tunnel.pending, queued.relay ≠ candidate.relay) (actual : SocketAddr)
    (heldAt : Instant) :
    (tunnel.holdCandidate candidate actual (heldAt + tunnel.relayHoldDown)).Disciplined
      (SourceEvent.redirect loads (.loaded candidate.relay actual heldAt)) := by
  refine ⟨h.count, h.rank, h.sorted, h.distinct, h.disjoint, h.active, h.withdrawn, h.waiting, ?_⟩
  intro queued hqueued
  have hheld := h.held queued hqueued
  have hne := (hprobed queued hqueued).symm
  simp only [holdCandidate, SourceEvent.redirect, BTreeMap.getElem?_insert_eq, hheld, hne, ne_eq,
    not_false_eq_true, and_true, if_false]
  split <;> rfl

/-- A relay answers while its probe is under way. -/
theorem activate (h : tunnel.Disciplined loads) (hprobes : tunnel.probes ≠ [])
    (active : ActiveDriadTunnel) :
    ({ tunnel with
        active := some active, probes := [], pending := [], retryAttempt := 0 } :
      DriadSourceTunnel).Disciplined loads := by
  refine ⟨Nat.zero_le _, by simp, .nil, List.nodup_nil, by simp, by simp, ?_, ?_, by simp⟩
  · exact fun hgone => absurd (h.withdrawn hgone).2.1 hprobes
  · exact fun hwait => absurd (h.waiting hwait).2.1 hprobes

/-- One turn of `poll_probes`. -/
theorem pollProbe (h : tunnel.Disciplined loads) {index : ℕ} {probe : DriadProbe}
    (hprobe : tunnel.probes[index]? = some probe) (now : Instant) (input : ProbeInput) :
    (tunnel.pollProbe now index probe input).Disciplined loads := by
  have hmem : probe ∈ tunnel.probes := List.mem_of_getElem? hprobe
  have hset : ∀ p ∈ tunnel.probes.set index (probe.poll input.received).1,
      ∃ old ∈ tunnel.probes, p.candidate = old.candidate := by
    intro p hp
    rcases List.mem_or_eq_of_mem_set hp with hp | rfl
    · exact ⟨p, hp, rfl⟩
    · exact ⟨probe, hmem, probe.poll_candidate _⟩
  have hkept := h.replaceProbes (by rw [List.length_set]) hset
  have hshorter : (swapRemove (tunnel.probes.set index (probe.poll input.received).1)
      index).length ≤ tunnel.probes.length := by
    rw [length_swapRemove, List.length_set]
    exact Nat.sub_le _ _
  have hwithout := h.replaceProbes hshorter
    fun p hp => hset p (mem_of_mem_swapRemove hp)
  unfold DriadSourceTunnel.pollProbe
  dsimp only
  split
  · exact hwithout
  · exact hkept
  · split
    · exact hwithout
    · exact hkept
  · exact hwithout
  · exact hwithout.holdProbed (fun queued hqueued => h.disjoint queued hqueued probe hmem) _ _
  · split
    · rw [Polled.Disciplined, List.foldl_cons, Answering.foldl_redirect_sentEvents]
      exact h.activate (List.ne_nil_of_mem hmem) _
    · exact hwithout
    · exact hwithout

/-- The loop, by induction over its turns. -/
theorem pollProbesLoop (now : Instant) (inputs : SocketAddr → ProbeInput) (turns index : ℕ)
    (madeProgress : Bool) (h : tunnel.Disciplined loads) :
    (DriadSourceTunnel.pollProbesLoop now inputs turns index madeProgress
      tunnel).Disciplined loads := by
  induction turns generalizing index madeProgress tunnel loads with
  | zero => exact h
  | succ turns ih =>
      unfold DriadSourceTunnel.pollProbesLoop
      split
      · exact h
      · next probe hprobe =>
          have hturn := h.pollProbe hprobe now (inputs probe.candidate.relay)
          dsimp only
          split
          · exact .prepend (ih _ _ hturn)
          · exact .prepend (ih _ _ hturn)
          · exact hturn
          · exact hturn
          · exact hturn

theorem pollProbes (h : tunnel.Disciplined loads) (now : Instant)
    (inputs : SocketAddr → ProbeInput) :
    (tunnel.pollProbes now inputs).Disciplined loads :=
  h.pollProbesLoop now inputs _ _ _

/-! ## The next probe -/

theorem advanceRank (h : tunnel.Disciplined loads) : tunnel.advanceRank.Disciplined loads := by
  unfold DriadSourceTunnel.advanceRank
  split
  · next hprobes _ =>
      refine ⟨h.count, ?_, h.sorted, h.distinct, h.disjoint, h.active, h.withdrawn, h.waiting,
        h.held⟩
      rw [hprobes]
      exact fun _ hprobe => absurd hprobe List.not_mem_nil
  · exact h

/-- The first candidate of the queue leaves it, with or without a probe. -/
theorem openProbe (h : tunnel.Disciplined loads) {candidate : DriadCandidate}
    {pending : List DriadCandidate} (hpending : tunnel.pending = candidate :: pending)
    (hrank : some candidate.rank = tunnel.currentRank)
    (hcount : tunnel.probes.length < tunnel.maxConcurrentProbes) (input : LaunchInput) :
    ({ tunnel with pending }.openProbe candidate input).Disciplined loads := by
  have hsorted := hpending ▸ h.sorted
  have hdistinct := hpending ▸ h.distinct
  rw [List.map_cons, List.nodup_cons] at hdistinct
  have hmem : ∀ queued ∈ pending, queued ∈ tunnel.pending := by
    intro queued hqueued
    rw [hpending]
    exact List.mem_cons_of_mem _ hqueued
  have hne : tunnel.pending ≠ [] := hpending ▸ List.cons_ne_nil _ _
  have hactive : tunnel.active.isSome → False := fun ha => hne (h.active ha).2
  have hgone : tunnel.noRelayPresent → False := fun hg => hne (h.withdrawn hg).2.2
  have hwait : tunnel.retryRoundAt.isSome → False := fun hw => hne (h.waiting hw).2.2
  unfold DriadSourceTunnel.openProbe
  dsimp only
  split
  · refine ⟨?_, ?_, hsorted.of_cons, hdistinct.2, ?_, fun ha => (hactive ha).elim,
      fun hg => (hgone hg).elim, fun hw => (hwait hw).elim,
      fun queued hqueued => h.held queued (hmem queued hqueued)⟩
    · simpa using hcount
    · intro probe hprobe
      rcases List.mem_append.mp hprobe with hprobe | hprobe
      · exact h.rank probe hprobe
      · rw [List.mem_singleton.mp hprobe]
        exact hrank
    · intro queued hqueued probe hprobe
      rcases List.mem_append.mp hprobe with hprobe | hprobe
      · exact h.disjoint queued (hmem queued hqueued) probe hprobe
      · rw [List.mem_singleton.mp hprobe]
        intro heq
        exact hdistinct.1 (List.mem_map.mpr ⟨queued, hqueued, heq⟩)
  · exact ⟨hcount.le, h.rank, hsorted.of_cons, hdistinct.2,
      fun queued hqueued => h.disjoint queued (hmem queued hqueued), fun ha => (hactive ha).elim,
      fun hg => (hgone hg).elim, fun hw => (hwait hw).elim,
      fun queued hqueued => h.held queued (hmem queued hqueued)⟩

/-- **What `launch_probe_if_due` does once the round has begun**: it takes the first candidate
off the queue, or leaves everything but the rank. -/
theorem launchNext_cases (h : tunnel.Disciplined loads) (input : LaunchInput) :
    ((tunnel.launchNext input).1.Disciplined loads ∧
        ∃ currentRank, (tunnel.launchNext input).1 = { tunnel with currentRank }) ∨
      ∃ candidate pending currentRank, tunnel.pending = candidate :: pending ∧
        tunnel.nextProbeAt ≤ input.now ∧
        (tunnel.launchNext input).1 =
          { tunnel with currentRank, pending }.openProbe candidate input ∧
        (tunnel.launchNext input).1.Disciplined loads := by
  have hadvanced := h.advanceRank
  obtain ⟨rank, hrank⟩ := advanceRank_eq tunnel
  unfold DriadSourceTunnel.launchNext
  split
  · exact .inl ⟨h, _, rfl⟩
  · next hdue =>
    split
    · exact .inl ⟨h, _, rfl⟩
    · next hcount =>
        rw [hrank] at hadvanced ⊢
        dsimp only
        split
        · exact .inl ⟨hadvanced, _, rfl⟩
        · next candidate pending hpending =>
            split
            · exact .inl ⟨hadvanced, _, rfl⟩
            · next hcurrent =>
                refine .inr ⟨candidate, pending, rank, hpending, not_lt.mp hdue, rfl, ?_⟩
                exact hadvanced.openProbe hpending (not_not.mp hcurrent) (not_le.mp hcount) input

theorem launchNext (h : tunnel.Disciplined loads) (input : LaunchInput) :
    (tunnel.launchNext input).1.Disciplined loads := by
  rcases h.launchNext_cases input with ⟨hnext, -⟩ | ⟨_, _, _, -, -, -, hnext⟩
  · exact hnext
  · exact hnext

theorem launchProbeIfDue (h : tunnel.Disciplined loads) (input : LaunchInput) :
    (tunnel.launchProbeIfDue input).Disciplined loads := by
  unfold DriadSourceTunnel.launchProbeIfDue
  split
  · exact h.launchNext input
  · next hretry =>
      split
      · exact h
      · have hactive := (h.waiting (by rw [hretry]; rfl)).1
        exact (h.rebuildProbeQueue input.rebuiltAt hactive).launchNext input

theorem scheduleNextRoundIfExhausted (h : tunnel.Disciplined loads) (now : Instant)
    (random : Option UInt64) : (tunnel.scheduleNextRoundIfExhausted now random).Disciplined loads :=
    by
  unfold DriadSourceTunnel.scheduleNextRoundIfExhausted
  split
  · exact h
  · next hexhausted =>
      split
      · refine ⟨h.count, h.rank, h.sorted, h.distinct, h.disjoint, h.active, h.withdrawn, ?_,
          h.held⟩
        intro _
        simp only [Bool.or_eq_true, Bool.not_eq_true', not_or, Bool.not_eq_true,
          Bool.not_eq_false, List.isEmpty_iff, Option.isSome_eq_false_iff,
          Option.isNone_iff_eq_none] at hexhausted
        exact ⟨hexhausted.1.1.2, hexhausted.1.2, hexhausted.2⟩
      · exact h

/-! ## The active relay -/

/-- The active part is taken out for the time of a call. -/
theorem takeActive (h : tunnel.Disciplined loads) (trafficRetryAttempt : ℕ) :
    ({ tunnel with active := none, trafficRetryAttempt } :
      DriadSourceTunnel).Disciplined loads where
  count := h.count
  rank := h.rank
  sorted := h.sorted
  distinct := h.distinct
  disjoint := h.disjoint
  active := by simp
  withdrawn hgone := ⟨rfl, (h.withdrawn hgone).2⟩
  waiting hwait := ⟨rfl, (h.waiting hwait).2⟩
  held := h.held

/-- It is put back, changed, where it was. -/
theorem putActive (h : tunnel.Disciplined loads) (hactive : tunnel.active.isSome)
    (active : ActiveDriadTunnel) (trafficRetryAttempt : ℕ) (desired : MembershipReport) :
    ({ tunnel with active := some active, trafficRetryAttempt, desired } :
      DriadSourceTunnel).Disciplined loads where
  count := h.count
  rank := h.rank
  sorted := h.sorted
  distinct := h.distinct
  disjoint := h.disjoint
  active _ := h.active hactive
  withdrawn hgone := absurd (h.withdrawn hgone).1 (Option.isSome_iff_ne_none.mp hactive)
  waiting hwait := absurd (h.waiting hwait).1 (Option.isSome_iff_ne_none.mp hactive)
  held := h.held

theorem failActive (h : tunnel.Disciplined loads) (hactive : tunnel.active = none)
    (active : ActiveDriadTunnel) (failure : DriadActiveFailure) (input : FailInput) :
    (tunnel.failActive active failure input).Disciplined fun _ => none := by
  have hprobes : tunnel.noRelayPresent → tunnel.probes = [] := fun hgone => (h.withdrawn hgone).2.1
  cases failure <;> exact disciplined_rebuildProbeQueue _ hactive h.count h.rank hprobes

end Disciplined

/-- Polling the active relay changes one counter of the tunnel around it, and has no part in
the queue. -/
def PolledActive.LeavesQueue (polled : PolledActive) (tunnel : DriadSourceTunnel) : Prop :=
  (∃ trafficRetryAttempt, polled.tunnel = { tunnel with trafficRetryAttempt }) ∧
    ∀ loads, polled.events.foldl SourceEvent.redirect loads = loads

theorem PolledActive.LeavesQueue.prepend {polled : PolledActive} (h : polled.LeavesQueue tunnel)
    {events : List SourceEvent}
    (hevents : ∀ loads, events.foldl SourceEvent.redirect loads = loads) :
    (polled.prepend events).LeavesQueue tunnel := by
  refine ⟨h.1, fun loads => ?_⟩
  rw [List.foldl_append, hevents, h.2]

/-- An active relay never touches the queue. -/
theorem leavesQueue_pollActiveLoop (now later : Instant) (budget : ℕ) (tunnel : DriadSourceTunnel)
    (active : ActiveDriadTunnel) (madeProgress : Bool) (received : List Received) :
    (pollActiveLoop now later budget tunnel active madeProgress received).LeavesQueue tunnel := by
  induction budget generalizing tunnel active madeProgress received with
  | zero => exact ⟨⟨_, rfl⟩, fun _ => rfl⟩
  | succ budget ih =>
      rcases received with _ | ⟨_ | ⟨peer, bytes, outerEcn, answering⟩, received⟩
      · exact ⟨⟨_, rfl⟩, fun _ => rfl⟩
      · exact ⟨⟨_, rfl⟩, fun _ => rfl⟩
      · unfold pollActiveLoop
        dsimp only
        split
        · split
          · exact ih _ _ _ _
          · exact ⟨⟨_, rfl⟩, fun _ => rfl⟩
        · split
          · exact ⟨⟨_, rfl⟩, fun _ => rfl⟩
          · split
            · exact (ih _ _ _ _).prepend (answering.foldl_redirect_sentEvents _)
            · exact ⟨⟨_, rfl⟩, fun _ => rfl⟩
            · exact ⟨⟨_, rfl⟩, fun _ => rfl⟩
        · obtain ⟨⟨attempt, htunnel⟩, hevents⟩ := ih { tunnel with trafficRetryAttempt := 0 }
            { active with
              gateway := (active.gateway.handleDatagramWithEcn peer bytes outerEcn).1
              trafficDeadline := none } true received
          exact ⟨⟨attempt, htunnel⟩, hevents⟩
        · exact ih _ _ _ _
        · exact ih _ _ _ _
        · exact ih _ _ _ _
        · exact ⟨⟨_, rfl⟩, fun _ => rfl⟩

theorem leavesQueue_pollActive (tunnel : DriadSourceTunnel) (active : ActiveDriadTunnel)
    (input : ActiveInput) (configuredRefreshInterval : Duration) :
    (tunnel.pollActive active input configuredRefreshInterval).LeavesQueue tunnel := by
  unfold pollActive
  dsimp only
  split
  · exact leavesQueue_pollActiveLoop _ _ _ _ _ _ _
  · exact ⟨⟨_, rfl⟩, fun _ => rfl⟩
  · exact ⟨⟨_, rfl⟩, fun _ => rfl⟩

namespace Disciplined

/-! ## Calls and runs -/

/-- A poll of the active relay; only a failure rebuilds the queue. -/
theorem pollEstablished (h : tunnel.Disciplined loads) {active : ActiveDriadTunnel}
    (hactive : tunnel.active = some active) (input : PollInput) :
    (tunnel.pollEstablished active input).Disciplined loads := by
  have hsome : tunnel.active.isSome := by rw [hactive]; rfl
  obtain ⟨⟨attempt, htunnel⟩, hevents⟩ := leavesQueue_pollActive { tunnel with active := none }
    active input.active input.configuredRefreshInterval
  unfold DriadSourceTunnel.pollEstablished Polled.Disciplined
  dsimp only
  split
  · rw [htunnel, hevents]
    exact h.putActive hsome _ attempt tunnel.desired
  · rw [htunnel, List.foldl_append]
    exact (h.takeActive attempt).failActive rfl _ _ _
  · rw [htunnel, hevents]
    exact h.takeActive attempt
  · rw [htunnel, hevents]
    exact h.takeActive attempt

theorem pollProbing (h : tunnel.Disciplined loads) (input : PollInput) :
    (tunnel.pollProbing input).Disciplined loads := by
  have hpolled := h.pollProbes input.now input.probes
  unfold DriadSourceTunnel.pollProbing
  dsimp only
  split
  · rw [Polled.Disciplined, List.foldl_append]
    have hlaunched := DriadSourceTunnel.Disciplined.launchProbeIfDue hpolled input.launch
    exact DriadSourceTunnel.Disciplined.scheduleNextRoundIfExhausted hlaunched _ _
  · exact hpolled
  · exact hpolled

theorem poll (h : tunnel.Disciplined loads) (input : PollInput) :
    (tunnel.poll input).Disciplined loads := by
  have hrefreshed := h.pollRefresh input.refresh input.refreshedAt
  unfold DriadSourceTunnel.poll Polled.Disciplined
  dsimp only
  rw [List.foldl_append]
  split
  · next hactive =>
      exact DriadSourceTunnel.Disciplined.pollEstablished hrefreshed hactive input
  · exact DriadSourceTunnel.Disciplined.pollProbing hrefreshed input

/-- A new report for the active relay. -/
theorem setDesired (h : tunnel.Disciplined loads) (desired : MembershipReport)
    (answering : Answering) (failed : FailInput) :
    (tunnel.setDesired desired answering failed).Disciplined loads := by
  have hdesired : ({ tunnel with desired } : DriadSourceTunnel).Disciplined loads :=
    ⟨h.count, h.rank, h.sorted, h.distinct, h.disjoint, h.active, h.withdrawn, h.waiting, h.held⟩
  unfold DriadSourceTunnel.setDesired
  split
  · exact h
  · dsimp only
    split
    · exact hdesired
    · next active hactive =>
        have htaken := hdesired.takeActive tunnel.trafficRetryAttempt
        split
        · rw [Polled.Disciplined, List.foldl_cons, Answering.foldl_redirect_sentEvents]
          exact h.putActive (by rw [hactive]; rfl) _ tunnel.trafficRetryAttempt desired
        · unfold Polled.Disciplined
          dsimp only
          exact htaken.failActive rfl _ _ _
        · exact htaken

theorem step (h : tunnel.Disciplined loads) (call : Call) :
    (tunnel.step call).Disciplined
      ((tunnel.callEvents call).foldl SourceEvent.redirect loads) := by
  cases call with
  | poll input => exact h.poll input
  | setDesired desired answering failed => exact h.setDesired desired answering failed

theorem after (h : tunnel.Disciplined loads) (calls : List Call) :
    (tunnel.after calls).Disciplined
      ((tunnel.trace calls).foldl SourceEvent.redirect loads) := by
  induction calls generalizing tunnel loads with
  | nil => exact h
  | cons call calls ih =>
      rw [trace, List.foldl_append]
      exact ih (h.step call)

end Disciplined

/-! ## Withdrawal

Only a refresh changes `noRelayPresent`, and nothing the limit of the probes. -/

/-- What every part of a call but the refresh leaves alone. -/
structure Frame (before later : DriadSourceTunnel) : Prop where
  limit : later.maxConcurrentProbes = before.maxConcurrentProbes
  withdrawn : later.noRelayPresent = before.noRelayPresent

/-- The timeouts are left alone as well. -/
structure FullFrame (before later : DriadSourceTunnel) : Prop extends Frame before later where
  initial : later.initialTrafficTimeout = before.initialTrafficTimeout
  maximum : later.maximumTrafficTimeout = before.maximumTrafficTimeout

/-- What launches a probe leaves the active relay and the desired report alone too. -/
structure LaunchFrame (before later : DriadSourceTunnel) : Prop
    extends FullFrame before later where
  active : later.active = before.active
  desired : later.desired = before.desired

/-- And so does what only moves the queue, with the count of the quiet relays. -/
structure QueueFrame (before later : DriadSourceTunnel) : Prop
    extends LaunchFrame before later where
  attempt : later.trafficRetryAttempt = before.trafficRetryAttempt

theorem LaunchFrame.trans {a b c : DriadSourceTunnel} (hab : LaunchFrame a b)
    (hbc : LaunchFrame b c) : LaunchFrame a c :=
  ⟨⟨⟨hbc.limit.trans hab.limit, hbc.withdrawn.trans hab.withdrawn⟩,
    hbc.initial.trans hab.initial, hbc.maximum.trans hab.maximum⟩, hbc.active.trans hab.active,
    hbc.desired.trans hab.desired⟩

namespace QueueFrame

variable (tunnel)

theorem refl : QueueFrame tunnel tunnel := ⟨⟨⟨⟨rfl, rfl⟩, rfl, rfl⟩, rfl, rfl⟩, rfl⟩

theorem trans {a b c : DriadSourceTunnel} (hab : QueueFrame a b) (hbc : QueueFrame b c) :
    QueueFrame a c :=
  ⟨hab.toLaunchFrame.trans hbc.toLaunchFrame, hbc.attempt.trans hab.attempt⟩

theorem rebuildProbeQueue (now : Instant) :
    QueueFrame tunnel (tunnel.rebuildProbeQueue now) := by
  unfold DriadSourceTunnel.rebuildProbeQueue
  dsimp only
  split
  · exact ⟨⟨⟨⟨rfl, rfl⟩, rfl, rfl⟩, rfl, rfl⟩, rfl⟩
  · exact ⟨⟨⟨⟨rfl, rfl⟩, rfl, rfl⟩, rfl, rfl⟩, rfl⟩

theorem openProbe (candidate : DriadCandidate) (input : LaunchInput) :
    QueueFrame tunnel (tunnel.openProbe candidate input) := by
  unfold DriadSourceTunnel.openProbe
  dsimp only
  split
  · exact ⟨⟨⟨⟨rfl, rfl⟩, rfl, rfl⟩, rfl, rfl⟩, rfl⟩
  · exact ⟨⟨⟨⟨rfl, rfl⟩, rfl, rfl⟩, rfl, rfl⟩, rfl⟩

theorem launchNext (input : LaunchInput) : QueueFrame tunnel (tunnel.launchNext input).1 := by
  obtain ⟨rank, hrank⟩ := advanceRank_eq tunnel
  have hadvanced : QueueFrame tunnel { tunnel with currentRank := rank } :=
    ⟨⟨⟨⟨rfl, rfl⟩, rfl, rfl⟩, rfl, rfl⟩, rfl⟩
  unfold DriadSourceTunnel.launchNext
  split
  · exact refl tunnel
  · split
    · exact refl tunnel
    · rw [hrank]
      dsimp only
      split
      · exact hadvanced
      · split
        · exact hadvanced
        · refine trans ?_ (openProbe _ _ input)
          exact ⟨⟨⟨⟨rfl, rfl⟩, rfl, rfl⟩, rfl, rfl⟩, rfl⟩

theorem launchProbeIfDue (input : LaunchInput) :
    QueueFrame tunnel (tunnel.launchProbeIfDue input).1 := by
  unfold DriadSourceTunnel.launchProbeIfDue
  split
  · exact launchNext tunnel input
  · split
    · exact refl tunnel
    · exact (rebuildProbeQueue tunnel input.rebuiltAt).trans (launchNext _ input)

theorem scheduleNextRoundIfExhausted (now : Instant) (random : Option UInt64) :
    QueueFrame tunnel (tunnel.scheduleNextRoundIfExhausted now random) := by
  unfold DriadSourceTunnel.scheduleNextRoundIfExhausted
  split
  · exact refl tunnel
  · split
    · exact ⟨⟨⟨⟨rfl, rfl⟩, rfl, rfl⟩, rfl, rfl⟩, rfl⟩
    · exact refl tunnel

end QueueFrame

theorem LaunchFrame.failActive (tunnel : DriadSourceTunnel) (active : ActiveDriadTunnel)
    (failure : DriadActiveFailure) (input : FailInput) :
    LaunchFrame tunnel (tunnel.failActive active failure input) := by
  unfold DriadSourceTunnel.failActive
  dsimp only
  refine trans ?_ (QueueFrame.rebuildProbeQueue _ _).toLaunchFrame
  cases failure <;> exact ⟨⟨⟨rfl, rfl⟩, rfl, rfl⟩, rfl, rfl⟩

namespace FullFrame

variable (tunnel)

theorem refl : FullFrame tunnel tunnel := ⟨⟨rfl, rfl⟩, rfl, rfl⟩

theorem trans {a b c : DriadSourceTunnel} (hab : FullFrame a b) (hbc : FullFrame b c) :
    FullFrame a c :=
  ⟨⟨hbc.limit.trans hab.limit, hbc.withdrawn.trans hab.withdrawn⟩,
    hbc.initial.trans hab.initial, hbc.maximum.trans hab.maximum⟩

theorem pollProbe (now : Instant) (index : ℕ) (probe : DriadProbe) (input : ProbeInput) :
    FullFrame tunnel (tunnel.pollProbe now index probe input).1 := by
  unfold DriadSourceTunnel.pollProbe
  dsimp only
  split
  · exact ⟨⟨rfl, rfl⟩, rfl, rfl⟩
  · exact ⟨⟨rfl, rfl⟩, rfl, rfl⟩
  · split <;> exact ⟨⟨rfl, rfl⟩, rfl, rfl⟩
  · exact ⟨⟨rfl, rfl⟩, rfl, rfl⟩
  · exact ⟨⟨rfl, rfl⟩, rfl, rfl⟩
  · split <;> exact ⟨⟨rfl, rfl⟩, rfl, rfl⟩

theorem pollProbesLoop (now : Instant) (inputs : SocketAddr → ProbeInput) (turns index : ℕ)
    (madeProgress : Bool) (tunnel : DriadSourceTunnel) :
    FullFrame tunnel (pollProbesLoop now inputs turns index madeProgress tunnel).1 := by
  induction turns generalizing index madeProgress tunnel with
  | zero => exact refl tunnel
  | succ turns ih =>
      unfold DriadSourceTunnel.pollProbesLoop
      split
      · exact refl tunnel
      · next probe _ =>
          have hturn := pollProbe tunnel now index probe (inputs probe.candidate.relay)
          dsimp only
          split
          · exact hturn.trans (ih _ _ _)
          · exact hturn.trans (ih _ _ _)
          · exact hturn
          · exact hturn
          · exact hturn

theorem pollEstablished (active : ActiveDriadTunnel) (input : PollInput) :
    FullFrame tunnel (tunnel.pollEstablished active input).1 := by
  obtain ⟨⟨attempt, htunnel⟩, -⟩ := leavesQueue_pollActive { tunnel with active := none } active
    input.active input.configuredRefreshInterval
  unfold DriadSourceTunnel.pollEstablished
  dsimp only
  split
  · rw [htunnel]
    exact ⟨⟨rfl, rfl⟩, rfl, rfl⟩
  · rw [htunnel]
    refine trans ?_ (LaunchFrame.failActive _ _ _ _).toFullFrame
    exact ⟨⟨rfl, rfl⟩, rfl, rfl⟩
  · rw [htunnel]
    exact ⟨⟨rfl, rfl⟩, rfl, rfl⟩
  · rw [htunnel]
    exact ⟨⟨rfl, rfl⟩, rfl, rfl⟩

theorem pollProbing (input : PollInput) :
    FullFrame tunnel (tunnel.pollProbing input).1 := by
  have hpolled : FullFrame tunnel (tunnel.pollProbes input.now input.probes).1 :=
    pollProbesLoop _ _ _ _ _ _
  unfold DriadSourceTunnel.pollProbing
  dsimp only
  split
  · exact (hpolled.trans (QueueFrame.launchProbeIfDue _ _).toFullFrame).trans
      (QueueFrame.scheduleNextRoundIfExhausted _ _ _).toFullFrame
  · exact hpolled
  · exact hpolled

/-- The part of a poll that follows the refresh. -/
theorem poll (input : PollInput) :
    FullFrame (tunnel.pollRefresh input.refresh input.refreshedAt).1 (tunnel.poll input).1 := by
  unfold DriadSourceTunnel.poll
  dsimp only
  split
  · exact pollEstablished _ _ _
  · exact pollProbing _ _

theorem setDesired (desired : MembershipReport) (answering : Answering) (failed : FailInput) :
    FullFrame tunnel (tunnel.setDesired desired answering failed).1 := by
  unfold DriadSourceTunnel.setDesired
  split
  · exact refl tunnel
  · dsimp only
    split
    · exact ⟨⟨rfl, rfl⟩, rfl, rfl⟩
    · split
      · exact ⟨⟨rfl, rfl⟩, rfl, rfl⟩
      · dsimp only
        refine trans ?_ (LaunchFrame.failActive _ _ _ _).toFullFrame
        exact ⟨⟨rfl, rfl⟩, rfl, rfl⟩
      · exact ⟨⟨rfl, rfl⟩, rfl, rfl⟩

end FullFrame

/-- A refresh leaves the settings alone too. -/
theorem pollRefresh_settings (tunnel : DriadSourceTunnel) (refresh : DriadPoll)
    (rebuiltAt : Instant) :
    (tunnel.pollRefresh refresh rebuiltAt).1.maxConcurrentProbes = tunnel.maxConcurrentProbes ∧
      (tunnel.pollRefresh refresh rebuiltAt).1.initialTrafficTimeout
        = tunnel.initialTrafficTimeout ∧
      (tunnel.pollRefresh refresh rebuiltAt).1.maximumTrafficTimeout
        = tunnel.maximumTrafficTimeout := by
  unfold pollRefresh
  split
  · exact ⟨rfl, rfl, rfl⟩
  · exact ⟨rfl, rfl, rfl⟩
  · next selections =>
      have hframe := QueueFrame.rebuildProbeQueue
        { tunnel with dnsCandidates := selections, noRelayPresent := false } rebuiltAt
      dsimp only
      split
      · exact ⟨hframe.limit, hframe.initial, hframe.maximum⟩
      · exact ⟨rfl, rfl, rfl⟩
  · exact ⟨rfl, rfl, rfl⟩
  · exact ⟨rfl, rfl, rfl⟩

theorem step_maxConcurrentProbes (tunnel : DriadSourceTunnel) (call : Call) :
    (tunnel.step call).maxConcurrentProbes = tunnel.maxConcurrentProbes := by
  cases call with
  | poll input =>
      rw [step, (FullFrame.poll tunnel input).limit, (pollRefresh_settings _ _ _).1]
  | setDesired desired answering failed =>
      exact (FullFrame.setDesired tunnel desired answering failed).limit

theorem after_maxConcurrentProbes (tunnel : DriadSourceTunnel) (calls : List Call) :
    (tunnel.after calls).maxConcurrentProbes = tunnel.maxConcurrentProbes :=
  List.foldlRecOn (motive := fun t => t.maxConcurrentProbes = tunnel.maxConcurrentProbes) calls _
    rfl fun t hrun call _ => (step_maxConcurrentProbes t call).trans hrun

/-- The resolver returns that no relay is present in this call. -/
def Call.Withdraws : Call → Prop
  | .poll input => input.refresh = .resolved (.error .noRelayPresent)
  | .setDesired _ _ _ => False

/-- The resolver returns candidates in this call. -/
def Call.Resolves : Call → Prop
  | .poll input => ∃ selections, input.refresh = .resolved (.ok selections)
  | .setDesired _ _ _ => False

theorem noRelayPresent_of_withdraws (tunnel : DriadSourceTunnel) {call : Call}
    (h : call.Withdraws) : (tunnel.step call).noRelayPresent = true := by
  cases call with
  | poll input =>
      have hrefresh : input.refresh = .resolved (.error .noRelayPresent) := h
      rw [step, (FullFrame.poll tunnel input).withdrawn, hrefresh]
      rfl
  | setDesired desired answering failed => exact h.elim

/-- Only an answer of the DNS ends a withdrawal. -/
theorem noRelayPresent_of_not_resolves (hgone : tunnel.noRelayPresent = true) {call : Call}
    (h : ¬ call.Resolves) : (tunnel.step call).noRelayPresent = true := by
  cases call with
  | poll input =>
      rw [step, (FullFrame.poll tunnel input).withdrawn]
      cases hrefresh : input.refresh with
      | idle => exact hgone
      | started => exact hgone
      | resolved result =>
          cases result with
          | ok selections => exact absurd ⟨selections, hrefresh⟩ h
          | error error =>
              unfold pollRefresh
              split
              · exact hgone
              · exact hgone
              · next heq => simp at heq
              · rfl
              · exact hgone
  | setDesired desired answering failed =>
      rw [step, (FullFrame.setDesired tunnel desired answering failed).withdrawn]
      exact hgone

theorem noRelayPresent_after (tunnel : DriadSourceTunnel) {earlier later : List Call} {call : Call}
    (hcall : call.Withdraws) (hlater : ∀ next ∈ later, ¬ next.Resolves) :
    (tunnel.after (earlier ++ call :: later)).noRelayPresent = true := by
  rw [after, List.foldl_append, List.foldl_cons]
  exact List.foldlRecOn (motive := fun t : DriadSourceTunnel => t.noRelayPresent = true) later _
    (noRelayPresent_of_withdraws _ hcall)
    fun _ hrun next hnext => noRelayPresent_of_not_resolves hrun (hlater next hnext)

/-- **The discipline of probing, over every run.**  The number of probes stays below the
configured limit, which is at least one; they share the rank that is being probed; the queue
is in the order of the ranks, without a relay twice or one that is being probed; an active
relay leaves neither probe nor candidate; and once the resolver has returned that no relay is
present there is none of the three until it returns candidates. -/
theorem probing_discipline (source : IpAddr) (protocol : MembershipProtocol) (ecn : Bool)
    (config : GatewayDriadConfig) (desired : MembershipReport) (now rebuiltAt : Instant)
    (calls : List Call) :
    let tunnel := (new source protocol ecn config desired now rebuiltAt).after calls
    (tunnel.maxConcurrentProbes = max config.maxConcurrentProbes 1 ∧
        tunnel.probes.length ≤ tunnel.maxConcurrentProbes) ∧
      (∀ probe ∈ tunnel.probes, some probe.candidate.rank = tunnel.currentRank) ∧
      (tunnel.pending.Pairwise fun a b => a.rank ≤ b.rank) ∧
      (tunnel.pending.map DriadCandidate.relay).Nodup ∧
      (∀ candidate ∈ tunnel.pending, ∀ probe ∈ tunnel.probes,
        candidate.relay ≠ probe.candidate.relay) ∧
      (tunnel.active.isSome → tunnel.probes = [] ∧ tunnel.pending = []) ∧
      ∀ earlier call later, calls = earlier ++ call :: later → call.Withdraws →
        (∀ next ∈ later, ¬ next.Resolves) →
          tunnel.active = none ∧ tunnel.probes = [] ∧ tunnel.pending = [] := by
  intro tunnel
  have h : tunnel.Disciplined _ :=
    (disciplined_new source protocol ecn config desired now rebuiltAt).after calls
  have hlimit : tunnel.maxConcurrentProbes = max config.maxConcurrentProbes 1 :=
    (after_maxConcurrentProbes _ calls).trans (QueueFrame.rebuildProbeQueue _ _).limit
  refine ⟨⟨hlimit, h.count⟩, h.rank, h.sorted, h.distinct, h.disjoint, h.active, ?_⟩
  rintro earlier call later rfl hcall hlater
  exact h.withdrawn (noRelayPresent_after _ hcall hlater)

end DriadSourceTunnel

end Amt

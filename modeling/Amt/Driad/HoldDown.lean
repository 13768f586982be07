import Amt.Driad.Probing
import Amt.Gateway.Run

/-!
# Hold-downs and the probe queue

A relay that reports load, or that delivers no traffic, is held down: its address, and the
address its advertisement named, go into `holdDowns` with a time of expiry, so that the next
rounds leave it alone.

* **A held relay is left out when the queue is built**; it is not taken out of a queue that
  exists, and `launchProbeIfDue` takes the first candidate of the queue without a look at
  `holdDowns`.
* **Which held relays can be in a queue** is the field `held` of the discipline: exactly those
  whose hold-down came, since the queue was built, from a probe that was *sent on* to that
  address and then found it loaded.  A probed candidate is not in the queue itself
  (`Disciplined.disjoint`), and when an active relay fails the queue is rebuilt at once.
* **The events of the run say when that was** (`LoadedThrough`): a Loaded answer to the probe of
  another candidate, with no rebuild behind it.

So a probe goes to a held relay exactly in that case (`launch_held_iff`), and the case occurs:
two relays of one tier, of which the first sends its clients on to the second.
-/

namespace Amt

namespace DriadSourceTunnel

variable {tunnel : DriadSourceTunnel} {loads : SocketAddr → Option Instant}

/-- A hold-down that has not expired. -/
def Unexpired (holds : BTreeMap SocketAddr Instant) (relay : SocketAddr) (now : Instant) : Prop :=
  ∃ expires, holds[relay]? = some expires ∧ now < expires

/-- The relay to which `launch_probe_if_due` starts a probe: a new probe stands behind those
that are under way. -/
def launchedRelay (tunnel : DriadSourceTunnel) (input : LaunchInput) : Option SocketAddr :=
  (tunnel.launchProbeIfDue input).1.probes[tunnel.probes.length]?.map
    fun probe => probe.candidate.relay

/-- A poll up to the time it comes to `launch_probe_if_due`. -/
def beforeLaunch (tunnel : DriadSourceTunnel) (input : PollInput) :
    Polled (Outcome TunnelIoError Bool) :=
  let refreshed := tunnel.pollRefresh input.refresh input.refreshedAt
  (refreshed.tunnel.pollProbes input.now input.probes).prepend refreshed.events

theorem Disciplined.beforeLaunch (h : tunnel.Disciplined loads) (input : PollInput) :
    (tunnel.beforeLaunch input).Disciplined loads := by
  have hrefreshed := h.pollRefresh input.refresh input.refreshedAt
  exact .prepend (DriadSourceTunnel.Disciplined.pollProbes hrefreshed _ _)

/-! ## Loaded answers since the queue was built -/

/-- The last probe since the queue was built that was sent on to a relay and found it loaded:
the candidate it was for, and the time of the answer. -/
def LoadedThrough (log : List SourceEvent) (probed relay : SocketAddr) (heldAt : Instant) : Prop :=
  ∃ earlier later, log = earlier ++ .loaded probed relay heldAt :: later ∧ probed ≠ relay ∧
    .rebuilt ∉ later ∧ ∀ other time, other ≠ relay → .loaded other relay time ∉ later

/-- The log read from its end. -/
theorem loadedThrough_append_singleton {log : List SourceEvent} {event : SourceEvent}
    {probed relay : SocketAddr} {heldAt : Instant} :
    LoadedThrough (log ++ [event]) probed relay heldAt ↔
      (event = .loaded probed relay heldAt ∧ probed ≠ relay) ∨
        (LoadedThrough log probed relay heldAt ∧ event ≠ .rebuilt ∧
          ∀ other time, other ≠ relay → event ≠ .loaded other relay time) := by
  constructor
  · rintro ⟨earlier, later, hlog, hother, hbuilt, hlast⟩
    rcases later.eq_nil_or_concat' with rfl | ⟨later, last, rfl⟩
    · obtain ⟨-, hevent⟩ := List.append_inj' hlog rfl
      exact .inl ⟨List.singleton_inj.mp hevent, hother⟩
    · rw [← List.cons_append, ← List.append_assoc] at hlog
      obtain ⟨rfl, hevent⟩ := List.append_inj' hlog rfl
      obtain rfl := List.singleton_inj.mp hevent
      simp only [List.mem_append, List.mem_singleton, not_or] at hbuilt hlast
      exact .inr ⟨⟨earlier, later, rfl, hother, hbuilt.1, fun other time hne =>
        (hlast other time hne).1⟩, Ne.symm hbuilt.2, fun other time hne =>
        Ne.symm (hlast other time hne).2⟩
  · rintro (⟨rfl, hother⟩ | ⟨⟨earlier, later, rfl, hother, hbuilt, hlast⟩, hkept, hnext⟩)
    · exact ⟨log, [], rfl, hother, List.not_mem_nil, fun _ _ _ => List.not_mem_nil⟩
    · refine ⟨earlier, later ++ [event], by simp, hother, ?_, ?_⟩
      · simp only [List.mem_append, List.mem_singleton, not_or]
        exact ⟨hbuilt, hkept.symm⟩
      · intro other time hne
        simp only [List.mem_append, List.mem_singleton, not_or]
        exact ⟨hlast other time hne, (hnext other time hne).symm⟩

/-- What `SourceEvent.redirect` reads off a log. -/
theorem redirect_eq_some_iff {log : List SourceEvent} {relay : SocketAddr} {heldAt : Instant} :
    (log.foldl SourceEvent.redirect fun _ => none) relay = some heldAt ↔
      ∃ probed, LoadedThrough log probed relay heldAt := by
  induction log using List.reverseRecOn with
  | nil => simp [LoadedThrough]
  | append_singleton log event ih =>
      simp only [List.foldl_append, List.foldl_cons, List.foldl_nil,
        loadedThrough_append_singleton]
      cases event with
      | rebuilt => simp [SourceEvent.redirect]
      | loaded probed advertised time =>
          by_cases hsent : advertised = relay ∧ probed ≠ relay
          · obtain ⟨rfl, hother⟩ := hsent
            rw [SourceEvent.redirect, if_pos ⟨rfl, hother⟩, Option.some.injEq]
            constructor
            · rintro rfl
              exact ⟨probed, .inl ⟨rfl, hother⟩⟩
            · rintro ⟨other, ⟨hsame, -⟩ | ⟨-, -, hlast⟩⟩
              · cases hsame
                rfl
              · exact absurd rfl (hlast probed time hother)
          · simp only [SourceEvent.redirect, if_neg hsent, ih]
            grind
      | activated interval => simp [SourceEvent.redirect, ih]
      | queried interval => simp [SourceEvent.redirect, ih]
      | changed => simp [SourceEvent.redirect, ih]
      | sent time => simp [SourceEvent.redirect, ih]
      | data => simp [SourceEvent.redirect, ih]

/-! ## The launch -/

/-- The probe that is opened, if one is, is the candidate's. -/
theorem relay_of_openProbe {candidate : DriadCandidate} {input : LaunchInput}
    {probe : DriadProbe}
    (h : (tunnel.openProbe candidate input).probes[tunnel.probes.length]? = some probe) :
    probe.candidate = candidate := by
  unfold openProbe at h
  dsimp only at h
  split at h
  · rw [List.getElem?_concat_length] at h
    rw [← Option.some.inj h]
  · simp at h

/-- A probe that is started is the one of a queued candidate, and its time has come. -/
theorem queued_of_launchNext (h : tunnel.Disciplined loads) {input : LaunchInput}
    {relay : SocketAddr}
    (hlaunched : ((tunnel.launchNext input).1.probes[tunnel.probes.length]?.map
      fun probe => probe.candidate.relay) = some relay) :
    (∃ candidate ∈ tunnel.pending, candidate.relay = relay) ∧ tunnel.nextProbeAt ≤ input.now := by
  obtain ⟨probe, hprobe, hrelay⟩ := Option.map_eq_some_iff.mp hlaunched
  rcases h.launchNext_cases input with ⟨-, rank, hsame⟩ |
    ⟨candidate, pending, rank, hpending, hdue, hopened, -⟩
  · rw [hsame] at hprobe
    simp at hprobe
  · rw [hopened] at hprobe
    refine ⟨⟨candidate, hpending ▸ List.mem_cons_self, ?_⟩, hdue⟩
    rw [← hrelay, relay_of_openProbe hprobe]

/-- A rebuild leaves out what is held at its time. -/
theorem not_unexpired_of_rebuilt {candidate : DriadCandidate} {rebuiltAt now : Instant}
    (hmem : candidate ∈ (tunnel.rebuildProbeQueue rebuiltAt).pending)
    (hdue : (tunnel.rebuildProbeQueue rebuiltAt).nextProbeAt ≤ now) :
    ¬ Unexpired tunnel.holdDowns candidate.relay now := by
  rintro ⟨expires, hheld, hnow⟩
  unfold rebuildProbeQueue at hmem hdue
  dsimp only at hmem hdue
  split at hmem
  · exact absurd hmem List.not_mem_nil
  · next hpresent =>
      rw [if_neg hpresent] at hdue
      have hnone := ((eligibleCandidates_spec _).2.2 candidate hmem).1
      rw [BTreeMap.getElem?_filter_eq, hheld] at hnone
      have hexpired : expires ≤ rebuiltAt := by simpa using hnone
      exact absurd (hexpired.trans hdue) (not_le.mpr hnow)

theorem rebuildProbeQueue_probes (tunnel : DriadSourceTunnel) (now : Instant) :
    (tunnel.rebuildProbeQueue now).probes = tunnel.probes := by
  unfold rebuildProbeQueue
  dsimp only
  split <;> rfl

/-- **A probe goes to a held relay exactly if it was in the queue**, and a probe of another
candidate was sent on to it and found it loaded. -/
theorem Disciplined.unexpired_iff (h : tunnel.Disciplined loads) {input : LaunchInput}
    {relay : SocketAddr} (hlaunched : tunnel.launchedRelay input = some relay) :
    Unexpired tunnel.holdDowns relay input.now ↔
      (∃ candidate ∈ tunnel.pending, candidate.relay = relay) ∧
        ∃ heldAt, loads relay = some heldAt ∧ input.now < heldAt + tunnel.relayHoldDown := by
  unfold launchedRelay DriadSourceTunnel.launchProbeIfDue at hlaunched
  split at hlaunched
  · obtain ⟨⟨candidate, hqueued, rfl⟩, -⟩ := queued_of_launchNext h hlaunched
    rw [Unexpired, h.held candidate hqueued]
    simp only [Option.map_eq_some_iff, exists_exists_and_eq_and]
    exact (and_iff_right ⟨candidate, hqueued, rfl⟩).symm
  · next retryAt hretry =>
      obtain ⟨hactive, -, hpending⟩ := h.waiting (by rw [hretry]; rfl)
      split at hlaunched
      · simp at hlaunched
      · have hrebuilt := h.rebuildProbeQueue input.rebuiltAt hactive
        dsimp only at hlaunched
        rw [← rebuildProbeQueue_probes tunnel input.rebuiltAt] at hlaunched
        obtain ⟨⟨candidate, hqueued, rfl⟩, hdue⟩ := queued_of_launchNext hrebuilt hlaunched
        refine iff_of_false (not_unexpired_of_rebuilt hqueued hdue) ?_
        simp [hpending]

/-- **Hold-downs and probes, over every run.**  Of the probes that `launch_probe_if_due` starts
in any poll of any run, those to a relay with an unexpired hold-down are those to a relay that
stood in the queue already, where a probe of another candidate was sent on to it since the
queue was last built, found it loaded, and the hold-down of that answer lasts. -/
theorem launch_held_iff (source : IpAddr) (protocol : MembershipProtocol) (ecn : Bool)
    (config : GatewayDriadConfig) (desired : MembershipReport) (now rebuiltAt : Instant)
    (calls : List Call) (input : PollInput) (relay : SocketAddr) :
    let start := new source protocol ecn config desired now rebuiltAt
    let before := (start.after calls).beforeLaunch input
    before.tunnel.launchedRelay input.launch = some relay →
      (Unexpired before.tunnel.holdDowns relay input.launch.now ↔
        (∃ candidate ∈ before.tunnel.pending, candidate.relay = relay) ∧
          ∃ probed heldAt, LoadedThrough (start.trace calls ++ before.events) probed relay heldAt ∧
            input.launch.now < heldAt + before.tunnel.relayHoldDown) := by
  intro start before hlaunched
  have hrun : start.Disciplined fun _ => none :=
    disciplined_new source protocol ecn config desired now rebuiltAt
  have hbefore : before.tunnel.Disciplined
      ((start.trace calls ++ before.events).foldl SourceEvent.redirect fun _ => none) := by
    rw [List.foldl_append]
    exact (hrun.after calls).beforeLaunch input
  rw [hbefore.unexpired_iff hlaunched]
  simp only [redirect_eq_some_iff]
  grind

/-! ## A relay that is queued under its own name -/

/-- Two relays of one tier, by the last octet of their address. -/
def tierRelay (host : UInt8) : SocketAddr := .v4 (.new 192 0 2 host) amtPort

def tierSelection (host : UInt8) : DriadRelaySelection where
  source := .v4 (.new 198 51 100 7)
  queryName := "7.100.51.198.in-addr.arpa"
  record :=
    { precedence := 10
      discoveryOptional := false
      target := .ipv4 (.new 192 0 2 host) }
  relay := tierRelay host
  ttl := Duration.fromSecs 60

def tierTunnel : DriadSourceTunnel :=
  .new (.v4 (.new 198 51 100 7)) .igmpv3 false .default { protocol := .igmpv3, records := [] } 0 0

/-- An answer that leaves at a given time. -/
def answeringAt (now : Instant) : Answering where
  sent := true
  refreshedAt := now
  deadlineFrom := now
  random := none

/-- A poll at one time, with what the resolver and the probes' sockets have. -/
def pollAt (now : Instant) (refresh : DriadPoll) (received : SocketAddr → List Received) :
    PollInput where
  configuredRefreshInterval := Duration.fromSecs 60
  refresh
  refreshedAt := now
  active := { now, later := now, nonce := .first, requestSent := true, received := [] }
  failed := { heldAt := now, rebuiltAt := now }
  now
  probes relay := { received := received relay, heldAt := now, activation := answeringAt now }
  launch :=
    { now
      rebuiltAt := now
      opened := true
      discoverySent := true
      discoveryNonce := .first
      requestNonce := .second }
  scheduledAt := now
  random := none

/-- The Query of a relay that asks new clients to go elsewhere. -/
def loadedQuery : Message :=
  .membershipQuery ⟨.zero 6⟩ 2 true none
    (match (buildIgmpv3GeneralQuery .forAmt : Outcome Unit Bytes) with
      | .ok query => query
      | _ => [])

/-- The first relay names an address, and the relay there reports load. -/
def loadedAt (actual relay : SocketAddr) : List Received :=
  if relay = tierRelay 1 then
    [.datagram (tierRelay 1) (encode (.relayAdvertisement 1 actual.ip)) .notEct
        (answeringAt (Duration.fromMillis 100)),
      .datagram actual (encode loadedQuery) .notEct (answeringAt (Duration.fromMillis 100))]
  else []

/-- The resolver returns both relays, and the first is probed. -/
def firstPoll : PollInput :=
  pollAt 0 (.resolved (.ok [tierSelection 1, tierSelection 2])) fun _ => []

/-- A tenth of a second later the probe is answered. -/
def secondPoll (actual : SocketAddr) : PollInput :=
  pollAt (Duration.fromMillis 100) .idle (loadedAt actual)

/-- The next probe is due. -/
def thirdPoll : PollInput := pollAt (Duration.fromMillis 250) .idle fun _ => []

/-- The third poll, after the first relay named the given one. -/
def namedBefore (actual : SocketAddr) : Polled (Outcome TunnelIoError Bool) :=
  (tierTunnel.after [.poll firstPoll, .poll (secondPoll actual)]).beforeLaunch thirdPoll

/-- The events of the run up to there. -/
def namedLog (actual : SocketAddr) : List SourceEvent :=
  tierTunnel.trace [.poll firstPoll, .poll (secondPoll actual)] ++ (namedBefore actual).events

theorem namedLog_eq : namedLog (tierRelay 2) =
    [.rebuilt, .loaded (tierRelay 1) (tierRelay 2) (Duration.fromMillis 100)] := by
  decide +kernel

theorem namedBefore_launchedRelay :
    (namedBefore (tierRelay 1)).tunnel.launchedRelay thirdPoll.launch = some (tierRelay 2) ∧
      (namedBefore (tierRelay 2)).tunnel.launchedRelay thirdPoll.launch = some (tierRelay 2) := by
  decide +kernel

/-- The second relay reports load when the probe of the first reaches it, and is probed all
the same a moment later, though it is held down for ten minutes. -/
theorem launch_held_redirected :
    ∃ (tunnel : DriadSourceTunnel) (relay : SocketAddr),
      tunnel = (namedBefore (tierRelay 2)).tunnel ∧
        Unexpired tunnel.holdDowns relay thirdPoll.launch.now ∧
        tunnel.launchedRelay thirdPoll.launch = some relay := by
  refine ⟨_, tierRelay 2, rfl, ⟨Duration.fromMillis 100 + Duration.fromSecs 600, ?_, ?_⟩,
    namedBefore_launchedRelay.2⟩
  · decide +kernel
  · decide

/-- The same two runs of one tier: the relay probed third is held where the first one named it,
and not where the first one was loaded itself, though that one is held. -/
theorem launch_held_named :
    Unexpired (namedBefore (tierRelay 2)).tunnel.holdDowns (tierRelay 2) thirdPoll.launch.now ∧
      Unexpired (namedBefore (tierRelay 1)).tunnel.holdDowns (tierRelay 1) thirdPoll.launch.now ∧
      ¬ Unexpired (namedBefore (tierRelay 1)).tunnel.holdDowns (tierRelay 2)
        thirdPoll.launch.now := by
  have hiff (actual : SocketAddr) := launch_held_iff (.v4 (.new 198 51 100 7)) .igmpv3 false
    .default { protocol := .igmpv3, records := [] } 0 0 [.poll firstPoll, .poll (secondPoll actual)]
    thirdPoll (tierRelay 2)
  refine ⟨(hiff (tierRelay 2) namedBefore_launchedRelay.2).mpr ⟨?_, tierRelay 1,
    Duration.fromMillis 100, ?_, ?_⟩, ⟨Duration.fromMillis 100 + Duration.fromSecs 600, ?_, ?_⟩,
    (hiff (tierRelay 1) namedBefore_launchedRelay.1).not.mpr ?_⟩
  · decide +kernel
  · exact ⟨[.rebuilt], [], namedLog_eq, by decide, List.not_mem_nil, fun _ _ _ => List.not_mem_nil⟩
  · decide +kernel
  · decide +kernel
  · decide
  · rintro ⟨-, probed, heldAt, hloaded, -⟩
    have hread := redirect_eq_some_iff.mpr ⟨probed, hloaded⟩
    have hnone : (namedLog (tierRelay 1)).foldl SourceEvent.redirect (fun _ => none)
        (tierRelay 2) = none := by
      decide +kernel
    exact absurd (hnone.symm.trans hread) nofun

end DriadSourceTunnel

end Amt

import Amt.Driad.Probing
import Amt.Gateway.Run

/-!
# The life of an active relay, as a trace

Two fields of an active tunnel decide when it acts next: `effective_refresh_interval`, taken
from the relay's last Membership Query, and `traffic_deadline`, by which data must have come.
They are written in several places (on activation, by each Query, by each membership that is
sent, by data), and what they hold depends on the whole run.

The **trace** of a run lists what was written and when, in order.  The two fields can be read
off it (`traced_after`), and a question about a run is a question about a list of events:

* the interval is the one of the last event that advertises one;
* the deadline is a traffic timeout after the last membership sent, unless data has come since,
  **no matter how many memberships were sent before**.  The timeout is drawn, and the trace
  says nothing of the draw: the deadline lies between the shortest timeout that can be drawn
  and the longest (`Awaits`).

The relay of an active tunnel has an endpoint throughout, so that a query cycle can always be
begun.
-/

namespace Amt

open Gateway (Effect)

/-! ## The draw of a traffic timeout -/

/-- A drawn delay is in the range of whole milliseconds between its bounds. -/
theorem randomizedDurationBetween_mem (lower upper : Duration) (random : Option UInt64) :
    Duration.fromMillis lower.asMillisSaturating ≤ randomizedDurationBetween lower upper random ∧
      randomizedDurationBetween lower upper random
        ≤ Duration.fromMillis (Duration.asMillisSaturating (max upper lower)) := by
  have hends : lower.asMillisSaturating ≤ Duration.asMillisSaturating (max upper lower) := by
    refine min_le_min_right _ (Nat.div_le_div_right ?_)
    exact le_max_right upper lower
  have hlower : lower.asMillisSaturating ≤ u64Max := min_le_right _ _
  unfold randomizedDurationBetween
  dsimp only
  generalize lower.asMillisSaturating = lowerMs at hends hlower ⊢
  generalize Duration.asMillisSaturating (max upper lower) = upperMs at hends ⊢
  generalize (random.map UInt64.toNat).getD upperMs = drawn
  have hspan : 0 < min (upperMs - lowerMs + 1) u64Max := lt_min (Nat.succ_pos _) (by decide)
  have hdrawn : drawn % min (upperMs - lowerMs + 1) u64Max < upperMs - lowerMs + 1 :=
    (Nat.mod_lt drawn hspan).trans_le (min_le_left _ _)
  constructor
  · exact Nat.mul_le_mul_right _ (le_min (Nat.le_add_right _ _) hlower)
  · exact Nat.mul_le_mul_right _ ((min_le_left _ _).trans (by omega))

namespace DriadSourceTunnel

/-- The shortest time a relay is given, in whole milliseconds. -/
def shortestTrafficTimeout (tunnel : DriadSourceTunnel) : Duration :=
  Duration.fromMillis tunnel.initialTrafficTimeout.asMillisSaturating

/-- It grows with the number of relays that delivered nothing. -/
def longestTrafficTimeout (tunnel : DriadSourceTunnel) : Duration :=
  Duration.fromMillis
    (Duration.asMillisSaturating (max tunnel.upperTrafficTimeout tunnel.initialTrafficTimeout))

/-- A deadline for the traffic that is awaited from a time on. -/
def Awaits (tunnel : DriadSourceTunnel) (deadline time : Instant) : Prop :=
  time + tunnel.shortestTrafficTimeout ≤ deadline ∧ deadline ≤ time + tunnel.longestTrafficTimeout

theorem awaits_nextTrafficTimeout (tunnel : DriadSourceTunnel) (time : Instant)
    (random : Option UInt64) : tunnel.Awaits (time + tunnel.nextTrafficTimeout random) time := by
  obtain ⟨hshortest, hlongest⟩ := randomizedDurationBetween_mem tunnel.initialTrafficTimeout
    tunnel.upperTrafficTimeout random
  exact ⟨Nat.add_le_add_left hshortest _, Nat.add_le_add_left hlongest _⟩

end DriadSourceTunnel

/-! ## Reading the events -/

/-- What the events say of an active relay: the interval it advertised, and when the
membership was sent for which traffic is awaited. -/
structure Watch where
  interval : Duration
  sentAt : Option Instant

/-- What an event adds. -/
def Watch.apply (watch : Watch) : SourceEvent → Watch
  | .activated interval => ⟨interval, none⟩
  | .queried interval => { watch with interval }
  | .sent time => { watch with sentAt := some time }
  | .data => { watch with sentAt := none }
  | .rebuilt | .loaded _ _ _ | .changed => watch

/-- The events of a `send_driad_desired`, by its outcome. -/
def Answering.outcomeEvents (answering : Answering) : Outcome TunnelIoError Bool → List SourceEvent
  | .ok sent => answering.sentEvents sent
  | .err _ | .panic => []

namespace DriadSourceTunnel

theorem trace_append (start : DriadSourceTunnel) (earlier later : List Call) :
    start.trace (earlier ++ later) = start.trace earlier ++ (start.after earlier).trace later := by
  induction earlier generalizing start with
  | nil => rfl
  | cons call earlier ih =>
      rw [List.cons_append, trace, trace, ih, List.append_assoc]
      rfl

/-! ## The active part, operation by operation -/

/-- The active part is as the events say, and its relay has an endpoint. -/
structure Watched (tunnel : DriadSourceTunnel) (active : ActiveDriadTunnel) (watch : Watch) :
    Prop where
  interval : active.effectiveRefreshInterval = watch.interval
  deadline : Option.Rel tunnel.Awaits active.trafficDeadline watch.sentAt
  linked : active.gateway.relayEndpoint.isSome = true

namespace Watched

variable {tunnel : DriadSourceTunnel} {active : ActiveDriadTunnel} {watch : Watch}

/-- The tunnel matters for the range of its timeouts alone. -/
theorem congr (h : Watched tunnel active watch) {tunnel' : DriadSourceTunnel}
    (hinitial : tunnel'.initialTrafficTimeout = tunnel.initialTrafficTimeout)
    (hmaximum : tunnel'.maximumTrafficTimeout = tunnel.maximumTrafficTimeout)
    (hattempt : tunnel'.trafficRetryAttempt = tunnel.trafficRetryAttempt) :
    Watched tunnel' active watch := by
  have hupper : tunnel'.upperTrafficTimeout = tunnel.upperTrafficTimeout := by
    rw [upperTrafficTimeout, hinitial, hmaximum, hattempt, upperTrafficTimeout]
  have hawaits : tunnel'.Awaits = tunnel.Awaits := by
    funext deadline time
    rw [Awaits, shortestTrafficTimeout, longestTrafficTimeout, hinitial, hupper]
    rfl
  refine ⟨h.interval, ?_, h.linked⟩
  rw [hawaits]
  exact h.deadline

/-- A call of the gateway, if it is not a restart. -/
theorem of_effect (h : Watched tunnel active watch) {op : GatewayOp}
    {outcome : Outcome GatewayError (Option GatewayAction)} {gateway : Gateway}
    (heffect : active.gateway.Effect op outcome gateway)
    (hop : ∀ discoveryNonce requestNonce, op ≠ .restartDiscovery discoveryNonce requestNonce) :
    Watched tunnel { active with gateway } watch := by
  refine ⟨h.interval, h.deadline, ?_⟩
  have hlinked := h.linked
  cases heffect with
  | refused | observed | received | queried | reported | idle | cycled | candidates =>
      exact hlinked
  | advertised => rfl
  | restarted => exact absurd rfl (hop _ _)

theorem handleDatagram (h : Watched tunnel active watch) (peer : SocketAddr) (bytes : Bytes)
    (outerEcn : EcnCodepoint) :
    Watched tunnel
      { active with gateway := (active.gateway.handleDatagramWithEcn peer bytes outerEcn).1 }
      watch :=
  h.of_effect (active.gateway.effect_handleDatagramWithEcn peer bytes outerEcn)
    fun _ _ => by rintro ⟨⟩

/-- Sending the membership starts the wait for traffic. -/
theorem sendDesired (h : Watched tunnel active watch) (desired : MembershipReport)
    (answering : Answering) :
    Watched tunnel
      (active.sendDesired desired answering (tunnel.nextTrafficTimeout answering.random)).1
      ((answering.outcomeEvents (active.sendDesired desired answering
        (tunnel.nextTrafficTimeout answering.random)).2).foldl Watch.apply watch) := by
  have hgateway : Watched tunnel
      { active with gateway := (active.gateway.replaceMemberships desired).1 } watch :=
    h.of_effect (active.gateway.effect_callMembership (.replace desired)) fun _ _ => by rintro ⟨⟩
  unfold ActiveDriadTunnel.sendDesired
  generalize active.gateway.replaceMemberships desired = replaced at hgateway ⊢
  obtain ⟨gateway, outcome⟩ := replaced
  rcases outcome with (_ | action) | error | _
  · exact hgateway
  · dsimp only
    split
    · exact ⟨hgateway.interval, .some (tunnel.awaits_nextTrafficTimeout _ _), hgateway.linked⟩
    · exact hgateway
  · exact hgateway
  · exact hgateway

/-- A new cycle changes neither the interval nor the deadline. -/
theorem beginRefresh (h : Watched tunnel active watch) (now : Instant) (nonce : Nonce)
    (requestSent : Bool) (configured : Duration) :
    Watched tunnel (active.beginRefresh now nonce requestSent configured).1 watch := by
  have hgateway : Watched tunnel
      { active with gateway := (active.gateway.beginQueryCycle nonce).1 } watch :=
    h.of_effect (active.gateway.effect_call (.beginQueryCycle nonce)) fun _ _ => by rintro ⟨⟩
  unfold ActiveDriadTunnel.beginRefresh
  split
  · generalize active.gateway.beginQueryCycle nonce = begun at hgateway ⊢
    obtain ⟨gateway, outcome⟩ := begun
    cases outcome with
    | ok action =>
        dsimp only
        split
        · exact ⟨hgateway.interval, hgateway.deadline, hgateway.linked⟩
        · exact hgateway
    | err error => exact hgateway
    | panic => exact hgateway
  · exact h

/-- Everything the socket brings, by induction over the budget. -/
theorem pollActiveLoop (h : Watched tunnel active watch) (now later : Instant) (budget : ℕ)
    (madeProgress : Bool) (received : List Received) :
    let polled := DriadSourceTunnel.pollActiveLoop now later budget tunnel active madeProgress
      received
    Watched polled.tunnel polled.active (polled.events.foldl Watch.apply watch) := by
  induction budget generalizing tunnel active watch madeProgress received with
  | zero => exact h
  | succ budget ih =>
      rcases received with _ | ⟨_ | ⟨peer, bytes, outerEcn, answering⟩, received⟩
      · exact h
      · exact h
      · have hgateway := h.handleDatagram peer bytes outerEcn
        unfold DriadSourceTunnel.pollActiveLoop
        generalize active.gateway.handleDatagramWithEcn peer bytes outerEcn = handled
          at hgateway ⊢
        obtain ⟨gateway, outcome⟩ := handled
        rcases outcome with action | error | _
        · cases action with
          | send destination datagram =>
              dsimp only
              split
              · exact ih hgateway _ _
              · exact hgateway
          | membershipQuery responseMac limit endpoint query queryInterval previous =>
              dsimp only
              split
              · exact hgateway
              · have hqueried : Watched tunnel
                    { active with
                      gateway
                      effectiveRefreshInterval := queryInterval
                      queryCycleStarted := none } (watch.apply (.queried queryInterval)) :=
                  ⟨rfl, hgateway.deadline, hgateway.linked⟩
                have hsent := hqueried.sendDesired tunnel.desired answering
                generalize ActiveDriadTunnel.sendDesired _ tunnel.desired answering
                  (tunnel.nextTrafficTimeout answering.random) = sent at hsent ⊢
                obtain ⟨active', outcome⟩ := sent
                cases outcome with
                | ok didSend =>
                    dsimp only
                    rw [List.foldl_append, List.foldl_cons]
                    exact ih hsent _ _
                | err error => exact hsent
                | panic => exact hsent
          | multicastData packet ecn =>
              have hdata : Watched { tunnel with trafficRetryAttempt := 0 }
                  { active with gateway, trafficDeadline := none } (watch.apply .data) :=
                ⟨hgateway.interval, .none, hgateway.linked⟩
              exact ih hdata _ _
          | droppedEcn ecn packetLen => exact ih hgateway _ _
          | ignored => exact ih hgateway _ _
        · exact ih hgateway _ _
        · exact hgateway

theorem pollActive (h : Watched tunnel active watch) (input : ActiveInput)
    (configured : Duration) :
    let polled := tunnel.pollActive active input configured
    Watched polled.tunnel polled.active (polled.events.foldl Watch.apply watch) := by
  have hbegun := h.beginRefresh input.now input.nonce input.requestSent configured
  unfold DriadSourceTunnel.pollActive
  generalize active.beginRefresh input.now input.nonce input.requestSent configured = begun
    at hbegun ⊢
  obtain ⟨active', outcome⟩ := begun
  cases outcome with
  | ok progress => exact hbegun.pollActiveLoop _ _ _ _ _
  | err error => exact hbegun
  | panic => exact hbegun

end Watched

/-! ## The tunnel around it -/

/-- The active part, if there is one, is as the events say. -/
def Traced (tunnel : DriadSourceTunnel) (events : List SourceEvent) : Prop :=
  ∀ active, tunnel.active = some active →
    Watched tunnel active (events.foldl Watch.apply ⟨0, none⟩)

theorem traced_of_none {tunnel : DriadSourceTunnel} (h : tunnel.active = none)
    (events : List SourceEvent) : tunnel.Traced events := by
  intro active hactive
  rw [h] at hactive
  cases hactive

/-- What a gateway does something about comes from a relay with an endpoint. -/
theorem relayEndpoint_of_handled {gateway gateway' : Gateway} {peer : SocketAddr} {bytes : Bytes}
    {outerEcn : EcnCodepoint} {action : GatewayAction}
    (h : gateway.handleDatagramWithEcn peer bytes outerEcn = (gateway', .ok action))
    (haction : action ≠ .ignored) : gateway'.relayEndpoint.isSome = true := by
  have hmessage : ∃ message,
      gateway.handleMessage peer outerEcn message = (gateway', .ok action) := by
    unfold Gateway.handleDatagramWithEcn at h
    dsimp only at h
    split at h
    · cases h
    · split at h
      · cases h
      · cases h
      · exact ⟨_, h⟩
  obtain ⟨message, hmessage⟩ := hmessage
  cases message with
  | relayAdvertisement nonce address =>
      simp only [Gateway.handleMessage, Gateway.handleAdvertisement] at hmessage
      repeat' split at hmessage
      all_goals cases hmessage
      rfl
  | membershipQuery mac nonce limit endpoint query =>
      simp only [Gateway.handleMessage, Gateway.handleQuery] at hmessage
      cases hrelay : gateway.relayEndpoint with
      | none =>
          rw [hrelay] at hmessage
          cases hmessage
      | some relay =>
          rw [hrelay] at hmessage
          dsimp only at hmessage
          repeat' split at hmessage
          all_goals cases hmessage
          rfl
  | multicastData packet =>
      simp only [Gateway.handleMessage, Gateway.handleData] at hmessage
      split at hmessage
      · cases hmessage
      · next hrelay =>
          have hsome : gateway.relayEndpoint.isSome = true := by
            simpa [Option.isSome_iff_ne_none] using hrelay
          repeat' split at hmessage
          all_goals
            obtain ⟨rfl, -⟩ := Prod.mk.inj hmessage
            exact hsome
  | relayDiscovery | request | membershipUpdate | teardown =>
      cases hmessage
      exact absurd rfl haction

/-- So does a probe that wins. -/
theorem relayEndpoint_of_winner {budget : ℕ} {probe probe' : DriadProbe} {progress : Bool}
    {received : List Received} {interval : Duration} {previous : Option GatewaySend}
    (h : DriadProbe.pollLoop budget probe progress received
      = (probe', .ok (.winner interval previous))) :
    probe'.gateway.relayEndpoint.isSome = true := by
  induction budget generalizing probe progress received with
  | zero => cases h
  | succ budget ih =>
      rcases received with _ | ⟨_ | ⟨peer, bytes, outerEcn, answering⟩, received⟩
      · cases h
      · cases h
      · unfold DriadProbe.pollLoop at h
        rcases hhandled : probe.gateway.handleDatagramWithEcn peer bytes outerEcn with
          ⟨gateway, action | error | _⟩ <;> rw [hhandled] at h
        · cases action with
          | send destination datagram =>
              dsimp only at h
              split at h
              · exact ih h
              · cases h
          | membershipQuery responseMac limit endpoint query queryInterval teardown =>
              dsimp only at h
              split at h
              · cases h
              · obtain ⟨rfl, -⟩ := Prod.mk.inj h
                exact relayEndpoint_of_handled hhandled (by rintro ⟨⟩)
          | multicastData packet ecn => exact ih h
          | droppedEcn ecn packetLen => exact ih h
          | ignored => exact ih h
        · exact ih h
        · cases h

/-- **One probe.**  It leaves the active part alone, or it wins, and then the active part is
what its own events say, whatever was before. -/
theorem pollProbe_cases (tunnel : DriadSourceTunnel) (now : Instant) (index : ℕ)
    (probe : DriadProbe) (input : ProbeInput) :
    let turn := tunnel.pollProbe now index probe input
    (turn.result ≠ .ok .activated ∧ turn.tunnel.active = tunnel.active) ∨
      (turn.result = .ok .activated ∧
        ∀ earlier, turn.tunnel.Traced (earlier ++ turn.events)) := by
  rcases hpolled : probe.poll input.received with ⟨probe', poll | error | _⟩ <;>
    unfold pollProbe <;> rw [hpolled]
  · cases poll with
    | pending progress =>
        refine .inl ?_
        dsimp only
        split
        · exact ⟨by simp, rfl⟩
        · exact ⟨by simp, rfl⟩
    | loaded relay => exact .inl ⟨by simp, rfl⟩
    | failed => exact .inl ⟨by simp, rfl⟩
    | winner queryInterval previous =>
        have hwon : Watched tunnel
            { candidate := probe.candidate
              gateway := probe'.gateway
              effectiveRefreshInterval := queryInterval
              queryCycleStarted := none
              lastMembershipRefresh := now
              trafficDeadline := none } ⟨queryInterval, none⟩ :=
          ⟨rfl, .none, relayEndpoint_of_winner hpolled⟩
        have hsent := hwon.sendDesired tunnel.desired input.activation
        dsimp only
        generalize ActiveDriadTunnel.sendDesired _ tunnel.desired input.activation
          (tunnel.nextTrafficTimeout input.activation.random) = sent at hsent ⊢
        obtain ⟨active, outcome⟩ := sent
        cases outcome with
        | ok didSend =>
            refine .inr ⟨rfl, fun earlier active' hactive' => ?_⟩
            obtain rfl := Option.some.inj hactive'
            rw [List.foldl_append, List.foldl_cons]
            exact hsent.congr rfl rfl rfl
        | err error => exact .inl ⟨by simp, rfl⟩
        | panic => exact .inl ⟨by simp, rfl⟩
  · exact .inl ⟨by simp, rfl⟩
  · exact .inl ⟨by simp, rfl⟩

/-- The loop leaves an active relay only with the events that announce it. -/
theorem traced_pollProbesLoop (now : Instant) (inputs : SocketAddr → ProbeInput)
    (turns index : ℕ) (madeProgress : Bool) (tunnel : DriadSourceTunnel)
    (hactive : tunnel.active = none) (earlier : List SourceEvent) :
    (pollProbesLoop now inputs turns index madeProgress tunnel).tunnel.Traced
      (earlier ++ (pollProbesLoop now inputs turns index madeProgress tunnel).events) := by
  induction turns generalizing index madeProgress tunnel earlier with
  | zero => exact traced_of_none hactive _
  | succ turns ih =>
      unfold pollProbesLoop
      cases hprobe : tunnel.probes[index]? with
      | none => exact traced_of_none hactive _
      | some probe =>
          dsimp only
          have hcases := tunnel.pollProbe_cases now index probe (inputs probe.candidate.relay)
          generalize tunnel.pollProbe now index probe (inputs probe.candidate.relay) = turn
            at hcases ⊢
          obtain ⟨tunnel', outcome, events⟩ := turn
          rcases hcases with ⟨hnot, hsame⟩ | ⟨hactivated, htraced⟩
          · have hnone : tunnel'.active = none := hsame.trans hactive
            rcases outcome with turn | error | _
            · cases turn with
              | stays progress =>
                  dsimp only
                  rw [← List.append_assoc]
                  exact ih _ _ _ hnone _
              | removed =>
                  dsimp only
                  rw [← List.append_assoc]
                  exact ih _ _ _ hnone _
              | activated => exact absurd rfl hnot
            · exact traced_of_none hnone _
            · exact traced_of_none hnone _
          · obtain rfl : outcome = .ok .activated := hactivated
            exact htraced earlier

/-! ### Calls and runs -/

theorem Traced.congr {tunnel tunnel' : DriadSourceTunnel} {events : List SourceEvent}
    (h : tunnel.Traced events) (hframe : QueueFrame tunnel tunnel') : tunnel'.Traced events := by
  intro active hactive
  exact (h active (hframe.active ▸ hactive)).congr hframe.initial hframe.maximum hframe.attempt

/-- A rebuild of the queue is no event of the active part. -/
theorem Traced.rebuilt {tunnel : DriadSourceTunnel} {events : List SourceEvent}
    (h : tunnel.Traced events) : tunnel.Traced (events ++ [.rebuilt]) := by
  intro active hactive
  rw [List.foldl_append]
  exact h active hactive

theorem Traced.launchProbeIfDue {tunnel : DriadSourceTunnel} {events : List SourceEvent}
    (h : tunnel.Traced events) (input : LaunchInput) :
    (tunnel.launchProbeIfDue input).tunnel.Traced
      (events ++ (tunnel.launchProbeIfDue input).events) := by
  unfold DriadSourceTunnel.launchProbeIfDue
  split
  · rw [List.append_nil]
    exact h.congr (QueueFrame.launchNext _ _)
  · split
    · rw [List.append_nil]
      exact h
    · exact (h.congr ((QueueFrame.rebuildProbeQueue _ _).trans (QueueFrame.launchNext _ _))).rebuilt

theorem traced_pollProbing {tunnel : DriadSourceTunnel} (hactive : tunnel.active = none)
    (input : PollInput) (earlier : List SourceEvent) :
    (tunnel.pollProbing input).tunnel.Traced (earlier ++ (tunnel.pollProbing input).events) := by
  have hpolled : (tunnel.pollProbes input.now input.probes).tunnel.Traced
      (earlier ++ (tunnel.pollProbes input.now input.probes).events) :=
    traced_pollProbesLoop input.now input.probes tunnel.probes.length 0 false tunnel hactive earlier
  unfold pollProbing
  dsimp only
  split
  · rw [← List.append_assoc]
    exact (hpolled.launchProbeIfDue _).congr (QueueFrame.scheduleNextRoundIfExhausted _ _ _)
  · exact hpolled
  · exact hpolled

theorem Traced.pollEstablished {tunnel : DriadSourceTunnel} {active : ActiveDriadTunnel}
    {earlier : List SourceEvent} (h : tunnel.Traced earlier)
    (hactive : tunnel.active = some active) (input : PollInput) :
    (tunnel.pollEstablished active input).tunnel.Traced
      (earlier ++ (tunnel.pollEstablished active input).events) := by
  have hresting : Watched { tunnel with active := none } active _ :=
    (h active hactive).congr rfl rfl rfl
  have hpolled := hresting.pollActive input.active input.configuredRefreshInterval
  obtain ⟨⟨attempt, htunnel⟩, -⟩ := leavesQueue_pollActive { tunnel with active := none } active
    input.active input.configuredRefreshInterval
  have hnone : ({ tunnel with active := none }.pollActive active input.active
      input.configuredRefreshInterval).tunnel.active = none := by
    rw [htunnel]
  unfold DriadSourceTunnel.pollEstablished
  dsimp only
  split
  · intro active' hactive'
    obtain rfl := Option.some.inj hactive'
    rw [List.foldl_append]
    exact hpolled.congr rfl rfl rfl
  · exact traced_of_none ((LaunchFrame.failActive _ _ _ _).active.trans hnone) _
  · exact traced_of_none hnone _
  · exact traced_of_none hnone _

theorem Traced.pollRefresh {tunnel : DriadSourceTunnel} {earlier : List SourceEvent}
    (h : tunnel.Traced earlier) (refresh : DriadPoll) (now : Instant) :
    (tunnel.pollRefresh refresh now).tunnel.Traced
      (earlier ++ (tunnel.pollRefresh refresh now).events) := by
  unfold DriadSourceTunnel.pollRefresh
  split
  · rw [List.append_nil]
    exact h
  · rw [List.append_nil]
    exact h
  · next selections =>
      have hresolved : { tunnel with
          dnsCandidates := selections, noRelayPresent := false }.Traced earlier :=
        fun active hactive => (h active hactive).congr rfl rfl rfl
      dsimp only
      split
      · exact (hresolved.congr (QueueFrame.rebuildProbeQueue _ _)).rebuilt
      · rw [List.append_nil]
        exact hresolved
  · exact traced_of_none rfl _
  · rw [List.append_nil]
    exact h

theorem Traced.poll {tunnel : DriadSourceTunnel} {earlier : List SourceEvent}
    (h : tunnel.Traced earlier) (input : PollInput) :
    (tunnel.poll input).tunnel.Traced (earlier ++ (tunnel.poll input).events) := by
  have hrefreshed := h.pollRefresh input.refresh input.refreshedAt
  unfold DriadSourceTunnel.poll
  dsimp only
  rw [← List.append_assoc]
  cases hactive : (tunnel.pollRefresh input.refresh input.refreshedAt).tunnel.active with
  | some active => exact hrefreshed.pollEstablished hactive input
  | none => exact traced_pollProbing hactive input _

theorem Traced.setDesired {tunnel : DriadSourceTunnel} {earlier : List SourceEvent}
    (h : tunnel.Traced earlier) (desired : MembershipReport) (answering : Answering)
    (failed : FailInput) :
    (tunnel.setDesired desired answering failed).tunnel.Traced
      (earlier ++ (tunnel.setDesired desired answering failed).events) := by
  unfold DriadSourceTunnel.setDesired
  split
  · rw [List.append_nil]
    exact h
  · dsimp only
    split
    · next hactive =>
        have hnone : ({ tunnel with desired } : DriadSourceTunnel).active = none := hactive
        exact traced_of_none hnone _
    · next active hactive =>
        have hchanged : Watched { tunnel with desired } active _ :=
          (h active hactive).congr rfl rfl rfl
        have hsent := hchanged.sendDesired desired answering
        generalize active.sendDesired desired answering
          ({ tunnel with desired }.nextTrafficTimeout answering.random) = sent at hsent ⊢
        obtain ⟨active', outcome⟩ := sent
        cases outcome with
        | ok didSend =>
            intro active'' hactive''
            obtain rfl := Option.some.inj hactive''
            rw [List.foldl_append, List.foldl_cons]
            exact hsent.congr rfl rfl rfl
        | err error => exact traced_of_none (LaunchFrame.failActive _ _ _ _).active _
        | panic => exact traced_of_none rfl _

/-- **The active part after a run is what the trace says.** -/
theorem traced_after {start : DriadSourceTunnel} (hstart : start.active = none)
    (calls : List Call) : (start.after calls).Traced (start.trace calls) := by
  induction calls using List.reverseRecOn with
  | nil => exact traced_of_none hstart _
  | append_singleton calls call ih =>
      rw [trace_append, after, List.foldl_append]
      show (step (start.after calls) call).Traced
        (start.trace calls ++ ((start.after calls).callEvents call ++ []))
      rw [List.append_nil]
      cases call with
      | poll input => exact ih.poll input
      | setDesired desired answering failed => exact ih.setDesired desired answering failed

end DriadSourceTunnel

end Amt

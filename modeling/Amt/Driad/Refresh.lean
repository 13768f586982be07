import Amt.Driad.ActiveTrace
import Amt.Driad.HoldDown

/-!
# When an active tunnel refreshes, and when it gives up

An active tunnel asks its relay again when the last membership is old enough, and leaves it
when no data has come by the deadline.  Both times follow from the trace of the run.

* **The refresh interval.**  The static runner puts the configured interval in the place of a
  suggested interval of zero (`effectiveRefreshIntervalFor`); the tunnel takes the minimum of
  the two as they are.  The two rules agree unless the relay advertises zero, and then the
  tunnel begins a cycle as soon as the last one is over (`beginRefresh_effective_iff`).
* **The traffic deadline.**  Every membership that is sent, and so every refresh, sets the
  deadline anew.  It stays within the maximum timeout of the activation if there was no refresh
  or the last one was early enough for the longest timeout that can be drawn, and not if that
  one was too late for the shortest (`trafficDeadline_le_maximum`).  So a relay that asks often
  and delivers nothing is never found out.
-/

namespace Amt

namespace SourceEvent

/-- The interval that the relay advertises. -/
def advertised : SourceEvent → Option Duration
  | .activated interval | .queried interval => some interval
  | _ => none

/-- When a membership is sent. -/
def sentAt : SourceEvent → Option Instant
  | .sent time => some time
  | _ => none

/-- The event may belong to a refresh: no data, no change, no new relay. -/
def refreshes : SourceEvent → Bool
  | .activated _ | .changed | .data => false
  | .rebuilt | .loaded _ _ _ | .queried _ | .sent _ => true

end SourceEvent

open SourceEvent (advertised sentAt)

/-! ## Reading a trace -/

/-- The interval is the last one advertised. -/
theorem interval_foldl_apply (events : List SourceEvent) (watch : Watch) :
    (events.foldl Watch.apply watch).interval
      = (events.filterMap advertised).getLast?.getD watch.interval := by
  induction events using List.reverseRecOn with
  | nil => rfl
  | append_singleton events event ih =>
      rw [List.foldl_append, List.filterMap_append, List.foldl_cons, List.foldl_nil]
      cases event with
      | activated interval => simp [Watch.apply, advertised]
      | queried interval => simp [Watch.apply, advertised]
      | rebuilt | loaded | changed | sent | data => simpa [Watch.apply, advertised] using ih

/-- Through refreshes, traffic is awaited for the last membership sent. -/
theorem sentAt_foldl_apply {events : List SourceEvent}
    (hquiet : ∀ event ∈ events, event.refreshes = true) (watch : Watch) :
    (events.foldl Watch.apply watch).sentAt
      = (events.filterMap sentAt).getLast?.or watch.sentAt := by
  induction events using List.reverseRecOn with
  | nil => rfl
  | append_singleton events event ih =>
      have hlast := hquiet event (List.mem_append_right _ (List.mem_singleton.mpr rfl))
      have hbefore := ih fun e he => hquiet e (List.mem_append_left _ he)
      rw [List.foldl_append, List.filterMap_append, List.foldl_cons, List.foldl_nil]
      cases event with
      | sent time => simp [Watch.apply, sentAt]
      | rebuilt | loaded | queried => simpa [Watch.apply, sentAt] using hbefore
      | activated | changed | data => cases hlast

/-! ## The refresh interval -/

/-- `effective_refresh_interval_for`, the rule of the static runner. -/
def effectiveRefreshIntervalFor (configured suggested : Duration) : Duration :=
  if suggested = 0 then configured else min configured suggested

/-- When the tunnel begins a cycle. -/
theorem beginRefresh_eq_ok_true_iff {active : ActiveDriadTunnel}
    (hlinked : active.gateway.relayEndpoint.isSome = true) (now : Instant) (nonce : Nonce)
    (requestSent : Bool) (configured : Duration) :
    (active.beginRefresh now nonce requestSent configured).2 = .ok true ↔
      active.queryCycleStarted = none ∧ requestSent = true ∧
        min active.effectiveRefreshInterval configured
          ≤ elapsed active.lastMembershipRefresh now := by
  obtain ⟨relay, hrelay⟩ := Option.isSome_iff_exists.mp hlinked
  have hbegun : ∃ action, (active.gateway.beginQueryCycle nonce).2 = .ok action := by
    simp [Gateway.beginQueryCycle, Gateway.request, hrelay]
  obtain ⟨action, hbegun⟩ := hbegun
  unfold ActiveDriadTunnel.beginRefresh
  cases hcycle : active.queryCycleStarted with
  | some started => simp
  | none =>
      have htimely : active.queryTimedOut now = false := by
        rw [ActiveDriadTunnel.queryTimedOut, hcycle]
        rfl
      have hguard : (!active.queryTimedOut now && (none : Option Instant).isNone &&
          decide (min active.effectiveRefreshInterval configured
            ≤ elapsed active.lastMembershipRefresh now)) = true ↔
          min active.effectiveRefreshInterval configured
            ≤ elapsed active.lastMembershipRefresh now := by
        simp [htimely]
      by_cases hdue : min active.effectiveRefreshInterval configured
          ≤ elapsed active.lastMembershipRefresh now
      · rw [if_pos (hguard.mpr hdue)]
        dsimp only
        rw [hbegun]
        cases requestSent <;> simp [hdue]
      · rw [if_neg (mt hguard.mp hdue)]
        simp [hdue]

namespace DriadSourceTunnel

section Run

variable (source : IpAddr) (protocol : MembershipProtocol) (ecn : Bool)
  (config : GatewayDriadConfig) (desired : MembershipReport) (createdAt rebuiltAt : Instant)
  (calls : List Call)

/-- **The two runners agree unless the relay advertises zero.**  In every run with an active
relay, whatever it has advertised last: the tunnel begins a cycle only after the interval of
the static runner has passed since the last membership, at all times, exactly if the relay's
interval is not zero, or a cycle is under way, so that none is begun. -/
theorem beginRefresh_effective_iff (active : ActiveDriadTunnel)
    (hactive : ((new source protocol ecn config desired createdAt rebuiltAt).after calls).active
      = some active) (interval : Duration)
    (hinterval : (((new source protocol ecn config desired createdAt rebuiltAt).trace
      calls).filterMap advertised).getLast? = some interval)
    (configured : Duration) (hconfigured : 0 < configured) :
    (∀ now nonce requestSent,
        (active.beginRefresh now nonce requestSent configured).2 = .ok true →
          effectiveRefreshIntervalFor configured interval
            ≤ elapsed active.lastMembershipRefresh now) ↔
      interval ≠ 0 ∨ active.queryCycleStarted ≠ none := by
  have hnew : (new source protocol ecn config desired createdAt rebuiltAt).active = none := by
    rw [new, (QueueFrame.rebuildProbeQueue _ _).active]
  have hwatched := traced_after hnew calls active hactive
  have heffective : active.effectiveRefreshInterval = interval := by
    rw [hwatched.interval, interval_foldl_apply, hinterval]
    rfl
  simp only [beginRefresh_eq_ok_true_iff hwatched.linked, heffective]
  constructor
  · intro hrule
    by_contra hnot
    obtain ⟨hzero, hcycle⟩ := not_or.mp hnot
    obtain rfl := not_not.mp hzero
    -- at the very time of the last membership, no time has passed
    have hpassed := hrule active.lastMembershipRefresh .first true
      ⟨not_not.mp hcycle, rfl, (Nat.zero_min configured).le.trans (Nat.zero_le _)⟩
    rw [effectiveRefreshIntervalFor, if_pos rfl, elapsed, Nat.sub_self] at hpassed
    exact absurd hconfigured (Nat.not_lt.mpr hpassed)
  · rintro (hnonzero | hcycle) now nonce requestSent ⟨hnone, -, hdue⟩
    · rw [effectiveRefreshIntervalFor, if_neg hnonzero, min_comm]
      exact hdue
    · exact absurd hnone hcycle

end Run

/-! ### A relay that advertises zero -/

/-- One source of one group is desired. -/
def quietDesired : MembershipReport where
  protocol := .igmpv3
  records :=
    [{ kind := .modeIsInclude
       group := .v4 (.new 232 1 1 1)
       sources := [.v4 (.new 198 51 100 7)] }]

/-- A tunnel with the default settings, but for the maximum of the traffic timeout. -/
def quietTunnel (maximumTrafficTimeout : Duration) : DriadSourceTunnel :=
  .new (.v4 (.new 198 51 100 7)) .igmpv3 false
    { GatewayDriadConfig.default with maximumTrafficTimeout } quietDesired 0 0

/-- A Membership Query of the relay, with the code of its interval. -/
def intervalQuery (code : UInt8) (nonce : UInt32) (now : Instant) : Received :=
  .datagram (tierRelay 1)
    (encode (.membershipQuery ⟨.zero 6⟩ nonce false none
      (match (buildIgmpv3GeneralQuery
          { GeneralQueryConfig.forAmt with queryIntervalCode := code } : Outcome Unit Bytes) with
        | .ok query => query
        | _ => [])))
    .notEct (answeringAt now)

/-- The relay is found, and answers a tenth of a second later. -/
def activation (code : UInt8) : List Call :=
  [.poll (pollAt 0 (.resolved (.ok [tierSelection 1])) fun _ => []),
    .poll (pollAt (Duration.fromMillis 100) .idle fun _ =>
      [.datagram (tierRelay 1) (encode (.relayAdvertisement 1 (tierRelay 1).ip)) .notEct
          (answeringAt (Duration.fromMillis 100)),
        intervalQuery code 2 (Duration.fromMillis 100)])]

/-- A later poll of the active relay. -/
def activePoll (now : Instant) (received : List Received) : Call :=
  .poll
    { pollAt now .idle fun _ => [] with
      active := { now, later := now, nonce := .first, requestSent := true, received } }

/-- The relay advertises zero, and a millisecond after the membership was sent the next cycle
is begun, where the static runner would have waited for a minute. -/
theorem beginRefresh_zero_interval :
    (((quietTunnel (Duration.fromSecs 120)).trace (activation 0)).filterMap
        advertised).getLast? = some 0 ∧
      ((quietTunnel (Duration.fromSecs 120)).after (activation 0)).active.map
        (fun active => (active.lastMembershipRefresh,
          (active.beginRefresh (Duration.fromMillis 101) .first true
            (Duration.fromSecs 60)).2))
        = some (Duration.fromMillis 100, .ok true) ∧
      ((quietTunnel (Duration.fromSecs 120)).after
        (activation 0 ++ [activePoll (Duration.fromMillis 101) []])).active.map
          (fun active => active.queryCycleStarted) = some (some (Duration.fromMillis 101)) ∧
      ¬ effectiveRefreshIntervalFor (Duration.fromSecs 60) 0
        ≤ elapsed (Duration.fromMillis 100) (Duration.fromMillis 101) := by
  refine ⟨?_, ?_, ?_, ?_⟩ <;> decide +kernel

/-- A relay that advertises two minutes is asked after one, as configured. -/
theorem beginRefresh_two_minutes :
    ∃ active, ((quietTunnel (Duration.fromSecs 120)).after (activation 120)).active
        = some active ∧
      ∀ now nonce requestSent,
        (active.beginRefresh now nonce requestSent (Duration.fromSecs 60)).2 = .ok true →
          Duration.fromSecs 60 ≤ elapsed active.lastMembershipRefresh now := by
  obtain ⟨active, hactive⟩ := Option.isSome_iff_exists.mp
    (show ((quietTunnel (Duration.fromSecs 120)).after (activation 120)).active.isSome = true by
      decide +kernel)
  refine ⟨active, hactive, ?_⟩
  exact (beginRefresh_effective_iff _ _ _ _ _ _ _ (activation 120) active hactive
    (Duration.fromSecs 120) (by decide +kernel) (Duration.fromSecs 60) (by decide)).mpr
    (.inl (by decide))

/-! ## The traffic deadline -/

/-- Both timeouts of the tunnel are within the bound. -/
def TimeoutsWithin (bound : Duration) (tunnel : DriadSourceTunnel) : Prop :=
  tunnel.initialTrafficTimeout ≤ bound ∧ tunnel.maximumTrafficTimeout ≤ bound

namespace TimeoutsWithin

variable {bound : Duration} {tunnel : DriadSourceTunnel}

theorem longestTrafficTimeout_le (h : tunnel.TimeoutsWithin bound) :
    tunnel.longestTrafficTimeout ≤ bound := by
  have hupper : max tunnel.upperTrafficTimeout tunnel.initialTrafficTimeout ≤ bound :=
    max_le ((min_le_right _ _).trans h.2) h.1
  calc Duration.asMillisSaturating (max tunnel.upperTrafficTimeout tunnel.initialTrafficTimeout)
        * 1000000
      ≤ max tunnel.upperTrafficTimeout tunnel.initialTrafficTimeout / 1000000 * 1000000 :=
        Nat.mul_le_mul_right _ (min_le_left _ _)
    _ ≤ max tunnel.upperTrafficTimeout tunnel.initialTrafficTimeout := Nat.div_mul_le_self _ _
    _ ≤ bound := hupper

theorem frame (h : tunnel.TimeoutsWithin bound) {tunnel' : DriadSourceTunnel}
    (hframe : FullFrame tunnel tunnel') : tunnel'.TimeoutsWithin bound :=
  ⟨hframe.initial.trans_le h.1, hframe.maximum.trans_le h.2⟩

theorem step (h : tunnel.TimeoutsWithin bound) (call : Call) :
    (tunnel.step call).TimeoutsWithin bound := by
  cases call with
  | poll input =>
      obtain ⟨-, hinitial, hmaximum⟩ := pollRefresh_settings tunnel input.refresh input.refreshedAt
      have hrefreshed :
          (tunnel.pollRefresh input.refresh input.refreshedAt).tunnel.TimeoutsWithin bound :=
        ⟨hinitial.trans_le h.1, hmaximum.trans_le h.2⟩
      exact hrefreshed.frame (FullFrame.poll tunnel input)
  | setDesired desired answering failed => exact h.frame (FullFrame.setDesired _ _ _ _)

theorem after (h : tunnel.TimeoutsWithin bound) (calls : List Call) :
    (tunnel.after calls).TimeoutsWithin bound :=
  List.foldlRecOn calls _ h fun _ hrun call _ => hrun.step call

end TimeoutsWithin

section Run

variable (source : IpAddr) (protocol : MembershipProtocol) (ecn : Bool)
  (config : GatewayDriadConfig) (desired : MembershipReport) (createdAt rebuiltAt : Instant)
  (calls : List Call)

/-- **A refresh postpones the deadline.**  In every run with an active relay that has sent no
data, and whose membership has not changed, since the activation, with `first` the time of the
first membership sent then and `refreshes` the times of those sent in answer to later Queries:
the deadline is within the maximum timeout of `first` if there is no refresh, or the last one is
so early that even the longest timeout ends by then.  Conversely a deadline within the maximum
shows that the last refresh, if there is one, is early enough for the shortest timeout.  For a
tunnel without an earlier failure the two timeouts are the same. -/
theorem trafficDeadline_le_maximum
    (hvalid : config.initialTrafficTimeout ≤ config.maximumTrafficTimeout)
    (active : ActiveDriadTunnel)
    (hactive : ((new source protocol ecn config desired createdAt rebuiltAt).after calls).active
      = some active) (earlier rest : List SourceEvent) (interval : Duration)
    (htrace : (new source protocol ecn config desired createdAt rebuiltAt).trace calls
      = earlier ++ .activated interval :: rest)
    (hquiet : ∀ event ∈ rest, event.refreshes = true) (first : Instant) (refreshes : List Instant)
    (hsent : rest.filterMap sentAt = first :: refreshes) (deadline : Instant)
    (hdeadline : active.trafficDeadline = some deadline) :
    let tunnel := (new source protocol ecn config desired createdAt rebuiltAt).after calls
    ((∀ refresh, refreshes.getLast? = some refresh →
        refresh + tunnel.longestTrafficTimeout ≤ first + config.maximumTrafficTimeout) →
      deadline ≤ first + config.maximumTrafficTimeout) ∧
    (deadline ≤ first + config.maximumTrafficTimeout →
      ∀ refresh, refreshes.getLast? = some refresh →
        refresh + tunnel.shortestTrafficTimeout ≤ first + config.maximumTrafficTimeout) := by
  intro tunnel
  have hnew : (new source protocol ecn config desired createdAt rebuiltAt).active = none := by
    rw [new, (QueueFrame.rebuildProbeQueue _ _).active]
  have hwithin : (new source protocol ecn config desired createdAt rebuiltAt).TimeoutsWithin
      config.maximumTrafficTimeout := by
    refine TimeoutsWithin.frame ?_ (QueueFrame.rebuildProbeQueue _ _).toFullFrame
    exact ⟨hvalid, le_rfl⟩
  have hlongest : tunnel.longestTrafficTimeout ≤ config.maximumTrafficTimeout :=
    (hwithin.after calls).longestTrafficTimeout_le
  have hawaited := (traced_after hnew calls active hactive).deadline
  rw [htrace, List.foldl_append, List.foldl_cons, sentAt_foldl_apply hquiet, hsent, hdeadline]
    at hawaited
  rcases refreshes.eq_nil_or_concat' with rfl | ⟨middle, last, rfl⟩
  -- the membership of the activation alone
  · obtain ⟨-, hupper⟩ : tunnel.Awaits deadline first := by
      cases hawaited with
      | some h => exact h
    refine ⟨fun _ => hupper.trans (Nat.add_le_add_left hlongest _), ?_⟩
    rintro - refresh ⟨⟩
  · rw [← List.cons_append, List.getLast?_concat] at hawaited
    obtain ⟨hlower, hupper⟩ : tunnel.Awaits deadline last := by
      cases hawaited with
      | some h => exact h
    simp only [List.getLast?_concat, Option.some.injEq, forall_eq']
    exact ⟨hupper.trans, hlower.trans⟩

end Run

/-! ### A relay that asks and does not deliver -/

/-- The relay advertises three seconds, and a refresh three seconds after the activation is
answered. -/
def askedAgain : List Call :=
  activation 3 ++
    [activePoll (Duration.fromMillis 3100) [intervalQuery 3 1 (Duration.fromMillis 3100)]]

/-- The events of the activation and of that refresh. -/
def askedEvents : List SourceEvent :=
  [.sent (Duration.fromMillis 100), .queried (Duration.fromSecs 3),
    .sent (Duration.fromMillis 3100)]

/-- Both timeouts are four seconds, and the refresh moves the deadline from four seconds after
the activation to seven. -/
theorem trafficDeadline_postponed :
    (quietTunnel (Duration.fromSecs 4)).initialTrafficTimeout = Duration.fromSecs 4 ∧
      (quietTunnel (Duration.fromSecs 4)).trace askedAgain
        = [.rebuilt] ++ .activated (Duration.fromSecs 3) :: askedEvents ∧
      ((quietTunnel (Duration.fromSecs 4)).after askedAgain).active.map
        (fun active => active.trafficDeadline) = some (some (Duration.fromMillis 7100)) ∧
      ¬ Duration.fromMillis 7100 ≤ Duration.fromMillis 100 + Duration.fromSecs 4 := by
  refine ⟨?_, ?_, ?_, ?_⟩ <;> decide +kernel

/-- With a maximum of two minutes the refresh is early enough. -/
theorem trafficDeadline_le_two_minutes :
    ∃ active deadline,
      ((quietTunnel (Duration.fromSecs 120)).after askedAgain).active = some active ∧
        active.trafficDeadline = some deadline ∧
        deadline ≤ Duration.fromMillis 100 + Duration.fromSecs 120 := by
  have hdeadline : ((quietTunnel (Duration.fromSecs 120)).after askedAgain).active.bind
      (fun active => active.trafficDeadline) = some (Duration.fromMillis 7100) := by
    decide +kernel
  obtain ⟨active, hactive, hdeadline⟩ := Option.bind_eq_some_iff.mp hdeadline
  refine ⟨active, _, hactive, hdeadline, ?_⟩
  refine (trafficDeadline_le_maximum _ _ _ { GatewayDriadConfig.default with
      maximumTrafficTimeout := Duration.fromSecs 120 } _ _ _ askedAgain (by decide) active hactive
    [.rebuilt] askedEvents (Duration.fromSecs 3) (by decide +kernel) (by decide)
    (Duration.fromMillis 100) [Duration.fromMillis 3100] rfl _ hdeadline).1 ?_
  rintro refresh ⟨⟩
  decide +kernel

end DriadSourceTunnel

end Amt

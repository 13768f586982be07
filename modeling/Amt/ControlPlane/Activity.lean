import Amt.ControlPlane

/-!
# Two tables in step

The daemon keeps, next to the membership state, the time each gateway was last heard
(`GatewayActivity`).  Idle gateways are found in the second table and removed from the
first, so an endpoint without a time stamp would never expire, and a time stamp without an
endpoint would stay forever.

* **What a datagram is answered with** (`Answer`) decides both tables: the state changes
  with the candidate that comes with the answer, the time stamps with the action.  Each
  constructor says how the two go together.
* **The invariant** (`InStep`): the same endpoints have a time stamp and an entry in the
  state.  Every branch of `handle_amt_datagram` keeps it, also the one where the upstream
  refuses a candidate, which stays uncommitted.
* **Pruning** removes what is stale from both tables and nothing else.

`afterEvents_inStep` puts this together for whole runs.
-/

namespace Amt

namespace Relay

/-! ## Answers and candidates -/

/-- **The answers of `prepare_datagram`**, with the candidate state that comes with them. -/
inductive Answer (state : RelayState) (peer : SocketAddr) :
    RelayAction → Option RelayState → Prop
  /-- Nothing was accepted. -/
  | other {action : RelayAction} (h : ¬ Accepting action) : Answer state peer action none
  /-- The update changes nothing. -/
  | unchanged {protocol : MembershipProtocol} {bytes applied : ℕ}
      {subscriptions : List UpstreamSubscription} :
      Answer state peer (.acceptedMembershipUpdate protocol bytes applied subscriptions) none
  /-- The update changes the peer's entry. -/
  | applied {protocol : MembershipProtocol} {bytes applied : ℕ}
      {subscriptions : List UpstreamSubscription} {next : RelayState}
      (h : ∀ e, peer ≠ e → next.endpoints[e]? = state.endpoints[e]?) :
      Answer state peer (.acceptedMembershipUpdate protocol bytes applied subscriptions)
        (some next)
  /-- There is nothing to tear down. -/
  | absent {gateway : GatewayEndpoint} {removed : Bool}
      (h : state.containsEndpoint (teardownEndpoint gateway) = false) :
      Answer state peer (.acceptedTeardown gateway removed) none
  | removed {gateway : GatewayEndpoint} {removed : Bool} :
      Answer state peer (.acceptedTeardown gateway removed)
        (some (state.removeEndpoint (teardownEndpoint gateway)).1)

variable (hmac : RelaySecret → Bytes → Octets 32)

/-- Every arm, by the action it answers with. -/
theorem answer_prepareMessage {relay : Relay} {now : Instant} {peer : SocketAddr}
    {message : Message} {action : RelayAction} {next : Option RelayState}
    (h : (relay.prepareMessage hmac now peer message).2 = .ok (action, next)) :
    Answer relay.state peer action next := by
  cases message with
  | relayDiscovery discoveryNonce =>
      obtain ⟨-, -, hpure⟩ := Outcome.bind_eq_ok_iff.mp h
      cases hpure
      exact .other (by rintro ⟨⟩)
  | request requestNonce protocol ecnCapable =>
      simp only [prepareMessage, prepareRequest] at h
      obtain ⟨query, -, hpure⟩ := Outcome.bind_eq_ok_iff.mp h
      cases hpure
      exact .other (by rintro ⟨⟩)
  | membershipUpdate mac nonce membershipUpdate =>
      simp only [prepareMessage, prepareUpdate] at h
      split at h
      · rcases prepareReport_cases h with
          ⟨rfl, rfl⟩ | ⟨report, -, ⟨-, rfl, rfl⟩ | ⟨-, ⟨_, hok⟩, rfl, rfl⟩⟩
        · exact .other (by rintro ⟨⟩)
        · exact .unchanged
        · refine .applied fun e he => ?_
          rw [RelayState.applyReportLimited_of_ok hok,
            RelayState.getElem?_endpoints_applyReport_of_ne _ report he]
      · cases h
        exact .other (by rintro ⟨⟩)
  | teardown mac nonce gateway =>
      simp only [prepareMessage, prepareTeardown, RelayState.removeEndpoint_removed] at h
      split at h
      · cases hcontains : relay.state.containsEndpoint (teardownEndpoint gateway) with
        | false =>
            simp only [hcontains, Bool.not_false, if_true] at h
            cases h
            exact .absent hcontains
        | true =>
            simp only [hcontains, Bool.not_true, Bool.false_eq_true, if_false, if_true] at h
            cases h
            exact .removed
      · cases h
        exact .other (by rintro ⟨⟩)
  | relayAdvertisement _ _ | membershipQuery _ _ _ _ _ | multicastData _ =>
      cases h
      exact .other (by rintro ⟨⟩)

theorem answer_prepareDatagram {env : CallEnv} {relay : Relay} {peer : SocketAddr}
    {datagram : Bytes} {action : RelayAction} {next : Option RelayState}
    (h : (relay.prepareDatagram hmac env peer datagram).2 = .ok (action, next)) :
    Answer relay.state peer action next := by
  unfold prepareDatagram at h
  cases hdecode : decode datagram with
  | ok message =>
      rw [hdecode] at h
      rw [← state_rotateSecretIfDue relay env]
      exact answer_prepareMessage hmac h
  | err error => simp [hdecode] at h
  | panic => simp [hdecode] at h

end Relay

/-! ## Pruning -/

/-- **The loop of `prune_stale_gateways`** takes the endpoints of its list, and no others,
out of both tables. -/
theorem getElem?_foldl_pruneGateway (endpoints : List SocketAddr)
    (pruned : Relay × GatewayActivity × ℕ) (e : SocketAddr) :
    (endpoints.foldl pruneGateway pruned).1.state.endpoints[e]? =
        (if e ∈ endpoints then none else pruned.1.state.endpoints[e]?) ∧
      (endpoints.foldl pruneGateway pruned).2.1.lastSeen[e]? =
        if e ∈ endpoints then none else pruned.2.1.lastSeen[e]? := by
  have hstate := read_foldl_drop pruneGateway id (fun pruned e => pruned.1.state.endpoints[e]?)
    (fun pruned endpoint e =>
      RelayState.getElem?_endpoints_removeEndpoint pruned.1.state endpoint e) endpoints pruned e
  have hseen := read_foldl_drop pruneGateway id (fun pruned e => pruned.2.1.lastSeen[e]?)
    (fun pruned endpoint e =>
      BTreeMap.getElem?_erase_eq pruned.2.1.lastSeen endpoint e) endpoints pruned e
  rw [List.map_id] at hstate hseen
  exact ⟨hstate, hseen⟩

section Steps

variable {σ Id ε : Type*} (hmac : RelaySecret → Bytes → Octets 32) (native : NativeContext σ Id ε)

namespace RelayControlPlane

/-- **What a prune leaves**, in both tables: the endpoints whose last mark is younger than
the timeout. -/
theorem getElem?_step_prune (control : RelayControlPlane σ Id) (timeout : Duration)
    (now : Instant) (e : SocketAddr) :
    ((∃ lastSeen, control.gatewayActivity.lastSeen[e]? = some lastSeen ∧
        lastSeen + timeout ≤ now) →
      (control.step hmac native (.prune timeout now)).relay.state.endpoints[e]? = none ∧
        (control.step hmac native (.prune timeout now)).gatewayActivity.lastSeen[e]? = none) ∧
    ((¬ ∃ lastSeen, control.gatewayActivity.lastSeen[e]? = some lastSeen ∧
        lastSeen + timeout ≤ now) →
      (control.step hmac native (.prune timeout now)).relay.state.endpoints[e]? =
          control.relay.state.endpoints[e]? ∧
        (control.step hmac native (.prune timeout now)).gatewayActivity.lastSeen[e]? =
          control.gatewayActivity.lastSeen[e]?) := by
  obtain ⟨hstate, hseen⟩ := getElem?_foldl_pruneGateway
    (control.gatewayActivity.staleEndpointsAt timeout now)
    (control.relay, control.gatewayActivity, 0) e
  constructor
  · intro hstale
    have hmem : e ∈ control.gatewayActivity.staleEndpointsAt timeout now :=
      mem_staleKeys_iff.mpr hstale
    rw [if_pos hmem] at hstate hseen
    exact ⟨hstate, hseen⟩
  · intro hfresh
    have hmem : e ∉ control.gatewayActivity.staleEndpointsAt timeout now :=
      mt mem_staleKeys_iff.mp hfresh
    rw [if_neg hmem] at hstate hseen
    exact ⟨hstate, hseen⟩

/-! ## The invariant -/

/-- The endpoints with a time stamp are those of the state. -/
def InStep (state : RelayState) (activity : GatewayActivity) : Prop :=
  ∀ e : SocketAddr, activity.lastSeen[e]?.isSome = state.endpoints[e]?.isSome

section Tables

variable {state next : RelayState} {activity : GatewayActivity} {peer : SocketAddr}

/-- Marking an endpoint of the state as seen. -/
theorem InStep.markSeenAt (h : ∀ e, peer ≠ e →
      activity.lastSeen[e]?.isSome = state.endpoints[e]?.isSome)
    (hcontains : state.containsEndpoint peer = true) (now : Instant) :
    InStep state (activity.markSeenAt peer now) := by
  intro e
  rw [GatewayActivity.markSeenAt, BTreeMap.getElem?_insert_eq]
  by_cases he : peer = e
  · rw [if_pos he, ← he, ← RelayState.containsEndpoint_eq_isSome, hcontains]
    rfl
  · rw [if_neg he, h e he]

/-- Forgetting an endpoint that is not in the state. -/
theorem InStep.remove (h : ∀ e, peer ≠ e →
      activity.lastSeen[e]?.isSome = state.endpoints[e]?.isSome)
    (habsent : state.containsEndpoint peer = false) : InStep state (activity.remove peer) := by
  intro e
  rw [GatewayActivity.remove, BTreeMap.getElem?_erase_eq]
  by_cases he : peer = e
  · rw [if_pos he, ← he, ← RelayState.containsEndpoint_eq_isSome, habsent]
    rfl
  · rw [if_neg he, h e he]

end Tables

/-- **The bookkeeping at the end of `handle_amt_datagram`** brings the tables back in step,
whether the answer came with a candidate or not. -/
theorem InStep.conclude (control : RelayControlPlane σ Id) {state : RelayState}
    {peer : SocketAddr} {action : RelayAction} {next : Option RelayState}
    (h : InStep state control.gatewayActivity) (hanswer : Relay.Answer state peer action next)
    (hstate : control.relay.state = next.getD state) (now : Instant) :
    InStep (control.conclude now peer action).1.relay.state
      (control.conclude now peer action).1.gatewayActivity := by
  -- an accepted update marks or forgets the peer, whatever became of its entry
  have hupdate : ∀ protocol bytes applied subscriptions,
      (∀ e, peer ≠ e → control.gatewayActivity.lastSeen[e]?.isSome =
        control.relay.state.endpoints[e]?.isSome) →
      InStep control.relay.state (control.conclude now peer
        (.acceptedMembershipUpdate protocol bytes applied subscriptions)).1.gatewayActivity := by
    intro protocol bytes applied subscriptions hothers
    simp only [RelayControlPlane.conclude]
    cases hcontains : control.relay.state.containsEndpoint peer with
    | true => exact .markSeenAt hothers hcontains now
    | false => exact .remove hothers hcontains
  rw [relay_conclude]
  cases hanswer with
  | other hnot =>
      rw [hstate]
      cases action with
      | send response => exact h
      | acceptedMembershipUpdate protocol bytes applied subscriptions =>
          exact absurd (.update protocol bytes applied subscriptions) hnot
      | acceptedTeardown gateway removed => exact absurd (.teardown gateway removed) hnot
      | rejectedAuth => exact h
      | ignored => exact h
  | unchanged =>
      refine hupdate _ _ _ _ fun e _ => ?_
      rw [hstate]
      exact h e
  | applied hothers =>
      refine hupdate _ _ _ _ fun e he => ?_
      rw [hstate, Option.getD_some, hothers e he]
      exact h e
  | absent habsent =>
      rw [hstate]
      exact .remove (fun e _ => h e) habsent
  | removed =>
      rw [hstate]
      refine .remove (fun e he => ?_) ?_
      · rw [Option.getD_some, RelayState.getElem?_endpoints_removeEndpoint, if_neg he]
        exact h e
      · rw [Option.getD_some, RelayState.containsEndpoint_eq_isSome,
          RelayState.getElem?_endpoints_removeEndpoint, if_pos rfl]
        rfl

/-- **The step.** -/
theorem InStep.handleAmtDatagram {control : RelayControlPlane σ Id}
    (h : InStep control.relay.state control.gatewayActivity) (env : CallEnv)
    (worker : Option WorkerFailure) (now : Instant) (peer : SocketAddr) (datagram : Bytes) :
    InStep (control.handleAmtDatagram hmac native env worker now peer datagram).1.relay.state
      (control.handleAmtDatagram hmac native env worker now peer
        datagram).1.gatewayActivity := by
  have hstate := Relay.prepareDatagram_state hmac env control.relay peer datagram
  have hanswer : ∀ {action next}, (control.relay.prepareDatagram hmac env peer datagram).2 =
      .ok (action, next) → Relay.Answer control.relay.state peer action next :=
    Relay.answer_prepareDatagram hmac
  unfold RelayControlPlane.handleAmtDatagram
  cases hprepare : control.relay.prepareDatagram hmac env peer datagram with
  | mk relay outcome =>
      rw [hprepare] at hstate hanswer
      dsimp only at hstate hanswer
      have hkept : InStep relay.state control.gatewayActivity := by rwa [hstate]
      cases outcome with
      | panic => exact hkept
      | err error => exact hkept
      | ok result =>
          obtain ⟨action, next⟩ := result
          cases next with
          | none => exact .conclude { control with relay } h (hanswer rfl) hstate now
          | some candidate =>
              -- without the upstream the candidate is dropped, and the peer is marked if it
              -- had an endpoint before
              have hrefused : InStep relay.state
                  (if relay.state.containsEndpoint peer then
                    control.gatewayActivity.markSeenAt peer now
                  else control.gatewayActivity) := by
                cases hcontains : relay.state.containsEndpoint peer with
                | true => exact .markSeenAt (fun e _ => hkept e) hcontains now
                | false => exact hkept
              dsimp only
              cases hsync : syncUpstream native worker candidate control.upstream with
              | mk upstream result =>
                  cases result with
                  | ok changes =>
                      let committed :=
                        { control with relay := relay.commitState candidate, upstream }
                      exact .conclude committed h (hanswer rfl) rfl now
                  | err error => exact hrefused
                  | panic => exact hrefused

/-- **One step keeps the tables in step.** -/
theorem InStep.step {control : RelayControlPlane σ Id}
    (h : InStep control.relay.state control.gatewayActivity) (event : ControlEvent) :
    InStep (control.step hmac native event).relay.state
      (control.step hmac native event).gatewayActivity := by
  cases event with
  | datagram env worker now peer datagram =>
      exact h.handleAmtDatagram hmac native env worker now peer datagram
  | prune timeout now =>
      intro e
      obtain ⟨hstale, hfresh⟩ := control.getElem?_step_prune hmac native timeout now e
      by_cases hold : ∃ lastSeen, control.gatewayActivity.lastSeen[e]? = some lastSeen ∧
          lastSeen + timeout ≤ now
      · rw [(hstale hold).1, (hstale hold).2]
        rfl
      · rw [(hfresh hold).1, (hfresh hold).2]
        exact h e
  | sync worker => exact h

theorem InStep.afterEvents {control : RelayControlPlane σ Id}
    (h : InStep control.relay.state control.gatewayActivity) (events : List ControlEvent) :
    InStep (control.afterEvents hmac native events).relay.state
      (control.afterEvents hmac native events).gatewayActivity :=
  List.foldlRecOn (motive := fun control : RelayControlPlane σ Id =>
    InStep control.relay.state control.gatewayActivity) _ _ h
    fun _ h event _ => h.step hmac native event

end RelayControlPlane

end Steps

end Amt

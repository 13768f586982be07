import Amt.Upstream
import Amt.Relay.Authority
import Amt.State.Aggregate

/-!
# The relay's control plane

The relay daemon joins three tables: the membership state of the relay, the native
subscriptions of the upstream manager, and the time each gateway was last heard.  This
file has the daemon's own steps on them, which are a datagram from some peer, the pruning
of idle gateways, and a synchronisation with the upstream manager.

* **Order of effects.**  A datagram that changes the state is prepared first, then the
  native subscriptions are reconciled with the candidate, and only when that succeeds the
  candidate is committed.  Pruning goes the other way: gateways are removed from the state
  at once, and the subscriptions follow at the next synchronisation.
* **The invariant** (`Captured`): what a committed endpoint wants, an active subscription
  captures.  A commit keeps it since the reconciliation before it covered the candidate; a
  failed reconciliation keeps it since it leaves the table as it was; pruning keeps it
  since it only takes wishes away.
* **Runs** (`afterEvents`) start from a new relay and an empty table.  The native context
  is arbitrary, so any of its calls may fail at any time, and so may the capture worker that
  owns the manager: every request to it says whether it is answered.
-/

namespace Amt

/-! ## Gateway activity -/

/-- When each gateway was last heard of. -/
structure GatewayActivity where
  lastSeen : BTreeMap SocketAddr Instant

namespace GatewayActivity

def default : GatewayActivity := ⟨∅⟩

def markSeenAt (activity : GatewayActivity) (endpoint : SocketAddr) (now : Instant) :
    GatewayActivity :=
  ⟨activity.lastSeen.insert endpoint now⟩

def remove (activity : GatewayActivity) (endpoint : SocketAddr) : GatewayActivity :=
  ⟨activity.lastSeen.erase endpoint⟩

/-- The gateways that have been silent for a whole timeout. -/
def staleEndpointsAt (activity : GatewayActivity) (timeout : Duration) (now : Instant) :
    List SocketAddr :=
  staleKeys activity.lastSeen timeout now

end GatewayActivity

/-- One iteration of the loop in `prune_stale_gateways`. -/
def pruneGateway (pruned : Relay × GatewayActivity × ℕ) (endpoint : SocketAddr) :
    Relay × GatewayActivity × ℕ :=
  let (relay, activity, expired) := pruned
  let activity := activity.remove endpoint
  let (relay, removed) := relay.removeGateway endpoint
  (relay, activity, if removed then expired + 1 else expired)

/-- Remove the silent gateways; the count is of those the relay knew. -/
def pruneStaleGateways (relay : Relay) (activity : GatewayActivity) (timeout : Duration)
    (now : Instant) : Relay × GatewayActivity × ℕ :=
  (activity.staleEndpointsAt timeout now).foldl pruneGateway (relay, activity, 0)

/-! ## The steps -/

/-- The relay and what it captures. -/
structure RelayControlPlane (σ Id : Type*) where
  relay : Relay
  upstream : UpstreamManager σ Id
  gatewayActivity : GatewayActivity

variable {σ Id ε : Type*}

section Steps

variable (hmac : RelaySecret → Bytes → Octets 32) (native : NativeContext σ Id ε)

/-- Why the capture worker gives no answer: it has recorded a failure, or it is gone. -/
inductive WorkerFailure where
  | failed
  | stopped
deriving DecidableEq, Repr

/-- The errors of a request to the worker: its own, and those of the manager it owns. -/
inductive WorkerError (ε : Type*) where
  | unanswered (failure : WorkerFailure)
  | update (error : ε)

/-- `WorkerHandle::reconcile`.  A worker that gives no answer fails the request, whatever
there is to add or to leave, and the manager stays as the worker left it. -/
def workerReconcile (worker : Option WorkerFailure) (upstream : UpstreamManager σ Id)
    (subscriptions : List UpstreamSubscription) :
    UpstreamManager σ Id × Outcome (WorkerError ε) UpstreamReconcile :=
  match worker with
  | some failure => (upstream, .err (.unanswered failure))
  | none =>
      let (upstream, outcome) := upstream.reconcile native subscriptions
      (upstream, outcome.mapErr .update)

/-- Ask the worker for what the gateways want. -/
def syncUpstream (worker : Option WorkerFailure) (state : RelayState)
    (upstream : UpstreamManager σ Id) :
    UpstreamManager σ Id × Outcome (WorkerError ε) UpstreamReconcile :=
  workerReconcile native worker upstream state.upstreamSubscriptions

namespace RelayControlPlane

/-- The end of `handle_amt_datagram`, once a candidate state has been committed: the
response for the peer, if there is one, and the bookkeeping of activity. -/
def conclude (control : RelayControlPlane σ Id) (now : Instant) (peer : SocketAddr) :
    RelayAction → RelayControlPlane σ Id × Option Bytes
  | .send response => (control, some response)
  | .acceptedMembershipUpdate _ _ _ _ =>
      ({ control with
          gatewayActivity :=
            if control.relay.state.containsEndpoint peer then
              control.gatewayActivity.markSeenAt peer now
            else control.gatewayActivity.remove peer }, none)
  | .acceptedTeardown gateway _ =>
      let endpoint := Relay.teardownEndpoint gateway
      ({ control with gatewayActivity := control.gatewayActivity.remove endpoint }, none)
  | .rejectedAuth | .ignored => (control, none)

/-- `handle_amt_datagram`.  The clock reads `now` when it marks a gateway as seen, and
`worker` says how the capture worker takes the request of this call.  It reports every error
of its parts itself, so all a caller could see is a panic. -/
def handleAmtDatagram (env : CallEnv) (worker : Option WorkerFailure) (now : Instant)
    (control : RelayControlPlane σ Id) (peer : SocketAddr) (datagram : Bytes) :
    RelayControlPlane σ Id × Outcome Empty (Option Bytes) :=
  match control.relay.prepareDatagram hmac env peer datagram with
  | (relay, .panic) => ({ control with relay }, .panic)
  | (relay, .err _) => ({ control with relay }, .ok none)
  | (relay, .ok (action, none)) =>
      let (control, response) := conclude { control with relay } now peer action
      (control, .ok response)
  | (relay, .ok (action, some candidate)) =>
      match syncUpstream native worker candidate control.upstream with
      | (upstream, .ok _) =>
          let relay := relay.commitState candidate
          let (control, response) := conclude { control with relay, upstream } now peer action
          (control, .ok response)
      -- The candidate is dropped.  A worker that dies is an error to the caller, too.
      | (upstream, .err _) | (upstream, .panic) =>
          let gatewayActivity :=
            if relay.state.containsEndpoint peer then control.gatewayActivity.markSeenAt peer now
            else control.gatewayActivity
          ({ relay, upstream, gatewayActivity }, .ok none)

end RelayControlPlane

/-- What happens in the daemon's loop. -/
inductive ControlEvent where
  | datagram (env : CallEnv) (worker : Option WorkerFailure) (now : Instant) (peer : SocketAddr)
      (datagram : Bytes)
  | prune (timeout : Duration) (now : Instant)
  | sync (worker : Option WorkerFailure)

namespace RelayControlPlane

/-- One step.  The loop only logs a failed synchronisation. -/
def step (control : RelayControlPlane σ Id) : ControlEvent → RelayControlPlane σ Id
  | .datagram env worker now peer datagram =>
      (control.handleAmtDatagram hmac native env worker now peer datagram).1
  | .prune timeout now =>
      let (relay, gatewayActivity, _) :=
        pruneStaleGateways control.relay control.gatewayActivity timeout now
      { control with relay, gatewayActivity }
  | .sync worker =>
      { control with
        upstream := (syncUpstream native worker control.relay.state control.upstream).1 }

/-- The daemon when it enters its loop, on a native context that could be opened. -/
def start (config : RelayConfig) (now : Instant) (upstream : UpstreamConfig) (context : σ) :
    RelayControlPlane σ Id where
  relay := .new config now
  upstream := .new upstream context
  gatewayActivity := .default

/-- The daemon after a sequence of events. -/
def afterEvents (control : RelayControlPlane σ Id) (events : List ControlEvent) :
    RelayControlPlane σ Id :=
  events.foldl (step hmac native) control

end RelayControlPlane

/-! ## Pruning only takes wishes away -/

theorem pruneStaleGateways_spec {relay : Relay} (h : relay.state.WellFormed)
    (activity : GatewayActivity) (timeout : Duration) (now : Instant) :
    (pruneStaleGateways relay activity timeout now).1.state.WellFormed ∧
      relay.state.Shrinks (pruneStaleGateways relay activity timeout now).1.state := by
  unfold pruneStaleGateways
  refine List.foldlRecOn (motive := fun pruned : Relay × GatewayActivity × ℕ =>
    pruned.1.state.WellFormed ∧ relay.state.Shrinks pruned.1.state) _ _
    ⟨h, .refl _⟩ ?_
  rintro ⟨relay', activity', expired⟩ ⟨hwf, hshrinks⟩ endpoint -
  exact ⟨hwf.removeEndpoint endpoint,
    hshrinks.trans (RelayState.shrinks_removeEndpoint relay'.state endpoint)⟩

/-! ## What the steps preserve -/

/-- A synchronisation fails and leaves the table as it was, or it activates what is wanted. -/
theorem syncUpstream_cases (worker : Option WorkerFailure) (state : RelayState)
    (upstream : UpstreamManager σ Id) :
    ((∀ changes, (syncUpstream native worker state upstream).2 ≠ .ok changes) ∧
      (syncUpstream native worker state upstream).1.active = upstream.active) ∨
    ((∃ changes, (syncUpstream native worker state upstream).2 = .ok changes) ∧
      ∀ subscription ∈ state.upstreamSubscriptions,
        ∃ id, (syncUpstream native worker state upstream).1.active[subscription]? = some id) := by
  cases worker with
  | some failure =>
      refine .inl ⟨?_, rfl⟩
      rintro changes ⟨⟩
  | none =>
      rcases UpstreamManager.reconcile_cases native upstream state.upstreamSubscriptions with
        ⟨error, herr, hactive⟩ | ⟨⟨changes, hok⟩, hall⟩
      · exact .inl ⟨fun changes h => by simp [syncUpstream, workerReconcile, herr] at h, hactive⟩
      · exact .inr ⟨⟨changes, by simp [syncUpstream, workerReconcile, hok]⟩, hall⟩

theorem UpstreamManager.Sound.syncUpstream {native : NativeContext σ Id ε}
    {laws : NativeLaws native} {upstream : UpstreamManager σ Id} (h : upstream.Sound laws)
    (worker : Option WorkerFailure) (state : RelayState) :
    (Amt.syncUpstream native worker state upstream).1.Sound laws := by
  cases worker with
  | some failure => exact h
  | none => exact h.reconcile _

/-- **A candidate is well formed** when the state is. -/
theorem Relay.wellFormed_candidate {env : CallEnv} {relay : Relay} {peer : SocketAddr}
    {datagram : Bytes} {action : RelayAction} {next : RelayState} (h : relay.state.WellFormed)
    (hprepare : (relay.prepareDatagram hmac env peer datagram).2 = .ok (action, some next)) :
    next.WellFormed := by
  obtain ⟨message, -, hmessage⟩ := prepareDatagram_candidate hmac hprepare
  obtain ⟨-, -, -, -, -, -, ⟨op, rfl⟩, -⟩ := prepareMessage_candidate hmac hmessage
  rw [state_rotateSecretIfDue]
  exact h.step op

namespace RelayControlPlane

@[simp] theorem relay_conclude (control : RelayControlPlane σ Id) (now : Instant)
    (peer : SocketAddr) (action : RelayAction) :
    (control.conclude now peer action).1.relay = control.relay := by
  cases action <;> rfl

@[simp] theorem upstream_conclude (control : RelayControlPlane σ Id) (now : Instant)
    (peer : SocketAddr) (action : RelayAction) :
    (control.conclude now peer action).1.upstream = control.upstream := by
  cases action <;> rfl

/-- What a step can do to the committed state and the upstream manager. -/
inductive Effect (control control' : RelayControlPlane σ Id) : Prop
  /-- The manager is left alone, and the state at most loses wishes. -/
  | shrunk (hupstream : control'.upstream = control.upstream)
      (hwf : control'.relay.state.WellFormed)
      (hshrinks : control.relay.state.Shrinks control'.relay.state)
  /-- The manager was reconciled with what is now the state. -/
  | committed (worker : Option WorkerFailure) (hupstream : control'.upstream =
        (syncUpstream native worker control'.relay.state control.upstream).1)
      (hok : ∃ changes,
        (syncUpstream native worker control'.relay.state control.upstream).2 = .ok changes)
      (hwf : control'.relay.state.WellFormed)
  /-- The manager could not be reconciled, and the state stays. -/
  | refused (worker : Option WorkerFailure) (target : RelayState)
      (hupstream : control'.upstream = (syncUpstream native worker target control.upstream).1)
      (hfailed : ∀ changes, (syncUpstream native worker target control.upstream).2 ≠ .ok changes)
      (hstate : control'.relay.state = control.relay.state)

/-- The step: every path of the call is one of the effects. -/
theorem handleAmtDatagram_effect {control : RelayControlPlane σ Id}
    (h : control.relay.state.WellFormed) (env : CallEnv) (worker : Option WorkerFailure)
    (now : Instant) (peer : SocketAddr) (datagram : Bytes) :
    Effect native control
      (control.handleAmtDatagram hmac native env worker now peer datagram).1 := by
  have hstate := Relay.prepareDatagram_state hmac env control.relay peer datagram
  have hcandidate : ∀ {action next}, (control.relay.prepareDatagram hmac env peer datagram).2 =
      .ok (action, some next) → next.WellFormed := Relay.wellFormed_candidate hmac h
  unfold handleAmtDatagram
  cases hprepare : control.relay.prepareDatagram hmac env peer datagram with
  | mk relay outcome =>
      rw [hprepare] at hstate hcandidate
      dsimp only at hstate hcandidate
      have hsame : ∀ control' : RelayControlPlane σ Id, control'.upstream = control.upstream →
          control'.relay = relay → Effect native control control' := by
        rintro control' hupstream rfl
        refine .shrunk hupstream ?_ ?_
        · rwa [hstate]
        · rw [hstate]
          exact .refl _
      cases outcome with
      | panic => exact hsame _ rfl rfl
      | err error => exact hsame _ rfl rfl
      | ok result =>
          obtain ⟨action, next⟩ := result
          cases next with
          | none => exact hsame _ (by simp) (by simp)
          | some candidate =>
              have hwf := hcandidate rfl
              dsimp only
              cases hsync : syncUpstream native worker candidate control.upstream with
              | mk upstream result =>
                  cases result with
                  | ok changes =>
                      refine .committed worker ?_ ?_ ?_
                      all_goals simp [Relay.commitState, hsync, hwf]
                  | err error =>
                      exact .refused worker candidate (by simp [hsync]) (by simp [hsync]) hstate
                  | panic =>
                      exact .refused worker candidate (by simp [hsync]) (by simp [hsync]) hstate

theorem step_effect {control : RelayControlPlane σ Id} (h : control.relay.state.WellFormed)
    (event : ControlEvent) : Effect native control (control.step hmac native event) := by
  cases event with
  | datagram env worker now peer datagram =>
      exact handleAmtDatagram_effect hmac native h env worker now peer datagram
  | prune timeout now =>
      obtain ⟨hwf, hshrinks⟩ := pruneStaleGateways_spec h control.gatewayActivity timeout now
      exact .shrunk rfl hwf hshrinks
  | sync worker =>
      rcases syncUpstream_cases native worker control.relay.state control.upstream with
        ⟨hfailed, -⟩ | ⟨hok, -⟩
      · exact .refused worker control.relay.state rfl hfailed rfl
      · exact .committed worker rfl hok h

/-! ## Every accepted membership is captured -/

/-- The subscriptions that capture `source` in `group`. -/
def capturing (group source : IpAddr) : List UpstreamSubscription :=
  [.asm group, .ssm group source]

/-- What an endpoint wants, an active subscription captures. -/
def Captured (control : RelayControlPlane σ Id) : Prop :=
  ∀ e g source interest, control.relay.state.endpointInterest e g = some interest →
    interest.wantsSource source = true →
    ∃ subscription ∈ capturing g source, ∃ id, control.upstream.active[subscription]? = some id

theorem captured_of_subscriptions {control : RelayControlPlane σ Id}
    (h : control.relay.state.WellFormed)
    (hactive : ∀ subscription ∈ control.relay.state.upstreamSubscriptions,
      ∃ id, control.upstream.active[subscription]? = some id) : control.Captured := by
  intro e g source interest hinterest hwants
  rcases h.covered hinterest hwants with hasm | hssm
  · exact ⟨.asm g, by simp [capturing], hactive _ (Std.ExtTreeSet.mem_toList.mpr hasm)⟩
  · exact ⟨.ssm g source, by simp [capturing], hactive _ (Std.ExtTreeSet.mem_toList.mpr hssm)⟩

variable {native}

theorem Effect.wellFormed {control control' : RelayControlPlane σ Id}
    (heffect : Effect native control control') (h : control.relay.state.WellFormed) :
    control'.relay.state.WellFormed := by
  cases heffect with
  | shrunk _ hwf _ => exact hwf
  | committed _ _ _ hwf => exact hwf
  | refused _ _ _ _ hstate => rwa [hstate]

/-- **One step keeps what is wanted captured.** -/
theorem Effect.captured {control control' : RelayControlPlane σ Id}
    (heffect : Effect native control control') (h : control.Captured) : control'.Captured := by
  cases heffect with
  | shrunk hupstream _ hshrinks =>
      intro e g source interest hinterest hwants
      rw [hupstream]
      exact h e g source interest (hshrinks e g interest hinterest) hwants
  | committed worker hupstream hok hwf =>
      refine captured_of_subscriptions hwf ?_
      rw [hupstream]
      rcases syncUpstream_cases native worker control'.relay.state control.upstream with
        ⟨hfailed, -⟩ | ⟨-, hall⟩
      · obtain ⟨changes, hok⟩ := hok
        exact absurd hok (hfailed changes)
      · exact hall
  | refused worker target hupstream hfailed hstate =>
      intro e g source interest hinterest hwants
      rw [hstate] at hinterest
      rcases syncUpstream_cases native worker target control.upstream with
        ⟨-, hactive⟩ | ⟨⟨changes, hok⟩, -⟩
      · rw [hupstream, hactive]
        exact h e g source interest hinterest hwants
      · exact absurd hok (hfailed changes)

theorem Effect.sound {laws : NativeLaws native} {control control' : RelayControlPlane σ Id}
    (heffect : Effect native control control') (h : control.upstream.Sound laws) :
    control'.upstream.Sound laws := by
  cases heffect with
  | shrunk hupstream _ _ => rwa [hupstream]
  | committed worker hupstream _ _ =>
      rw [hupstream]
      exact h.syncUpstream worker _
  | refused worker target hupstream _ _ =>
      rw [hupstream]
      exact h.syncUpstream worker target

/-- What holds throughout a run. -/
structure Inv (native : NativeContext σ Id ε) (control : RelayControlPlane σ Id) : Prop where
  wellFormed : control.relay.state.WellFormed
  captured : control.Captured
  sound : ∀ laws : NativeLaws native, control.upstream.Sound laws

theorem inv_start (config : RelayConfig) (now : Instant) (upstream : UpstreamConfig)
    (context : σ) : Inv native (start config now upstream context) where
  wellFormed := RelayState.wellFormed_default
  captured := captured_of_subscriptions RelayState.wellFormed_default (by
    intro subscription h
    exact absurd (Std.ExtTreeSet.mem_toList.mp h) Std.ExtTreeSet.not_mem_empty)
  sound laws := UpstreamManager.sound_new laws upstream context

theorem Inv.step {control : RelayControlPlane σ Id} (h : Inv native control)
    (event : ControlEvent) : Inv native (control.step hmac native event) := by
  have heffect := step_effect hmac native h.wellFormed event
  exact ⟨heffect.wellFormed h.wellFormed, heffect.captured h.captured,
    fun laws => heffect.sound (h.sound laws)⟩

theorem Inv.afterEvents {control : RelayControlPlane σ Id} (h : Inv native control)
    (events : List ControlEvent) : Inv native (control.afterEvents hmac native events) :=
  List.foldlRecOn _ _ h fun _ h event _ => h.step hmac event

/-- **No accepted membership is left without a subscription that captures it.**  In every
run of the control plane, whatever peers send and whichever native calls or requests to
the capture worker fail: if a committed endpoint wants a source of a group, then the
upstream manager has the any-source subscription of the group or the source-specific one
active, and that subscription is joined natively wherever the native library keeps its
promises. -/
theorem afterEvents_captured (hmac : RelaySecret → Bytes → Octets 32)
    (native : NativeContext σ Id ε) (config : RelayConfig) (now : Instant)
    (upstream : UpstreamConfig) (context : σ) (events : List ControlEvent) (e : SocketAddr)
    (g source : IpAddr) (interest : GroupInterest)
    (hinterest : ((start config now upstream context).afterEvents hmac native
      events).relay.state.endpointInterest e g = some interest)
    (hwants : interest.wantsSource source = true) :
    ∃ subscription : UpstreamSubscription, (subscription = .asm g ∨ subscription = .ssm g source) ∧
      ∃ id, ((start config now upstream context).afterEvents hmac native
          events).upstream.active[subscription]? = some id ∧
        ∀ laws : NativeLaws native, laws.Joined ((start config now upstream context).afterEvents
          hmac native events).upstream.context id := by
  have hinv : Inv native ((start config now upstream context).afterEvents hmac native events) :=
    (inv_start config now upstream context).afterEvents hmac events
  obtain ⟨subscription, hmem, id, hactive⟩ :=
    hinv.captured e g source interest hinterest hwants
  refine ⟨subscription, ?_, id, hactive, fun laws => (hinv.sound laws).joined hactive⟩
  simpa [capturing] using hmem

/-! ### A run with a failing join -/

/-- A native context that numbers its subscriptions and has room for some to be joined. -/
structure NativePool where
  next : ℕ
  room : ℕ
  joined : List ℕ
deriving DecidableEq, Repr

/-- The pool as a native context: a join fails when there is no room. -/
def nativePool : NativeContext NativePool ℕ Unit where
  add pool _ := ({ pool with next := pool.next + 1 }, .ok pool.next)
  join pool id :=
    if pool.joined.length < pool.room then ({ pool with joined := id :: pool.joined }, .ok ())
    else (pool, .error ())
  leave pool id := ({ pool with joined := pool.joined.filter fun other => other ≠ id }, .ok ())
  remove pool id := { pool with joined := pool.joined.filter fun other => other ≠ id }

/-- The pool keeps the promises of a native context. -/
def nativePoolLaws : NativeLaws nativePool where
  Held pool id := id < pool.next
  Joined pool id := id ∈ pool.joined
  not_held_of_add h := by cases h; exact lt_irrefl _
  held_of_add h := by cases h; exact Nat.lt_succ_self _
  held_add _ h := Nat.lt_succ_of_lt h
  held_join _ h := by simp only [nativePool]; split <;> exact h
  held_leave _ h := h
  held_remove _ h := h
  joined_of_join h := by
    simp only [nativePool] at h
    split at h
    · cases h
      exact List.mem_cons_self
    · cases h
  joined_add _ h := h
  joined_join _ h := by
    simp only [nativePool]
    split
    · exact List.mem_cons_of_mem _ h
    · exact h
  joined_leave hne h := by simpa [nativePool] using ⟨h, hne⟩
  joined_leave_err h := by cases h
  joined_remove hne h := by simpa [nativePool] using ⟨h, hne⟩

/-- A digest that ignores its input. -/
def constantDigest : RelaySecret → Bytes → Octets 32 := fun _ _ => .zero 32

/-- A gateway reports one record of group 239.1.1.1. -/
def reports (now : Instant) (peer : SocketAddr) (kind : MembershipRecordKind)
    (sources : List IpAddr) : ControlEvent :=
  let report : MembershipReport := ⟨.igmpv3, [⟨kind, .v4 (.new 239 1 1 1), sources⟩]⟩
  let packet := match buildMembershipReport report with
    | .ok packet => packet
    | _ => []
  let secret : RelaySecret := ⟨.zero 32⟩
  let mac := responseMacWithSecret constantDigest secret peer.ip peer.port 1
  .datagram { clock := .at now, generated := none } none now peer
    (encode (.membershipUpdate mac 1 packet))

/-- One gateway wants every source, another one a single source.  The first one expires,
so that the any-source subscription should become a source-specific one. -/
def expiringRun : List ControlEvent :=
  [reports 0 (.v4 (.new 192 0 2 1) 5001) .changeToExclude [],
    reports 10 (.v4 (.new 192 0 2 2) 5002) .changeToInclude [.v4 (.new 198 51 100 1)],
    .prune 5 10, .sync none]

/-- The daemon after these events, with room for one native subscription. -/
def expired : RelayControlPlane NativePool ℕ :=
  (start (.forBind ⟨.zero 32⟩ (.v4 (.new 192 0 2 9) 2268)) 0 .default
    ⟨0, 1, []⟩).afterEvents constantDigest nativePool expiringRun

/-- There is no room to join the second subscription, and the gateway that is left is
still served by the first one. -/
theorem afterEvents_captured_failed_join :
    ∃ id, expired.upstream.active[UpstreamSubscription.asm (.v4 (.new 239 1 1 1))]? = some id ∧
      nativePoolLaws.Joined expired.upstream.context id := by
  have hinterest : expired.relay.state.endpointInterest (.v4 (.new 192 0 2 2) 5002)
      (.v4 (.new 239 1 1 1)) = some (.ofInclude [.v4 (.new 198 51 100 1)]) := by decide +kernel
  have hnone : expired.upstream.active[UpstreamSubscription.ssm (.v4 (.new 239 1 1 1))
      (.v4 (.new 198 51 100 1))]? = none := by decide +kernel
  obtain ⟨subscription, rfl | rfl, id, hactive, hjoined⟩ :=
    afterEvents_captured constantDigest nativePool _ 0 _ _ expiringRun _ _
      (.v4 (.new 198 51 100 1)) _ hinterest (by decide +kernel)
  · exact ⟨id, hactive, hjoined nativePoolLaws⟩
  · exact absurd (hnone.symm.trans hactive) (by simp)

end RelayControlPlane

end Steps

end Amt

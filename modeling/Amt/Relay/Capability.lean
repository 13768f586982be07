import Amt.Lib.Admission
import Amt.Lib.Log
import Amt.Relay.Secrets

/-!
# Which gateways have declared ECN

A gateway says in its Request whether it can decapsulate ECN.  The relay remembers the
gateways that did, with the time, in a table of bounded size: a Request with the flag enters
the gateway or renews its time, a Request without it takes the gateway out, and so do a
Teardown and the removal of the gateway.  Entries also expire.

* **A table of bounded size.**  A gateway that is not in the table is only entered when there
  is room (`size_rememberGatewayEcnCapability_le`).
* **The table follows the history.**  The events of a run (`GatewayEvent`) are its Requests,
  its accepted Teardowns and its removals.  If a gateway is in the table, then the latest event
  about it is a Request with the flag, at the time that is in the table (`DeclaredBy`).  The
  table may forget a gateway at any time, by expiry or for want of room, so nothing holds in
  the other direction.

A Teardown names the endpoint that the relay reads off its fields (`teardownEndpoint`).  For
the gateways that are `SocketAddr.Nameable` that is the endpoint the fields were written for.
-/

namespace Amt

namespace Relay

variable (hmac : RelaySecret → Bytes → Octets 32)

/-! ## Remembering a Request -/

section Remember

variable {relay : Relay} {now : Instant} {peer : SocketAddr} {capable : Bool}

/-- The entries that have not expired. -/
def unexpired (relay : Relay) (now : Instant) : BTreeMap SocketAddr Instant :=
  relay.gatewayEcnCapabilities.filter fun _ observed =>
    elapsed observed now ≤ relay.gatewayCapabilityLifetime

theorem getElem?_of_unexpired {e : SocketAddr} {t : Instant}
    (h : (relay.unexpired now)[e]? = some t) : relay.gatewayEcnCapabilities[e]? = some t := by
  rw [unexpired, BTreeMap.getElem?_filter_eq, Option.filter_eq_some_iff] at h
  exact h.1

theorem size_unexpired_le (relay : Relay) (now : Instant) :
    (relay.unexpired now).size ≤ relay.gatewayEcnCapabilities.size :=
  BTreeMap.size_le_of_getElem? fun _ t h => ⟨t, getElem?_of_unexpired h⟩

/-- **What a Request does to the table**: the gateway is taken out, entered, or turned away. -/
theorem rememberGatewayEcnCapability_cases (relay : Relay) (now : Instant) (peer : SocketAddr)
    (capable : Bool) :
    (relay.rememberGatewayEcnCapability now peer capable).gatewayEcnCapabilities =
        (relay.unexpired now).erase peer ∨
      (capable = true ∧
        ((relay.unexpired now)[peer]?.isSome = true ∨
          (relay.unexpired now).size < relay.config.limits.maxEndpoints) ∧
        (relay.rememberGatewayEcnCapability now peer capable).gatewayEcnCapabilities =
          (relay.unexpired now).insert peer now) ∨
      ((relay.unexpired now)[peer]? = none ∧
        (relay.rememberGatewayEcnCapability now peer capable).gatewayEcnCapabilities =
          relay.unexpired now) := by
  unfold rememberGatewayEcnCapability
  dsimp only
  split
  · exact .inl rfl
  · next hdeclared =>
      rw [Bool.or_eq_true, not_or, Bool.not_eq_true', Bool.not_eq_true', Bool.not_eq_false,
        Bool.not_eq_false] at hdeclared
      split
      · next hroom =>
          rw [Bool.or_eq_true, decide_eq_true_iff, Std.ExtTreeMap.contains_eq_isSome_getElem?]
            at hroom
          exact .inr (.inl ⟨hdeclared.2, hroom, rfl⟩)
      · next hfull =>
          rw [Bool.or_eq_true, not_or, Std.ExtTreeMap.contains_eq_isSome_getElem?,
            Option.not_isSome_iff_eq_none] at hfull
          exact .inr (.inr ⟨hfull.1, rfl⟩)

/-- The table never outgrows the limit on gateways. -/
theorem size_rememberGatewayEcnCapability_le
    (h : relay.gatewayEcnCapabilities.size ≤ relay.config.limits.maxEndpoints) :
    (relay.rememberGatewayEcnCapability now peer capable).gatewayEcnCapabilities.size ≤
      relay.config.limits.maxEndpoints := by
  have hunexpired := (relay.size_unexpired_le now).trans h
  rcases relay.rememberGatewayEcnCapability_cases now peer capable with
    hcases | ⟨-, hroom, hcases⟩ | ⟨-, hcases⟩
  · rw [hcases]
    refine le_trans (BTreeMap.size_le_of_getElem? fun e t he => ⟨t, ?_⟩) hunexpired
    exact (BTreeMap.getElem?_erase_eq_some_iff.mp he).2
  · rw [hcases]
    cases hpeer : (relay.unexpired now)[peer]? with
    | some t => rwa [BTreeMap.size_insert_of_some hpeer]
    | none =>
        rw [BTreeMap.size_insert_of_none hpeer]
        rcases hroom with hsome | hroom
        · rw [hpeer] at hsome
          cases hsome
        · exact hroom
  · rw [hcases]
    exact hunexpired

theorem getElem?_rememberGatewayEcnCapability_of_ne {e : SocketAddr} {t : Instant} (he : peer ≠ e)
    (h : (relay.rememberGatewayEcnCapability now peer capable).gatewayEcnCapabilities[e]?
      = some t) : relay.gatewayEcnCapabilities[e]? = some t := by
  rcases relay.rememberGatewayEcnCapability_cases now peer capable with
    hcases | ⟨-, -, hcases⟩ | ⟨-, hcases⟩
  · rw [hcases] at h
    exact getElem?_of_unexpired (BTreeMap.getElem?_erase_eq_some_iff.mp h).2
  · rw [hcases, BTreeMap.getElem?_insert_eq, if_neg he] at h
    exact getElem?_of_unexpired h
  · rw [hcases] at h
    exact getElem?_of_unexpired h

theorem getElem?_rememberGatewayEcnCapability_self {t : Instant}
    (h : (relay.rememberGatewayEcnCapability now peer capable).gatewayEcnCapabilities[peer]?
      = some t) : capable = true ∧ t = now := by
  rcases relay.rememberGatewayEcnCapability_cases now peer capable with
    hcases | ⟨hcapable, -, hcases⟩ | ⟨hnone, hcases⟩
  · rw [hcases] at h
    exact absurd rfl (BTreeMap.getElem?_erase_eq_some_iff.mp h).1
  · rw [hcases, BTreeMap.getElem?_insert_eq, if_pos rfl] at h
    exact ⟨hcapable, (Option.some.inj h).symm⟩
  · rw [hcases, hnone] at h
    cases h

end Remember

/-! ## Runs and their events -/

/-- The calls that change a relay. -/
inductive Operation where
  | handleDatagram (env : CallEnv) (peer : SocketAddr) (datagram : Bytes)
  | prepareDatagram (env : CallEnv) (peer : SocketAddr) (datagram : Bytes)
  | commitState (state : RelayState)
  | removeGateway (endpoint : SocketAddr)

/-- The relay after one call. -/
def operate (relay : Relay) : Operation → Relay
  | .handleDatagram env peer datagram => (relay.handleDatagram hmac env peer datagram).1
  | .prepareDatagram env peer datagram => (relay.prepareDatagram hmac env peer datagram).1
  | .commitState state => relay.commitState state
  | .removeGateway endpoint => (relay.removeGateway endpoint).1

/-- The relay after a sequence of calls. -/
def afterOperations (config : RelayConfig) (start : Instant) (operations : List Operation) :
    Relay :=
  operations.foldl (operate hmac) (.new config start)

/-- What concerns the ECN capability of a gateway. -/
inductive GatewayEvent where
  /-- A Request of the gateway, its flag, and when it was handled. -/
  | request (gateway : SocketAddr) (ecnCapable : Bool) (handled : Instant)
  /-- An accepted Teardown that names the gateway. -/
  | teardown (gateway : SocketAddr)
  | removal (gateway : SocketAddr)
deriving DecidableEq, Repr

/-- The gateway the event is about. -/
def GatewayEvent.gateway : GatewayEvent → SocketAddr
  | .request gateway _ _ => gateway
  | .teardown gateway => gateway
  | .removal gateway => gateway

/-- The answer accepts a Teardown. -/
def acceptsTeardown : Outcome RelayError (RelayAction × Option RelayState) → Bool
  | .ok (.acceptedTeardown _ _, _) => true
  | _ => false

/-- The event of a received datagram. -/
def datagramEvent (relay : Relay) (env : CallEnv) (peer : SocketAddr) (datagram : Bytes) :
    Option GatewayEvent :=
  match decode datagram with
  | .ok (.request _ _ ecnCapable) => some (.request peer ecnCapable env.clock.processing)
  | .ok (.teardown _ _ gateway) =>
      if acceptsTeardown (relay.prepareDatagram hmac env peer datagram).2 then
        some (.teardown (teardownEndpoint gateway))
      else none
  | _ => none

/-- What a call means for the capability of a gateway. -/
def operationEvent (relay : Relay) : Operation → Option GatewayEvent
  | .handleDatagram env peer datagram => relay.datagramEvent hmac env peer datagram
  | .prepareDatagram env peer datagram => relay.datagramEvent hmac env peer datagram
  | .commitState _ => none
  | .removeGateway endpoint => some (.removal endpoint)

/-- The events of a run. -/
def gatewayEvents (config : RelayConfig) (start : Instant) (operations : List Operation) :
    List GatewayEvent :=
  emitted (operate hmac) (operationEvent hmac) (.new config start) operations

@[simp] theorem capabilities_rotateSecretIfDue (relay : Relay) (env : CallEnv) :
    (relay.rotateSecretIfDue env).gatewayEcnCapabilities = relay.gatewayEcnCapabilities := by
  rcases rotateSecretIfDue_cases relay env with hsame | ⟨⟨next, -, heq⟩, -⟩
  · rw [hsame]
  · rw [heq]
    rfl

/-- A Teardown takes the gateway it names out of the table exactly if it is accepted. -/
theorem capabilities_prepareTeardown (relay : Relay) (now : Instant) (mac : ResponseMac)
    (nonce : UInt32) (gateway : GatewayEndpoint) :
    (relay.prepareTeardown hmac now mac nonce gateway).1.gatewayEcnCapabilities =
      if acceptsTeardown (relay.prepareTeardown hmac now mac nonce gateway).2 then
        relay.gatewayEcnCapabilities.erase (teardownEndpoint gateway)
      else relay.gatewayEcnCapabilities := by
  unfold prepareTeardown
  dsimp only
  split
  · split
    · rfl
    · rfl
  · rfl

/-- **What a datagram does to the table**, by its event. -/
theorem capabilities_prepareDatagram (env : CallEnv) (relay : Relay) (peer : SocketAddr)
    (datagram : Bytes) :
    (∃ capable, relay.datagramEvent hmac env peer datagram =
          some (.request peer capable env.clock.processing) ∧
        (relay.prepareDatagram hmac env peer datagram).1.gatewayEcnCapabilities =
          ((relay.rotateSecretIfDue env).rememberGatewayEcnCapability env.clock.processing peer
            capable).gatewayEcnCapabilities) ∨
      (∃ endpoint, relay.datagramEvent hmac env peer datagram = some (.teardown endpoint) ∧
        (relay.prepareDatagram hmac env peer datagram).1.gatewayEcnCapabilities =
          relay.gatewayEcnCapabilities.erase endpoint) ∨
      relay.datagramEvent hmac env peer datagram = none ∧
        (relay.prepareDatagram hmac env peer datagram).1.gatewayEcnCapabilities =
          relay.gatewayEcnCapabilities := by
  have hrotate := capabilities_rotateSecretIfDue relay env
  unfold datagramEvent prepareDatagram
  cases hdecode : decode datagram with
  | err error => exact .inr (.inr ⟨rfl, hrotate⟩)
  | panic => exact .inr (.inr ⟨rfl, hrotate⟩)
  | ok message =>
      cases message with
      | request nonce protocol capable => exact .inl ⟨capable, rfl, rfl⟩
      | teardown mac nonce gateway =>
          have hteardown := capabilities_prepareTeardown hmac (relay.rotateSecretIfDue env)
            env.clock.processing mac nonce gateway
          rw [hrotate] at hteardown
          by_cases haccepted : acceptsTeardown (prepareTeardown hmac (relay.rotateSecretIfDue env)
              env.clock.processing mac nonce gateway).2 = true
          · exact .inr (.inl ⟨_, if_pos haccepted, hteardown.trans (if_pos haccepted)⟩)
          · exact .inr (.inr ⟨if_neg haccepted, hteardown.trans (if_neg haccepted)⟩)
      | relayDiscovery nonce => exact .inr (.inr ⟨rfl, hrotate⟩)
      | membershipUpdate mac nonce update => exact .inr (.inr ⟨rfl, hrotate⟩)
      | relayAdvertisement nonce address => exact .inr (.inr ⟨rfl, hrotate⟩)
      | membershipQuery mac nonce limit gateway query => exact .inr (.inr ⟨rfl, hrotate⟩)
      | multicastData packet => exact .inr (.inr ⟨rfl, hrotate⟩)

/-- Committing the candidate leaves the table and the configuration alone. -/
theorem handleDatagram_eq_prepareDatagram (env : CallEnv) (relay : Relay) (peer : SocketAddr)
    (datagram : Bytes) :
    ∃ state, (relay.handleDatagram hmac env peer datagram).1 =
      (relay.prepareDatagram hmac env peer datagram).1.commitState state := by
  unfold handleDatagram
  cases relay.prepareDatagram hmac env peer datagram with
  | mk relay' outcome =>
      cases outcome with
      | ok result =>
          obtain ⟨action, next⟩ := result
          cases next with
          | none => exact ⟨relay'.state, rfl⟩
          | some next => exact ⟨next, rfl⟩
      | err error => exact ⟨relay'.state, rfl⟩
      | panic => exact ⟨relay'.state, rfl⟩

/-! ## The table and the history -/

/-- **The table follows the history**: it is within its bound, and who is in it has declared
the capability in the latest event about it.  The settings that matter do not change. -/
structure DeclaredBy (config : RelayConfig) (log : List GatewayEvent) (relay : Relay) : Prop where
  ecn_eq : relay.config.ecn = config.ecn
  limits_eq : relay.config.limits = config.limits
  generalQuery_eq : relay.config.generalQuery = config.generalQuery
  size_le : relay.gatewayEcnCapabilities.size ≤ config.limits.maxEndpoints
  latest_eq : ∀ e t, relay.gatewayEcnCapabilities[e]? = some t →
    latest GatewayEvent.gateway log e = some (.request e true t)

section Declared

variable {config : RelayConfig} {log : List GatewayEvent} {relay relay' : Relay}

theorem declaredBy_new (config : RelayConfig) (start : Instant) :
    DeclaredBy config [] (.new config start) where
  ecn_eq := rfl
  limits_eq := rfl
  generalQuery_eq := rfl
  size_le := Nat.zero_le _
  latest_eq e t h := by simp [Relay.new] at h

theorem DeclaredBy.commitState (h : DeclaredBy config log relay) (state : RelayState) :
    DeclaredBy config log (relay.commitState state) :=
  ⟨h.ecn_eq, h.limits_eq, h.generalQuery_eq, h.size_le, h.latest_eq⟩

theorem DeclaredBy.rotateSecretIfDue (h : DeclaredBy config log relay) (env : CallEnv) :
    DeclaredBy config log (relay.rotateSecretIfDue env) := by
  rcases rotateSecretIfDue_cases relay env with hsame | ⟨⟨next, -, heq⟩, -⟩
  · rw [hsame]
    exact h
  · rw [heq]
    exact ⟨h.ecn_eq, h.limits_eq, h.generalQuery_eq, h.size_le, h.latest_eq⟩

/-- A gateway that is taken out of the table may have any event. -/
theorem DeclaredBy.erase (h : DeclaredBy config log relay) (hconfig : relay'.config = relay.config)
    {event : GatewayEvent} (htable : relay'.gatewayEcnCapabilities =
      relay.gatewayEcnCapabilities.erase event.gateway) :
    DeclaredBy config (log ++ [event]) relay' where
  ecn_eq := hconfig ▸ h.ecn_eq
  limits_eq := hconfig ▸ h.limits_eq
  generalQuery_eq := hconfig ▸ h.generalQuery_eq
  size_le := by
    rw [htable]
    refine le_trans (BTreeMap.size_le_of_getElem? fun e t he => ⟨t, ?_⟩) h.size_le
    exact (BTreeMap.getElem?_erase_eq_some_iff.mp he).2
  latest_eq e t he := by
    rw [htable] at he
    obtain ⟨hne, he⟩ := BTreeMap.getElem?_erase_eq_some_iff.mp he
    rw [latest_append_singleton, if_neg hne]
    exact h.latest_eq e t he

/-- A Request enters the log with its flag. -/
theorem DeclaredBy.request (h : DeclaredBy config log relay)
    (hconfig : relay'.config = relay.config) {peer : SocketAddr} {capable : Bool} {now : Instant}
    (htable : relay'.gatewayEcnCapabilities =
      (relay.rememberGatewayEcnCapability now peer capable).gatewayEcnCapabilities) :
    DeclaredBy config (log ++ [.request peer capable now]) relay' where
  ecn_eq := hconfig ▸ h.ecn_eq
  limits_eq := hconfig ▸ h.limits_eq
  generalQuery_eq := hconfig ▸ h.generalQuery_eq
  size_le := by
    have hsize := h.size_le
    rw [← h.limits_eq] at hsize ⊢
    rw [htable]
    exact size_rememberGatewayEcnCapability_le hsize
  latest_eq e t he := by
    rw [htable] at he
    rw [latest_append_singleton]
    by_cases hpeer : peer = e
    · subst hpeer
      obtain ⟨rfl, rfl⟩ := getElem?_rememberGatewayEcnCapability_self he
      exact if_pos rfl
    · rw [GatewayEvent.gateway, if_neg hpeer]
      exact h.latest_eq e t (getElem?_rememberGatewayEcnCapability_of_ne hpeer he)

/-- A datagram enters the log with its event, if it has one. -/
theorem DeclaredBy.prepareDatagram (h : DeclaredBy config log relay) (env : CallEnv)
    (peer : SocketAddr) (datagram : Bytes) :
    DeclaredBy config (log ++ (relay.datagramEvent hmac env peer datagram).toList)
      (relay.prepareDatagram hmac env peer datagram).1 := by
  have hrotated := h.rotateSecretIfDue env
  have hconfig := (sameSecrets_prepareDatagram hmac env relay peer datagram).1
  have hrotate := capabilities_rotateSecretIfDue relay env
  rcases capabilities_prepareDatagram hmac env relay peer datagram with
    ⟨capable, hevent, htable⟩ | ⟨endpoint, hevent, htable⟩ | ⟨hevent, htable⟩
  · rw [hevent]
    exact hrotated.request hconfig htable
  · rw [hevent]
    rw [← hrotate] at htable
    exact hrotated.erase hconfig htable
  · rw [hevent, Option.toList_none, List.append_nil]
    refine ⟨hconfig ▸ hrotated.ecn_eq, hconfig ▸ hrotated.limits_eq,
      hconfig ▸ hrotated.generalQuery_eq, ?_, ?_⟩
    · rw [htable]
      exact h.size_le
    · rw [htable]
      exact h.latest_eq

/-- **The step.** -/
theorem DeclaredBy.operate (h : DeclaredBy config log relay) (operation : Operation) :
    DeclaredBy config (log ++ (relay.operationEvent hmac operation).toList)
      (relay.operate hmac operation) := by
  cases operation with
  | handleDatagram env peer datagram =>
      obtain ⟨state, hstate⟩ := handleDatagram_eq_prepareDatagram hmac env relay peer datagram
      show DeclaredBy config _ (relay.handleDatagram hmac env peer datagram).1
      rw [hstate]
      exact (h.prepareDatagram hmac env peer datagram).commitState state
  | prepareDatagram env peer datagram => exact h.prepareDatagram hmac env peer datagram
  | commitState state =>
      rw [operationEvent, Option.toList_none, List.append_nil]
      exact h.commitState state
  | removeGateway endpoint =>
      have htable : (relay.removeGateway endpoint).1.gatewayEcnCapabilities =
          relay.gatewayEcnCapabilities.erase (GatewayEvent.removal endpoint).gateway := rfl
      have hconfig : (relay.removeGateway endpoint).1.config = relay.config := rfl
      exact h.erase hconfig htable

theorem declaredBy_afterOperations (config : RelayConfig) (start : Instant)
    (operations : List Operation) :
    DeclaredBy config (gatewayEvents hmac config start operations)
      (afterOperations hmac config start operations) :=
  emitted_invariant (Relay.operate hmac) (operationEvent hmac) (declaredBy_new config start)
    (fun _ _ operation h => h.operate hmac operation) operations

/-- The gateway has declared the capability at most two query intervals ago, and nothing about
it has happened since. -/
def Declares (config : RelayConfig) (log : List GatewayEvent) (now : Instant)
    (gateway : SocketAddr) : Prop :=
  config.ecn = true ∧ ∃ earlier handled later,
    log = earlier ++ .request gateway true handled :: later ∧
    now ≤ handled + queryInterval config.generalQuery.queryIntervalCode * 2 ∧
    ∀ event ∈ later, event.gateway ≠ gateway

theorem DeclaredBy.declares (h : DeclaredBy config log relay) {now : Instant} {e : SocketAddr}
    (hcapable : relay.gatewayEcnCapable now e = true) : Declares config log now e := by
  rw [gatewayEcnCapable, Bool.and_eq_true, Option.any_eq_true] at hcapable
  obtain ⟨hecn, handled, hobserved, helapsed⟩ := hcapable
  rw [decide_eq_true_iff, elapsed_le_iff, gatewayCapabilityLifetime, h.generalQuery_eq] at helapsed
  obtain ⟨earlier, later, hlog, -, hlater⟩ :=
    exists_append_of_latest (h.latest_eq e handled hobserved)
  exact ⟨h.ecn_eq ▸ hecn, earlier, handled, later, hlog, helapsed, hlater⟩

end Declared

end Relay

end Amt

import Amt.Query
import Amt.State

/-!
# The relay

One UDP datagram at a time: discovery, requests (which hand out a Response MAC),
membership updates and teardowns (which have to present one).

* **Time and randomness are inputs.**  A call reads the clock up to four times, in
  order, and may draw a new secret; `CallClock` and `CallEnv` carry these readings.
* **The MAC is a parameter.**  `hmac` stands for HMAC-SHA-256: an arbitrary function of
  the secret and the authenticated bytes.
* **Updates are prepared, not applied.**  `prepareDatagram` returns a candidate state
  next to its answer, so that a caller can reconcile native subscriptions before it
  commits; `handleDatagram` commits at once.
-/

namespace Amt

open Outcome (ensure)

/-! ## Secrets and configuration -/

/-- The key of the Response MACs. -/
structure RelaySecret where
  bytes : Octets 32
deriving DecidableEq, Repr

/-- The limit flag refuses new gateways whatever the load is. -/
structure RelayConfig where
  bind : SocketAddr
  advertiseIpv4 : Ipv4Addr
  advertiseIpv6 : Ipv6Addr
  secret : RelaySecret
  includeGatewayAddress : Bool
  ecn : Bool
  limit : Bool
  limits : RelayLimits
  secretRotationInterval : Option Duration
  generalQuery : GeneralQueryConfig
deriving DecidableEq, Repr

namespace RelayConfig

/-- The default configuration, with the generated secret as an argument. -/
def default (secret : RelaySecret) : RelayConfig where
  bind := .v4 .unspecified 2268
  advertiseIpv4 := .new 127 0 0 1
  advertiseIpv6 := .new 0 0 0 0 0 0 0 1
  secret := secret
  includeGatewayAddress := true
  ecn := false
  limit := false
  limits := .default
  secretRotationInterval := some (Duration.fromSecs (2 * 60 * 60))
  generalQuery := .default

/-- A relay advertises the address it is bound to, unless that is unspecified. -/
def forBind (secret : RelaySecret) (bind : SocketAddr) : RelayConfig :=
  let config := { default secret with bind }
  match bind.ip with
  | .v4 addr => if !addr.isUnspecified then { config with advertiseIpv4 := addr } else config
  | .v6 addr => if !addr.isUnspecified then { config with advertiseIpv6 := addr } else config

/-- The advertised address of the peer's family. -/
def advertisedAddrFor (config : RelayConfig) : SocketAddr → IpAddr
  | .v4 _ _ => .v4 config.advertiseIpv4
  | .v6 _ _ _ _ => .v6 config.advertiseIpv6

end RelayConfig

/-- A replaced key, which is accepted for a while. -/
structure PreviousSecret where
  secret : RelaySecret
  rotatedAt : Instant
deriving DecidableEq, Repr

/-- The relay: its keys, what the gateways want, and which of them can do ECN. -/
structure Relay where
  config : RelayConfig
  state : RelayState
  previousSecret : Option PreviousSecret
  secretRotatedAt : Instant
  gatewayEcnCapabilities : BTreeMap SocketAddr Instant
deriving DecidableEq

/-- What the caller has to do after a datagram. -/
inductive RelayAction where
  | send (datagram : Bytes)
  | acceptedMembershipUpdate (protocol : MembershipProtocol) (bytes recordsApplied : ℕ)
      (upstreamSubscriptions : List UpstreamSubscription)
  | acceptedTeardown (gateway : GatewayEndpoint) (removed : Bool)
  | rejectedAuth
  | ignored
deriving DecidableEq, Repr

/-- Why a datagram is refused. -/
inductive RelayError where
  | decode (error : DecodeError)
  | membership (error : MembershipParseError)
  | resourceLimit (error : StateLimitError)
  | zeroNonce
deriving DecidableEq, Repr

/-! ## What a call reads from outside -/

/-- The clock readings of one call, in the order they are taken. -/
structure CallClock where
  /-- Is a rotation due? -/
  rotationCheck : Instant
  /-- Is the grace time of the previous secret over? -/
  graceCheck : Instant
  /-- The time of the rotation itself. -/
  rotation : Instant
  /-- The message is processed. -/
  processing : Instant
  rotationCheck_le : rotationCheck ≤ graceCheck
  graceCheck_le : graceCheck ≤ rotation
  rotation_le : rotation ≤ processing

/-- A call during which the clock does not advance. -/
def CallClock.at (now : Instant) : CallClock :=
  ⟨now, now, now, now, le_rfl, le_rfl, le_rfl⟩

/-- What one call reads from outside: the clock, and the secret the operating system
generates, if it can. -/
structure CallEnv where
  clock : CallClock
  generated : Option RelaySecret

/-! ## Response MACs -/

section Mac

variable (hmac : RelaySecret → Bytes → Octets 32)

/-- The bytes a Response MAC authenticates. -/
def macInput (gatewayIp : IpAddr) (gatewayPort : UInt16) (requestNonce : UInt32) : Bytes :=
  (GatewayAddress.fromIpAddr gatewayIp).octets.toList ++ u16ToBe gatewayPort ++
    u32ToBe requestNonce

/-- The first six bytes of the digest. -/
def responseMacWithSecret (secret : RelaySecret) (gatewayIp : IpAddr) (gatewayPort : UInt16)
    (requestNonce : UInt32) : ResponseMac :=
  let digest := hmac secret (macInput gatewayIp gatewayPort requestNonce)
  ⟨⟨digest.toList.take 6, by simp⟩⟩

end Mac

namespace Relay

/-- A relay that nobody has talked to. -/
def new (config : RelayConfig) (now : Instant) : Relay where
  config := config
  state := .default
  previousSecret := none
  secretRotatedAt := now
  gatewayEcnCapabilities := ∅

/-- Forget a gateway, its interests and its capability; was there one? -/
def removeGateway (relay : Relay) (endpoint : SocketAddr) : Relay × Bool :=
  let (state, removed) := relay.state.removeEndpoint endpoint
  ({ relay with
      gatewayEcnCapabilities := relay.gatewayEcnCapabilities.erase endpoint
      state }, removed)

def commitState (relay : Relay) (state : RelayState) : Relay := { relay with state }

/-- Twice the advertised query interval: how long a replaced secret stays valid. -/
def previousGrace (relay : Relay) : Duration :=
  queryInterval relay.config.generalQuery.queryIntervalCode * 2

def gatewayCapabilityLifetime (relay : Relay) : Duration :=
  queryInterval relay.config.generalQuery.queryIntervalCode * 2

/-- The gateway has said so within the lifetime of a capability. -/
def gatewayEcnCapable (relay : Relay) (now : Instant) (endpoint : SocketAddr) : Bool :=
  relay.config.ecn &&
    relay.gatewayEcnCapabilities[endpoint]?.any fun observed =>
      elapsed observed now ≤ relay.gatewayCapabilityLifetime

/-- A new entry needs room in the table; expired entries make room. -/
def rememberGatewayEcnCapability (relay : Relay) (now : Instant) (endpoint : SocketAddr)
    (capable : Bool) : Relay :=
  let retained : BTreeMap SocketAddr Instant :=
    relay.gatewayEcnCapabilities.filter fun _ observed =>
      elapsed observed now ≤ relay.gatewayCapabilityLifetime
  if !relay.config.ecn || !capable then
    { relay with gatewayEcnCapabilities := retained.erase endpoint }
  else if retained.contains endpoint || retained.size < relay.config.limits.maxEndpoints then
    { relay with gatewayEcnCapabilities := retained.insert endpoint now }
  else { relay with gatewayEcnCapabilities := retained }

/-- Not while the previous key is accepted, so that there are never three. -/
def rotateSecretIfDue (relay : Relay) (env : CallEnv) : Relay :=
  match relay.config.secretRotationInterval with
  | none => relay
  | some interval =>
      if elapsed relay.secretRotatedAt env.clock.rotationCheck < interval then relay
      else if relay.previousSecret.any fun previous =>
          elapsed previous.rotatedAt env.clock.graceCheck ≤ relay.previousGrace then relay
      else
        match env.generated with
        | none => relay
        | some nextSecret =>
            { relay with
              config := { relay.config with secret := nextSecret }
              previousSecret :=
                some { secret := relay.config.secret, rotatedAt := env.clock.rotation }
              secretRotatedAt := env.clock.rotation }

/-- What the L flag of a Query says. -/
def refusingNewEndpoint (relay : Relay) (address : IpAddr) : Bool :=
  relay.config.limit || relay.state.isNearLimits relay.config.limits ||
    relay.state.isIpNearEndpointLimit address relay.config.limits.maxEndpointsPerIp

section Handle

variable (hmac : RelaySecret → Bytes → Octets 32)

/-- The MAC of a peer's address and nonce, with the current key. -/
def responseMac (relay : Relay) (gatewayIp : IpAddr) (gatewayPort : UInt16)
    (requestNonce : UInt32) : ResponseMac :=
  responseMacWithSecret hmac relay.config.secret gatewayIp gatewayPort requestNonce

/-- Under the current key, or the previous one in its grace time. -/
def validResponseMac (relay : Relay) (now : Instant) (actual : ResponseMac) (gatewayIp : IpAddr)
    (gatewayPort : UInt16) (requestNonce : UInt32) : Bool :=
  actual.constantTimeEq (relay.responseMac hmac gatewayIp gatewayPort requestNonce) ||
    relay.previousSecret.any fun previous =>
      if elapsed previous.rotatedAt now > relay.previousGrace then false
      else
        actual.constantTimeEq
          (responseMacWithSecret hmac previous.secret gatewayIp gatewayPort requestNonce)

/-- The Relay Discovery arm of `prepare_datagram`. -/
def prepareDiscovery (relay : Relay) (peer : SocketAddr) (discoveryNonce : UInt32) :
    Outcome RelayError (RelayAction × Option RelayState) := do
  ensure (¬ discoveryNonce = 0) .zeroNonce
  pure (.send (encode (.relayAdvertisement discoveryNonce
    (relay.config.advertisedAddrFor peer))), none)

/-- The Request arm of `prepare_datagram`. -/
def prepareRequest (relay : Relay) (peer : SocketAddr) (requestNonce : UInt32)
    (protocol : MembershipProtocol) : Outcome RelayError (RelayAction × Option RelayState) := do
  let responseMac := relay.responseMac hmac peer.ip peer.port requestNonce
  let generalQuery ← buildGeneralQuery protocol relay.config.generalQuery
  let gateway :=
    if relay.config.includeGatewayAddress then
      some { port := peer.port, address := GatewayAddress.fromIpAddr peer.ip }
    else none
  pure (.send (encode (.membershipQuery responseMac requestNonce
    (relay.refusingNewEndpoint peer.ip) gateway generalQuery)), none)

/-- What the limits of the relay let a report hold. -/
def parseLimits (relay : Relay) : MembershipParseLimits where
  maxRecords := relay.config.limits.maxRecordsPerReport
  maxSourcesPerRecord := relay.config.limits.maxSourcesPerGroup

/-- The Membership Update arm of `prepare_datagram`, once the MAC is valid. -/
def prepareReport (relay : Relay) (peer : SocketAddr) (membershipUpdate : Bytes) :
    Outcome RelayError (RelayAction × Option RelayState) := do
  if !relay.state.containsEndpoint peer && relay.refusingNewEndpoint peer.ip then
    pure (.ignored, none)
  else do
    let report ←
      (parseMembershipReportWithLimits membershipUpdate relay.parseLimits).mapErr .membership
    match (report.records.map fun record => record.group).find? fun group =>
        !isAmtForwardableGroup group with
    | some group => .err (.membership (.invalidMulticastGroup group))
    | none => do
        let (recordsApplied, changed) := relay.state.previewReport peer report
        if !changed then
          pure (.acceptedMembershipUpdate report.protocol membershipUpdate.length recordsApplied
            relay.state.upstreamSubscriptions, none)
        else do
          let (nextState, result) :=
            relay.state.applyReportLimited peer report relay.config.limits
          let _ ← result.mapErr .resourceLimit
          pure (.acceptedMembershipUpdate report.protocol membershipUpdate.length recordsApplied
            nextState.upstreamSubscriptions, some nextState)

/-- The Membership Update arm of `prepare_datagram`. -/
def prepareUpdate (relay : Relay) (now : Instant) (peer : SocketAddr) (responseMac : ResponseMac)
    (requestNonce : UInt32) (membershipUpdate : Bytes) :
    Outcome RelayError (RelayAction × Option RelayState) :=
  if relay.validResponseMac hmac now responseMac peer.ip peer.port requestNonce then
    relay.prepareReport peer membershipUpdate
  else .ok (.rejectedAuth, none)

/-- The gateway address a Teardown names. -/
def teardownIp (gateway : GatewayEndpoint) : IpAddr :=
  match gateway.address.asIpv4Compatible with
  | some address => .v4 address
  | none => .v6 gateway.address.asIpv6

/-- The endpoint a Teardown names. -/
def teardownEndpoint (gateway : GatewayEndpoint) : SocketAddr :=
  SocketAddr.new (teardownIp gateway) gateway.port

/-- The Teardown arm of `prepare_datagram`. -/
def prepareTeardown (relay : Relay) (now : Instant) (responseMac : ResponseMac)
    (requestNonce : UInt32) (gateway : GatewayEndpoint) :
    Relay × Outcome RelayError (RelayAction × Option RelayState) :=
  let endpoint := teardownEndpoint gateway
  if relay.validResponseMac hmac now responseMac (teardownIp gateway) gateway.port requestNonce then
    let relay :=
      { relay with gatewayEcnCapabilities := relay.gatewayEcnCapabilities.erase endpoint }
    if !relay.state.containsEndpoint endpoint then
      (relay, .ok (.acceptedTeardown gateway false, none))
    else
      let (nextState, removed) := relay.state.removeEndpoint endpoint
      (relay, .ok (.acceptedTeardown gateway removed, if removed then some nextState else none))
  else (relay, .ok (.rejectedAuth, none))

/-- The dispatch of `prepare_datagram`, after the rotation. -/
def prepareMessage (relay : Relay) (now : Instant) (peer : SocketAddr) :
    Message → Relay × Outcome RelayError (RelayAction × Option RelayState)
  | .relayDiscovery discoveryNonce => (relay, relay.prepareDiscovery peer discoveryNonce)
  | .request requestNonce protocol ecnCapable =>
      let relay := relay.rememberGatewayEcnCapability now peer ecnCapable
      (relay, relay.prepareRequest hmac peer requestNonce protocol)
  | .membershipUpdate responseMac requestNonce membershipUpdate =>
      (relay, relay.prepareUpdate hmac now peer responseMac requestNonce membershipUpdate)
  | .teardown responseMac requestNonce gateway =>
      relay.prepareTeardown hmac now responseMac requestNonce gateway
  | .relayAdvertisement _ _ | .membershipQuery _ _ _ _ _ | .multicastData _ =>
      (relay, .ok (.ignored, none))

/-- The answer and the candidate for the next state, which is not committed. -/
def prepareDatagram (env : CallEnv) (relay : Relay) (peer : SocketAddr) (datagram : Bytes) :
    Relay × Outcome RelayError (RelayAction × Option RelayState) :=
  let relay := relay.rotateSecretIfDue env
  match decode datagram with
  | .err error => (relay, .err (.decode error))
  | .panic => (relay, .panic)
  | .ok message => relay.prepareMessage hmac env.clock.processing peer message

/-- `handle_datagram`: the candidate is committed at once. -/
def handleDatagram (env : CallEnv) (relay : Relay) (peer : SocketAddr) (datagram : Bytes) :
    Relay × Outcome RelayError RelayAction :=
  match relay.prepareDatagram hmac env peer datagram with
  | (relay, .ok (action, some nextState)) => (relay.commitState nextState, .ok action)
  | (relay, .ok (action, none)) => (relay, .ok action)
  | (relay, .err error) => (relay, .err error)
  | (relay, .panic) => (relay, .panic)

end Handle

end Relay

end Amt

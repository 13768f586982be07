import Amt.Ecn
import Amt.Query
import Amt.State

/-!
# The gateway

The client side of a tunnel: discover a relay, request a Membership Query, answer it
with membership reports, and hand on the multicast data that comes back.

* **A gateway keeps its own copy of what it reported.**  `receptionState` is a relay
  state with a single endpoint, `receptionStateEndpoint`; every report the gateway sends
  is applied to it, and multicast data is filtered by it.
* **A call returns the gateway next to its result.**  A method with `&mut self` may have
  written before it fails, so the gateway after the call is part of the result on every
  path.
* **Randomness is an input.**  `random_nonce` draws until the nonce is not zero; a drawn
  nonce is a `Nonce`.  (Without operating-system randomness the process ends.)
-/

namespace Amt

/-- What `random_nonce` returns. -/
abbrev Nonce := { nonce : UInt32 // nonce ≠ 0 }

/-- Where the gateway keeps its own interests in a state that is made for many endpoints. -/
def receptionStateEndpoint : SocketAddr := .new (.v4 .unspecified) 0

/-- A configured nonce of zero asks for a random one. -/
structure GatewayConfig where
  relay : SocketAddr
  fallbackRelays : List SocketAddr
  protocol : MembershipProtocol
  ecn : Bool
  discoveryNonce : UInt32
  requestNonce : UInt32
deriving DecidableEq, Repr

namespace GatewayConfig

def new (relay : SocketAddr) (protocol : MembershipProtocol) (discoveryNonce requestNonce : Nonce) :
    GatewayConfig where
  relay := relay
  fallbackRelays := []
  protocol := protocol
  ecn := false
  discoveryNonce := discoveryNonce
  requestNonce := requestNonce

def withEcn (config : GatewayConfig) (enabled : Bool) : GatewayConfig :=
  { config with ecn := enabled }

/-- The fallbacks of the relay's family, each once, without the relay itself. -/
def withFallbackRelays (config : GatewayConfig) (relays : List SocketAddr) : GatewayConfig :=
  relays.foldl
    (fun config relay =>
      if relay ≠ config.relay ∧ relay.ip.sameFamily config.relay.ip
          ∧ ¬ config.fallbackRelays.contains relay then
        { config with fallbackRelays := config.fallbackRelays ++ [relay] }
      else config)
    { config with fallbackRelays := [] }

end GatewayConfig

/-- How far the handshake has come. -/
inductive GatewayPhase where
  | discovering
  | awaitingMembershipQuery
  | established
deriving DecidableEq, Repr

/-- What a Membership Query has given to the gateway. -/
structure GatewaySession where
  responseMac : ResponseMac
  requestNonce : UInt32
  gatewayEndpoint : Option GatewayEndpoint
  reportedMemberships : Bool
deriving DecidableEq, Repr

/-- Its relay endpoint and its session outlive a query cycle. -/
structure Gateway where
  config : GatewayConfig
  relayCandidates : List SocketAddr
  phase : GatewayPhase
  relayEndpoint : Option SocketAddr
  session : Option GatewaySession
  receptionState : RelayState
deriving DecidableEq

/-- A datagram that is still to be sent. -/
structure GatewaySend where
  destination : SocketAddr
  datagram : Bytes
deriving DecidableEq, Repr

/-- What the caller has to do after a datagram. -/
inductive GatewayAction where
  | send (destination : SocketAddr) (datagram : Bytes)
  | membershipQuery (responseMac : ResponseMac) (limit : Bool) (gateway : Option GatewayEndpoint)
      (generalQuery : Bytes) (queryInterval : Duration) (previousTeardown : Option GatewaySend)
  | multicastData (packet : Bytes) (ecn : Option EcnDecapsulation)
  | droppedEcn (ecn : EcnDecapsulation) (packetLen : ℕ)
  | ignored
deriving DecidableEq, Repr

def GatewayAction.intoSend : GatewayAction → Option (SocketAddr × Bytes)
  | .send destination datagram => some (destination, datagram)
  | _ => none

/-- Why a datagram or a call is refused. -/
inductive GatewayError where
  | decode (error : DecodeError)
  | membershipBuild (error : MembershipBuildError)
  | invalidGeneralQuery (error : QueryValidationError)
  | invalidMulticastPacket (error : IpPacketError)
  | invalidEcn (error : EcnError)
  | unexpectedDiscoveryNonce (expected actual : UInt32)
  | unexpectedRequestNonce (expected actual : UInt32)
  | unexpectedPeer (expected actual : SocketAddr)
  | unexpectedMessageForState (message : String) (phase : GatewayPhase)
  | invalidRelayAddress (address : IpAddr)
  | missingRelayEndpoint
  | missingMembershipQuery
  | missingGatewayEndpoint
deriving DecidableEq, Repr

/-- The addresses an advertisement may name. -/
def isUsableUnicast : IpAddr → Bool
  | .v4 address => !address.isUnspecified && !address.isMulticast && !address.isBroadcast
  | .v6 address => !address.isUnspecified && !address.isMulticast

/-- The draw is used only when the configured nonce is zero. -/
def nonzeroOrRandom (nonce : UInt32) (draw : Nonce) : UInt32 := if nonce ≠ 0 then nonce else draw

namespace Gateway

/-! ## Construction and queries -/

/-- A gateway that has not sent anything. -/
def new (config : GatewayConfig) (discoveryDraw requestDraw : Nonce) : Gateway where
  config :=
    { config with
      discoveryNonce := nonzeroOrRandom config.discoveryNonce discoveryDraw
      requestNonce := nonzeroOrRandom config.requestNonce requestDraw }
  relayCandidates := config.relay :: config.fallbackRelays
  phase := .discovering
  relayEndpoint := none
  session := none
  receptionState := .default

def isEstablished (gateway : Gateway) : Bool :=
  gateway.phase = .established && gateway.session.isSome

/-- The relay in use was dropped from the candidates. -/
def currentRelayIsRetired (gateway : Gateway) : Bool :=
  !gateway.relayCandidates.contains gateway.config.relay

/-- What the gateway wants of a group. -/
def receptionInterest (gateway : Gateway) (group : IpAddr) : Option GroupInterest :=
  gateway.receptionState.endpointInterest receptionStateEndpoint group

/-- The filter on incoming multicast data. -/
def interested (gateway : Gateway) (source group : IpAddr) : Bool :=
  (gateway.receptionInterest group).any fun interest => interest.wantsSource source

/-! ## Discovery and query cycles -/

/-- The Relay Discovery, to the relay of the configuration. -/
def discovery (gateway : Gateway) : GatewayAction :=
  .send gateway.config.relay (encode (.relayDiscovery gateway.config.discoveryNonce))

/-- The Request a gateway sends in its current cycle. -/
def requestMessage (gateway : Gateway) : Message :=
  .request gateway.config.requestNonce gateway.config.protocol gateway.config.ecn

/-- The Request, to the relay of the advertisement. -/
def request (gateway : Gateway) : Outcome GatewayError GatewayAction :=
  match gateway.relayEndpoint with
  | none => .err .missingRelayEndpoint
  | some relay => .ok (.send relay (encode gateway.requestMessage))

/-- A new cycle of a gateway that knows its relay; the session stays until the Query comes. -/
def beginQueryCycle (gateway : Gateway) (nonce : Nonce) :
    Gateway × Outcome GatewayError GatewayAction :=
  if gateway.relayEndpoint.isNone then (gateway, .err .missingRelayEndpoint)
  else
    let gateway :=
      { gateway with
        config := { gateway.config with requestNonce := nonce }
        phase := .awaitingMembershipQuery }
    (gateway, gateway.request)

/-- The relay a restart moves on to: the first fallback, and the previous relay goes to
the end of the list while it is a candidate. -/
def rotateRelay (gateway : Gateway) : GatewayConfig :=
  match gateway.config.fallbackRelays with
  | [] => gateway.config
  | next :: rest =>
      { gateway.config with
        relay := next
        fallbackRelays :=
          if gateway.relayCandidates.contains gateway.config.relay then
            rest ++ [gateway.config.relay]
          else rest }

/-- Start over with the next relay. -/
def restartDiscovery (gateway : Gateway) (discoveryNonce requestNonce : Nonce) :
    Gateway × GatewayAction :=
  let gateway :=
    { gateway with
      config := { gateway.rotateRelay with discoveryNonce, requestNonce }
      phase := .discovering
      relayEndpoint := none
      session := none }
  (gateway, gateway.discovery)

/-- Take over a list of relays, unless it is empty or the same; the relay in use stays. -/
def replaceRelayCandidates (gateway : Gateway) (relays : List SocketAddr) : Gateway × Bool :=
  let candidates := relays.foldl
    (fun candidates relay =>
      if relay.ip.sameFamily gateway.config.relay.ip ∧ ¬ candidates.contains relay then
        candidates ++ [relay]
      else candidates) []
  if candidates.isEmpty ∨ candidates = gateway.relayCandidates then (gateway, false)
  else
    ({ gateway with
        relayCandidates := candidates
        config :=
          { gateway.config with
            fallbackRelays := candidates.filter fun candidate =>
              candidate ≠ gateway.config.relay } }, true)

/-! ## Incoming datagrams -/

/-- The Relay Advertisement arm of `handle_datagram_with_ecn`. -/
def handleAdvertisement (gateway : Gateway) (peer : SocketAddr) (discoveryNonce : UInt32)
    (relayAddress : IpAddr) : Gateway × Outcome GatewayError GatewayAction :=
  if gateway.phase ≠ .discovering then
    (gateway, .err (.unexpectedMessageForState "Relay Advertisement" gateway.phase))
  else if discoveryNonce ≠ gateway.config.discoveryNonce then
    (gateway, .err (.unexpectedDiscoveryNonce gateway.config.discoveryNonce discoveryNonce))
  else if ¬ isUsableUnicast relayAddress ∨ ¬ relayAddress.sameFamily peer.ip then
    (gateway, .err (.invalidRelayAddress relayAddress))
  else
    let relayEndpoint := SocketAddr.new relayAddress peer.port
    let gateway :=
      { gateway with relayEndpoint := some relayEndpoint, phase := .awaitingMembershipQuery }
    (gateway, .ok (.send relayEndpoint (encode gateway.requestMessage)))

/-- The nonce a Membership Query has to carry, by phase and session. -/
def expectedRequestNonce (gateway : Gateway) : Option UInt32 :=
  match gateway.phase, gateway.session with
  | .awaitingMembershipQuery, _ => some gateway.config.requestNonce
  | .established, some session => some session.requestNonce
  | _, _ => none

/-- A Teardown for the endpoint of the previous session, when the relay now sees the
gateway under another one. -/
def previousTeardown (gateway : Gateway) (relay : SocketAddr) (endpoint : Option GatewayEndpoint) :
    Option GatewaySend :=
  (gateway.session.filter fun session => session.gatewayEndpoint != endpoint).bind fun session =>
    session.gatewayEndpoint.map fun oldGateway =>
      { destination := relay
        datagram := encode (.teardown session.responseMac session.requestNonce oldGateway) }

/-- The Membership Query arm of `handle_datagram_with_ecn`. -/
def handleQuery (gateway : Gateway) (responseMac : ResponseMac) (requestNonce : UInt32)
    (limit : Bool) (endpoint : Option GatewayEndpoint) (generalQuery : Bytes) :
    Gateway × Outcome GatewayError GatewayAction :=
  match gateway.relayEndpoint with
  | none => (gateway, .err .missingRelayEndpoint)
  | some relay =>
      match gateway.expectedRequestNonce with
      | none => (gateway, .err (.unexpectedMessageForState "Membership Query" gateway.phase))
      | some expectedNonce =>
          if requestNonce ≠ expectedNonce then
            (gateway, .err (.unexpectedRequestNonce expectedNonce requestNonce))
          else
            match validatedGeneralQuery gateway.config.protocol generalQuery with
            | .err error => (gateway, .err (.invalidGeneralQuery error))
            | .panic => (gateway, .panic)
            | .ok (queryInterval, generalQuery) =>
                let reportedMemberships := gateway.session.any fun session =>
                  session.gatewayEndpoint == endpoint && session.reportedMemberships
                ({ gateway with
                    session := some
                      { responseMac, requestNonce, gatewayEndpoint := endpoint,
                        reportedMemberships }
                    phase := .established },
                  .ok (.membershipQuery responseMac limit endpoint generalQuery queryInterval
                    (gateway.previousTeardown relay endpoint)))

/-- What becomes of a wanted packet: the ECN fields are combined when ECN is on. -/
def deliver (gateway : Gateway) (packet : Bytes) (outerEcn : EcnCodepoint) :
    Outcome GatewayError GatewayAction := do
  if gateway.config.ecn then
    let (packet, ecn) ← (decapsulateEcn packet outerEcn).mapErr .invalidEcn
    if ecn.isDrop then pure (.droppedEcn ecn packet.length)
    else pure (.multicastData packet (some ecn))
  else pure (.multicastData packet none)

/-- The Multicast Data arm of `handle_datagram_with_ecn`. -/
def handleData (gateway : Gateway) (packet : Bytes) (outerEcn : EcnCodepoint) :
    Gateway × Outcome GatewayError GatewayAction :=
  if gateway.relayEndpoint.isNone then (gateway, .err .missingRelayEndpoint)
  else if gateway.session.isNone then
    (gateway, .err (.unexpectedMessageForState "Multicast Data" gateway.phase))
  else
    match parseMulticastPacket packet with
    | .err error => (gateway, .err (.invalidMulticastPacket error))
    | .panic => (gateway, .panic)
    | .ok parsed =>
        if ¬ gateway.interested parsed.source parsed.group then (gateway, .ok .ignored)
        else (gateway, gateway.deliver packet outerEcn)

/-- The dispatch of `handle_datagram_with_ecn`. -/
def handleMessage (gateway : Gateway) (peer : SocketAddr) (outerEcn : EcnCodepoint) :
    Message → Gateway × Outcome GatewayError GatewayAction
  | .relayAdvertisement discoveryNonce relayAddress =>
      gateway.handleAdvertisement peer discoveryNonce relayAddress
  | .membershipQuery responseMac requestNonce limit endpoint generalQuery =>
      gateway.handleQuery responseMac requestNonce limit endpoint generalQuery
  | .multicastData packet => gateway.handleData packet outerEcn
  | .relayDiscovery _ | .request _ _ _ | .membershipUpdate _ _ _ | .teardown _ _ _ =>
      (gateway, .ok .ignored)

/-- Only the relay may answer: the advertised one, or else the configured one. -/
def handleDatagramWithEcn (gateway : Gateway) (peer : SocketAddr) (datagram : Bytes)
    (outerEcn : EcnCodepoint) : Gateway × Outcome GatewayError GatewayAction :=
  let expectedPeer := gateway.relayEndpoint.getD gateway.config.relay
  if peer ≠ expectedPeer then (gateway, .err (.unexpectedPeer expectedPeer peer))
  else
    match decode datagram with
    | .err error => (gateway, .err (.decode error))
    | .panic => (gateway, .panic)
    | .ok message => gateway.handleMessage peer outerEcn message

/-- `handle_datagram`, without an outer codepoint. -/
def handleDatagram (gateway : Gateway) (peer : SocketAddr) (datagram : Bytes) :
    Gateway × Outcome GatewayError GatewayAction :=
  gateway.handleDatagramWithEcn peer datagram .notEct

/-! ## Memberships -/

/-- Report to the relay; the own state follows once the packet is built. -/
def membershipUpdate (gateway : Gateway) (report : MembershipReport) :
    Gateway × Outcome GatewayError GatewayAction :=
  match gateway.relayEndpoint with
  | none => (gateway, .err .missingRelayEndpoint)
  | some relay =>
      match gateway.session with
      | none => (gateway, .err .missingMembershipQuery)
      | some session =>
          match buildMembershipReport report with
          | .err error => (gateway, .err (.membershipBuild error))
          | .panic => (gateway, .panic)
          | .ok packet =>
              let receptionState :=
                (gateway.receptionState.applyReport receptionStateEndpoint report).1
              ({ gateway with
                  receptionState
                  session := some
                    { session with
                      reportedMemberships :=
                        receptionState.endpointHasInterests receptionStateEndpoint } },
                .ok (.send relay
                  (encode (.membershipUpdate session.responseMac session.requestNonce packet))))

/-- The leaves `replace_memberships` appends: the groups of the reception state that the
report does not name. -/
def missingLeaves (gateway : Gateway) (report : MembershipReport) : List MembershipRecord :=
  let current := report.records.map fun record => record.group
  (gateway.receptionState.aggregateInterests.keys.filter fun group => group ∉ current).map
    fun group => { kind := .changeToInclude, group, sources := [] }

/-- The report `replace_memberships` sends. -/
def replacementReport (gateway : Gateway) (report : MembershipReport) : MembershipReport :=
  { report with records := report.records ++ gateway.missingLeaves report }

/-- Report the whole of what is wanted; nothing to say is no message. -/
def replaceMemberships (gateway : Gateway) (report : MembershipReport) :
    Gateway × Outcome GatewayError (Option GatewayAction) :=
  let report := gateway.replacementReport report
  if report.records.isEmpty then (gateway, .ok none)
  else
    match gateway.membershipUpdate report with
    | (gateway, .ok action) => (gateway, .ok (some action))
    | (gateway, .err error) => (gateway, .err error)
    | (gateway, .panic) => (gateway, .panic)

/-- The record of a join. -/
def joinRecord (group : IpAddr) : Option IpAddr → MembershipRecord
  | some source => { kind := .allowNewSources, group, sources := [source] }
  | none => { kind := .modeIsExclude, group, sources := [] }

/-- An update with the one record of the join. -/
def joinGroup (gateway : Gateway) (group : IpAddr) (source : Option IpAddr) :
    Gateway × Outcome GatewayError GatewayAction :=
  gateway.membershipUpdate
    { protocol := gateway.config.protocol, records := [joinRecord group source] }

/-- The Teardown, for the endpoint that the relay sees. -/
def teardown (gateway : Gateway) : Outcome GatewayError GatewayAction :=
  match gateway.relayEndpoint with
  | none => .err .missingRelayEndpoint
  | some relay =>
      match gateway.session with
      | none => .err .missingMembershipQuery
      | some session =>
          match session.gatewayEndpoint with
          | none => .err .missingGatewayEndpoint
          | some endpoint =>
              .ok (.send relay
                (encode (.teardown session.responseMac session.requestNonce endpoint)))

end Gateway

end Amt

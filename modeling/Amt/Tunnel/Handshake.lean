import Amt.Gateway.Run
import Amt.Membership.Acceptance
import Amt.Protocol.Canonical
import Amt.Query.RoundTrip
import Amt.Relay.Secrets

/-!
# The handshake and the updates after it

Four messages set a tunnel up: Discovery, Advertisement, Request, Query.  Each side checks
what the other has built with rules of its own, and this module shows that the two sets of
rules agree.

* **Exchanges.**  `Tunnel.exchange` hands a message of the gateway to the relay, and the
  relay's answer to the gateway, from the address to which the gateway sent.  A handshake is
  two exchanges, the second with the Request that the first one brought about.
* **The gateway is established** (`handshake_spec`), with a session whose MAC the relay made
  with the secret it has at that time.
* **What the gateway reports afterwards is accepted** (`handshake_updates_accepted`).  The MAC
  outlives any rotation within two query intervals (`Remembers`), whatever else the relay
  receives or prunes meanwhile; the report that is parsed is the one that was built; and all
  that is left to refuse it are the limits of the relay.
-/

namespace Amt

namespace Relay

variable (hmac : RelaySecret → Bytes → Octets 32)

/-! ## What the relay answers -/

/-- A rotation changes the secret of the configuration at most. -/
theorem config_rotateSecretIfDue (relay : Relay) (env : CallEnv) :
    ∃ secret, (relay.rotateSecretIfDue env).config = { relay.config with secret } := by
  rcases rotateSecretIfDue_cases relay env with hsame | ⟨⟨next, -, heq⟩, -⟩
  · exact ⟨_, by rw [hsame]⟩
  · exact ⟨next, by rw [heq]; rfl⟩

/-- The answer to a Discovery. -/
theorem handleDatagram_discovery {nonce : UInt32} (hnonce : nonce ≠ 0) (relay : Relay)
    (env : CallEnv) (peer : SocketAddr) :
    relay.handleDatagram hmac env peer (encode (.relayDiscovery nonce)) =
      (relay.rotateSecretIfDue env, .ok (.send (encode (.relayAdvertisement nonce
        (relay.config.advertisedAddrFor peer))))) := by
  obtain ⟨secret, hconfig⟩ := config_rotateSecretIfDue relay env
  have haddress : (relay.rotateSecretIfDue env).config.advertisedAddrFor peer
      = relay.config.advertisedAddrFor peer := by
    rw [hconfig]
    cases peer <;> rfl
  rw [handleDatagram, prepareDatagram, decode_encode]
  dsimp only [prepareMessage, prepareDiscovery]
  rw [Outcome.ensure_of hnonce, Outcome.bind_ok, haddress]
  rfl

/-- The relay after it has answered a Request. -/
def afterRequest (relay : Relay) (env : CallEnv) (peer : SocketAddr) (ecnCapable : Bool) : Relay :=
  (relay.rotateSecretIfDue env).rememberGatewayEcnCapability env.clock.processing peer ecnCapable

theorem config_afterRequest (relay : Relay) (env : CallEnv) (peer : SocketAddr)
    (ecnCapable : Bool) :
    (relay.afterRequest env peer ecnCapable).config = (relay.rotateSecretIfDue env).config :=
  (sameSecrets_rememberGatewayEcnCapability _ _ _ _).1

/-- The answer to a Request: a Query with a General Query that the gateway's rules accept. -/
theorem handleDatagram_request {protocol : MembershipProtocol} (relay : Relay) (env : CallEnv)
    (peer : SocketAddr) (nonce : UInt32) (ecnCapable : Bool)
    (hsource : relay.config.generalQuery.SourceUsable protocol) :
    ∃ limit gateway query,
      relay.handleDatagram hmac env peer (encode (.request nonce protocol ecnCapable)) =
        (relay.afterRequest env peer ecnCapable,
          .ok (.send (encode (.membershipQuery
            (responseMacWithSecret hmac (relay.afterRequest env peer ecnCapable).config.secret
              peer.ip peer.port nonce) nonce limit gateway query)))) ∧
        validatedGeneralQuery protocol query =
          .ok (queryInterval relay.config.generalQuery.queryIntervalCode, query) := by
  obtain ⟨secret, hconfig⟩ := config_rotateSecretIfDue relay env
  have hquery : (relay.afterRequest env peer ecnCapable).config.generalQuery
      = relay.config.generalQuery := by
    rw [config_afterRequest, hconfig]
  obtain ⟨query, hbuild, hvalid⟩ := validatedGeneralQuery_build (ε := RelayError) hsource
  rw [← hquery] at hbuild
  refine ⟨(relay.afterRequest env peer ecnCapable).refusingNewEndpoint peer.ip,
    if (relay.afterRequest env peer ecnCapable).config.includeGatewayAddress then
      some { port := peer.port, address := GatewayAddress.fromIpAddr peer.ip } else none,
    query, ?_, hvalid⟩
  rw [handleDatagram, prepareDatagram, decode_encode]
  dsimp only [prepareMessage]
  rw [← afterRequest, prepareRequest, hbuild]
  rfl

/-- **Reflection is bounded**: eight bytes bring back 106 at most, and no membership state. -/
theorem prepareDatagram_reflects (relay : Relay) (env : CallEnv) (peer : SocketAddr)
    (datagram : Bytes) :
    match (relay.prepareDatagram hmac env peer datagram).2 with
    | .ok (.send response, next) => datagram.length = 8 ∧ response.length ≤ 106 ∧ next = none
    | _ => True := by
  split
  · rename_i response next h
    unfold prepareDatagram at h
    split at h
    · cases h
    · cases h
    · rename_i message hdecode
      have hlength : datagram.length = message.encodedLen := by
        rw [← length_encode, encode_of_decode hdecode, length_clearBits]
      cases message with
      | relayDiscovery nonce =>
          obtain ⟨-, -, ⟨⟩⟩ := Outcome.bind_eq_ok_iff.mp h
          refine ⟨hlength, ?_, rfl⟩
          simp only [length_encode, Message.encodedLen]
          split <;> decide
      | request nonce protocol ecnCapable =>
          obtain ⟨query, hquery, ⟨⟩⟩ := Outcome.bind_eq_ok_iff.mp h
          have hquery : query.length ≤ 76 := by
            cases protocol with
            | igmpv3 =>
                cases (buildIgmpv3GeneralQuery_eq _).symm.trans hquery
                exact (igmpv3QueryFields_append _ _ _).length.trans_le (by decide)
            | mldv2 =>
                cases (buildMldv2GeneralQuery_eq _).symm.trans hquery
                exact (mldv2QueryFields_append _ _).length.le
          refine ⟨hlength, ?_, rfl⟩
          rw [length_encode, Message.encodedLen]
          split <;> simp [gatewayFieldsLen] <;> omega
      | membershipUpdate | teardown =>
          simp only [prepareMessage, prepareUpdate, prepareTeardown] at h
          grind [→ prepareReport_cases]
      | _ => cases h
  · trivial

end Relay

namespace Gateway

/-! ## What the gateway does with the answers -/

/-- A datagram from the expected peer is dispatched. -/
theorem handleDatagramWithEcn_encode {gateway : Gateway} {peer : SocketAddr}
    (hpeer : gateway.relayEndpoint.getD gateway.config.relay = peer) (message : Message)
    (outerEcn : EcnCodepoint) :
    gateway.handleDatagramWithEcn peer (encode message) outerEcn =
      gateway.handleMessage peer outerEcn message := by
  subst hpeer
  rw [handleDatagramWithEcn, if_neg (not_not.mpr rfl), decode_encode]

/-- The gateway once a relay is known. -/
def awaiting (gateway : Gateway) (relay : SocketAddr) : Gateway :=
  { gateway with relayEndpoint := some relay, phase := .awaitingMembershipQuery }

/-- A discovering gateway takes an Advertisement of a usable address and asks there. -/
theorem handleDatagramWithEcn_advertisement {gateway : Gateway} {address : IpAddr}
    (hphase : gateway.phase = .discovering) (hrelay : gateway.relayEndpoint = none)
    (husable : isUsableUnicast address = true)
    (hfamily : address.sameFamily gateway.config.relay.ip = true) (outerEcn : EcnCodepoint) :
    gateway.handleDatagramWithEcn gateway.config.relay
        (encode (.relayAdvertisement gateway.config.discoveryNonce address)) outerEcn =
      (gateway.awaiting (.new address gateway.config.relay.port),
        .ok (.send (.new address gateway.config.relay.port) (encode gateway.requestMessage))) := by
  rw [handleDatagramWithEcn_encode (by rw [hrelay]; rfl), handleMessage, handleAdvertisement,
    if_neg (not_not.mpr hphase), if_neg (not_not.mpr rfl), if_neg (by simp [husable, hfamily])]
  rfl

/-- A waiting gateway takes a Query with its nonce and an acceptable General Query. -/
theorem handleDatagramWithEcn_query (gateway : Gateway) (relay : SocketAddr) {mac : ResponseMac}
    {limit : Bool} {endpoint : Option GatewayEndpoint} {query : Bytes} {interval : Duration}
    (hvalid : validatedGeneralQuery gateway.config.protocol query = .ok (interval, query))
    (outerEcn : EcnCodepoint) :
    ∃ session action,
      (gateway.awaiting relay).handleDatagramWithEcn relay
          (encode (.membershipQuery mac gateway.config.requestNonce limit endpoint query))
          outerEcn =
        ({ gateway.awaiting relay with session := some session, phase := .established },
          .ok action) ∧
        session.responseMac = mac ∧ session.requestNonce = gateway.config.requestNonce := by
  have hpeer : (gateway.awaiting relay).relayEndpoint.getD (gateway.awaiting relay).config.relay
      = relay := rfl
  rw [handleDatagramWithEcn_encode hpeer, handleMessage, handleQuery]
  dsimp only [awaiting, expectedRequestNonce]
  rw [if_neg (not_not.mpr rfl), hvalid]
  exact ⟨_, _, rfl, rfl, rfl⟩

/-! ## Updates -/

/-- What the gateway proves itself with in its updates. -/
def credentials (gateway : Gateway) : Option (ResponseMac × UInt32) :=
  gateway.session.map fun session => (session.responseMac, session.requestNonce)

/-- The gateway after some membership requests. -/
def performAll (gateway : Gateway) (requests : List MembershipRequest) : Gateway :=
  requests.foldl (fun gateway request => (gateway.perform request).1) gateway

/-- **What a report does to the session, and what goes out with it.** -/
theorem sent_membershipUpdate (gateway : Gateway) (report : MembershipReport) :
    (perform.sent (gateway.membershipUpdate report)).1.credentials = gateway.credentials ∧
      ∀ datagram, (perform.sent (gateway.membershipUpdate report)).2 = some datagram →
        ∃ mac nonce packet, gateway.credentials = some (mac, nonce) ∧
          buildMembershipReport report = .ok packet ∧
          datagram = encode (.membershipUpdate mac nonce packet) := by
  unfold membershipUpdate
  split
  · exact ⟨rfl, fun datagram h => by cases h⟩
  · split
    · exact ⟨rfl, fun datagram h => by cases h⟩
    · next session hsession =>
        have hcredentials : gateway.credentials
            = some (session.responseMac, session.requestNonce) := by
          rw [credentials, hsession, Option.map_some]
        cases hbuild : buildMembershipReport report with
        | err error => exact ⟨rfl, fun datagram h => by cases h⟩
        | panic => exact ⟨rfl, fun datagram h => by cases h⟩
        | ok packet =>
            refine ⟨hcredentials.symm, fun datagram h => ?_⟩
            exact ⟨_, _, packet, hcredentials, rfl, (Option.some.inj h).symm⟩

/-- What a membership request sends, under which credentials. -/
theorem perform_spec (gateway : Gateway) (request : MembershipRequest) :
    (gateway.perform request).1.credentials = gateway.credentials ∧
      ∀ datagram, (gateway.perform request).2 = some datagram →
        ∃ mac nonce packet, gateway.credentials = some (mac, nonce) ∧
          buildMembershipReport (gateway.requestReport request) = .ok packet ∧
          datagram = encode (.membershipUpdate mac nonce packet) := by
  cases request with
  | update report => exact sent_membershipUpdate gateway report
  | join group source => exact sent_membershipUpdate gateway _
  | replace report =>
      have hupdate := sent_membershipUpdate gateway (gateway.replacementReport report)
      simp only [perform, replaceMemberships, requestReport]
      cases hempty : (gateway.replacementReport report).records.isEmpty with
      | true =>
          rw [if_pos rfl]
          exact ⟨rfl, fun datagram h => by cases h⟩
      | false =>
          rw [if_neg (by simp)]
          cases hresult : gateway.membershipUpdate (gateway.replacementReport report) with
          | mk after outcome =>
              rw [hresult] at hupdate
              cases outcome with
              | ok action => exact hupdate
              | err error => exact ⟨hupdate.1, fun datagram h => by cases h⟩
              | panic => exact ⟨hupdate.1, fun datagram h => by cases h⟩

theorem credentials_performAll (gateway : Gateway) (requests : List MembershipRequest) :
    (gateway.performAll requests).credentials = gateway.credentials :=
  List.foldlRecOn (motive := fun g : Gateway => g.credentials = gateway.credentials) requests _ rfl
    fun g hrun request _ => (g.perform_spec request).1.trans hrun

end Gateway

namespace Relay

variable (hmac : RelaySecret → Bytes → Octets 32)

/-- **The update arm on a report that was built**: a peer that is not refused and a report
within the limits. -/
theorem prepareReport_of_built (relay : Relay) {peer : SocketAddr} {report : MembershipReport}
    {packet : Bytes} (hbuild : buildMembershipReport report = .ok packet)
    (hwelcome : relay.state.containsEndpoint peer = true ∨
      relay.refusingNewEndpoint peer.ip = false)
    (hlimits : relay.parseLimits.Admits report.records)
    (happly : ∃ applied,
      (relay.state.applyReportLimited peer report relay.config.limits).2 = .ok applied) :
    ∃ bytes applied subscriptions next, relay.prepareReport peer packet =
      .ok (.acceptedMembershipUpdate report.protocol bytes applied subscriptions, next) := by
  have hparse : parseMembershipReportWithLimits packet relay.parseLimits = .ok report := by
    have hparse := parse_buildMembershipReport hbuild hlimits []
    rwa [List.append_nil] at hparse
  have hgroups : ((report.records.map fun record => record.group).find? fun group =>
      !isAmtForwardableGroup group) = none := by
    have hsendable := ((buildMembershipReport_isOk_iff report).mp ⟨packet, hbuild⟩).2.1
    rw [List.find?_eq_none]
    intro group hgroup
    obtain ⟨record, hrecord, rfl⟩ := List.mem_map.mp hgroup
    simp [(hsendable record hrecord).group]
  have hadmitted : ¬ (!relay.state.containsEndpoint peer &&
      relay.refusingNewEndpoint peer.ip) = true := by
    rcases hwelcome with hknown | hroom
    · simp [hknown]
    · simp [hroom]
  obtain ⟨applied, happly⟩ := happly
  rw [prepareReport, if_neg hadmitted, hparse]
  simp only [Outcome.mapErr, Outcome.bind_ok, hgroups]
  split
  · exact ⟨_, _, _, _, rfl⟩
  · rw [happly]
    exact ⟨_, _, _, _, rfl⟩

/-! ## The relay between the Query and an update -/

/-- What happens at a relay: a datagram, whose candidate state is committed or not, or the
removal of a gateway that has been silent. -/
inductive Event where
  | call (call : Call)
  | removeGateway (endpoint : SocketAddr)

def EventStep (before : Relay × Instant) (event : Event) (after : Relay × Instant) : Prop :=
  match event with
  | .call call => CallStep hmac before call after
  | .removeGateway endpoint => after = ((before.1.removeGateway endpoint).1, before.2)

/-- The secret of a MAC is remembered through everything that happens. -/
theorem Remembers.events {grace : Duration} {secret : RelaySecret} {since : Instant}
    {start stop : Relay × Instant} {events : List Event}
    (h : Remembers grace secret since start.1 start.2)
    (hrun : Run (EventStep hmac) start events stop) :
    Remembers grace secret since stop.1 stop.2 := by
  refine Run.invariant (I := fun s => Remembers grace secret since s.1 s.2) ?_ h hrun
  rintro before event after hbefore hstep
  cases event with
  | call call =>
      obtain ⟨hnow, rfl⟩ := hstep
      exact (hbefore.rotate hnow).of_sameSecrets (sameSecrets_afterCall hmac before.1 call)
  | removeGateway endpoint =>
      obtain rfl : after = ((before.1.removeGateway endpoint).1, before.2) := hstep
      exact hbefore.of_sameSecrets ⟨rfl, rfl⟩

/-- An update under a MAC that is remembered is accepted, if the limits allow it. -/
theorem handleDatagram_update {grace : Duration} {secret : RelaySecret} {since now : Instant}
    {relay : Relay} (h : Remembers grace secret since relay now) {env : CallEnv}
    (hnow : now ≤ env.clock.rotationCheck) (hwithin : env.clock.processing ≤ since + grace)
    {peer : SocketAddr} {nonce : UInt32} {report : MembershipReport} {packet : Bytes}
    (hbuild : buildMembershipReport report = .ok packet)
    (hwelcome : relay.state.containsEndpoint peer = true ∨
      relay.refusingNewEndpoint peer.ip = false)
    (hlimits : relay.parseLimits.Admits report.records)
    (happly : ∃ applied,
      (relay.state.applyReportLimited peer report relay.config.limits).2 = .ok applied) :
    ∃ bytes applied subscriptions,
      (relay.handleDatagram hmac env peer (encode (.membershipUpdate
          (responseMacWithSecret hmac secret peer.ip peer.port nonce) nonce packet))).2 =
        .ok (.acceptedMembershipUpdate report.protocol bytes applied subscriptions) := by
  have hvalid := (validResponseMac_iff hmac).mpr
    ((h.rotate hnow).authorized hmac hwithin peer.ip peer.port nonce)
  obtain ⟨next, hconfig⟩ := config_rotateSecretIfDue relay env
  have hstate := state_rotateSecretIfDue relay env
  obtain ⟨bytes, applied, subscriptions, candidate, hprepare⟩ :=
    prepareReport_of_built (relay.rotateSecretIfDue env) hbuild
      (by rwa [refusingNewEndpoint, hconfig, hstate])
      (by rwa [parseLimits, hconfig]) (by rwa [hconfig, hstate])
  refine ⟨bytes, applied, subscriptions, ?_⟩
  rw [handleDatagram, prepareDatagram, decode_encode]
  dsimp only [prepareMessage, prepareUpdate]
  rw [if_pos hvalid, hprepare]
  cases candidate <;> rfl

end Relay

namespace Tunnel

variable (hmac : RelaySecret → Bytes → Octets 32) (p : SocketAddr)

/-! ## The handshake -/

/-- A gateway about to discover a relay that it can use. -/
structure Ready (tunnel : Tunnel) : Prop where
  phase : tunnel.gateway.phase = .discovering
  undiscovered : tunnel.gateway.relayEndpoint = none
  nonce : tunnel.gateway.config.discoveryNonce ≠ 0
  usable : isUsableUnicast (tunnel.relay.config.advertisedAddrFor p) = true
  family : (tunnel.relay.config.advertisedAddrFor p).sameFamily
    tunnel.gateway.config.relay.ip = true
  source : tunnel.relay.config.generalQuery.SourceUsable tunnel.gateway.config.protocol

variable {p} {tunnel : Tunnel}

/-- Every new gateway is ready: its nonces are drawn until they are not zero. -/
theorem ready_new (config : GatewayConfig) (discoveryDraw requestDraw : Nonce) {relay : Relay}
    (husable : isUsableUnicast (relay.config.advertisedAddrFor p) = true)
    (hfamily : (relay.config.advertisedAddrFor p).sameFamily config.relay.ip = true)
    (hsource : relay.config.generalQuery.SourceUsable config.protocol) :
    (Tunnel.mk (.new config discoveryDraw requestDraw) relay).Ready p where
  phase := rfl
  undiscovered := rfl
  nonce := by
    show nonzeroOrRandom config.discoveryNonce discoveryDraw ≠ 0
    unfold nonzeroOrRandom
    split
    · assumption
    · exact discoveryDraw.2
  usable := husable
  family := hfamily
  source := hsource

theorem exchange_discovery (h : tunnel.Ready p) (env : CallEnv) (outerEcn : EcnCodepoint) :
    tunnel.exchange hmac p env outerEcn tunnel.gateway.discovery =
      ({ gateway := tunnel.gateway.awaiting
          (.new (tunnel.relay.config.advertisedAddrFor p) tunnel.gateway.config.relay.port)
         relay := tunnel.relay.rotateSecretIfDue env },
        .ok (.send (.new (tunnel.relay.config.advertisedAddrFor p)
          tunnel.gateway.config.relay.port) (encode tunnel.gateway.requestMessage))) := by
  rw [Gateway.discovery, exchange, Relay.handleDatagram_discovery hmac h.nonce]
  dsimp only
  rw [Gateway.handleDatagramWithEcn_advertisement h.phase h.undiscovered h.usable h.family]

/-- **The handshake establishes the gateway**, with a MAC under the secret that the relay then
has. -/
theorem handshake_spec (h : tunnel.Ready p) (first second : CallEnv)
    (firstEcn secondEcn : EcnCodepoint) :
    ∃ established action session,
      tunnel.handshake hmac p first second firstEcn secondEcn = (established, .ok action) ∧
        established.gateway.phase = .established ∧
        established.gateway.session = some session ∧
        session.responseMac = responseMacWithSecret hmac established.relay.config.secret p.ip p.port
          session.requestNonce ∧
        established.relay.previousGrace =
          queryInterval tunnel.relay.config.generalQuery.queryIntervalCode * 2 := by
  obtain ⟨secret, hconfig⟩ := Relay.config_rotateSecretIfDue tunnel.relay first
  obtain ⟨next, hnext⟩ :=
    Relay.config_rotateSecretIfDue (tunnel.relay.rotateSecretIfDue first) second
  have hsource : (tunnel.relay.rotateSecretIfDue first).config.generalQuery.SourceUsable
      tunnel.gateway.config.protocol := by
    rw [hconfig]
    exact h.source
  obtain ⟨limit, endpoint, query, hanswer, hvalid⟩ :=
    Relay.handleDatagram_request hmac (tunnel.relay.rotateSecretIfDue first) second p
      tunnel.gateway.config.requestNonce tunnel.gateway.config.ecn hsource
  obtain ⟨session, action, hhandled, hmac', hnonce⟩ :=
    Gateway.handleDatagramWithEcn_query tunnel.gateway
      (.new (tunnel.relay.config.advertisedAddrFor p) tunnel.gateway.config.relay.port)
      hvalid secondEcn
  refine ⟨⟨{ tunnel.gateway.awaiting (.new (tunnel.relay.config.advertisedAddrFor p)
        tunnel.gateway.config.relay.port) with session := some session, phase := .established },
      (tunnel.relay.rotateSecretIfDue first).afterRequest second p tunnel.gateway.config.ecn⟩,
    action, session, ?_, ?_⟩
  · rw [handshake, exchange_discovery hmac h]
    dsimp only [exchange, Gateway.requestMessage]
    rw [hanswer]
    dsimp only
    rw [hhandled]
  · refine ⟨rfl, rfl, ?_, ?_⟩
    · rw [hmac', hnonce]
    · dsimp only [Relay.previousGrace]
      rw [Relay.config_afterRequest, hnext, hconfig]

/-- **A handshake, and the updates after it.**

For a gateway about to discover, a relay in any state that advertises a usable address of the
family it is reached under, whose General Query has a usable source, and any peer address of
the gateway: passing Discovery, Advertisement, Request and Query leaves the gateway
established.  Whatever membership requests it performs then, it keeps the credentials of the
Query, and every update a gateway builds with these, sent from the same address and processed
within two query intervals of the Query, is acknowledged by the relay, whatever has happened
to the relay since, if the peer is not refused and the report is within the limits of the
parser and of the state. -/
theorem handshake_updates_accepted (hmac : RelaySecret → Bytes → Octets 32) (p : SocketAddr)
    (tunnel : Tunnel) (hready : tunnel.Ready p) (first second : CallEnv)
    (firstEcn secondEcn : EcnCodepoint) :
    let established := (tunnel.handshake hmac p first second firstEcn secondEcn).1
    established.gateway.isEstablished = true ∧
      (∀ requests, (established.gateway.performAll requests).credentials =
        established.gateway.credentials) ∧
      ∀ (gateway : Gateway) (events : List Relay.Event) (reached : Relay × Instant)
        (request : MembershipRequest) (datagram : Bytes) (env : CallEnv),
        gateway.credentials = established.gateway.credentials →
        Run (Relay.EventStep hmac) (established.relay, second.clock.processing) events reached →
        (gateway.perform request).2 = some datagram →
        reached.2 ≤ env.clock.rotationCheck →
        env.clock.processing ≤ second.clock.processing +
          queryInterval tunnel.relay.config.generalQuery.queryIntervalCode * 2 →
        (reached.1.state.containsEndpoint p = true ∨
          reached.1.refusingNewEndpoint p.ip = false) →
        reached.1.parseLimits.Admits (gateway.requestReport request).records →
        (∃ applied, (reached.1.state.applyReportLimited p (gateway.requestReport request)
          reached.1.config.limits).2 = .ok applied) →
        ∃ bytes applied subscriptions,
          (reached.1.handleDatagram hmac env p datagram).2 =
            .ok (.acceptedMembershipUpdate (gateway.requestReport request).protocol bytes applied
              subscriptions) := by
  obtain ⟨established, action, session, hresult, hphase, hsession, hmac', hgrace⟩ :=
    handshake_spec hmac hready first second firstEcn secondEcn
  rw [hresult]
  dsimp only
  refine ⟨?_, established.gateway.credentials_performAll, ?_⟩
  · rw [Gateway.isEstablished, hphase, hsession]
    rfl
  · intro gateway events reached request datagram env hsame hrun hsent hlater hwithin hwelcome
      hlimits happly
    -- right after the Query, the secret of the MAC is the current one
    have hremembers : Relay.Remembers
        (queryInterval tunnel.relay.config.generalQuery.queryIntervalCode * 2)
        established.relay.config.secret second.clock.processing established.relay
        second.clock.processing :=
      ⟨hgrace, le_rfl, .inl rfl⟩
    obtain ⟨mac, nonce, packet, hcredentials, hbuild, rfl⟩ :=
      (gateway.perform_spec request).2 datagram hsent
    rw [hcredentials, Gateway.credentials, hsession] at hsame
    obtain ⟨rfl, rfl⟩ := Prod.mk.inj (Option.some.inj hsame)
    rw [hmac']
    exact Relay.handleDatagram_update hmac (hremembers.events hmac hrun) hlater hwithin hbuild
      hwelcome hlimits happly

/-! ### A first join -/

theorem untouched_ready : untouched.Ready samplePeer :=
  ready_new _ _ _ (by decide) (by decide) (by exact ⟨by decide, by decide⟩)

/-- The first join after the handshake is acknowledged. -/
theorem handshake_first_join :
    ∃ datagram bytes applied subscriptions,
      (sample.gateway.perform (.join (.v4 (.new 232 1 1 1)) none)).2 = some datagram ∧
        (sample.relay.handleDatagram zeroDigest sampleEnv samplePeer datagram).2 =
          .ok (.acceptedMembershipUpdate .igmpv3 bytes applied subscriptions) := by
  have haccepted := (handshake_updates_accepted zeroDigest samplePeer untouched untouched_ready
    sampleEnv sampleEnv .notEct .notEct).2.2
  have hsent : (sample.gateway.perform (.join (.v4 (.new 232 1 1 1)) none)).2.isSome = true := by
    decide +kernel
  have hprotocol : (sample.gateway.requestReport
      (.join (.v4 (.new 232 1 1 1)) none)).protocol = .igmpv3 := by
    decide +kernel
  obtain ⟨datagram, hsent⟩ := Option.isSome_iff_exists.mp hsent
  obtain ⟨bytes, applied, subscriptions, hanswer⟩ := haccepted sample.gateway []
    (sample.relay, sampleEnv.clock.processing) _ datagram sampleEnv rfl .nil hsent (by decide)
    (by decide) (.inr (by decide +kernel)) ⟨by decide +kernel, by decide +kernel⟩
    ⟨1, by decide +kernel⟩
  rw [hprotocol] at hanswer
  exact ⟨datagram, bytes, applied, subscriptions, hsent, hanswer⟩

end Tunnel

end Amt

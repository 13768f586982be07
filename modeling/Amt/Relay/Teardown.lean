import Amt.Relay.Secrets
import Amt.Gateway.Run

/-!
# Teardown names an endpoint by sixteen bytes

A Membership Query tells the gateway under which address and port the relay sees it, and
a Teardown sends these fields back.  The state is keyed by socket addresses, so a gateway
is torn down only if its socket address survives the way through the address field.

* **Nothing of the field is lost.**  The relay reads the sixteen bytes as an address that
  is written with the same sixteen bytes (`fromIpAddr_teardownIp`), so that the Response
  MAC of the Query is also the one of the Teardown.
* **The socket address may be.**  Bytes that start with twelve zeros are read as IPv4,
  whatever they were written for, and neither flow label nor scope have a place in the
  field.  `SocketAddr.Nameable` are the addresses that come back as they were.

`teardown_removes_iff`: the Teardown removes the endpoint of the gateway exactly for the
nameable addresses.  `teardown_removes_nothing` is the run of a gateway on the loopback
address, and of one on a link-local address.
-/

namespace Amt

/-- The socket addresses that the gateway fields can name: IPv4, and IPv6 outside of
`::/96` without flow label and scope. -/
def SocketAddr.Nameable : SocketAddr → Prop
  | .v4 _ _ => True
  | .v6 ip _ flowinfo scopeId =>
      ip.octets.toList.take 12 ≠ List.replicate 12 0 ∧ flowinfo = 0 ∧ scopeId = 0

instance instDecidableNameable : DecidablePred SocketAddr.Nameable
  | .v4 _ _ => isTrue trivial
  | .v6 _ _ _ _ => inferInstanceAs (Decidable (_ ∧ _ ∧ _))

namespace Relay

/-! ## The way through the address field -/

theorem teardownIp_mk (port : UInt16) (octets : Octets 16) :
    teardownIp ⟨port, ⟨octets⟩⟩ =
      if octets.toList.take 12 = List.replicate 12 0 then
        .v4 (.new (octets.get 12) (octets.get 13) (octets.get 14) (octets.get 15))
      else .v6 ⟨octets⟩ := by
  unfold teardownIp GatewayAddress.asIpv4Compatible
  by_cases hzero : octets.toList.take 12 = List.replicate 12 0
  · rw [if_pos hzero, if_pos hzero]
  · rw [if_neg hzero, if_neg hzero]
    rfl

/-- **Reading the address field loses nothing of it.** -/
theorem fromIpAddr_teardownIp (gateway : GatewayEndpoint) :
    GatewayAddress.fromIpAddr (teardownIp gateway) = gateway.address := by
  obtain ⟨port, ⟨octets⟩⟩ := gateway
  rw [teardownIp_mk]
  split
  · rename_i hzero
    refine congrArg _ (Octets.ext ?_)
    obtain ⟨bytes, hlength⟩ := octets
    change bytes.take 12 = _ at hzero
    match bytes, hlength with
    | [b0, b1, b2, b3, b4, b5, b6, b7, b8, b9, b10, b11, b12, b13, b14, b15], _ =>
        exact congrArg (· ++ [b12, b13, b14, b15]) hzero.symm
  · rfl

/-- The fields a Query carries for a peer. -/
def gatewayFields (peer : SocketAddr) : GatewayEndpoint where
  port := peer.port
  address := .fromIpAddr peer.ip

/-- **The endpoint the fields name is the peer for the nameable addresses only.** -/
theorem teardownEndpoint_gatewayFields_iff (peer : SocketAddr) :
    teardownEndpoint (gatewayFields peer) = peer ↔ peer.Nameable := by
  cases peer with
  | v4 ip port =>
      obtain ⟨w, x, y, z, rfl⟩ := ip.exists_eq_new
      exact iff_of_true rfl trivial
  | v6 ip port flowinfo scopeId =>
      change SocketAddr.new (teardownIp ⟨port, ⟨ip.octets⟩⟩) port = _ ↔ _ ∧ _
      rw [teardownIp_mk]
      split
      · rename_i hzero
        exact iff_of_false nofun fun h => h.1 hzero
      · rename_i hzero
        rw [SocketAddr.new, SocketAddr.v6.injEq]
        refine ⟨fun h => ⟨hzero, h.2.2.1.symm, h.2.2.2.symm⟩, fun h => ?_⟩
        exact ⟨rfl, rfl, h.2.1.symm, h.2.2.symm⟩

section Teardown

variable (hmac : RelaySecret → Bytes → Octets 32)

/-- The MAC of the Query is valid for the address the Teardown is read to name. -/
theorem authorized_teardownIp_iff {relay : Relay} {now : Instant} {mac : ResponseMac}
    {peer : SocketAddr} {nonce : UInt32} :
    relay.Authorized hmac now mac (teardownIp (gatewayFields peer)) peer.port nonce ↔
      relay.Authorized hmac now mac peer.ip peer.port nonce := by
  have hinput : macInput (teardownIp (gatewayFields peer)) peer.port nonce =
      macInput peer.ip peer.port nonce := by
    rw [macInput, fromIpAddr_teardownIp]
    rfl
  simp only [Authorized, responseMacWithSecret, hinput]

/-! ## What a Teardown does -/

/-- **A Teardown with a valid MAC** is accepted, says whether the state had the endpoint it
names, and takes that endpoint, and no other, out of the state. -/
theorem handleDatagram_teardown {env : CallEnv} {relay : Relay} {datagram : Bytes}
    {mac : ResponseMac} {nonce : UInt32} {gateway : GatewayEndpoint}
    (hdecode : decode datagram = .ok (.teardown mac nonce gateway))
    (hvalid : (relay.rotateSecretIfDue env).Authorized hmac env.clock.processing mac
      (teardownIp gateway) gateway.port nonce) (source : SocketAddr) :
    (relay.handleDatagram hmac env source datagram).2 =
        .ok (.acceptedTeardown gateway
          (relay.state.containsEndpoint (teardownEndpoint gateway))) ∧
      ∀ e, (relay.handleDatagram hmac env source datagram).1.state.endpoints[e]? =
        if teardownEndpoint gateway = e then none else relay.state.endpoints[e]? := by
  have hvalid := (validResponseMac_iff hmac).mpr hvalid
  have hstate := state_rotateSecretIfDue relay env
  simp only [handleDatagram, prepareDatagram, hdecode, prepareMessage, prepareTeardown, hvalid,
    if_true, hstate]
  cases hcontains : relay.state.containsEndpoint (teardownEndpoint gateway) with
  | false =>
      simp only [Bool.not_false, if_true, true_and]
      intro e
      split
      · rename_i he
        rw [RelayState.containsEndpoint_eq_isSome, he, Option.isSome_eq_false_iff] at hcontains
        exact Option.isNone_iff_eq_none.mp hcontains
      · rfl
  | true =>
      have hremoved := RelayState.removeEndpoint_removed relay.state (teardownEndpoint gateway)
      simp only [Bool.not_true, Bool.false_eq_true, if_false, hremoved, hcontains, if_true,
        true_and]
      exact RelayState.getElem?_endpoints_removeEndpoint relay.state _

/-! ## The whole exchange -/

theorem includeGatewayAddress_rotateSecretIfDue (relay : Relay) (env : CallEnv) :
    (relay.rotateSecretIfDue env).config.includeGatewayAddress =
      relay.config.includeGatewayAddress := by
  unfold rotateSecretIfDue
  repeat' split
  all_goals rfl

theorem config_rememberGatewayEcnCapability (relay : Relay) (now : Instant)
    (endpoint : SocketAddr) (capable : Bool) :
    (relay.rememberGatewayEcnCapability now endpoint capable).config = relay.config := by
  simp only [rememberGatewayEcnCapability]
  repeat' split
  all_goals rfl

/-- **The answer to a Request** is a Query with the fields of the peer. -/
theorem decode_query_of_request {env : CallEnv} {relay : Relay} {peer : SocketAddr}
    {datagram query : Bytes} {nonce : UInt32} {protocol : MembershipProtocol} {ecnCapable : Bool}
    (hinclude : relay.config.includeGatewayAddress = true)
    (hdecode : decode datagram = .ok (.request nonce protocol ecnCapable))
    (h : (relay.handleDatagram hmac env peer datagram).2 = .ok (.send query)) :
    ∃ mac limit generalQuery, decode query =
      .ok (.membershipQuery mac nonce limit (some (gatewayFields peer)) generalQuery) := by
  simp only [handleDatagram, prepareDatagram, hdecode, prepareMessage, prepareRequest,
    config_rememberGatewayEcnCapability, includeGatewayAddress_rotateSecretIfDue, hinclude,
    if_true] at h
  cases hquery : (buildGeneralQuery protocol
      (relay.rotateSecretIfDue env).config.generalQuery : Outcome RelayError Bytes) with
  | err error => simp [hquery] at h
  | panic => simp [hquery] at h
  | ok generalQuery =>
      simp only [hquery, Outcome.bind_ok, Outcome.pure_eq_ok] at h
      obtain rfl := RelayAction.send.inj (Outcome.ok.inj h)
      exact ⟨_, _, generalQuery, decode_encode _⟩

theorem decode_teardown {gateway : Gateway} {session : GatewaySession} {destination : SocketAddr}
    {datagram : Bytes} {endpoint : GatewayEndpoint} (hsession : gateway.session = some session)
    (hendpoint : session.gatewayEndpoint = some endpoint)
    (h : gateway.teardown = .ok (.send destination datagram)) :
    decode datagram = .ok (.teardown session.responseMac session.requestNonce endpoint) := by
  unfold Gateway.teardown at h
  cases hrelay : gateway.relayEndpoint with
  | none => simp [hrelay] at h
  | some relay =>
      simp only [hrelay, hsession, hendpoint] at h
      obtain ⟨-, rfl⟩ := GatewayAction.send.inj (Outcome.ok.inj h)
      exact decode_encode _

end Teardown

/-- **The Teardown of a gateway removes its endpoint exactly when its address is nameable.**

A relay that includes the gateway fields answered a Request of `peer` with `query`.  A
gateway that took its session from this Query sends a Teardown, which reaches the relay,
from whatever source address, while the state has an endpoint for `peer` and the MAC of
the Query is valid for it.  The relay then answers that it removed the endpoint, and
`peer`'s endpoint and no other is gone, if and only if `peer` is nameable. -/
theorem teardown_removes_iff (hmac : RelaySecret → Bytes → Octets 32) (peer : SocketAddr)
    {answering : Relay} {queryEnv : CallEnv} {request query : Bytes} {nonce : UInt32}
    {protocol : MembershipProtocol} {ecnCapable : Bool}
    (hinclude : answering.config.includeGatewayAddress = true)
    (hrequest : decode request = .ok (.request nonce protocol ecnCapable))
    (hquery : (answering.handleDatagram hmac queryEnv peer request).2 = .ok (.send query))
    {gateway : Gateway} {session : GatewaySession} {limit : Bool} {generalQuery : Bytes}
    {destination : SocketAddr} {datagram : Bytes}
    (hsession : gateway.session = some session)
    (htaken : decode query = .ok (.membershipQuery session.responseMac session.requestNonce limit
      session.gatewayEndpoint generalQuery))
    (hteardown : gateway.teardown = .ok (.send destination datagram))
    {relay : Relay} {env : CallEnv} (hcontains : relay.state.containsEndpoint peer = true)
    (hvalid : (relay.rotateSecretIfDue env).Authorized hmac env.clock.processing
      session.responseMac peer.ip peer.port session.requestNonce) (source : SocketAddr) :
    ((relay.handleDatagram hmac env source datagram).2 =
        .ok (.acceptedTeardown (gatewayFields peer) true) ∧
      ∀ e, (relay.handleDatagram hmac env source datagram).1.state.endpoints[e]? =
        if peer = e then none else relay.state.endpoints[e]?) ↔ peer.Nameable := by
  obtain ⟨mac, limit', query', hdecode⟩ :=
    decode_query_of_request hmac hinclude hrequest hquery
  have hfields := Message.membershipQuery.inj (Outcome.ok.inj (htaken.symm.trans hdecode))
  have hmessage := decode_teardown hsession hfields.2.2.2.1 hteardown
  obtain ⟨hanswer, hstate⟩ := handleDatagram_teardown hmac hmessage
    ((authorized_teardownIp_iff hmac).mpr hvalid) source
  rw [← teardownEndpoint_gatewayFields_iff]
  constructor
  · rintro ⟨-, hremoved⟩
    by_contra hother
    have hkept := (hremoved peer).symm.trans (hstate peer)
    rw [if_pos rfl, if_neg hother] at hkept
    rw [RelayState.containsEndpoint_eq_isSome, ← hkept] at hcontains
    cases hcontains
  · intro hsame
    rw [hsame] at hanswer hstate
    rw [hcontains] at hanswer
    exact ⟨hanswer, hstate⟩

/-! ### A gateway that comes back, and two that do not -/

def boundRelay : Relay :=
  .new (.forBind ⟨.zero 32⟩ (.v6 (.new 0x2001 0xdb8 0 0 0 0 0 9) 2268 0 0)) 0

/-- A gateway that the relay sees under the address `peer`, after discovery, a query cycle
and a join. -/
def joinedFrom (peer : SocketAddr) : Tunnel :=
  let start : Tunnel :=
    { gateway := .numbered boundRelay.config.bind .igmpv3, relay := boundRelay }
  let tunnel := (start.handshake Tunnel.zeroDigest peer Tunnel.sampleEnv Tunnel.sampleEnv .notEct
    .notEct).1
  tunnel.step Tunnel.zeroDigest peer
    (.request (.join (.v4 (.new 232 1 1 1)) none) (some Tunnel.sampleEnv))

/-- The relay's answer to the Teardown of the gateway. -/
def teardownOf (tunnel : Tunnel) (source : SocketAddr) : Relay × Outcome RelayError RelayAction :=
  match tunnel.gateway.teardown with
  | .ok (.send _ datagram) =>
      tunnel.relay.handleDatagram Tunnel.zeroDigest Tunnel.sampleEnv source datagram
  | _ => (tunnel.relay, .ok .ignored)

/-- `[2001:db8::1]:5001`. -/
def globalPeer : SocketAddr := .v6 (.new 0x2001 0xdb8 0 0 0 0 0 1) 5001 0 0

/-- A gateway on a global address is torn down, from another port as well. -/
theorem teardown_removes_global :
    (teardownOf (joinedFrom globalPeer) (.v6 (.new 0x2001 0xdb8 0 0 0 0 0 1) 6001 0 0)).2 =
      .ok (.acceptedTeardown (gatewayFields globalPeer) true) := by
  have hquery : (boundRelay.handleDatagram Tunnel.zeroDigest Tunnel.sampleEnv globalPeer
      (encode (.request 2 .igmpv3 false))).2 = .ok (.send (encode (.membershipQuery ⟨.zero 6⟩ 2
        false (some (gatewayFields globalPeer)) restlessQuery))) := by decide +kernel
  have hsession : (joinedFrom globalPeer).gateway.session =
      some ⟨⟨.zero 6⟩, 2, some (gatewayFields globalPeer), true⟩ := by decide +kernel
  have hteardown : (joinedFrom globalPeer).gateway.teardown = .ok (.send boundRelay.config.bind
      (encode (.teardown ⟨.zero 6⟩ 2 (gatewayFields globalPeer)))) := by decide +kernel
  have hcontains : (joinedFrom globalPeer).relay.state.containsEndpoint globalPeer = true := by
    decide +kernel
  have hvalid : ((joinedFrom globalPeer).relay.rotateSecretIfDue Tunnel.sampleEnv).Authorized
      Tunnel.zeroDigest Tunnel.sampleEnv.clock.processing ⟨.zero 6⟩ globalPeer.ip globalPeer.port
      2 := (validResponseMac_iff _).mp (by decide +kernel)
  have hnameable : globalPeer.Nameable := by decide +kernel
  rw [teardownOf, hteardown]
  exact ((teardown_removes_iff Tunnel.zeroDigest globalPeer rfl (decode_encode _) hquery hsession
    (decode_encode _) hteardown hcontains hvalid _).mpr hnameable).1

/-- `[::1]:5001`. -/
def loopbackPeer : SocketAddr := .v6 (.new 0 0 0 0 0 0 0 1) 5001 0 0

/-- `[fe80::1%2]:5001`. -/
def linkLocalPeer : SocketAddr := .v6 (.new 0xfe80 0 0 0 0 0 0 1) 5001 0 2

/-- The Teardowns of gateways on the loopback and on a link-local address are accepted and
remove nothing. -/
theorem teardown_removes_nothing :
    ((joinedFrom loopbackPeer).relay.state.containsEndpoint loopbackPeer = true ∧
      (teardownOf (joinedFrom loopbackPeer) loopbackPeer).2 =
        .ok (.acceptedTeardown (gatewayFields loopbackPeer) false) ∧
      (teardownOf (joinedFrom loopbackPeer) loopbackPeer).1.state.containsEndpoint loopbackPeer
        = true) ∧
    (joinedFrom linkLocalPeer).relay.state.containsEndpoint linkLocalPeer = true ∧
      (teardownOf (joinedFrom linkLocalPeer) linkLocalPeer).2 =
        .ok (.acceptedTeardown (gatewayFields linkLocalPeer) false) ∧
      (teardownOf (joinedFrom linkLocalPeer) linkLocalPeer).1.state.containsEndpoint linkLocalPeer
        = true := by
  decide +kernel

end Relay

end Amt

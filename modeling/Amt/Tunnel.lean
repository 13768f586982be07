import Amt.Gateway
import Amt.Lib.Run
import Amt.Membership.RoundTrip
import Amt.Relay.Authority

/-!
# The tunnel: two copies of one membership table

A gateway keeps what it reported in its reception state; the relay keeps what it was
told under the gateway's address.  Nothing compares the two copies, and data flows only
where both agree: the relay forwards by its copy, the gateway filters by its own.

What an endpoint holds is a table `Memberships`, and a report *acts* on it
(`MembershipReport.act`), group by group.  Both sides are shown to apply the same action:

* the gateway applies the report it sends (`perform_cases`);
* the relay, if it accepts the datagram, applies the report it parses, and that is the
  report that was built (`handleDatagram_accepted`): the codec, the report builder and
  the parser, the fast path that skips a report without effect, and the commit of the
  candidate state are all behind this one lemma.

A `Tunnel` is the pair; its events are the gateway's membership requests with their
delivery or loss, and everything else either side does meanwhile.  A request that is
delivered and accepted acts on both tables (`step_request_accepted`), and nothing else
touches them.
-/

namespace Amt

open RelayState (Op afterOps)

/-! ## Membership tables -/

/-- What an endpoint wants of each group. -/
abbrev Memberships := IpAddr → Option GroupInterest

/-- The effect of a list of records on a table: each group sees the records about it. -/
def actRecords (records : List MembershipRecord) (held : Memberships) : Memberships := fun g =>
  (records.filter fun record => record.group = g).foldl (fun held record => record.effect held)
    (held g)

/-- **What a report does to a table.** -/
def MembershipReport.act (report : MembershipReport) (held : Memberships) : Memberships :=
  actRecords report.records held

namespace RelayState

theorem endpointInterest_applyReport_self (state : RelayState) (endpoint : SocketAddr)
    (report : MembershipReport) :
    (state.applyReport endpoint report).1.endpointInterest endpoint
      = report.act (state.endpointInterest endpoint) := by
  funext g
  rw [endpointInterest_applyReport, if_pos rfl]
  rfl

/-- **The fast path skips nothing**: a report that the preview finds without effect acts
as the identity. -/
theorem act_of_previewReport {state : RelayState} {endpoint : SocketAddr}
    {report : MembershipReport} (h : (state.previewReport endpoint report).2 = false) :
    report.act (state.endpointInterest endpoint) = state.endpointInterest endpoint := by
  cases hrecords : report.records.isEmpty with
  | true =>
      funext g
      simp [MembershipReport.act, actRecords, List.isEmpty_iff.mp hrecords]
  | false =>
      -- the entry the report would store is the one already there
      have hentry : state.reportedEntry endpoint report = state.endpoints[endpoint]? := by
        simp only [previewReport, hrecords, Bool.false_eq_true, if_false] at h
        unfold reportedEntry
        dsimp only
        split at h
        · rename_i hempty
          rw [if_pos hempty]
          exact (Option.not_isSome_iff_eq_none.mp (Bool.eq_false_iff.mp h)).symm
        · rename_i hempty
          rw [if_neg hempty]
          exact (not_not.mp (of_decide_eq_false h)).symm
      rw [← endpointInterest_applyReport_self]
      funext g
      rw [endpointInterest, getElem?_endpoints_applyReport hrecords, if_pos rfl, hentry]
      rfl

end RelayState

/-! ## The relay's side -/

namespace Relay

variable (hmac : RelaySecret → Bytes → Octets 32)

/-- The answer acknowledges a Membership Update. -/
def acceptsUpdate : Outcome RelayError RelayAction → Bool
  | .ok (.acceptedMembershipUpdate _ _ _ _) => true
  | _ => false

/-- **An accepted update acts on the sender's table** as the report it was built from. -/
theorem handleDatagram_accepted {env : CallEnv} {relay : Relay} {peer : SocketAddr}
    {mac : ResponseMac} {nonce : UInt32} {report : MembershipReport} {packet : Bytes}
    (hbuild : buildMembershipReport report = .ok packet)
    (haccepted : acceptsUpdate (relay.handleDatagram hmac env peer
      (encode (.membershipUpdate mac nonce packet))).2 = true) :
    (relay.handleDatagram hmac env peer
        (encode (.membershipUpdate mac nonce packet))).1.state.endpointInterest peer
      = report.act (relay.state.endpointInterest peer) := by
  obtain ⟨rotated, hrotated⟩ : ∃ r, r = relay.rotateSecretIfDue env := ⟨_, rfl⟩
  have hstate : rotated.state = relay.state := by rw [hrotated, state_rotateSecretIfDue]
  simp only [handleDatagram, prepareDatagram, decode_encode, prepareMessage, prepareUpdate,
    ← hrotated] at haccepted ⊢
  cases hvalid : rotated.validResponseMac hmac env.clock.processing mac peer.ip peer.port nonce with
  | false => simp [hvalid, acceptsUpdate] at haccepted
  | true =>
      simp only [hvalid, if_true] at haccepted ⊢
      cases hprepare : rotated.prepareReport peer packet with
      | err error => simp [hprepare, acceptsUpdate] at haccepted
      | panic => simp [hprepare, acceptsUpdate] at haccepted
      | ok result =>
          obtain ⟨action, next⟩ := result
          rcases prepareReport_cases hprepare with ⟨rfl, rfl⟩ | ⟨report', hparse, hnext⟩
          · simp [hprepare, acceptsUpdate] at haccepted
          · rw [← eq_of_parse_buildMembershipReport hbuild hparse, ← hstate]
            rcases hnext with ⟨hpreview, rfl, -⟩ | ⟨-, ⟨applied, hok⟩, rfl, -⟩
            · exact (RelayState.act_of_previewReport hpreview).symm
            · change (rotated.state.applyReportLimited peer report' _).1.endpointInterest peer = _
              rw [RelayState.applyReportLimited_of_ok hok,
                RelayState.endpointInterest_applyReport_self]

/-- A datagram is at most one operation on the state. -/
theorem handleDatagram_wellFormed {env : CallEnv} {relay : Relay} {peer : SocketAddr}
    {datagram : Bytes} (h : relay.state.WellFormed) :
    (relay.handleDatagram hmac env peer datagram).1.state.WellFormed := by
  rcases handleDatagram_eq hmac env relay peer datagram with ⟨_, next, hprepare, hnext, -⟩ | hsame
  · obtain ⟨message, -, hmessage⟩ := prepareDatagram_candidate hmac hprepare
    obtain ⟨-, -, -, -, -, -, ⟨op, hop⟩, -⟩ := prepareMessage_candidate hmac hmessage
    rw [hnext, hop, state_rotateSecretIfDue]
    exact h.step op
  · rw [hsame]
    exact h

/-- The datagram is neither an update of `endpoint` nor a teardown that names it. -/
def Spares (endpoint peer : SocketAddr) (datagram : Bytes) : Prop :=
  ∀ message mac nonce, decode datagram = .ok message → ¬ Affects peer message endpoint mac nonce

theorem endpointInterest_handleDatagram_of_spares {env : CallEnv} {relay : Relay}
    {endpoint peer : SocketAddr} {datagram : Bytes} (h : Spares endpoint peer datagram) :
    (relay.handleDatagram hmac env peer datagram).1.state.endpointInterest endpoint
      = relay.state.endpointInterest endpoint := by
  rcases handleDatagram_eq hmac env relay peer datagram with ⟨_, next, hprepare, hnext, -⟩ | hsame
  · obtain ⟨message, hdecode, hmessage⟩ := prepareDatagram_candidate hmac hprepare
    obtain ⟨affected, mac, nonce, haffects, -, -, -, hothers⟩ :=
      prepareMessage_candidate hmac hmessage
    have hne : endpoint ≠ affected := by
      rintro rfl
      exact h message mac nonce hdecode haffects
    funext g
    rw [hnext, hothers endpoint g hne, state_rotateSecretIfDue]
  · rw [hsame]

end Relay

/-! ## The gateway's side -/

/-- The calls that report memberships. -/
inductive MembershipRequest where
  | update (report : MembershipReport)
  | replace (report : MembershipReport)
  | join (group : IpAddr) (source : Option IpAddr)

namespace Gateway

/-- The report a request sends. -/
def requestReport (gateway : Gateway) : MembershipRequest → MembershipReport
  | .update report => report
  | .replace report => gateway.replacementReport report
  | .join group source =>
      { protocol := gateway.config.protocol, records := [joinRecord group source] }

/-- The gateway after a request, and the datagram it asks to send, if any. -/
def perform (gateway : Gateway) : MembershipRequest → Gateway × Option Bytes
  | .update report => sent (gateway.membershipUpdate report)
  | .replace report =>
      match gateway.replaceMemberships report with
      | (gateway, .ok (some action)) => sent (gateway, .ok action)
      | (gateway, _) => (gateway, none)
  | .join group source => sent (gateway.joinGroup group source)
where
  sent : Gateway × Outcome GatewayError GatewayAction → Gateway × Option Bytes
    | (gateway, .ok action) => (gateway, action.intoSend.map Prod.snd)
    | (gateway, _) => (gateway, none)

/-- A gateway that sends nothing is unchanged; one that sends has applied the report in
the datagram. -/
def Performed (gateway : Gateway) (report : MembershipReport)
    (result : Gateway × Option Bytes) : Prop :=
  result = (gateway, none) ∨
    ∃ mac nonce packet, buildMembershipReport report = .ok packet ∧
      result.2 = some (encode (.membershipUpdate mac nonce packet)) ∧
      result.1.receptionState =
        (gateway.receptionState.applyReport receptionStateEndpoint report).1

theorem performed_membershipUpdate (gateway : Gateway) (report : MembershipReport) :
    gateway.Performed report (perform.sent (gateway.membershipUpdate report)) := by
  unfold membershipUpdate
  cases gateway.relayEndpoint with
  | none => exact .inl rfl
  | some relay =>
      cases gateway.session with
      | none => exact .inl rfl
      | some session =>
          cases hbuild : buildMembershipReport report with
          | err error => exact .inl rfl
          | panic => exact .inl rfl
          | ok packet => exact .inr ⟨_, _, packet, hbuild, rfl, rfl⟩

/-- **Every request**: nothing, or its report applied and on the wire. -/
theorem perform_cases (gateway : Gateway) (request : MembershipRequest) :
    gateway.Performed (gateway.requestReport request) (gateway.perform request) := by
  cases request with
  | update report => exact performed_membershipUpdate gateway report
  | join group source => exact performed_membershipUpdate gateway _
  | replace report =>
      have hupdate := performed_membershipUpdate gateway (gateway.replacementReport report)
      simp only [perform, replaceMemberships, requestReport]
      cases hempty : (gateway.replacementReport report).records.isEmpty with
      | true => exact .inl rfl
      | false =>
          rw [if_neg (by simp)]
          cases hresult : gateway.membershipUpdate (gateway.replacementReport report) with
          | mk gateway' outcome =>
              rw [hresult] at hupdate
              cases outcome with
              | ok action => exact hupdate
              | err error => exact hupdate
              | panic => exact hupdate

/-! ### The filter on multicast data -/

theorem deliver_ne_ignored (gateway : Gateway) (packet : Bytes) (outerEcn : EcnCodepoint) :
    gateway.deliver packet outerEcn ≠ .ok .ignored := by
  unfold deliver
  cases gateway.config.ecn with
  | false => simp
  | true =>
      rw [if_pos rfl]
      intro h
      obtain ⟨⟨packet', ecn⟩, -, h⟩ := Outcome.bind_eq_ok_iff.mp h
      cases hdrop : ecn.isDrop <;> simp [hdrop] at h

/-- A data packet from the selected relay is ignored exactly when the filter does not
want it. -/
theorem handleDatagramWithEcn_ignored_iff {gateway : Gateway} {relay : SocketAddr}
    {session : GatewaySession} {packet : Bytes} {parsed : MulticastPacket}
    (hrelay : gateway.relayEndpoint = some relay) (hsession : gateway.session = some session)
    (hparse : parseMulticastPacket packet = .ok parsed) (outerEcn : EcnCodepoint) :
    (gateway.handleDatagramWithEcn relay (encode (.multicastData packet)) outerEcn).2
        = .ok .ignored ↔ gateway.interested parsed.source parsed.group = false := by
  simp only [handleDatagramWithEcn, hrelay, Option.getD_some, ne_eq, not_true_eq_false, if_false,
    decode_encode, handleMessage, handleData, Option.isNone_some, Bool.false_eq_true, hsession,
    hparse]
  cases gateway.interested parsed.source parsed.group with
  | false => simp
  | true => simp [deliver_ne_ignored]

/-! ### What does not touch the reception state -/

section Frame

variable (gateway : Gateway)

@[simp] theorem receptionState_handleAdvertisement (peer : SocketAddr) (discoveryNonce : UInt32)
    (relayAddress : IpAddr) :
    (gateway.handleAdvertisement peer discoveryNonce relayAddress).1.receptionState
      = gateway.receptionState := by
  unfold handleAdvertisement
  repeat' split
  all_goals rfl

@[simp] theorem receptionState_handleQuery (mac : ResponseMac) (nonce : UInt32) (limit : Bool)
    (endpoint : Option GatewayEndpoint) (generalQuery : Bytes) :
    (gateway.handleQuery mac nonce limit endpoint generalQuery).1.receptionState
      = gateway.receptionState := by
  unfold handleQuery
  repeat' split
  all_goals rfl

/-- Multicast data changes nothing at all. -/
@[simp] theorem handleData_fst (packet : Bytes) (outerEcn : EcnCodepoint) :
    (gateway.handleData packet outerEcn).1 = gateway := by
  unfold handleData
  repeat' split
  all_goals rfl

@[simp] theorem receptionState_handleDatagramWithEcn (peer : SocketAddr) (datagram : Bytes)
    (outerEcn : EcnCodepoint) :
    (gateway.handleDatagramWithEcn peer datagram outerEcn).1.receptionState
      = gateway.receptionState := by
  simp only [handleDatagramWithEcn]
  split
  · rfl
  · cases decode datagram with
    | err error => rfl
    | panic => rfl
    | ok message => cases message <;> simp [handleMessage]

@[simp] theorem receptionState_beginQueryCycle (nonce : Nonce) :
    (gateway.beginQueryCycle nonce).1.receptionState = gateway.receptionState := by
  unfold beginQueryCycle
  split <;> rfl

@[simp] theorem receptionState_replaceRelayCandidates (relays : List SocketAddr) :
    (gateway.replaceRelayCandidates relays).1.receptionState = gateway.receptionState := by
  simp only [replaceRelayCandidates]
  split <;> rfl

end Frame

end Gateway

/-! ## The two sides together -/

/-- A gateway and the relay it talks to. -/
structure Tunnel where
  gateway : Gateway
  relay : Relay

/-- What happens at a tunnel: a membership request of the gateway, whose datagram is lost
or delivered; what else the gateway does; what else the relay receives or prunes. -/
inductive TunnelEvent where
  | request (request : MembershipRequest) (delivery : Option CallEnv)
  | gatewayDatagram (peer : SocketAddr) (datagram : Bytes) (outerEcn : EcnCodepoint)
  | beginQueryCycle (nonce : Nonce)
  | restartDiscovery (discoveryNonce requestNonce : Nonce)
  | replaceRelayCandidates (relays : List SocketAddr)
  | relayDatagram (env : CallEnv) (peer : SocketAddr) (datagram : Bytes)
  | removeGateway (endpoint : SocketAddr)

namespace Tunnel

section Step

variable (hmac : RelaySecret → Bytes → Octets 32) (p : SocketAddr)

/-- The relay's answer to a request's datagram, if there is one and it arrives from `p`. -/
def deliver (relay : Relay) (datagram : Option Bytes) (delivery : Option CallEnv) :
    Relay × Option (Outcome RelayError RelayAction) :=
  match datagram, delivery with
  | some datagram, some env =>
      let (relay, answer) := relay.handleDatagram hmac env p datagram
      (relay, some answer)
  | _, _ => (relay, none)

/-- The answer the gateway's request gets, when it is performed now. -/
def answer (tunnel : Tunnel) (request : MembershipRequest) (delivery : Option CallEnv) :
    Option (Outcome RelayError RelayAction) :=
  (deliver hmac p tunnel.relay (tunnel.gateway.perform request).2 delivery).2

/-- The tunnel after one event. -/
def step (tunnel : Tunnel) : TunnelEvent → Tunnel
  | .request request delivery =>
      let (gateway, datagram) := tunnel.gateway.perform request
      { gateway, relay := (deliver hmac p tunnel.relay datagram delivery).1 }
  | .gatewayDatagram peer datagram outerEcn =>
      { tunnel with gateway := (tunnel.gateway.handleDatagramWithEcn peer datagram outerEcn).1 }
  | .beginQueryCycle nonce => { tunnel with gateway := (tunnel.gateway.beginQueryCycle nonce).1 }
  | .restartDiscovery discoveryNonce requestNonce =>
      { tunnel with gateway := (tunnel.gateway.restartDiscovery discoveryNonce requestNonce).1 }
  | .replaceRelayCandidates relays =>
      { tunnel with gateway := (tunnel.gateway.replaceRelayCandidates relays).1 }
  | .relayDatagram env peer datagram =>
      { tunnel with relay := (tunnel.relay.handleDatagram hmac env peer datagram).1 }
  | .removeGateway endpoint => { tunnel with relay := (tunnel.relay.removeGateway endpoint).1 }

/-- The relay leaves `p` alone in this event, except through the gateway's requests. -/
def Spares : TunnelEvent → Prop
  | .relayDatagram _ peer datagram => Relay.Spares p peer datagram
  | .removeGateway endpoint => endpoint ≠ p
  | _ => True

/-- Every datagram of a request is delivered and accepted. -/
def Reliable (tunnel : Tunnel) : TunnelEvent → Prop
  | .request request delivery =>
      (tunnel.gateway.perform request).2.isSome → ∃ outcome,
        tunnel.answer hmac p request delivery = some outcome ∧ Relay.acceptsUpdate outcome = true
  | _ => True

/-- A step of a tunnel that loses nothing. -/
def ReliableStep (tunnel : Tunnel) (event : TunnelEvent) (tunnel' : Tunnel) : Prop :=
  Spares p event ∧ tunnel.Reliable hmac p event ∧ tunnel.step hmac p event = tunnel'

end Step

/-- A tunnel at its start: nothing reported, and the relay does not know `p`. -/
structure Fresh (p : SocketAddr) (tunnel : Tunnel) : Prop where
  reception : tunnel.gateway.receptionState = .default
  reachable : ∃ ops, tunnel.relay.state = afterOps ops
  unknown : tunnel.relay.state.containsEndpoint p = false

/-- **The copies agree.** -/
def Synced (p : SocketAddr) (tunnel : Tunnel) : Prop :=
  ∀ g, tunnel.relay.state.endpointInterest p g = tunnel.gateway.receptionInterest g

/-! ### Steps -/

section Steps

variable {hmac : RelaySecret → Bytes → Octets 32} {p : SocketAddr} {tunnel : Tunnel}

/-- **An accepted request acts on both copies alike.** -/
theorem step_request_accepted {request : MembershipRequest} {delivery : Option CallEnv}
    {outcome : Outcome RelayError RelayAction}
    (hanswer : tunnel.answer hmac p request delivery = some outcome)
    (haccepted : Relay.acceptsUpdate outcome = true) :
    (tunnel.step hmac p (.request request delivery)).relay.state.endpointInterest p
        = (tunnel.gateway.requestReport request).act (tunnel.relay.state.endpointInterest p) ∧
      (tunnel.step hmac p (.request request delivery)).gateway.receptionInterest
        = (tunnel.gateway.requestReport request).act tunnel.gateway.receptionInterest := by
  simp only [answer] at hanswer
  simp only [step]
  rcases tunnel.gateway.perform_cases request with hnone |
      ⟨mac, nonce, packet, hbuild, hdatagram, hreception⟩
  · simp [hnone, deliver] at hanswer
  · constructor
    · rw [hdatagram] at hanswer ⊢
      cases delivery with
      | none => simp [deliver] at hanswer
      | some env =>
          obtain rfl : (tunnel.relay.handleDatagram hmac env p _).2 = outcome :=
            Option.some.inj hanswer
          exact Relay.handleDatagram_accepted hmac hbuild haccepted
    · change (tunnel.gateway.perform request).1.receptionState.endpointInterest _ = _
      rw [hreception]
      exact RelayState.endpointInterest_applyReport_self _ _ _

/-- What is not a request leaves the reception state alone. -/
theorem receptionState_step {event : TunnelEvent}
    (hevent : ∀ request delivery, event ≠ .request request delivery) :
    (tunnel.step hmac p event).gateway.receptionState = tunnel.gateway.receptionState := by
  cases event with
  | request request delivery => exact absurd rfl (hevent request delivery)
  | gatewayDatagram | beginQueryCycle | replaceRelayCandidates => simp [step]
  | restartDiscovery | relayDatagram | removeGateway => rfl

/-- What is not a request and spares `p` leaves its table alone. -/
theorem endpointInterest_step {event : TunnelEvent}
    (hevent : ∀ request delivery, event ≠ .request request delivery) (hspares : Spares p event) :
    (tunnel.step hmac p event).relay.state.endpointInterest p
      = tunnel.relay.state.endpointInterest p := by
  cases event with
  | request request delivery => exact absurd rfl (hevent request delivery)
  | gatewayDatagram | beginQueryCycle | replaceRelayCandidates | restartDiscovery => rfl
  | relayDatagram env peer datagram =>
      exact Relay.endpointInterest_handleDatagram_of_spares hmac hspares
  | removeGateway endpoint =>
      funext g
      change (tunnel.relay.state.removeEndpoint endpoint).1.endpointInterest p g = _
      rw [RelayState.endpointInterest_removeEndpoint, if_neg hspares]

theorem wellFormed_deliver {relay : Relay} {datagram : Option Bytes} {delivery : Option CallEnv}
    (h : relay.state.WellFormed) : (deliver hmac p relay datagram delivery).1.state.WellFormed := by
  unfold deliver
  split
  · exact Relay.handleDatagram_wellFormed hmac h
  · exact h

theorem wellFormed_step (h : tunnel.relay.state.WellFormed) (event : TunnelEvent) :
    (tunnel.step hmac p event).relay.state.WellFormed := by
  cases event with
  | request request delivery => exact wellFormed_deliver h
  | gatewayDatagram | beginQueryCycle | replaceRelayCandidates | restartDiscovery => exact h
  | relayDatagram env peer datagram => exact Relay.handleDatagram_wellFormed hmac h
  | removeGateway endpoint => exact h.removeEndpoint endpoint

end Steps

theorem Fresh.wellFormed {p : SocketAddr} {tunnel : Tunnel} (h : tunnel.Fresh p) :
    tunnel.relay.state.WellFormed := by
  obtain ⟨ops, hops⟩ := h.reachable
  rw [hops]
  exact RelayState.wellFormed_afterOps ops

theorem Fresh.synced {p : SocketAddr} {tunnel : Tunnel} (h : tunnel.Fresh p) :
    tunnel.Synced p := by
  intro g
  have hnone : tunnel.relay.state.endpoints[p]? = none :=
    Std.ExtTreeMap.getElem?_eq_none_of_contains_eq_false h.unknown
  rw [RelayState.endpointInterest, hnone, Gateway.receptionInterest, h.reception]
  rfl

/-! ### A tunnel that was set up -/

/-- A message of the gateway goes to the relay, and the answer comes back from the address
to which it was sent. -/
def exchange (hmac : RelaySecret → Bytes → Octets 32) (p : SocketAddr) (env : CallEnv)
    (outerEcn : EcnCodepoint) (tunnel : Tunnel) :
    GatewayAction → Tunnel × Outcome GatewayError GatewayAction
  | .send destination datagram =>
      let answered := tunnel.relay.handleDatagram hmac env p datagram
      match answered.2 with
      | .ok (.send answer) =>
          let handled := tunnel.gateway.handleDatagramWithEcn destination answer outerEcn
          ({ gateway := handled.1, relay := answered.1 }, handled.2)
      | _ => ({ tunnel with relay := answered.1 }, .ok .ignored)
  | action => (tunnel, .ok action)

/-- Discovery and Advertisement, then the Request the gateway sends next and the Query. -/
def handshake (hmac : RelaySecret → Bytes → Octets 32) (p : SocketAddr) (first second : CallEnv)
    (firstEcn secondEcn : EcnCodepoint) (tunnel : Tunnel) :
    Tunnel × Outcome GatewayError GatewayAction :=
  let discovered := tunnel.exchange hmac p first firstEcn tunnel.gateway.discovery
  match discovered.2 with
  | .ok action => discovered.1.exchange hmac p second secondEcn action
  | .err error => (discovered.1, .err error)
  | .panic => (discovered.1, .panic)

end Tunnel

def Nonce.first : Nonce := ⟨1, by decide⟩

def Nonce.second : Nonce := ⟨2, by decide⟩

namespace Gateway

def sampleRelay : SocketAddr := .v4 (.new 192 0 2 9) 2268

/-- A gateway of `protocol` for the relay `relay`, with the nonces 1 and 2. -/
def numbered (relay : SocketAddr) (protocol : MembershipProtocol) : Gateway :=
  .new (.new relay protocol .first .second) .first .second

def sampleStart : Gateway := numbered sampleRelay .igmpv3

end Gateway

namespace Tunnel

/-- A digest that ignores its input. -/
def zeroDigest : RelaySecret → Bytes → Octets 32 := fun _ _ => .zero 32

def sampleEnv : CallEnv := { clock := .at 0, generated := none }

def samplePeer : SocketAddr := .v4 (.new 192 0 2 1) 5001

/-- A new gateway and a new relay. -/
def untouched : Tunnel where
  gateway := Gateway.sampleStart
  relay := .new (.forBind ⟨.zero 32⟩ Gateway.sampleRelay) 0

/-- The two after a handshake. -/
def sample : Tunnel :=
  (untouched.handshake zeroDigest samplePeer sampleEnv sampleEnv .notEct .notEct).1

theorem sample_fresh : sample.Fresh samplePeer where
  reception := by decide +kernel
  reachable := ⟨[], by decide +kernel⟩
  unknown := by decide +kernel

end Tunnel

end Amt

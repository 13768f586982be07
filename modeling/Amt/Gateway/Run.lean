import Amt.Packet
import Amt.Tunnel.Replay

/-!
# Runs of a gateway

A gateway is driven by whoever owns it (query cycles, discovery restarts, memberships)
and by whatever arrives on its socket.  A *call* is one of these, with the result it
returned; a run is a sequence of calls, and nothing is assumed about the datagrams in it:
any peer, any bytes, any outer ECN field, in any order and any number of times.

* **What one call can do** is said once.  `Effect` lists the ten ways in which a call
  affects a gateway, each with its guard, and `effect_call` shows that there is no other.
* **Failure is atomic** (`call_err_unchanged`): no call that returns an error has written
  anything.
* **The fields fit together** (`run_consistent`): phase, relay endpoint, session and
  nonces agree in every reachable gateway.

Which datagrams of which cycle a gateway accepts is in `Amt.Gateway.Cycles`, what data it
hands on in `Amt.Gateway.Reception`.
-/

namespace Amt

/-! ## Calls -/

/-- The methods of a gateway that act or change it. -/
inductive GatewayOp where
  | handleDatagramWithEcn (peer : SocketAddr) (datagram : Bytes) (outerEcn : EcnCodepoint)
  | membership (request : MembershipRequest)
  | beginQueryCycle (nonce : Nonce)
  | restartDiscovery (discoveryNonce requestNonce : Nonce)
  | replaceRelayCandidates (relays : List SocketAddr)
  | discovery
  | request
  | teardown

/-- The methods that only read the gateway. -/
def GatewayOp.readsOnly : GatewayOp → Bool
  | .discovery | .request | .teardown => true
  | _ => false

/-- A call and the result it returned. -/
structure GatewayCall where
  op : GatewayOp
  outcome : Outcome GatewayError (Option GatewayAction)

/-- The messages that may change a gateway. -/
def Message.steersGateway : Message → Bool
  | .relayAdvertisement _ _ | .membershipQuery _ _ _ _ _ => true
  | _ => false

/-- The nonce of a Request. -/
def Message.nonceOfRequest : Message → Option UInt32
  | .request nonce _ _ => some nonce
  | _ => none

/-- The nonce of a Request that is handed to the socket. -/
def GatewayAction.generatedRequest : GatewayAction → Option UInt32
  | .send _ datagram =>
      match decode datagram with
      | .ok message => message.nonceOfRequest
      | _ => none
  | _ => none

@[simp] theorem GatewayAction.generatedRequest_send (destination : SocketAddr)
    (message : Message) :
    (GatewayAction.send destination (encode message)).generatedRequest
      = message.nonceOfRequest := by
  rw [generatedRequest, decode_encode]

namespace Gateway

/-- A method that always has an action to return. -/
def answered (result : Gateway × Outcome GatewayError GatewayAction) :
    Gateway × Outcome GatewayError (Option GatewayAction) :=
  (result.1, some <$> result.2)

/-- The three calls that report memberships. -/
def callMembership (gateway : Gateway) :
    MembershipRequest → Gateway × Outcome GatewayError (Option GatewayAction)
  | .update report => answered (gateway.membershipUpdate report)
  | .replace report => gateway.replaceMemberships report
  | .join group source => answered (gateway.joinGroup group source)

/-- The gateway after a call, and the result. -/
def call (gateway : Gateway) :
    GatewayOp → Gateway × Outcome GatewayError (Option GatewayAction)
  | .handleDatagramWithEcn peer datagram outerEcn =>
      answered (gateway.handleDatagramWithEcn peer datagram outerEcn)
  | .membership request => gateway.callMembership request
  | .beginQueryCycle nonce => answered (gateway.beginQueryCycle nonce)
  | .restartDiscovery discoveryNonce requestNonce =>
      ((gateway.restartDiscovery discoveryNonce requestNonce).1,
        .ok (some (gateway.restartDiscovery discoveryNonce requestNonce).2))
  | .replaceRelayCandidates relays => ((gateway.replaceRelayCandidates relays).1, .ok none)
  | .discovery => (gateway, .ok (some gateway.discovery))
  | .request => (gateway, some <$> gateway.request)
  | .teardown => (gateway, some <$> gateway.teardown)

/-- One step of a run. -/
def Called (gateway : Gateway) (c : GatewayCall) (gateway' : Gateway) : Prop :=
  gateway.call c.op = (gateway', c.outcome)

/-- The calls a list of methods makes, and the gateway they lead to. -/
def callAll (start : Gateway) (ops : List GatewayOp) : List GatewayCall × Gateway :=
  ops.foldl (fun run op => (run.1 ++ [⟨op, (run.2.call op).2⟩], (run.2.call op).1)) ([], start)

theorem run_callAll (start : Gateway) (ops : List GatewayOp) :
    Run Called start (callAll start ops).1 (callAll start ops).2 := by
  unfold callAll
  refine List.foldlRecOn (motive := fun run : List GatewayCall × Gateway =>
    Run Called start run.1 run.2) ops _ .nil fun run hrun op _ => ?_
  exact hrun.snoc (show run.2.call op = _ from rfl)

/-! ## What one call can do -/

/-- The session a Membership Query sets up. -/
def querySession (gateway : Gateway) (responseMac : ResponseMac) (requestNonce : UInt32)
    (endpoint : Option GatewayEndpoint) : GatewaySession where
  responseMac := responseMac
  requestNonce := requestNonce
  gatewayEndpoint := endpoint
  reportedMemberships := gateway.session.any fun session =>
    session.gatewayEndpoint == endpoint && session.reportedMemberships

/-- **The effects of a call**, by the result it returns and the gateway it leaves. -/
inductive Effect (gateway : Gateway) :
    GatewayOp → Outcome GatewayError (Option GatewayAction) → Gateway → Prop
  /-- The call fails (or panics). -/
  | refused {op : GatewayOp} {outcome : Outcome GatewayError (Option GatewayAction)}
      (hfailed : ∀ action, outcome ≠ .ok action) : Effect gateway op outcome gateway
  /-- The call only reads; a Request it generates is that of the current cycle. -/
  | observed {op : GatewayOp} {action : GatewayAction} (hop : op.readsOnly = true)
      (hrequest : ∀ nonce, action.generatedRequest = some nonce →
        nonce = gateway.config.requestNonce) :
      Effect gateway op (.ok (some action)) gateway
  /-- Multicast data, or a message that a gateway has no use for. -/
  | received {peer : SocketAddr} {datagram : Bytes} {outerEcn : EcnCodepoint} {message : Message}
      {action : GatewayAction} (hdecode : decode datagram = .ok message)
      (hmessage : message.steersGateway = false) (hrequest : action.generatedRequest = none) :
      Effect gateway (.handleDatagramWithEcn peer datagram outerEcn) (.ok (some action)) gateway
  | advertised {peer : SocketAddr} {datagram : Bytes} {outerEcn : EcnCodepoint} {address : IpAddr}
      (hdecode : decode datagram = .ok (.relayAdvertisement gateway.config.discoveryNonce address))
      (hphase : gateway.phase = .discovering)
      (hpeer : peer = gateway.relayEndpoint.getD gateway.config.relay)
      (hfamily : address.sameFamily peer.ip = true) :
      Effect gateway (.handleDatagramWithEcn peer datagram outerEcn)
        (.ok (some (.send (.new address peer.port) (encode gateway.requestMessage))))
        { gateway with
          relayEndpoint := some (.new address peer.port), phase := .awaitingMembershipQuery }
  | queried {peer : SocketAddr} {datagram : Bytes} {outerEcn : EcnCodepoint}
      {responseMac : ResponseMac} {requestNonce : UInt32} {limit limit' : Bool}
      {endpoint : Option GatewayEndpoint} {query query' : Bytes} {interval : Duration}
      {previous : Option GatewaySend}
      (hdecode : decode datagram =
        .ok (.membershipQuery responseMac requestNonce limit endpoint query))
      (hpeer : gateway.relayEndpoint = some peer)
      (hexpected : gateway.expectedRequestNonce = some requestNonce) :
      Effect gateway (.handleDatagramWithEcn peer datagram outerEcn)
        (.ok (some (.membershipQuery responseMac limit' endpoint query' interval previous)))
        { gateway with
          session := some (gateway.querySession responseMac requestNonce endpoint)
          phase := .established }
  | reported {request : MembershipRequest} {relay : SocketAddr} {session : GatewaySession}
      {packet : Bytes} (hsession : gateway.session = some session) :
      Effect gateway (.membership request)
        (.ok (some (.send relay
          (encode (.membershipUpdate session.responseMac session.requestNonce packet)))))
        { gateway with
          receptionState := (gateway.receptionState.applyReport receptionStateEndpoint
            (gateway.requestReport request)).1
          session := some
            { session with
              reportedMemberships := (gateway.receptionState.applyReport receptionStateEndpoint
                (gateway.requestReport request)).1.endpointHasInterests receptionStateEndpoint } }
  /-- Nothing wanted, nothing to leave. -/
  | idle {report : MembershipReport}
      (hempty : (gateway.replacementReport report).records = []) :
      Effect gateway (.membership (.replace report)) (.ok none) gateway
  | cycled {nonce : Nonce} {relay : SocketAddr} (hrelay : gateway.relayEndpoint = some relay) :
      Effect gateway (.beginQueryCycle nonce)
        (.ok (some (.send relay (encode
          (.request nonce gateway.config.protocol gateway.config.ecn)))))
        { gateway with
          config := { gateway.config with requestNonce := nonce }
          phase := .awaitingMembershipQuery }
  | restarted {discoveryNonce requestNonce : Nonce} {relay : SocketAddr} :
      Effect gateway (.restartDiscovery discoveryNonce requestNonce)
        (.ok (some (.send relay (encode (.relayDiscovery discoveryNonce)))))
        { gateway with
          config := { gateway.rotateRelay with discoveryNonce, requestNonce }
          phase := .discovering
          relayEndpoint := none
          session := none }
  | candidates {relays relayCandidates fallbackRelays : List SocketAddr} :
      Effect gateway (.replaceRelayCandidates relays) (.ok none)
        { gateway with relayCandidates, config := { gateway.config with fallbackRelays } }

/-! ### One lemma for each method -/

theorem failed_of_err {error : GatewayError} (action : Option GatewayAction) :
    (some <$> (.err error : Outcome GatewayError GatewayAction)) ≠ .ok action :=
  nofun

theorem failed_of_panic (action : Option GatewayAction) :
    (some <$> (.panic : Outcome GatewayError GatewayAction)) ≠ .ok action :=
  nofun

/-- Data is handed on or dropped; nothing is sent. -/
theorem generatedRequest_handleData {gateway : Gateway} {packet : Bytes} {outerEcn : EcnCodepoint}
    {action : GatewayAction} (h : (gateway.handleData packet outerEcn).2 = .ok action) :
    action.generatedRequest = none := by
  unfold handleData at h
  split at h
  · cases h
  split at h
  · cases h
  split at h
  · cases h
  · cases h
  split at h
  · obtain rfl := Outcome.ok.inj h
    rfl
  · simp only [deliver] at h
    split at h
    · obtain ⟨⟨packet', ecn⟩, -, h⟩ := Outcome.bind_eq_ok_iff.mp h
      dsimp only at h
      split at h
      · obtain rfl := Outcome.ok.inj h
        rfl
      · obtain rfl := Outcome.ok.inj h
        rfl
    · obtain rfl := Outcome.ok.inj h
      rfl

section Effects

variable (gateway : Gateway)

theorem effect_handleAdvertisement {peer : SocketAddr} {datagram : Bytes} (outerEcn : EcnCodepoint)
    {discoveryNonce : UInt32} {address : IpAddr}
    (hdecode : decode datagram = .ok (.relayAdvertisement discoveryNonce address))
    (hpeer : peer = gateway.relayEndpoint.getD gateway.config.relay) :
    gateway.Effect (.handleDatagramWithEcn peer datagram outerEcn)
      (some <$> (gateway.handleAdvertisement peer discoveryNonce address).2)
      (gateway.handleAdvertisement peer discoveryNonce address).1 := by
  unfold handleAdvertisement
  split
  · exact .refused failed_of_err
  · rename_i hphase
    split
    · exact .refused failed_of_err
    · rename_i hnonce
      obtain rfl := not_not.mp hnonce
      split
      · exact .refused failed_of_err
      · rename_i haddress
        obtain ⟨-, hfamily⟩ := not_or.mp haddress
        exact .advertised hdecode (not_not.mp hphase) hpeer (by simpa using hfamily)

theorem effect_handleQuery {peer : SocketAddr} {datagram : Bytes} (outerEcn : EcnCodepoint)
    {responseMac : ResponseMac} {requestNonce : UInt32} {limit : Bool}
    {endpoint : Option GatewayEndpoint} {query : Bytes}
    (hdecode : decode datagram =
      .ok (.membershipQuery responseMac requestNonce limit endpoint query))
    (hpeer : peer = gateway.relayEndpoint.getD gateway.config.relay) :
    gateway.Effect (.handleDatagramWithEcn peer datagram outerEcn)
      (some <$> (gateway.handleQuery responseMac requestNonce limit endpoint query).2)
      (gateway.handleQuery responseMac requestNonce limit endpoint query).1 := by
  obtain ⟨config, relayCandidates, phase, relayEndpoint, session, receptionState⟩ := gateway
  cases relayEndpoint with
  | none => exact .refused failed_of_err
  | some relay =>
      obtain rfl : peer = relay := hpeer
      unfold handleQuery
      dsimp only
      split
      · exact .refused failed_of_err
      · rename_i expectedNonce hexpected
        split
        · exact .refused failed_of_err
        · rename_i hnonce
          obtain rfl := not_not.mp hnonce
          split
          · exact .refused failed_of_err
          · exact .refused failed_of_panic
          · exact .queried hdecode rfl hexpected

/-- Every datagram has one of the effects. -/
theorem effect_handleDatagramWithEcn (peer : SocketAddr) (datagram : Bytes)
    (outerEcn : EcnCodepoint) :
    gateway.Effect (.handleDatagramWithEcn peer datagram outerEcn)
      (some <$> (gateway.handleDatagramWithEcn peer datagram outerEcn).2)
      (gateway.handleDatagramWithEcn peer datagram outerEcn).1 := by
  unfold handleDatagramWithEcn
  dsimp only
  split
  · exact .refused failed_of_err
  · rename_i hpeer
    have hpeer := not_not.mp hpeer
    cases hdecode : decode datagram with
    | err error => exact .refused failed_of_err
    | panic => exact .refused failed_of_panic
    | ok message =>
        cases message with
        | relayAdvertisement nonce address =>
            exact gateway.effect_handleAdvertisement outerEcn hdecode hpeer
        | membershipQuery mac nonce limit endpoint query =>
            exact gateway.effect_handleQuery outerEcn hdecode hpeer
        | multicastData packet =>
            change gateway.Effect _ (some <$> (gateway.handleData packet outerEcn).2)
              (gateway.handleData packet outerEcn).1
            rw [handleData_fst]
            cases hdata : (gateway.handleData packet outerEcn).2 with
            | err error => exact .refused failed_of_err
            | panic => exact .refused failed_of_panic
            | ok action => exact .received hdecode rfl (generatedRequest_handleData hdata)
        | relayDiscovery | request | membershipUpdate | teardown =>
            exact .received hdecode rfl rfl

theorem effect_membershipUpdate {request : MembershipRequest} {report : MembershipReport}
    (hreport : report = gateway.requestReport request) :
    gateway.Effect (.membership request) (some <$> (gateway.membershipUpdate report).2)
      (gateway.membershipUpdate report).1 := by
  subst hreport
  unfold membershipUpdate
  obtain ⟨config, relayCandidates, phase, relayEndpoint, session, receptionState⟩ := gateway
  cases relayEndpoint with
  | none => exact .refused failed_of_err
  | some relay =>
      cases session with
      | none => exact .refused failed_of_err
      | some session =>
          dsimp only
          split
          · exact .refused failed_of_err
          · exact .refused failed_of_panic
          · exact .reported rfl

theorem effect_callMembership (request : MembershipRequest) :
    gateway.Effect (.membership request) (gateway.callMembership request).2
      (gateway.callMembership request).1 := by
  cases request with
  | update report => exact gateway.effect_membershipUpdate rfl
  | join group source => exact gateway.effect_membershipUpdate rfl
  | replace report =>
      have hupdate : gateway.Effect (.membership (.replace report)) _ _ :=
        gateway.effect_membershipUpdate rfl
      simp only [callMembership, replaceMemberships]
      split
      · rename_i hempty
        exact .idle (List.isEmpty_iff.mp hempty)
      · cases hresult : gateway.membershipUpdate (gateway.replacementReport report) with
        | mk gateway' outcome =>
            simp only [requestReport, hresult] at hupdate
            cases outcome with
            | ok action => exact hupdate
            | err error => exact hupdate
            | panic => exact hupdate

theorem effect_beginQueryCycle (nonce : Nonce) :
    gateway.Effect (.beginQueryCycle nonce) (some <$> (gateway.beginQueryCycle nonce).2)
      (gateway.beginQueryCycle nonce).1 := by
  obtain ⟨config, relayCandidates, phase, relayEndpoint, session, receptionState⟩ := gateway
  cases relayEndpoint with
  | none => exact .refused failed_of_err
  | some relay => exact .cycled rfl

/-- **Every call has one of the effects.** -/
theorem effect_call (op : GatewayOp) :
    gateway.Effect op (gateway.call op).2 (gateway.call op).1 := by
  cases op with
  | handleDatagramWithEcn peer datagram outerEcn =>
      exact gateway.effect_handleDatagramWithEcn peer datagram outerEcn
  | membership request => exact gateway.effect_callMembership request
  | beginQueryCycle nonce => exact gateway.effect_beginQueryCycle nonce
  | restartDiscovery discoveryNonce requestNonce => exact .restarted
  | replaceRelayCandidates relays =>
      simp only [call, replaceRelayCandidates]
      split
      · exact .candidates
      · exact .candidates
  | discovery =>
      refine .observed rfl fun nonce hnonce => ?_
      rw [discovery, GatewayAction.generatedRequest_send] at hnonce
      cases hnonce
  | request =>
      obtain ⟨config, relayCandidates, phase, relayEndpoint, session, receptionState⟩ := gateway
      cases relayEndpoint with
      | none => exact .refused failed_of_err
      | some relay =>
          refine .observed rfl fun nonce hnonce => ?_
          rw [requestMessage, GatewayAction.generatedRequest_send] at hnonce
          exact (Option.some.inj hnonce).symm
  | teardown =>
      obtain ⟨config, relayCandidates, phase, relayEndpoint, session, receptionState⟩ := gateway
      cases relayEndpoint with
      | none => exact .refused failed_of_err
      | some relay =>
          cases session with
          | none => exact .refused failed_of_err
          | some session =>
              obtain ⟨responseMac, requestNonce, gatewayEndpoint, reportedMemberships⟩ := session
              cases gatewayEndpoint with
              | none => exact .refused failed_of_err
              | some endpoint =>
                  refine .observed rfl fun nonce hnonce => ?_
                  rw [GatewayAction.generatedRequest_send] at hnonce
                  cases hnonce

end Effects

theorem Called.effect {gateway gateway' : Gateway} {c : GatewayCall}
    (h : gateway.Called c gateway') : gateway.Effect c.op c.outcome gateway' := by
  have heffect := gateway.effect_call c.op
  rw [h] at heffect
  exact heffect

/-! ## Failure is atomic -/

theorem Effect.eq_of_err {gateway gateway' : Gateway} {op : GatewayOp} {error : GatewayError}
    (h : gateway.Effect op (.err error) gateway') : gateway' = gateway := by
  cases h with
  | refused => rfl

section Datagrams

variable {gateway gateway' : Gateway} {peer : SocketAddr} {datagram : Bytes}
  {outerEcn : EcnCodepoint} {outcome : Outcome GatewayError (Option GatewayAction)}

theorem Effect.frame
    (h : gateway.Effect (.handleDatagramWithEcn peer datagram outerEcn) outcome gateway') :
    gateway'.receptionState = gateway.receptionState ∧
      gateway'.relayCandidates = gateway.relayCandidates := by
  cases h with
  | refused | observed | received | advertised | queried => exact ⟨rfl, rfl⟩

/-- A Membership Query fails, or it is the one that is expected. -/
theorem Effect.query
    (h : gateway.Effect (.handleDatagramWithEcn peer datagram outerEcn) outcome gateway')
    {mac : ResponseMac} {nonce : UInt32} {limit : Bool} {endpoint : Option GatewayEndpoint}
    {query : Bytes}
    (hquery : decode datagram = .ok (.membershipQuery mac nonce limit endpoint query)) :
    (gateway' = gateway ∧ ∀ action, outcome ≠ .ok action) ∨
      (gateway.relayEndpoint = some peer ∧ gateway.expectedRequestNonce = some nonce) := by
  cases h with
  | refused hfailed => exact .inl ⟨rfl, hfailed⟩
  | observed hop => cases hop
  | received hdecode hmessage =>
      obtain rfl := Outcome.ok.inj (hquery.symm.trans hdecode)
      cases hmessage
  | advertised hdecode => exact absurd (hquery.symm.trans hdecode) (by simp)
  | queried hdecode hpeer hexpected =>
      obtain ⟨rfl, rfl, rfl, rfl, rfl⟩ :=
        Message.membershipQuery.inj (Outcome.ok.inj (hquery.symm.trans hdecode))
      exact .inr ⟨hpeer, hexpected⟩

/-- A Relay Advertisement fails, or it is the one that is expected. -/
theorem Effect.advertisement
    (h : gateway.Effect (.handleDatagramWithEcn peer datagram outerEcn) outcome gateway')
    {nonce : UInt32} {address : IpAddr}
    (hadvertisement : decode datagram = .ok (.relayAdvertisement nonce address)) :
    (gateway' = gateway ∧ ∀ action, outcome ≠ .ok action) ∨
      (gateway.phase = .discovering ∧ peer = gateway.relayEndpoint.getD gateway.config.relay ∧
        nonce = gateway.config.discoveryNonce) := by
  cases h with
  | refused hfailed => exact .inl ⟨rfl, hfailed⟩
  | observed hop => cases hop
  | received hdecode hmessage =>
      obtain rfl := Outcome.ok.inj (hadvertisement.symm.trans hdecode)
      cases hmessage
  | queried hdecode => exact absurd (hadvertisement.symm.trans hdecode) (by simp)
  | advertised hdecode hphase hpeer =>
      obtain ⟨rfl, rfl⟩ :=
        Message.relayAdvertisement.inj (Outcome.ok.inj (hadvertisement.symm.trans hdecode))
      exact .inr ⟨hphase, hpeer, rfl⟩

/-- No other message changes a gateway. -/
theorem Effect.other
    (h : gateway.Effect (.handleDatagramWithEcn peer datagram outerEcn) outcome gateway')
    (hother : ∀ message, decode datagram = .ok message → message.steersGateway = false) :
    gateway' = gateway := by
  cases h with
  | refused | observed | received => rfl
  | advertised hdecode => cases hother _ hdecode
  | queried hdecode => cases hother _ hdecode

end Datagrams

/-- **A failed call has written nothing.**  Whatever the gateway, the arguments and the
error, the gateway after the call is the one before it; and an incoming datagram, accepted
or not, never touches the reception state or the list of candidates. -/
theorem call_err_unchanged (gateway : Gateway) :
    (∀ peer datagram outerEcn error,
      (gateway.handleDatagramWithEcn peer datagram outerEcn).2 = .err error →
        (gateway.handleDatagramWithEcn peer datagram outerEcn).1 = gateway) ∧
    (∀ report error, (gateway.membershipUpdate report).2 = .err error →
      (gateway.membershipUpdate report).1 = gateway) ∧
    (∀ report error, (gateway.replaceMemberships report).2 = .err error →
      (gateway.replaceMemberships report).1 = gateway) ∧
    (∀ group source error, (gateway.joinGroup group source).2 = .err error →
      (gateway.joinGroup group source).1 = gateway) ∧
    (∀ nonce error, (gateway.beginQueryCycle nonce).2 = .err error →
      (gateway.beginQueryCycle nonce).1 = gateway) ∧
    ∀ peer datagram outerEcn,
      (gateway.handleDatagramWithEcn peer datagram outerEcn).1.receptionState
          = gateway.receptionState ∧
        (gateway.handleDatagramWithEcn peer datagram outerEcn).1.relayCandidates
          = gateway.relayCandidates := by
  refine ⟨?_, ?_, ?_, ?_, ?_, ?_⟩
  · intro peer datagram outerEcn error herror
    have heffect := gateway.effect_handleDatagramWithEcn peer datagram outerEcn
    rw [herror] at heffect
    exact heffect.eq_of_err
  · intro report error herror
    have heffect := gateway.effect_callMembership (.update report)
    simp only [callMembership, answered, herror] at heffect
    exact heffect.eq_of_err
  · intro report error herror
    have heffect := gateway.effect_callMembership (.replace report)
    simp only [callMembership, herror] at heffect
    exact heffect.eq_of_err
  · intro group source error herror
    have heffect := gateway.effect_callMembership (.join group source)
    simp only [callMembership, answered, herror] at heffect
    exact heffect.eq_of_err
  · intro nonce error herror
    have heffect := gateway.effect_beginQueryCycle nonce
    rw [herror] at heffect
    exact heffect.eq_of_err
  · intro peer datagram outerEcn
    exact (gateway.effect_handleDatagramWithEcn peer datagram outerEcn).frame

/-! ## The fields fit together -/

/-- **The invariant of a gateway.** -/
structure Consistent (gateway : Gateway) : Prop where
  discovering : gateway.phase = .discovering →
    gateway.relayEndpoint = none ∧ gateway.session = none
  awaiting : gateway.phase = .awaitingMembershipQuery → gateway.relayEndpoint.isSome
  established : gateway.phase = .established → gateway.relayEndpoint.isSome ∧
    ∃ session, gateway.session = some session ∧
      session.requestNonce = gateway.config.requestNonce
  relay : ∀ relay, gateway.relayEndpoint = some relay →
    relay.ip.sameFamily gateway.config.relay.ip = true ∧ relay.port = gateway.config.relay.port
  nonces : gateway.config.discoveryNonce ≠ 0 ∧ gateway.config.requestNonce ≠ 0
  reported : ∀ session, gateway.session = some session → session.reportedMemberships = true →
    gateway.receptionState.endpointHasInterests receptionStateEndpoint = true

theorem nonzeroOrRandom_ne_zero (nonce : UInt32) (draw : Nonce) :
    nonzeroOrRandom nonce draw ≠ 0 := by
  unfold nonzeroOrRandom
  split
  · assumption
  · exact draw.2

theorem consistent_new (config : GatewayConfig) (discoveryDraw requestDraw : Nonce) :
    (Gateway.new config discoveryDraw requestDraw).Consistent where
  discovering := fun _ => ⟨rfl, rfl⟩
  awaiting := nofun
  established := nofun
  relay := nofun
  nonces := ⟨nonzeroOrRandom_ne_zero _ _, nonzeroOrRandom_ne_zero _ _⟩
  reported := nofun

namespace Consistent

variable {gateway : Gateway}

/-- The nonce that is expected is that of the current configuration, in either phase. -/
theorem expectedRequestNonce_eq (h : gateway.Consistent) {nonce : UInt32}
    (hexpected : gateway.expectedRequestNonce = some nonce) :
    gateway.phase ≠ .discovering ∧ nonce = gateway.config.requestNonce := by
  unfold expectedRequestNonce at hexpected
  split at hexpected
  · rename_i hphase
    exact ⟨by rw [hphase]; simp, (Option.some.inj hexpected).symm⟩
  · rename_i session hphase hsession
    obtain ⟨-, session', hsession', hnonce⟩ := h.established hphase
    obtain rfl : session' = session := Option.some.inj (hsession'.symm.trans hsession)
    exact ⟨by rw [hphase]; simp, by rw [← Option.some.inj hexpected, hnonce]⟩
  · cases hexpected

/-- **Every effect keeps the invariant.** -/
theorem effect (h : gateway.Consistent) {op : GatewayOp}
    {outcome : Outcome GatewayError (Option GatewayAction)} {gateway' : Gateway}
    (heffect : gateway.Effect op outcome gateway') : gateway'.Consistent := by
  cases heffect with
  | refused | observed | received | idle => exact h
  | @advertised peer datagram outerEcn address hdecode hphase hpeer hfamily =>
      obtain ⟨hnone, hsession⟩ := h.discovering hphase
      obtain rfl : peer = gateway.config.relay := by rw [hpeer, hnone]; rfl
      refine ⟨nofun, fun _ => rfl, nofun, ?_,
        h.nonces, h.reported⟩
      intro relay hrelay
      obtain rfl := Option.some.inj hrelay
      rw [SocketAddr.ip_new, SocketAddr.port_new]
      exact ⟨hfamily, rfl⟩
  | @queried peer datagram outerEcn mac nonce limit limit' endpoint query query' interval previous
      hdecode hpeer hexpected =>
      refine ⟨nofun, nofun, fun _ => ?_,
        h.relay, h.nonces, ?_⟩
      · exact ⟨by simp [hpeer], _, rfl, (h.expectedRequestNonce_eq hexpected).2⟩
      · intro session hsession hreported
        obtain rfl := Option.some.inj hsession
        obtain ⟨previous, hprevious, hboth⟩ := (Option.any_eq_true _ _).mp hreported
        exact h.reported previous hprevious (Bool.and_eq_true_iff.mp hboth).2
  | @reported request relay session packet hsession =>
      refine ⟨fun hphase => ?_, h.awaiting, fun hphase => ?_, h.relay, h.nonces, ?_⟩
      · rw [(h.discovering hphase).2] at hsession
        cases hsession
      · obtain ⟨hrelay, session', hsession', hnonce⟩ := h.established hphase
        obtain rfl : session' = session := Option.some.inj (hsession'.symm.trans hsession)
        exact ⟨hrelay, _, rfl, hnonce⟩
      · intro session' hsession' hreported
        obtain rfl := Option.some.inj hsession'
        exact hreported
  | @cycled nonce relay hrelay =>
      exact ⟨nofun, fun _ => by simp [hrelay],
        nofun, h.relay, ⟨h.nonces.1, nonce.2⟩, h.reported⟩
  | @restarted discoveryNonce requestNonce relay =>
      exact ⟨fun _ => ⟨rfl, rfl⟩, nofun, nofun,
        nofun, ⟨discoveryNonce.2, requestNonce.2⟩,
        nofun⟩
  | candidates =>
      exact ⟨h.discovering, h.awaiting, h.established, h.relay, h.nonces, h.reported⟩

/-- **Every reachable gateway.** -/
theorem run {config : GatewayConfig} {discoveryDraw requestDraw : Nonce}
    {calls : List GatewayCall}
    (hrun : Run Called (Gateway.new config discoveryDraw requestDraw) calls gateway) :
    gateway.Consistent :=
  Run.invariant (fun _ _ _ h hcalled => h.effect hcalled.effect)
    (consistent_new config discoveryDraw requestDraw) hrun

end Consistent

/-- **Phase, endpoint, session and nonces agree** in every gateway that any sequence of
calls leads to, whatever datagrams arrive in between. -/
theorem run_consistent {config : GatewayConfig} {discoveryDraw requestDraw : Nonce}
    {calls : List GatewayCall} {gateway : Gateway}
    (hrun : Run Called (Gateway.new config discoveryDraw requestDraw) calls gateway) :
    (gateway.phase = .discovering → gateway.relayEndpoint = none ∧ gateway.session = none) ∧
    (gateway.phase = .awaitingMembershipQuery → ∃ relay, gateway.relayEndpoint = some relay) ∧
    (gateway.phase = .established → (∃ relay, gateway.relayEndpoint = some relay) ∧
      ∃ session, gateway.session = some session ∧
        session.requestNonce = gateway.config.requestNonce) ∧
    (∀ relay, gateway.relayEndpoint = some relay →
      relay.ip.sameFamily gateway.config.relay.ip = true ∧
        relay.port = gateway.config.relay.port) ∧
    (gateway.config.discoveryNonce ≠ 0 ∧ gateway.config.requestNonce ≠ 0) ∧
    ∀ session, gateway.session = some session → session.reportedMemberships = true →
      ∃ group interest, gateway.receptionInterest group = some interest := by
  have h := Consistent.run hrun
  refine ⟨h.discovering, fun hphase => Option.isSome_iff_exists.mp (h.awaiting hphase),
    fun hphase => ?_, h.relay, h.nonces, fun session hsession hreported => ?_⟩
  · obtain ⟨hrelay, hsession⟩ := h.established hphase
    exact ⟨Option.isSome_iff_exists.mp hrelay, hsession⟩
  · exact RelayState.exists_interest_of_endpointHasInterests (h.reported session hsession hreported)

/-! ### A sample run -/

/-- A Membership Query for the first cycle, as a relay builds it. -/
def sampleQuery : Message :=
  .membershipQuery ⟨.zero 6⟩ 2 false none
    (match (buildIgmpv3GeneralQuery .forAmt : Outcome Unit Bytes) with
      | .ok query => query
      | _ => [])

/-- Discovery, a query cycle, and a join. -/
def sampleOps : List GatewayOp :=
  [.handleDatagramWithEcn sampleRelay (encode (.relayAdvertisement 1 sampleRelay.ip)) .notEct,
    .handleDatagramWithEcn sampleRelay (encode sampleQuery) .notEct,
    .membership (.join (.v4 (.new 232 1 1 1)) none)]

/-- A gateway that has joined a group has an interest. -/
theorem run_consistent_joined :
    (callAll sampleStart sampleOps).2.phase = .established ∧
      ∃ group interest, (callAll sampleStart sampleOps).2.receptionInterest group
        = some interest := by
  have hreported : ((callAll sampleStart sampleOps).2.session.any
      fun session => session.reportedMemberships) = true := by decide +kernel
  obtain ⟨session, hsession, hmemberships⟩ := (Option.any_eq_true _ _).mp hreported
  obtain ⟨-, -, -, -, -, hinterest⟩ := run_consistent (run_callAll sampleStart sampleOps)
  exact ⟨by decide +kernel, hinterest session hsession hmemberships⟩

end Gateway

end Amt

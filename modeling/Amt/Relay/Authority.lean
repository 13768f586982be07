import Amt.Relay
import Amt.State.Algebra

/-!
# Who may change the relay's state

A datagram changes the membership state only if it carries a Response MAC for the
endpoint it affects, and then it changes that endpoint only.

The argument has one inversion lemma per arm of `prepare_datagram`.  No arm touches
the state in place (`prepareMessage_state`): a change can only come from a candidate,
and the arms that return one are the Membership Update and the Teardown behind a valid
MAC (`prepareMessage_candidate`).  An update that would change nothing is answered without a
candidate, and no other is (`prepareReport_candidate_exact`).
-/

namespace Amt

/-! ## Comparing MACs -/

theorem foldl_or_eq_zero_iff {bytes : Bytes} (start : UInt8) :
    bytes.foldl (fun difference b => difference ||| b) start = 0 ↔
      start = 0 ∧ ∀ b ∈ bytes, b = 0 := by
  have hor : ∀ a b : UInt8, a ||| b = 0 ↔ a = 0 ∧ b = 0 := by
    intro a b
    rw [← UInt8.toNat_inj, ← UInt8.toNat_inj, ← UInt8.toNat_inj, UInt8.toNat_or]
    exact Nat.or_eq_zero_iff
  induction bytes generalizing start with
  | nil => simp
  | cons b bytes ih =>
      refine (ih (start ||| b)).trans ?_
      rw [hor, List.forall_mem_cons, and_assoc]

/-- The differences of two byte strings of one length vanish when they are equal. -/
theorem zip_xor_eq_zero_iff : ∀ {a b : Bytes}, a.length = b.length →
    ((∀ x ∈ a.zip b, x.1 ^^^ x.2 = 0) ↔ a = b)
  | [], [], _ => by simp
  | x :: a, y :: b, h => by
      have hxor : x ^^^ y = 0 ↔ x = y := UInt8.xor_eq_zero_iff
      rw [List.zip_cons_cons, List.forall_mem_cons, zip_xor_eq_zero_iff (by simpa using h), hxor,
        List.cons.injEq]

/-- **The constant-time comparison is equality.** -/
theorem ResponseMac.constantTimeEq_iff {a b : ResponseMac} :
    a.constantTimeEq b = true ↔ a = b := by
  have hfold : (a.bytes.toList.zip b.bytes.toList).foldl
      (fun difference x => difference ||| (x.1 ^^^ x.2)) 0 =
      ((a.bytes.toList.zip b.bytes.toList).map fun x => x.1 ^^^ x.2).foldl
        (fun difference b => difference ||| b) 0 := by
    rw [List.foldl_map]
  rw [constantTimeEq, beq_iff_eq, hfold, foldl_or_eq_zero_iff]
  simp only [List.forall_mem_map, true_and]
  rw [zip_xor_eq_zero_iff (by simp)]
  constructor
  · intro h
    obtain ⟨a⟩ := a
    obtain ⟨b⟩ := b
    exact congrArg _ (Octets.ext h)
  · rintro rfl
    rfl

namespace Relay

variable (hmac : RelaySecret → Bytes → Octets 32)

/-! ## Authorization -/

/-- The MAC is one the relay computes for this address, port and nonce, under its current
secret or under the previous one while that is in its grace time. -/
def Authorized (relay : Relay) (now : Instant) (mac : ResponseMac) (gatewayIp : IpAddr)
    (gatewayPort : UInt16) (requestNonce : UInt32) : Prop :=
  mac = responseMacWithSecret hmac relay.config.secret gatewayIp gatewayPort requestNonce ∨
    ∃ previous, relay.previousSecret = some previous ∧
      now ≤ previous.rotatedAt + queryInterval relay.config.generalQuery.queryIntervalCode * 2 ∧
      mac = responseMacWithSecret hmac previous.secret gatewayIp gatewayPort requestNonce

theorem validResponseMac_iff {relay : Relay} {now : Instant} {mac : ResponseMac}
    {gatewayIp : IpAddr} {gatewayPort : UInt16} {requestNonce : UInt32} :
    relay.validResponseMac hmac now mac gatewayIp gatewayPort requestNonce = true ↔
      relay.Authorized hmac now mac gatewayIp gatewayPort requestNonce := by
  rw [validResponseMac, Bool.or_eq_true, ResponseMac.constantTimeEq_iff, Option.any_eq_true]
  refine or_congr Iff.rfl (exists_congr fun previous => and_congr_right fun _ => ?_)
  by_cases hgrace : elapsed previous.rotatedAt now > relay.previousGrace
  · rw [if_pos hgrace]
    refine iff_of_false (by simp) fun h => ?_
    exact absurd (elapsed_le_iff.mpr h.1) (Nat.not_le.mpr hgrace)
  · rw [if_neg hgrace, ResponseMac.constantTimeEq_iff]
    exact (and_iff_right (elapsed_le_iff.mp (Nat.not_lt.mp hgrace))).symm

/-! ## The arms of `prepare_datagram` -/

/-- **The update arm, once the MAC is valid**: a new endpoint is turned away, or the report is
accepted; without a candidate state when the preview sees no change, and else with what the
limited report leaves. -/
theorem prepareReport_cases {relay : Relay} {peer : SocketAddr} {membershipUpdate : Bytes}
    {action : RelayAction} {next : Option RelayState}
    (h : relay.prepareReport peer membershipUpdate = .ok (action, next)) :
    (action = .ignored ∧ next = none) ∨
      ∃ report, parseMembershipReportWithLimits membershipUpdate relay.parseLimits = .ok report ∧
        (((relay.state.previewReport peer report).2 = false ∧ next = none ∧
            action = .acceptedMembershipUpdate report.protocol membershipUpdate.length
              (relay.state.previewReport peer report).1 relay.state.upstreamSubscriptions) ∨
          ((relay.state.previewReport peer report).2 = true ∧
            (∃ applied,
              (relay.state.applyReportLimited peer report relay.config.limits).2 = .ok applied) ∧
            next = some (relay.state.applyReportLimited peer report relay.config.limits).1 ∧
            action = .acceptedMembershipUpdate report.protocol membershipUpdate.length
              (relay.state.previewReport peer report).1
              (relay.state.applyReportLimited peer report
                relay.config.limits).1.upstreamSubscriptions)) := by
  unfold prepareReport at h
  cases hrefused : !relay.state.containsEndpoint peer && relay.refusingNewEndpoint peer.ip with
  | true =>
      rw [if_pos hrefused] at h
      cases h
      exact .inl ⟨rfl, rfl⟩
  | false =>
      rw [if_neg (by simp [hrefused])] at h
      obtain ⟨report, hparse, h⟩ := Outcome.bind_eq_ok_iff.mp h
      refine .inr ⟨report, Outcome.mapErr_eq_ok_iff.mp hparse, ?_⟩
      cases hgroup : (report.records.map fun record => record.group).find? fun group =>
          !isAmtForwardableGroup group with
      | some group => simp [hgroup] at h
      | none =>
          cases hchanged : (relay.state.previewReport peer report).2 with
          | false =>
              simp only [hgroup, hchanged, Bool.not_false, if_true] at h
              cases h
              exact .inl ⟨rfl, rfl, rfl⟩
          | true =>
              simp only [hgroup, hchanged, Bool.not_true, Bool.false_eq_true, if_false] at h
              obtain ⟨applied, hresult, h⟩ := Outcome.bind_eq_ok_iff.mp h
              cases h
              exact .inr ⟨rfl, ⟨applied, Outcome.mapErr_eq_ok_iff.mp hresult⟩, rfl, rfl⟩

@[simp] theorem state_rotateSecretIfDue (relay : Relay) (env : CallEnv) :
    (relay.rotateSecretIfDue env).state = relay.state := by
  unfold rotateSecretIfDue
  repeat' split
  all_goals rfl

@[simp] theorem state_rememberGatewayEcnCapability (relay : Relay) (now : Instant)
    (endpoint : SocketAddr) (capable : Bool) :
    (relay.rememberGatewayEcnCapability now endpoint capable).state = relay.state := by
  simp only [rememberGatewayEcnCapability]
  repeat' split
  all_goals rfl

@[simp] theorem state_prepareTeardown (relay : Relay) (now : Instant) (mac : ResponseMac)
    (requestNonce : UInt32) (gateway : GatewayEndpoint) :
    (relay.prepareTeardown hmac now mac requestNonce gateway).1.state = relay.state := by
  simp only [prepareTeardown]
  repeat' split
  all_goals rfl

/-- **No arm changes the state in place.** -/
theorem prepareMessage_state (relay : Relay) (now : Instant) (peer : SocketAddr)
    (message : Message) : (relay.prepareMessage hmac now peer message).1.state = relay.state := by
  cases message <;> simp [prepareMessage]

theorem prepareDatagram_state (env : CallEnv) (relay : Relay) (peer : SocketAddr)
    (datagram : Bytes) : (relay.prepareDatagram hmac env peer datagram).1.state = relay.state := by
  unfold prepareDatagram
  cases decode datagram with
  | ok message =>
      exact (prepareMessage_state hmac _ _ _ _).trans (state_rotateSecretIfDue relay env)
  | err error => exact state_rotateSecretIfDue relay env
  | panic => exact state_rotateSecretIfDue relay env

theorem ip_teardownEndpoint (gateway : GatewayEndpoint) :
    (teardownEndpoint gateway).ip = teardownIp gateway := by
  unfold teardownEndpoint
  cases teardownIp gateway <;> rfl

theorem port_teardownEndpoint (gateway : GatewayEndpoint) :
    (teardownEndpoint gateway).port = gateway.port := by
  unfold teardownEndpoint
  cases teardownIp gateway <;> rfl

/-- What a message that leads to a candidate state is: an update of the peer or a
teardown of the endpoint it names. -/
inductive Affects (peer : SocketAddr) : Message → SocketAddr → ResponseMac → UInt32 → Prop
  | update (mac : ResponseMac) (nonce : UInt32) (membershipUpdate : Bytes) :
      Affects peer (.membershipUpdate mac nonce membershipUpdate) peer mac nonce
  | teardown (mac : ResponseMac) (nonce : UInt32) (gateway : GatewayEndpoint) :
      Affects peer (.teardown mac nonce gateway) (teardownEndpoint gateway) mac nonce

/-- The answers that acknowledge a change. -/
inductive Accepting : RelayAction → Prop
  | update (protocol : MembershipProtocol) (bytes applied : ℕ)
      (subscriptions : List UpstreamSubscription) :
      Accepting (.acceptedMembershipUpdate protocol bytes applied subscriptions)
  | teardown (gateway : GatewayEndpoint) (removed : Bool) :
      Accepting (.acceptedTeardown gateway removed)

/-- **Where a candidate state comes from**: a message with a valid MAC for the endpoint
it affects, whose answer acknowledges it; the candidate is one operation away from the
state, and agrees with it on every other endpoint. -/
theorem prepareMessage_candidate {relay : Relay} {now : Instant} {peer : SocketAddr}
    {message : Message} {action : RelayAction} {next : RelayState}
    (h : (relay.prepareMessage hmac now peer message).2 = .ok (action, some next)) :
    ∃ endpoint mac nonce, Affects peer message endpoint mac nonce ∧
      relay.Authorized hmac now mac endpoint.ip endpoint.port nonce ∧ Accepting action ∧
      (∃ op, next = relay.state.step op) ∧
      ∀ e g, e ≠ endpoint → next.endpointInterest e g = relay.state.endpointInterest e g := by
  cases message with
  | relayDiscovery discoveryNonce =>
      obtain ⟨-, -, hpure⟩ := Outcome.bind_eq_ok_iff.mp h
      cases hpure
  | request requestNonce protocol ecnCapable =>
      simp only [prepareMessage, prepareRequest] at h
      obtain ⟨query, -, hpure⟩ := Outcome.bind_eq_ok_iff.mp h
      cases hpure
  | membershipUpdate mac nonce membershipUpdate =>
      simp only [prepareMessage, prepareUpdate] at h
      split at h
      · rename_i hvalid
        refine ⟨peer, mac, nonce, .update mac nonce membershipUpdate,
          (validResponseMac_iff hmac).mp hvalid, ?_⟩
        rcases prepareReport_cases h with
          ⟨-, hnone⟩ | ⟨report, -, ⟨-, hnone, -⟩ | ⟨-, ⟨applied, hok⟩, hsome, rfl⟩⟩
        · cases hnone
        · cases hnone
        · cases hsome
          refine ⟨.update _ _ _ _,
            ⟨.applyReportLimited peer report relay.config.limits, rfl⟩, fun e g he => ?_⟩
          rw [RelayState.applyReportLimited_of_ok hok, RelayState.endpointInterest_applyReport,
            if_neg he.symm]
      · cases h
  | teardown mac nonce gateway =>
      simp only [prepareMessage, prepareTeardown] at h
      split at h
      · rename_i hvalid
        refine ⟨teardownEndpoint gateway, mac, nonce, .teardown mac nonce gateway, ?_, ?_⟩
        · rw [ip_teardownEndpoint, port_teardownEndpoint]
          exact (validResponseMac_iff hmac).mp hvalid
        · split at h
          · cases h
          · cases hremoved : (relay.state.removeEndpoint (teardownEndpoint gateway)).2 with
            | false => simp [hremoved] at h
            | true =>
                simp only [hremoved, if_true] at h
                cases h
                refine ⟨.teardown gateway true, ⟨.removeEndpoint _, rfl⟩, fun e g he => ?_⟩
                rw [RelayState.endpointInterest_removeEndpoint, if_neg he.symm]
      · cases h
  | relayAdvertisement discoveryNonce relayAddress => cases h
  | membershipQuery mac nonce limit gateway generalQuery => cases h
  | multicastData packet => cases h

/-! ## Whole datagrams -/

/-- A candidate is traced back to the message of the datagram. -/
theorem prepareDatagram_candidate {env : CallEnv} {relay : Relay} {peer : SocketAddr}
    {datagram : Bytes} {action : RelayAction} {next : RelayState}
    (h : (relay.prepareDatagram hmac env peer datagram).2 = .ok (action, some next)) :
    ∃ message, decode datagram = .ok message ∧
      ((relay.rotateSecretIfDue env).prepareMessage hmac env.clock.processing peer message).2 =
        .ok (action, some next) := by
  unfold prepareDatagram at h
  cases hdecode : decode datagram with
  | ok message =>
      rw [hdecode] at h
      exact ⟨message, rfl, h⟩
  | err error => simp [hdecode] at h
  | panic => simp [hdecode] at h

/-- `handle_datagram` commits the candidate, if there is one. -/
theorem handleDatagram_eq (env : CallEnv) (relay : Relay) (peer : SocketAddr) (datagram : Bytes) :
    (∃ action next, (relay.prepareDatagram hmac env peer datagram).2 = .ok (action, some next) ∧
        (relay.handleDatagram hmac env peer datagram).1.state = next ∧
        (relay.handleDatagram hmac env peer datagram).2 = .ok action) ∨
      (relay.handleDatagram hmac env peer datagram).1.state = relay.state := by
  have hstate := prepareDatagram_state hmac env relay peer datagram
  unfold handleDatagram
  cases hprepare : relay.prepareDatagram hmac env peer datagram with
  | mk relay' outcome =>
      rw [hprepare] at hstate
      cases outcome with
      | ok result =>
          obtain ⟨action, next⟩ := result
          cases next with
          | none => exact .inr hstate
          | some next => exact .inl ⟨action, next, rfl, rfl, rfl⟩
      | err error => exact .inr hstate
      | panic => exact .inr hstate

/-- **Only the holder of a valid MAC changes the state, and only its own part.**  If a
datagram changes the membership state, it is a Membership Update or a Teardown with a
Response MAC that the relay computes for the affected endpoint under its current secret,
or under the previous one within two query intervals of its replacement; the answer is an
acceptance; and no other endpoint's interest changes.  Every other answer, and every
error, leaves the state as it was. -/
theorem handleDatagram_authorized (hmac : RelaySecret → Bytes → Octets 32) (env : CallEnv)
    (relay : Relay) (peer : SocketAddr) (datagram : Bytes) :
    ((relay.handleDatagram hmac env peer datagram).1.state ≠ relay.state →
      ∃ message endpoint mac nonce action,
        decode datagram = .ok message ∧ Affects peer message endpoint mac nonce ∧
        (relay.rotateSecretIfDue env).Authorized hmac env.clock.processing mac endpoint.ip
          endpoint.port nonce ∧
        (relay.handleDatagram hmac env peer datagram).2 = .ok action ∧ Accepting action ∧
        ∀ e g, e ≠ endpoint →
          (relay.handleDatagram hmac env peer datagram).1.state.endpointInterest e g =
            relay.state.endpointInterest e g) ∧
    ((¬ ∃ action, (relay.handleDatagram hmac env peer datagram).2 = .ok action ∧
        Accepting action) →
      (relay.handleDatagram hmac env peer datagram).1.state = relay.state) := by
  have hcases := handleDatagram_eq hmac env relay peer datagram
  constructor
  · intro hchanged
    rcases hcases with ⟨action, next, hprepare, hnext, haction⟩ | hsame
    · obtain ⟨message, hdecode, hmessage⟩ := prepareDatagram_candidate hmac hprepare
      obtain ⟨endpoint, mac, nonce, haffects, hauthorized, haccepting, -, hothers⟩ :=
        prepareMessage_candidate hmac hmessage
      refine ⟨message, endpoint, mac, nonce, action, hdecode, haffects, hauthorized, haction,
        haccepting, fun e g he => ?_⟩
      rw [hnext, hothers e g he, state_rotateSecretIfDue]
    · exact absurd hsame hchanged
  · intro hnot
    rcases hcases with ⟨action, next, hprepare, -, haction⟩ | hsame
    · obtain ⟨message, -, hmessage⟩ := prepareDatagram_candidate hmac hprepare
      obtain ⟨-, -, -, -, -, haccepting, -⟩ := prepareMessage_candidate hmac hmessage
      exact absurd ⟨action, haction, haccepting⟩ hnot
    · exact hsame

/-! ### A first join -/

/-- An update that joins 232.1.1.1, with the MAC of a digest of zeros. -/
def joinUpdate : Bytes :=
  let report : MembershipReport := ⟨.igmpv3, [⟨.changeToExclude, .v4 (.new 232 1 1 1), []⟩]⟩
  encode (.membershipUpdate ⟨.zero 6⟩ 1
    (match buildMembershipReport report with
      | .ok packet => packet
      | _ => []))

/-- A new relay accepts it. -/
theorem handleDatagram_authorized_first_join :
    ∃ action, ((Relay.new (.default ⟨.zero 32⟩) 0).handleDatagram (fun _ _ => .zero 32)
        { clock := .at 0, generated := none } (.v4 (.new 192 0 2 1) 5001) joinUpdate).2
      = .ok action ∧ Accepting action := by
  obtain ⟨-, -, -, -, action, -, -, -, haction, haccepting, -⟩ :=
    (handleDatagram_authorized (fun _ _ => .zero 32) { clock := .at 0, generated := none }
      (.new (.default ⟨.zero 32⟩) 0) (.v4 (.new 192 0 2 1) 5001) joinUpdate).1 (by decide +kernel)
  exact ⟨action, haction, haccepting⟩

/-! ## The fast path -/

/-- **The preview decides what the report does.**  In every reachable state the preview of a
report returns the count of the report and whether it changes the state in any field.  An
accepted update therefore comes without a candidate exactly when it changes nothing; a
candidate is the state after the report, and differs from the one before. -/
theorem prepareReport_candidate_exact (ops : List RelayState.Op) :
    (∀ (endpoint : SocketAddr) (report : MembershipReport),
      ((RelayState.afterOps ops).previewReport endpoint report).1 =
          ((RelayState.afterOps ops).applyReport endpoint report).2 ∧
        (((RelayState.afterOps ops).previewReport endpoint report).2 = true ↔
          ((RelayState.afterOps ops).applyReport endpoint report).1 ≠ RelayState.afterOps ops)) ∧
    ∀ (relay : Relay) (peer : SocketAddr) (membershipUpdate : Bytes)
      (protocol : MembershipProtocol) (bytes applied : ℕ)
      (subscriptions : List UpstreamSubscription) (candidate : Option RelayState),
      relay.state = RelayState.afterOps ops →
      relay.prepareReport peer membershipUpdate =
        .ok (.acceptedMembershipUpdate protocol bytes applied subscriptions, candidate) →
      ∃ report, parseMembershipReportWithLimits membershipUpdate relay.parseLimits = .ok report ∧
        applied = (relay.state.applyReport peer report).2 ∧
        (candidate = none ↔ (relay.state.applyReport peer report).1 = relay.state) ∧
        ∀ next, candidate = some next →
          next = (relay.state.applyReport peer report).1 ∧ next ≠ relay.state := by
  have hindexed := (RelayState.wellFormed_afterOps ops).indexed
  refine ⟨fun endpoint report => ⟨RelayState.previewReport_fst _ endpoint report,
    RelayState.previewReport_snd_iff hindexed endpoint report⟩, ?_⟩
  intro relay peer membershipUpdate protocol bytes applied subscriptions candidate hstate h
  rw [← hstate] at hindexed
  rcases prepareReport_cases h with ⟨hignored, -⟩ | ⟨report, hparse, hcases⟩
  · cases hignored
  · refine ⟨report, hparse, ?_⟩
    have hchanges := RelayState.previewReport_snd_iff hindexed peer report
    rcases hcases with ⟨hsame, rfl, haction⟩ | ⟨hchanged, ⟨count, hok⟩, rfl, haction⟩
    · cases haction
      have hself : (relay.state.applyReport peer report).1 = relay.state := by
        by_contra hne
        exact absurd (hchanges.mpr hne) (by simp [hsame])
      exact ⟨RelayState.previewReport_fst _ peer report, iff_of_true rfl hself,
        fun next hnext => by cases hnext⟩
    · cases haction
      have hnext := RelayState.applyReportLimited_of_ok hok
      have hne := hchanges.mp hchanged
      refine ⟨RelayState.previewReport_fst _ peer report, iff_of_false (by simp) hne, ?_⟩
      rintro next ⟨⟩
      exact ⟨hnext, hnext ▸ hne⟩

end Relay

end Amt

import Amt.Gateway.Reception

/-!
# A replacement is right on old state and on none

`replace_memberships` is what a gateway sends after every query: the complete state it
wants, with leaves for what it wanted before.  After a failover the same datagram goes to a
relay that has never heard of the gateway, and the leaves in it are then about groups nobody
holds.

* **On the gateway's own state** the leaves remove exactly what the report does not name, so
  what remains is the report (`receptionInterest_of_replaceMemberships`).
* **On an empty table** a leave has no effect, so what is built up is the report too
  (`endpointInterest_of_replaceMemberships`).

Both are read off one lemma about tables: a replacement report leaves the interests of the
report wherever the table holds nothing that the gateway has forgotten
(`SingleTable.act_replacementReport_eq`).
-/

namespace Amt

/-! ## The interests of a complete report -/

/-- The filter a state record states. -/
def MembershipRecord.statedInterest (record : MembershipRecord) : GroupInterest :=
  match record.kind with
  | .modeIsInclude => .ofInclude record.sources
  | _ => .ofExclude record.sources

/-- **The interests a complete report states**, group by group. -/
def MembershipReport.statedInterests (report : MembershipReport) : Memberships := fun g =>
  (report.records.find? fun record => record.group = g).map MembershipRecord.statedInterest

namespace MembershipReport.IsCompleteState

variable {report : MembershipReport}

theorem statedInterests_of_mem (h : report.IsCompleteState) {record : MembershipRecord}
    (hrecord : record ∈ report.records) :
    report.statedInterests record.group = some record.statedInterest := by
  have hfind : (report.records.find? fun other => other.group = record.group) = some record := by
    rw [← List.head?_filter, filter_group_of_mem h.once hrecord]
    rfl
  rw [statedInterests, hfind]
  rfl

theorem effect_eq_statedInterest (h : report.IsCompleteState) {record : MembershipRecord}
    (hrecord : record ∈ report.records) (held : Option GroupInterest) :
    record.effect held = some record.statedInterest := by
  rcases h.state record hrecord with ⟨hkind, hsources⟩ | hkind
  · have hsome : record.sources.isEmpty = false := List.isEmpty_eq_false_iff.mpr hsources
    simp [MembershipRecord.effect, MembershipRecord.statedInterest, hkind, hsome]
  · simp [MembershipRecord.effect, MembershipRecord.statedInterest, hkind]

theorem act_of_names (h : report.IsCompleteState) {g : IpAddr} (hg : report.Names g)
    (held : Memberships) : report.act held g = report.statedInterests g := by
  obtain ⟨record, hrecord, rfl⟩ := List.mem_map.mp hg
  rw [h.statedInterests_of_mem hrecord, MembershipReport.act, actRecords_of_mem h.once hrecord,
    h.effect_eq_statedInterest hrecord]

end MembershipReport.IsCompleteState

theorem MembershipReport.statedInterests_of_not_names {report : MembershipReport} {g : IpAddr}
    (hg : ¬ report.Names g) : report.statedInterests g = none := by
  have hfind : (report.records.find? fun record => record.group = g) = none := by
    rw [← List.head?_filter, filter_group_eq_nil_iff.mpr hg]
    rfl
  rw [statedInterests, hfind]
  rfl

namespace Gateway

variable {gateway gateway' : Gateway} {report : MembershipReport}

/-- **What a replacement makes of a table**: the report, and what the table holds of groups
that neither the report names nor the gateway remembers. -/
theorem SingleTable.act_replacementReport_eq (h : gateway.SingleTable)
    (hcomplete : report.IsCompleteState) {held : Memberships}
    (hheld : ∀ g, held g ≠ none → gateway.receptionInterest g ≠ none) :
    (gateway.replacementReport report).act held = report.statedInterests := by
  funext g
  obtain ⟨hnamed, hleft, hforgotten⟩ := h.act_replacementReport report held g
  by_cases hname : report.Names g
  · rw [hnamed hname, hcomplete.act_of_names hname]
  · rw [MembershipReport.statedInterests_of_not_names hname]
    by_cases hreception : gateway.receptionInterest g = none
    · rw [hforgotten hname hreception]
      by_contra hsome
      exact hheld g hsome hreception
    · exact hleft hname hreception

/-! ## The call -/

/-- A replacement that is sent is the replacement report, applied and encoded. -/
theorem replaceMemberships_eq_some {action : GatewayAction}
    (h : gateway.replaceMemberships report = (gateway', .ok (some action))) :
    gateway'.receptionState = (gateway.receptionState.applyReport receptionStateEndpoint
        (gateway.replacementReport report)).1 ∧
      ∃ relay mac nonce packet, buildMembershipReport (gateway.replacementReport report)
          = .ok packet ∧
        action = .send relay (encode (.membershipUpdate mac nonce packet)) := by
  unfold replaceMemberships at h
  dsimp only at h
  split at h
  · cases h
  · rw [membershipUpdate] at h
    cases hrelay : gateway.relayEndpoint with
    | none => simp [hrelay] at h
    | some relay =>
        cases hsession : gateway.session with
        | none => simp [hrelay, hsession] at h
        | some session =>
            cases hbuild : buildMembershipReport (gateway.replacementReport report) with
            | err error => simp [hrelay, hsession, hbuild] at h
            | panic => simp [hrelay, hsession, hbuild] at h
            | ok packet =>
                simp only [hrelay, hsession, hbuild, Prod.mk.injEq, Outcome.ok.injEq,
                  Option.some.injEq] at h
                obtain ⟨rfl, rfl⟩ := h
                exact ⟨rfl, relay, _, _, packet, rfl, rfl⟩

theorem replaceMemberships_eq_none
    (h : gateway.replaceMemberships report = (gateway', .ok none)) :
    gateway' = gateway ∧ (gateway.replacementReport report).records = [] := by
  unfold replaceMemberships at h
  dsimp only at h
  split at h
  · rename_i hempty
    cases h
    exact ⟨rfl, List.isEmpty_iff.mp hempty⟩
  · split at h
    all_goals cases h

/-- What the gateway wants after a replacement is the report. -/
theorem receptionInterest_of_replaceMemberships (hsingle : gateway.SingleTable)
    (hcomplete : report.IsCompleteState) {action : GatewayAction}
    (h : gateway.replaceMemberships report = (gateway', .ok (some action))) :
    gateway'.receptionInterest = report.statedInterests := by
  obtain ⟨hreception, -⟩ := replaceMemberships_eq_some h
  calc gateway'.receptionInterest
      = (gateway.replacementReport report).act gateway.receptionInterest := by
        funext g
        rw [receptionInterest, hreception, RelayState.endpointInterest_applyReport_self]
        rfl
    _ = report.statedInterests :=
        hsingle.act_replacementReport_eq hcomplete fun _ hheld => hheld

/-- What a relay that knew nothing holds after it has accepted a replacement is the report. -/
theorem endpointInterest_of_replaceMemberships (hsingle : gateway.SingleTable)
    (hcomplete : report.IsCompleteState) {destination : SocketAddr} {datagram : Bytes}
    (h : gateway.replaceMemberships report = (gateway', .ok (some (.send destination datagram))))
    {hmac : RelaySecret → Bytes → Octets 32} {env : CallEnv} {relay : Relay} {p : SocketAddr}
    (hunknown : ∀ g, relay.state.endpointInterest p g = none)
    (haccepted : Relay.acceptsUpdate (relay.handleDatagram hmac env p datagram).2 = true) :
    (relay.handleDatagram hmac env p datagram).1.state.endpointInterest p
      = report.statedInterests := by
  obtain ⟨-, _, mac, nonce, packet, hbuild, hsend⟩ := replaceMemberships_eq_some h
  obtain ⟨-, rfl⟩ := GatewayAction.send.inj hsend
  rw [Relay.handleDatagram_accepted hmac hbuild haccepted]
  exact hsingle.act_replacementReport_eq hcomplete fun g hheld => absurd (hunknown g) hheld

/-- **A replacement is exact.**  In every reachable gateway and for every complete state
report: if the replacement is sent, the gateway afterwards wants what the report states and
nothing else, and a relay that held nothing for the gateway and accepts the datagram holds
the same for it; if there is nothing to send, the gateway wanted nothing and wants nothing. -/
theorem replaceMemberships_exact {config : GatewayConfig} {discoveryDraw requestDraw : Nonce}
    {calls : List GatewayCall}
    (hrun : Run Called (Gateway.new config discoveryDraw requestDraw) calls gateway)
    (hcomplete : report.IsCompleteState) :
    (∀ gateway' action, gateway.replaceMemberships report = (gateway', .ok (some action)) →
      gateway'.receptionInterest = report.statedInterests ∧
      ∃ destination datagram, action = .send destination datagram ∧
        ∀ (hmac : RelaySecret → Bytes → Octets 32) (env : CallEnv) (relay : Relay)
          (p : SocketAddr), (∀ g, relay.state.endpointInterest p g = none) →
          Relay.acceptsUpdate (relay.handleDatagram hmac env p datagram).2 = true →
          (relay.handleDatagram hmac env p datagram).1.state.endpointInterest p
            = report.statedInterests) ∧
    ∀ gateway', gateway.replaceMemberships report = (gateway', .ok none) →
      ∀ g, gateway.receptionInterest g = none ∧ gateway'.receptionInterest g = none := by
  have hsingle := (Reception.run hrun).single
  constructor
  · intro gateway' action h
    obtain ⟨-, destination, mac, nonce, packet, -, rfl⟩ := replaceMemberships_eq_some h
    exact ⟨receptionInterest_of_replaceMemberships hsingle hcomplete h, destination, _, rfl,
      fun hmac env relay p hunknown haccepted =>
        endpointInterest_of_replaceMemberships hsingle hcomplete h hunknown haccepted⟩
  · intro gateway' h g
    obtain ⟨rfl, hempty⟩ := replaceMemberships_eq_none h
    -- nothing named, nothing to leave: the gateway remembers no group
    obtain ⟨hnone, hleaves⟩ := List.append_eq_nil_iff.mp hempty
    have hnot : ¬ report.Names g := by simp [MembershipReport.Names, hnone]
    have hforgotten : gateway'.receptionInterest g = none := by
      by_contra hheld
      have := (hsingle.mem_missingLeaves_iff report g).mpr ⟨hnot, hheld⟩
      rw [hleaves] at this
      cases this
    exact ⟨hforgotten, hforgotten⟩

/-- A gateway that has joined one group and replaces it by another. -/
theorem replaceMemberships_exact_moved :
    ∃ gateway' action, (callAll sampleStart sampleOps).2.replaceMemberships (Tunnel.onlyGroup 2)
        = (gateway', .ok (some action)) ∧
      gateway'.receptionInterest (.v4 (.new 232 1 1 1)) = none ∧
      gateway'.receptionInterest (.v4 (.new 232 1 1 2)) = some (.ofExclude []) := by
  have hsent : Option.isSome <$> (((callAll sampleStart sampleOps).2.replaceMemberships
      (Tunnel.onlyGroup 2)).2.mapErr fun _ => ()) = (.ok true : Outcome Unit Bool) := by
    decide +kernel
  obtain ⟨hexact, -⟩ := replaceMemberships_exact (run_callAll sampleStart sampleOps)
    (Tunnel.onlyGroup_isCompleteState 2)
  rcases hresult : (callAll sampleStart sampleOps).2.replaceMemberships (Tunnel.onlyGroup 2)
    with ⟨gateway', (_ | action) | error | _⟩
  · rw [hresult] at hsent
    cases hsent
  · obtain ⟨hinterests, -⟩ := hexact gateway' action hresult
    refine ⟨gateway', action, rfl, ?_, ?_⟩
    · rw [hinterests]
      rfl
    · rw [hinterests]
      rfl
  · rw [hresult] at hsent
    cases hsent
  · rw [hresult] at hsent
    cases hsent

end Gateway

end Amt

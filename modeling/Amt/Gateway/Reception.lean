import Amt.Gateway.Run

/-!
# What a gateway hands on

Multicast data passes three gates: it has to come from the selected relay over an
existing session, to be a well-formed multicast datagram, and to be wanted.  Then the ECN
code may rewrite two bits of its header.

What is wanted is said without the reception state: `requestedMemberships` is the table
that the membership calls of the run add up to, each with its own meaning
(`MembershipRequest.act`); in particular a replacement leaves nothing but what it names.
`Reception.run` shows that the gateway's reception state is that table.

`run_delivers_wanted` is the result, and its last part says why the error path behind the
ECN code is dead: every datagram the parser accepted, the ECN code accepts.
-/

namespace Amt

/-! ## The table the calls add up to -/

/-- **What a membership call asks for.** -/
def MembershipRequest.act (held : Memberships) : MembershipRequest → Memberships
  | .update report => report.act held
  | .replace report => fun g =>
      if g ∈ report.records.map fun record => record.group then report.act held g else none
  | .join group source => actRecords [Gateway.joinRecord group source] held

/-- A call counts when it succeeded. -/
def GatewayCall.act (held : Memberships) (c : GatewayCall) : Memberships :=
  match c.op, c.outcome with
  | .membership request, .ok _ => request.act held
  | _, _ => held

/-- The interests set by the membership calls of a run. -/
def requestedMemberships (calls : List GatewayCall) : Memberships :=
  calls.foldl GatewayCall.act fun _ => none

theorem requestedMemberships_concat (calls : List GatewayCall) (c : GatewayCall) :
    requestedMemberships (calls ++ [c]) = c.act (requestedMemberships calls) := by
  simp [requestedMemberships]

namespace Gateway

variable {gateway gateway' : Gateway}

theorem SingleTable.act_replace (h : gateway.SingleTable) (report : MembershipReport) :
    (gateway.replacementReport report).act gateway.receptionInterest
      = MembershipRequest.act gateway.receptionInterest (.replace report) := by
  funext g
  obtain ⟨hnamed, hheld, hforgotten⟩ := h.act_replacementReport report gateway.receptionInterest g
  show _ = if g ∈ report.records.map (fun record => record.group) then _ else none
  split
  · rename_i hname
    exact hnamed hname
  · rename_i hname
    by_cases hreception : gateway.receptionInterest g = none
    · rw [hforgotten hname hreception, hreception]
    · exact hheld hname hreception

/-- The report a request sends does to the gateway's own table what the request means. -/
theorem SingleTable.act_requestReport (h : gateway.SingleTable) (request : MembershipRequest) :
    (gateway.requestReport request).act gateway.receptionInterest
      = request.act gateway.receptionInterest := by
  cases request with
  | update report => rfl
  | replace report => exact h.act_replace report
  | join group source => rfl

/-- **The reception state is the requested table.** -/
structure Reception (calls : List GatewayCall) (gateway : Gateway) : Prop where
  single : gateway.SingleTable
  requested : gateway.receptionInterest = requestedMemberships calls

namespace Reception

variable {calls : List GatewayCall}

/-- A call without effect on the table. -/
theorem quiet (h : Reception calls gateway) {c : GatewayCall}
    (hsame : gateway'.receptionState = gateway.receptionState)
    (hact : c.act gateway.receptionInterest = gateway.receptionInterest) :
    Reception (calls ++ [c]) gateway' := by
  refine ⟨h.single.of_eq hsame, ?_⟩
  rw [requestedMemberships_concat, ← h.requested, hact]
  funext g
  rw [receptionInterest, hsame]
  rfl

theorem called (h : Reception calls gateway) {c : GatewayCall}
    (hcalled : gateway.Called c gateway') : Reception (calls ++ [c]) gateway' := by
  have heffect := hcalled.effect
  obtain ⟨op, outcome⟩ := c
  cases heffect with
  | refused hfailed =>
      refine h.quiet rfl ?_
      cases outcome with
      | ok action => exact absurd rfl (hfailed action)
      | err error => cases op <;> rfl
      | panic => cases op <;> rfl
  | observed hop =>
      refine h.quiet rfl ?_
      cases op with
      | membership request => cases hop
      | _ => rfl
  | received | advertised | queried | cycled | restarted | candidates => exact h.quiet rfl rfl
  | @reported request =>
      refine ⟨h.single.of_applyReport rfl, ?_⟩
      rw [requestedMemberships_concat, ← h.requested]
      show _ = request.act gateway.receptionInterest
      rw [← h.single.act_requestReport]
      exact RelayState.endpointInterest_applyReport_self _ _ _
  | @idle report hempty =>
      refine h.quiet rfl ?_
      show MembershipRequest.act gateway.receptionInterest (.replace report) = _
      rw [← h.single.act_replace]
      show actRecords (gateway.replacementReport report).records _ = _
      rw [hempty]
      rfl

theorem run {config : GatewayConfig} {discoveryDraw requestDraw : Nonce}
    (hrun : Run Called (Gateway.new config discoveryDraw requestDraw) calls gateway) :
    Reception calls gateway := by
  induction hrun with
  | nil => exact ⟨⟨RelayState.wellFormed_default, fun _ _ _ => rfl⟩, rfl⟩
  | snoc _ hcalled ih => exact ih.called hcalled

end Reception

/-! ## The gates -/

/-- Data that is handed on has passed every gate. -/
theorem handleDatagramWithEcn_multicastData {peer : SocketAddr} {datagram packet : Bytes}
    {outerEcn : EcnCodepoint} {ecn : Option EcnDecapsulation}
    (h : (gateway.handleDatagramWithEcn peer datagram outerEcn).2
      = .ok (.multicastData packet ecn)) :
    gateway.relayEndpoint = some peer ∧ gateway.session.isSome = true ∧
      ∃ payload parsed, decode datagram = .ok (.multicastData payload) ∧
        parseMulticastPacket payload = .ok parsed ∧
        gateway.interested parsed.source parsed.group = true ∧
        gateway.deliver payload outerEcn = .ok (.multicastData packet ecn) := by
  simp only [handleDatagramWithEcn] at h
  split at h
  · cases h
  · rename_i hpeer
    have hpeer := not_not.mp hpeer
    cases hdecode : decode datagram with
    | err error => simp [hdecode] at h
    | panic => simp [hdecode] at h
    | ok message =>
        simp only [hdecode] at h
        cases message with
        | multicastData payload =>
            simp only [handleMessage, handleData] at h
            split at h
            · cases h
            rename_i hrelay
            split at h
            · cases h
            rename_i hsession
            cases hparse : parseMulticastPacket payload with
            | err error => simp [hparse] at h
            | panic => simp [hparse] at h
            | ok parsed =>
                simp only [hparse] at h
                split at h
                · cases h
                rename_i hinterested
                obtain ⟨relay, hrelay⟩ := Option.ne_none_iff_exists'.mp
                  (mt Option.isNone_iff_eq_none.mpr hrelay)
                refine ⟨?_, by simpa [Option.isSome_iff_ne_none] using hsession, payload, parsed,
                  rfl, hparse, by simpa using hinterested, h⟩
                rw [hpeer, hrelay]
                rfl
        | relayAdvertisement nonce address =>
            simp only [handleMessage, handleAdvertisement] at h
            repeat' split at h
            all_goals cases h
        | membershipQuery mac nonce limit endpoint query =>
            simp only [handleMessage, handleQuery] at h
            repeat' split at h
            all_goals cases h
        | relayDiscovery | request | membershipUpdate | teardown => cases h

/-- What is handed on is the payload up to its ECN field. -/
theorem deliver_multicastData {payload packet : Bytes} {source group : IpAddr}
    {outerEcn : EcnCodepoint} {ecn : Option EcnDecapsulation}
    (hpayload : MulticastDatagram payload source group)
    (h : gateway.deliver payload outerEcn = .ok (.multicastData packet ecn)) :
    MulticastDatagram packet source group ∧ EqUpToEcn payload packet := by
  unfold deliver at h
  split at h
  · obtain ⟨packet', result, hdecapsulate, hdatagram, heq⟩ :=
      hpayload.exists_decapsulateEcn outerEcn
    rw [hdecapsulate, Outcome.mapErr_ok, Outcome.bind_ok] at h
    dsimp only at h
    split at h
    · cases h
    · cases h
      exact ⟨hdatagram, heq⟩
  · cases h
    exact ⟨hpayload, hpayload.eqUpToEcn_refl⟩

/-- **Only what was asked for is handed on.**  In every run of a gateway, data is returned
only for a datagram of the selected relay, over an existing session, whose payload is a
well-formed multicast datagram that the membership calls of the run want; it is the
payload up to its ECN field, and still well formed, with a valid header checksum.  The ECN
code never fails on a payload that the parser accepted. -/
theorem run_delivers_wanted {config : GatewayConfig} {discoveryDraw requestDraw : Nonce}
    {calls : List GatewayCall}
    (hrun : Run Called (Gateway.new config discoveryDraw requestDraw) calls gateway) :
    (∀ peer datagram outerEcn packet ecn,
      (gateway.handleDatagramWithEcn peer datagram outerEcn).2 = .ok (.multicastData packet ecn) →
        gateway.relayEndpoint = some peer ∧ gateway.session.isSome = true ∧
        ∃ payload source group, decode datagram = .ok (.multicastData payload) ∧
          MulticastDatagram payload source group ∧
          ((requestedMemberships calls group).any fun interest => interest.wantsSource source)
            = true ∧
          MulticastDatagram packet source group ∧ EqUpToEcn payload packet) ∧
    ∀ payload parsed outerEcn, parseMulticastPacket payload = .ok parsed →
      ∃ result, decapsulateEcn payload outerEcn = .ok result := by
  refine ⟨?_, ?_⟩
  · intro peer datagram outerEcn packet ecn h
    obtain ⟨hpeer, hsession, payload, parsed, hdecode, hparse, hinterested, hdeliver⟩ :=
      handleDatagramWithEcn_multicastData h
    have hpayload := multicastDatagram_of_parse hparse
    refine ⟨hpeer, hsession, payload, parsed.source, parsed.group, hdecode, hpayload, ?_,
      deliver_multicastData hpayload hdeliver⟩
    rw [← (Reception.run hrun).requested]
    exact hinterested
  · intro payload parsed outerEcn hparse
    obtain ⟨packet, ecn, hdecapsulate, -⟩ :=
      (multicastDatagram_of_parse hparse).exists_decapsulateEcn outerEcn
    exact ⟨(packet, ecn), hdecapsulate⟩

/-! ### A datagram that met congestion -/

/-- The sample gateway, with ECN on. -/
def ecnStart : Gateway :=
  .new ((GatewayConfig.new sampleRelay .igmpv3 .first .second).withEcn true) .first .second

/-- The header of an ECN-capable datagram to `232.1.1.1` with a body of one byte. -/
def sampleHeader : Ipv4Header :=
  Ipv4Header.withChecksum
    { versionIhl := 0x45, tos := 2, totalLen := 21, ident := 7, fragment := 0, ttl := 9
      protocol := 17, checksum := 0, source := .new 198 51 100 1, destination := .new 232 1 1 1
      options := [] }

theorem run_delivers_wanted_congested :
    ((callAll ecnStart sampleOps).2.handleDatagramWithEcn sampleRelay
        (encode (.multicastData (sampleHeader.bytes ++ [0xaa]))) .ce).2
      = .ok (.multicastData ((sampleHeader.withEcn .ce).bytes ++ [0xaa])
          (some ⟨.ect0, .ce, some .ce, false⟩)) ∧
    EqUpToEcn (sampleHeader.bytes ++ [0xaa]) ((sampleHeader.withEcn .ce).bytes ++ [0xaa]) := by
  have hdata : ((callAll ecnStart sampleOps).2.handleDatagramWithEcn sampleRelay
      (encode (.multicastData (sampleHeader.bytes ++ [0xaa]))) .ce).2
        = .ok (.multicastData ((sampleHeader.withEcn .ce).bytes ++ [0xaa])
          (some ⟨.ect0, .ce, some .ce, false⟩)) := by decide +kernel
  obtain ⟨hdelivered, -⟩ := run_delivers_wanted (run_callAll ecnStart sampleOps)
  obtain ⟨-, -, payload, source, group, hdecode, -, -, -, heq⟩ := hdelivered _ _ _ _ _ hdata
  rw [decode_encode] at hdecode
  obtain rfl := Message.multicastData.inj (Outcome.ok.inj hdecode)
  exact ⟨hdata, heq⟩

end Gateway

end Amt

import Amt.Forward
import Amt.Relay.Capability

/-!
# Who is sent ECN-marked packets

The relay copies the ECN field of a packet into the outer header only for the gateways that
have declared it.  Every send of the forwarding loop takes its mark from `tunnelEcn`, whether
it carries the packet or one of its fragments (`MarksCapable`), so a marked send is to a gateway
that the relay has in its table at that time; and what that says about the history of the
relay is known (`Relay.DeclaredBy`).
-/

namespace Amt

variable {σ : Type} {socket : TunnelSocket σ} {relay : Relay}

/-! ## Marked sends -/

theorem gatewayEcnCapable_of_tunnelEcn {now : Instant} {endpoint : SocketAddr} {packet : Bytes}
    {ecn : EcnCodepoint × Bool} (h : tunnelEcn relay now endpoint packet = .ok ecn)
    (hmarked : ecn.1 ≠ .notEct) : relay.gatewayEcnCapable now endpoint = true := by
  unfold tunnelEcn at h
  split at h
  · assumption
  · obtain rfl := Outcome.ok.inj h
    exact absurd rfl hmarked

variable (relay) in
/-- **Every marked send is to a gateway that is in the table** when the send is made. -/
def MarksCapable (sends : List TunnelSend) : Prop :=
  ∀ send ∈ sends, send.ecn ≠ .notEct →
    ∃ now, relay.gatewayEcnCapable now send.endpoint = true

theorem MarksCapable.sendTunnelDatagram {state : Forwarding σ} (h : MarksCapable relay state.sends)
    {now : Instant} {endpoint : SocketAddr} {packet : Bytes} {ecn : EcnCodepoint × Bool}
    (hecn : tunnelEcn relay now endpoint packet = .ok ecn) (datagram : Bytes) :
    MarksCapable relay (sendTunnelDatagram socket state datagram endpoint ecn.1).1.sends := by
  intro send hsend hmarked
  rcases List.mem_append.mp hsend with hsend | hsend
  · exact h send hsend hmarked
  · obtain rfl := List.mem_singleton.mp hsend
    exact ⟨now, gatewayEcnCapable_of_tunnelEcn hecn hmarked⟩

/-- The fragments are marked one by one. -/
theorem MarksCapable.sendFragments {endpoint : SocketAddr} {fragments : List Bytes}
    {state : Forwarding σ} {result : Forwarding σ × Bool} (h : MarksCapable relay state.sends)
    (hrun : sendFragments socket relay endpoint fragments state = .ok result) :
    MarksCapable relay result.1.sends := by
  induction fragments generalizing state with
  | nil =>
      obtain rfl := Outcome.ok.inj hrun
      exact h
  | cons fragment fragments ih =>
      obtain ⟨inner, -, hrun⟩ := Outcome.bind_eq_ok_iff.mp hrun
      obtain ⟨ecn, hecn, hrun⟩ := Outcome.bind_eq_ok_iff.mp hrun
      have hsent : MarksCapable relay
          (Amt.sendTunnelDatagram socket state fragment endpoint ecn.1).1.sends :=
        h.sendTunnelDatagram hecn fragment
      dsimp only at hrun
      split at hrun
      · refine ih ?_ hrun
        exact hsent
      · obtain rfl := Outcome.ok.inj hrun
        exact hsent

theorem sends_of_getOrPrepare {state : Forwarding σ} {packet : Bytes} {mtu : ℕ}
    {endpoint : SocketAddr} {prepared : PreparedTunnelData × Forwarding σ}
    (h : state.getOrPrepare packet mtu endpoint = .ok prepared) :
    prepared.2.sends = state.sends := by
  unfold Forwarding.getOrPrepare at h
  split at h
  · obtain rfl := Outcome.ok.inj h
    rfl
  · obtain ⟨data, -, h⟩ := Outcome.bind_eq_ok_iff.mp h
    obtain rfl := Outcome.ok.inj h
    cases endpoint <;> rfl

/-- The step of the loop over the endpoints. -/
theorem MarksCapable.forwardToEndpoint {pathMtu : ℕ} {ssmFeedbackAllowed : Bool}
    {response innerPacket : Bytes} {state state' : Forwarding σ} {endpoint : SocketAddr}
    (h : MarksCapable relay state.sends)
    (hrun : forwardToEndpoint socket relay pathMtu ssmFeedbackAllowed response innerPacket state
      endpoint = .ok state') : MarksCapable relay state'.sends := by
  unfold Amt.forwardToEndpoint at hrun
  split at hrun
  · obtain ⟨ecn, hecn, hrun⟩ := Outcome.bind_eq_ok_iff.mp hrun
    have hsent : MarksCapable relay
        (Amt.sendTunnelDatagram socket state response endpoint ecn.1).1.sends :=
      h.sendTunnelDatagram hecn response
    dsimp only at hrun
    split at hrun
    · obtain rfl := Outcome.ok.inj hrun
      exact hsent
    · obtain rfl := Outcome.ok.inj hrun
      exact hsent
  · obtain ⟨prepared, hprepared, hrun⟩ := Outcome.bind_eq_ok_iff.mp hrun
    rw [← sends_of_getOrPrepare hprepared] at h
    split at hrun
    · obtain ⟨result, hresult, hrun⟩ := Outcome.bind_eq_ok_iff.mp hrun
      obtain rfl := Outcome.ok.inj hrun
      rw [(Forwarding.recordFragments_eq _ _).2.1]
      exact h.sendFragments hresult
    · obtain rfl := Outcome.ok.inj hrun
      exact h

theorem MarksCapable.forwardToEndpoints {pathMtu : ℕ} {ssmFeedbackAllowed : Bool}
    {response innerPacket : Bytes} {endpoints : List SocketAddr} {state state' : Forwarding σ}
    (h : MarksCapable relay state.sends)
    (hrun : forwardToEndpoints socket relay pathMtu ssmFeedbackAllowed response innerPacket
      endpoints state = .ok state') : MarksCapable relay state'.sends := by
  induction endpoints generalizing state with
  | nil =>
      obtain rfl := Outcome.ok.inj hrun
      exact h
  | cons endpoint endpoints ih =>
      obtain ⟨next, hnext, hrun⟩ := Outcome.bind_eq_ok_iff.mp hrun
      exact ih (h.forwardToEndpoint hnext) hrun

theorem marksCapable_drainUpstreamDatagram {pathMtu : ℕ} {start : σ} {datagram : UpstreamDatagram}
    {state : Forwarding σ}
    (hrun : drainUpstreamDatagram socket relay pathMtu start datagram = .ok state) :
    MarksCapable relay state.sends := by
  have hstart : MarksCapable relay (Forwarding.start start).sends := List.forall_mem_nil _
  unfold drainUpstreamDatagram at hrun
  dsimp only at hrun
  split at hrun
  · obtain rfl := Outcome.ok.inj hrun
    exact hstart
  · obtain ⟨response, -, hrun⟩ := Outcome.bind_eq_ok_iff.mp hrun
    obtain ⟨innerPacket, -, hrun⟩ := Outcome.bind_eq_ok_iff.mp hrun
    exact hstart.forwardToEndpoints hrun

/-! ## Along every run -/

/-- **The ECN capabilities of a run.**  The table is within its bound.  A gateway counts as
capable only if ECN is enabled and the latest event about it is a Request with the flag that
was handled at most two query intervals before.  And whatever the relay forwards, a marked
packet goes only to such a gateway. -/
theorem gatewayEcnCapable_declared (hmac : RelaySecret → Bytes → Octets 32) (config : RelayConfig)
    (start : Instant) (operations : List Relay.Operation) :
    (Relay.afterOperations hmac config start operations).gatewayEcnCapabilities.size ≤
        config.limits.maxEndpoints ∧
    (∀ now e, (Relay.afterOperations hmac config start operations).gatewayEcnCapable now e = true →
      Relay.Declares config (Relay.gatewayEvents hmac config start operations) now e) ∧
    ∀ {σ : Type} (socket : TunnelSocket σ) (pathMtu : ℕ) (first : σ) (datagram : UpstreamDatagram)
      (state : Forwarding σ),
      drainUpstreamDatagram socket (Relay.afterOperations hmac config start operations) pathMtu
          first datagram = .ok state →
        ∀ send ∈ state.sends, send.ecn ≠ .notEct → ∃ now,
          Relay.Declares config (Relay.gatewayEvents hmac config start operations) now
            send.endpoint := by
  have hdeclared := Relay.declaredBy_afterOperations hmac config start operations
  refine ⟨hdeclared.size_le, fun now e => hdeclared.declares, ?_⟩
  intro σ socket pathMtu first datagram state hrun send hsend hmarked
  obtain ⟨now, hcapable⟩ := marksCapable_drainUpstreamDatagram hrun send hsend hmarked
  exact ⟨now, hdeclared.declares hcapable⟩

end Amt

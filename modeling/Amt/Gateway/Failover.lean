import Amt.Gateway.Run
import Amt.Lib.Rotation

/-!
# Failover between relays

A gateway may know several relays.  The one it uses is `config.relay`, the others wait in
`config.fallback_relays`; `restart_discovery` moves on to the next, and
`replace_relay_candidates` brings in another set, with the relay in use left alone until the
next restart even if it is no longer in the set.

These three fields take turns (`Amt.Lib.Rotation`): a restart is a turn, a replacement
replaces the members, and **no other call touches them** (`moves_call`).  So for a
gateway that was configured with `with_fallback_relays`, over every run (`failover_fair`):

* the fallbacks are the candidates other than the relay in use, each once;
* all candidates are of one address family, since both ways in compare a relay with the one
  in use;
* as many restarts as there are candidates try each of them once, whatever else happens in
  between, and also if the relay in use was dropped before the first of them;
* a relay that is dropped is not tried again, unless it is supplied again.
-/

namespace Amt

/-! ## The calls that matter -/

namespace GatewayOp

/-- The call moves on to the next relay. -/
def restarts : GatewayOp → Bool
  | .restartDiscovery _ _ => true
  | _ => false

/-- The call changes the list of relays. -/
def replaces : GatewayOp → Bool
  | .replaceRelayCandidates _ => true
  | _ => false

/-- The call brings the relay in. -/
def Supplies (op : GatewayOp) (relay : SocketAddr) : Prop :=
  ∃ relays, op = .replaceRelayCandidates relays ∧ relay ∈ relays

end GatewayOp

/-- Where a call sends a datagram to. -/
def GatewayCall.destination (c : GatewayCall) : Option SocketAddr :=
  match c.outcome with
  | .ok (some (.send destination _)) => some destination
  | _ => none

/-- The relays that the restarts among the calls try. -/
def triedRelays (calls : List GatewayCall) : List SocketAddr :=
  (calls.filter fun c => c.op.restarts).filterMap GatewayCall.destination

namespace Gateway

/-- The relay in use, the fallbacks and the candidates. -/
def failover (gateway : Gateway) : Rotation SocketAddr where
  current := gateway.config.relay
  waiting := gateway.config.fallbackRelays
  members := gateway.relayCandidates

/-- The candidates that a replacement collects. -/
def suppliedCandidates (gateway : Gateway) (relays : List SocketAddr) : List SocketAddr :=
  relays.foldl
    (collect fun relay => relay.ip.sameFamily gateway.config.relay.ip = true) []

/-- **What one call does to them.** -/
inductive Moves (gateway : Gateway) : GatewayOp → Rotation SocketAddr → Prop
  | turned {op : GatewayOp} (hrestarts : op.restarts = true) :
      Moves gateway op gateway.failover.turn
  | replaced {relays : List SocketAddr} (hsome : gateway.suppliedCandidates relays ≠ []) :
      Moves gateway (.replaceRelayCandidates relays)
        (gateway.failover.replace (gateway.suppliedCandidates relays))
  | kept {op : GatewayOp} (hrestarts : op.restarts = false) : Moves gateway op gateway.failover

theorem failover_restartDiscovery (gateway : Gateway) (discoveryNonce requestNonce : Nonce) :
    (gateway.restartDiscovery discoveryNonce requestNonce).1.failover = gateway.failover.turn := by
  show Rotation.mk gateway.rotateRelay.relay gateway.rotateRelay.fallbackRelays
    gateway.relayCandidates = _
  rw [rotateRelay, Rotation.turn]
  cases hfallback : gateway.config.fallbackRelays with
  | nil => simp [failover, hfallback]
  | cons next rest => simp [failover, hfallback]

/-- A replacement takes place, unless nothing usable or nothing new is supplied. -/
theorem moves_replaceRelayCandidates (gateway : Gateway) (relays : List SocketAddr) :
    gateway.Moves (.replaceRelayCandidates relays)
      (gateway.replaceRelayCandidates relays).1.failover := by
  by_cases hkept : (gateway.suppliedCandidates relays).isEmpty = true ∨
      gateway.suppliedCandidates relays = gateway.relayCandidates
  · have hsame : gateway.replaceRelayCandidates relays = (gateway, false) := if_pos hkept
    rw [hsame]
    exact .kept rfl
  · have hreplaced : (gateway.replaceRelayCandidates relays).1.failover
        = gateway.failover.replace (gateway.suppliedCandidates relays) :=
      congrArg (fun result : Gateway × Bool => result.1.failover) (if_neg hkept)
    rw [hreplaced]
    exact .replaced fun hnil => hkept (.inl (List.isEmpty_iff.mpr hnil))

theorem moves_call (gateway : Gateway) (op : GatewayOp) :
    gateway.Moves op (gateway.call op).1.failover := by
  have heffect := gateway.effect_call op
  cases op with
  | restartDiscovery discoveryNonce requestNonce =>
      show gateway.Moves _ (gateway.restartDiscovery discoveryNonce requestNonce).1.failover
      rw [failover_restartDiscovery]
      exact .turned rfl
  | replaceRelayCandidates relays => exact gateway.moves_replaceRelayCandidates relays
  | handleDatagramWithEcn | membership | beginQueryCycle | discovery | request | teardown =>
      generalize (gateway.call _).2 = outcome at heffect
      generalize (gateway.call _).1 = gateway' at heffect ⊢
      cases heffect <;> exact .kept rfl

/-! ## What every run keeps -/

end Gateway

theorem IpAddr.sameFamily_self (a : IpAddr) : a.sameFamily a = true := by
  cases a <;> rfl

theorem IpAddr.sameFamily_of_sameFamily {a b c : IpAddr} (hac : a.sameFamily c = true)
    (hbc : b.sameFamily c = true) : a.sameFamily b = true := by
  cases a <;> cases b <;> cases c <;> simp_all [sameFamily]

namespace Gateway

/-- The fields fit together, and the candidates are of the family of the relay in use. -/
structure Fair (gateway : Gateway) : Prop where
  balanced : gateway.failover.Balanced
  family : ∀ relay ∈ gateway.failover.members,
    relay.ip.sameFamily gateway.failover.current.ip = true

/-- The fallbacks of a configuration. -/
theorem withFallbackRelays_eq (config : GatewayConfig) (relays : List SocketAddr) :
    config.withFallbackRelays relays =
      { config with
        fallbackRelays := relays.foldl (collect fun relay =>
          relay ≠ config.relay ∧ relay.ip.sameFamily config.relay.ip = true) [] } := by
  induction relays using List.reverseRecOn with
  | nil => rfl
  | append_singleton relays relay ih =>
      rw [GatewayConfig.withFallbackRelays] at ih
      rw [GatewayConfig.withFallbackRelays, List.foldl_append, List.foldl_append, ih,
        List.foldl_cons, List.foldl_nil, List.foldl_cons, List.foldl_nil, collect]
      simp only [and_assoc]
      split
      · rfl
      · rfl

/-- A new gateway has every relay once in its rotation. -/
theorem fair_new (config : GatewayConfig) (relays : List SocketAddr)
    (discoveryDraw requestDraw : Nonce) :
    (Gateway.new (config.withFallbackRelays relays) discoveryDraw requestDraw).Fair := by
  rw [withFallbackRelays_eq]
  have hmem : ∀ relay, relay ∈ relays.foldl (collect fun relay =>
      relay ≠ config.relay ∧ relay.ip.sameFamily config.relay.ip = true) [] ↔
        relay ∈ relays ∧ relay ≠ config.relay ∧ relay.ip.sameFamily config.relay.ip = true :=
    fun relay => mem_foldl_collect
  have hnodup : (relays.foldl (collect fun relay =>
      relay ≠ config.relay ∧ relay.ip.sameFamily config.relay.ip = true) []).Nodup :=
    nodup_foldl_collect relays
  refine ⟨⟨List.cons_ne_nil _ _, List.nodup_cons.mpr ⟨?_, hnodup⟩, hnodup, fun relay => ?_⟩, ?_⟩
  · rw [hmem]
    rintro ⟨-, hne, -⟩
    exact hne rfl
  · show relay ∈ _ ↔ relay ∈ _ :: _ ∧ relay ≠ config.relay
    rw [List.mem_cons]
    constructor
    · intro hfallback
      exact ⟨.inr hfallback, ((hmem relay).mp hfallback).2.1⟩
    · rintro ⟨heq | hfallback, hne⟩
      · exact absurd heq hne
      · exact hfallback
  · intro relay hrelay
    rcases List.mem_cons.mp hrelay with rfl | hfallback
    · exact IpAddr.sameFamily_self _
    · exact ((hmem relay).mp hfallback).2.2

/-- No call disturbs the rotation. -/
theorem Fair.move {gateway gateway' : Gateway} (h : gateway.Fair) {op : GatewayOp}
    (hmove : gateway.Moves op gateway'.failover) : gateway'.Fair := by
  generalize hfailover : gateway'.failover = failover at hmove
  refine ⟨?_, ?_⟩ <;> rw [hfailover]
  · cases hmove with
    | turned => exact h.balanced.turn
    | @replaced relays hsome => exact Rotation.balanced_replace _ hsome (nodup_foldl_collect relays)
    | kept => exact h.balanced
  · cases hmove with
    | turned =>
        intro relay hrelay
        rw [Rotation.members_turn] at hrelay
        -- the relay that takes over is a candidate itself
        exact IpAddr.sameFamily_of_sameFamily (h.family relay hrelay)
          (h.family _ h.balanced.current_turn_mem)
    | replaced => exact fun relay hrelay => (mem_foldl_collect.mp hrelay).2
    | kept => exact h.family

theorem callAll_snoc (start : Gateway) (ops : List GatewayOp) (op : GatewayOp) :
    callAll start (ops ++ [op]) =
      ((callAll start ops).1 ++ [⟨op, ((callAll start ops).2.call op).2⟩],
        ((callAll start ops).2.call op).1) := by
  rw [callAll, List.foldl_append]
  rfl

theorem fair_callAll {gateway : Gateway} (h : gateway.Fair) (ops : List GatewayOp) :
    (callAll gateway ops).2.Fair := by
  induction ops using List.reverseRecOn with
  | nil => exact h
  | append_singleton ops op ih =>
      rw [callAll_snoc]
      exact ih.move (moves_call _ op)

/-! ## Rounds -/

/-- A restart asks the relay that takes over; no other call tries one. -/
theorem triedRelays_snoc (calls : List GatewayCall) (gateway : Gateway) (op : GatewayOp) :
    triedRelays (calls ++ [⟨op, (gateway.call op).2⟩]) =
      triedRelays calls ++ if op.restarts then [gateway.failover.turn.current] else [] := by
  rw [triedRelays, List.filter_append, List.filterMap_append, triedRelays]
  congr 1
  cases op with
  | restartDiscovery discoveryNonce requestNonce =>
      rw [← failover_restartDiscovery gateway discoveryNonce requestNonce]
      rfl
  | handleDatagramWithEcn | membership | beginQueryCycle | replaceRelayCandidates | discovery
  | request | teardown => rfl

/-- While the candidates stay, the restarts are turns, whatever else is called in between. -/
theorem failover_callAll {gateway : Gateway} {later : List GatewayOp}
    (hstay : ∀ op ∈ later, op.replaces = false) :
    (callAll gateway later).2.failover
        = Rotation.turn^[later.countP GatewayOp.restarts] gateway.failover ∧
      triedRelays (callAll gateway later).1
        = gateway.failover.turns (later.countP GatewayOp.restarts) := by
  induction later using List.reverseRecOn with
  | nil => exact ⟨rfl, rfl⟩
  | append_singleton later op ih =>
      obtain ⟨hfailover, htried⟩ := ih fun op hop => hstay op (List.mem_append_left _ hop)
      have hmove := moves_call (callAll gateway later).2 op
      rw [callAll_snoc, triedRelays_snoc, htried, List.countP_append, List.countP_singleton]
      generalize ((callAll gateway later).2.call op).1.failover = failover at hmove ⊢
      cases hmove with
      | turned hrestarts =>
          rw [if_pos hrestarts, if_pos hrestarts, hfailover, Rotation.turns_succ,
            Function.iterate_succ_apply']
          exact ⟨rfl, rfl⟩
      | replaced => cases hstay _ (List.mem_append_right _ (List.mem_singleton.mpr rfl))
      | kept hrestarts =>
          rw [if_neg (by simp [hrestarts]), if_neg (by simp [hrestarts]), List.append_nil]
          exact ⟨hfailover, rfl⟩

/-! ## Dropped relays -/

/-- A relay that is no candidate and is not supplied stays out; it is not tried, and if it is
in use, it is so until the next restart only. -/
theorem dropped_callAll {gateway : Gateway} (h : gateway.Fair) {relay : SocketAddr}
    (hdropped : relay ∉ gateway.relayCandidates) {later : List GatewayOp}
    (hnot : ∀ op ∈ later, ¬ op.Supplies relay) :
    relay ∉ (callAll gateway later).2.relayCandidates ∧
      relay ∉ triedRelays (callAll gateway later).1 ∧
      (gateway.config.relay ≠ relay ∨ later.any GatewayOp.restarts = true →
        (callAll gateway later).2.config.relay ≠ relay) := by
  induction later using List.reverseRecOn with
  | nil => exact ⟨hdropped, List.not_mem_nil, fun hfree => hfree.resolve_right (by simp)⟩
  | append_singleton later op ih =>
      obtain ⟨hout, huntried, hunused⟩ := ih fun op hop => hnot op (List.mem_append_left _ hop)
      have hnotOp := hnot op (List.mem_append_right _ (List.mem_singleton.mpr rfl))
      have hmove := moves_call (callAll gateway later).2 op
      rw [callAll_snoc, triedRelays_snoc, List.any_append, List.any_cons, List.any_nil,
        Bool.or_false, Bool.or_eq_true, ← or_assoc]
      show relay ∉ (Gateway.failover _).members ∧ _ ∧ (_ → (Gateway.failover _).current ≠ relay)
      generalize ((callAll gateway later).2.call op).1.failover = failover at hmove ⊢
      cases hmove with
      | turned hrestarts =>
          -- the one that takes over is a candidate, so it is not this relay
          have hother : (callAll gateway later).2.failover.turn.current ≠ relay := by
            rintro rfl
            exact hout (fair_callAll h later).balanced.current_turn_mem
          rw [Rotation.members_turn, if_pos hrestarts]
          refine ⟨hout, ?_, fun _ => hother⟩
          rw [List.mem_append, List.mem_singleton, not_or]
          exact ⟨huntried, Ne.symm hother⟩
      | replaced =>
          refine ⟨fun hmem => hnotOp ⟨_, rfl, (mem_foldl_collect.mp hmem).1⟩, ?_, ?_⟩
          · simpa [GatewayOp.restarts] using huntried
          · rintro (hfree | hrestarts)
            · exact hunused hfree
            · cases hrestarts
      | kept hrestarts =>
          rw [hrestarts, if_neg Bool.false_ne_true, List.append_nil]
          refine ⟨hout, huntried, ?_⟩
          rintro (hfree | hfalse)
          · exact hunused hfree
          · cases hfalse

/-! ## The whole picture -/

/-- **Failover is fair**, for every gateway that was configured with fallbacks and after every
sequence of calls. -/
theorem failover_fair (config : GatewayConfig) (relays : List SocketAddr)
    (discoveryDraw requestDraw : Nonce) (ops : List GatewayOp) (gateway : Gateway)
    (hreached : gateway =
      (callAll (.new (config.withFallbackRelays relays) discoveryDraw requestDraw) ops).2) :
    (gateway.config.fallbackRelays.Nodup ∧
      ∀ relay, relay ∈ gateway.config.fallbackRelays ↔
        relay ∈ gateway.relayCandidates ∧ relay ≠ gateway.config.relay) ∧
    (∀ a ∈ gateway.relayCandidates, ∀ b ∈ gateway.relayCandidates,
      a.ip.sameFamily b.ip = true) ∧
    (∀ later : List GatewayOp, (∀ op ∈ later, op.replaces = false) →
      later.countP GatewayOp.restarts = gateway.relayCandidates.length →
        ∀ relay, (triedRelays (callAll gateway later).1).count relay
          = if relay ∈ gateway.relayCandidates then 1 else 0) ∧
    ∀ (relay : SocketAddr) (later : List GatewayOp), relay ∉ gateway.relayCandidates →
      (∀ op ∈ later, ¬ op.Supplies relay) →
        relay ∉ triedRelays (callAll gateway later).1 ∧
          (gateway.config.relay ≠ relay ∨ later.any GatewayOp.restarts = true →
            (callAll gateway later).2.config.relay ≠ relay) := by
  have hfair : gateway.Fair := by
    rw [hreached]
    exact fair_callAll (fair_new config relays discoveryDraw requestDraw) ops
  refine ⟨⟨hfair.balanced.waiting_nodup, hfair.balanced.mem_waiting⟩, ?_, ?_, ?_⟩
  · intro a ha b hb
    exact IpAddr.sameFamily_of_sameFamily (hfair.family a ha) (hfair.family b hb)
  · intro later hstay hcount relay
    have htried : triedRelays (callAll gateway later).1 = gateway.failover.order := by
      rw [(failover_callAll hstay).2, hcount]
      exact hfair.balanced.turns_eq_order
    rw [htried, hfair.balanced.order_nodup.count]
    exact if_congr hfair.balanced.mem_order rfl rfl
  · intro relay later hdropped hnot
    exact (dropped_callAll hfair hdropped hnot).2

def candidateRelay (host : UInt8) : SocketAddr := .v4 (.new 192 0 2 host) 2268

/-- A gateway with one fallback, whose relay is then dropped while it is in use. -/
def retiredGateway : Gateway :=
  (callAll (.new ((GatewayConfig.new (candidateRelay 10) .igmpv3 .first
      .first).withFallbackRelays [candidateRelay 11]) .first .first)
    [.replaceRelayCandidates [candidateRelay 11, candidateRelay 12]]).2

/-- Two restarts try the two candidates, and the relay that was dropped is not in use. -/
theorem failover_fair_retired :
    retiredGateway.config.relay = candidateRelay 10 ∧
      retiredGateway.currentRelayIsRetired = true ∧
      (∀ relay, (triedRelays (callAll retiredGateway
          [.restartDiscovery .first .first, .restartDiscovery .first .first]).1).count relay
        = if relay ∈ [candidateRelay 11, candidateRelay 12] then 1 else 0) ∧
      (callAll retiredGateway [.restartDiscovery .first .first]).2.config.relay
        ≠ candidateRelay 10 := by
  obtain ⟨-, -, hround, hdropped⟩ := failover_fair (.new (candidateRelay 10) .igmpv3 .first
    .first) [candidateRelay 11] .first .first
    [.replaceRelayCandidates [candidateRelay 11, candidateRelay 12]] retiredGateway rfl
  refine ⟨by decide, by decide, hround _ (by decide) (by decide), ?_⟩
  refine (hdropped (candidateRelay 10) [.restartDiscovery .first .first] (by decide) ?_).2
    (.inr (by decide))
  rintro op hop ⟨relays, rfl, -⟩
  simp at hop

end Gateway

end Amt

import Amt.Gateway.Run

/-!
# Query cycles and discovery rounds

Every query cycle has its own request nonce and every discovery round its own discovery
nonce.  Datagrams of earlier cycles may still be under way, be duplicated or be replayed
by anyone, and a gateway that has begun a new cycle keeps its old session until the new
query arrives.

The history of a run says which nonces were drawn (`requestNonces`, `discoveryNonces`) and
which Requests were handed to the socket (`generatedRequests`).  Three facts about it hold
along every run (`History`): the configured nonces are the ones drawn last; outside of
discovery the last Request carries the configured nonce; and every Request carries a nonce
that was drawn.

* `run_accepts_current`: a Membership Query either fails or comes from the selected relay
  with the nonce of the last Request; an advertisement either fails or arrives while
  discovering, from the configured relay, with the discovery nonce drawn last; nothing
  else changes the gateway.
* With nonces that do not repeat, a query for a Request of an earlier cycle and an
  advertisement for an earlier discovery round always fail.
-/

namespace Amt

/-! ## Histories -/

namespace GatewayCall

/-- The nonce of the Request this call generated. -/
def generatedRequest (c : GatewayCall) : Option UInt32 :=
  match c.outcome with
  | .ok (some action) => action.generatedRequest
  | _ => none

@[simp] theorem generatedRequest_send (op : GatewayOp) (destination : SocketAddr)
    (message : Message) :
    generatedRequest ⟨op, .ok (some (.send destination (encode message)))⟩
      = message.nonceOfRequest :=
  GatewayAction.generatedRequest_send destination message

/-- The request nonce drawn in this call; a query cycle that cannot begin draws none. -/
def drawnRequest (c : GatewayCall) : Option UInt32 :=
  match c.op, c.outcome with
  | .beginQueryCycle nonce, .ok _ => some nonce
  | .restartDiscovery _ nonce, .ok _ => some nonce
  | _, _ => none

/-- The discovery nonce drawn in this call. -/
def drawnDiscovery (c : GatewayCall) : Option UInt32 :=
  match c.op, c.outcome with
  | .restartDiscovery nonce _, .ok _ => some nonce
  | _, _ => none

/-- A call that fails draws and generates nothing. -/
theorem of_failed {c : GatewayCall} (hfailed : ∀ action, c.outcome ≠ .ok action) :
    c.generatedRequest = none ∧ c.drawnRequest = none ∧ c.drawnDiscovery = none := by
  obtain ⟨op, outcome⟩ := c
  cases outcome with
  | ok action => exact absurd rfl (hfailed action)
  | err error => cases op <;> exact ⟨rfl, rfl, rfl⟩
  | panic => cases op <;> exact ⟨rfl, rfl, rfl⟩

end GatewayCall

/-- The nonces of the Requests generated in a run, in order. -/
def generatedRequests (calls : List GatewayCall) : List UInt32 :=
  calls.filterMap GatewayCall.generatedRequest

theorem generatedRequests_concat (calls : List GatewayCall) (c : GatewayCall) :
    generatedRequests (calls ++ [c]) = generatedRequests calls ++ c.generatedRequest.toList := by
  cases h : c.generatedRequest with
  | none => simp [generatedRequests, h]
  | some nonce => simp [generatedRequests, h]

namespace Gateway

/-- The request nonces of a run: the one it starts with and those drawn. -/
def requestNonces (start : Gateway) (calls : List GatewayCall) : List UInt32 :=
  start.config.requestNonce :: calls.filterMap GatewayCall.drawnRequest

/-- The discovery nonces of a run. -/
def discoveryNonces (start : Gateway) (calls : List GatewayCall) : List UInt32 :=
  start.config.discoveryNonce :: calls.filterMap GatewayCall.drawnDiscovery

theorem requestNonces_append (start : Gateway) (calls calls' : List GatewayCall) :
    start.requestNonces (calls ++ calls') =
      start.requestNonces calls ++ calls'.filterMap GatewayCall.drawnRequest := by
  simp [requestNonces]

theorem discoveryNonces_append (start : Gateway) (calls calls' : List GatewayCall) :
    start.discoveryNonces (calls ++ calls') =
      start.discoveryNonces calls ++ calls'.filterMap GatewayCall.drawnDiscovery := by
  simp [discoveryNonces]

/-- **What the history of a run says about its gateway.** -/
structure History (start : Gateway) (calls : List GatewayCall) (gateway : Gateway) : Prop where
  consistent : gateway.Consistent
  requestNonce : (start.requestNonces calls).getLast? = some gateway.config.requestNonce
  discoveryNonce : (start.discoveryNonces calls).getLast? = some gateway.config.discoveryNonce
  lastRequest : gateway.phase ≠ .discovering →
    (generatedRequests calls).getLast? = some gateway.config.requestNonce
  drawn : ∀ nonce ∈ generatedRequests calls, nonce ∈ start.requestNonces calls

namespace History

variable {start gateway gateway' : Gateway} {calls : List GatewayCall}

/-- A call that draws no nonce and leaves configured nonces and phase alone. -/
theorem quiet (h : History start calls gateway) {c : GatewayCall}
    (hconsistent : gateway'.Consistent)
    (hdrawn : c.drawnRequest = none ∧ c.drawnDiscovery = none)
    (hnonces : gateway'.config.requestNonce = gateway.config.requestNonce ∧
      gateway'.config.discoveryNonce = gateway.config.discoveryNonce)
    (hrequest : ∀ nonce, c.generatedRequest = some nonce → nonce = gateway.config.requestNonce)
    (hphase : gateway'.phase ≠ .discovering → gateway.phase ≠ .discovering ∨
      c.generatedRequest = some gateway.config.requestNonce) :
    History start (calls ++ [c]) gateway' := by
  have hcurrent : gateway.config.requestNonce ∈ start.requestNonces calls :=
    List.mem_of_getLast? h.requestNonce
  have hrequests : start.requestNonces (calls ++ [c]) = start.requestNonces calls := by
    rw [requestNonces_append]
    simp [hdrawn.1]
  refine ⟨hconsistent, ?_, ?_, fun hphase' => ?_, fun nonce hnonce => ?_⟩
  · rw [hrequests, hnonces.1]
    exact h.requestNonce
  · rw [discoveryNonces_append, hnonces.2]
    simpa [hdrawn.2] using h.discoveryNonce
  · rw [hnonces.1, generatedRequests_concat]
    cases hgenerated : c.generatedRequest with
    | none =>
        rw [hgenerated] at hphase
        rcases hphase hphase' with hphase | hnone
        · rw [Option.toList_none, List.append_nil]
          exact h.lastRequest hphase
        · cases hnone
    | some nonce => simp [hrequest nonce hgenerated]
  · rw [hrequests]
    rw [generatedRequests_concat] at hnonce
    rcases List.mem_append.mp hnonce with hnonce | hnonce
    · exact h.drawn nonce hnonce
    · rw [hrequest nonce (Option.mem_toList.mp hnonce)]
      exact hcurrent

/-- A call that draws a request nonce. -/
theorem draws (h : History start calls gateway) {c : GatewayCall}
    (hconsistent : gateway'.Consistent)
    (hdrawn : c.drawnRequest = some gateway'.config.requestNonce)
    (hdiscovery : (start.discoveryNonces (calls ++ [c])).getLast? =
      some gateway'.config.discoveryNonce)
    (hrequest : ∀ nonce, c.generatedRequest = some nonce → nonce = gateway'.config.requestNonce)
    (hphase : gateway'.phase ≠ .discovering →
      c.generatedRequest = some gateway'.config.requestNonce) :
    History start (calls ++ [c]) gateway' := by
  have hrequests : start.requestNonces (calls ++ [c]) =
      start.requestNonces calls ++ [gateway'.config.requestNonce] := by
    rw [requestNonces_append]
    simp [hdrawn]
  refine ⟨hconsistent, ?_, hdiscovery, fun hphase' => ?_, fun nonce hnonce => ?_⟩
  · rw [hrequests]
    simp
  · rw [generatedRequests_concat, hphase hphase']
    simp
  · rw [hrequests]
    rw [generatedRequests_concat] at hnonce
    rcases List.mem_append.mp hnonce with hnonce | hnonce
    · exact List.mem_append_left _ (h.drawn nonce hnonce)
    · rw [hrequest nonce (Option.mem_toList.mp hnonce)]
      simp

/-- **Every call extends the history.** -/
theorem called (h : History start calls gateway) {c : GatewayCall}
    (hcalled : gateway.Called c gateway') : History start (calls ++ [c]) gateway' := by
  have heffect := hcalled.effect
  have hconsistent := h.consistent.effect heffect
  obtain ⟨op, outcome⟩ := c
  cases heffect with
  | refused hfailed =>
      obtain ⟨hgenerated, hdrawn⟩ := GatewayCall.of_failed (c := ⟨op, outcome⟩) hfailed
      exact h.quiet hconsistent hdrawn ⟨rfl, rfl⟩ (by simp [hgenerated]) .inl
  | observed hop hrequest =>
      refine h.quiet hconsistent ?_ ⟨rfl, rfl⟩ hrequest .inl
      cases op with
      | discovery | request | teardown => exact ⟨rfl, rfl⟩
      | handleDatagramWithEcn | membership | beginQueryCycle | restartDiscovery
      | replaceRelayCandidates => cases hop
  | received hdecode hmessage hrequest =>
      refine h.quiet hconsistent ⟨rfl, rfl⟩ ⟨rfl, rfl⟩ (fun nonce hnonce => ?_) .inl
      cases hrequest.symm.trans hnonce
  | advertised =>
      refine h.quiet hconsistent ⟨rfl, rfl⟩ ⟨rfl, rfl⟩ (fun nonce hnonce => ?_) fun _ => .inr ?_
      · rw [GatewayCall.generatedRequest_send] at hnonce
        exact (Option.some.inj hnonce).symm
      · rw [GatewayCall.generatedRequest_send]
        rfl
  | queried hdecode hpeer hexpected =>
      exact h.quiet hconsistent ⟨rfl, rfl⟩ ⟨rfl, rfl⟩ nofun fun _ =>
        .inl (h.consistent.expectedRequestNonce_eq hexpected).1
  | reported =>
      refine h.quiet hconsistent ⟨rfl, rfl⟩ ⟨rfl, rfl⟩ (fun nonce hnonce => ?_) .inl
      rw [GatewayCall.generatedRequest_send] at hnonce
      cases hnonce
  | idle => exact h.quiet hconsistent ⟨rfl, rfl⟩ ⟨rfl, rfl⟩ nofun .inl
  | candidates => exact h.quiet hconsistent ⟨rfl, rfl⟩ ⟨rfl, rfl⟩ nofun .inl
  | cycled =>
      refine h.draws hconsistent rfl ?_ (fun nonce hnonce => ?_) fun _ => ?_
      · rw [discoveryNonces_append]
        simpa [GatewayCall.drawnDiscovery] using h.discoveryNonce
      · rw [GatewayCall.generatedRequest_send] at hnonce
        exact (Option.some.inj hnonce).symm
      · rw [GatewayCall.generatedRequest_send]
        rfl
  | restarted =>
      refine h.draws hconsistent rfl ?_ (fun nonce hnonce => ?_) fun hphase => ?_
      · rw [discoveryNonces_append]
        simp [GatewayCall.drawnDiscovery]
      · rw [GatewayCall.generatedRequest_send] at hnonce
        cases hnonce
      · exact absurd rfl hphase

/-- **Every run has its history.** -/
theorem run {config : GatewayConfig} {discoveryDraw requestDraw : Nonce}
    (hrun : Run Called (Gateway.new config discoveryDraw requestDraw) calls gateway) :
    History (Gateway.new config discoveryDraw requestDraw) calls gateway := by
  induction hrun with
  | nil =>
      exact ⟨consistent_new config discoveryDraw requestDraw, rfl, rfl,
        fun hphase => absurd rfl hphase, nofun⟩
  | snoc _ hcalled ih => exact ih.called hcalled

end History

/-! ## Only the current cycle counts -/

/-- The last of distinct entries is none of the earlier ones. -/
theorem getLast?_ne_of_nodup {α : Type*} {earlier later : List α} {a : α}
    (hnodup : (earlier ++ later).Nodup) (hlater : later ≠ []) (ha : a ∈ earlier) :
    (earlier ++ later).getLast? ≠ some a := by
  intro hlast
  rw [List.getLast?_append_of_ne_nil _ hlater] at hlast
  exact List.disjoint_of_nodup_append hnodup ha (List.mem_of_getLast? hlast)

/-- The datagram is not accepted, and nothing changes. -/
def Refuses (gateway : Gateway) (peer : SocketAddr) (datagram : Bytes)
    (outerEcn : EcnCodepoint) : Prop :=
  (gateway.handleDatagramWithEcn peer datagram outerEcn).1 = gateway ∧
    ∀ action, (gateway.handleDatagramWithEcn peer datagram outerEcn).2 ≠ .ok action

theorem refuses_of_effect {gateway : Gateway} {peer : SocketAddr} {datagram : Bytes}
    {outerEcn : EcnCodepoint}
    (h : (gateway.handleDatagramWithEcn peer datagram outerEcn).1 = gateway ∧
      ∀ action, some <$> (gateway.handleDatagramWithEcn peer datagram outerEcn).2 ≠ .ok action) :
    gateway.Refuses peer datagram outerEcn := by
  refine ⟨h.1, fun action haction => h.2 (some action) ?_⟩
  rw [haction]
  rfl

/-- **Only the current cycle counts.**  In every run of a gateway, with query cycles,
discovery rounds and datagrams of any origin in any order:

* a Membership Query is refused, or it comes from the selected relay and carries the nonce
  of the most recently generated Request;
* a Relay Advertisement is refused, or the gateway is discovering, it comes from the
  configured relay and it carries the most recently drawn discovery nonce;
* no other datagram changes the gateway;
* if no nonce is ever drawn twice, a query for a Request that was generated before the last
  request nonce was drawn, and an advertisement for a discovery nonce drawn before the last
  one, are refused. -/
theorem run_accepts_current {config : GatewayConfig} {discoveryDraw requestDraw : Nonce}
    {calls : List GatewayCall} {gateway : Gateway}
    (hrun : Run Called (Gateway.new config discoveryDraw requestDraw) calls gateway)
    (peer : SocketAddr) (datagram : Bytes) (outerEcn : EcnCodepoint) :
    (∀ mac nonce limit endpoint query,
      decode datagram = .ok (.membershipQuery mac nonce limit endpoint query) →
        gateway.Refuses peer datagram outerEcn ∨
          (gateway.relayEndpoint = some peer ∧ (generatedRequests calls).getLast? = some nonce)) ∧
    (∀ nonce address, decode datagram = .ok (.relayAdvertisement nonce address) →
      gateway.Refuses peer datagram outerEcn ∨
        (gateway.phase = .discovering ∧ peer = gateway.config.relay ∧
          ((Gateway.new config discoveryDraw requestDraw).discoveryNonces calls).getLast?
            = some nonce)) ∧
    ((∀ message, decode datagram = .ok message → message.steersGateway = false) →
      (gateway.handleDatagramWithEcn peer datagram outerEcn).1 = gateway) ∧
    (((Gateway.new config discoveryDraw requestDraw).discoveryNonces calls ++
        (Gateway.new config discoveryDraw requestDraw).requestNonces calls).Nodup →
      ∀ earlier later, calls = earlier ++ later →
        (∀ mac nonce limit endpoint query,
          decode datagram = .ok (.membershipQuery mac nonce limit endpoint query) →
          nonce ∈ generatedRequests earlier →
          later.filterMap GatewayCall.drawnRequest ≠ [] →
            gateway.Refuses peer datagram outerEcn) ∧
        ∀ nonce address, decode datagram = .ok (.relayAdvertisement nonce address) →
          nonce ∈ (Gateway.new config discoveryDraw requestDraw).discoveryNonces earlier →
          later.filterMap GatewayCall.drawnDiscovery ≠ [] →
            gateway.Refuses peer datagram outerEcn) := by
  have h := History.run hrun
  have heffect := gateway.effect_handleDatagramWithEcn peer datagram outerEcn
  have hquery : ∀ mac nonce limit endpoint query,
      decode datagram = .ok (.membershipQuery mac nonce limit endpoint query) →
        gateway.Refuses peer datagram outerEcn ∨
          (gateway.relayEndpoint = some peer ∧ gateway.phase ≠ .discovering ∧
            nonce = gateway.config.requestNonce) := by
    intro mac nonce limit endpoint query hdecode
    rcases heffect.query hdecode with hrefused | ⟨hpeer, hexpected⟩
    · exact .inl (refuses_of_effect hrefused)
    · exact .inr ⟨hpeer, h.consistent.expectedRequestNonce_eq hexpected⟩
  have hadvertisement : ∀ nonce address,
      decode datagram = .ok (.relayAdvertisement nonce address) →
        gateway.Refuses peer datagram outerEcn ∨
          (gateway.phase = .discovering ∧ peer = gateway.config.relay ∧
            nonce = gateway.config.discoveryNonce) := by
    intro nonce address hdecode
    rcases heffect.advertisement hdecode with hrefused | ⟨hphase, hpeer, hnonce⟩
    · exact .inl (refuses_of_effect hrefused)
    · rw [(h.consistent.discovering hphase).1] at hpeer
      exact .inr ⟨hphase, hpeer, hnonce⟩
  refine ⟨?_, ?_, heffect.other, ?_⟩
  · intro mac nonce limit endpoint query hdecode
    refine (hquery mac nonce limit endpoint query hdecode).imp_right ?_
    rintro ⟨hpeer, hphase, rfl⟩
    exact ⟨hpeer, h.lastRequest hphase⟩
  · intro nonce address hdecode
    refine (hadvertisement nonce address hdecode).imp_right ?_
    rintro ⟨hphase, hpeer, rfl⟩
    exact ⟨hphase, hpeer, h.discoveryNonce⟩
  · intro hnodup earlier later hsplit
    obtain ⟨hdiscovery, hrequest, -⟩ := List.nodup_append.mp hnodup
    constructor
    · intro mac nonce limit endpoint query hdecode hearlier hlater
      refine (hquery mac nonce limit endpoint query hdecode).resolve_right ?_
      rintro ⟨-, -, rfl⟩
      obtain ⟨_, hprefix⟩ := hrun.exists_prefix hsplit
      have hlast := h.requestNonce
      rw [hsplit, requestNonces_append] at hlast hrequest
      exact getLast?_ne_of_nodup hrequest hlater ((History.run hprefix).drawn _ hearlier) hlast
    · intro nonce address hdecode hearlier hlater
      refine (hadvertisement nonce address hdecode).resolve_right ?_
      rintro ⟨-, -, rfl⟩
      have hlast := h.discoveryNonce
      rw [hsplit, discoveryNonces_append] at hlast hdiscovery
      exact getLast?_ne_of_nodup hdiscovery hlater hearlier hlast

def thirdNonce : Nonce := ⟨3, by decide⟩

/-- The sample run, and a second query cycle. -/
def secondCycle : List GatewayOp := sampleOps ++ [.beginQueryCycle thirdNonce]

/-- The query of the first cycle, once more in the second. -/
theorem run_accepts_current_replayed_query :
    (callAll sampleStart secondCycle).2.Refuses sampleRelay (encode sampleQuery) .notEct := by
  obtain ⟨-, -, -, hstale⟩ := run_accepts_current (run_callAll sampleStart secondCycle) sampleRelay
    (encode sampleQuery) .notEct
  have hnodup : (sampleStart.discoveryNonces (callAll sampleStart secondCycle).1 ++
      sampleStart.requestNonces (callAll sampleStart secondCycle).1).Nodup := by decide +kernel
  have hearlier : 2 ∈ generatedRequests ((callAll sampleStart secondCycle).1.take 3) := by
    decide +kernel
  have hlater : ((callAll sampleStart secondCycle).1.drop 3).filterMap GatewayCall.drawnRequest
      ≠ [] := by decide +kernel
  exact (hstale hnodup _ _ (List.take_append_drop 3 _).symm).1 _ _ _ _ _ (decode_encode sampleQuery)
    hearlier hlater

end Gateway

end Amt

import Amt.Tunnel

/-!
# Updates in flight

A `TunnelEvent` lets an update arrive before anything else happens.  On a network it takes its
time: here an update that is sent joins a queue and arrives later, in the order of sending,
while both sides go on.

* **The relay is behind by what is in flight** (`Link.Behind`): the reports of the updates in
  flight, acting on the relay's table in order, give the gateway's table.  This holds in every
  state of every run in which nothing is lost and what arrives is accepted (`Link.run_behind`).
* **So the copies agree whenever nothing is in flight** (`Link.run_synced_of_empty`).
* **A tunnel is such a link**, one whose updates arrive at once (`Tunnel.exists_linkRun`); in it
  the copies agree in every state, and with them the relay's choice of packets and the
  gateway's filter (`Tunnel.run_synced`).
-/

namespace Amt

/-- A tunnel, and the datagrams of the updates on their way to the relay, oldest first. -/
structure Link where
  tunnel : Tunnel
  inFlight : List Bytes

/-- What happens at a link: the gateway makes a membership request, the oldest datagram arrives,
or one of the events of a tunnel that are not requests. -/
inductive LinkEvent where
  | send (request : MembershipRequest)
  | arrive (env : CallEnv)
  | other (event : TunnelEvent)

namespace Link

section Step

variable (hmac : RelaySecret → Bytes → Octets 32) (p : SocketAddr)

/-- The link after one event. -/
def step (link : Link) : LinkEvent → Link
  | .send request =>
      let (gateway, datagram) := link.tunnel.gateway.perform request
      { tunnel := { link.tunnel with gateway }, inFlight := link.inFlight ++ datagram.toList }
  | .arrive env =>
      match link.inFlight with
      | [] => link
      | datagram :: inFlight =>
          let relay := (link.tunnel.relay.handleDatagram hmac env p datagram).1
          { tunnel := { link.tunnel with relay }, inFlight }
  | .other event => { link with tunnel := link.tunnel.step hmac p event }

/-- What arrives is accepted, and what is neither a request nor an arrival spares `p`. -/
def Reliable (link : Link) : LinkEvent → Prop
  | .send _ => True
  | .arrive env => ∀ datagram ∈ link.inFlight.head?,
      Relay.acceptsUpdate (link.tunnel.relay.handleDatagram hmac env p datagram).2 = true
  | .other event => Tunnel.Spares p event ∧ ∀ request delivery, event ≠ .request request delivery

/-- A step of a link that loses nothing. -/
def ReliableStep (link : Link) (event : LinkEvent) (link' : Link) : Prop :=
  link.Reliable hmac p event ∧ link.step hmac p event = link'

end Step

/-- The datagram is an update with the report. -/
def Carries (datagram : Bytes) (report : MembershipReport) : Prop :=
  ∃ mac nonce packet, buildMembershipReport report = .ok packet ∧
    datagram = encode (.membershipUpdate mac nonce packet)

/-- **The relay is behind the gateway by the updates in flight.** -/
def Behind (p : SocketAddr) (link : Link) : Prop :=
  ∃ reports : List MembershipReport, List.Forall₂ Carries link.inFlight reports ∧
    link.tunnel.gateway.receptionInterest = reports.foldl (fun held report => report.act held)
      (link.tunnel.relay.state.endpointInterest p)

section Runs

variable {hmac : RelaySecret → Bytes → Octets 32} {p : SocketAddr} {link : Link}

/-- A request acts on the gateway's table, and its report is the last in flight. -/
theorem Behind.send (h : link.Behind p) (request : MembershipRequest) :
    (link.step hmac p (.send request)).Behind p := by
  obtain ⟨reports, hcarries, htable⟩ := h
  rcases link.tunnel.gateway.perform_cases request with hnone |
      ⟨mac, nonce, packet, hbuild, hdatagram, hreception⟩
  · refine ⟨reports, ?_, ?_⟩
    · simpa [step, hnone] using hcarries
    · simpa [step, hnone] using htable
  · refine ⟨reports ++ [link.tunnel.gateway.requestReport request], ?_, ?_⟩
    · have hlast : List.Forall₂ Carries (link.tunnel.gateway.perform request).2.toList
          [link.tunnel.gateway.requestReport request] := by
        rw [hdatagram]
        exact .cons ⟨mac, nonce, packet, hbuild, rfl⟩ .nil
      exact List.rel_append hcarries hlast
    · change (link.tunnel.gateway.perform request).1.receptionState.endpointInterest _ =
        (reports ++ _).foldl _ (link.tunnel.relay.state.endpointInterest p)
      rw [List.foldl_append, ← htable, hreception]
      exact RelayState.endpointInterest_applyReport_self _ _ _

/-- An arrival acts on the relay's table, and takes the first report in flight away. -/
theorem Behind.arrive (h : link.Behind p) {env : CallEnv}
    (haccepted : link.Reliable hmac p (.arrive env)) :
    (link.step hmac p (.arrive env)).Behind p := by
  obtain ⟨tunnel, inFlight⟩ := link
  obtain ⟨reports, hcarries, htable⟩ := h
  cases hcarries with
  | nil => exact ⟨[], .nil, htable⟩
  | @cons datagram report inFlight reports hfirst hrest =>
      obtain ⟨mac, nonce, packet, hbuild, rfl⟩ := hfirst
      refine ⟨reports, hrest, ?_⟩
      have hrelay := Relay.handleDatagram_accepted hmac hbuild (haccepted _ rfl)
      rw [List.foldl_cons, ← hrelay] at htable
      exact htable

/-- **One step of a reliable link** keeps the relay behind by what is in flight. -/
theorem Behind.step (h : link.Behind p) {event : LinkEvent} {link' : Link}
    (hstep : link.ReliableStep hmac p event link') : link'.Behind p := by
  obtain ⟨hreliable, rfl⟩ := hstep
  cases event with
  | send request => exact h.send request
  | arrive env => exact h.arrive hreliable
  | other event =>
      obtain ⟨reports, hcarries, htable⟩ := h
      obtain ⟨hspares, hevent⟩ := hreliable
      refine ⟨reports, hcarries, ?_⟩
      change (link.tunnel.step hmac p event).gateway.receptionState.endpointInterest _ =
        reports.foldl _ ((link.tunnel.step hmac p event).relay.state.endpointInterest p)
      rw [Tunnel.receptionState_step hevent, Tunnel.endpointInterest_step hevent hspares]
      exact htable

/-- **Over whole runs**: the relay has what the gateway had before the updates in flight. -/
theorem run_behind {start : Tunnel} (hstart : start.Fresh p) {events : List LinkEvent}
    (hrun : Run (ReliableStep hmac p) ⟨start, []⟩ events link) : link.Behind p := by
  refine Run.invariant (I := Behind p) (fun _ _ _ h hstep => h.step hstep) ?_ hrun
  exact ⟨[], .nil, (funext hstart.synced).symm⟩

/-- **The copies agree whenever nothing is in flight.** -/
theorem run_synced_of_empty {start : Tunnel} (hstart : start.Fresh p) {events : List LinkEvent}
    (hrun : Run (ReliableStep hmac p) ⟨start, []⟩ events link) (hempty : link.inFlight = []) :
    link.tunnel.Synced p := by
  obtain ⟨reports, hcarries, htable⟩ := run_behind hstart hrun
  rw [hempty, List.forall₂_nil_left_iff] at hcarries
  subst hcarries
  exact fun g => (congrFun htable g).symm

end Runs

end Link

/-! ## A tunnel is a link -/

namespace Tunnel

variable {hmac : RelaySecret → Bytes → Octets 32} {p : SocketAddr}

/-- **Every run of a reliable tunnel is one of a link** in which each update arrives before
anything else happens. -/
theorem exists_linkRun {start tunnel : Tunnel} {events : List TunnelEvent}
    (hrun : Run (ReliableStep hmac p) start events tunnel) :
    ∃ events', Run (Link.ReliableStep hmac p) ⟨start, []⟩ events' ⟨tunnel, []⟩ := by
  induction hrun with
  | nil => exact ⟨[], .nil⟩
  | @snoc _ tunnel _ event _ hlast ih =>
      obtain ⟨events', hlink⟩ := ih
      obtain ⟨hspares, hreliable, rfl⟩ := hlast
      by_cases hrequest : ∃ request delivery, event = .request request delivery
      · obtain ⟨request, delivery, rfl⟩ := hrequest
        have hstep : Link.ReliableStep hmac p ⟨tunnel, []⟩ (.send request) _ := ⟨trivial, rfl⟩
        have hsend := hlink.snoc hstep
        rcases tunnel.gateway.perform_cases request with hnone | ⟨_, _, _, -, hdatagram, -⟩
        · simp only [Link.step, hnone, Option.toList_none, List.append_nil] at hsend
          exact ⟨_, by simpa only [step, hnone, deliver] using hsend⟩
        · obtain ⟨outcome, hanswer, haccepted⟩ := hreliable (by rw [hdatagram]; rfl)
          simp only [answer, hdatagram] at hanswer
          cases delivery with
          | none => cases hanswer
          | some env =>
              obtain rfl := Option.some.inj hanswer
              simp only [Link.step, hdatagram, Option.toList_some, List.nil_append] at hsend
              refine ⟨events' ++ [.send request] ++ [.arrive env], ?_⟩
              simp only [step, hdatagram, deliver]
              refine hsend.snoc ⟨?_, rfl⟩
              rintro _ ⟨rfl⟩
              exact haccepted
      · have hother : Link.ReliableStep hmac p ⟨tunnel, []⟩ (.other event) _ :=
          ⟨⟨hspares, fun request delivery h => hrequest ⟨request, delivery, h⟩⟩, rfl⟩
        exact ⟨_, hlink.snoc hother⟩

/-- **Delivered updates keep both ends of the tunnel in step.**  From a start where
neither side knows anything of `p`, in every run in which each update the gateway sends is
delivered from `p` and accepted, and whatever else happens to gateway and relay spares
`p`: the relay holds for `p` exactly what the gateway holds for itself, the relay forwards
a packet to `p` exactly when the gateway's filter wants it, and the gateway ignores a data
packet of the relay exactly when the relay would not have sent it. -/
theorem run_synced (hmac : RelaySecret → Bytes → Octets 32) (p : SocketAddr)
    {start tunnel : Tunnel} {events : List TunnelEvent} (hstart : start.Fresh p)
    (hrun : Run (ReliableStep hmac p) start events tunnel) :
    (∀ g, tunnel.relay.state.endpointInterest p g = tunnel.gateway.receptionInterest g) ∧
    (∀ s g, p ∈ tunnel.relay.state.matchingEndpoints s g ↔
      tunnel.gateway.interested s g = true) ∧
    ∀ relay session packet parsed outerEcn, tunnel.gateway.relayEndpoint = some relay →
      tunnel.gateway.session = some session → parseMulticastPacket packet = .ok parsed →
        ((tunnel.gateway.handleDatagramWithEcn relay (encode (.multicastData packet)) outerEcn).2
            = .ok .ignored ↔
          p ∉ tunnel.relay.state.matchingEndpoints parsed.source parsed.group) := by
  have hwf : tunnel.relay.state.WellFormed := by
    refine Run.invariant (I := fun t => t.relay.state.WellFormed) ?_ hstart.wellFormed hrun
    rintro t event _ h ⟨-, -, rfl⟩
    exact wellFormed_step h event
  obtain ⟨events', hlink⟩ := exists_linkRun hrun
  have hsynced : tunnel.Synced p := Link.run_synced_of_empty hstart hlink rfl
  have hmatching : ∀ s g, p ∈ tunnel.relay.state.matchingEndpoints s g ↔
      tunnel.gateway.interested s g = true := by
    intro s g
    rw [hwf.mem_matchingEndpoints, RelayState.endpointWants, hsynced g]
    rfl
  refine ⟨hsynced, hmatching, ?_⟩
  intro relay session packet parsed outerEcn hrelay hsession hparse
  rw [Gateway.handleDatagramWithEcn_ignored_iff hrelay hsession hparse, hmatching,
    Bool.not_eq_true]

/-- The first join of a tunnel that was just set up. -/
theorem run_synced_first_join :
    samplePeer ∈ (sample.step zeroDigest samplePeer (.request
      (.join (.v4 (.new 232 1 1 1)) none) (some sampleEnv))).relay.state.matchingEndpoints
        (.v4 (.new 198 51 100 1)) (.v4 (.new 232 1 1 1)) := by
  have hanswer : (sample.answer zeroDigest samplePeer (.join (.v4 (.new 232 1 1 1)) none)
      (some sampleEnv)).any Relay.acceptsUpdate = true := by decide +kernel
  have hstep : ReliableStep zeroDigest samplePeer sample
      (.request (.join (.v4 (.new 232 1 1 1)) none) (some sampleEnv)) _ :=
    ⟨trivial, fun _ => (Option.any_eq_true _ _).mp hanswer, rfl⟩
  exact ((run_synced zeroDigest samplePeer sample_fresh (Run.nil.snoc hstep)).2.1 _ _).mpr
    (by decide +kernel)

end Tunnel

end Amt

import Amt.Mtu.Fragments
import Amt.Upstream.Normalize
import Amt.Gateway.Reception

/-!
# From the capture to the gateway

The data path of the relay: a captured datagram is normalised once and sent to every
endpoint that wants it, whole where it fits the tunnel to that endpoint, in fragments
where it does not and can be cut.

* **The socket is a parameter.**  `TunnelSocket` sends datagrams and has a clock, over an
  arbitrary state, so that every send may fail.  The loop keeps a list of its sends with
  their results.  Nothing on this path returns an error, which is why its outcomes have the
  error type `Empty`; what remains to be shown is that no index is out of range.
* **One fragmentation for each family.**  The fragments are prepared when the first
  endpoint of a family needs them and used for the others.  The tunnel MTU depends on the
  family only, so that they are right for all of them (`Forwarding.Cached`).
* **What is sent to an endpoint** (`Sent`): the packets for it (`packetsFor`), in order, up
  to the first send that fails.
* **What a gateway makes of them** (`Sent.delivers`): it hands out every packet as the relay
  sent it, since each is a well-formed datagram from the right source to the right group,
  and the outer ECN field is that of the packet or none.

`drainUpstreamDatagram_delivers` puts the whole path together.
-/

namespace Amt

/-! ## The relay's side -/

/-- The tunnel socket, with the clock that the relay reads between its calls. -/
structure TunnelSocket (σ : Type) where
  now : σ → Instant
  sendTo : σ → Bytes → SocketAddr → EcnCodepoint → σ × Bool

/-- What becomes of a packet that does not fit the tunnel. -/
inductive PreparedTunnelData where
  | packets (fragments : List Bytes)
  | drop (error : Ipv4FragmentError)
  | dropIpv6
deriving DecidableEq, Repr

/-- The drops that the source of the packet can do something about. -/
def PreparedTunnelData.requiresPmtuFeedback : PreparedTunnelData → Bool
  | .drop .dontFragment | .dropIpv6 => true
  | _ => false

/-- Fragment an IPv4 packet; one of any other version is dropped. -/
def prepareOversizedTunnelData (packet : Bytes) (tunnelMtu : ℕ) :
    Outcome Empty PreparedTunnelData :=
  if packet.head?.map (fun byte : UInt8 => byte >>> 4) ≠ some (4 : UInt8) then .ok .dropIpv6
  else
    match fragmentIpv4ForTunnel packet tunnelMtu with
    | .ok fragments =>
        .ok (.packets (fragments.map fun fragment => encode (.multicastData fragment)))
    | .err error => .ok (.drop error)
    | .panic => .panic

/-- The length of the IP header that the socket puts in front. -/
def outerIpHeader : SocketAddr → ℕ
  | .v4 _ _ => 20
  | .v6 _ _ _ _ => 40

/-- What is left for the inner packet after the outer IP, UDP and AMT headers. -/
def tunnelMtu (pathMtu : ℕ) (endpoint : SocketAddr) : ℕ :=
  pathMtu - (outerIpHeader endpoint + 8 + 2)

/-- The outer codepoint, and whether the gateway can do ECN. -/
def tunnelEcn (relay : Relay) (now : Instant) (endpoint : SocketAddr) (packet : Bytes) :
    Outcome Empty (EcnCodepoint × Bool) :=
  if relay.gatewayEcnCapable now endpoint then
    match ipEcn packet with
    | .ok ecn => .ok (ecn, true)
    | .err _ => .ok (.notEct, true)
    | .panic => .panic
  else .ok (.notEct, false)

/-- A datagram handed to the socket, and whether the socket took it. -/
structure TunnelSend where
  datagram : Bytes
  endpoint : SocketAddr
  ecn : EcnCodepoint
  sent : Bool
deriving DecidableEq, Repr

/-- What the loop over the endpoints of one datagram carries. -/
structure Forwarding (σ : Type) where
  socket : σ
  preparedIpv4Outer : Option PreparedTunnelData
  preparedIpv6Outer : Option PreparedTunnelData
  feedbackMtu : Option ℕ
  successfulEndpoints : ℕ
  successfulBytes : ℕ
  mtuDrops : ℕ
  sends : List TunnelSend

section Relay

variable {σ : Type}

namespace Forwarding

/-- Before the first endpoint. -/
def start (socket : σ) : Forwarding σ where
  socket := socket
  preparedIpv4Outer := none
  preparedIpv6Outer := none
  feedbackMtu := none
  successfulEndpoints := 0
  successfulBytes := 0
  mtuDrops := 0
  sends := []

/-- The slot for the family of the endpoint. -/
def preparedOuter (state : Forwarding σ) : SocketAddr → Option PreparedTunnelData
  | .v4 _ _ => state.preparedIpv4Outer
  | .v6 _ _ _ _ => state.preparedIpv6Outer

/-- Fill the slot, so that the packet is fragmented once per family. -/
def insertPrepared (state : Forwarding σ) (prepared : PreparedTunnelData) :
    SocketAddr → Forwarding σ
  | .v4 _ _ => { state with preparedIpv4Outer := some prepared }
  | .v6 _ _ _ _ => { state with preparedIpv6Outer := some prepared }

/-- The `get_or_insert_with` of the slot. -/
def getOrPrepare (state : Forwarding σ) (packet : Bytes) (tunnelMtu : ℕ)
    (endpoint : SocketAddr) : Outcome Empty (PreparedTunnelData × Forwarding σ) :=
  match state.preparedOuter endpoint with
  | some prepared => .ok (prepared, state)
  | none => do
      let prepared ← prepareOversizedTunnelData packet tunnelMtu
      pure (prepared, state.insertPrepared prepared endpoint)

/-- The bookkeeping for an endpoint that the packet cannot be sent to. -/
def recordDrop (state : Forwarding σ) (prepared : PreparedTunnelData) (ssmFeedbackAllowed : Bool)
    (tunnelMtu : ℕ) : Forwarding σ :=
  { state with
    mtuDrops := state.mtuDrops + 1
    feedbackMtu :=
      if ssmFeedbackAllowed && prepared.requiresPmtuFeedback then
        some (state.feedbackMtu.elim tunnelMtu fun current => min current tunnelMtu)
      else state.feedbackMtu }

/-- The bookkeeping after the fragments for an endpoint. -/
def recordFragments (state : Forwarding σ) (complete : Bool) : Forwarding σ :=
  if complete then { state with successfulEndpoints := state.successfulEndpoints + 1 }
  else { state with mtuDrops := state.mtuDrops + 1 }

/-- The sends to one endpoint. -/
def sendsTo (state : Forwarding σ) (endpoint : SocketAddr) : List TunnelSend :=
  state.sends.filter fun send => send.endpoint = endpoint

end Forwarding

variable (socket : TunnelSocket σ) (relay : Relay)

/-- One send, which is recorded whether or not the socket takes it. -/
def sendTunnelDatagram (state : Forwarding σ) (datagram : Bytes) (endpoint : SocketAddr)
    (ecn : EcnCodepoint) : Forwarding σ × Bool :=
  let result := socket.sendTo state.socket datagram endpoint ecn
  ({ state with
      socket := result.1
      sends := state.sends ++ [⟨datagram, endpoint, ecn, result.2⟩] }, result.2)

/-- The loop over the fragments for one endpoint; it stops at the first failure. -/
def sendFragments (endpoint : SocketAddr) :
    List Bytes → Forwarding σ → Outcome Empty (Forwarding σ × Bool)
  | [], state => .ok (state, true)
  | fragment :: fragments, state => do
      let inner ← sliceFrom fragment 2
      let ecn ← tunnelEcn relay (socket.now state.socket) endpoint inner
      let result := sendTunnelDatagram socket state fragment endpoint ecn.1
      if result.2 then
        sendFragments endpoint fragments
          { result.1 with
            successfulBytes := result.1.successfulBytes + (fragment.length - 2) }
      else .ok (result.1, false)

/-- One round of the loop over the endpoints. -/
def forwardToEndpoint (pathMtu : ℕ) (ssmFeedbackAllowed : Bool) (response innerPacket : Bytes)
    (state : Forwarding σ) (endpoint : SocketAddr) : Outcome Empty (Forwarding σ) :=
  if innerPacket.length ≤ tunnelMtu pathMtu endpoint then do
    let ecn ← tunnelEcn relay (socket.now state.socket) endpoint innerPacket
    let result := sendTunnelDatagram socket state response endpoint ecn.1
    if result.2 then
      .ok { result.1 with
        successfulEndpoints := result.1.successfulEndpoints + 1
        successfulBytes := result.1.successfulBytes + innerPacket.length }
    else .ok result.1
  else do
    let prepared ← state.getOrPrepare innerPacket (tunnelMtu pathMtu endpoint) endpoint
    match prepared.1 with
    | .packets fragments => do
        let result ← sendFragments socket relay endpoint fragments prepared.2
        pure (result.1.recordFragments result.2)
    | _ => pure (prepared.2.recordDrop prepared.1 ssmFeedbackAllowed (tunnelMtu pathMtu endpoint))

/-- Every endpoint in turn; a failure to send to one does not stop the loop. -/
def forwardToEndpoints (pathMtu : ℕ) (ssmFeedbackAllowed : Bool) (response innerPacket : Bytes) :
    List SocketAddr → Forwarding σ → Outcome Empty (Forwarding σ)
  | [], state => .ok state
  | endpoint :: endpoints, state => do
      let state ← forwardToEndpoint socket relay pathMtu ssmFeedbackAllowed response innerPacket
        state endpoint
      forwardToEndpoints pathMtu ssmFeedbackAllowed response innerPacket endpoints state

/-- **What `drain_upstream` does with one captured datagram.**  The feedback it asks for is
the `feedbackMtu` of the result. -/
def drainUpstreamDatagram (pathMtu : ℕ) (start : σ) (datagram : UpstreamDatagram) :
    Outcome Empty (Forwarding σ) :=
  let endpoints := relay.state.matchingEndpoints datagram.source datagram.group
  if endpoints.isEmpty then .ok (.start start)
  else do
    let response ← datagram.normalizedAmtDatagram
    let innerPacket ← sliceFrom response 2
    let ssmFeedbackAllowed := relay.state.hasSsmInterest datagram.source datagram.group
    forwardToEndpoints socket relay pathMtu ssmFeedbackAllowed response innerPacket endpoints
      (.start start)

end Relay

/-! ## What is sent to an endpoint -/

/-- The packets for an endpoint: the packet, its fragments, or none. -/
def packetsFor (pathMtu : ℕ) (endpoint : SocketAddr) (packet : Bytes) : List Bytes :=
  if packet.length ≤ tunnelMtu pathMtu endpoint then [packet]
  else
    match fragmentIpv4ForTunnel packet (tunnelMtu pathMtu endpoint) with
    | .ok fragments => fragments
    | _ => []

/-- **Sends in order, up to the first failure.**  Each is the Multicast Data message of its
packet, with the ECN field of the packet or none. -/
inductive Sent (endpoint : SocketAddr) : List Bytes → List TunnelSend → Prop
  | nil : Sent endpoint [] []
  | failed {packet : Bytes} {packets : List Bytes} {ecn : EcnCodepoint}
      (hecn : ecn = .notEct ∨ ipEcn packet = .ok ecn) :
      Sent endpoint (packet :: packets) [⟨encode (.multicastData packet), endpoint, ecn, false⟩]
  | sent {packet : Bytes} {packets : List Bytes} {ecn : EcnCodepoint} {sends : List TunnelSend}
      (hecn : ecn = .notEct ∨ ipEcn packet = .ok ecn) (hrest : Sent endpoint packets sends) :
      Sent endpoint (packet :: packets)
        (⟨encode (.multicastData packet), endpoint, ecn, true⟩ :: sends)

theorem Sent.endpoint_eq {endpoint : SocketAddr} {packets : List Bytes} {sends : List TunnelSend}
    (h : Sent endpoint packets sends) : ∀ send ∈ sends, send.endpoint = endpoint := by
  induction h with
  | nil => simp
  | failed => simp
  | sent hecn hrest ih => simpa using ih

section Spec

variable {σ : Type} (socket : TunnelSocket σ) (relay : Relay) {packet : Bytes}

theorem sliceFrom_encode_multicastData {ε : Type*} (packet : Bytes) :
    (sliceFrom (encode (.multicastData packet)) 2 : Outcome ε Bytes) = .ok packet :=
  sliceFrom_append packet rfl

/-- The outer ECN field is that of the packet, or none. -/
theorem exists_tunnelEcn (packet : Bytes) (now : Instant) (endpoint : SocketAddr) :
    ∃ ecn, tunnelEcn relay now endpoint packet = .ok ecn ∧
      (ecn.1 = .notEct ∨ ipEcn packet = .ok ecn.1) := by
  unfold tunnelEcn
  split
  · cases hinner : ipEcn packet with
    | ok inner => exact ⟨(inner, true), rfl, .inr rfl⟩
    | err error => exact ⟨(.notEct, true), rfl, .inl rfl⟩
    | panic => exact absurd hinner (ipEcn_ne_panic packet)
  · exact ⟨(.notEct, false), rfl, .inl rfl⟩

/-- A send adds itself to the list and touches the socket only. -/
theorem exists_sendTunnelDatagram (state : Forwarding σ) (datagram : Bytes)
    (endpoint : SocketAddr) (ecn : EcnCodepoint) :
    ∃ next sent, sendTunnelDatagram socket state datagram endpoint ecn =
      ({ state with socket := next, sends := state.sends ++ [⟨datagram, endpoint, ecn, sent⟩] },
        sent) :=
  ⟨_, _, rfl⟩

/-- The slots, the drops and the feedback are what they were. -/
structure Forwarding.SameBooks (state state' : Forwarding σ) : Prop where
  preparedOuter_eq : state'.preparedOuter = state.preparedOuter
  mtuDrops_eq : state'.mtuDrops = state.mtuDrops
  feedbackMtu_eq : state'.feedbackMtu = state.feedbackMtu

/-- **The loop over the fragments** sends what it is given, and reports whether all of it was
taken. -/
theorem sendFragments_spec (endpoint : SocketAddr) (packets : List Bytes)
    (state : Forwarding σ) :
    ∃ state' sends,
      sendFragments socket relay endpoint
          (packets.map fun packet => encode (.multicastData packet)) state
        = .ok (state', sends.all fun send => send.sent) ∧
      state'.sends = state.sends ++ sends ∧ Sent endpoint packets sends ∧
      state.SameBooks state' := by
  induction packets generalizing state with
  | nil => exact ⟨state, [], rfl, (List.append_nil _).symm, .nil, rfl, rfl, rfl⟩
  | cons packet packets ih =>
      obtain ⟨ecn, hecn, hkind⟩ := exists_tunnelEcn relay packet (socket.now state.socket) endpoint
      rw [List.map_cons, sendFragments, sliceFrom_encode_multicastData, Outcome.bind_ok, hecn,
        Outcome.bind_ok]
      obtain ⟨next, sent, hsend⟩ := exists_sendTunnelDatagram socket state
        (encode (.multicastData packet)) endpoint ecn.1
      rw [hsend]
      cases sent with
      | false =>
          exact ⟨_, [⟨encode (.multicastData packet), endpoint, ecn.1, false⟩], rfl, rfl,
            .failed hkind, rfl, rfl, rfl⟩
      | true =>
          obtain ⟨state', sends, hrun, hsends, hrest, hbooks⟩ := ih _
          refine ⟨state', ⟨encode (.multicastData packet), endpoint, ecn.1, true⟩ :: sends, hrun,
            ?_, .sent hkind hrest, hbooks.preparedOuter_eq, hbooks.mtuDrops_eq,
            hbooks.feedbackMtu_eq⟩
          rw [hsends, List.append_assoc, List.singleton_append]

/-- The packet is not an IPv4 packet, by its first byte. -/
def NotIpv4 (packet : Bytes) : Prop := packet.head?.map (fun byte : UInt8 => byte >>> 4) ≠ some 4

/-- **What is prepared** is the fragments, if there are any.  It asks for feedback if the packet
is not IPv4, or may not be cut. -/
theorem exists_prepareOversized (packet : Bytes) {mtu : ℕ} (hmtu : ipv4HeaderLen + 8 ≤ mtu) :
    ∃ prepared, prepareOversizedTunnelData packet mtu = .ok prepared ∧
      ((∃ packets, fragmentIpv4ForTunnel packet mtu = .ok packets ∧ ¬ NotIpv4 packet ∧
          prepared = .packets (packets.map fun packet => encode (.multicastData packet))) ∨
        ((∀ fragments, prepared ≠ .packets fragments) ∧
          ∃ error, fragmentIpv4ForTunnel packet mtu = .err error ∧
            (prepared.requiresPmtuFeedback = true ↔
              NotIpv4 packet ∨ error = .dontFragment))) := by
  unfold prepareOversizedTunnelData
  by_cases hversion : NotIpv4 packet
  · obtain herr | ⟨header, payload, rfl, hsized⟩ := fragmentIpv4ForTunnel_invalid_or packet mtu
    · exact ⟨.dropIpv6, if_pos hversion, .inr ⟨by rintro _ ⟨⟩, _, herr, by simp [hversion,
        PreparedTunnelData.requiresPmtuFeedback]⟩⟩
    · exact absurd (congrArg some hsized.version) hversion
  · have hfirst : ¬ packet.head?.map (fun byte : UInt8 => byte >>> 4) ≠ some (4 : UInt8) := hversion
    rw [if_neg hfirst]
    cases hcut : fragmentIpv4ForTunnel packet mtu with
    | ok fragments => exact ⟨_, rfl, .inl ⟨_, rfl, hversion, rfl⟩⟩
    | err error =>
        refine ⟨.drop error, rfl, .inr ⟨by rintro _ ⟨⟩, error, rfl, ?_⟩⟩
        cases error <;> simp [hversion, PreparedTunnelData.requiresPmtuFeedback]
    | panic => exact absurd hcut (fragmentIpv4ForTunnel_ne_panic packet hmtu)

namespace Forwarding

variable (pathMtu : ℕ) (packet) in
/-- The slots hold what would be prepared for any endpoint of their family. -/
def Cached (state : Forwarding σ) : Prop :=
  ∀ endpoint prepared, state.preparedOuter endpoint = some prepared →
    prepareOversizedTunnelData packet (tunnelMtu pathMtu endpoint) = .ok prepared

variable {state : Forwarding σ} {pathMtu : ℕ}

theorem Cached.start (socket : σ) : (Forwarding.start socket).Cached packet pathMtu := by
  intro endpoint prepared h
  cases endpoint <;> cases h

theorem Cached.of_preparedOuter {state' : Forwarding σ} (h : state.Cached packet pathMtu)
    (hslots : state'.preparedOuter = state.preparedOuter) : state'.Cached packet pathMtu := by
  intro endpoint prepared hprepared
  rw [hslots] at hprepared
  exact h endpoint prepared hprepared

/-- Two endpoints of one family have the same tunnel MTU, so what is prepared for one is
right for the other. -/
theorem Cached.insertPrepared (h : state.Cached packet pathMtu) {endpoint : SocketAddr}
    {prepared : PreparedTunnelData}
    (hprepared : prepareOversizedTunnelData packet (tunnelMtu pathMtu endpoint) = .ok prepared) :
    (state.insertPrepared prepared endpoint).Cached packet pathMtu := by
  intro other found hfound
  cases endpoint with
  | v4 =>
      cases other with
      | v4 =>
          cases hfound
          exact hprepared
      | v6 => exact h _ found hfound
  | v6 =>
      cases other with
      | v4 => exact h _ found hfound
      | v6 =>
          cases hfound
          exact hprepared

theorem insertPrepared_eq (prepared : PreparedTunnelData) (endpoint : SocketAddr) :
    (state.insertPrepared prepared endpoint).sends = state.sends ∧
      (state.insertPrepared prepared endpoint).mtuDrops = state.mtuDrops ∧
      (state.insertPrepared prepared endpoint).feedbackMtu = state.feedbackMtu := by
  cases endpoint <;> exact ⟨rfl, rfl, rfl⟩

/-- The slot gives what `prepare_oversized_tunnel_data` gives. -/
theorem Cached.exists_getOrPrepare (h : state.Cached packet pathMtu) {endpoint : SocketAddr}
    {prepared : PreparedTunnelData}
    (hprepared : prepareOversizedTunnelData packet (tunnelMtu pathMtu endpoint) = .ok prepared) :
    ∃ state', state.getOrPrepare packet (tunnelMtu pathMtu endpoint) endpoint
        = .ok (prepared, state') ∧
      state'.Cached packet pathMtu ∧ state'.sends = state.sends ∧
      state'.mtuDrops = state.mtuDrops ∧ state'.feedbackMtu = state.feedbackMtu := by
  unfold getOrPrepare
  cases hslot : state.preparedOuter endpoint with
  | some found =>
      obtain rfl : found = prepared :=
        Outcome.ok.inj ((h endpoint found hslot).symm.trans hprepared)
      exact ⟨state, rfl, h, rfl, rfl, rfl⟩
  | none =>
      refine ⟨state.insertPrepared prepared endpoint, ?_, h.insertPrepared hprepared,
        insertPrepared_eq prepared endpoint⟩
      rw [hprepared]
      rfl

end Forwarding

variable {pathMtu : ℕ}

theorem outerIpHeader_le (endpoint : SocketAddr) : outerIpHeader endpoint ≤ 40 := by
  cases endpoint <;> simp [outerIpHeader]

theorem le_tunnelMtu (hmtu : 1280 ≤ pathMtu) (endpoint : SocketAddr) :
    ipv4HeaderLen + 8 ≤ tunnelMtu pathMtu endpoint := by
  have houter := outerIpHeader_le endpoint
  rw [tunnelMtu, ipv4HeaderLen]
  omega

theorem packetsFor_of_le {endpoint : SocketAddr}
    (h : packet.length ≤ tunnelMtu pathMtu endpoint) :
    packetsFor pathMtu endpoint packet = [packet] :=
  if_pos h

theorem packetsFor_of_lt {endpoint : SocketAddr}
    (h : tunnelMtu pathMtu endpoint < packet.length) {packets : List Bytes}
    (hok : fragmentIpv4ForTunnel packet (tunnelMtu pathMtu endpoint) = .ok packets) :
    packetsFor pathMtu endpoint packet = packets := by
  rw [packetsFor, if_neg (not_le.mpr h), hok]

theorem packetsFor_of_err {endpoint : SocketAddr}
    (h : tunnelMtu pathMtu endpoint < packet.length) {error : Ipv4FragmentError}
    (herr : fragmentIpv4ForTunnel packet (tunnelMtu pathMtu endpoint) = .err error) :
    packetsFor pathMtu endpoint packet = [] := by
  rw [packetsFor, if_neg (not_le.mpr h), herr]

/-- The books after the fragments for an endpoint. -/
theorem Forwarding.recordFragments_eq (state : Forwarding σ) (complete : Bool) :
    (state.recordFragments complete).preparedOuter = state.preparedOuter ∧
      (state.recordFragments complete).sends = state.sends ∧
      (state.recordFragments complete).mtuDrops =
        state.mtuDrops + (if complete then 0 else 1) ∧
      (state.recordFragments complete).feedbackMtu = state.feedbackMtu := by
  cases complete <;> exact ⟨rfl, rfl, rfl, rfl⟩

/-- The endpoint was counted as dropped: the packet does not fit, and there are no fragments,
or one of them was not taken. -/
def droppedAt (pathMtu : ℕ) (packet : Bytes) (endpoint : SocketAddr) (sends : List TunnelSend) :
    Bool :=
  decide (tunnelMtu pathMtu endpoint < packet.length) &&
    (decide (packetsFor pathMtu endpoint packet = []) || !sends.all fun send => send.sent)

/-- **The endpoint was dropped in a way the source can do something about**: the packet does
not fit, and is not IPv4 or must not be cut. -/
def DroppedForSize (pathMtu : ℕ) (packet : Bytes) (endpoint : SocketAddr) : Prop :=
  tunnelMtu pathMtu endpoint < packet.length ∧
    (NotIpv4 packet ∨
      fragmentIpv4ForTunnel packet (tunnelMtu pathMtu endpoint) = .err .dontFragment)

/-- **What one round does**: the endpoint is sent the packets for it, and the books are kept. -/
structure Round (pathMtu : ℕ) (packet : Bytes) (ssmFeedbackAllowed : Bool) (endpoint : SocketAddr)
    (state state' : Forwarding σ) (sends : List TunnelSend) : Prop where
  sent : Sent endpoint (packetsFor pathMtu endpoint packet) sends
  sends_eq : state'.sends = state.sends ++ sends
  mtuDrops_eq : state'.mtuDrops =
    state.mtuDrops + if droppedAt pathMtu packet endpoint sends then 1 else 0
  feedback_of_dropped : ssmFeedbackAllowed = true → DroppedForSize pathMtu packet endpoint →
    state'.feedbackMtu = some (state.feedbackMtu.elim (tunnelMtu pathMtu endpoint)
      fun current => min current (tunnelMtu pathMtu endpoint))
  feedback_of_not : ¬ (ssmFeedbackAllowed = true ∧ DroppedForSize pathMtu packet endpoint) →
    state'.feedbackMtu = state.feedbackMtu

section Rounds

variable {ssmFeedbackAllowed : Bool} {endpoint : SocketAddr} {state state' : Forwarding σ}
  {sends : List TunnelSend}

/-- A packet that fits is sent whole, and nothing is dropped. -/
theorem round_of_fits (hfits : packet.length ≤ tunnelMtu pathMtu endpoint)
    (hsent : Sent endpoint [packet] sends) (hsends : state'.sends = state.sends ++ sends)
    (hdrops : state'.mtuDrops = state.mtuDrops)
    (hfeedback : state'.feedbackMtu = state.feedbackMtu) :
    Round pathMtu packet ssmFeedbackAllowed endpoint state state' sends := by
  have hkept : ¬ (tunnelMtu pathMtu endpoint < packet.length) := not_lt.mpr hfits
  refine ⟨packetsFor_of_le hfits ▸ hsent, hsends, ?_, fun _ hdropped => ?_, fun _ => hfeedback⟩
  · rw [hdrops, droppedAt, decide_eq_false hkept]
    rfl
  · exact absurd hdropped.1 hkept

/-- A packet that is cut is dropped if one of its fragments is not taken, and the source is not
told. -/
theorem round_of_fragments (hlarge : tunnelMtu pathMtu endpoint < packet.length)
    {packets : List Bytes}
    (hok : fragmentIpv4ForTunnel packet (tunnelMtu pathMtu endpoint) = .ok packets)
    (hversion : ¬ NotIpv4 packet) (hsent : Sent endpoint packets sends)
    (hsends : state'.sends = state.sends ++ sends)
    (hdrops : state'.mtuDrops =
      state.mtuDrops + if sends.all fun send => send.sent then 0 else 1)
    (hfeedback : state'.feedbackMtu = state.feedbackMtu) :
    Round pathMtu packet ssmFeedbackAllowed endpoint state state' sends := by
  have hnot : ¬ DroppedForSize pathMtu packet endpoint := by
    rintro ⟨-, hother | herr⟩
    · exact hversion hother
    · rw [hok] at herr
      cases herr
  have hsome : packetsFor pathMtu endpoint packet ≠ [] := by
    rw [packetsFor_of_lt hlarge hok]
    exact (isFragmentation_of_eq_ok hok).1
  refine ⟨packetsFor_of_lt hlarge hok ▸ hsent, hsends, ?_,
    fun _ hdropped => absurd hdropped hnot, fun _ => hfeedback⟩
  rw [hdrops, droppedAt, decide_eq_true hlarge, decide_eq_false hsome, Bool.true_and,
    Bool.false_or]
  cases sends.all fun send => send.sent <;> rfl

/-- A packet that is not cut is dropped, and the source is told if it can do something. -/
theorem round_of_drop (hlarge : tunnelMtu pathMtu endpoint < packet.length)
    {error : Ipv4FragmentError}
    (herr : fragmentIpv4ForTunnel packet (tunnelMtu pathMtu endpoint) = .err error)
    {prepared : PreparedTunnelData}
    (hasks : prepared.requiresPmtuFeedback = true ↔ NotIpv4 packet ∨ error = .dontFragment)
    {cached : Forwarding σ} (hsends : cached.sends = state.sends)
    (hdrops : cached.mtuDrops = state.mtuDrops)
    (hfeedback : cached.feedbackMtu = state.feedbackMtu) :
    Round pathMtu packet ssmFeedbackAllowed endpoint state
      (cached.recordDrop prepared ssmFeedbackAllowed (tunnelMtu pathMtu endpoint)) [] := by
  have hempty := packetsFor_of_err hlarge herr
  have hdropped : DroppedForSize pathMtu packet endpoint ↔
      prepared.requiresPmtuFeedback = true := by
    rw [hasks, DroppedForSize, herr, Outcome.err.injEq]
    exact and_iff_right hlarge
  refine ⟨?_, ?_, ?_, fun hallowed hdrop => ?_, fun hnot => ?_⟩
  · rw [hempty]
    exact .nil
  · rw [List.append_nil]
    exact hsends
  · rw [droppedAt, decide_eq_true hlarge, decide_eq_true hempty]
    exact congrArg (· + 1) hdrops
  · rw [Forwarding.recordDrop, hallowed, hdropped.mp hdrop, ← hfeedback]
    rfl
  · rw [hdropped, ← Bool.and_eq_true] at hnot
    rw [Forwarding.recordDrop, if_neg hnot]
    exact hfeedback

end Rounds

/-- **One round**, whatever the packet is. -/
theorem forwardToEndpoint_spec (packet : Bytes) (hmtu : 1280 ≤ pathMtu)
    (ssmFeedbackAllowed : Bool) {state : Forwarding σ} (hcached : state.Cached packet pathMtu)
    (endpoint : SocketAddr) :
    ∃ state' sends,
      forwardToEndpoint socket relay pathMtu ssmFeedbackAllowed
          (encode (.multicastData packet)) packet state endpoint = .ok state' ∧
      state'.Cached packet pathMtu ∧
      Round pathMtu packet ssmFeedbackAllowed endpoint state state' sends := by
  unfold forwardToEndpoint
  rcases le_or_gt packet.length (tunnelMtu pathMtu endpoint) with hfits | hlarge
  · obtain ⟨ecn, hecn, hkind⟩ := exists_tunnelEcn relay packet (socket.now state.socket) endpoint
    obtain ⟨next, sent, hsend⟩ := exists_sendTunnelDatagram socket state
      (encode (.multicastData packet)) endpoint ecn.1
    rw [if_pos hfits, hecn, Outcome.bind_ok, hsend]
    cases sent with
    | false =>
        exact ⟨_, _, rfl, hcached.of_preparedOuter rfl,
          round_of_fits hfits (.failed hkind) rfl rfl rfl⟩
    | true =>
        exact ⟨_, _, rfl, hcached.of_preparedOuter rfl,
          round_of_fits hfits (.sent hkind .nil) rfl rfl rfl⟩
  · obtain ⟨prepared, hprepared, hkind⟩ :=
      exists_prepareOversized packet (le_tunnelMtu hmtu endpoint)
    obtain ⟨cached, hget, hcached, hsends, hdrops, hfeedback⟩ :=
      hcached.exists_getOrPrepare hprepared
    rw [if_neg (not_le.mpr hlarge), hget, Outcome.bind_ok]
    rcases hkind with ⟨packets, hok, hversion, rfl⟩ | ⟨hnone, error, herr, hasks⟩
    · obtain ⟨state', sends, hrun, hadded, hsent, hbooks⟩ :=
        sendFragments_spec socket relay endpoint packets cached
      obtain ⟨hslots, hsame, hdrop, hkept⟩ :=
        state'.recordFragments_eq (sends.all fun send => send.sent)
      refine ⟨state'.recordFragments (sends.all fun send => send.sent), sends, ?_,
        hcached.of_preparedOuter (hslots.trans hbooks.preparedOuter_eq),
        round_of_fragments hlarge hok hversion hsent ?_ ?_ ?_⟩
      · simp only [hrun, Outcome.bind_ok, Outcome.pure_eq_ok]
      · rw [hsame, hadded, hsends]
      · rw [hdrop, hbooks.mtuDrops_eq, hdrops]
      · rw [hkept, hbooks.feedbackMtu_eq, hfeedback]
    · refine ⟨cached.recordDrop prepared ssmFeedbackAllowed (tunnelMtu pathMtu endpoint), [], ?_,
        hcached.of_preparedOuter rfl, round_of_drop hlarge herr hasks hsends hdrops hfeedback⟩
      cases prepared with
      | packets fragments => exact absurd rfl (hnone fragments)
      | drop | dropIpv6 => rfl

/-- **A run of the loop**: one round for each endpoint. -/
inductive Rounds (pathMtu : ℕ) (packet : Bytes) (ssmFeedbackAllowed : Bool) :
    List SocketAddr → Forwarding σ → Forwarding σ → List (List TunnelSend) → Prop
  | nil {state : Forwarding σ} : Rounds pathMtu packet ssmFeedbackAllowed [] state state []
  | cons {endpoint : SocketAddr} {endpoints : List SocketAddr} {state next state' : Forwarding σ}
      {sends : List TunnelSend} {rest : List (List TunnelSend)}
      (hround : Round pathMtu packet ssmFeedbackAllowed endpoint state next sends)
      (hrest : Rounds pathMtu packet ssmFeedbackAllowed endpoints next state' rest) :
      Rounds pathMtu packet ssmFeedbackAllowed (endpoint :: endpoints) state state' (sends :: rest)

/-- **The loop over the endpoints** does one round after the other. -/
theorem forwardToEndpoints_spec (packet : Bytes) (hmtu : 1280 ≤ pathMtu)
    (ssmFeedbackAllowed : Bool) (endpoints : List SocketAddr)
    {state : Forwarding σ} (hcached : state.Cached packet pathMtu) :
    ∃ state' sends,
      forwardToEndpoints socket relay pathMtu ssmFeedbackAllowed
          (encode (.multicastData packet)) packet endpoints state = .ok state' ∧
      Rounds pathMtu packet ssmFeedbackAllowed endpoints state state' sends := by
  induction endpoints generalizing state with
  | nil => exact ⟨state, [], rfl, .nil⟩
  | cons endpoint endpoints ih =>
      obtain ⟨next, sends, hstep, hcached, hround⟩ :=
        forwardToEndpoint_spec socket relay packet hmtu ssmFeedbackAllowed hcached endpoint
      obtain ⟨state', rest, hrun, hrounds⟩ := ih hcached
      refine ⟨state', sends :: rest, ?_, .cons hround hrounds⟩
      rw [forwardToEndpoints, hstep, Outcome.bind_ok, hrun]

namespace Rounds

variable {ssmFeedbackAllowed : Bool} {endpoints : List SocketAddr} {state state' : Forwarding σ}
  {sends : List (List TunnelSend)}

theorem sends_eq (h : Rounds pathMtu packet ssmFeedbackAllowed endpoints state state' sends) :
    state'.sends = state.sends ++ sends.flatten := by
  induction h with
  | nil => exact (List.append_nil _).symm
  | cons hround hrest ih => rw [ih, hround.sends_eq, List.append_assoc, List.flatten_cons]

theorem endpoint_mem (h : Rounds pathMtu packet ssmFeedbackAllowed endpoints state state' sends)
    {send : TunnelSend} (hmem : send ∈ sends.flatten) : send.endpoint ∈ endpoints := by
  induction h with
  | nil => cases hmem
  | cons hround hrest ih =>
      rw [List.flatten_cons, List.mem_append] at hmem
      rcases hmem with hown | hother
      · rw [hround.sent.endpoint_eq send hown]
        exact List.mem_cons_self
      · exact List.mem_cons_of_mem _ (ih hother)

/-- **Of all sends, an endpoint's round made its own**, as no endpoint has two rounds. -/
theorem eq_map_filter (h : Rounds pathMtu packet ssmFeedbackAllowed endpoints state state' sends)
    (hnodup : endpoints.Nodup) :
    sends = endpoints.map fun endpoint =>
      sends.flatten.filter fun send => send.endpoint = endpoint := by
  induction h with
  | nil => rfl
  | @cons first endpoints _ _ _ own rest hround hrest ih =>
      obtain ⟨hfirst, hnodup⟩ := List.nodup_cons.mp hnodup
      have hkeep : own.filter (fun send => send.endpoint = first) = own :=
        List.filter_eq_self.mpr fun send hsend =>
          decide_eq_true (hround.sent.endpoint_eq send hsend)
      have hothers : rest.flatten.filter (fun send => send.endpoint = first) = [] := by
        refine List.filter_eq_nil_iff.mpr fun send hsend => ?_
        rw [decide_eq_true_eq]
        exact fun heq => hfirst (heq ▸ hrest.endpoint_mem hsend)
      rw [List.map_cons, List.flatten_cons, List.filter_append, hkeep, hothers, List.append_nil]
      refine congrArg (own :: ·) ((ih hnodup).trans (List.map_congr_left fun endpoint hmem => ?_))
      have hdrop : own.filter (fun send => send.endpoint = endpoint) = [] := by
        refine List.filter_eq_nil_iff.mpr fun send hsend => ?_
        rw [decide_eq_true_eq, hround.sent.endpoint_eq send hsend]
        exact fun heq => hfirst (heq ▸ hmem)
      rw [List.filter_append, hdrop, List.nil_append]

/-- Every endpoint is sent the packets for it. -/
theorem forall₂_sent (h : Rounds pathMtu packet ssmFeedbackAllowed endpoints state state' sends) :
    List.Forall₂ (fun endpoint => Sent endpoint (packetsFor pathMtu endpoint packet))
      endpoints sends := by
  induction h with
  | nil => exact .nil
  | cons hround hrest ih => exact .cons hround.sent ih

/-- **What was sent to an endpoint.** -/
theorem sent_filter (h : Rounds pathMtu packet ssmFeedbackAllowed endpoints state state' sends)
    (hnodup : endpoints.Nodup) {endpoint : SocketAddr} (hmem : endpoint ∈ endpoints) :
    Sent endpoint (packetsFor pathMtu endpoint packet)
      (sends.flatten.filter fun send => send.endpoint = endpoint) := by
  have hsent := h.forall₂_sent
  rw [h.eq_map_filter hnodup, List.forall₂_map_right_iff, List.forall₂_same] at hsent
  exact hsent endpoint hmem

end Rounds

end Spec

theorem RelayState.matchingEndpoints_nodup (state : RelayState) (source group : IpAddr) :
    (state.matchingEndpoints source group).Nodup := by
  unfold RelayState.matchingEndpoints
  split
  · exact List.nodup_nil
  · exact (BTreeSet.toList_nodup _).filter _

/-- **What the relay does with a captured datagram**, whatever its bytes are and whatever the
socket makes of the sends: it is normalised, and one round is made for every endpoint that
wants it. -/
theorem exists_rounds {σ : Type} (socket : TunnelSocket σ) (relay : Relay) {pathMtu : ℕ}
    (hmtu : 1280 ≤ pathMtu) (captured : UpstreamDatagram) (start : σ) :
    ∃ packet result sends,
      (captured.normalizedDatagram : Outcome Empty Bytes) = .ok packet ∧
      drainUpstreamDatagram socket relay pathMtu start captured = .ok result ∧
      Rounds pathMtu packet (relay.state.hasSsmInterest captured.source captured.group)
        (relay.state.matchingEndpoints captured.source captured.group) (.start start) result
        sends := by
  obtain ⟨packet, hpacket, hembedded⟩ := exists_normalize (ε := Empty) captured.datagram
  have hresponse : captured.normalizedAmtDatagram
      = (.ok (encode (.multicastData packet)) : Outcome Empty Bytes) := hembedded _ _
  cases hempty : (relay.state.matchingEndpoints captured.source captured.group).isEmpty with
  | true =>
      refine ⟨packet, .start start, [], hpacket, if_pos hempty, ?_⟩
      rw [List.isEmpty_iff.mp hempty]
      exact .nil
  | false =>
      obtain ⟨result, sends, hrun, hrounds⟩ := forwardToEndpoints_spec socket relay packet hmtu
        (relay.state.hasSsmInterest captured.source captured.group)
        (relay.state.matchingEndpoints captured.source captured.group)
        (Forwarding.Cached.start start)
      refine ⟨packet, result, sends, hpacket, ?_, hrounds⟩
      simp only [drainUpstreamDatagram, hempty, Bool.false_eq_true, if_false]
      rw [hresponse, Outcome.bind_ok, sliceFrom_encode_multicastData, Outcome.bind_ok]
      exact hrun

theorem Rounds.sent_sendsTo {σ : Type} {relay : Relay} {pathMtu : ℕ} {packet : Bytes}
    {ssmFeedbackAllowed : Bool} {source group : IpAddr} {start : σ} {result : Forwarding σ}
    {sends : List (List TunnelSend)}
    (h : Rounds pathMtu packet ssmFeedbackAllowed (relay.state.matchingEndpoints source group)
      (.start start) result sends) {endpoint : SocketAddr}
    (hmem : endpoint ∈ relay.state.matchingEndpoints source group) :
    Sent endpoint (packetsFor pathMtu endpoint packet) (result.sendsTo endpoint) := by
  rw [Forwarding.sendsTo, h.sends_eq]
  exact h.sent_filter (relay.state.matchingEndpoints_nodup source group) hmem

/-- A packet for an endpoint is a datagram with the addresses of the whole. -/
theorem multicastDatagram_of_mem_packetsFor {packet : Bytes} {source group : IpAddr} {pathMtu : ℕ}
    (h : MulticastDatagram packet source group) (hmtu : 1280 ≤ pathMtu) {endpoint : SocketAddr} :
    ∀ sent ∈ packetsFor pathMtu endpoint packet, MulticastDatagram sent source group := by
  intro sent hmem
  rcases le_or_gt packet.length (tunnelMtu pathMtu endpoint) with hfits | hlarge
  · rw [packetsFor_of_le hfits, List.mem_singleton] at hmem
    rw [hmem]
    exact h
  have hroom := le_tunnelMtu hmtu endpoint
  cases h with
  | v4 hdatagram haddresses =>
      rcases fragmentIpv4ForTunnel_cases hdatagram.toIsSized hroom hlarge with
        ⟨-, hok⟩ | ⟨-, error, herr⟩
      · rw [packetsFor_of_lt hlarge hok] at hmem
        obtain ⟨start, hstart, rfl⟩ := List.mem_map.mp hmem
        have hlt := ((mem_chunkStarts_iff (maxPayloadFor_pos hroom)).mp hstart).2
        exact .v4 (hdatagram.toIsSized.fragmentHeader _ hlt.le) haddresses
      · rw [packetsFor_of_err hlarge herr] at hmem
        cases hmem
  | v6 hdatagram haddresses =>
      obtain ⟨error, herr⟩ := hdatagram.fragmentIpv4ForTunnel (tunnelMtu pathMtu endpoint)
      rw [packetsFor_of_err hlarge herr] at hmem
      cases hmem

/-- **What the relay sends for a captured datagram** with valid addresses. -/
theorem drainUpstreamDatagram_spec {σ : Type} (socket : TunnelSocket σ) (relay : Relay)
    {pathMtu : ℕ} (hmtu : 1280 ≤ pathMtu) {datagram : Bytes} {source group : IpAddr}
    (hparse : parseDatagramAddresses datagram = .ok (source, group))
    (haddresses : validMulticastAddresses source group = true) (start : σ) :
    ∃ packet result, MulticastDatagram packet source group ∧
      (normalizeForwardedDatagram datagram : Outcome Empty Bytes) = .ok packet ∧
      drainUpstreamDatagram socket relay pathMtu start ⟨source, group, datagram⟩ = .ok result ∧
      ∀ endpoint ∈ relay.state.matchingEndpoints source group,
        Sent endpoint (packetsFor pathMtu endpoint packet) (result.sendsTo endpoint) := by
  obtain ⟨packet, result, sends, hnormalize, hrun, hrounds⟩ :=
    exists_rounds socket relay hmtu ⟨source, group, datagram⟩ start
  obtain ⟨found, hpacket, hfound, -⟩ := (captured_of_parse hparse).exists_normalize (ε := Empty)
    (validMulticastAddresses_iff.mp haddresses)
  obtain rfl := Outcome.ok.inj (hfound.symm.trans hnormalize)
  exact ⟨_, result, hpacket, hnormalize, hrun, fun endpoint hmem => hrounds.sent_sendsTo hmem⟩

/-! ## The gateway's side -/

namespace Gateway

/-- The gateway hands out the packet for the datagram, with the outer ECN field as it was
sent. -/
def Delivers (gateway : Gateway) (relay : SocketAddr) (send : TunnelSend) (packet : Bytes) :
    Prop :=
  ∃ ecn, gateway.handleDatagramWithEcn relay send.datagram send.ecn
    = (gateway, .ok (.multicastData packet ecn))

variable {gateway : Gateway} {relay : SocketAddr} {packet : Bytes} {source group : IpAddr}

/-- An outer ECN field that was copied out, or none, changes nothing. -/
theorem exists_deliver (gateway : Gateway) (h : MulticastDatagram packet source group)
    {ecn : EcnCodepoint} (hecn : ecn = .notEct ∨ ipEcn packet = .ok ecn) :
    ∃ report, gateway.deliver packet ecn = .ok (.multicastData packet report) := by
  unfold deliver
  split
  · obtain ⟨inner, hinner⟩ := h.exists_ipEcn
    have houter : ecn = inner ∨ ecn = .notEct := by
      rcases hecn with hnone | hcopied
      · exact .inr hnone
      · exact .inl (Outcome.ok.inj (hcopied.symm.trans hinner))
    rw [decapsulateEcn_of_outer hinner houter]
    exact ⟨_, rfl⟩
  · exact ⟨none, rfl⟩

/-- **A wanted packet of the selected relay is handed out unchanged.** -/
theorem delivers_of_interested (hrelay : gateway.relayEndpoint = some relay)
    (hsession : gateway.session.isSome = true)
    (hinterested : gateway.interested source group = true)
    (h : MulticastDatagram packet source group) {endpoint : SocketAddr} {ecn : EcnCodepoint}
    (hecn : ecn = .notEct ∨ ipEcn packet = .ok ecn) (sent : Bool) :
    gateway.Delivers relay ⟨encode (.multicastData packet), endpoint, ecn, sent⟩ packet := by
  obtain ⟨parsed, hparse, rfl, rfl⟩ := h.exists_parse
  obtain ⟨report, hdeliver⟩ := exists_deliver gateway h hecn
  have hpeer : ¬ relay ≠ gateway.relayEndpoint.getD gateway.config.relay := by
    rw [hrelay]
    exact not_not.mpr rfl
  have hnone : ¬ gateway.session.isNone = true := by
    rw [Option.isNone_iff_eq_none]
    exact Option.isSome_iff_ne_none.mp hsession
  refine ⟨report, ?_⟩
  rw [handleDatagramWithEcn, if_neg hpeer, decode_encode]
  change gateway.handleData packet ecn = _
  rw [handleData, if_neg (by rw [hrelay]; exact Bool.false_ne_true), if_neg hnone, hparse]
  change (if ¬ gateway.interested parsed.source parsed.group then _ else _) = _
  rw [if_neg (not_not.mpr hinterested), hdeliver]

end Gateway

namespace Sent

variable {endpoint : SocketAddr} {packets : List Bytes} {sends : List TunnelSend}

/-- **Every send is delivered**, as the packet that it is for. -/
theorem delivers {gateway : Gateway} {relay : SocketAddr} {source group : IpAddr}
    (h : Sent endpoint packets sends)
    (hpackets : ∀ packet ∈ packets, MulticastDatagram packet source group)
    (hrelay : gateway.relayEndpoint = some relay) (hsession : gateway.session.isSome = true)
    (hinterested : gateway.interested source group = true) :
    List.Forall₂ (gateway.Delivers relay) sends (packets.take sends.length) := by
  induction h with
  | nil => exact .nil
  | failed hecn =>
      have hpacket := hpackets _ List.mem_cons_self
      exact .cons (Gateway.delivers_of_interested hrelay hsession hinterested hpacket hecn _) .nil
  | sent hecn hrest ih =>
      have hpacket := hpackets _ List.mem_cons_self
      exact .cons (Gateway.delivers_of_interested hrelay hsession hinterested hpacket hecn _)
        (ih fun packet hmem => hpackets packet (List.mem_cons_of_mem _ hmem))

/-- Nothing is left out unless a send failed. -/
theorem length_eq (h : Sent endpoint packets sends) (hsent : ∀ send ∈ sends, send.sent = true) :
    sends.length = packets.length := by
  induction h with
  | nil => rfl
  | failed => exact absurd (hsent _ List.mem_cons_self) Bool.false_ne_true
  | sent hecn hrest ih =>
      rw [List.length_cons, List.length_cons,
        ih fun send hmem => hsent send (List.mem_cons_of_mem _ hmem)]

/-- A single packet is handed to the socket, whether it is taken or not. -/
theorem length_of_singleton {packet : Bytes} (h : Sent endpoint [packet] sends) :
    sends.length = 1 := by
  cases h with
  | failed => rfl
  | sent hecn hrest =>
      cases hrest
      rfl

end Sent

/-- A fragment has the header of the datagram, up to its length, its flags and offset, and
its checksum. -/
theorem Ipv4Header.exists_fragmentAt (header : Ipv4Header) (payload : Bytes)
    (maxPayload chunkStart : ℕ) :
    ∃ totalLen fragment checksum piece, header.fragmentAt payload maxPayload chunkStart =
      { header with totalLen, fragment, checksum }.bytes ++ piece :=
  ⟨_, _, _, _, rfl⟩

/-- **From the capture to the gateway.**  A captured datagram with valid addresses is
normalised and sent to every endpoint that wants it, over any socket and with ECN on or off
on either side.  A gateway that has selected the relay, has a session and wants the source
in the group hands out

* the normalised packet, exactly, if it fits the tunnel;
* each fragment, if it does not fit and can be cut: their headers are the packet's up to
  length, flags and offset, and checksum, and they give its payload back, in whatever order
  and however often they arrive.  Unless a send fails, no fragment is left out. -/
theorem drainUpstreamDatagram_delivers {σ : Type} (socket : TunnelSocket σ) (relay : Relay)
    {pathMtu : ℕ} (hmtu : 1280 ≤ pathMtu) {datagram : Bytes} {source group : IpAddr}
    (hparse : parseDatagramAddresses datagram = .ok (source, group))
    (haddresses : validMulticastAddresses source group = true) (start : σ) :
    ∃ packet result,
      (normalizeForwardedDatagram datagram : Outcome Empty Bytes) = .ok packet ∧
      drainUpstreamDatagram socket relay pathMtu start ⟨source, group, datagram⟩ = .ok result ∧
      ∀ endpoint ∈ relay.state.matchingEndpoints source group,
      ∀ (gateway : Gateway) (relayAddress : SocketAddr),
        gateway.relayEndpoint = some relayAddress → gateway.session.isSome = true →
        gateway.interested source group = true →
        (packet.length ≤ tunnelMtu pathMtu endpoint →
          List.Forall₂ (gateway.Delivers relayAddress) (result.sendsTo endpoint) [packet]) ∧
        ∀ (header : Ipv4Header) (payload : Bytes), packet = header.bytes ++ payload →
          header.IsDatagram payload → header.Fragmentable payload →
          tunnelMtu pathMtu endpoint < packet.length →
          ∃ fragments : List Bytes,
            List.Forall₂ (gateway.Delivers relayAddress) (result.sendsTo endpoint)
              (fragments.take (result.sendsTo endpoint).length) ∧
            ((∀ send ∈ result.sendsTo endpoint, send.sent = true) →
              (result.sendsTo endpoint).length = fragments.length) ∧
            (∀ sent ∈ fragments, ∃ totalLen fragment checksum piece,
              sent = { header with totalLen, fragment, checksum }.bytes ++ piece) ∧
            ∀ received : List Bytes, (∀ sent, sent ∈ received ↔ sent ∈ fragments) →
              reassemblePayload (fragmentOffset packet) received = payload := by
  obtain ⟨packet, result, hpacket, hnormalize, hrun, hsent⟩ :=
    drainUpstreamDatagram_spec socket relay hmtu hparse haddresses start
  refine ⟨packet, result, hnormalize, hrun, ?_⟩
  intro endpoint hmem gateway relayAddress hrelay hsession hinterested
  have hsent := hsent endpoint hmem
  have hdelivers := hsent.delivers (multicastDatagram_of_mem_packetsFor hpacket hmtu) hrelay
    hsession hinterested
  refine ⟨?_, ?_⟩
  · intro hfits
    rw [packetsFor_of_le hfits] at hsent hdelivers
    rw [hsent.length_of_singleton] at hdelivers
    exact hdelivers
  · rintro header payload rfl hdatagram hcut hlarge
    have hroom := le_tunnelMtu hmtu endpoint
    obtain ⟨-, hok⟩ | ⟨hnot, -⟩ := fragmentIpv4ForTunnel_cases hdatagram.toIsSized hroom hlarge
    swap
    · exact absurd hcut hnot
    rw [packetsFor_of_lt hlarge hok] at hsent hdelivers
    refine ⟨_, hdelivers, hsent.length_eq, ?_, ?_⟩
    · intro sent hsent
      obtain ⟨chunkStart, -, rfl⟩ := List.mem_map.mp hsent
      exact header.exists_fragmentAt payload _ chunkStart
    · intro received hreceived
      exact reassemblePayload_fragments hdatagram.toIsSized hcut (maxPayloadFor_pos hroom)
        (dvd_maxPayloadFor _ _) hreceived

/-! ### A datagram in two fragments -/

/-- A socket that takes everything. -/
def openSocket : TunnelSocket Unit where
  now _ := 0
  sendTo _ _ _ _ := ((), true)

/-- The sample tunnel, after a join. -/
def joinedTunnel : Tunnel :=
  Tunnel.sample.step Tunnel.zeroDigest Tunnel.samplePeer
    (.request (.join (.v4 (.new 232 1 1 1)) none) (some Tunnel.sampleEnv))

/-- The header of a datagram to `232.1.1.1` that does not fit a path MTU of 1280. -/
def longHeader : Ipv4Header :=
  Ipv4Header.withChecksum
    { versionIhl := 0x45, tos := 2, totalLen := 1420, ident := 7, fragment := 0, ttl := 9
      protocol := 253, checksum := 0, source := .new 198 51 100 1
      destination := .new 232 1 1 1, options := [] }

/-- More than a tunnel of the usual size takes. -/
def longPayload : Bytes := List.replicate 1400 0xaa

/-- The socket took every send to the endpoint. -/
def allTaken {σ : Type} (outcome : Outcome Empty (Forwarding σ)) (endpoint : SocketAddr) : Bool :=
  match outcome with
  | .ok result => (result.sendsTo endpoint).all fun send => send.sent
  | _ => false

theorem drainUpstreamDatagram_delivers_long :
    ∃ result, drainUpstreamDatagram openSocket joinedTunnel.relay 1280 ()
        ⟨.v4 longHeader.source, .v4 longHeader.destination, longHeader.bytes ++ longPayload⟩
          = .ok result ∧
      ∃ fragments : List Bytes,
        List.Forall₂ (joinedTunnel.gateway.Delivers joinedTunnel.relay.config.bind)
          (result.sendsTo Tunnel.samplePeer) fragments ∧
        reassemblePayload (fragmentOffset (longHeader.bytes ++ longPayload)) fragments
          = longPayload := by
  have hparse : parseDatagramAddresses (longHeader.bytes ++ longPayload)
      = .ok (.v4 longHeader.source, .v4 longHeader.destination) := by decide +kernel
  have hnormalized : (normalizeForwardedDatagram (longHeader.bytes ++ longPayload) :
      Outcome Empty Bytes) = .ok (longHeader.bytes ++ longPayload) := by decide +kernel
  have hdatagram : longHeader.IsDatagram longPayload :=
    ⟨⟨by decide +kernel, by decide +kernel, by decide +kernel⟩, by decide +kernel⟩
  have hcut : longHeader.Fragmentable longPayload :=
    ⟨by decide +kernel, by decide +kernel, by decide +kernel, by decide +kernel⟩
  obtain ⟨packet, result, hpacket, hrun, hdelivers⟩ := drainUpstreamDatagram_delivers openSocket
    joinedTunnel.relay (le_refl 1280) hparse (by decide +kernel) ()
  obtain rfl := Outcome.ok.inj (hpacket.symm.trans hnormalized)
  obtain ⟨-, hfragments⟩ := hdelivers Tunnel.samplePeer (by decide +kernel) joinedTunnel.gateway
    joinedTunnel.relay.config.bind (by decide +kernel) (by decide +kernel) (by decide +kernel)
  obtain ⟨fragments, hall, hlength, -, hback⟩ := hfragments longHeader longPayload rfl hdatagram
    hcut (by decide +kernel)
  have hsent : (result.sendsTo Tunnel.samplePeer).all (fun send => send.sent) = true := by
    have htaken : allTaken (drainUpstreamDatagram openSocket joinedTunnel.relay 1280 ()
        ⟨.v4 longHeader.source, .v4 longHeader.destination, longHeader.bytes ++ longPayload⟩)
          Tunnel.samplePeer = true := by decide +kernel
    rw [hrun] at htaken
    exact htaken
  rw [hlength (List.all_eq_true.mp hsent), List.take_length] at hall
  exact ⟨result, hrun, fragments, hall, hback fragments fun _ => Iff.rfl⟩

end Amt

import Amt.Forward

/-!
# The path MTU of the relay

The tunnel socket sets DF on what it sends, so that a datagram that is too large for the path
is lost.  The relay therefore cuts every packet to the tunnel MTU of the endpoint: the path
MTU that it was configured with, less the outer headers.

* **The budget** (`Sent.within`): what is handed to the socket for an endpoint is a Multicast
  Data message of a packet of at most the tunnel MTU, which with the outer IP header and the
  UDP header is at most the path MTU.
* **The drops** (`Rounds.mtuDrops_eq`): the counter counts the endpoints that were sent nothing,
  or not all of the fragments.
* **The feedback** (`Feedback`): a running minimum over the endpoints that were dropped for the
  size of the packet alone.  It is an invariant of the rounds (`Round.feedback`), whatever the
  order of the endpoints and the mix of their families.

`drainUpstreamDatagram_within_path` puts these together for an arbitrary captured datagram,
under any path MTU that the configuration accepts.
-/

namespace Amt

open Outcome (ensure)

/-- `validate_path_mtu`, with its message. -/
def validatePathMtu (pathMtu : ℕ) : Outcome String Unit :=
  ensure (1280 ≤ pathMtu ∧ pathMtu ≤ 65535)
    "relay path MTU must be between 1280 and 65535 bytes"

/-! ## The budget -/

section Budget

variable {pathMtu : ℕ} {packet : Bytes} {endpoint : SocketAddr}

/-- A packet for an endpoint fits the tunnel to it. -/
theorem length_le_of_mem_packetsFor :
    ∀ sent ∈ packetsFor pathMtu endpoint packet, sent.length ≤ tunnelMtu pathMtu endpoint := by
  intro sent hmem
  rcases le_or_gt packet.length (tunnelMtu pathMtu endpoint) with hfits | hlarge
  · rw [packetsFor_of_le hfits, List.mem_singleton] at hmem
    rw [hmem]
    exact hfits
  · rw [packetsFor, if_neg (not_le.mpr hlarge)] at hmem
    split at hmem
    · rename_i fragments hok
      exact (isFragmentation_of_eq_ok hok).2.1 sent hmem
    · cases hmem

theorem Sent.exists_packet {packets : List Bytes} {sends : List TunnelSend}
    (h : Sent endpoint packets sends) :
    ∀ send ∈ sends, ∃ packet ∈ packets, send.datagram = encode (.multicastData packet) := by
  induction h with
  | nil => simp
  | failed =>
      intro send hmem
      rw [List.mem_singleton.mp hmem]
      exact ⟨_, List.mem_cons_self, rfl⟩
  | sent hecn hrest ih =>
      intro send hmem
      rcases List.mem_cons.mp hmem with rfl | hmem
      · exact ⟨_, List.mem_cons_self, rfl⟩
      · obtain ⟨packet, hpacket, hdatagram⟩ := ih send hmem
        exact ⟨packet, List.mem_cons_of_mem _ hpacket, hdatagram⟩

/-- **A datagram on the path** is at most as long as the path MTU. -/
theorem Sent.within {sends : List TunnelSend} (hmtu : 1280 ≤ pathMtu)
    (h : Sent endpoint (packetsFor pathMtu endpoint packet) sends) :
    ∀ send ∈ sends, outerIpHeader endpoint + 8 + send.datagram.length ≤ pathMtu := by
  intro send hmem
  obtain ⟨sent, hsent, hdatagram⟩ := h.exists_packet send hmem
  have hlength : send.datagram.length = sent.length + 2 := by
    rw [hdatagram]
    rfl
  have hfits := length_le_of_mem_packetsFor sent hsent
  have houter := outerIpHeader_le endpoint
  rw [tunnelMtu] at hfits
  omega

/-- **The three outcomes for an endpoint**: the packet, its fragments, or nothing and a drop. -/
theorem Sent.cases_packetsFor {sends : List TunnelSend}
    (h : Sent endpoint (packetsFor pathMtu endpoint packet) sends) :
    (packet.length ≤ tunnelMtu pathMtu endpoint ∧ Sent endpoint [packet] sends) ∨
    (tunnelMtu pathMtu endpoint < packet.length ∧
      ∃ fragments, fragmentIpv4ForTunnel packet (tunnelMtu pathMtu endpoint) = .ok fragments ∧
        Sent endpoint fragments sends) ∨
    (sends = [] ∧ droppedAt pathMtu packet endpoint sends = true) := by
  rcases le_or_gt packet.length (tunnelMtu pathMtu endpoint) with hfits | hlarge
  · rw [packetsFor_of_le hfits] at h
    exact .inl ⟨hfits, h⟩
  · by_cases hcut : ∃ fragments,
        fragmentIpv4ForTunnel packet (tunnelMtu pathMtu endpoint) = .ok fragments
    · obtain ⟨fragments, hok⟩ := hcut
      rw [packetsFor_of_lt hlarge hok] at h
      exact .inr (.inl ⟨hlarge, fragments, hok, h⟩)
    · have hempty : packetsFor pathMtu endpoint packet = [] := by
        rw [packetsFor, if_neg (not_le.mpr hlarge)]
        split
        · rename_i fragments hok
          exact absurd ⟨fragments, hok⟩ hcut
        · rfl
      rw [hempty] at h
      cases h
      refine .inr (.inr ⟨rfl, ?_⟩)
      rw [droppedAt, decide_eq_true hlarge, decide_eq_true hempty]
      rfl

end Budget

/-! ## The drops -/

section Rounds

variable {σ : Type} {pathMtu : ℕ} {packet : Bytes} {ssmFeedbackAllowed : Bool}
  {endpoints : List SocketAddr} {state state' : Forwarding σ} {sends : List (List TunnelSend)}

/-- **The drop counter** counts the endpoints that were not sent everything for them. -/
theorem Rounds.mtuDrops_eq
    (h : Rounds pathMtu packet ssmFeedbackAllowed endpoints state state' sends) :
    state'.mtuDrops = state.mtuDrops +
      (endpoints.zip sends).countP fun round => droppedAt pathMtu packet round.1 round.2 := by
  induction h with
  | nil => rfl
  | cons hround hrest ih =>
      rw [ih, hround.mtuDrops_eq, List.zip_cons_cons, List.countP_cons]
      dsimp only
      omega

theorem Rounds.mtuDrops_eq_countP
    (h : Rounds pathMtu packet ssmFeedbackAllowed endpoints state state' sends)
    (hnodup : endpoints.Nodup) (hsends : state.sends = []) (hdrops : state.mtuDrops = 0) :
    state'.mtuDrops = endpoints.countP fun endpoint =>
      droppedAt pathMtu packet endpoint (state'.sendsTo endpoint) := by
  have hflatten : state'.sends = sends.flatten := by
    rw [h.sends_eq, hsends, List.nil_append]
  have hown : sends = endpoints.map state'.sendsTo := by
    refine (h.eq_map_filter hnodup).trans (List.map_congr_left fun endpoint _ => ?_)
    rw [Forwarding.sendsTo, hflatten]
  rw [h.mtuDrops_eq, hdrops, Nat.zero_add, hown, ← List.map_prod_left_eq_zip, List.countP_map]
  rfl

/-! ## The feedback -/

variable (pathMtu packet ssmFeedbackAllowed) in
/-- **The feedback after some endpoints**: the least tunnel MTU of those that were dropped for
the size of the packet, if any was, and if feedback is allowed. -/
structure Feedback (processed : List SocketAddr) (feedback : Option ℕ) : Prop where
  none_dropped : ssmFeedbackAllowed = true → feedback = none →
    ∀ endpoint ∈ processed, ¬ DroppedForSize pathMtu packet endpoint
  allowed : ∀ mtu, feedback = some mtu → ssmFeedbackAllowed = true
  attained : ∀ mtu, feedback = some mtu →
    ∃ endpoint ∈ processed, DroppedForSize pathMtu packet endpoint ∧
      tunnelMtu pathMtu endpoint = mtu
  least : ∀ mtu, feedback = some mtu →
    ∀ endpoint ∈ processed, DroppedForSize pathMtu packet endpoint →
      mtu ≤ tunnelMtu pathMtu endpoint

theorem Feedback.nil : Feedback pathMtu packet ssmFeedbackAllowed [] none :=
  ⟨by simp, by simp, by simp, by simp⟩

/-- **One round keeps the minimum.** -/
theorem Round.feedback {endpoint : SocketAddr} {own : List TunnelSend}
    (h : Round pathMtu packet ssmFeedbackAllowed endpoint state state' own)
    {processed : List SocketAddr}
    (hfeedback : Feedback pathMtu packet ssmFeedbackAllowed processed state.feedbackMtu) :
    Feedback pathMtu packet ssmFeedbackAllowed (processed ++ [endpoint]) state'.feedbackMtu := by
  by_cases hdrop : ssmFeedbackAllowed = true ∧ DroppedForSize pathMtu packet endpoint
  · rw [h.feedback_of_dropped hdrop.1 hdrop.2]
    cases hcurrent : state.feedbackMtu with
    | none =>
        -- the first endpoint that is dropped sets the minimum
        have hnone := hfeedback.none_dropped hdrop.1 hcurrent
        refine ⟨by rintro _ ⟨⟩, fun _ _ => hdrop.1, ?_, ?_⟩
        · rintro _ ⟨⟩
          exact ⟨endpoint, by simp, hdrop.2, rfl⟩
        · rintro _ ⟨⟩ other hother hdropped
          rcases List.mem_append.mp hother with hmem | hmem
          · exact absurd hdropped (hnone other hmem)
          · rw [List.mem_singleton.mp hmem]
            exact le_refl _
    | some current =>
        obtain ⟨found, hfound, hdropped, rfl⟩ := hfeedback.attained current hcurrent
        refine ⟨by rintro _ ⟨⟩, fun _ _ => hdrop.1, ?_, ?_⟩
        · rintro _ ⟨⟩
          rcases le_total (tunnelMtu pathMtu found) (tunnelMtu pathMtu endpoint) with hle | hle
          · exact ⟨found, List.mem_append_left _ hfound, hdropped, (min_eq_left hle).symm⟩
          · exact ⟨endpoint, by simp, hdrop.2, (min_eq_right hle).symm⟩
        · rintro _ ⟨⟩ other hother hdropped
          rcases List.mem_append.mp hother with hmem | hmem
          · exact (min_le_left _ _).trans (hfeedback.least _ hcurrent other hmem hdropped)
          · rw [List.mem_singleton.mp hmem]
            exact min_le_right _ _
  · rw [h.feedback_of_not hdrop]
    have hnot : ssmFeedbackAllowed = true → ¬ DroppedForSize pathMtu packet endpoint :=
      fun hallowed hdropped => hdrop ⟨hallowed, hdropped⟩
    refine ⟨?_, hfeedback.allowed, ?_, ?_⟩
    · intro hallowed hnone other hother
      rcases List.mem_append.mp hother with hmem | hmem
      · exact hfeedback.none_dropped hallowed hnone other hmem
      · rw [List.mem_singleton.mp hmem]
        exact hnot hallowed
    · intro mtu hsome
      obtain ⟨found, hfound, hdropped, heq⟩ := hfeedback.attained mtu hsome
      exact ⟨found, List.mem_append_left _ hfound, hdropped, heq⟩
    · intro mtu hsome other hother hdropped
      rcases List.mem_append.mp hother with hmem | hmem
      · exact hfeedback.least mtu hsome other hmem hdropped
      · rw [List.mem_singleton.mp hmem] at hdropped
        exact absurd hdropped (hnot (hfeedback.allowed mtu hsome))

theorem Rounds.feedback
    (h : Rounds pathMtu packet ssmFeedbackAllowed endpoints state state' sends)
    {processed : List SocketAddr}
    (hfeedback : Feedback pathMtu packet ssmFeedbackAllowed processed state.feedbackMtu) :
    Feedback pathMtu packet ssmFeedbackAllowed (processed ++ endpoints) state'.feedbackMtu := by
  induction h generalizing processed with
  | nil =>
      rw [List.append_nil]
      exact hfeedback
  | @cons endpoint endpoints _ _ _ _ _ hround hrest ih =>
      have hnext := ih (hround.feedback hfeedback)
      rwa [List.append_assoc, List.singleton_append] at hnext

end Rounds

/-- Feedback is allowed for a source that some endpoint has included. -/
theorem RelayState.exists_include_of_hasSsmInterest {state : RelayState} {source group : IpAddr}
    (h : state.hasSsmInterest source group = true) :
    ∃ endpoint interest, state.endpointInterest endpoint group = some interest ∧
      interest.mode = .Include ∧ interest.sources.contains source = true := by
  unfold RelayState.hasSsmInterest at h
  split at h
  · cases h
  · obtain ⟨endpoint, -, hany⟩ := List.any_eq_true.mp h
    cases hinterest : state.endpointInterest endpoint group with
    | none =>
        rw [hinterest] at hany
        cases hany
    | some interest =>
        rw [hinterest, Option.any_some, Bool.and_eq_true, decide_eq_true_eq] at hany
        exact ⟨endpoint, interest, hinterest, hany⟩

/-- **The relay keeps to the path MTU.**  Under every path MTU that the configuration accepts,
for every captured datagram, every relay and every socket, the run succeeds and

* every send is to an endpoint that wants the datagram, and with the outer IP header and the
  UDP header it is at most as long as the path MTU;
* each of these endpoints is sent the packet, once, if it fits the tunnel to it; or the
  fragments of the packet for its own tunnel MTU, in order, up to the first send that fails; or
  nothing, and it is counted as a drop;
* the drop counter is the number of endpoints that were not sent everything for them;
* feedback is asked for only if some endpoint has included the source, and some endpoint was
  dropped because the packet is not IPv4 or must not be cut, with the least tunnel MTU of the
  endpoints that were. -/
theorem drainUpstreamDatagram_within_path {σ : Type} (socket : TunnelSocket σ) (relay : Relay)
    {pathMtu : ℕ} (hvalid : validatePathMtu pathMtu = .ok ()) (captured : UpstreamDatagram)
    (start : σ) :
    ∃ packet result,
      (captured.normalizedDatagram : Outcome Empty Bytes) = .ok packet ∧
      drainUpstreamDatagram socket relay pathMtu start captured = .ok result ∧
      (∀ send ∈ result.sends,
        send.endpoint ∈ relay.state.matchingEndpoints captured.source captured.group ∧
        outerIpHeader send.endpoint + 8 + send.datagram.length ≤ pathMtu) ∧
      (∀ endpoint ∈ relay.state.matchingEndpoints captured.source captured.group,
        (packet.length ≤ tunnelMtu pathMtu endpoint ∧
          Sent endpoint [packet] (result.sendsTo endpoint)) ∨
        (tunnelMtu pathMtu endpoint < packet.length ∧
          ∃ fragments, fragmentIpv4ForTunnel packet (tunnelMtu pathMtu endpoint) = .ok fragments ∧
            Sent endpoint fragments (result.sendsTo endpoint)) ∨
        (result.sendsTo endpoint = [] ∧
          droppedAt pathMtu packet endpoint (result.sendsTo endpoint) = true)) ∧
      (result.mtuDrops = (relay.state.matchingEndpoints captured.source captured.group).countP
        fun endpoint => droppedAt pathMtu packet endpoint (result.sendsTo endpoint)) ∧
      ∀ mtu, result.feedbackMtu = some mtu →
        (∃ endpoint interest,
          relay.state.endpointInterest endpoint captured.group = some interest ∧
          interest.mode = .Include ∧ interest.sources.contains captured.source = true) ∧
        (∃ endpoint ∈ relay.state.matchingEndpoints captured.source captured.group,
          DroppedForSize pathMtu packet endpoint ∧ tunnelMtu pathMtu endpoint = mtu) ∧
        ∀ endpoint ∈ relay.state.matchingEndpoints captured.source captured.group,
          DroppedForSize pathMtu packet endpoint → mtu ≤ tunnelMtu pathMtu endpoint := by
  have hmtu : 1280 ≤ pathMtu := (Outcome.ensure_eq_ok_iff.mp hvalid).1
  obtain ⟨packet, result, sends, hpacket, hrun, hrounds⟩ :=
    exists_rounds socket relay hmtu captured start
  have hnodup := relay.state.matchingEndpoints_nodup captured.source captured.group
  refine ⟨packet, result, hpacket, hrun, ?_, ?_, ?_, ?_⟩
  · intro send hmem
    have hendpoint : send.endpoint ∈
        relay.state.matchingEndpoints captured.source captured.group := by
      rw [hrounds.sends_eq] at hmem
      exact hrounds.endpoint_mem hmem
    refine ⟨hendpoint, (hrounds.sent_sendsTo hendpoint).within hmtu send ?_⟩
    exact List.mem_filter.mpr ⟨hmem, decide_eq_true rfl⟩
  · intro endpoint hmem
    exact (hrounds.sent_sendsTo hmem).cases_packetsFor
  · exact hrounds.mtuDrops_eq_countP hnodup rfl rfl
  · intro mtu hsome
    have hfeedback := hrounds.feedback Feedback.nil
    rw [List.nil_append] at hfeedback
    exact ⟨RelayState.exists_include_of_hasSsmInterest (hfeedback.allowed mtu hsome),
      hfeedback.attained mtu hsome, hfeedback.least mtu hsome⟩

theorem drainUpstreamDatagram_within_path_long :
    validatePathMtu 1280 = .ok () ∧
    Tunnel.samplePeer ∈ joinedTunnel.relay.state.matchingEndpoints (.v4 longHeader.source)
      (.v4 longHeader.destination) ∧
    ∃ result, drainUpstreamDatagram openSocket joinedTunnel.relay 1280 ()
        ⟨.v4 longHeader.source, .v4 longHeader.destination, longHeader.bytes ++ longPayload⟩
          = .ok result ∧
      ∀ send ∈ result.sends, outerIpHeader send.endpoint + 8 + send.datagram.length ≤ 1280 := by
  have hvalid : validatePathMtu 1280 = .ok () := by decide
  obtain ⟨packet, result, -, hrun, hwithin, -⟩ := drainUpstreamDatagram_within_path openSocket
    joinedTunnel.relay hvalid
    ⟨.v4 longHeader.source, .v4 longHeader.destination, longHeader.bytes ++ longPayload⟩ ()
  exact ⟨hvalid, by decide +kernel, result, hrun, fun send hmem => (hwithin send hmem).2⟩

end Amt

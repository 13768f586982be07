import Amt.Pmtu

/-!
# What the walk over the extension headers finds

`ipv6_upper_layer` follows the next-header bytes of a packet for at most sixteen rounds.  The
bytes come from the sender of the packet, and the answer decides whether an ICMP error may be
sent: it has to agree with the layout that the packet itself describes.

* **The layout** is a grammar: `ExtensionHeader` is one header inside the packet, with the unit
  of its own length field, and `ExtensionChain` a sequence of them, each where the one before it
  ends.
* **One round** (`ExtensionHeader.ipv6UpperLayerFrom_succ`) stops at an upper layer or passes one
  extension header.
* **The walk** reads a chain to its end if it has rounds enough, and nothing otherwise
  (`ExtensionChain.ipv6UpperLayerFrom`); what it returns is the end of a chain
  (`exists_chain_of_ipv6UpperLayerFrom`).
* **The suppression** errs on one side: a packet whose chain it cannot follow is not answered.
-/

namespace Amt

/-! ## The layout -/

/-- The kinds of headers that the walk passes. -/
def IsExtension (kind : UInt8) : Prop :=
  (kind = 0 ∨ kind = 43 ∨ kind = 60) ∨ kind = 44 ∨ kind = 51

instance : DecidablePred IsExtension := fun kind =>
  inferInstanceAs (Decidable ((kind = 0 ∨ kind = 43 ∨ kind = 60) ∨ kind = 44 ∨ kind = 51))

/-- **One extension header** of the given kind, from `offset` up to `stop` inside the packet,
followed by a header of kind `next`. -/
inductive ExtensionHeader (packet : Bytes) : UInt8 → ℕ → UInt8 → ℕ → Prop
  /-- Hop-by-hop options, routing and destination options count in units of eight bytes. -/
  | options {kind next length : UInt8} {offset : ℕ} (hkind : kind = 0 ∨ kind = 43 ∨ kind = 60)
      (hnext : packet[offset]? = some next) (hlength : packet[offset + 1]? = some length)
      (hinside : offset + (length.toNat + 1) * 8 ≤ packet.length) :
      ExtensionHeader packet kind offset next (offset + (length.toNat + 1) * 8)
  /-- A fragment header has eight bytes; the upper 13 bits of its second word are the offset. -/
  | fragment {next high low : UInt8} {offset : ℕ} (hnext : packet[offset]? = some next)
      (hhigh : packet[offset + 2]? = some high) (hlow : packet[offset + 3]? = some low)
      (hzero : (u16OfBe high low).toNat / 8 = 0) (hinside : offset + 8 ≤ packet.length) :
      ExtensionHeader packet 44 offset next (offset + 8)
  /-- An authentication header counts in units of four bytes, less two. -/
  | authentication {next length : UInt8} {offset : ℕ} (hnext : packet[offset]? = some next)
      (hlength : packet[offset + 1]? = some length)
      (hinside : offset + (length.toNat + 2) * 4 ≤ packet.length) :
      ExtensionHeader packet 51 offset next (offset + (length.toNat + 2) * 4)

/-- **A chain of extension headers**: `n` of them lead from a header of kind `kind` at `offset`
to one of kind `protocol` at `stop`. -/
inductive ExtensionChain (packet : Bytes) : ℕ → UInt8 → ℕ → UInt8 → ℕ → Prop
  | nil (kind : UInt8) (offset : ℕ) : ExtensionChain packet 0 kind offset kind offset
  | cons {n : ℕ} {kind next protocol : UInt8} {offset middle stop : ℕ}
      (hheader : ExtensionHeader packet kind offset next middle)
      (hchain : ExtensionChain packet n next middle protocol stop) :
      ExtensionChain packet (n + 1) kind offset protocol stop

section Walk

variable {packet : Bytes} {kind next protocol : UInt8} {offset stop : ℕ}

theorem ExtensionHeader.stop_le (h : ExtensionHeader packet kind offset next stop) :
    stop ≤ packet.length := by
  cases h with
  | options _ _ _ hinside => exact hinside
  | fragment _ _ _ _ hinside => exact hinside
  | authentication _ _ hinside => exact hinside

/-! ## One round -/

/-- The mask of the code selects the fragment offset. -/
theorem and_fragmentOffset_eq_zero_iff (field : UInt16) :
    field &&& 0xfff8 = 0 ↔ field.toNat / 8 = 0 := by
  rw [← UInt16.toNat_inj, UInt16.toNat_and]
  change field.toNat &&& 0xfff8 = 0 ↔ _
  have hfield : field.toNat < 2 ^ 16 := field.toNat_lt
  constructor
  · intro h
    have hlow : field.toNat < 2 ^ 3 := by
      apply Nat.lt_pow_two_of_testBit
      intro i hi
      by_cases hbit : i < 16
      · have hmask : Nat.testBit 0xfff8 i = true := by
          interval_cases i <;> rfl
        have := congrArg (Nat.testBit · i) h
        simpa [Nat.testBit_and, hmask] using this
      · exact Nat.testBit_lt_two_pow (hfield.trans_le (Nat.pow_le_pow_right two_pos (by omega)))
    omega
  · intro h
    have hlow : field.toNat < 8 := by omega
    interval_cases field.toNat <;> rfl

theorem checkedAdd_eq_some_iff {a b c : ℕ} :
    checkedAdd a b = some c ↔ a + b ≤ usizeMax ∧ a + b = c := by
  simp [checkedAdd]

theorem checkedMul_eq_some_iff {a b c : ℕ} :
    checkedMul a b = some c ↔ a * b ≤ usizeMax ∧ a * b = c := by
  simp [checkedMul]

/-- A round passes an extension header. -/
theorem ExtensionHeader.ipv6UpperLayerFrom_succ (hlen : packet.length ≤ usizeMax)
    (h : ExtensionHeader packet kind offset next stop) (rounds : ℕ) :
    ipv6UpperLayerFrom packet (rounds + 1) kind offset
      = ipv6UpperLayerFrom packet rounds next stop := by
  -- a header inside the packet has a length the checked operations can compute
  cases h with
  | options hkind hnext hlength hinside =>
      have hmul :=
        checkedMul_eq_some_iff.mpr ⟨(Nat.le_add_left _ _).trans (hinside.trans hlen), rfl⟩
      have hadd := checkedAdd_eq_some_iff.mpr ⟨hinside.trans hlen, rfl⟩
      rw [ipv6UpperLayerFrom, if_pos hkind]
      simp only [hnext, hlength, hmul, hadd, Option.bind_eq_bind, Option.bind_some,
        if_neg (not_lt.mpr hinside)]
  | fragment hnext hhigh hlow hzero hinside =>
      have hfragment := not_not.mpr ((and_fragmentOffset_eq_zero_iff _).mpr hzero)
      have hadd := checkedAdd_eq_some_iff.mpr ⟨hinside.trans hlen, rfl⟩
      rw [ipv6UpperLayerFrom, if_neg (by decide), if_pos rfl]
      simp only [hnext, hhigh, hlow, Option.bind_eq_bind, Option.bind_some, if_neg hfragment, hadd,
        if_neg (not_lt.mpr hinside)]
  | authentication hnext hlength hinside =>
      have hmul :=
        checkedMul_eq_some_iff.mpr ⟨(Nat.le_add_left _ _).trans (hinside.trans hlen), rfl⟩
      have hadd := checkedAdd_eq_some_iff.mpr ⟨hinside.trans hlen, rfl⟩
      rw [ipv6UpperLayerFrom, if_neg (by decide), if_neg (by decide), if_pos rfl]
      simp only [hnext, hlength, hmul, hadd, Option.bind_eq_bind, Option.bind_some,
        if_neg (not_lt.mpr hinside)]

/-- A round stops at an upper layer. -/
theorem ipv6UpperLayerFrom_succ_of_not (hkind : ¬ IsExtension kind)
    (hoffset : offset ≤ packet.length) (rounds : ℕ) :
    ipv6UpperLayerFrom packet (rounds + 1) kind offset = some (kind, offset) := by
  obtain ⟨hoptions, hothers⟩ := not_or.mp hkind
  obtain ⟨hfragment, hauthentication⟩ := not_or.mp hothers
  rw [ipv6UpperLayerFrom, if_neg hoptions, if_neg hfragment, if_neg hauthentication,
    if_pos hoffset]

/-- A round that leads anywhere passed an extension header or stopped. -/
theorem exists_header_of_ipv6UpperLayerFrom_succ {rounds : ℕ} {found : UInt8 × ℕ}
    (h : ipv6UpperLayerFrom packet (rounds + 1) kind offset = some found) :
    (¬ IsExtension kind ∧ found = (kind, offset)) ∨
      ∃ next middle, ExtensionHeader packet kind offset next middle ∧
        ipv6UpperLayerFrom packet rounds next middle = some found := by
  rw [ipv6UpperLayerFrom] at h
  split_ifs at h with hoptions hfragment hauthentication hinside
  · simp only [Option.bind_eq_bind, Option.bind_eq_some_iff, checkedMul_eq_some_iff,
      checkedAdd_eq_some_iff] at h
    obtain ⟨next, hnext, length, hlength, _, ⟨-, rfl⟩, _, ⟨-, rfl⟩, h⟩ := h
    split_ifs at h with hlong
    exact .inr ⟨next, _, .options hoptions hnext hlength (not_lt.mp hlong), h⟩
  · simp only [Option.bind_eq_bind, Option.bind_eq_some_iff] at h
    obtain ⟨next, hnext, high, hhigh, low, hlow, h⟩ := h
    split_ifs at h with hfield
    simp only [Option.bind_eq_some_iff, checkedAdd_eq_some_iff] at h
    obtain ⟨_, ⟨-, rfl⟩, h⟩ := h
    split_ifs at h with hlong
    subst hfragment
    have hzero := (and_fragmentOffset_eq_zero_iff _).mp (not_not.mp hfield)
    exact .inr ⟨next, _, .fragment hnext hhigh hlow hzero (not_lt.mp hlong), h⟩
  · simp only [Option.bind_eq_bind, Option.bind_eq_some_iff, checkedMul_eq_some_iff,
      checkedAdd_eq_some_iff] at h
    obtain ⟨next, hnext, length, hlength, _, ⟨-, rfl⟩, _, ⟨-, rfl⟩, h⟩ := h
    split_ifs at h with hlong
    subst hauthentication
    exact .inr ⟨next, _, .authentication hnext hlength (not_lt.mp hlong), h⟩
  · exact .inl ⟨not_or.mpr ⟨hoptions, not_or.mpr ⟨hfragment, hauthentication⟩⟩,
      (Option.some.inj h).symm⟩

/-! ## The walk -/

/-- **The walk reads a chain to its end** if it has more rounds than the chain has headers, and
returns nothing otherwise. -/
theorem ExtensionChain.ipv6UpperLayerFrom {n : ℕ} (hlen : packet.length ≤ usizeMax)
    (h : ExtensionChain packet n kind offset protocol stop) (hprotocol : ¬ IsExtension protocol)
    (hoffset : offset ≤ packet.length) (rounds : ℕ) :
    Amt.ipv6UpperLayerFrom packet rounds kind offset
      = if n < rounds then some (protocol, stop) else none := by
  induction h generalizing rounds with
  | nil kind offset =>
      cases rounds with
      | zero => rfl
      | succ rounds =>
          rw [ipv6UpperLayerFrom_succ_of_not hprotocol hoffset, if_pos (Nat.succ_pos _)]
  | cons hheader _ ih =>
      cases rounds with
      | zero => rfl
      | succ rounds =>
          rw [hheader.ipv6UpperLayerFrom_succ hlen, ih hprotocol hheader.stop_le rounds]
          simp only [Nat.succ_lt_succ_iff]

/-- **What the walk returns is the end of a chain** with fewer headers than it had rounds. -/
theorem exists_chain_of_ipv6UpperLayerFrom {rounds : ℕ} :
    ∀ {kind : UInt8} {offset : ℕ},
      Amt.ipv6UpperLayerFrom packet rounds kind offset = some (protocol, stop) →
      ∃ n < rounds, ExtensionChain packet n kind offset protocol stop ∧
        ¬ IsExtension protocol := by
  induction rounds with
  | zero =>
      intro kind offset h
      cases h
  | succ rounds ih =>
      intro kind offset h
      rcases exists_header_of_ipv6UpperLayerFrom_succ h with ⟨hkind, hfound⟩ | ⟨_, _, hheader, h⟩
      · obtain ⟨rfl, rfl⟩ := Prod.mk.inj hfound
        exact ⟨0, rounds.succ_pos, .nil _ _, hkind⟩
      · obtain ⟨n, hn, hchain, hprotocol⟩ := ih h
        exact ⟨n + 1, Nat.succ_lt_succ hn, .cons hheader hchain, hprotocol⟩

end Walk

/-- `n` extension headers of the packet lead to the upper layer `protocol` at `stop`. -/
def LeadsTo (packet : Bytes) (n : ℕ) (protocol : UInt8) (stop : ℕ) : Prop :=
  ∃ first, packet[6]? = some first ∧ ExtensionChain packet n first 40 protocol stop ∧
    ¬ IsExtension protocol

section Packet

variable {packet : Bytes}

theorem LeadsTo.ipv6UpperLayer {n : ℕ} {protocol : UInt8} {stop : ℕ}
    (h : LeadsTo packet n protocol stop) (hmin : 40 ≤ packet.length)
    (hlen : packet.length ≤ usizeMax) :
    Amt.ipv6UpperLayer packet = if n < 16 then some (protocol, stop) else none := by
  obtain ⟨first, hfirst, hchain, hprotocol⟩ := h
  rw [Amt.ipv6UpperLayer, hfirst]
  exact hchain.ipv6UpperLayerFrom hlen hprotocol hmin 16

/-- **The walk agrees with the layout**: it finds what at most fifteen headers lead to. -/
theorem ipv6UpperLayer_eq_some_iff (hmin : 40 ≤ packet.length) (hlen : packet.length ≤ usizeMax)
    {protocol : UInt8} {stop : ℕ} :
    ipv6UpperLayer packet = some (protocol, stop) ↔
      ∃ n ≤ 15, LeadsTo packet n protocol stop := by
  constructor
  · intro h
    obtain ⟨first, hfirst, h⟩ := Option.bind_eq_some_iff.mp h
    obtain ⟨n, hn, hchain, hprotocol⟩ := exists_chain_of_ipv6UpperLayerFrom h
    exact ⟨n, Nat.le_of_lt_succ hn, first, hfirst, hchain, hprotocol⟩
  · rintro ⟨n, hn, h⟩
    rw [h.ipv6UpperLayer hmin hlen, if_pos (Nat.lt_succ_of_le hn)]

/-! ## The suppression -/

theorem suppressIcmpError_v6 {ε : Type*} {parsed : MulticastPacket} {source : Ipv6Addr}
    (hsource : parsed.source = .v6 source) :
    (suppressIcmpError packet parsed : Outcome ε Bool)
      = .ok ((ipv6UpperLayer packet).all fun (protocol, offset) =>
        protocol = icmpv6Protocol && (packet[offset]?).all fun kind => kind < 128) := by
  rw [suppressIcmpError, hsource]

/-- A packet is answered only if the walk reached an upper layer that is no ICMPv6 error. -/
theorem exists_upperLayer_of_not_suppressed {ε : Type*} {parsed : MulticastPacket}
    {source : Ipv6Addr} (hsource : parsed.source = .v6 source)
    (h : (suppressIcmpError packet parsed : Outcome ε Bool) = .ok false) :
    ∃ protocol stop, ipv6UpperLayer packet = some (protocol, stop) ∧
      (protocol ≠ 58 ∨ ∃ kind, packet[stop]? = some kind ∧ 128 ≤ kind) := by
  rw [suppressIcmpError_v6 hsource] at h
  cases hlayer : ipv6UpperLayer packet with
  | none =>
      rw [hlayer] at h
      cases h
  | some found =>
      obtain ⟨protocol, stop⟩ := found
      rw [hlayer] at h
      refine ⟨protocol, stop, rfl, ?_⟩
      by_cases hprotocol : protocol = 58
      · right
        subst hprotocol
        cases hkind : packet[stop]? with
        | none => simp [hkind, icmpv6Protocol] at h
        | some kind =>
            refine ⟨kind, rfl, ?_⟩
            simpa [hkind, icmpv6Protocol] using h
      · exact .inl hprotocol

/-- An ICMPv6 error is suppressed, behind however many headers. -/
theorem LeadsTo.suppressIcmpError {ε : Type*} {n stop : ℕ} (h : LeadsTo packet n 58 stop)
    (hmin : 40 ≤ packet.length) (hlen : packet.length ≤ usizeMax)
    (herror : ∀ kind, packet[stop]? = some kind → kind < 128) {parsed : MulticastPacket}
    {source : Ipv6Addr} (hsource : parsed.source = .v6 source) :
    (Amt.suppressIcmpError packet parsed : Outcome ε Bool) = .ok true := by
  have hkind : (packet[stop]?).all (fun kind => decide (kind < 128)) = true := by
    cases hkind : packet[stop]? with
    | none => rfl
    | some kind => exact decide_eq_true (herror kind hkind)
  rw [suppressIcmpError_v6 hsource, h.ipv6UpperLayer hmin hlen]
  -- with too many headers the walk gives up, and that is suppressed as well
  split_ifs with hn
  · simp [icmpv6Protocol, hkind]
  · rfl

end Packet

/-- A suppressed packet leaves the sender as it was, and sends nothing. -/
theorem PmtuFeedbackSender.send_of_suppressed {κ Id τ : Type} (transport : RawIpTransport κ Id τ)
    {packet : Bytes} {parsed : MulticastPacket} (hparsed : parseMulticastPacket packet = .ok parsed)
    (hsuppress : ∀ ε : Type, (suppressIcmpError packet parsed : Outcome ε Bool) = .ok true)
    (tunnelMtu : ℕ) (now : Instant) (sender : PmtuFeedbackSender κ Id) :
    send transport packet tunnelMtu now sender
      = (.ok (if sender.localAddress.sameFamily parsed.source then .suppressed
          else .addressFamilyUnavailable), sender) := by
  have hparse : (InPlace.inspect fun _ => (parseMulticastPacket packet).mapErr .invalidPacket :
      InPlace (PmtuFeedbackSender κ Id) (PmtuFeedbackError τ) MulticastPacket) sender
      = (.ok parsed, sender) := by
    rw [InPlace.inspect, hparsed]
    rfl
  have haddress : (InPlace.inspect fun sender => .ok sender.localAddress :
      InPlace (PmtuFeedbackSender κ Id) (PmtuFeedbackError τ) IpAddr) sender
      = (.ok sender.localAddress, sender) := rfl
  have hcheck : (InPlace.inspect fun _ => suppressIcmpError packet parsed :
      InPlace (PmtuFeedbackSender κ Id) (PmtuFeedbackError τ) Bool) sender
      = (.ok true, sender) := by
    rw [InPlace.inspect, hsuppress]
  rw [send, InPlace.bind_of_ok hparse, InPlace.bind_of_ok haddress]
  by_cases hfamily : sender.localAddress.sameFamily parsed.source = true
  · rw [if_neg (not_not.mpr hfamily), InPlace.bind_of_ok hcheck, if_pos rfl, if_pos hfamily]
    rfl
  · rw [if_pos hfamily, if_neg hfamily]
    rfl

/-- An accepted IPv6 packet has its fixed header, and a length that its header can state. -/
theorem length_of_parse_v6 {packet : Bytes} {parsed : MulticastPacket}
    (hparsed : parseMulticastPacket packet = .ok parsed) {source : Ipv6Addr}
    (hsource : parsed.source = .v6 source) : 40 ≤ packet.length ∧ packet.length ≤ usizeMax := by
  have hdatagram := multicastDatagram_of_parse hparsed
  rw [hsource] at hdatagram
  generalize parsed.group = group at hdatagram
  cases hdatagram with
  | @v6 header body hdatagram _ =>
      have hpayload := hdatagram.payloadLen_eq
      have hword := header.payloadLen.toNat_lt
      rw [List.length_append, Ipv6Header.length_bytes, ← hpayload, usizeMax]
      omega

/-- **No feedback for an ICMPv6 error.**  For every accepted IPv6 packet the walk finds exactly
what at most fifteen extension headers lead to, and the suppression decides; it lets a packet
through only if the walk reached another protocol or an ICMPv6 message of type 128 or more.  So
a packet whose headers, however many, lead to an ICMPv6 error leaves the sender as it was. -/
theorem ipv6UpperLayer_suppresses {ε κ Id τ : Type} {packet : Bytes} {parsed : MulticastPacket}
    (hparsed : parseMulticastPacket packet = .ok parsed) {source : Ipv6Addr}
    (hsource : parsed.source = .v6 source) :
    (∀ protocol stop, ipv6UpperLayer packet = some (protocol, stop) ↔
      ∃ n ≤ 15, LeadsTo packet n protocol stop) ∧
    (∃ suppress, (suppressIcmpError packet parsed : Outcome ε Bool) = .ok suppress ∧
      (suppress = false → ∃ protocol stop, ipv6UpperLayer packet = some (protocol, stop) ∧
        (protocol ≠ 58 ∨ ∃ kind, packet[stop]? = some kind ∧ 128 ≤ kind))) ∧
    ∀ n stop, LeadsTo packet n 58 stop → (∀ kind, packet[stop]? = some kind → kind < 128) →
      ∀ (transport : RawIpTransport κ Id τ) (tunnelMtu : ℕ) (now : Instant)
        (sender : PmtuFeedbackSender κ Id),
        PmtuFeedbackSender.send transport packet tunnelMtu now sender
          = (.ok (if sender.localAddress.sameFamily parsed.source then .suppressed
              else .addressFamilyUnavailable), sender) := by
  obtain ⟨hmin, hlen⟩ := length_of_parse_v6 hparsed hsource
  refine ⟨fun protocol stop => ipv6UpperLayer_eq_some_iff hmin hlen,
    ⟨_, suppressIcmpError_v6 hsource, ?_⟩, ?_⟩
  · intro hfalse
    exact exists_upperLayer_of_not_suppressed (ε := ε) hsource
      ((suppressIcmpError_v6 hsource).trans (congrArg _ hfalse))
  · intro n stop hleads herror transport tunnelMtu now sender
    exact PmtuFeedbackSender.send_of_suppressed transport hparsed
      (fun _ => hleads.suppressIcmpError hmin hlen herror hsource) tunnelMtu now sender

/-- The hypotheses at a Packet Too Big behind hop-by-hop options. -/
theorem ipv6UpperLayer_suppresses_hopByHop :
    PmtuFeedbackSender.send
      (⟨fun _ _ datagram => ((), .ok datagram.length)⟩ : RawIpTransport Unit Unit Unit)
      [96, 0, 0, 0, 0, 16, 0, 16, 32, 1, 13, 184, 0, 0, 0, 0, 0, 0, 0, 0, 0, 0, 0, 16, 255, 62,
       0, 0, 0, 0, 0, 0, 0, 0, 0, 0, 0, 0, 18, 52, 58, 0, 0, 0, 0, 0, 0, 0, 2, 0, 0, 0, 0, 0, 0,
       0]
      1280 0 ⟨(), (), .v6 (.new 0x2001 0xdb8 0 0 0 0 0 1), .new 1 1⟩
    = (.ok .suppressed, ⟨(), (), .v6 (.new 0x2001 0xdb8 0 0 0 0 0 1), .new 1 1⟩) :=
  (ipv6UpperLayer_suppresses (ε := Unit)
    (show parseMulticastPacket
      [96, 0, 0, 0, 0, 16, 0, 16, 32, 1, 13, 184, 0, 0, 0, 0, 0, 0, 0, 0, 0, 0, 0, 16, 255, 62,
       0, 0, 0, 0, 0, 0, 0, 0, 0, 0, 0, 0, 18, 52, 58, 0, 0, 0, 0, 0, 0, 0, 2, 0, 0, 0, 0, 0, 0,
       0]
      = .ok ⟨.v6 (.new 0x2001 0xdb8 0 0 0 0 0 0x10), .v6 (.new 0xff3e 0 0 0 0 0 0 0x1234), 0, 56,
        false⟩ by decide) rfl).2.2 1 48
    ⟨0, rfl, .cons (.options (.inl rfl) rfl rfl (by decide)) (.nil _ _), by decide⟩
    (by rintro kind ⟨⟩; decide) _ _ _ _

end Amt

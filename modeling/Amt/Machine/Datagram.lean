import Amt.Machine.Decode
import Amt.Machine.Membership
import Amt.Mtu
import Amt.Upstream.Datagram

/-!
# Datagrams on a machine

The functions that read and rewrite whole IP packets: the parser of multicast datagrams, the
propagation of ECN, the repair of checksums and the fragmentation in front of the tunnel.  A
`checked_add` or `checked_mul` of the source is a test with the source's error; the proofs show
that it passes.

* **The input path** (`inputPath_safe`) puts the parts together: on every machine, for every slice
  and all parameters, the functions do what they do without bounds, and return a value or an
  error.
-/

namespace Amt

open Outcome (Agree bind_ne_panic ensure_ne_panic)

namespace Machine

variable {m : Machine} {permits : Allocation → Bool} {packet : Bytes}

/-! ## Multicast datagrams -/

theorem validateAddresses_ne_panic (source group : IpAddr) :
    validateAddresses source group ≠ .panic :=
  bind_ne_panic ensure_ne_panic fun _ _ => ensure_ne_panic

theorem agree_parseIpv4 (h : m.Addressable packet) :
    m.Agrees permits (parseIpv4 packet) fun _ => True := by
  have hmin : ipv4MinHeaderLen = 20 := rfl
  refine .ensure fun hlen => .bind (.byteAt (by omega)) fun first _ => ?_
  have hihl := ihl_le first
  refine agree_fits (le_usizeMax (by omega)) (.ensure fun hheader => ?_)
  refine .bind (.u16At (by omega)) fun total _ => .ensure fun htotal => ?_
  refine .bind (.slice (by omega) (by omega)) fun header _ => ?_
  refine agree_sumFits (.ensure fun _ => ?_)
  refine .bind (agree_readIpv4 h (by omega)) fun source _ => ?_
  refine .bind (agree_readIpv4 h (by omega)) fun group _ => ?_
  refine .bind (.same (validateAddresses_ne_panic _ _)) fun _ _ => ?_
  refine .bind (.u16At (by omega)) fun fragment _ => ?_
  exact .bind (.byteAt (by omega)) fun protocol _ => .ok trivial

theorem agree_parseIpv6 (h : m.Addressable packet) :
    m.Agrees permits (parseIpv6 packet) fun _ => True := by
  have hmin : ipv6HeaderLen = 40 := rfl
  refine .ensure fun hlen => .bind (.u16At (by omega)) fun payload _ => ?_
  refine agree_representable (le_usizeMax (by omega)) (.ensure fun htotal => ?_)
  refine .bind (agree_readIpv6 h (by omega)) fun source _ => ?_
  refine .bind (agree_readIpv6 h (by omega)) fun group _ => ?_
  refine .bind (.same (validateAddresses_ne_panic _ _)) fun _ _ => ?_
  exact .bind (.byteAt (by omega)) fun protocol _ => .ok trivial

theorem agree_parseMulticastPacket (h : m.Addressable packet) :
    m.Agrees permits (parseMulticastPacket packet) fun _ => True := by
  unfold parseMulticastPacket
  cases packet.head? with
  | none => exact .err _
  | some first =>
      dsimp only
      split
      · exact agree_parseIpv4 h
      · exact agree_parseIpv6 h
      · exact .err _

/-! ## ECN -/

theorem agree_validateIpv4 :
    m.Agrees permits (validateIpv4 packet) fun headerLen =>
      20 ≤ headerLen ∧ headerLen ≤ packet.length := by
  have hmin : ipv4MinHeaderLen = 20 := rfl
  refine .ensure fun hlen => .bind (.byteAt (by omega)) fun first _ => ?_
  have hihl := ihl_le first
  refine agree_fits (le_usizeMax (by omega)) (.ensure fun hheader => ?_)
  refine .bind (.u16At (by omega)) fun total _ => .ensure fun htotal => .ok ?_
  omega

theorem agree_validateIpv6 :
    m.Agrees permits (validateIpv6 packet) fun _ => 40 ≤ packet.length := by
  have hmin : ipv6HeaderLen = 40 := rfl
  refine .ensure fun hlen => .bind (.u16At (by omega)) fun payload _ => ?_
  refine agree_representable (le_usizeMax (by omega)) ?_
  exact (Agree.same ensure_ne_panic).mono fun _ _ => by omega

theorem agree_ipEcn : m.Agrees permits (ipEcn packet) fun _ => True := by
  unfold ipEcn
  cases packet.head? with
  | none => exact .err _
  | some first =>
      dsimp only
      split
      · refine .bind agree_validateIpv4 fun headerLen hheader => ?_
        exact .bind (.byteAt (by omega)) fun _ _ => .ok trivial
      · refine .bind agree_validateIpv6 fun _ hlen => ?_
        exact .bind (.byteAt (by omega)) fun _ _ => .ok trivial
      · exact .err _

theorem agree_setIpEcn (ecn : EcnCodepoint) :
    m.Agrees permits (setIpEcn packet ecn) fun _ => True := by
  unfold setIpEcn
  cases packet.head? with
  | none => exact .err _
  | some first =>
      dsimp only
      split
      · refine .bind agree_validateIpv4 fun headerLen hheader => ?_
        refine .bind (.byteAt (by omega)) fun field _ => ?_
        refine .bind (.setAt (by omega) _) fun marked hmarked => ?_
        refine .bind (.copyInto (by omega) (by omega) rfl) fun cleared hcleared => ?_
        refine .bind (.slice (by omega) (by omega)) fun header _ => agree_sumFits ?_
        exact (Agree.copyInto (by omega) (by omega) rfl).mono fun _ _ => trivial
      · refine .bind agree_validateIpv6 fun _ hlen => ?_
        refine .bind (.byteAt (by omega)) fun field _ => ?_
        exact (Agree.setAt (by omega) _).mono fun _ _ => trivial
      · exact .err _

theorem agree_decapsulateEcn (outer : EcnCodepoint) :
    m.Agrees permits (decapsulateEcn packet outer) fun _ => True := by
  refine .bind agree_ipEcn fun inner _ => ?_
  cases decapsulationResult inner outer with
  | mk output currentlyUnused =>
      cases output with
      | none => exact .ok trivial
      | some output =>
          refine .ite (fun _ => ?_) fun _ => .ok trivial
          exact .bind (agree_setIpEcn output) fun _ _ => .ok trivial

/-! ## Normalisation -/

section Normalize

variable {ε : Type}

theorem pseudoHeaderV4_ne_panic (udpLen : ℕ) (h : 20 ≤ packet.length) :
    (pseudoHeaderV4 packet udpLen : Outcome ε (List Bytes)) ≠ .panic := by
  refine bind_ne_panic (slice_ne_panic (by omega) (by omega)) fun _ _ => ?_
  exact bind_ne_panic (slice_ne_panic (by omega) h) fun _ _ => by simp

theorem pseudoHeaderV6_ne_panic (udpLen : ℕ) (h : 40 ≤ packet.length) :
    (pseudoHeaderV6 packet udpLen : Outcome ε (List Bytes)) ≠ .panic := by
  refine bind_ne_panic (slice_ne_panic (by omega) (by omega)) fun _ _ => ?_
  exact bind_ne_panic (slice_ne_panic (by omega) h) fun _ _ => by simp

/-- The header in front of the UDP header is that of an IPv4 packet, or has 40 bytes. -/
theorem agree_repairUdpChecksum {pseudoHeader : Bytes → ℕ → Outcome ε (List Bytes)}
    {udpOffset : ℕ} (hoffset : udpOffset ≤ 60)
    (hpseudo : ∀ {packet} udpLen, udpOffset ≤ packet.length →
      pseudoHeader packet udpLen ≠ .panic) :
    m.Agrees permits (repairUdpChecksum pseudoHeader packet udpOffset) fun _ => True := by
  refine agree_fits (le_usizeMax (by omega)) (.ite (fun _ => .ok trivial) fun hlen => ?_)
  refine .bind (.u16At (by omega)) fun udpLen _ => agree_fits (le_usizeMax (by omega)) ?_
  refine .ite (fun _ => .ok trivial) fun hroom => ?_
  refine .bind (.setAt (by omega) _) fun half hhalf => ?_
  refine .bind (.setAt (by omega) _) fun cleared hcleared => ?_
  refine .bind (.same (hpseudo _ (by omega))) fun parts _ => ?_
  refine .bind (.slice (by omega) (by omega)) fun udp _ => agree_sumFits ?_
  refine (Agree.copyInto (by omega) (by omega) ?_).mono fun _ _ => trivial
  rw [length_u16ToBe]
  omega

theorem agree_repairUnfragmentedUdp {ihl : ℕ} (hmin : 20 ≤ ihl) (hmax : ihl ≤ 60)
    (hlen : ihl ≤ packet.length) :
    m.Agrees permits (ε := ε) (repairUnfragmentedUdp packet ihl) fun _ => True := by
  refine .bind (.u16At (by omega)) fun fragment _ => .bind (.byteAt (by omega)) fun protocol _ => ?_
  refine .ite (fun _ => ?_) fun _ => .ok trivial
  exact agree_repairUdpChecksum hmax fun udpLen h => pseudoHeaderV4_ne_panic udpLen (by omega)

theorem agree_repairUdpNextHeader (hlen : 40 ≤ packet.length) :
    m.Agrees permits (ε := ε) (repairUdpNextHeader packet) fun _ => True := by
  refine .bind (.byteAt (by omega)) fun nextHeader _ => .ite (fun _ => ?_) fun _ => .ok trivial
  exact agree_repairUdpChecksum (by omega) pseudoHeaderV6_ne_panic

/-- **The normalisation is safe.** -/
theorem agree_normalizeEmbeddedMulticastData (packet : Bytes) :
    m.Agrees permits (ε := ε) (normalizeEmbeddedMulticastData packet) fun _ => True := by
  refine .ite (fun _ => .ok trivial) fun hlen => .bind (.byteAt (by omega)) fun first _ => ?_
  have hihl := ihl_le first
  refine .ite (fun hv4 => ?_) fun _ => .ite (fun hv6 => ?_) fun _ => .ok trivial
  · refine agree_fits (le_usizeMax (by omega)) (.bind (.u16At (by omega)) fun total _ => ?_)
    refine agree_fits (le_usizeMax (by omega)) (.ite (fun _ => .ok trivial) fun hlengths => ?_)
    have hcut : (packet.take (2 + total.toNat)).length = 2 + total.toNat := by
      rw [List.length_take]
      omega
    refine .bind (.sliceFrom (by omega)) fun inner hinner => ?_
    refine .bind (.copyInto (by omega) (by omega) rfl) fun cleared hcleared => ?_
    refine .bind (.slice (by omega) (by omega)) fun header _ => agree_sumFits ?_
    refine .bind (.copyInto (by omega) (by omega) rfl) fun summed hsummed => ?_
    exact .bind (agree_repairUnfragmentedUdp (by omega) hihl (by omega)) fun _ _ => .ok trivial
  · refine .bind (.u16At (by omega)) fun payload _ => agree_fits (le_usizeMax (by omega)) ?_
    refine .ite (fun _ => .ok trivial) fun hlengths => ?_
    have hcut : (packet.take (2 + (40 + payload.toNat))).length = 2 + (40 + payload.toNat) := by
      rw [List.length_take]
      omega
    refine .bind (.sliceFrom (by omega)) fun inner hinner => ?_
    exact .bind (agree_repairUdpNextHeader (by omega)) fun _ _ => .ok trivial

end Normalize

/-! ## Fragmentation -/

section Fragment

variable {payload : Bytes} {maxPayload : ℕ} {limits : MembershipParseLimits}

/-- There are no more chunks than bytes. -/
theorem chunkCount_le (len : ℕ) {step : ℕ} (hstep : 0 < step) : (len + step - 1) / step ≤ len := by
  rw [Nat.div_le_iff_le_mul_add_pred hstep]
  have hle : len ≤ step * len := Nat.le_mul_of_pos_left len hstep
  omega

theorem flag_le (more : Bool) : more.toNat * ipv4Mf.toNat ≤ 65535 := by
  cases more with
  | false => decide
  | true => decide

theorem agree_fragmentChunk (hpermits : Permits permits limits packet.length)
    (hpacket : packet.length ≤ 65535) (hpayload : ipv4HeaderLen + payload.length = packet.length)
    (hmax : maxPayload ≤ 65535) (fragmentField : UInt16) {chunkStart : ℕ}
    (hstart : chunkStart < payload.length) :
    m.Agrees permits
      (fragmentChunk packet payload ipv4HeaderLen maxPayload fragmentField chunkStart)
      fun _ => True := by
  have hheader : ipv4HeaderLen = 20 := rfl
  have hmask : (fragmentField &&& ipv4OffsetMask).toNat < 65536 := UInt16.toNat_lt _
  refine agree_fits (le_usizeMax (by omega)) ?_
  refine .bind (.slice (by omega) (by omega)) fun chunk hchunk => ?_
  refine agree_representable (le_usizeMax (by omega)) (.ensure fun _ => ?_)
  refine agree_fits (le_usizeMax (by omega)) ?_
  refine agree_reserve (hpermits.fragment (by omega)) ?_
  refine .bind (.slice (by omega) (by omega)) fun header hlen => ?_
  have hroom : (header ++ chunk).length = header.length + chunk.length := List.length_append
  refine .bind (.copyInto (by omega) (by omega) rfl) fun sized hsized => ?_
  refine agree_check (flag_le _) ?_
  refine .bind (.copyInto (by omega) (by omega) rfl) fun placed hplaced => ?_
  refine .bind (.copyInto (by omega) (by omega) rfl) fun cleared hcleared => ?_
  refine .bind (.slice (by omega) (by omega)) fun first _ => agree_sumFits ?_
  exact (Agree.copyInto (by omega) (by omega) rfl).mono fun _ _ => trivial

theorem agree_fragmentChunks (hpermits : Permits permits limits packet.length)
    (hpacket : packet.length ≤ 65535) (hpayload : ipv4HeaderLen + payload.length = packet.length)
    (hmax : maxPayload ≤ 65535) (fragmentField : UInt16) {starts : List ℕ}
    (hstarts : ∀ start ∈ starts, start < payload.length) :
    m.Agrees permits (fragmentChunks packet payload ipv4HeaderLen maxPayload fragmentField starts)
      fun _ => True := by
  induction starts with
  | nil => exact .ok trivial
  | cons start starts ih =>
      obtain ⟨hstart, hstarts⟩ := List.forall_mem_cons.mp hstarts
      refine .bind (agree_fragmentChunk hpermits hpacket hpayload hmax fragmentField hstart)
        fun _ _ => ?_
      exact .bind (ih hstarts) fun _ _ => .ok trivial

/-- The cutting of a packet that is longer than the tunnel has room for. -/
theorem agree_fragmentOversized (hpermits : Permits permits limits packet.length) {headerLen : ℕ}
    (hheader : headerLen ≤ packet.length) (hpacket : packet.length ≤ 65535) {tunnelMtu : ℕ}
    (hlarge : tunnelMtu < packet.length) :
    m.Agrees permits (fragmentOversized packet headerLen tunnelMtu) fun _ => True := by
  refine .ensure fun hoptions => ?_
  subst hoptions
  have hmin : ipv4HeaderLen = 20 := rfl
  refine .bind (.u16At (by omega)) fun fragmentField _ => .ensure fun _ => ?_
  have hmax : maxPayloadFor tunnelMtu ipv4HeaderLen ≤ tunnelMtu :=
    (Nat.div_mul_le_self _ 8).trans (Nat.sub_le _ _)
  refine agree_fits (le_usizeMax (by omega)) (.ensure fun hroom => ?_)
  refine .bind (.sliceFrom hheader) fun payload hpayload => .ensure fun _ => ?_
  have hmask : (fragmentField &&& ipv4OffsetMask).toNat < 65536 := UInt16.toNat_lt _
  refine agree_representable (le_usizeMax (by omega)) ?_
  refine agree_check (by omega) (.ensure fun hend => agree_check (by omega) ?_)
  have hcount := chunkCount_le payload.length (Nat.lt_of_lt_of_le (by omega) hroom.2)
  refine agree_reserve (hpermits.fragments (by omega)) ?_
  refine agree_fragmentChunks hpermits hpacket (by omega) (by omega) fragmentField ?_
  exact fun start hstart => ((mem_chunkStarts_iff (by omega)).mp hstart).2

/-- **Fragmentation is safe**, with vectors within the packet. -/
theorem agree_fragmentIpv4ForTunnel (hpermits : Permits permits limits packet.length)
    (tunnelMtu : ℕ) :
    m.Agrees permits (fragmentIpv4ForTunnel packet tunnelMtu) fun _ => True := by
  have hmin : ipv4HeaderLen = 20 := rfl
  refine .ensure fun hlen => .bind (.byteAt (by omega)) fun first _ => .ensure fun _ => ?_
  have hihl := ihl_le first
  refine agree_fits (le_usizeMax (by omega)) (.ensure fun hheader => ?_)
  refine .bind (.u16At (by omega)) fun total htotal => .ensure fun hexact => ?_
  refine .ite (fun _ => agree_reserve (hpermits.fragment le_rfl) (.ok trivial)) fun hlarge => ?_
  exact agree_fragmentOversized hpermits (by omega) (by omega) (by omega)

end Fragment

/-! ## The input path -/

/-- The function ends on the machine as it does without bounds, with a value or an error. -/
def Safe {ε α : Type} (checked plain : Outcome ε α) : Prop :=
  checked = plain ∧ ((∃ a, plain = .ok a) ∨ ∃ e, plain = .err e)

theorem safe_of_agree {ε α : Type} {checked plain : Outcome ε α} {P : α → Prop}
    (h : Agree checked plain P) : Safe checked plain := by
  refine ⟨h.eq, ?_⟩
  cases plain with
  | ok a => exact .inl ⟨a, rfl⟩
  | err e => exact .inr ⟨e, rfl⟩
  | panic => exact absurd rfl h.ne_panic

/-- **The input path is safe.**  On every machine, for every slice and all parameters, the
functions that see bytes from the network return a value or an error: no index or slice is out
of range, no arithmetic overflows, and every vector that is reserved is bounded by the limits and
by the length of the input. -/
theorem inputPath_safe (m : Machine) (input : m.Slice) (limits : MembershipParseLimits)
    (protocol : MembershipProtocol) (outer : EcnCodepoint) (tunnelMtu : ℕ) :
    let permits := Allocation.bounded limits input.bytes.length
    Safe (m.on permits (decode input.bytes)) (decode input.bytes) ∧
    Safe (m.on permits (parseMembershipReportWithLimits input.bytes limits))
      (parseMembershipReportWithLimits input.bytes limits) ∧
    Safe (m.on permits (validatedGeneralQuery protocol input.bytes))
      (validatedGeneralQuery protocol input.bytes) ∧
    Safe (m.on permits (parseMulticastPacket input.bytes)) (parseMulticastPacket input.bytes) ∧
    Safe (m.on permits (decapsulateEcn input.bytes outer)) (decapsulateEcn input.bytes outer) ∧
    Safe (m.on permits (normalizeEmbeddedMulticastData input.bytes) : Outcome Empty Bytes)
      (normalizeEmbeddedMulticastData input.bytes) ∧
    Safe (m.on permits (fragmentIpv4ForTunnel input.bytes tunnelMtu))
      (fragmentIpv4ForTunnel input.bytes tunnelMtu) := by
  have hpermits : Permits (Allocation.bounded limits input.bytes.length) limits
      input.bytes.length := fun _ h => h
  have h := input.addressable
  exact ⟨safe_of_agree (agree_decode _),
    safe_of_agree (agree_parseMembershipReportWithLimits h hpermits),
    safe_of_agree (agree_validatedGeneralQuery h protocol),
    safe_of_agree (agree_parseMulticastPacket h), safe_of_agree (agree_decapsulateEcn outer),
    safe_of_agree (agree_normalizeEmbeddedMulticastData _),
    safe_of_agree (agree_fragmentIpv4ForTunnel hpermits tunnelMtu)⟩

end Machine

end Amt

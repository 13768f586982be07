import Amt.Mtu

/-!
# The fragments of an arbitrary packet

`Amt.Mtu` follows the datagrams that the relay sends.  Here the packet is any byte string,
with any checksum, and possibly a fragment itself.  What `fragment_ipv4_for_tunnel` returns
for it is described by what a receiver can read off the fragments.

* **Inversion** (`fragmentIpv4ForTunnel_eq_ok`): a packet that is accepted has the lengths that
  its header states, and is returned as it is or cut at the multiples of the payload size.
* **The chunk starts** (`ChunkChain`) are described by the step they take: a chunk that is full
  and not the last, followed by the chain from its end, or the rest.  Every property of the
  list of fragments is an induction over that chain.
* **The fragments** (`FragmentChain`, `IsFragmentation`): contiguous from the packet's own
  offset, in multiples of eight, More Fragments on all but the last.

The 13-bit offset cannot wrap: the end of the payload was checked to be representable, so
that the check in the loop never fails (`fragmentIpv4ForTunnel_overflow`).
-/

namespace Amt

open Outcome (ensure bind_ok bind_eq_ok_iff ensure_of ensure_eq_ok_iff ensure_of_not)

/-! ## What is accepted -/

/-- The second half has room for eight bytes behind the header. -/
theorem fragmentOversized_room {packet : Bytes} {headerLen tunnelMtu : ℕ} {fragments : List Bytes}
    (h : fragmentOversized packet headerLen tunnelMtu = .ok fragments) :
    ipv4HeaderLen + 8 ≤ tunnelMtu := by
  obtain ⟨_, hheader, h⟩ := bind_eq_ok_iff.mp h
  obtain ⟨field, -, h⟩ := bind_eq_ok_iff.mp h
  obtain ⟨_, -, h⟩ := bind_eq_ok_iff.mp h
  obtain ⟨_, -, h⟩ := bind_eq_ok_iff.mp h
  obtain ⟨_, hroom, -⟩ := bind_eq_ok_iff.mp h
  rw [ensure_eq_ok_iff] at hheader hroom
  simp only [hheader, maxPayloadFor, ipv4HeaderLen] at hroom ⊢
  omega

/-- **The first half**: a packet has the lengths that its header states, or is invalid. -/
theorem fragmentIpv4ForTunnel_invalid_or (packet : Bytes) (tunnelMtu : ℕ) :
    fragmentIpv4ForTunnel packet tunnelMtu = .err .invalidPacket ∨
    ∃ (header : Ipv4Header) (payload : Bytes), packet = header.bytes ++ payload ∧
      header.IsSized payload := by
  unfold fragmentIpv4ForTunnel
  by_cases hmin : packet.length < ipv4HeaderLen
  · rw [ensure_of_not (not_not.mpr hmin)]
    exact .inl rfl
  have hshort : ¬ packet.length < 20 := hmin
  rw [ensure_of hmin, bind_ok, byteAt_of_lt (by omega), bind_ok]
  by_cases hversion : packet.getD 0 0 >>> 4 = 4
  swap
  · rw [ensure_of_not hversion]
    exact .inl rfl
  rw [ensure_of hversion, bind_ok]
  dsimp only
  by_cases hihl : (packet.getD 0 0 &&& 0x0f).toNat * 4 < ipv4HeaderLen ∨
      (packet.getD 0 0 &&& 0x0f).toNat * 4 > packet.length
  · rw [ensure_of_not (not_not.mpr hihl)]
    exact .inl rfl
  rw [ensure_of hihl, bind_ok]
  obtain ⟨header, payload, rfl, hlen⟩ : ∃ header : Ipv4Header, ∃ payload,
      packet = header.bytes ++ payload ∧
        header.bytes.length = (packet.getD 0 0 &&& 0x0f).toNat * 4 :=
    exists_ipv4Header (by simp only [ipv4HeaderLen] at hihl; omega) (by omega)
  rw [Ipv4Header.u16At_two, bind_ok]
  by_cases htotal : header.totalLen.toNat ≠ (header.bytes ++ payload).length ∨
      header.totalLen.toNat < ((header.bytes ++ payload).getD 0 0 &&& 0x0f).toNat * 4
  · rw [ensure_of_not (not_not.mpr htotal)]
    exact .inl rfl
  · rw [List.length_append] at htotal
    exact .inr ⟨header, payload, rfl, hversion, hlen.symm, by omega⟩

section Sized

variable {header : Ipv4Header} {payload : Bytes} {tunnelMtu : ℕ}

/-- The second half reports an overflow from the check in front of the loop only. -/
theorem fragmentOversized_overflow
    (h : fragmentOversized (header.bytes ++ payload) header.bytes.length tunnelMtu
      = .err .fragmentOffsetOverflow) :
    65535 - ipv4HeaderLen < header.fragmentOffset * 8 + payload.length := by
  rw [fragmentOversized, Ipv4Header.u16At_six, sliceFrom_append payload rfl] at h
  simp only [Target.fits_unbounded, Target.ensure_representable, Target.check_unbounded,
    Target.reserve_unbounded, bind_ok, Outcome.bind_eq_err_iff, Outcome.ensure_eq_err_iff,
    ensure_eq_ok_iff, reduceCtorEq, and_false, false_or, exists_const, and_true] at h
  obtain ⟨hheader, -, ⟨-, hroom⟩, -, hcheck⟩ := h
  rw [hheader] at hroom hcheck
  rcases hcheck with hover | ⟨hfits, hloop⟩
  · exact not_le.mp hover
  · rw [fragmentChunks_chunkStarts hheader (by omega) hfits] at hloop
    cases hloop

/-- **What a call does**: it refuses the packet, returns it, or goes on to cut it. -/
theorem fragmentIpv4ForTunnel_run (packet : Bytes) (tunnelMtu : ℕ) :
    fragmentIpv4ForTunnel packet tunnelMtu = .err .invalidPacket ∨
    ∃ (header : Ipv4Header) (payload : Bytes), packet = header.bytes ++ payload ∧
      header.IsSized payload ∧
      ((packet.length ≤ tunnelMtu ∧ fragmentIpv4ForTunnel packet tunnelMtu = .ok [packet]) ∨
        (tunnelMtu < packet.length ∧ fragmentIpv4ForTunnel packet tunnelMtu =
          fragmentOversized packet header.bytes.length tunnelMtu)) := by
  rcases fragmentIpv4ForTunnel_invalid_or packet tunnelMtu with hinvalid | hsized
  · exact .inl hinvalid
  obtain ⟨header, payload, rfl, hsized⟩ := hsized
  refine .inr ⟨header, payload, rfl, hsized, ?_⟩
  rcases le_or_gt (header.bytes ++ payload).length tunnelMtu with hfits | hlarge
  · exact .inl ⟨hfits, fragmentIpv4ForTunnel_small hsized hfits⟩
  · exact .inr ⟨hlarge, fragmentIpv4ForTunnel_large hsized hlarge⟩

/-- **Inversion**: what is returned is the packet, or its fragments. -/
theorem fragmentIpv4ForTunnel_eq_ok {packet : Bytes} {fragments : List Bytes}
    (h : fragmentIpv4ForTunnel packet tunnelMtu = .ok fragments) :
    ∃ (header : Ipv4Header) (payload : Bytes), packet = header.bytes ++ payload ∧
      header.IsSized payload ∧
      ((packet.length ≤ tunnelMtu ∧ fragments = [packet]) ∨
        (tunnelMtu < packet.length ∧ ipv4HeaderLen + 8 ≤ tunnelMtu ∧ header.Fragmentable payload ∧
          fragments = (chunkStarts payload.length (maxPayloadFor tunnelMtu ipv4HeaderLen)).map
            (header.fragmentAt payload (maxPayloadFor tunnelMtu ipv4HeaderLen)))) := by
  rcases fragmentIpv4ForTunnel_run packet tunnelMtu with
    hinvalid | ⟨header, payload, rfl, hsized, ⟨hfits, hrun⟩ | ⟨hlarge, hrun⟩⟩
  · rw [h] at hinvalid
    cases hinvalid
  · rw [h] at hrun
    exact ⟨header, payload, rfl, hsized, .inl ⟨hfits, Outcome.ok.inj hrun⟩⟩
  · refine ⟨header, payload, rfl, hsized, ?_⟩
    have hroom : ipv4HeaderLen + 8 ≤ tunnelMtu := fragmentOversized_room (hrun.symm.trans h)
    rcases fragmentIpv4ForTunnel_cases hsized hroom hlarge with ⟨hcut, hok⟩ | ⟨-, error, herr⟩
    · rw [hok] at h
      exact .inr ⟨hlarge, hroom, hcut, (Outcome.ok.inj h).symm⟩
    · rw [herr] at h
      cases h

/-- No index is out of range, with room for eight bytes behind the header. -/
theorem fragmentIpv4ForTunnel_ne_panic (packet : Bytes) (hroom : ipv4HeaderLen + 8 ≤ tunnelMtu) :
    fragmentIpv4ForTunnel packet tunnelMtu ≠ .panic := by
  rcases fragmentIpv4ForTunnel_run packet tunnelMtu with
    hinvalid | ⟨header, payload, rfl, hsized, ⟨-, hrun⟩ | ⟨hlarge, -⟩⟩
  · rw [hinvalid]
    simp
  · rw [hrun]
    simp
  · rcases fragmentIpv4ForTunnel_cases hsized hroom hlarge with ⟨-, hok⟩ | ⟨-, error, herr⟩
    · rw [hok]
      simp
    · rw [herr]
      simp

/-- **The offset cannot wrap**: it is the check in front of the loop that fails, if any. -/
theorem fragmentIpv4ForTunnel_overflow {packet : Bytes}
    (h : fragmentIpv4ForTunnel packet tunnelMtu = .err .fragmentOffsetOverflow) :
    65535 - ipv4HeaderLen < fragmentOffset packet + (fragmentPayload packet).length := by
  rcases fragmentIpv4ForTunnel_run packet tunnelMtu with
    hinvalid | ⟨header, payload, rfl, hsized, ⟨-, hrun⟩ | ⟨-, hrun⟩⟩
  · rw [h] at hinvalid
    cases hinvalid
  · rw [h] at hrun
    cases hrun
  · rw [fragmentOffset_bytes, fragmentPayload_bytes hsized]
    exact fragmentOversized_overflow (hrun.symm.trans h)

end Sized

/-! ## The chunk starts -/

/-- **The chunk starts, one step at a time**: a full chunk and the chunks from its end, or the
rest of the payload. -/
inductive ChunkChain (len step : ℕ) : ℕ → List ℕ → Prop
  | last {start : ℕ} (hlt : start < len) (hend : len ≤ start + step) :
      ChunkChain len step start [start]
  | next {start : ℕ} {starts : List ℕ} (hlt : start + step < len)
      (hrest : ChunkChain len step (start + step) starts) :
      ChunkChain len step start (start :: starts)

theorem chunkChain_range' {len step : ℕ} (count start : ℕ) (hlt : start + step * count < len)
    (hend : len ≤ start + step * count + step) :
    ChunkChain len step start (List.range' start (count + 1) step) := by
  induction count generalizing start with
  | zero => exact .last hlt hend
  | succ count ih =>
      rw [Nat.mul_succ] at hlt hend
      rw [List.range'_succ]
      exact .next (by omega) (ih (start + step) (by omega) (by omega))

theorem chunkChain_chunkStarts {len step : ℕ} (hlen : 0 < len) (hstep : 0 < step) :
    ChunkChain len step 0 (chunkStarts len step) := by
  have hcount : (len + step - 1) / step = (len - 1) / step + 1 := by
    rw [show len + step - 1 = len - 1 + step by omega, Nat.add_div_right _ hstep]
  have hdiv := Nat.div_add_mod (len - 1) step
  have hmod := Nat.mod_lt (len - 1) hstep
  rw [chunkStarts, hcount]
  exact chunkChain_range' _ 0 (by omega) (by omega)

/-! ## What a receiver reads -/

def moreFragments (packet : Bytes) : Bool := u16Field packet 6 &&& ipv4Mf != 0

/-- **A fragment of a packet**: its total length and checksum are its own, and its header is
the packet's up to these and the flags and offset word, of which the two upper flags are. -/
structure FragmentOf (packet fragment : Bytes) : Prop where
  total_length : (u16Field fragment 2).toNat = fragment.length
  checksum_valid : Ipv4ChecksumValid fragment
  header : ∀ i < ipv4HeaderLen, i ∉ [2, 3, 6, 7, 10, 11] → fragment[i]? = packet[i]?
  flags : u16Field fragment 6 &&& (ipv4Reserved ||| ipv4Df) =
    u16Field packet 6 &&& (ipv4Reserved ||| ipv4Df)

/-- **Fragments in a row from an offset**: each starts where the one before ended.  All but the
last have More Fragments set and a payload of a positive multiple of eight bytes; the last has
the flag of the packet. -/
inductive FragmentChain (packet : Bytes) : ℕ → List Bytes → Prop
  | last {fragment : Bytes} (hmore : moreFragments fragment = moreFragments packet) :
      FragmentChain packet (fragmentOffset fragment) [fragment]
  | next {fragment : Bytes} {fragments : List Bytes} (hmore : moreFragments fragment = true)
      (hpositive : 0 < (fragmentPayload fragment).length)
      (haligned : 8 ∣ (fragmentPayload fragment).length)
      (hrest : FragmentChain packet
        (fragmentOffset fragment + (fragmentPayload fragment).length) fragments) :
      FragmentChain packet (fragmentOffset fragment) (fragment :: fragments)

/-- **The fragmentation of a packet.** -/
structure IsFragmentation (packet : Bytes) (fragments : List Bytes) : Prop where
  each : ∀ fragment ∈ fragments, FragmentOf packet fragment
  chain : FragmentChain packet (fragmentOffset packet) fragments
  payload : (fragments.map fragmentPayload).flatten = fragmentPayload packet

section FragmentAt

variable {header : Ipv4Header} {payload : Bytes} {maxPayload chunkStart : ℕ}

theorem Ipv4Header.getElem?_totalLen (header : Ipv4Header) (v : UInt16) {i : ℕ} (hhi : i ≠ 2)
    (hlo : i ≠ 3) : { header with totalLen := v }.bytes[i]? = header.bytes[i]? := by
  change ([header.versionIhl, header.tos] ++ (u16ToBe v ++ _))[i]? =
    ([header.versionIhl, header.tos] ++ (u16ToBe header.totalLen ++ _))[i]?
  exact getElem?_u16_congr _ _ hhi hlo

theorem Ipv4Header.getElem?_fragment (header : Ipv4Header) (v : UInt16) {i : ℕ} (hhi : i ≠ 6)
    (hlo : i ≠ 7) : { header with fragment := v }.bytes[i]? = header.bytes[i]? := by
  change ([header.versionIhl, header.tos] ++ (u16ToBe header.totalLen ++ u16ToBe header.ident) ++
      (u16ToBe v ++ _))[i]? =
    ([header.versionIhl, header.tos] ++ (u16ToBe header.totalLen ++ u16ToBe header.ident) ++
      (u16ToBe header.fragment ++ _))[i]?
  exact getElem?_u16_congr _ _ hhi hlo

theorem Ipv4Header.getElem?_checksum (header : Ipv4Header) (v : UInt16) {i : ℕ} (hhi : i ≠ 10)
    (hlo : i ≠ 11) : { header with checksum := v }.bytes[i]? = header.bytes[i]? :=
  getElem?_u16_congr _ _ hhi hlo

/-- A header with another length, flags and offset, and checksum, byte by byte. -/
theorem Ipv4Header.getElem?_bytes_congr (header : Ipv4Header) (totalLen fragment checksum : UInt16)
    {i : ℕ} (hi : i ∉ [2, 3, 6, 7, 10, 11]) :
    { header with totalLen, fragment, checksum }.bytes[i]? = header.bytes[i]? := by
  simp only [List.mem_cons, List.not_mem_nil, or_false, not_or] at hi
  obtain ⟨h₂, h₃, h₆, h₇, h₁₀, h₁₁⟩ := hi
  calc { header with totalLen, fragment, checksum }.bytes[i]?
      = { header with totalLen, fragment }.bytes[i]? :=
        getElem?_checksum { header with totalLen, fragment } checksum h₁₀ h₁₁
    _ = { header with totalLen }.bytes[i]? :=
        getElem?_fragment { header with totalLen } fragment h₆ h₇
    _ = header.bytes[i]? := header.getElem?_totalLen totalLen h₂ h₃

theorem u16Field_six (header : Ipv4Header) (body : Bytes) :
    u16Field (header.bytes ++ body) 6 = header.fragment :=
  u16OfBe_toBe header.fragment

theorem moreFragments_bytes (header : Ipv4Header) (body : Bytes) :
    moreFragments (header.bytes ++ body) = (header.fragment &&& ipv4Mf != 0) := by
  rw [moreFragments, u16Field_six]

theorem moreFragments_fragmentAt (h : header.Fragmentable payload)
    (hstart : chunkStart ≤ payload.length) :
    moreFragments (header.fragmentAt payload maxPayload chunkStart) =
      (moreFragments (header.bytes ++ payload) ||
        decide (chunkEnd payload.length maxPayload chunkStart < payload.length)) := by
  have hflag : (header.fragmentHeader payload.length maxPayload chunkStart).fragment &&& ipv4Mf =
      _ := flagsOffset_and_mf _ _ (h.offset_le hstart)
  rw [Ipv4Header.fragmentAt, moreFragments_bytes, moreFragments_bytes, hflag]
  generalize (header.fragment &&& ipv4Mf != 0 ||
    decide (chunkEnd payload.length maxPayload chunkStart < payload.length)) = more
  cases more <;> decide

/-- A fragment has the header of the packet, but for length, offset and checksum. -/
theorem fragmentOf_fragmentAt (hsized : header.IsSized payload) (h : header.Fragmentable payload)
    (hstart : chunkStart ≤ payload.length) :
    FragmentOf (header.bytes ++ payload) (header.fragmentAt payload maxPayload chunkStart) := by
  have hdatagram := hsized.fragmentHeader maxPayload hstart
  refine ⟨?_, hdatagram.ipv4ChecksumValid, fun i hi hother => ?_, ?_⟩
  · rw [Ipv4Header.fragmentAt, List.length_append, ← hdatagram.totalLen_eq]
    exact congrArg UInt16.toNat (u16OfBe_toBe _)
  · have hlen := h.length_bytes
    rw [Ipv4Header.fragmentAt, List.getElem?_append_left, List.getElem?_append_left (by omega)]
    · exact header.getElem?_bytes_congr _ _ _ hother
    · rw [Ipv4Header.length_bytes]
      rw [Ipv4Header.length_bytes] at hlen
      exact hlen ▸ hi
  · have hhigh : (header.fragmentHeader payload.length maxPayload chunkStart).fragment &&&
        (ipv4Reserved ||| ipv4Df) = _ := flagsOffset_and_high _ _ (h.offset_le hstart)
    have hown : header.fragment &&& (ipv4Reserved ||| ipv4Df) =
        header.fragment &&& ipv4Reserved := by
      rw [UInt16.and_comm, or_and_distrib, UInt16.and_comm ipv4Df, h.df, UInt16.or_zero,
        UInt16.and_comm]
    rw [Ipv4Header.fragmentAt, u16Field_six, u16Field_six, hhigh, hown]

/-- A fragment fits the tunnel. -/
theorem length_fragmentAt_le (h : header.Fragmentable payload) {tunnelMtu : ℕ}
    (hroom : ipv4HeaderLen ≤ tunnelMtu) (hstart : chunkStart ≤ payload.length) :
    (header.fragmentAt payload (maxPayloadFor tunnelMtu ipv4HeaderLen) chunkStart).length
      ≤ tunnelMtu := by
  have hheader : (header.fragmentHeader payload.length (maxPayloadFor tunnelMtu ipv4HeaderLen)
      chunkStart).bytes.length = ipv4HeaderLen := by
    rw [← h.length_bytes, Ipv4Header.length_bytes, Ipv4Header.length_bytes]
    rfl
  rw [Ipv4Header.fragmentAt, List.length_append, hheader, length_cut_chunk hstart]
  simp only [chunkEnd, maxPayloadFor]
  omega

/-- A chunk that is not the last is full. -/
theorem chunkEnd_of_lt {len start : ℕ} (h : start + maxPayload < len) :
    chunkEnd len maxPayload start = start + maxPayload :=
  Nat.min_eq_left h.le

/-- The last chunk is the rest. -/
theorem chunkEnd_of_le {len start : ℕ} (h : len ≤ start + maxPayload) :
    chunkEnd len maxPayload start = len :=
  Nat.min_eq_right h

/-- **The chunks of a chain are a chain of fragments**: by induction over the chunk starts. -/
theorem fragmentChain_of_chunkChain (hsized : header.IsSized payload)
    (h : header.Fragmentable payload) (haligned : 8 ∣ maxPayload) (hpositive : 0 < maxPayload)
    {start : ℕ} {starts : List ℕ} (hstart : 8 ∣ start)
    (hchain : ChunkChain payload.length maxPayload start starts) :
    FragmentChain (header.bytes ++ payload) (fragmentOffset (header.bytes ++ payload) + start)
      (starts.map (header.fragmentAt payload maxPayload)) := by
  induction hchain with
  | @last start hlt hend =>
      rw [← fragmentOffset_fragmentAt h hlt.le hstart]
      refine .last ?_
      rw [moreFragments_fragmentAt h hlt.le, chunkEnd_of_le hend,
        decide_eq_false (lt_irrefl _), Bool.or_false]
  | @next start starts hlt hrest ih =>
      have hle : start ≤ payload.length := by omega
      have hstop := chunkEnd_of_lt hlt
      have hlen : (fragmentPayload (header.fragmentAt payload maxPayload start)).length =
          maxPayload := by
        rw [fragmentPayload_fragmentAt hsized _ hle, length_cut_chunk hle, hstop]
        omega
      rw [List.map_cons, ← fragmentOffset_fragmentAt h hle hstart]
      refine .next ?_ (by omega) (by rw [hlen]; exact haligned) ?_
      · rw [moreFragments_fragmentAt h hle, hstop, decide_eq_true hlt, Bool.or_true]
      · rw [hlen, fragmentOffset_fragmentAt h hle hstart, Nat.add_assoc]
        exact ih (hstart.add haligned)

theorem flatten_payload_of_chunkChain (hsized : header.IsSized payload) {start : ℕ}
    {starts : List ℕ} (hchain : ChunkChain payload.length maxPayload start starts) :
    ((starts.map (header.fragmentAt payload maxPayload)).map fragmentPayload).flatten =
      payload.drop start := by
  induction hchain with
  | @last start hlt hend =>
      simp only [List.map_cons, List.map_nil, List.flatten_singleton]
      rw [fragmentPayload_fragmentAt hsized _ hlt.le, chunkEnd_of_le hend, Piece.cut,
        List.take_length]
  | @next start starts hlt hrest ih =>
      rw [List.map_cons, List.map_cons, List.flatten_cons, ih,
        fragmentPayload_fragmentAt hsized _ (by omega), chunkEnd_of_lt hlt]
      exact take_drop_append_drop payload (by omega)

end FragmentAt

/-- **What is returned for a packet** fits the tunnel, and is its fragmentation unless it is
the packet itself. -/
theorem isFragmentation_of_eq_ok {packet : Bytes} {tunnelMtu : ℕ} {fragments : List Bytes}
    (h : fragmentIpv4ForTunnel packet tunnelMtu = .ok fragments) :
    fragments ≠ [] ∧ (∀ fragment ∈ fragments, fragment.length ≤ tunnelMtu) ∧
      (fragments ≠ [packet] → IsFragmentation packet fragments) := by
  obtain ⟨header, payload, rfl, hsized, hsame | hcut⟩ := fragmentIpv4ForTunnel_eq_ok h
  · obtain ⟨hfits, rfl⟩ := hsame
    refine ⟨List.cons_ne_nil _ _, ?_, fun hother => absurd rfl hother⟩
    intro fragment hmem
    rw [List.mem_singleton.mp hmem]
    exact hfits
  · obtain ⟨hlarge, hroom, hfragmentable, rfl⟩ := hcut
    have hpositive := maxPayloadFor_pos hroom
    have haligned := dvd_maxPayloadFor tunnelMtu ipv4HeaderLen
    have hheader := hfragmentable.length_bytes
    have hpayload : 0 < payload.length := by
      rw [List.length_append] at hlarge
      omega
    have hchain := chunkChain_chunkStarts hpayload hpositive
    refine ⟨?_, ?_, fun _ => ⟨?_, ?_, ?_⟩⟩
    · rw [ne_eq, List.map_eq_nil_iff]
      exact List.ne_nil_of_mem
        ((mem_chunkStarts_iff hpositive).mpr ⟨dvd_zero _, hpayload⟩)
    · intro fragment hmem
      obtain ⟨start, hstart, rfl⟩ := List.mem_map.mp hmem
      have hlt := ((mem_chunkStarts_iff hpositive).mp hstart).2
      exact length_fragmentAt_le hfragmentable (by omega) hlt.le
    · intro fragment hmem
      obtain ⟨start, hstart, rfl⟩ := List.mem_map.mp hmem
      have hlt := ((mem_chunkStarts_iff hpositive).mp hstart).2
      exact fragmentOf_fragmentAt hsized hfragmentable hlt.le
    · exact fragmentChain_of_chunkChain hsized hfragmentable haligned hpositive (dvd_zero 8) hchain
    · rw [fragmentPayload_bytes hsized]
      exact flatten_payload_of_chunkChain hsized hchain

/-- **The fragments of a packet for a tunnel.**  Whatever is returned for a packet is not
empty, and each of it fits the tunnel.  If it is not the packet itself, then each is a
fragment of it, they follow each other from the packet's own offset, and their payloads
together are the packet's.  The error for an offset that overflows is returned only if the end
of the payload is not representable, so that the check for each fragment never fails. -/
theorem fragmentIpv4ForTunnel_isFragmentation (packet : Bytes) (tunnelMtu : ℕ) :
    (∀ fragments, fragmentIpv4ForTunnel packet tunnelMtu = .ok fragments →
      fragments ≠ [] ∧ (∀ fragment ∈ fragments, fragment.length ≤ tunnelMtu) ∧
        (fragments ≠ [packet] → IsFragmentation packet fragments)) ∧
    (fragmentIpv4ForTunnel packet tunnelMtu = .err .fragmentOffsetOverflow →
      65535 - ipv4HeaderLen < fragmentOffset packet + (fragmentPayload packet).length) :=
  ⟨fun _ h => isFragmentation_of_eq_ok h, fragmentIpv4ForTunnel_overflow⟩

/-- The header of a fragment in the middle of its datagram, with the reserved flag set. -/
def middleHeader : Ipv4Header :=
  Ipv4Header.withChecksum
    { versionIhl := 0x45, tos := 2, totalLen := 44, ident := 7, fragment := 0xa003, ttl := 9
      protocol := 17, checksum := 0, source := .new 198 51 100 1
      destination := .new 232 1 1 1, options := [] }

def middlePacket : Bytes := middleHeader.bytes ++ List.replicate 24 0xaa

theorem fragmentIpv4ForTunnel_middle :
    ∃ first second, fragmentIpv4ForTunnel middlePacket 36 = .ok [first, second] ∧
      IsFragmentation middlePacket [first, second] := by
  have hrun : fragmentIpv4ForTunnel middlePacket 36
      = .ok [middleHeader.fragmentAt (List.replicate 24 0xaa) 16 0,
          middleHeader.fragmentAt (List.replicate 24 0xaa) 16 16] := by decide +kernel
  obtain ⟨-, -, hcut⟩ := (fragmentIpv4ForTunnel_isFragmentation middlePacket 36).1 _ hrun
  exact ⟨_, _, hrun, hcut (by simp)⟩

end Amt

import Amt.Packet
import Amt.Lib.Reassembly

/-!
# Fragmentation in front of the tunnel

An IPv4 datagram that does not fit the tunnel is cut into fragments by the relay.  Each
fragment is a copy of the header with its own length, flags, offset and checksum, followed
by a part of the payload; all but the last part are multiples of eight bytes, as the
offset field counts in units of eight.

* **The model** follows `fragment_ipv4_for_tunnel` check by check, over a `Target`; the loop is
  `fragmentChunks` over the chunk starts.
* **The result** (`fragmentIpv4ForTunnel_cases`): an oversized datagram without options, with
  DF clear, whose end is representable and whose payload can be continued if more fragments
  follow, is cut into the fragments `Ipv4Header.fragmentAt`; every other one is refused.
  Each of them is a well-formed datagram with the same addresses
  (`Ipv4Header.IsSized.fragmentHeader`).
* **Reassembly** (`reassemblePayload_fragments`): a receiver that writes the payloads of
  the fragments at their offsets, in any order, has the payload of the datagram.
-/

namespace Amt

open Outcome (ensure bind_ok ensure_of ensure_of_not)
open Target (check fits representable reserve)

/-! ## The algorithm -/

def ipv4HeaderLen : ℕ := 20

/-- Do not fragment. -/
def ipv4Df : UInt16 := 0x4000

/-- More fragments. -/
def ipv4Mf : UInt16 := 0x2000

def ipv4Reserved : UInt16 := 0x8000

/-- The offset, in units of eight bytes. -/
def ipv4OffsetMask : UInt16 := 0x1fff

/-- Why a packet cannot be fragmented. -/
inductive Ipv4FragmentError where
  | invalidPacket
  | dontFragment
  | headerOptions
  | mtuTooSmall
  | fragmentOffsetOverflow
deriving DecidableEq, Repr

section Fragment

variable [Target]

/-- One iteration of the loop: the fragment that starts at `chunkStart` of the payload. -/
def fragmentChunk (packet payload : Bytes) (headerLen maxPayload : ℕ) (fragmentField : UInt16)
    (chunkStart : ℕ) : Outcome Ipv4FragmentError Bytes := do
  fits (chunkStart + maxPayload)
  let chunkEnd := min (chunkStart + maxPayload) payload.length
  let chunk ← slice payload chunkStart chunkEnd
  let offset := (fragmentField &&& ipv4OffsetMask).toNat + chunkStart / 8
  ensure (representable offset) .fragmentOffsetOverflow
  ensure (offset ≤ ipv4OffsetMask.toNat) .fragmentOffsetOverflow
  let moreFragments := fragmentField &&& ipv4Mf != 0 || chunkEnd < payload.length
  let fragmentLen := headerLen + chunk.length
  fits fragmentLen
  reserve (.fragment fragmentLen)
  let fragment := (← slice packet 0 headerLen) ++ chunk
  let fragment ← copyInto fragment 2 4 (u16ToBe (UInt16.ofNat fragmentLen))
  check (moreFragments.toNat * ipv4Mf.toNat ≤ 65535)
  let flagsOffset := (fragmentField &&& ipv4Reserved) ||| (if moreFragments then ipv4Mf else 0) |||
    UInt16.ofNat offset
  let fragment ← copyInto fragment 6 8 (u16ToBe flagsOffset)
  let fragment ← copyInto fragment 10 12 [0, 0]
  let header ← slice fragment 0 headerLen
  sumFits [header]
  copyInto fragment 10 12 (u16ToBe (checksum header))

/-- The loop over the chunk starts. -/
def fragmentChunks (packet payload : Bytes) (headerLen maxPayload : ℕ) (fragmentField : UInt16) :
    List ℕ → Outcome Ipv4FragmentError (List Bytes)
  | [] => pure []
  | chunkStart :: rest => do
      let fragment ← fragmentChunk packet payload headerLen maxPayload fragmentField chunkStart
      let fragments ← fragmentChunks packet payload headerLen maxPayload fragmentField rest
      pure (fragment :: fragments)

end Fragment

/-- `(0..len).step_by(step)`. -/
def chunkStarts (len step : ℕ) : List ℕ := List.range' 0 ((len + step - 1) / step) step

/-- The payload bytes a fragment has room for; offsets count in units of eight. -/
def maxPayloadFor (tunnelMtu headerLen : ℕ) : ℕ := (tunnelMtu - headerLen) / 8 * 8

section Fragment

variable [Target]

/-- The second half of `fragment_ipv4_for_tunnel`, for a packet that does not fit.  The ends are
computed with `checked_mul` and `checked_add`; `div_ceil` and `step_by` panic at zero. -/
def fragmentOversized (packet : Bytes) (headerLen tunnelMtu : ℕ) :
    Outcome Ipv4FragmentError (List Bytes) := do
  ensure (headerLen = ipv4HeaderLen) .headerOptions
  let fragmentField ← u16At packet 6
  ensure (fragmentField &&& ipv4Df = 0) .dontFragment
  let maxPayload := maxPayloadFor tunnelMtu headerLen
  fits maxPayload
  ensure (headerLen ≤ tunnelMtu ∧ 8 ≤ maxPayload) .mtuTooSmall
  let payload ← sliceFrom packet headerLen
  ensure (¬ (payload = [] ∨ (fragmentField &&& ipv4Mf ≠ 0 ∧ ¬ 8 ∣ payload.length)))
    .invalidPacket
  let payloadEnd := (fragmentField &&& ipv4OffsetMask).toNat * 8 + payload.length
  ensure (representable payloadEnd) .fragmentOffsetOverflow
  check (headerLen ≤ 65535)
  ensure (payloadEnd ≤ 65535 - headerLen) .fragmentOffsetOverflow
  check (maxPayload ≠ 0)
  reserve (.fragments ((payload.length + maxPayload - 1) / maxPayload))
  fragmentChunks packet payload headerLen maxPayload fragmentField
    (chunkStarts payload.length maxPayload)

/-- The fragments of a packet, each within the MTU; a packet that fits is returned as it is. -/
def fragmentIpv4ForTunnel (packet : Bytes) (tunnelMtu : ℕ) :
    Outcome Ipv4FragmentError (List Bytes) := do
  ensure (¬ packet.length < ipv4HeaderLen) .invalidPacket
  let first ← byteAt packet 0
  ensure (first >>> 4 = 4) .invalidPacket
  let headerLen := (first &&& 0x0f).toNat * 4
  fits headerLen
  ensure (¬ (headerLen < ipv4HeaderLen ∨ headerLen > packet.length)) .invalidPacket
  let totalLen := (← u16At packet 2).toNat
  ensure (¬ (totalLen ≠ packet.length ∨ totalLen < headerLen)) .invalidPacket
  if totalLen ≤ tunnelMtu then do
    reserve (.fragment packet.length)
    pure [packet]
  else fragmentOversized packet headerLen tunnelMtu

end Fragment

/-! ## The fragments -/

/-- Where a chunk ends. -/
def chunkEnd (len maxPayload chunkStart : ℕ) : ℕ := min (chunkStart + maxPayload) len

/-- The chunks start at the multiples of the step. -/
theorem mem_chunkStarts_iff {len step start : ℕ} (hstep : 0 < step) :
    start ∈ chunkStarts len step ↔ step ∣ start ∧ start < len := by
  have hcount : ∀ i, i < (len + step - 1) / step ↔ step * i < len := by
    intro i
    rw [Nat.lt_iff_add_one_le, Nat.le_div_iff_mul_le hstep, Nat.add_mul, Nat.one_mul,
      Nat.mul_comm i]
    omega
  rw [chunkStarts, List.mem_range']
  constructor
  · rintro ⟨i, hi, rfl⟩
    rw [Nat.zero_add]
    exact ⟨⟨i, rfl⟩, (hcount i).mp hi⟩
  · rintro ⟨⟨i, rfl⟩, hlt⟩
    exact ⟨i, (hcount i).mpr hlt, (Nat.zero_add _).symm⟩

namespace Ipv4Header

/-- The offset field of a header, in units of eight bytes. -/
def fragmentOffset (header : Ipv4Header) : ℕ := (header.fragment &&& ipv4OffsetMask).toNat

/-- The header of the fragment that starts at `chunkStart` of a payload of length `len`. -/
def fragmentHeader (header : Ipv4Header) (len maxPayload chunkStart : ℕ) : Ipv4Header :=
  let chunkEnd := chunkEnd len maxPayload chunkStart
  let moreFragments := header.fragment &&& ipv4Mf != 0 || chunkEnd < len
  { header with
    totalLen := UInt16.ofNat (header.bytes.length + (chunkEnd - chunkStart))
    fragment := (header.fragment &&& ipv4Reserved) ||| (if moreFragments then ipv4Mf else 0) |||
      UInt16.ofNat (header.fragmentOffset + chunkStart / 8) }.withChecksum

/-- **The fragment of a datagram** that starts at `chunkStart` of its payload. -/
def fragmentAt (header : Ipv4Header) (payload : Bytes) (maxPayload chunkStart : ℕ) : Bytes :=
  (header.fragmentHeader payload.length maxPayload chunkStart).bytes ++
    (Piece.cut payload chunkStart (chunkEnd payload.length maxPayload chunkStart)).data

/-! ### Writing header fields -/

theorem copyInto_totalLen {ε : Type*} (header : Ipv4Header) (body : Bytes) (v : UInt16) :
    (copyInto (header.bytes ++ body) 2 4 (u16ToBe v) : Outcome ε Bytes)
      = .ok ({ header with totalLen := v }.bytes ++ body) := by
  rw [copyInto, if_pos (by simp [length_bytes]; omega)]
  rfl

theorem copyInto_fragment {ε : Type*} (header : Ipv4Header) (body : Bytes) (v : UInt16) :
    (copyInto (header.bytes ++ body) 6 8 (u16ToBe v) : Outcome ε Bytes)
      = .ok ({ header with fragment := v }.bytes ++ body) := by
  rw [copyInto, if_pos (by simp [length_bytes]; omega)]
  rfl

end Ipv4Header

/-! ## What the loop computes -/

section Fragments

variable {header : Ipv4Header} {payload : Bytes} {maxPayload : ℕ}

/-- A turn of the loop writes the fragment of the model. -/
theorem fragmentChunk_eq {chunkStart : ℕ} (hstart : chunkStart ≤ payload.length)
    (hoffset : header.fragmentOffset + chunkStart / 8 ≤ ipv4OffsetMask.toNat) :
    fragmentChunk (header.bytes ++ payload) payload header.bytes.length maxPayload
        header.fragment chunkStart
      = .ok (header.fragmentAt payload maxPayload chunkStart) := by
  let stop := chunkEnd payload.length maxPayload chunkStart
  let chunk := (payload.take stop).drop chunkStart
  have hstop : chunkStart ≤ stop ∧ stop ≤ payload.length := by
    simp only [stop, chunkEnd]
    omega
  have hchunk : (slice payload chunkStart stop : Outcome Ipv4FragmentError Bytes) = .ok chunk :=
    if_pos hstop
  have hlen : chunk.length = stop - chunkStart := by
    simp only [chunk, List.length_drop, List.length_take]
    omega
  unfold fragmentChunk
  change (slice payload chunkStart stop >>= _) = _
  rw [hchunk, bind_ok]
  dsimp only
  rw [show (header.fragment &&& ipv4OffsetMask).toNat = header.fragmentOffset from rfl,
    ensure_of hoffset, bind_ok, header.slice_header payload rfl, bind_ok,
    Ipv4Header.copyInto_totalLen, bind_ok, Ipv4Header.copyInto_fragment, bind_ok, hlen]
  exact Ipv4Header.writeChecksum _ _ (by simp [Ipv4Header.length_bytes])

theorem fragmentChunks_eq {starts : List ℕ}
    (hstarts : ∀ start ∈ starts, start ≤ payload.length ∧
      header.fragmentOffset + start / 8 ≤ ipv4OffsetMask.toNat) :
    fragmentChunks (header.bytes ++ payload) payload header.bytes.length maxPayload
        header.fragment starts
      = .ok (starts.map (header.fragmentAt payload maxPayload)) := by
  induction starts with
  | nil => rfl
  | cons start starts ih =>
      obtain ⟨⟨hstart, hoffset⟩, hstarts⟩ := List.forall_mem_cons.mp hstarts
      rw [fragmentChunks, fragmentChunk_eq hstart hoffset, bind_ok, ih hstarts]
      rfl

theorem maxPayloadFor_pos {tunnelMtu headerLen : ℕ} (h : headerLen + 8 ≤ tunnelMtu) :
    0 < maxPayloadFor tunnelMtu headerLen := by
  simp only [maxPayloadFor]
  omega

theorem dvd_maxPayloadFor (tunnelMtu headerLen : ℕ) : 8 ∣ maxPayloadFor tunnelMtu headerLen :=
  Dvd.intro_left _ rfl

/-- **Fragmentable datagrams**: no options, DF clear, an end that the reassembled length
can state, and a payload that more fragments can follow if they do. -/
structure Ipv4Header.Fragmentable (header : Ipv4Header) (payload : Bytes) : Prop where
  options : header.options = []
  df : header.fragment &&& ipv4Df = 0
  mf : header.fragment &&& ipv4Mf ≠ 0 → 8 ∣ payload.length
  fits : header.fragmentOffset * 8 + payload.length ≤ 65535 - ipv4HeaderLen

theorem Ipv4Header.Fragmentable.length_bytes (h : header.Fragmentable payload) :
    header.bytes.length = ipv4HeaderLen := by
  rw [Ipv4Header.length_bytes, h.options]
  rfl

/-- An IPv6 datagram is refused for its version. -/
theorem Ipv6Header.IsDatagram.fragmentIpv4ForTunnel {header : Ipv6Header} {body : Bytes}
    (h : header.IsDatagram body) (tunnelMtu : ℕ) :
    ∃ error, fragmentIpv4ForTunnel (header.bytes ++ body) tunnelMtu = .err error := by
  have hlen : ¬ (header.bytes ++ body).length < ipv4HeaderLen := by
    rw [List.length_append, Ipv6Header.length_bytes, ipv4HeaderLen]
    omega
  have hversion : ¬ header.versionClass >>> 4 = 4 := by
    rw [h.version]
    decide
  have hfirst : (byteAt (header.bytes ++ body) 0 : Outcome Ipv4FragmentError UInt8)
      = .ok header.versionClass := rfl
  rw [Amt.fragmentIpv4ForTunnel, ensure_of hlen, bind_ok, hfirst,
    bind_ok, ensure_of_not hversion]
  exact ⟨_, rfl⟩

/-- The checks of the first half pass for a packet of the lengths its header states. -/
theorem fragmentIpv4ForTunnel_sized {tunnelMtu : ℕ} (hsized : header.IsSized payload) :
    fragmentIpv4ForTunnel (header.bytes ++ payload) tunnelMtu
      = if (header.bytes ++ payload).length ≤ tunnelMtu then .ok [header.bytes ++ payload]
        else fragmentOversized (header.bytes ++ payload) header.bytes.length tunnelMtu := by
  have hihl : (header.versionIhl &&& 0x0f).toNat * 4 = header.bytes.length := hsized.ihl_eq
  have hlength : header.totalLen.toNat = (header.bytes ++ payload).length := by
    rw [List.length_append, hsized.totalLen_eq]
  obtain ⟨hmin, hlen, htotal⟩ := hsized.lengths
  have hmin : ¬ (header.bytes ++ payload).length < ipv4HeaderLen := hmin
  have hlen : ¬ (header.bytes.length < ipv4HeaderLen ∨
      header.bytes.length > (header.bytes ++ payload).length) := hlen
  have htotal : ¬ (header.totalLen.toNat ≠ (header.bytes ++ payload).length ∨
      header.totalLen.toNat < header.bytes.length) := fun hor => htotal hor.symm
  simp only [fragmentIpv4ForTunnel, Ipv4Header.byteAt_zero, Ipv4Header.u16At_two, hihl,
    bind_ok]
  rw [ensure_of hmin, bind_ok, ensure_of hsized.version,
    bind_ok, ensure_of hlen, bind_ok, ensure_of htotal,
    bind_ok, hlength]
  rfl

theorem fragmentIpv4ForTunnel_small {tunnelMtu : ℕ} (hsized : header.IsSized payload)
    (hfits : (header.bytes ++ payload).length ≤ tunnelMtu) :
    fragmentIpv4ForTunnel (header.bytes ++ payload) tunnelMtu = .ok [header.bytes ++ payload] := by
  rw [fragmentIpv4ForTunnel_sized hsized, if_pos hfits]

theorem fragmentIpv4ForTunnel_large {tunnelMtu : ℕ} (hsized : header.IsSized payload)
    (hlarge : tunnelMtu < (header.bytes ++ payload).length) :
    fragmentIpv4ForTunnel (header.bytes ++ payload) tunnelMtu
      = fragmentOversized (header.bytes ++ payload) header.bytes.length tunnelMtu := by
  rw [fragmentIpv4ForTunnel_sized hsized, if_neg (not_le.mpr hlarge)]

/-- **The check in the loop never fails**: the end of the payload is representable, so that
every offset is. -/
theorem fragmentChunks_chunkStarts (hheader : header.bytes.length = ipv4HeaderLen)
    (hpositive : 0 < maxPayload)
    (hfits : header.fragmentOffset * 8 + payload.length ≤ 65535 - ipv4HeaderLen) :
    fragmentChunks (header.bytes ++ payload) payload ipv4HeaderLen maxPayload header.fragment
        (chunkStarts payload.length maxPayload)
      = .ok ((chunkStarts payload.length maxPayload).map
          (header.fragmentAt payload maxPayload)) := by
  rw [← hheader]
  refine fragmentChunks_eq fun start hmem => ?_
  have hlt := ((mem_chunkStarts_iff hpositive).mp hmem).2
  simp only [ipv4HeaderLen] at hfits
  change _ ∧ header.fragmentOffset + start / 8 ≤ 8191
  omega

/-- **An oversized datagram is cut if it can be**, into the fragments at the multiples of the
payload size, and refused if it cannot. -/
theorem fragmentIpv4ForTunnel_cases {tunnelMtu : ℕ} (hsized : header.IsSized payload)
    (hmtu : ipv4HeaderLen + 8 ≤ tunnelMtu)
    (hlarge : tunnelMtu < (header.bytes ++ payload).length) :
    (header.Fragmentable payload ∧
      fragmentIpv4ForTunnel (header.bytes ++ payload) tunnelMtu
        = .ok ((chunkStarts payload.length (maxPayloadFor tunnelMtu ipv4HeaderLen)).map
            (header.fragmentAt payload (maxPayloadFor tunnelMtu ipv4HeaderLen)))) ∨
    (¬ header.Fragmentable payload ∧
      ∃ error, fragmentIpv4ForTunnel (header.bytes ++ payload) tunnelMtu = .err error) := by
  rw [fragmentIpv4ForTunnel_large hsized hlarge, fragmentOversized, Ipv4Header.u16At_six,
    bind_ok]
  by_cases hheader : header.bytes.length = ipv4HeaderLen
  swap
  · rw [ensure_of_not hheader]
    exact .inr ⟨fun h => hheader h.length_bytes, _, rfl⟩
  have hpayload : tunnelMtu - ipv4HeaderLen < payload.length := by
    rw [List.length_append, hheader] at hlarge
    omega
  have hroom : ipv4HeaderLen ≤ tunnelMtu ∧ 8 ≤ maxPayloadFor tunnelMtu ipv4HeaderLen := by
    simp only [maxPayloadFor]
    omega
  rw [ensure_of hheader, bind_ok]
  by_cases hdf : header.fragment &&& ipv4Df = 0
  swap
  · rw [ensure_of_not hdf]
    exact .inr ⟨fun h => hdf h.df, _, rfl⟩
  rw [ensure_of hdf, bind_ok, hheader]
  dsimp only
  rw [ensure_of hroom, bind_ok, sliceFrom_append payload hheader.symm,
    bind_ok]
  by_cases hcontinued : payload = [] ∨ (header.fragment &&& ipv4Mf ≠ 0 ∧ ¬ 8 ∣ payload.length)
  · rw [ensure_of_not (not_not.mpr hcontinued)]
    refine .inr ⟨fun h => ?_, _, rfl⟩
    rcases hcontinued with rfl | ⟨hmf, hodd⟩
    · simp at hpayload
    · exact hodd (h.mf hmf)
  rw [ensure_of hcontinued, bind_ok]
  by_cases hfits : (header.fragment &&& ipv4OffsetMask).toNat * 8 + payload.length ≤
      65535 - ipv4HeaderLen
  swap
  · rw [ensure_of_not hfits]
    exact .inr ⟨fun h => hfits h.fits, _, rfl⟩
  rw [ensure_of hfits, bind_ok]
  have hloop := fragmentChunks_chunkStarts hheader
    (show 0 < maxPayloadFor tunnelMtu ipv4HeaderLen by omega) hfits
  refine .inl ⟨⟨?_, hdf, fun hmf => ?_, hfits⟩, hloop⟩
  · rw [Ipv4Header.length_bytes, ipv4HeaderLen] at hheader
    exact List.length_eq_zero_iff.mp (by omega)
  · by_contra hodd
    exact hcontinued (.inr ⟨hmf, hodd⟩)

theorem length_cut_chunk {maxPayload chunkStart : ℕ} (hstart : chunkStart ≤ payload.length) :
    (Piece.cut payload chunkStart (chunkEnd payload.length maxPayload chunkStart)).data.length =
      chunkEnd payload.length maxPayload chunkStart - chunkStart := by
  simp only [Piece.cut, chunkEnd, List.length_drop, List.length_take]
  omega

/-- **A fragment is a datagram** with the addresses of the whole, and with a valid checksum
whatever that of the whole was. -/
theorem Ipv4Header.IsSized.fragmentHeader (h : header.IsSized payload)
    (maxPayload : ℕ) {chunkStart : ℕ} (hstart : chunkStart ≤ payload.length) :
    (header.fragmentHeader payload.length maxPayload chunkStart).IsDatagram
      (Piece.cut payload chunkStart (chunkEnd payload.length maxPayload chunkStart)).data where
  version := h.version
  ihl_eq := by
    rw [Ipv4Header.length_bytes]
    exact h.ihl_eq.trans (Ipv4Header.length_bytes header)
  totalLen_eq := by
    have hlen : (header.fragmentHeader payload.length maxPayload chunkStart).bytes.length =
        header.bytes.length := by
      rw [Ipv4Header.length_bytes, Ipv4Header.length_bytes]
      rfl
    have htotal := header.totalLen.toNat_lt
    rw [h.totalLen_eq] at htotal
    rw [hlen, length_cut_chunk hstart]
    refine UInt16.toNat_ofNat_of_lt' ?_
    change _ < 65536
    simp only [chunkEnd]
    omega
  checksum_valid := Ipv4Header.onesComplementSum_withChecksum _

end Fragments

/-! ## Reassembly -/

/-- The offset of the payload of a fragment, in bytes. -/
def fragmentOffset (packet : Bytes) : ℕ :=
  (u16OfBe (packet.getD 6 0) (packet.getD 7 0) &&& ipv4OffsetMask).toNat * 8

/-- What follows the IPv4 header. -/
def fragmentPayload (packet : Bytes) : Bytes :=
  packet.drop ((packet.getD 0 0 &&& 0x0f).toNat * 4)

/-- The payloads of fragments, put together by their offsets; the offsets count from
`base`, which is zero unless the datagram was a fragment itself. -/
def reassemblePayload (base : ℕ) (packets : List Bytes) : Bytes :=
  reassemble 0 (packets.map fun packet => ⟨fragmentOffset packet - base, fragmentPayload packet⟩)

/-! ### The flags and offset word -/

theorem or_and_distrib (a b mask : UInt16) : (a ||| b) &&& mask = (a &&& mask) ||| (b &&& mask) :=
  UInt16.toBitVec_inj.mp (by simp [BitVec.and_or_distrib_right])

theorem ofNat_and_offsetMask {offset : ℕ} (hoffset : offset ≤ ipv4OffsetMask.toNat) :
    UInt16.ofNat offset &&& ipv4OffsetMask = UInt16.ofNat offset := by
  have hsmall : (UInt16.ofNat offset).toNat = offset :=
    UInt16.toNat_ofNat_of_lt' (lt_of_le_of_lt hoffset (by decide))
  apply UInt16.toNat_inj.mp
  rw [UInt16.toNat_and, hsmall]
  change offset &&& (2 ^ 13 - 1) = _
  rw [Nat.and_two_pow_sub_one_eq_mod]
  exact Nat.mod_eq_of_lt (Nat.lt_succ_of_le hoffset)

/-- **The word under a mask**: each of its three parts is, and they have no bit in common. -/
theorem flagsOffset_and (fragment : UInt16) (more : Bool) {offset : ℕ}
    (hoffset : offset ≤ ipv4OffsetMask.toNat) (mask : UInt16) :
    ((fragment &&& ipv4Reserved) ||| (if more then ipv4Mf else 0) ||| UInt16.ofNat offset) &&&
        mask =
      (fragment &&& (ipv4Reserved &&& mask)) ||| ((if more then ipv4Mf else 0) &&& mask) |||
        (UInt16.ofNat offset &&& (ipv4OffsetMask &&& mask)) := by
  rw [or_and_distrib, or_and_distrib, UInt16.and_assoc fragment,
    ← UInt16.and_assoc _ ipv4OffsetMask, ofNat_and_offsetMask hoffset]

/-- The offset field of the flags and offset word. -/
theorem flagsOffset_and_mask (fragment : UInt16) (more : Bool) {offset : ℕ}
    (hoffset : offset ≤ ipv4OffsetMask.toNat) :
    (((fragment &&& ipv4Reserved) ||| (if more then ipv4Mf else 0) ||| UInt16.ofNat offset) &&&
      ipv4OffsetMask).toNat = offset := by
  have hreserved : ipv4Reserved &&& ipv4OffsetMask = 0 := by decide
  have hmore : (if more then ipv4Mf else 0) &&& ipv4OffsetMask = 0 := by
    cases more <;> decide
  rw [flagsOffset_and fragment more hoffset, hreserved, hmore, UInt16.and_self,
    ofNat_and_offsetMask hoffset, UInt16.and_zero, UInt16.or_self, UInt16.zero_or]
  exact UInt16.toNat_ofNat_of_lt' (lt_of_le_of_lt hoffset (by decide))

/-- The More Fragments flag of the word. -/
theorem flagsOffset_and_mf (fragment : UInt16) (more : Bool) {offset : ℕ}
    (hoffset : offset ≤ ipv4OffsetMask.toNat) :
    ((fragment &&& ipv4Reserved) ||| (if more then ipv4Mf else 0) ||| UInt16.ofNat offset) &&&
      ipv4Mf = if more then ipv4Mf else 0 := by
  have hreserved : ipv4Reserved &&& ipv4Mf = 0 := by decide
  have hmask : ipv4OffsetMask &&& ipv4Mf = 0 := by decide
  have hmore : (if more then ipv4Mf else 0) &&& ipv4Mf = if more then ipv4Mf else 0 := by
    cases more <;> decide
  rw [flagsOffset_and fragment more hoffset, hreserved, hmore, hmask, UInt16.and_zero,
    UInt16.and_zero, UInt16.zero_or, UInt16.or_zero]

/-- The other two flags: the reserved one is kept, and DF is clear. -/
theorem flagsOffset_and_high (fragment : UInt16) (more : Bool) {offset : ℕ}
    (hoffset : offset ≤ ipv4OffsetMask.toNat) :
    ((fragment &&& ipv4Reserved) ||| (if more then ipv4Mf else 0) ||| UInt16.ofNat offset) &&&
      (ipv4Reserved ||| ipv4Df) = fragment &&& ipv4Reserved := by
  have hreserved : ipv4Reserved &&& (ipv4Reserved ||| ipv4Df) = ipv4Reserved := by decide
  have hmask : ipv4OffsetMask &&& (ipv4Reserved ||| ipv4Df) = 0 := by decide
  have hmore : (if more then ipv4Mf else 0) &&& (ipv4Reserved ||| ipv4Df) = 0 := by
    cases more <;> decide
  rw [flagsOffset_and fragment more hoffset, hreserved, hmore, hmask, UInt16.and_zero,
    UInt16.or_zero, UInt16.or_zero]

section Reassembly

variable {header : Ipv4Header} {body : Bytes}

theorem fragmentOffset_bytes :
    fragmentOffset (header.bytes ++ body) = header.fragmentOffset * 8 := by
  change (u16OfBe (UInt8.ofNat (header.fragment.toNat / 256)) header.fragment.toUInt8 &&&
    ipv4OffsetMask).toNat * 8 = _
  rw [u16OfBe_toBe]
  rfl

theorem fragmentPayload_bytes (h : header.IsSized body) :
    fragmentPayload (header.bytes ++ body) = body := by
  change (header.bytes ++ body).drop header.ihl = body
  rw [h.ihl_eq, List.drop_left]

variable {payload : Bytes}

theorem Ipv4Header.Fragmentable.offset_le (h : header.Fragmentable payload) {chunkStart : ℕ}
    (hstart : chunkStart ≤ payload.length) :
    header.fragmentOffset + chunkStart / 8 ≤ ipv4OffsetMask.toNat := by
  have hfits := h.fits
  simp only [ipv4HeaderLen] at hfits
  change _ ≤ 8191
  omega

theorem fragmentOffset_fragmentAt (h : header.Fragmentable payload) {maxPayload chunkStart : ℕ}
    (hstart : chunkStart ≤ payload.length) (haligned : 8 ∣ chunkStart) :
    fragmentOffset (header.fragmentAt payload maxPayload chunkStart) =
      fragmentOffset (header.bytes ++ payload) + chunkStart := by
  have hfield : (header.fragmentHeader payload.length maxPayload chunkStart).fragmentOffset =
      header.fragmentOffset + chunkStart / 8 := flagsOffset_and_mask _ _ (h.offset_le hstart)
  rw [Ipv4Header.fragmentAt, fragmentOffset_bytes, fragmentOffset_bytes, hfield]
  omega

theorem fragmentPayload_fragmentAt (hsized : header.IsSized payload) (maxPayload : ℕ)
    {chunkStart : ℕ} (hstart : chunkStart ≤ payload.length) :
    fragmentPayload (header.fragmentAt payload maxPayload chunkStart) =
      (Piece.cut payload chunkStart (chunkEnd payload.length maxPayload chunkStart)).data :=
  fragmentPayload_bytes (hsized.fragmentHeader maxPayload hstart).toIsSized

/-- A fragment, seen by the receiver, is a piece of the payload. -/
theorem piece_fragmentAt (hsized : header.IsSized payload) (h : header.Fragmentable payload)
    {maxPayload chunkStart : ℕ} (hstart : chunkStart ≤ payload.length) (haligned : 8 ∣ chunkStart) :
    (⟨fragmentOffset (header.fragmentAt payload maxPayload chunkStart) -
        fragmentOffset (header.bytes ++ payload),
      fragmentPayload (header.fragmentAt payload maxPayload chunkStart)⟩ : Piece UInt8) =
      .cut payload chunkStart (chunkEnd payload.length maxPayload chunkStart) := by
  rw [fragmentOffset_fragmentAt h hstart haligned, fragmentPayload_fragmentAt hsized _ hstart,
    Nat.add_sub_cancel_left]
  rfl

/-- **The fragments give the payload back**, in any order, and with any of them received
more than once. -/
theorem reassemblePayload_fragments (hsized : header.IsSized payload)
    (h : header.Fragmentable payload) {maxPayload : ℕ} (hpositive : 0 < maxPayload)
    (haligned : 8 ∣ maxPayload) {received : List Bytes}
    (hreceived : ∀ packet, packet ∈ received ↔
      packet ∈ (chunkStarts payload.length maxPayload).map
        (header.fragmentAt payload maxPayload)) :
    reassemblePayload (fragmentOffset (header.bytes ++ payload)) received = payload := by
  have hpiece : ∀ start ∈ chunkStarts payload.length maxPayload,
      (⟨fragmentOffset (header.fragmentAt payload maxPayload start) -
          fragmentOffset (header.bytes ++ payload),
        fragmentPayload (header.fragmentAt payload maxPayload start)⟩ : Piece UInt8) =
        .cut payload start (chunkEnd payload.length maxPayload start) := by
    intro start hmem
    obtain ⟨hstep, hlt⟩ := (mem_chunkStarts_iff hpositive).mp hmem
    exact piece_fragmentAt hsized h hlt.le (haligned.trans hstep)
  refine reassemble_eq ?_ ?_ 0
  · intro piece hmem
    obtain ⟨packet, hpacket, rfl⟩ := List.mem_map.mp hmem
    obtain ⟨start, hstart, rfl⟩ := List.mem_map.mp ((hreceived packet).mp hpacket)
    have hlt := ((mem_chunkStarts_iff hpositive).mp hstart).2
    rw [hpiece start hstart]
    exact Piece.isOf_cut (by simp only [chunkEnd]; omega) (by simp only [chunkEnd]; omega)
  · intro i hi
    -- the chunk of a position starts at the last multiple of the payload size
    have hdiv := Nat.div_add_mod i maxPayload
    have hmod := Nat.mod_lt i hpositive
    have hstart : maxPayload * (i / maxPayload) ∈ chunkStarts payload.length maxPayload :=
      (mem_chunkStarts_iff hpositive).mpr ⟨⟨_, rfl⟩, by omega⟩
    refine ⟨_, List.mem_map.mpr ⟨_, (hreceived _).mpr (List.mem_map.mpr ⟨_, hstart, rfl⟩), rfl⟩, ?_⟩
    rw [hpiece _ hstart, Piece.Covers, Piece.stop_cut (by simp only [chunkEnd]; omega)
      (by simp only [chunkEnd]; omega)]
    refine ⟨?_, ?_⟩
    · change maxPayload * (i / maxPayload) ≤ i
      omega
    · simp only [chunkEnd]
      omega

end Reassembly

end Amt

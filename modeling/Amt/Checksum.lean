import Amt.Lib.OnesComplement
import Amt.Target

/-!
# The Internet checksum

The byte-at-a-time loop that sums several slices as if they were one, and the
checksums taken from it.  `onesComplementSumParts_toNat` is the specification: the
loop computes the canonical representative of the sum of the 16-bit words of the
concatenation, wherever the slices are cut.  `onesComplementSum_field` and
`icmpv6Checksum_field` say that writing the checksum into a zeroed even field makes
the sum verify.
-/

namespace Amt

/-- The loop state of `ones_complement_sum_parts`. -/
structure SumState where
  sum : ℕ
  highByte : Option UInt8

/-- One byte of the loop: complete a word and fold the carry, or start a word. -/
def SumState.push (state : SumState) (byte : UInt8) : SumState :=
  match state.highByte with
  | some high => { sum := endAroundCarry (state.sum + (u16OfBe high byte).toNat), highByte := none }
  | none => { state with highByte := some byte }

/-- The sum of several slices as if they were one; a last odd byte is padded with zero. -/
def onesComplementSumParts (parts : List Bytes) : UInt16 :=
  let state := parts.foldl (fun state part => part.foldl SumState.push state)
    { sum := 0, highByte := none }
  let sum := match state.highByte with
    | some high => endAroundCarry (state.sum + (u16OfBe high 0).toNat)
    | none => state.sum
  UInt16.ofNat sum

def onesComplementSum (bytes : Bytes) : UInt16 := onesComplementSumParts [bytes]

/-- What a sender writes into the checksum field. -/
def checksumParts (parts : List Bytes) : UInt16 := ~~~ onesComplementSumParts parts

def checksum (bytes : Bytes) : UInt16 := checksumParts [bytes]

/-- The IPv6 pseudo-header and the payload. -/
def icmpv6Parts (source destination : Octets 16) (nextHeader : UInt8) (payload : Bytes) :
    List Bytes :=
  let length := u32ToBe (UInt32.ofNat payload.length)
  let nextHeader : Bytes := [0, 0, 0, nextHeader]
  [source.toList, destination.toList, length, nextHeader, payload]

/-- Over the IPv6 pseudo-header and the message. -/
def icmpv6Checksum (source destination : Octets 16) (nextHeader : UInt8) (payload : Bytes) :
    UInt16 :=
  checksumParts (icmpv6Parts source destination nextHeader payload)

/-- From here on, adding any word to the sum stays within a `u32`. -/
def sumsFit : Bytes → SumState → Bool
  | [], state => state.sum + 0xffff < 2 ^ 32
  | byte :: bytes, state => state.sum + 0xffff < 2 ^ 32 && sumsFit bytes (state.push byte)

/-- The check of the additions of a checksum. -/
def sumFits {ε : Type*} [Target] (parts : List Bytes) : Outcome ε Unit :=
  Target.check (sumsFit parts.flatten { sum := 0, highByte := none })

@[simp] theorem sumFits_unbounded {ε : Type*} (parts : List Bytes) :
    (sumFits parts : Outcome ε Unit) = .ok () := rfl

/-! ## What the loop computes -/

/-- The loop consumes two bytes at a time when no byte is pending. -/
theorem foldl_push (bytes : Bytes) (total : ℕ) :
    bytes.foldl SumState.push { sum := residue total, highByte := none } =
      if Even bytes.length then { sum := residue (total + wordSum bytes), highByte := none }
      else { sum := residue (total + wordSum bytes.dropLast), highByte := bytes.getLast? } := by
  induction bytes using wordSum.induct generalizing total with
  | case1 => simp
  | case2 b => simp [SumState.push]
  | case3 hi lo rest ih =>
      have hword : (u16OfBe hi lo).toNat ≤ 65535 := by
        have := (u16OfBe hi lo).toNat_lt
        omega
      have hstep : SumState.push (SumState.push { sum := residue total, highByte := none } hi) lo =
          { sum := residue (total + (u16OfBe hi lo).toNat), highByte := none } := by
        simp only [SumState.push]
        rw [endAroundCarry_residue_add hword]
      rw [List.foldl_cons, List.foldl_cons, hstep, ih, toNat_u16OfBe]
      have hparity : Even (hi :: lo :: rest).length ↔ Even rest.length := by
        simp [Nat.even_add_one, parity_simps]
      by_cases heven : Even rest.length
      · rw [if_pos heven, if_pos (hparity.mpr heven), wordSum_cons_cons]
        congr 2
        omega
      · rw [if_neg heven, if_neg (fun h => heven (hparity.mp h))]
        obtain ⟨b, tail, rfl⟩ : ∃ b tail, rest = b :: tail := by
          cases rest with
          | nil => simp at heven
          | cons b tail => exact ⟨b, tail, rfl⟩
        rw [show (hi :: lo :: b :: tail).dropLast = hi :: lo :: (b :: tail).dropLast from rfl,
          wordSum_cons_cons, List.getLast?_cons_cons, List.getLast?_cons_cons]
        congr 2
        omega

/-- The padded word of an odd last byte. -/
theorem wordSum_dropLast_add {bytes : Bytes} {last : UInt8} (hodd : ¬ Even bytes.length)
    (hlast : bytes.getLast? = some last) :
    wordSum bytes = wordSum bytes.dropLast + last.toNat * 256 := by
  have heven : Even bytes.dropLast.length := by
    rw [List.length_dropLast]
    rw [Nat.not_even_iff_odd] at hodd
    exact Nat.Odd.sub_odd hodd odd_one
  have hsplit : bytes = bytes.dropLast ++ [last] :=
    (List.dropLast_append_getLast? last hlast).symm
  rw [hsplit, List.dropLast_concat, wordSum_append heven]
  rfl

/-- **The loop computes the representative of the sum of the words**, however the
bytes are cut into parts. -/
theorem onesComplementSumParts_toNat (parts : List Bytes) :
    (onesComplementSumParts parts).toNat = residue (wordSum parts.flatten) := by
  have hfold : parts.foldl (fun state part => part.foldl SumState.push state)
      { sum := 0, highByte := none }
      = parts.flatten.foldl SumState.push { sum := residue 0, highByte := none } := by
    rw [List.foldl_flatten]
    rfl
  have hbound := residue_le (wordSum parts.flatten)
  unfold onesComplementSumParts
  rw [hfold, foldl_push, Nat.zero_add]
  by_cases heven : Even parts.flatten.length
  · rw [if_pos heven]
    change (UInt16.ofNat (residue (wordSum parts.flatten))).toNat = _
    exact UInt16.toNat_ofNat_of_lt' (by change _ < 65536; omega)
  · obtain ⟨last, hlast⟩ : ∃ last, parts.flatten.getLast? = some last := by
      cases h : parts.flatten.getLast? with
      | none => rw [List.getLast?_eq_none_iff] at h; rw [h] at heven; simp at heven
      | some last => exact ⟨last, rfl⟩
    have hword : (u16OfBe last 0).toNat ≤ 65535 := by
      have := (u16OfBe last 0).toNat_lt
      omega
    rw [if_neg heven, hlast, Nat.zero_add]
    simp only
    rw [endAroundCarry_residue_add hword, toNat_u16OfBe, UInt8.toNat_zero, Nat.add_zero,
      ← wordSum_dropLast_add heven hlast]
    exact UInt16.toNat_ofNat_of_lt' (by change _ < 65536; omega)

theorem onesComplementSum_toNat (bytes : Bytes) :
    (onesComplementSum bytes).toNat = residue (wordSum bytes) := by
  rw [onesComplementSum, onesComplementSumParts_toNat, List.flatten_singleton]

/-! ## Writing a checksum -/

theorem toNat_checksumParts (parts : List Bytes) :
    (checksumParts parts).toNat = 65535 - residue (wordSum parts.flatten) := by
  rw [checksumParts, UInt16.toNat_not, onesComplementSumParts_toNat]
  rfl

/-- The checksum of a message with a zeroed field, stored in that field, brings the
sum to `0xffff`. -/
theorem onesComplementSumParts_field {parts parts' : List Bytes} {front : Bytes} (back : Bytes)
    (heven : Even front.length) (hzero : parts.flatten = front ++ ([0, 0] ++ back))
    (hfield : parts'.flatten = front ++ (u16ToBe (checksumParts parts) ++ back)) :
    onesComplementSumParts parts' = 0xffff := by
  have htotal : wordSum parts'.flatten
      = wordSum parts.flatten + (65535 - residue (wordSum parts.flatten)) := by
    rw [hfield, wordSum_append heven, wordSum_append (by simp), wordSum_u16ToBe,
      toNat_checksumParts, hzero, wordSum_append heven, wordSum_append (by simp)]
    simp only [wordSum, UInt8.toNat_zero]
    omega
  apply UInt16.toNat_inj.mp
  rw [onesComplementSumParts_toNat, htotal, residue_add_complement]
  rfl

theorem onesComplementSum_field (front : Bytes) {back : Bytes} (heven : Even front.length) :
    onesComplementSum (front ++ (u16ToBe (checksum (front ++ ([0, 0] ++ back))) ++ back))
      = 0xffff :=
  onesComplementSumParts_field back heven
    (show [front ++ ([0, 0] ++ back)].flatten = front ++ ([0, 0] ++ back) by simp)
    (by simp [checksum])

/-- The ICMPv6 checksum of a message with a zeroed field, stored in that field, verifies. -/
theorem icmpv6Checksum_field (source destination : Octets 16) (nextHeader : UInt8)
    {front : Bytes} (back : Bytes) (heven : Even front.length) :
    icmpv6Checksum source destination nextHeader (front ++
      (u16ToBe (icmpv6Checksum source destination nextHeader (front ++ ([0, 0] ++ back))) ++ back))
      = 0 := by
  obtain ⟨length, hlength⟩ : ∃ length, length = u32ToBe
    (UInt32.ofNat (front ++ ([0, 0] ++ back)).length) := ⟨_, rfl⟩
  have hfield (v : UInt16) :
      (front ++ (u16ToBe v ++ back)).length = (front ++ ([0, 0] ++ back)).length := by
    rw [List.length_append, List.length_append, List.length_append, List.length_append,
      length_u16ToBe]
    rfl
  -- the pseudo-header is of even length, so the field stays at an even offset
  have hpseudo : Even (source.toList ++ (destination.toList ++
      (length ++ ([0, 0, 0, nextHeader] ++ front)))).length := by
    have : length.length = 4 := by rw [hlength, length_u32ToBe]
    simpa [this, parity_simps, source.length_toList, destination.length_toList] using heven
  have hparts (field : Bytes) : [source.toList, destination.toList, length,
      [0, 0, 0, nextHeader], front ++ (field ++ back)].flatten = (source.toList ++
        (destination.toList ++ (length ++ ([0, 0, 0, nextHeader] ++ front)))) ++
          (field ++ back) := by
    simp
  have hsum := onesComplementSumParts_field back hpseudo (hparts [0, 0]) (hparts _)
  rw [hlength] at hsum
  rw [icmpv6Checksum, icmpv6Parts, checksumParts, hfield]
  rw [icmpv6Checksum, icmpv6Parts, hsum]
  rfl

end Amt

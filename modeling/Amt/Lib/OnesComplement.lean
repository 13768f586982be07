import Amt.Lib.Bytes

/-!
# Ones'-complement sums

The Internet checksum adds 16-bit words with end-around carry.  Folding the carry
after every addition keeps the running sum within 16 bits, and the value it keeps is
the **canonical representative** of the true total modulo `65535`: zero only for the
zero total, and `65535` for every other multiple of the modulus (`residue`).  So the
running sum can be replaced by the plain sum of the words, and every question about
checksums becomes linear arithmetic on that sum.

`residue_add_complement` is the reason a checksum verifies: adding the complement of
the representative of a total brings the total to a positive multiple of `65535`.
-/

namespace Amt

/-- Add the carry out of 16 bits back in. -/
def endAroundCarry (sum : ℕ) : ℕ := (sum &&& 0xffff) + (sum >>> 16)

theorem endAroundCarry_eq (sum : ℕ) : endAroundCarry sum = sum % 65536 + sum / 65536 := by
  have hmask : sum &&& 0xffff = sum % 65536 := Nat.and_two_pow_sub_one_eq_mod sum 16
  rw [endAroundCarry, hmask, Nat.shiftRight_eq_div_pow]

/-- The representative of a total that the folded running sum holds. -/
def residue (total : ℕ) : ℕ := if total = 0 then 0 else (total - 1) % 65535 + 1

@[simp] theorem residue_zero : residue 0 = 0 := rfl

theorem residue_le (total : ℕ) : residue total ≤ 65535 := by
  unfold residue
  split
  · omega
  · omega

/-- Folding one more word into the representative represents the larger total. -/
theorem endAroundCarry_residue_add {total word : ℕ} (hword : word ≤ 65535) :
    endAroundCarry (residue total + word) = residue (total + word) := by
  rw [endAroundCarry_eq]
  unfold residue
  split
  · split
    · omega
    · omega
  · split
    · omega
    · omega

/-- A total plus the complement of its representative is represented by `65535`. -/
theorem residue_add_complement (total : ℕ) :
    residue (total + (65535 - residue total)) = 65535 := by
  unfold residue
  split
  · split
    · omega
    · omega
  · split
    · omega
    · omega

/-! ## The words of a byte string -/

/-- The sum of the big-endian 16-bit words, an odd last byte padded with zero. -/
def wordSum : Bytes → ℕ
  | [] => 0
  | [b] => b.toNat * 256
  | hi :: lo :: rest => hi.toNat * 256 + lo.toNat + wordSum rest

@[simp] theorem wordSum_nil : wordSum [] = 0 := rfl

@[simp] theorem wordSum_cons_cons (hi lo : UInt8) (rest : Bytes) :
    wordSum (hi :: lo :: rest) = hi.toNat * 256 + lo.toNat + wordSum rest := rfl

/-- An even front part contributes its own words. -/
theorem wordSum_append {rest : Bytes} :
    ∀ {front : Bytes}, Even front.length → wordSum (front ++ rest) = wordSum front + wordSum rest
  | [], _ => by simp
  | [_], h => by simp at h
  | hi :: lo :: front, h => by
      have heven : Even front.length := by
        simpa [Nat.even_add_one, parity_simps] using h
      rw [List.cons_append, List.cons_append, wordSum_cons_cons, wordSum_cons_cons,
        wordSum_append heven]
      omega

/-- The word a 16-bit value contributes. -/
theorem wordSum_u16ToBe (v : UInt16) : wordSum (u16ToBe v) = v.toNat := by
  have hv := v.toNat_lt
  simp only [u16ToBe, wordSum, UInt8.toNat_ofNat', UInt16.toNat_toUInt8]
  omega

end Amt

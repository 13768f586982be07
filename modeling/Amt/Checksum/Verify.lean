import Amt.Checksum

/-!
# What the checksum guarantees

Every packet check of the program compares a ones'-complement sum with `0xffff`.  Three facts
about the loop `ones_complement_sum_parts` carry them.

* **The machine integers suffice.**  Between two bytes the running sum is within 16 bits
  (`SumState.Folded`), so that adding a word to it stays far from the end of a `u32`.
* **The value** is the sum of the words modulo `65535`, and zero only for bytes that are all
  zero: the other representative of zero, `0xffff`, is the one a valid message has.
* **One changed byte is found.**  It changes the sum of the words by less than `65535`, and not
  by zero (`wordSum_set`), so a valid message stays valid only if nothing changed.  A changed
  bit is the case that a checksum is for.

`onesComplementSumParts_verifies` puts them together.
-/

namespace Amt

/-! ## The running sum -/

/-- The running sum has been folded into 16 bits. -/
def SumState.Folded (state : SumState) : Prop := state.sum ≤ 0xffff

theorem endAroundCarry_le {sum word : ℕ} (hsum : sum ≤ 0xffff) (hword : word ≤ 0xffff) :
    endAroundCarry (sum + word) ≤ 0xffff := by
  rw [endAroundCarry_eq]
  omega

theorem toNat_u16OfBe_le (hi lo : UInt8) : (u16OfBe hi lo).toNat ≤ 0xffff := by
  have := (u16OfBe hi lo).toNat_lt
  omega

theorem SumState.Folded.push {state : SumState} (h : state.Folded) (byte : UInt8) :
    (state.push byte).Folded := by
  obtain ⟨sum, highByte⟩ := state
  cases highByte with
  | none => exact h
  | some high => exact endAroundCarry_le h (toNat_u16OfBe_le high byte)

theorem SumState.Folded.foldl_push {state : SumState} (h : state.Folded) (bytes : Bytes) :
    (bytes.foldl SumState.push state).Folded := by
  induction bytes generalizing state with
  | nil => exact h
  | cons byte bytes ih => exact ih (h.push byte)

/-- Adding a word to a folded sum does not overflow. -/
theorem SumState.Folded.add_lt {state : SumState} (h : state.Folded) (hi lo : UInt8) :
    state.sum + (u16OfBe hi lo).toNat < 2 ^ 32 := by
  have hword := toNat_u16OfBe_le hi lo
  have hsum : state.sum ≤ 0xffff := h
  omega

/-! ## The value -/

theorem residue_mod (total : ℕ) : residue total % 65535 = total % 65535 := by
  unfold residue
  split
  · omega
  · omega

theorem residue_eq_zero_iff {total : ℕ} : residue total = 0 ↔ total = 0 := by
  unfold residue
  split
  · omega
  · omega

/-- The representative `65535` is that of the other multiples of the modulus. -/
theorem residue_eq_iff {total : ℕ} : residue total = 65535 ↔ total ≠ 0 ∧ 65535 ∣ total := by
  unfold residue
  split
  · omega
  · omega

theorem wordSum_eq_zero_iff {bytes : Bytes} : wordSum bytes = 0 ↔ ∀ b ∈ bytes, b = 0 := by
  induction bytes using wordSum.induct with
  | case1 => simp
  | case2 b =>
      rw [wordSum, List.forall_mem_singleton, ← UInt8.toNat_inj, UInt8.toNat_zero]
      omega
  | case3 hi lo rest ih =>
      rw [wordSum_cons_cons, List.forall_mem_cons, List.forall_mem_cons, ← ih,
        ← UInt8.toNat_inj, ← UInt8.toNat_inj, UInt8.toNat_zero]
      omega

/-- However the bytes are cut into parts. -/
theorem onesComplementSumParts_flatten (parts : List Bytes) :
    onesComplementSumParts parts = onesComplementSum parts.flatten := by
  apply UInt16.toNat_inj.mp
  rw [onesComplementSum, onesComplementSumParts_toNat, onesComplementSumParts_toNat,
    List.flatten_singleton]

theorem onesComplementSum_eq_zero_iff {bytes : Bytes} :
    onesComplementSum bytes = 0 ↔ ∀ b ∈ bytes, b = 0 := by
  rw [← UInt16.toNat_inj, onesComplementSum_toNat, ← wordSum_eq_zero_iff]
  exact residue_eq_zero_iff

/-! ## One changed byte -/

/-- What a byte at a position counts in its word. -/
def byteWeight (i : ℕ) : ℕ := if i % 2 = 0 then 256 else 1

theorem byteWeight_zero : byteWeight 0 = 256 := rfl

theorem byteWeight_one : byteWeight 1 = 1 := rfl

theorem byteWeight_add_two (i : ℕ) : byteWeight (i + 2) = byteWeight i := by
  rw [byteWeight, byteWeight, Nat.add_mod_right]

/-- Replacing a byte exchanges what it counts. -/
theorem wordSum_set {bytes : Bytes} {i : ℕ} {old : UInt8} (hold : bytes[i]? = some old)
    (new : UInt8) :
    wordSum (bytes.set i new) + byteWeight i * old.toNat =
      wordSum bytes + byteWeight i * new.toNat := by
  induction bytes using wordSum.induct generalizing i with
  | case1 => simp at hold
  | case2 b =>
      rcases i with _ | i
      · obtain rfl : b = old := Option.some.inj hold
        rw [List.set_cons_zero, wordSum, wordSum, byteWeight_zero]
        omega
      · cases hold
  | case3 hi lo rest ih =>
      rcases i with _ | _ | i
      · obtain rfl : hi = old := Option.some.inj hold
        rw [List.set_cons_zero, wordSum_cons_cons, wordSum_cons_cons, byteWeight_zero]
        omega
      · obtain rfl : lo = old := Option.some.inj hold
        rw [List.set_cons_succ, List.set_cons_zero, wordSum_cons_cons, wordSum_cons_cons,
          byteWeight_one]
        omega
      · have hrest := ih (i := i) hold
        rw [List.set_cons_succ, List.set_cons_succ, wordSum_cons_cons, wordSum_cons_cons,
          byteWeight_add_two]
        omega

theorem byteWeight_mul_lt (i : ℕ) (b : UInt8) : byteWeight i * b.toNat < 65535 := by
  have := b.toNat_lt
  unfold byteWeight
  split
  · omega
  · omega

theorem byteWeight_pos (i : ℕ) : 0 < byteWeight i := by
  unfold byteWeight
  split
  · decide
  · decide

/-- **A valid message with one byte changed is not valid.** -/
theorem onesComplementSum_set_ne {bytes : Bytes} {i : ℕ} {old new : UInt8}
    (hvalid : onesComplementSum bytes = 0xffff) (hold : bytes[i]? = some old)
    (hne : new ≠ old) : onesComplementSum (bytes.set i new) ≠ 0xffff := by
  have hvalid_iff : ∀ message : Bytes, onesComplementSum message = 0xffff ↔
      wordSum message ≠ 0 ∧ 65535 ∣ wordSum message := by
    intro message
    rw [← UInt16.toNat_inj, onesComplementSum_toNat]
    exact residue_eq_iff
  rw [Ne, hvalid_iff]
  rintro ⟨-, hchanged⟩
  obtain ⟨-, hdvd⟩ := (hvalid_iff bytes).mp hvalid
  have hsum := wordSum_set hold new
  have hold_lt := byteWeight_mul_lt i old
  have hnew_lt := byteWeight_mul_lt i new
  -- both sums are multiples of the modulus, so the two bytes count the same
  have hsame : byteWeight i * new.toNat = byteWeight i * old.toNat := by omega
  exact hne (UInt8.toNat_inj.mp (Nat.eq_of_mul_eq_mul_left (byteWeight_pos i) hsame))

/-- The message with one bit of one byte changed. -/
def flipBit (bytes : Bytes) (i : ℕ) (bit : Fin 8) : Bytes :=
  bytes.modify i fun b => b ^^^ (1 <<< UInt8.ofNat bit)

theorem xor_bit_ne (b : UInt8) (bit : Fin 8) : b ^^^ (1 <<< UInt8.ofNat bit) ≠ b := by
  revert bit b
  decide +kernel

theorem onesComplementSum_flipBit_ne {bytes : Bytes} {i : ℕ}
    (hvalid : onesComplementSum bytes = 0xffff) (hi : i < bytes.length) (bit : Fin 8) :
    onesComplementSum (flipBit bytes i bit) ≠ 0xffff := by
  have hset : flipBit bytes i bit = bytes.set i (bytes[i] ^^^ (1 <<< UInt8.ofNat bit)) := by
    rw [flipBit, List.modify_eq_set_getElem? , List.getElem?_eq_getElem hi]
    rfl
  rw [hset]
  exact onesComplementSum_set_ne hvalid (List.getElem?_eq_getElem hi) (xor_bit_ne _ bit)

/-- **The checksum loop**: independent of how the bytes are cut, within its machine integers
all the way, and the sum of the words modulo `65535` with zero for zero bytes only; and a
checksum in its field makes the message valid, and no single bit can change without the
message becoming invalid. -/
theorem onesComplementSumParts_verifies :
    (∀ parts : List Bytes,
      onesComplementSumParts parts = onesComplementSum parts.flatten ∧
      (∀ done, done <+: parts.flatten →
        (done.foldl SumState.push ⟨0, none⟩).sum ≤ 0xffff ∧
        ∀ hi lo : UInt8,
          (done.foldl SumState.push ⟨0, none⟩).sum + (u16OfBe hi lo).toNat < 2 ^ 32) ∧
      (onesComplementSumParts parts).toNat % 65535 = wordSum parts.flatten % 65535 ∧
      (onesComplementSumParts parts = 0 ↔ ∀ b ∈ parts.flatten, b = 0)) ∧
    ∀ front back : Bytes, Even front.length →
      onesComplementSum (front ++ (u16ToBe (checksum (front ++ ([0, 0] ++ back))) ++ back))
        = 0xffff ∧
      ∀ i < (front ++ (u16ToBe (checksum (front ++ ([0, 0] ++ back))) ++ back)).length,
        ∀ bit, onesComplementSum (flipBit
          (front ++ (u16ToBe (checksum (front ++ ([0, 0] ++ back))) ++ back)) i bit) ≠ 0xffff := by
  constructor
  · intro parts
    have hstart : SumState.Folded ⟨0, none⟩ := Nat.zero_le _
    refine ⟨onesComplementSumParts_flatten parts, fun done _ => ?_, ?_, ?_⟩
    · have hfolded := hstart.foldl_push done
      exact ⟨hfolded, hfolded.add_lt⟩
    · rw [onesComplementSumParts_toNat, residue_mod]
    · rw [onesComplementSumParts_flatten, onesComplementSum_eq_zero_iff]
  · intro front back heven
    have hvalid : onesComplementSum
        (front ++ (u16ToBe (checksum (front ++ ([0, 0] ++ back))) ++ back)) = 0xffff :=
      onesComplementSum_field front heven
    exact ⟨hvalid, fun i hi bit => onesComplementSum_flipBit_ne hvalid hi bit⟩

end Amt

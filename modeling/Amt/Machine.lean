import Amt.Checksum.Verify
import Amt.Ip.RouterAlert
import Amt.Membership
import Amt.Query

/-!
# The input path on a machine

What arrives from the network passes through parsers that compute offsets from length fields of
the sender, and reserve vectors by its counts.  Their definitions check that arithmetic and these
vectors against a `Target`.  Here the target is a machine.

* **`Machine`** is a target of the compiler, of any word size from 32 bits on; its slices
  (`Machine.Slice`) are those that fit its address space.
* **`Machine.on`** is what a function does there: it panics on arithmetic that overflows, and on a
  vector that is not permitted.  `Allocation.bounded` permits those within the limits and the
  length of the input.
* **No check fails**: in this module and the ones below it, each function is compared with itself
  on `Target.unbounded` (`Outcome.Agree`), one step after the other.

This module has what the parsers share: the checks, the checksum, the reading of addresses and
the two Router Alert scans.
-/

namespace Amt

open Outcome (Agree ensure)

/-- A machine: its largest `usize`, of at least 32 bits. -/
structure Machine where
  usizeMax : ℕ
  wide : 2 ^ 32 - 1 ≤ usizeMax

/-- The capacity is within the limits, and the input is as long as what the vector is for. -/
def Allocation.bounded (limits : MembershipParseLimits) (inputLen : ℕ) : Allocation → Bool
  | .records capacity => capacity ≤ limits.maxRecords ∧ capacity * 8 ≤ inputLen
  | .sources capacity => capacity ≤ limits.maxSourcesPerRecord ∧ capacity * 4 ≤ inputLen
  | .fragments capacity => capacity ≤ inputLen
  | .fragment capacity => capacity ≤ inputLen

/-- Every bounded vector is permitted. -/
def Permits (permits : Allocation → Bool) (limits : MembershipParseLimits) (inputLen : ℕ) : Prop :=
  ∀ allocation : Allocation, allocation.bounded limits inputLen = true → permits allocation = true

namespace Permits

variable {permits : Allocation → Bool} {limits : MembershipParseLimits} {inputLen n : ℕ}

theorem records (h : Permits permits limits inputLen) (hlimit : n ≤ limits.maxRecords)
    (hinput : n * 8 ≤ inputLen) : permits (.records n) = true :=
  h _ (decide_eq_true ⟨hlimit, hinput⟩)

theorem sources (h : Permits permits limits inputLen) (hlimit : n ≤ limits.maxSourcesPerRecord)
    (hinput : n * 4 ≤ inputLen) : permits (.sources n) = true :=
  h _ (decide_eq_true ⟨hlimit, hinput⟩)

theorem fragments (h : Permits permits limits inputLen) (hinput : n ≤ inputLen) :
    permits (.fragments n) = true :=
  h _ (decide_eq_true hinput)

theorem fragment (h : Permits permits limits inputLen) (hinput : n ≤ inputLen) :
    permits (.fragment n) = true :=
  h _ (decide_eq_true hinput)

/-- What a part of the input may reserve, the input may. -/
theorem mono (h : Permits permits limits inputLen) (hle : n ≤ inputLen) :
    Permits permits limits n := by
  intro allocation hbounded
  refine h allocation ?_
  cases allocation with
  | records capacity | sources capacity =>
      obtain ⟨hlimit, hinput⟩ := of_decide_eq_true hbounded
      exact decide_eq_true ⟨hlimit, hinput.trans hle⟩
  | fragments capacity | fragment capacity =>
      exact decide_eq_true ((of_decide_eq_true hbounded).trans hle)

end Permits

namespace Machine

section Slices

variable (m : Machine)

/-- The bytes are a slice of the machine: at most `isize::MAX` of them. -/
def Addressable (bytes : Bytes) : Prop := bytes.length ≤ m.usizeMax / 2

/-- A slice of the machine. -/
structure Slice where
  bytes : Bytes
  addressable : m.Addressable bytes

variable {m}

theorem Addressable.of_length_le {bytes part : Bytes} (h : m.Addressable bytes)
    (hle : part.length ≤ bytes.length) : m.Addressable part :=
  hle.trans h

/-- Offsets of a slice leave room for what the parsers add to them. -/
theorem Addressable.add_le {bytes : Bytes} (h : m.Addressable bytes) {n k : ℕ}
    (hn : n ≤ bytes.length) (hk : k ≤ 2 ^ 31 - 1) : n + k ≤ m.usizeMax := by
  have hwide := m.wide
  have hlength : bytes.length ≤ m.usizeMax / 2 := h
  omega

theorem le_usizeMax {n : ℕ} (hn : n ≤ 2 ^ 32 - 1) : n ≤ m.usizeMax :=
  hn.trans m.wide

end Slices

/-- The header length of an IPv4 packet, from its first byte. -/
theorem ihl_le (first : UInt8) : (first &&& 0x0f).toNat * 4 ≤ 60 := by
  have hnibble : (first &&& 0x0f).toNat ≤ 15 := by
    rw [UInt8.toNat_and]
    exact Nat.and_le_right
  omega

/-! ## The checks -/

/-- The machine as a target, with the vectors that may be reserved. -/
@[reducible] def target (m : Machine) (permits : Allocation → Bool) : Target where
  usizeMax := some m.usizeMax
  permits := permits

/-- What `f` does on the machine. -/
@[reducible] def on {α : Type} (m : Machine) (permits : Allocation → Bool) (f : [Target] → α) : α :=
  @f (m.target permits)

/-- `f` does on the machine what it does without bounds: it does not panic, and its value has the
property. -/
abbrev Agrees {ε α : Type} (m : Machine) (permits : Allocation → Bool) (f : [Target] → Outcome ε α)
    (P : α → Prop) : Prop :=
  Agree (m.on permits f) (@f .unbounded) P

section Checks

variable {m : Machine} {permits : Allocation → Bool} {ε α : Type}
  {f g : Unit → Outcome ε α} {P : α → Prop}

theorem representable_of_le (permits : Allocation → Bool) {n : ℕ} (hn : n ≤ m.usizeMax) :
    m.on permits (Target.representable n) = true :=
  decide_eq_true hn

theorem saturate_of_le {n : ℕ} (hn : n ≤ m.usizeMax) : @Target.saturate (m.target permits) n = n :=
  min_eq_left hn

theorem agree_fits {n : ℕ} (hn : n ≤ m.usizeMax) (hf : Agree (f ()) (g ()) P) :
    Agree (m.on permits (Target.fits n) >>= f) (Target.fits n >>= g) P :=
  .assert (representable_of_le permits hn) hf

theorem agree_check {c : Prop} [Decidable c] (hc : c) (hf : Agree (f ()) (g ()) P) :
    Agree (m.on permits (Target.check c) >>= f) (Target.check c >>= g) P :=
  .assert (.inr hc) hf

theorem agree_reserve {allocation : Allocation} (hpermits : permits allocation = true)
    (hf : Agree (f ()) (g ()) P) :
    Agree (m.on permits (Target.reserve allocation) >>= f) (Target.reserve allocation >>= g) P :=
  .assert hpermits hf

/-- The test behind a `checked_add` or `checked_mul`. -/
theorem agree_representable {n : ℕ} {e : ε} (hn : n ≤ m.usizeMax) (hf : Agree (f ()) (g ()) P) :
    Agree (m.on permits (ensure (Target.representable n) e) >>= f)
      (ensure (Target.representable n) e >>= g) P :=
  .ensure_left (representable_of_le permits hn) hf

/-- **The sum of a checksum stays within a `u32`.** -/
theorem sumsFit_of_folded (bytes : Bytes) :
    ∀ {state : SumState}, state.Folded → sumsFit bytes state = true := by
  induction bytes with
  | nil =>
      intro state h
      have hsum : state.sum ≤ 0xffff := h
      exact decide_eq_true (by omega)
  | cons byte bytes ih =>
      intro state h
      have hsum : state.sum ≤ 0xffff := h
      rw [sumsFit, ih (h.push byte), Bool.and_true]
      exact decide_eq_true (by omega)

theorem agree_sumFits {parts : List Bytes} (hf : Agree (f ()) (g ()) P) :
    Agree (m.on permits (sumFits parts) >>= f) (sumFits parts >>= g) P :=
  agree_check (sumsFit_of_folded _ (Nat.zero_le _)) hf

/-- The shift of a query interval stays within a `u64`. -/
theorem agree_intervalFits {code : UInt8} (hf : Agree (f ()) (g ()) P) :
    Agree (m.on permits (intervalFits code) >>= f) (intervalFits code >>= g) P := by
  have hmantissa : queryMantissa code < 256 := UInt8.toNat_lt _
  have hexponent : queryExponent code ≤ 10 := by
    rw [queryExponent, UInt8.toNat_and]
    exact Nat.add_le_add_right Nat.and_le_right 3
  refine agree_check ⟨by omega, ?_⟩ hf
  rw [Nat.shiftLeft_eq]
  calc queryMantissa code * 2 ^ queryExponent code
      ≤ 255 * 2 ^ 10 := Nat.mul_le_mul (by omega) (Nat.pow_le_pow_right (by omega) hexponent)
    _ < 2 ^ 64 := by norm_num

end Checks

/-! ## Addresses and Router Alerts -/

section Shared

variable {m : Machine} {permits : Allocation → Bool} {ε : Type} {bytes options : Bytes}
  {offset : ℕ}

theorem agree_readIpv4 (h : m.Addressable bytes) (hroom : offset + 4 ≤ bytes.length) :
    m.Agrees permits (ε := ε) (readIpv4 bytes offset) fun _ => True := by
  refine agree_fits (h.add_le (n := offset) (by omega) (by omega)) ?_
  refine .bind (.byteAt (by omega)) fun a _ => .bind (.byteAt (by omega)) fun b _ => ?_
  refine .bind (.byteAt (by omega)) fun c _ => .bind (.byteAt (by omega)) fun d _ => ?_
  exact .ok trivial

theorem agree_readIpv6 (h : m.Addressable bytes) (hroom : offset + 16 ≤ bytes.length) :
    m.Agrees permits (ε := ε) (readIpv6 bytes offset) fun _ => True := by
  refine agree_fits (h.add_le (n := offset) (by omega) (by omega)) ?_
  refine .bind (.slice (by omega) hroom) fun part hpart => ?_
  exact .bind (.ofSlice (by omega)) fun octets _ => .ok trivial

theorem agree_hasIpv4RouterAlert (h : m.Addressable options) :
    m.Agrees permits (ε := ε) (hasIpv4RouterAlert options) fun _ => True := by
  have hfits := representable_of_le permits (h.add_le le_rfl (k := 256) (by omega))
  exact .of_eq_ok (@ipv4RouterAlertFrom_eq ε (m.target permits) options hfits 0)
    (ipv4RouterAlertFrom_eq rfl 0) trivial

theorem agree_hasIpv6RouterAlert (h : m.Addressable options) :
    m.Agrees permits (ε := ε) (hasIpv6RouterAlert options) fun _ => True := by
  have hfits := representable_of_le permits (h.add_le le_rfl (k := 256) (by omega))
  exact .of_eq_ok (@ipv6RouterAlertFrom_eq ε (m.target permits) options hfits 0)
    (ipv6RouterAlertFrom_eq rfl 0) trivial

end Shared

end Machine

end Amt

import Amt.Lib.BTree
import Amt.Lib.Outcome

/-!
# Byte strings: fixed-size arrays, big-endian words, checked access

Byte slices are lists.  Every access is checked: reading or writing outside the
slice, or copying a source of the wrong length, is the `panic` outcome.

* `Octets n` is an array of exactly `n` bytes, ordered lexicographically.
* `u16OfBe`/`u16ToBe` and `u32OfBe`/`u32ToBe` are the network-order words, inverse
  to each other.
* `byteAt`, `slice`, `sliceFrom` read; `setAt`, `copyInto` write.
-/

namespace Amt

/-- A byte slice. -/
abbrev Bytes := List UInt8

/-! ## Fixed-size arrays -/

/-- An array of exactly `n` bytes. -/
structure Octets (n : ℕ) where
  toList : Bytes
  length_toList : toList.length = n
deriving DecidableEq, Repr

namespace Octets

variable {n : ℕ}

@[ext] theorem ext {a b : Octets n} (h : a.toList = b.toList) : a = b := by
  cases a; cases b; simpa using h

attribute [simp] length_toList

/-- The all-zero array. -/
def zero (n : ℕ) : Octets n := ⟨List.replicate n 0, by simp⟩

/-- Fill an array from a slice; the copy panics when the lengths differ. -/
def ofSlice {ε : Type*} (bytes : Bytes) : Outcome ε (Octets n) :=
  if h : bytes.length = n then .ok ⟨bytes, h⟩ else .panic

@[simp] theorem ofSlice_toList {ε : Type*} (a : Octets n) :
    (ofSlice a.toList : Outcome ε (Octets n)) = .ok a := by
  simp [ofSlice]

/-- The key of the lexicographic order. -/
def sortKey (a : Octets n) : List ℕ := a.toList.map UInt8.toNat

theorem sortKey_injective : Function.Injective (sortKey (n := n)) := by
  intro a b h
  refine ext (List.map_injective_iff.mpr (fun x y hxy => ?_) h)
  exact UInt8.toNat_inj.mp hxy

instance instLinearOrder : LinearOrder (Octets n) :=
  orderByKey sortKey sortKey_injective

end Octets

/-! ## Big-endian words -/

/-- `u16::from_be_bytes`. -/
def u16OfBe (hi lo : UInt8) : UInt16 := UInt16.ofNat (hi.toNat * 256 + lo.toNat)

/-- `u16::to_be_bytes`. -/
def u16ToBe (v : UInt16) : Bytes := [UInt8.ofNat (v.toNat / 256), v.toUInt8]

/-- `u32::from_be_bytes`. -/
def u32OfBe (b₀ b₁ b₂ b₃ : UInt8) : UInt32 :=
  UInt32.ofNat (((b₀.toNat * 256 + b₁.toNat) * 256 + b₂.toNat) * 256 + b₃.toNat)

/-- `u32::to_be_bytes`. -/
def u32ToBe (v : UInt32) : Bytes :=
  [UInt8.ofNat (v.toNat / 16777216), UInt8.ofNat (v.toNat / 65536),
    UInt8.ofNat (v.toNat / 256), v.toUInt8]

@[simp] theorem length_u16ToBe (v : UInt16) : (u16ToBe v).length = 2 := rfl

@[simp] theorem length_u32ToBe (v : UInt32) : (u32ToBe v).length = 4 := rfl

theorem toNat_u16OfBe (hi lo : UInt8) : (u16OfBe hi lo).toNat = hi.toNat * 256 + lo.toNat := by
  have hhi := hi.toNat_lt
  have hlo := lo.toNat_lt
  rw [u16OfBe, UInt16.toNat_ofNat_of_lt']
  change _ < 65536
  omega

@[simp] theorem u16OfBe_toBe (v : UInt16) :
    u16OfBe (UInt8.ofNat (v.toNat / 256)) v.toUInt8 = v := by
  have hv := v.toNat_lt
  apply UInt16.toNat_inj.mp
  rw [toNat_u16OfBe, UInt8.toNat_ofNat', UInt16.toNat_toUInt8]
  omega

@[simp] theorem u16ToBe_ofBe (hi lo : UInt8) : u16ToBe (u16OfBe hi lo) = [hi, lo] := by
  have hhi := hi.toNat_lt
  have hlo := lo.toNat_lt
  simp only [u16ToBe, List.cons.injEq, and_true]
  constructor
  · apply UInt8.toNat_inj.mp
    rw [UInt8.toNat_ofNat', toNat_u16OfBe]
    omega
  · apply UInt8.toNat_inj.mp
    rw [UInt16.toNat_toUInt8, toNat_u16OfBe]
    omega

theorem toNat_u32OfBe (b₀ b₁ b₂ b₃ : UInt8) :
    (u32OfBe b₀ b₁ b₂ b₃).toNat =
      ((b₀.toNat * 256 + b₁.toNat) * 256 + b₂.toNat) * 256 + b₃.toNat := by
  have h₀ := b₀.toNat_lt
  have h₁ := b₁.toNat_lt
  have h₂ := b₂.toNat_lt
  have h₃ := b₃.toNat_lt
  rw [u32OfBe, UInt32.toNat_ofNat_of_lt']
  change _ < 4294967296
  omega

@[simp] theorem u32OfBe_toBe (v : UInt32) :
    u32OfBe (UInt8.ofNat (v.toNat / 16777216)) (UInt8.ofNat (v.toNat / 65536))
      (UInt8.ofNat (v.toNat / 256)) v.toUInt8 = v := by
  have hv := v.toNat_lt
  apply UInt32.toNat_inj.mp
  simp only [toNat_u32OfBe, UInt8.toNat_ofNat', UInt32.toNat_toUInt8]
  omega

@[simp] theorem u32ToBe_ofBe (b₀ b₁ b₂ b₃ : UInt8) :
    u32ToBe (u32OfBe b₀ b₁ b₂ b₃) = [b₀, b₁, b₂, b₃] := by
  have h₀ := b₀.toNat_lt
  have h₁ := b₁.toNat_lt
  have h₂ := b₂.toNat_lt
  have h₃ := b₃.toNat_lt
  have hbyte : ∀ (x : ℕ) (b : UInt8), x % 256 = b.toNat → UInt8.ofNat x = b := by
    intro x b hx
    apply UInt8.toNat_inj.mp
    rw [UInt8.toNat_ofNat']
    exact hx
  simp only [u32ToBe, toNat_u32OfBe, List.cons.injEq, and_true]
  refine ⟨hbyte _ _ (by omega), hbyte _ _ (by omega), hbyte _ _ (by omega), ?_⟩
  apply UInt8.toNat_inj.mp
  rw [UInt32.toNat_toUInt8, toNat_u32OfBe]
  omega

/-! ## Checked reads -/

section Access

variable {ε : Type*}

/-- `bytes[i]`. -/
def byteAt (bytes : Bytes) (i : ℕ) : Outcome ε UInt8 :=
  match bytes[i]? with
  | some b => .ok b
  | none => .panic

/-- `bytes[lo..hi]`. -/
def slice (bytes : Bytes) (lo hi : ℕ) : Outcome ε Bytes :=
  if lo ≤ hi ∧ hi ≤ bytes.length then .ok ((bytes.take hi).drop lo) else .panic

/-- `bytes[lo..]`. -/
def sliceFrom (bytes : Bytes) (lo : ℕ) : Outcome ε Bytes :=
  if lo ≤ bytes.length then .ok (bytes.drop lo) else .panic

/-- `bytes.get(lo..hi)`. -/
def getRange (bytes : Bytes) (lo hi : ℕ) : Option Bytes :=
  if lo ≤ hi ∧ hi ≤ bytes.length then some ((bytes.take hi).drop lo) else none

/-- `u16::from_be_bytes([bytes[i], bytes[i + 1]])`. -/
def u16At (bytes : Bytes) (i : ℕ) : Outcome ε UInt16 := do
  let hi ← byteAt bytes i
  let lo ← byteAt bytes (i + 1)
  pure (u16OfBe hi lo)

/-- `u32::from_be_bytes` of the four bytes from `i`. -/
def u32At (bytes : Bytes) (i : ℕ) : Outcome ε UInt32 := do
  let b₀ ← byteAt bytes i
  let b₁ ← byteAt bytes (i + 1)
  let b₂ ← byteAt bytes (i + 2)
  let b₃ ← byteAt bytes (i + 3)
  pure (u32OfBe b₀ b₁ b₂ b₃)

/-- Reading past a known front part. -/
theorem byteAt_append_right (front bytes : Bytes) (i : ℕ) :
    (byteAt (front ++ bytes) (front.length + i) : Outcome ε UInt8) = byteAt bytes i := by
  simp [byteAt, List.getElem?_append_right]

@[simp] theorem byteAt_cons_zero (b : UInt8) (bytes : Bytes) :
    (byteAt (b :: bytes) 0 : Outcome ε UInt8) = .ok b := rfl

@[simp] theorem byteAt_cons_succ (b : UInt8) (bytes : Bytes) (i : ℕ) :
    (byteAt (b :: bytes) (i + 1) : Outcome ε UInt8) = byteAt bytes i := rfl

theorem sliceFrom_append {front : Bytes} (bytes : Bytes) {i : ℕ} (hi : i = front.length) :
    (sliceFrom (front ++ bytes) i : Outcome ε Bytes) = .ok bytes := by
  subst hi
  simp [sliceFrom]

theorem slice_append {front mid : Bytes} (back : Bytes) {lo hi : ℕ} (hlo : lo = front.length)
    (hhi : hi = front.length + mid.length) :
    (slice (front ++ (mid ++ back)) lo hi : Outcome ε Bytes) = .ok mid := by
  subst hlo hhi
  rw [slice, if_pos (by simp)]
  simp [List.take_append]

theorem u16At_append {front : Bytes} (v : UInt16) (back : Bytes) {i : ℕ} (hi : i = front.length) :
    (u16At (front ++ (u16ToBe v ++ back)) i : Outcome ε UInt16) = .ok v := by
  subst hi
  rw [u16At, show front.length = front.length + 0 from rfl, byteAt_append_right, Nat.add_assoc,
    byteAt_append_right]
  simp [u16ToBe]

theorem u32At_append {front : Bytes} (v : UInt32) (back : Bytes) {i : ℕ} (hi : i = front.length) :
    (u32At (front ++ (u32ToBe v ++ back)) i : Outcome ε UInt32) = .ok v := by
  subst hi
  rw [u32At, show front.length = front.length + 0 from rfl, byteAt_append_right]
  simp only [Nat.add_assoc, byteAt_append_right]
  simp [u32ToBe]

/-! ### Reads of a longer buffer -/

theorem byteAt_leOk_append (bytes z : Bytes) (i : ℕ) :
    (byteAt bytes i : Outcome ε UInt8).LeOk (byteAt (bytes ++ z) i) := by
  intro b hb
  rw [byteAt] at hb ⊢
  cases hread : bytes[i]? with
  | none => rw [hread] at hb; cases hb
  | some c =>
      have hlt : i < bytes.length := (List.getElem?_eq_some_iff.mp hread).1
      rw [hread] at hb
      rw [List.getElem?_append_left hlt, hread]
      exact hb

theorem u16At_leOk_append (bytes z : Bytes) (i : ℕ) :
    (u16At bytes i : Outcome ε UInt16).LeOk (u16At (bytes ++ z) i) :=
  (byteAt_leOk_append bytes z i).bind fun _ =>
    (byteAt_leOk_append bytes z (i + 1)).bind fun _ => .refl _

theorem slice_leOk_append (bytes z : Bytes) (lo hi : ℕ) :
    (slice bytes lo hi : Outcome ε Bytes).LeOk (slice (bytes ++ z) lo hi) := by
  intro s hs
  rw [slice] at hs ⊢
  by_cases h : lo ≤ hi ∧ hi ≤ bytes.length
  · rw [if_pos h] at hs
    rw [if_pos ⟨h.1, by rw [List.length_append]; omega⟩, List.take_append_of_le_length h.2]
    exact hs
  · rw [if_neg h] at hs
    cases hs

/-! ### What a successful read says -/

theorem byteAt_eq_ok_iff {bytes : Bytes} {i : ℕ} {b : UInt8} :
    (byteAt bytes i : Outcome ε UInt8) = .ok b ↔ bytes[i]? = some b := by
  unfold byteAt
  cases bytes[i]? with
  | none => simp
  | some b' => simp

theorem slice_eq_ok {bytes s : Bytes} {lo hi : ℕ}
    (h : (slice bytes lo hi : Outcome ε Bytes) = .ok s) : s = (bytes.take hi).drop lo := by
  unfold slice at h
  split at h
  · exact (Outcome.ok.inj h).symm
  · cases h

theorem getRange_eq_some_iff {bytes s : Bytes} {lo hi : ℕ} :
    getRange bytes lo hi = some s ↔
      lo ≤ hi ∧ hi ≤ bytes.length ∧ s = (bytes.take hi).drop lo := by
  rw [getRange]
  by_cases h : lo ≤ hi ∧ hi ≤ bytes.length
  · rw [if_pos h, Option.some_inj]
    exact ⟨fun hs => ⟨h.1, h.2, hs.symm⟩, fun hs => hs.2.2.symm⟩
  · rw [if_neg h]
    refine ⟨fun hs => ?_, fun hs => absurd ⟨hs.1, hs.2.1⟩ h⟩
    cases hs

theorem getRange_append {front mid : Bytes} (back : Bytes) {lo hi : ℕ} (hlo : lo = front.length)
    (hhi : hi = front.length + mid.length) :
    getRange (front ++ (mid ++ back)) lo hi = some mid := by
  subst hlo hhi
  rw [getRange_eq_some_iff]
  refine ⟨Nat.le_add_right _ _, by simp, ?_⟩
  simp [List.take_append]

theorem sliceFrom_eq_ok {bytes s : Bytes} {lo : ℕ}
    (h : (sliceFrom bytes lo : Outcome ε Bytes) = .ok s) : s = bytes.drop lo := by
  unfold sliceFrom at h
  split at h
  · exact (Outcome.ok.inj h).symm
  · cases h

theorem Octets.toList_of_ofSlice {n : ℕ} {bytes : Bytes} {a : Octets n}
    (h : (ofSlice bytes : Outcome ε (Octets n)) = .ok a) : a.toList = bytes := by
  unfold ofSlice at h
  split at h
  · rw [← Outcome.ok.inj h]
  · cases h

/-- A segment of a byte string, one byte at a time. -/
theorem take_drop_eq_cons {bytes : Bytes} {i j : ℕ} {b : UInt8} (hb : bytes[i]? = some b)
    (hij : i < j) : (bytes.take j).drop i = b :: (bytes.take j).drop (i + 1) := by
  have hi : i < (bytes.take j).length := by
    have := (List.getElem?_eq_some_iff.mp hb).1
    rw [List.length_take]
    omega
  rw [List.drop_eq_getElem_cons hi, List.getElem_take]
  rw [(List.getElem?_eq_some_iff.mp hb).2]

theorem take_drop_self (bytes : Bytes) (i : ℕ) : (bytes.take i).drop i = [] := by simp

/-- A segment and what follows it. -/
theorem take_drop_append_drop (bytes : Bytes) {i j : ℕ} (hij : i ≤ j) :
    (bytes.take j).drop i ++ bytes.drop j = bytes.drop i := by
  have hdrop : bytes.drop j = (bytes.drop i).drop (j - i) := by
    rw [List.drop_drop]
    congr 1
    omega
  rw [List.drop_take, hdrop, List.take_append_drop]

theorem u16ToBe_of_u16At {bytes : Bytes} {i : ℕ} {v : UInt16}
    (h : (u16At bytes i : Outcome ε UInt16) = .ok v) :
    u16ToBe v = (bytes.take (i + 2)).drop i := by
  obtain ⟨hi, hhi, h⟩ := Outcome.bind_eq_ok_iff.mp h
  obtain ⟨lo, hlo, h⟩ := Outcome.bind_eq_ok_iff.mp h
  obtain rfl := Outcome.ok.inj h
  rw [u16ToBe_ofBe, take_drop_eq_cons (byteAt_eq_ok_iff.mp hhi) (by omega),
    take_drop_eq_cons (byteAt_eq_ok_iff.mp hlo) (by omega), take_drop_self]

theorem u32ToBe_of_u32At {bytes : Bytes} {i : ℕ} {v : UInt32}
    (h : (u32At bytes i : Outcome ε UInt32) = .ok v) :
    u32ToBe v = (bytes.take (i + 4)).drop i := by
  obtain ⟨b₀, h₀, h⟩ := Outcome.bind_eq_ok_iff.mp h
  obtain ⟨b₁, h₁, h⟩ := Outcome.bind_eq_ok_iff.mp h
  obtain ⟨b₂, h₂, h⟩ := Outcome.bind_eq_ok_iff.mp h
  obtain ⟨b₃, h₃, h⟩ := Outcome.bind_eq_ok_iff.mp h
  obtain rfl := Outcome.ok.inj h
  rw [u32ToBe_ofBe, take_drop_eq_cons (byteAt_eq_ok_iff.mp h₀) (by omega),
    take_drop_eq_cons (byteAt_eq_ok_iff.mp h₁) (by omega),
    take_drop_eq_cons (byteAt_eq_ok_iff.mp h₂) (by omega),
    take_drop_eq_cons (byteAt_eq_ok_iff.mp h₃) (by omega), take_drop_self]

/-- What stands at an offset, by the byte that is read there. -/
theorem drop_of_byteAt {bytes : Bytes} {i : ℕ} {b : UInt8}
    (h : (byteAt bytes i : Outcome ε UInt8) = .ok b) : bytes.drop i = b :: bytes.drop (i + 1) := by
  obtain ⟨hi, hb⟩ := List.getElem?_eq_some_iff.mp (byteAt_eq_ok_iff.mp h)
  rw [List.drop_eq_getElem_cons hi, hb]

theorem drop_of_u16At {bytes : Bytes} {i : ℕ} {v : UInt16}
    (h : (u16At bytes i : Outcome ε UInt16) = .ok v) :
    bytes.drop i = u16ToBe v ++ bytes.drop (i + 2) := by
  rw [u16ToBe_of_u16At h, take_drop_append_drop bytes (by omega)]

/-! ### Reads within bounds -/

theorem slice_of {bytes : Bytes} {lo hi : ℕ} (hlo : lo ≤ hi) (hhi : hi ≤ bytes.length) :
    (slice bytes lo hi : Outcome ε Bytes) = .ok ((bytes.take hi).drop lo) :=
  if_pos ⟨hlo, hhi⟩

theorem byteAt_ne_panic {bytes : Bytes} {i : ℕ} (h : i < bytes.length) :
    (byteAt bytes i : Outcome ε UInt8) ≠ .panic := by
  rw [byteAt, List.getElem?_eq_getElem h]
  simp

theorem u16At_ne_panic {bytes : Bytes} {i : ℕ} (h : i + 1 < bytes.length) :
    (u16At bytes i : Outcome ε UInt16) ≠ .panic :=
  Outcome.bind_ne_panic (byteAt_ne_panic (by omega)) fun _ _ =>
    Outcome.bind_ne_panic (byteAt_ne_panic h) fun _ _ => by simp

theorem u32At_ne_panic {bytes : Bytes} {i : ℕ} (h : i + 3 < bytes.length) :
    (u32At bytes i : Outcome ε UInt32) ≠ .panic :=
  Outcome.bind_ne_panic (byteAt_ne_panic (by omega)) fun _ _ =>
    Outcome.bind_ne_panic (byteAt_ne_panic (by omega)) fun _ _ =>
      Outcome.bind_ne_panic (byteAt_ne_panic (by omega)) fun _ _ =>
        Outcome.bind_ne_panic (byteAt_ne_panic h) fun _ _ => by simp

theorem slice_ne_panic {bytes : Bytes} {lo hi : ℕ} (hlo : lo ≤ hi) (hhi : hi ≤ bytes.length) :
    (slice bytes lo hi : Outcome ε Bytes) ≠ .panic := by
  rw [slice, if_pos ⟨hlo, hhi⟩]
  simp

theorem sliceFrom_ne_panic {bytes : Bytes} {lo : ℕ} (h : lo ≤ bytes.length) :
    (sliceFrom bytes lo : Outcome ε Bytes) ≠ .panic := by
  rw [sliceFrom, if_pos h]
  simp

theorem Octets.ofSlice_ne_panic {n : ℕ} {bytes : Bytes} (h : bytes.length = n) :
    (ofSlice bytes : Outcome ε (Octets n)) ≠ .panic := by
  rw [ofSlice, dif_pos h]
  simp

/-! ## Checked writes -/

/-- `bytes[i] = b`. -/
def setAt (bytes : Bytes) (i : ℕ) (b : UInt8) : Outcome ε Bytes :=
  if i < bytes.length then .ok (bytes.set i b) else .panic

/-- `bytes[lo..hi].copy_from_slice(source)`. -/
def copyInto (bytes : Bytes) (lo hi : ℕ) (source : Bytes) : Outcome ε Bytes :=
  if lo ≤ hi ∧ hi ≤ bytes.length ∧ source.length = hi - lo then
    .ok (bytes.take lo ++ (source ++ bytes.drop hi))
  else .panic

/-- A write at a known position replaces what was there. -/
theorem setAt_append {front : Bytes} (old new : UInt8) (back : Bytes) {i : ℕ}
    (hi : i = front.length) :
    (setAt (front ++ old :: back) i new : Outcome ε Bytes) = .ok (front ++ new :: back) := by
  subst hi
  rw [setAt, if_pos (by simp)]
  simp

theorem copyInto_append {front old new : Bytes} (back : Bytes) {lo hi : ℕ}
    (hlo : lo = front.length) (hhi : hi = front.length + old.length)
    (hnew : new.length = old.length) :
    (copyInto (front ++ (old ++ back)) lo hi new : Outcome ε Bytes)
      = .ok (front ++ (new ++ back)) := by
  subst hlo hhi
  rw [copyInto, if_pos (by simp [hnew])]
  simp [List.drop_append]

/-! ### What a write leaves alone -/

/-- Two byte strings that agree at a position of their front parts, or of what follows. -/
theorem getElem?_append_congr {front front' back back' : Bytes} {i : ℕ}
    (hlen : front'.length = front.length) (hfront : front'[i]? = front[i]?)
    (hback : front.length ≤ i → back'[i - front.length]? = back[i - front.length]?) :
    (front' ++ back')[i]? = (front ++ back)[i]? := by
  rcases lt_or_ge i front.length with hlt | hge
  · rw [List.getElem?_append_left (hlen ▸ hlt), List.getElem?_append_left hlt, hfront]
  · rw [List.getElem?_append_right (hlen ▸ hge), List.getElem?_append_right hge, hlen, hback hge]

/-- A field of two bytes, replaced. -/
theorem getElem?_u16_congr {front back : Bytes} (old new : UInt16) {i : ℕ}
    (hhi : i ≠ front.length) (hlo : i ≠ front.length + 1) :
    (front ++ (u16ToBe new ++ back))[i]? = (front ++ (u16ToBe old ++ back))[i]? := by
  refine getElem?_append_congr rfl rfl fun hge => ?_
  obtain ⟨j, rfl⟩ : ∃ j, i = front.length + (j + 2) := ⟨i - front.length - 2, by omega⟩
  rw [Nat.add_sub_cancel_left]
  rfl

/-! ### Evaluating reads and writes

One lemma for each constructor of the list: as rewrite rules they run a program on a buffer
whose bytes are written out, one byte at a time. -/

theorem slice_zero_zero (bytes : Bytes) : (slice bytes 0 0 : Outcome ε Bytes) = .ok [] := rfl

theorem slice_cons_zero (b : UInt8) (bytes : Bytes) (hi : ℕ) :
    (slice (b :: bytes) 0 (hi + 1) : Outcome ε Bytes) = (b :: ·) <$> slice bytes 0 hi := by
  by_cases h : hi ≤ bytes.length
  · rw [slice_of (Nat.zero_le _) h, slice_of (Nat.zero_le _) (Nat.succ_le_succ h)]
    rfl
  · rw [slice, slice, if_neg (by simpa using h), if_neg (by simpa using h)]
    rfl

theorem sliceFrom_zero (bytes : Bytes) : (sliceFrom bytes 0 : Outcome ε Bytes) = .ok bytes := rfl

theorem sliceFrom_cons_succ (b : UInt8) (bytes : Bytes) (lo : ℕ) :
    (sliceFrom (b :: bytes) (lo + 1) : Outcome ε Bytes) = sliceFrom bytes lo := by
  simp [sliceFrom]

theorem setAt_cons_zero (b : UInt8) (bytes : Bytes) (new : UInt8) :
    (setAt (b :: bytes) 0 new : Outcome ε Bytes) = .ok (new :: bytes) := rfl

theorem setAt_cons_succ (b : UInt8) (bytes : Bytes) (i : ℕ) (new : UInt8) :
    (setAt (b :: bytes) (i + 1) new : Outcome ε Bytes) = (b :: ·) <$> setAt bytes i new := by
  by_cases h : i < bytes.length
  · rw [setAt, setAt, if_pos h, if_pos (by simpa using h)]
    rfl
  · rw [setAt, setAt, if_neg h, if_neg (by simpa using h)]
    rfl

theorem copyInto_zero_nil (bytes : Bytes) :
    (copyInto bytes 0 0 [] : Outcome ε Bytes) = .ok bytes := rfl

theorem copyInto_cons_zero (b c : UInt8) (bytes : Bytes) (hi : ℕ) (new : Bytes) :
    (copyInto (b :: bytes) 0 (hi + 1) (c :: new) : Outcome ε Bytes)
      = (c :: ·) <$> copyInto bytes 0 hi new := by
  by_cases h : 0 ≤ hi ∧ hi ≤ bytes.length ∧ new.length = hi - 0
  · rw [copyInto, copyInto, if_pos h, if_pos (by simpa using h)]
    rfl
  · rw [copyInto, copyInto, if_neg h, if_neg (by simpa using h)]
    rfl

theorem copyInto_cons_succ (b : UInt8) (bytes : Bytes) (lo hi : ℕ) (new : Bytes) :
    (copyInto (b :: bytes) (lo + 1) (hi + 1) new : Outcome ε Bytes)
      = (b :: ·) <$> copyInto bytes lo hi new := by
  by_cases h : lo ≤ hi ∧ hi ≤ bytes.length ∧ new.length = hi - lo
  · rw [copyInto, copyInto, if_pos h, if_pos (by simpa using h)]
    rfl
  · rw [copyInto, copyInto, if_neg h, if_neg (by simpa using h)]
    rfl

/-- A word that stays as it is: it is not taken apart into its bytes. -/
theorem copyInto_zero_two (b c : UInt8) (bytes : Bytes) (v : UInt16) :
    (copyInto (b :: c :: bytes) 0 2 (u16ToBe v) : Outcome ε Bytes) = .ok (u16ToBe v ++ bytes) := by
  rw [copyInto, if_pos ⟨Nat.zero_le _, by simp, rfl⟩]
  rfl

end Access

end Amt

import Amt.Lib.Bytes

/-!
# Programs with checks of their own

A model that computes with unbounded numbers says nothing about the overflow of machine
integers, and one that builds lists says nothing about the vectors reserved for them.  A
*checked* program states these conditions as assertions, and panics where one fails; where none
fails it is the plain program.

* **`Outcome.assert`** is such a check.
* **`Agree x y P`** compares a checked program `x` with the plain one `y`: they end alike, neither
  panics, and what they return satisfies `P`.  The rules follow the shape of a program, so that
  one pass over it shows that its checks hold, that its indices and slices are in range, and that
  the checks changed nothing.
* A step that the two share contributes that it does not panic, and what its result then is
  (`Agree.same` and the rules for indices and slices); a check contributes nothing but its
  condition (`Agree.assert`).
-/

namespace Amt

namespace Outcome

variable {ε : Type*} {α β : Type}

/-- Go on when `c` holds, panic otherwise. -/
def assert (c : Prop) [Decidable c] : Outcome ε Unit := if c then ok () else panic

theorem assert_of {c : Prop} [Decidable c] (h : c) : (assert c : Outcome ε Unit) = ok () :=
  if_pos h

/-- Two programs agree after a step that they share. -/
theorem bind_congr_of_ok {x : Outcome ε α} {f g : α → Outcome ε β}
    (h : ∀ a, x = .ok a → f a = g a) : (x >>= f) = (x >>= g) := by
  cases x with
  | ok a => exact h a rfl
  | err e => rfl
  | panic => rfl

/-- **A checked program and the plain one end alike and without a panic**; what they return
satisfies `P`. -/
structure Agree (x y : Outcome ε α) (P : α → Prop) : Prop where
  eq : x = y
  ne_panic : y ≠ panic
  ensures : Ensures y P

namespace Agree

variable {x y : Outcome ε α} {f g : α → Outcome ε β} {P Q : α → Prop} {R : β → Prop}

theorem ok {a : α} (h : P a) : Agree (ok a : Outcome ε α) (.ok a) P :=
  ⟨rfl, by simp, .ok h⟩

theorem of_eq_ok {a : α} (hx : x = .ok a) (hy : y = .ok a) (h : P a) : Agree x y P := by
  subst hx hy
  exact ok h

theorem err (e : ε) : Agree (err e : Outcome ε α) (.err e) P :=
  ⟨rfl, by simp, .err⟩

theorem bind (hx : Agree x y Q) (hf : ∀ a, Q a → Agree (f a) (g a) R) :
    Agree (x >>= f) (y >>= g) R := by
  obtain ⟨rfl, hne, hQ⟩ := hx
  cases x with
  | ok a => exact hf a (hQ a rfl)
  | err e => exact .err e
  | panic => exact absurd rfl hne

theorem mono (h : Agree x y P) (hPQ : ∀ a, P a → Q a) : Agree x y Q :=
  ⟨h.eq, h.ne_panic, fun a ha => hPQ a (h.ensures a ha)⟩

/-- A step that both programs take. -/
theorem same (h : x ≠ panic) : Agree x x fun a => x = .ok a :=
  ⟨rfl, h, fun _ ha => ha⟩

/-- A check of the checked program alone. -/
theorem assert {c : Prop} [Decidable c] {f : Unit → Outcome ε β} {y : Outcome ε β} (hc : c)
    (hf : Agree (f ()) y R) : Agree (Outcome.assert c >>= f) y R := by
  rw [assert_of hc]
  exact hf

/-- A test of both programs: what follows may assume it. -/
theorem ensure {c : Prop} [Decidable c] {e : ε} {f g : Unit → Outcome ε β}
    (hf : c → Agree (f ()) (g ()) R) :
    Agree (Outcome.ensure c e >>= f) (Outcome.ensure c e >>= g) R :=
  bind (same ensure_ne_panic) fun _ h => hf (ensure_eq_ok_iff.mp h)

/-- A test of the checked program that always passes. -/
theorem ensure_left {c : Prop} [Decidable c] {e : ε} {f : Unit → Outcome ε β} {y : Outcome ε β}
    (hc : c) (hf : Agree (f ()) y R) : Agree (Outcome.ensure c e >>= f) y R := by
  rw [ensure_of hc]
  exact hf

theorem ite {c : Prop} [Decidable c] {x' y' : Outcome ε α} (ht : c → Agree x y P)
    (hf : ¬ c → Agree x' y' P) : Agree (if c then x else x') (if c then y else y') P := by
  by_cases hc : c
  · rw [if_pos hc, if_pos hc]
    exact ht hc
  · rw [if_neg hc, if_neg hc]
    exact hf hc

end Agree

end Outcome

/-! ## Indices and slices -/

section Access

open Outcome (Agree)

variable {ε : Type*} {bytes : Bytes}

theorem Outcome.Agree.byteAt {i : ℕ} (h : i < bytes.length) :
    Agree (byteAt bytes i : Outcome ε UInt8) (Amt.byteAt bytes i) fun _ => True :=
  (Agree.same (byteAt_ne_panic h)).mono fun _ _ => trivial

theorem Outcome.Agree.u16At {i : ℕ} (h : i + 1 < bytes.length) :
    Agree (u16At bytes i : Outcome ε UInt16) (Amt.u16At bytes i) fun v => v.toNat < 65536 :=
  (Agree.same (u16At_ne_panic h)).mono fun v _ => v.toNat_lt

theorem Outcome.Agree.slice {lo hi : ℕ} (hlo : lo ≤ hi) (hhi : hi ≤ bytes.length) :
    Agree (slice bytes lo hi : Outcome ε Bytes) (Amt.slice bytes lo hi) fun part =>
      part.length = hi - lo := by
  refine (Agree.same (slice_ne_panic hlo hhi)).mono fun part h => ?_
  rw [slice_of hlo hhi] at h
  obtain rfl := Outcome.ok.inj h
  rw [List.length_drop, List.length_take]
  omega

theorem Outcome.Agree.sliceFrom {lo : ℕ} (h : lo ≤ bytes.length) :
    Agree (sliceFrom bytes lo : Outcome ε Bytes) (Amt.sliceFrom bytes lo) fun part =>
      part.length = bytes.length - lo := by
  refine (Agree.same (sliceFrom_ne_panic h)).mono fun part hpart => ?_
  rw [Amt.sliceFrom, if_pos h] at hpart
  obtain rfl := Outcome.ok.inj hpart
  exact List.length_drop

theorem Outcome.Agree.setAt {i : ℕ} (h : i < bytes.length) (b : UInt8) :
    Agree (setAt bytes i b : Outcome ε Bytes) (Amt.setAt bytes i b) fun written =>
      written.length = bytes.length := by
  rw [Amt.setAt, if_pos h]
  exact .ok List.length_set

theorem Outcome.Agree.copyInto {lo hi : ℕ} {source : Bytes} (hlo : lo ≤ hi)
    (hhi : hi ≤ bytes.length) (hsource : source.length = hi - lo) :
    Agree (copyInto bytes lo hi source : Outcome ε Bytes) (Amt.copyInto bytes lo hi source)
      fun written => written.length = bytes.length := by
  rw [Amt.copyInto, if_pos ⟨hlo, hhi, hsource⟩]
  refine .ok ?_
  simp only [List.length_append, List.length_take, List.length_drop]
  omega

theorem Outcome.Agree.ofSlice {n : ℕ} (h : bytes.length = n) :
    Agree (Octets.ofSlice bytes : Outcome ε (Octets n)) (Octets.ofSlice bytes) fun _ => True :=
  (Agree.same (Octets.ofSlice_ne_panic h)).mono fun _ _ => trivial

end Access

end Amt

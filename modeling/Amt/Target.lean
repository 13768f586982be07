import Amt.Lib.Checked

/-!
# The machine under a function

The functions that see bytes from the network compute offsets from length fields of the sender.
They are written over a `Target`: they check their arithmetic and the vectors they reserve
against it, and panic where a check fails.

* **On `Target.unbounded`**, the instance that the rest of the development uses, no check fails
  (the simp lemmas below), and the functions compute with natural numbers.
* **On a machine** (`Amt.Machine`) they do what the compiled program does; that no check fails
  there either is proved in the modules below that one.

A check stands where the source computes.  Of several offsets from one place only the largest is
checked.
-/

namespace Amt

/-- A vector that is reserved with a capacity taken from the input. -/
inductive Allocation where
  | records (capacity : ℕ)
  | sources (capacity : ℕ)
  | fragments (capacity : ℕ)
  | fragment (capacity : ℕ)
deriving DecidableEq, Repr

/-- What a function asks of the machine it runs on. -/
class Target where
  /-- The largest `usize`, if there is one. -/
  usizeMax : Option ℕ
  permits : Allocation → Bool

namespace Target

/-- Numbers and vectors without a bound. -/
instance unbounded : Target where
  usizeMax := none
  permits _ := true

variable {ε : Type*}

section Checks

variable [Target]

/-- The number is a `usize`; `checked_add` and `checked_mul` return it then. -/
def representable (n : ℕ) : Bool := usizeMax.all (n ≤ ·)

/-- What `saturating_mul` makes of a product. -/
def saturate (n : ℕ) : ℕ := usizeMax.elim n (min n)

/-- The check of an arithmetic expression on `usize`. -/
def fits (n : ℕ) : Outcome ε Unit := .assert (representable n)

/-- Any other check that the machine makes: on narrower integers, on a subtraction or on a
divisor. -/
def check (c : Prop) [Decidable c] : Outcome ε Unit := .assert (usizeMax.isNone ∨ c)

/-- The check of a reservation. -/
def reserve (allocation : Allocation) : Outcome ε Unit := .assert (permits allocation)

theorem representable_of_le {n k : ℕ} (h : representable k = true) (hle : n ≤ k) :
    representable n = true := by
  unfold representable at *
  cases hmax : usizeMax with
  | none => rfl
  | some max =>
      rw [hmax, Option.all_some, decide_eq_true_eq] at h
      exact decide_eq_true (hle.trans h)

theorem fits_of_le {n k : ℕ} (h : representable k = true) (hle : n ≤ k) :
    (fits n : Outcome ε Unit) = .ok () :=
  Outcome.assert_of (representable_of_le h hle)

end Checks

@[simp] theorem ensure_representable (n : ℕ) (e : ε) :
    Outcome.ensure (representable n) e = .ok () := rfl

@[simp] theorem saturate_unbounded (n : ℕ) : saturate n = n := rfl

@[simp] theorem fits_unbounded (n : ℕ) : (fits n : Outcome ε Unit) = .ok () := rfl

@[simp] theorem check_unbounded (c : Prop) [Decidable c] : (check c : Outcome ε Unit) = .ok () :=
  rfl

@[simp] theorem reserve_unbounded (allocation : Allocation) :
    (reserve allocation : Outcome ε Unit) = .ok () := rfl

end Target

end Amt

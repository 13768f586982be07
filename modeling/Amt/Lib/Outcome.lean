import Mathlib

/-!
# Calls that return, fail, or panic

A call of a fallible function in a language with checked indexing has three
outcomes: it returns a value, it returns an error, or it panics (an index or slice
outside its bounds, a length mismatch in a copy, an `unreachable!` that is reached).
Keeping the third one apart from the second makes "this never panics" a statement
about the model, rather than something the model assumes.

`Outcome` is a monad, so a body with `?` is a `do` block; `ensure` is an early
`return Err(..)`.  The two inversion lemmas `bind_eq_ok_iff` and
`ensure_eq_ok_iff` take a successful run apart, and `bind_ok`/`ensure_of` drive one
forward.
-/

namespace Amt

universe u v w

/-- The outcome of a call: a value, an error, or a panic. -/
inductive Outcome (ε : Type u) (α : Type v) where
  | ok (value : α)
  | err (error : ε)
  | panic
deriving DecidableEq, Repr

namespace Outcome

variable {ε : Type u} {ε' : Type*} {α β : Type v}

/-- Sequencing: an error or a panic ends the call. -/
protected def bind (x : Outcome ε α) (f : α → Outcome ε β) : Outcome ε β :=
  match x with
  | ok a => f a
  | err e => err e
  | panic => panic

instance : Monad (Outcome ε) where
  pure := ok
  bind := Outcome.bind

@[simp] theorem pure_eq_ok (a : α) : (pure a : Outcome ε α) = ok a := rfl

@[simp] theorem bind_ok (a : α) (f : α → Outcome ε β) : (ok a >>= f) = f a := rfl

@[simp] theorem bind_err (e : ε) (f : α → Outcome ε β) : (err e >>= f) = err e := rfl

@[simp] theorem bind_panic (f : α → Outcome ε β) : (panic >>= f) = panic := rfl

@[simp] theorem map_ok (a : α) (f : α → β) : (f <$> (ok a : Outcome ε α)) = ok (f a) := rfl

theorem bind_eq_ok_iff {x : Outcome ε α} {f : α → Outcome ε β} {b : β} :
    (x >>= f) = ok b ↔ ∃ a, x = ok a ∧ f a = ok b := by
  cases x with
  | ok a => simp
  | err e => simp
  | panic => simp

theorem bind_eq_err_iff {x : Outcome ε α} {f : α → Outcome ε β} {e : ε} :
    (x >>= f) = err e ↔ x = err e ∨ ∃ a, x = ok a ∧ f a = err e := by
  cases x with
  | ok a => simp
  | err e => simp
  | panic => simp

theorem bind_assoc {γ : Type v} (x : Outcome ε α) (f : α → Outcome ε β) (g : β → Outcome ε γ) :
    (x >>= f >>= g) = x >>= fun a => f a >>= g := by
  cases x with
  | ok a => rfl
  | err e => rfl
  | panic => rfl

/-- Go on when `c` holds, return the error `e` otherwise. -/
def ensure (c : Prop) [Decidable c] (e : ε) : Outcome ε Unit :=
  if c then ok () else err e

theorem ensure_of {c : Prop} [Decidable c] {e : ε} (h : c) : ensure c e = ok () := if_pos h

theorem ensure_of_not {c : Prop} [Decidable c] {e : ε} (h : ¬ c) : ensure c e = err e := if_neg h

@[simp] theorem ensure_eq_ok_iff {c : Prop} [Decidable c] {e : ε} {u : Unit} :
    ensure c e = ok u ↔ c := by
  by_cases h : c
  · simp [ensure, h]
  · simp [ensure, h]

theorem ensure_eq_err_iff {c : Prop} [Decidable c] {e e' : ε} :
    ensure c e = err e' ↔ ¬ c ∧ e = e' := by
  by_cases h : c
  · simp [ensure, h]
  · simp [ensure, h]

@[simp] theorem ensure_ne_panic {c : Prop} [Decidable c] {e : ε} : ensure c e ≠ panic := by
  by_cases h : c
  · simp [ensure, h]
  · simp [ensure, h]

/-- `Option::ok_or`. -/
def okOr (x : Option α) (e : ε) : Outcome ε α :=
  match x with
  | some a => ok a
  | none => err e

@[simp] theorem okOr_some (a : α) (e : ε) : okOr (some a) e = ok a := rfl

@[simp] theorem okOr_none (e : ε) : (okOr none e : Outcome ε α) = err e := rfl

@[simp] theorem okOr_eq_ok_iff {x : Option α} {e : ε} {a : α} : okOr x e = ok a ↔ x = some a := by
  cases x with
  | none => simp
  | some b => simp

@[simp] theorem okOr_ne_panic {x : Option α} {e : ε} : okOr x e ≠ panic := by
  cases x with
  | none => simp
  | some b => simp

/-- The result of a call that cannot panic. -/
def ofExcept : Except ε α → Outcome ε α
  | .ok a => ok a
  | .error e => err e

/-- A call does not panic when neither of its parts does. -/
theorem bind_ne_panic {x : Outcome ε α} {f : α → Outcome ε β} (hx : x ≠ panic)
    (hf : ∀ a, x = ok a → f a ≠ panic) : (x >>= f) ≠ panic := by
  cases x with
  | ok a => exact hf a rfl
  | err e => simp
  | panic => exact absurd rfl hx

theorem map_ne_panic {x : Outcome ε α} {f : α → β} (h : x ≠ panic) : f <$> x ≠ panic := by
  cases x with
  | ok a => simp
  | err e =>
      intro hmap
      cases hmap
  | panic => exact absurd rfl h

/-- Convert the error, as `?` does through `From`. -/
def mapErr (f : ε → ε') : Outcome ε α → Outcome ε' α
  | ok a => ok a
  | err e => err (f e)
  | panic => panic

@[simp] theorem mapErr_ok (f : ε → ε') (a : α) : mapErr f (ok a : Outcome ε α) = ok a := rfl

@[simp] theorem mapErr_err (f : ε → ε') (e : ε) :
    mapErr f (err e : Outcome ε α) = err (f e) := rfl

@[simp] theorem mapErr_panic (f : ε → ε') : mapErr f (panic : Outcome ε α) = panic := rfl

@[simp] theorem mapErr_eq_ok_iff {f : ε → ε'} {x : Outcome ε α} {a : α} :
    mapErr f x = ok a ↔ x = ok a := by
  cases x with
  | ok b => simp
  | err e => simp
  | panic => simp

/-! ### Returning at least as often -/

/-- Whatever value `x` returns, `y` returns too. -/
def LeOk (x y : Outcome ε α) : Prop := ∀ a, x = ok a → y = ok a

theorem LeOk.refl (x : Outcome ε α) : LeOk x x := fun _ h => h

theorem LeOk.bind {x y : Outcome ε α} {f g : α → Outcome ε β} (hxy : LeOk x y)
    (hfg : ∀ a, LeOk (f a) (g a)) : LeOk (x >>= f) (y >>= g) := by
  intro b h
  obtain ⟨a, hx, hf⟩ := bind_eq_ok_iff.mp h
  exact bind_eq_ok_iff.mpr ⟨a, hxy a hx, hfg a b hf⟩

theorem LeOk.bind_right {x : Outcome ε α} {f g : α → Outcome ε β}
    (hfg : ∀ a, LeOk (f a) (g a)) : LeOk (x >>= f) (x >>= g) :=
  (LeOk.refl x).bind hfg

theorem LeOk.ensure {c d : Prop} [Decidable c] [Decidable d] {e e' : ε} (h : c → d) :
    LeOk (ensure c e) (ensure d e') := by
  intro a hc
  exact ensure_eq_ok_iff.mpr (h (ensure_eq_ok_iff.mp hc))

/-! ### Postconditions -/

/-- Whatever value `x` returns satisfies `P`. -/
def Ensures (x : Outcome ε α) (P : α → Prop) : Prop := ∀ a, x = ok a → P a

theorem Ensures.ok {a : α} {P : α → Prop} (h : P a) : Ensures (ok a : Outcome ε α) P := by
  rintro _ ⟨⟩
  exact h

theorem Ensures.err {e : ε} {P : α → Prop} : Ensures (err e : Outcome ε α) P := by
  rintro _ ⟨⟩

theorem Ensures.bind {x : Outcome ε α} {f : α → Outcome ε β} {Q : α → Prop} {P : β → Prop}
    (hx : Ensures x Q) (hf : ∀ a, Q a → Ensures (f a) P) : Ensures (x >>= f) P := by
  intro b h
  obtain ⟨a, ha, hb⟩ := bind_eq_ok_iff.mp h
  exact hf a (hx a ha) b hb

/-- The first step contributes nothing to the postcondition. -/
theorem Ensures.bind_right {x : Outcome ε α} {f : α → Outcome ε β} {P : β → Prop}
    (hf : ∀ a, Ensures (f a) P) : Ensures (x >>= f) P :=
  Ensures.bind (fun _ _ => trivial) fun a (_ : True) => hf a

end Outcome

end Amt

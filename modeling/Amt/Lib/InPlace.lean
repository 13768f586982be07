import Amt.Lib.Outcome

/-!
# Programs that work in place

A function that is given a mutable reference leaves behind what it wrote, also when it then
returns an error.  A model that threads the state through `Outcome` has a state only where
there is a value, and cannot speak about the rest.  `InPlace` keeps both: a run ends with an
outcome and with the state that the caller sees.

* **`inspect`** looks at the state and may fail; **`write`** replaces it, or fails and leaves it.
* **`toOutcome`** forgets the state of a failed run.  It turns sequencing into the sequencing
  of `Outcome`, which is how an in-place program is compared with a functional one.
-/

namespace Amt

/-- A program over a state that survives its errors. -/
def InPlace (σ ε α : Type) := σ → Outcome ε α × σ

namespace InPlace

variable {σ ε α β : Type}

/-- Sequencing: after an error or a panic the state is what it was then. -/
protected def bind (p : InPlace σ ε α) (k : α → InPlace σ ε β) : InPlace σ ε β := fun state =>
  match p state with
  | (.ok a, state) => k a state
  | (.err e, state) => (.err e, state)
  | (.panic, state) => (.panic, state)

instance : Monad (InPlace σ ε) where
  pure a := fun state => (.ok a, state)
  bind := InPlace.bind

/-- A look at the state, which may fail. -/
def inspect (f : σ → Outcome ε α) : InPlace σ ε α := fun state => (f state, state)

/-- A new state, if there is one. -/
def write (f : σ → Outcome ε σ) : InPlace σ ε Unit := fun state =>
  match f state with
  | .ok state => (.ok (), state)
  | .err e => (.err e, state)
  | .panic => (.panic, state)

theorem bind_of_ok {p : InPlace σ ε α} {k : α → InPlace σ ε β} {state state' : σ} {a : α}
    (h : p state = (.ok a, state')) : (p >>= k) state = k a state' := by
  change InPlace.bind p k state = _
  rw [InPlace.bind, h]

theorem bind_of_err {p : InPlace σ ε α} {k : α → InPlace σ ε β} {state state' : σ} {e : ε}
    (h : p state = (.err e, state')) : (p >>= k) state = (.err e, state') := by
  change InPlace.bind p k state = _
  rw [InPlace.bind, h]

theorem bind_of_panic {p : InPlace σ ε α} {k : α → InPlace σ ε β} {state state' : σ}
    (h : p state = (.panic, state')) : (p >>= k) state = (.panic, state') := by
  change InPlace.bind p k state = _
  rw [InPlace.bind, h]

/-! ## The functional view -/

/-- The state together with the value, where there is one. -/
def toOutcome (p : InPlace σ ε α) (state : σ) : Outcome ε (σ × α) :=
  match p state with
  | (.ok a, state) => .ok (state, a)
  | (.err e, _) => .err e
  | (.panic, _) => .panic

theorem toOutcome_eq_ok_iff {p : InPlace σ ε α} {state state' : σ} {a : α} :
    p.toOutcome state = .ok (state', a) ↔ p state = (.ok a, state') := by
  rw [toOutcome]
  rcases p state with ⟨outcome, final⟩
  cases outcome with
  | ok b => simp [and_comm]
  | err e => simp
  | panic => simp

theorem toOutcome_eq_err_iff {p : InPlace σ ε α} {state : σ} {e : ε} :
    p.toOutcome state = .err e ↔ (p state).1 = .err e := by
  rw [toOutcome]
  rcases p state with ⟨outcome, final⟩
  cases outcome with
  | ok b => simp
  | err e => simp
  | panic => simp

theorem toOutcome_eq_panic_iff {p : InPlace σ ε α} {state : σ} :
    p.toOutcome state = .panic ↔ (p state).1 = .panic := by
  rw [toOutcome]
  rcases p state with ⟨outcome, final⟩
  cases outcome with
  | ok b => simp
  | err e => simp
  | panic => simp

/-- A run is one of the functional model. -/
theorem toOutcome_bind (p : InPlace σ ε α) (k : α → InPlace σ ε β) (state : σ) :
    (p >>= k).toOutcome state
      = p.toOutcome state >>= fun run => (k run.2).toOutcome run.1 := by
  rcases hrun : p state with ⟨outcome, final⟩
  cases outcome with
  | ok a =>
      have hbind : (p >>= k) state = k a final := bind_of_ok hrun
      rw [toOutcome_eq_ok_iff.mpr hrun, toOutcome, hbind]
      rfl
  | err e =>
      have herr : p.toOutcome state = .err e := toOutcome_eq_err_iff.mpr (by rw [hrun])
      rw [herr, toOutcome, bind_of_err hrun]
      rfl
  | panic =>
      have hpanic : p.toOutcome state = .panic := toOutcome_eq_panic_iff.mpr (by rw [hrun])
      rw [hpanic, toOutcome, bind_of_panic hrun]
      rfl

theorem inspect_of_err {f : σ → Outcome ε α} {state : σ} {e : ε} (h : f state = .err e) :
    inspect f state = (.err e, state) := by
  rw [inspect, h]

theorem toOutcome_inspect_bind (f : σ → Outcome ε α) (k : α → InPlace σ ε β) (state : σ) :
    (inspect f >>= k).toOutcome state = f state >>= fun a => (k a).toOutcome state := by
  rw [toOutcome_bind, toOutcome, inspect]
  cases f state with
  | ok a => rfl
  | err e => rfl
  | panic => rfl

theorem toOutcome_write (f : σ → Outcome ε σ) (state : σ) :
    (write f).toOutcome state = f state >>= fun state => .ok (state, ()) := by
  rw [toOutcome, write]
  cases f state with
  | ok a => rfl
  | err e => rfl
  | panic => rfl

theorem toOutcome_write_bind (f : σ → Outcome ε σ) (k : Unit → InPlace σ ε β) (state : σ) :
    (write f >>= k).toOutcome state = f state >>= fun state => (k ()).toOutcome state := by
  rw [toOutcome_bind, toOutcome_write]
  cases f state with
  | ok a => rfl
  | err e => rfl
  | panic => rfl

end InPlace

end Amt

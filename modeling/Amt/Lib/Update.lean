import Mathlib

/-!
# Updates of independent cells

A store is a family of cells.  Two patterns of updating it are developed here, over arbitrary
stores and values.

* **Keyed updates** name one cell, act on it, and leave the others as they are.  After a list
  of them a cell has seen its own updates in their order and no others (`read_foldl_keyed`),
  so that what matters of a list is its restriction to each cell.  Updates that empty the cell
  they name empty the cells of the list, in whatever order (`read_foldl_drop`).
* **Overwrites** (`Overwrite`) put a value into some of the cells, whatever stood there, and
  leave the others.  The later write wins, overwrites compose (`Overwrite.apply_apply`), and a
  list of them, done twice, does what it does once (`Overwrite.foldl_apply_foldl`).  Idempotence
  alone would not be enough for that: it is not kept by composition.
-/

namespace Amt

/-! ## Keyed updates -/

section Keyed

variable {σ ρ κ β : Type*} [DecidableEq κ] {step : σ → ρ → σ} {key : ρ → κ}
  {read : σ → κ → β} {effect : ρ → β → β}

/-- **A cell sees its own updates**, in their order. -/
theorem read_foldl_keyed
    (hstep : ∀ s r k, read (step s r) k = if key r = k then effect r (read s k) else read s k)
    (updates : List ρ) (s : σ) (k : κ) :
    read (updates.foldl step s) k =
      (updates.filter fun r => key r = k).foldl (fun b r => effect r b) (read s k) := by
  induction updates generalizing s with
  | nil => rfl
  | cons r updates ih =>
      rw [List.foldl_cons, ih, hstep]
      by_cases hk : key r = k
      · rw [if_pos hk, List.filter_cons_of_pos (by simpa using hk), List.foldl_cons]
      · rw [if_neg hk, List.filter_cons_of_neg (by simpa using hk)]

/-- Lists that agree on every cell lead to the same cells. -/
theorem read_foldl_keyed_congr
    (hstep : ∀ s r k, read (step s r) k = if key r = k then effect r (read s k) else read s k)
    {first second : List ρ}
    (hsame : ∀ k, (first.filter fun r => key r = k) = second.filter fun r => key r = k)
    (s : σ) (k : κ) : read (first.foldl step s) k = read (second.foldl step s) k := by
  rw [read_foldl_keyed hstep, read_foldl_keyed hstep, hsame k]

end Keyed

/-- **Emptied cells**: those that some update of the list names, and no others. -/
theorem read_foldl_drop {σ ρ κ β : Type*} [DecidableEq κ] (step : σ → ρ → σ) (key : ρ → κ)
    (read : σ → κ → Option β)
    (hstep : ∀ s r k, read (step s r) k = if key r = k then none else read s k)
    (drops : List ρ) (s : σ) (k : κ) :
    read (drops.foldl step s) k = if k ∈ drops.map key then none else read s k := by
  induction drops generalizing s with
  | nil => rfl
  | cons r drops ih =>
      rw [List.foldl_cons, ih, hstep]
      by_cases hk : key r = k
      · simp [hk]
      · simp [hk, Ne.symm hk]

/-! ## Overwrites -/

/-- For each cell the value that is written into it, if any. -/
def Overwrite (ι β : Type*) := ι → Option β

namespace Overwrite

variable {ι β ρ : Type*}

def apply (w : Overwrite ι β) (x : ι → β) : ι → β := fun i => (w i).getD (x i)

/-- Nothing is written. -/
def idle : Overwrite ι β := fun _ => none

/-- First `v`, then `w`: where both write, the later one wins. -/
def comp (w v : Overwrite ι β) : Overwrite ι β := fun i => (w i).or (v i)

theorem apply_idle (x : ι → β) : idle.apply x = x := rfl

theorem apply_apply (w v : Overwrite ι β) (x : ι → β) :
    w.apply (v.apply x) = (w.comp v).apply x := by
  funext i
  cases hw : w i with
  | none => simp [apply, comp, hw]
  | some b => simp [apply, comp, hw]

theorem apply_self (w : Overwrite ι β) (x : ι → β) : w.apply (w.apply x) = w.apply x := by
  funext i
  cases hw : w i with
  | none => simp [apply, hw]
  | some b => simp [apply, hw]

/-- A list of overwrites is one overwrite. -/
theorem exists_foldl_apply (w : ρ → Overwrite ι β) (updates : List ρ) :
    ∃ v : Overwrite ι β, ∀ x, updates.foldl (fun x r => (w r).apply x) x = v.apply x := by
  induction updates with
  | nil => exact ⟨idle, fun x => (apply_idle x).symm⟩
  | cons r updates ih =>
      obtain ⟨v, hv⟩ := ih
      exact ⟨v.comp (w r), fun x => (hv _).trans (apply_apply v (w r) x)⟩

/-- **Overwriting twice is overwriting once.** -/
theorem foldl_apply_foldl (w : ρ → Overwrite ι β) (updates : List ρ) (x : ι → β) :
    updates.foldl (fun x r => (w r).apply x) (updates.foldl (fun x r => (w r).apply x) x) =
      updates.foldl (fun x r => (w r).apply x) x := by
  obtain ⟨v, hv⟩ := exists_foldl_apply w updates
  rw [hv, hv]
  exact apply_self v x

end Overwrite

end Amt

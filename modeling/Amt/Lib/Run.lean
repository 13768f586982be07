import Mathlib

/-!
# Runs of a labelled step relation

A system is a step relation `σ → α → σ → Prop`: the label is the input of a step (a
call, a delivered message, a failure pattern) and the relation may be deterministic or
not.  A run is a finite sequence of steps with the list of its labels, grown at its end,
so that an induction over a run sees the last step.

What every step preserves, every run preserves (`Run.invariant`), and a run contains the
runs of its first steps (`Run.exists_prefix`).  Where a step is a partial function, its runs
can be executed (`Run.of_foldlM`) and their labels determine them (`Run.unique`).
-/

namespace Amt

variable {σ α : Type*}

/-- `Run step s labels t`: the steps labelled `labels`, in order, lead from `s` to `t`. -/
inductive Run (step : σ → α → σ → Prop) (s : σ) : List α → σ → Prop
  | nil : Run step s [] s
  | snoc {labels : List α} {t u : σ} {a : α} :
      Run step s labels t → step t a u → Run step s (labels ++ [a]) u

/-- **The invariant rule.** -/
theorem Run.invariant {step : σ → α → σ → Prop} {s t : σ} {labels : List α} {I : σ → Prop}
    (hstep : ∀ s a t, I s → step s a t → I t) (hs : I s) (h : Run step s labels t) : I t := by
  induction h with
  | nil => exact hs
  | snoc _ hlast ih => exact hstep _ _ _ ih hlast

/-- A run can be stopped after any number of its steps. -/
theorem Run.exists_prefix {step : σ → α → σ → Prop} {s t : σ} {labels earlier later : List α}
    (h : Run step s labels t) (hsplit : labels = earlier ++ later) :
    ∃ u, Run step s earlier u := by
  induction h generalizing later with
  | nil =>
      obtain ⟨rfl, -⟩ := List.append_eq_nil_iff.mp hsplit.symm
      exact ⟨s, .nil⟩
  | snoc hrun hlast ih =>
      rcases List.eq_nil_or_concat later with rfl | ⟨later', last, rfl⟩
      · rw [List.append_nil] at hsplit
        exact ⟨_, hsplit ▸ hrun.snoc hlast⟩
      · rw [List.concat_eq_append, ← List.append_assoc] at hsplit
        exact ih (List.append_inj' hsplit rfl).1

section

variable {f : σ → α → Option σ} {s t u : σ} {labels : List α}

/-- Executing the labels one after the other is a run. -/
theorem Run.of_foldlM (h : labels.foldlM f s = some t) :
    Run (fun s a t => f s a = some t) s labels t := by
  induction labels using List.reverseRecOn generalizing t with
  | nil =>
      cases h
      exact .nil
  | append_singleton labels a ih =>
      simp only [List.foldlM_append, List.foldlM_cons, List.foldlM_nil, Option.bind_eq_bind,
        Option.pure_def, Option.bind_eq_some_iff] at h
      obtain ⟨u, hu, _, hlast, ⟨⟩⟩ := h
      exact (ih hu).snoc hlast

/-- Two runs of one partial function with the same labels end in the same state. -/
theorem Run.unique (h : Run (fun s a t => f s a = some t) s labels t)
    (h' : Run (fun s a t => f s a = some t) s labels u) : t = u := by
  induction h generalizing u with
  | nil =>
      generalize hnil : ([] : List α) = labels at h'
      cases h' with
      | nil => rfl
      | snoc => simp at hnil
  | @snoc labels t v a _ hlast ih =>
      generalize hsnoc : labels ++ [a] = labels' at h'
      cases h' with
      | nil => simp at hsnoc
      | snoc hrun' hlast' =>
          obtain ⟨rfl, ha⟩ := List.append_inj' hsnoc rfl
          obtain rfl := List.singleton_inj.mp ha
          obtain rfl := ih hrun'
          exact Option.some.inj (hlast.symm.trans hlast')

end

end Amt

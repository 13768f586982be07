import Mathlib

/-!
# Logs of runs

A deterministic system takes inputs one after the other and may emit an entry at each.  What
the system holds after a run is often a summary of the log of these entries, most commonly
of the *latest* entry about each key.

* `emitted` is the log of a run.  An invariant between the log and the state is proved by its
  steps (`emitted_invariant`).
* `latest` is the last entry about a key.  It is determined by the end of the log
  (`latest_append_singleton`), and it stands in the log with nothing about the key behind it
  (`exists_append_of_latest`).
-/

namespace Amt

/-! ## The log of a run -/

section Emitted

variable {σ ι α : Type*} (step : σ → ι → σ) (emit : σ → ι → Option α)

/-- What the inputs make the system emit, in order. -/
def emitted (s : σ) : List ι → List α
  | [] => []
  | i :: inputs => (emit s i).toList ++ emitted (step s i) inputs

theorem emitted_append_singleton (s : σ) (inputs : List ι) (i : ι) :
    emitted step emit s (inputs ++ [i]) =
      emitted step emit s inputs ++ (emit (inputs.foldl step s) i).toList := by
  induction inputs generalizing s with
  | nil => simp [emitted]
  | cons j inputs ih =>
      rw [List.cons_append, emitted, ih, emitted, List.foldl_cons, List.append_assoc]

/-- **The invariant rule of a log and a state.** -/
theorem emitted_invariant {I : List α → σ → Prop} {s : σ} (hstart : I [] s)
    (hstep : ∀ log s i, I log s → I (log ++ (emit s i).toList) (step s i)) (inputs : List ι) :
    I (emitted step emit s inputs) (inputs.foldl step s) := by
  induction inputs using List.reverseRecOn with
  | nil => exact hstart
  | append_singleton inputs i ih =>
      rw [emitted_append_singleton, List.foldl_append]
      exact hstep _ _ i ih

end Emitted

/-! ## The latest entry -/

section Latest

variable {α κ : Type*} [DecidableEq κ] (key : α → κ)

/-- The last entry of a log about a key. -/
def latest (log : List α) (k : κ) : Option α := (log.filter fun a => key a = k).getLast?

variable {key} {log : List α} {a : α} {k : κ}

theorem latest_append_singleton (log : List α) (a : α) (k : κ) :
    latest key (log ++ [a]) k = if key a = k then some a else latest key log k := by
  rw [latest, List.filter_append]
  split
  · next hkey => simp [hkey]
  · next hkey => simp [hkey, latest]

/-- The last entry of a key, and what stands around it. -/
theorem exists_append_of_latest (h : latest key log k = some a) :
    ∃ earlier later, log = earlier ++ a :: later ∧ key a = k ∧ ∀ b ∈ later, key b ≠ k := by
  induction log using List.reverseRecOn with
  | nil => cases h
  | append_singleton log b ih =>
      rw [latest_append_singleton] at h
      split at h
      · next hkey =>
          obtain rfl := Option.some.inj h
          exact ⟨log, [], rfl, hkey, List.forall_mem_nil _⟩
      · next hkey =>
          obtain ⟨earlier, later, rfl, ha, hlater⟩ := ih h
          refine ⟨earlier, later ++ [b], by simp, ha, fun c hc => ?_⟩
          rcases List.mem_append.mp hc with hc | hc
          · exact hlater c hc
          · obtain rfl := List.mem_singleton.mp hc
            exact hkey

end Latest

end Amt

import Amt.Lib.Outcome

/-!
# Shuffling a list and taking two lists in turn

* `shuffle` is the exchange form of the Fisher–Yates shuffle: from the back of the list to the
  front, each entry changes places with one at or before it.  The generator and the way an
  index is drawn from it are parameters, and whatever they are the result is a permutation
  (`exists_shuffle`).
* `takeTurns` takes from two queues in turn, or from the other one if the queue whose turn it
  is has nothing left.  It does not run out as long as the rounds are the entries
  (`exists_takeTurns`).
* `Alternates p l` says that neighbours in `l` differ in `p` until only one value of `p` is
  left: two neighbours that agree are followed by nothing else.
-/

namespace Amt

/-! ## Exchanging entries -/

section Shuffle

variable {α σ : Type*} {ε : Type*}

/-- `slice::swap`. -/
def swapAt (l : List α) (i j : ℕ) : Outcome ε (List α) :=
  match l[i]?, l[j]? with
  | some a, some b => .ok ((l.set i b).set j a)
  | _, _ => .panic

theorem exists_swapAt {l : List α} {i j : ℕ} (hi : i < l.length) (hj : j < l.length) :
    ∃ swapped, (swapAt l i j : Outcome ε (List α)) = .ok swapped ∧ swapped.Perm l := by
  refine ⟨(l.set i l[j]).set j l[i], ?_, List.set_set_perm hi hj⟩
  rw [swapAt, List.getElem?_eq_getElem hi, List.getElem?_eq_getElem hj]

/-- The entries from `index` down to the second one, each exchanged with one at or before it. -/
def shuffle (next : σ → σ) (draw : σ → ℕ) : ℕ → σ → List α → Outcome ε (List α)
  | 0, _, l => .ok l
  | index + 1, random, l => do
      let random := next random
      let l ← swapAt l (index + 1) (draw random % (index + 2))
      shuffle next draw index random l

/-- A shuffle returns the same elements. -/
theorem exists_shuffle (next : σ → σ) (draw : σ → ℕ) {index : ℕ} (random : σ) {l : List α}
    (h : index < l.length) :
    ∃ shuffled, (shuffle next draw index random l : Outcome ε (List α)) = .ok shuffled ∧
      shuffled.Perm l := by
  induction index generalizing random l with
  | zero => exact ⟨l, rfl, .refl l⟩
  | succ index ih =>
      have hdraw : draw (next random) % (index + 2) < l.length :=
        Nat.lt_of_lt_of_le (Nat.mod_lt _ (Nat.succ_pos _)) h
      obtain ⟨swapped, hswap, hperm⟩ := exists_swapAt (ε := ε) h hdraw
      have hindex : index < swapped.length := by
        rw [hperm.length_eq]
        omega
      obtain ⟨shuffled, hshuffle, hperm'⟩ := ih (next random) hindex
      refine ⟨shuffled, ?_, hperm'.trans hperm⟩
      rw [shuffle, hswap, Outcome.bind_ok, hshuffle]

end Shuffle

/-! ## Alternation -/

section Alternates

variable {α : Type*}

/-- Neighbours differ in `p` until one of its values is used up. -/
def Alternates (p : α → Bool) : List α → Prop
  | [] => True
  | [_] => True
  | a :: b :: rest => (p a = p b → ∀ c ∈ rest, p c = p a) ∧ Alternates p (b :: rest)

theorem Alternates.of_forall {p : α → Bool} {v : Bool} {l : List α} (h : ∀ a ∈ l, p a = v) :
    Alternates p l := by
  induction l with
  | nil => trivial
  | cons a l ih =>
      cases l with
      | nil => trivial
      | cons b rest =>
          refine ⟨fun _ c hc => ?_, ih fun c hc => h c (List.mem_cons_of_mem _ hc)⟩
          have hc' : c ∈ a :: b :: rest := by simp [hc]
          rw [h c hc', h a List.mem_cons_self]

/-- An entry in front of a list that starts with the other value. -/
theorem Alternates.cons_of_ne {p : α → Bool} {a b : α} {rest : List α} (hne : p a ≠ p b)
    (h : Alternates p (b :: rest)) : Alternates p (a :: b :: rest) :=
  ⟨fun heq => absurd heq hne, h⟩

/-- `first.pop_front().or_else(|| second.pop_front())`: the entry and the two queues left. -/
def popEither : List α → List α → Option (α × List α × List α)
  | a :: first, second => some (a, first, second)
  | [], b :: second => some (b, [], second)
  | [], [] => none

/-- `count` entries, the queue whose turn it is first. -/
def takeTurns : ℕ → List α → List α → Option (List α)
  | 0, _, _ => some []
  | count + 1, first, second =>
      match popEither first second with
      | some (a, first, second) => (takeTurns count second first).map (a :: ·)
      | none => none

theorem takeTurns_succ_eq_some_iff {count : ℕ} {first second l : List α} :
    takeTurns (count + 1) first second = some l ↔
      ∃ a first' second' rest, popEither first second = some (a, first', second') ∧
        takeTurns count second' first' = some rest ∧ l = a :: rest := by
  rw [takeTurns]
  cases hpop : popEither first second with
  | none => simp
  | some popped =>
      obtain ⟨a, first', second'⟩ := popped
      simp [eq_comm]

theorem takeTurns_cons (count : ℕ) (a : α) (first second : List α) :
    takeTurns (count + 1) (a :: first) second = (takeTurns count second first).map (a :: ·) :=
  rfl

theorem takeTurns_nil_cons (count : ℕ) (b : α) (second : List α) :
    takeTurns (count + 1) [] (b :: second) = (takeTurns count second []).map (b :: ·) :=
  rfl

/-- Two queues whose entries `p` tells apart: each entry is taken once, and they alternate. -/
theorem exists_takeTurns {p : α → Bool} {v : Bool} {first second : List α} {count : ℕ}
    (hcount : count = first.length + second.length) (hfirst : ∀ a ∈ first, p a = v)
    (hsecond : ∀ a ∈ second, p a = !v) :
    ∃ l, takeTurns count first second = some l ∧ l.Perm (first ++ second) ∧ Alternates p l ∧
      (first ≠ [] → ∃ a rest, l = a :: rest ∧ p a = v) := by
  induction count generalizing first second v with
  | zero =>
      obtain rfl : first = [] := List.length_eq_zero_iff.mp (by omega)
      obtain rfl : second = [] := List.length_eq_zero_iff.mp (by omega)
      exact ⟨[], rfl, .refl _, trivial, fun h => absurd rfl h⟩
  | succ count ih =>
      cases first with
      | nil =>
          -- only the other queue is left, and it stays so
          cases second with
          | nil => cases hcount
          | cons b second =>
              obtain ⟨hb, hrest⟩ := List.forall_mem_cons.mp hsecond
              have hnone : ∀ a ∈ ([] : List α), p a = !!v := fun _ h => absurd h List.not_mem_nil
              obtain ⟨l, hl, hperm, -, -⟩ := ih (by simpa using hcount) hrest hnone
              rw [List.append_nil] at hperm
              refine ⟨b :: l, by rw [takeTurns_nil_cons, hl, Option.map_some], ?_, ?_, ?_⟩
              · exact hperm.cons b
              · refine Alternates.of_forall (v := !v) fun c hc => ?_
                obtain rfl | hc := List.mem_cons.mp hc
                · exact hb
                · exact hrest c (hperm.mem_iff.mp hc)
              · exact fun h => absurd rfl h
      | cons a first =>
          obtain ⟨ha, hrest⟩ := List.forall_mem_cons.mp hfirst
          have hother : ∀ b ∈ first, p b = !!v := by simpa using hrest
          rw [List.length_cons] at hcount
          obtain ⟨l, hl, hperm, halt, hhead⟩ := ih (by omega) hsecond hother
          refine ⟨a :: l, by rw [takeTurns_cons, hl, Option.map_some], ?_, ?_, ?_⟩
          · exact (hperm.trans List.perm_append_comm).cons a
          · by_cases hempty : second = []
            · subst hempty
              refine Alternates.of_forall (v := v) fun c hc => ?_
              obtain rfl | hc := List.mem_cons.mp hc
              · exact ha
              · exact hrest c (by simpa using hperm.mem_iff.mp hc)
            · obtain ⟨b, rest, rfl, hb⟩ := hhead hempty
              refine halt.cons_of_ne ?_
              rw [ha, hb]
              exact (Bool.not_ne_self v).symm
          · exact fun _ => ⟨a, l, rfl, ha⟩

end Alternates

end Amt

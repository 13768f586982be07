import Mathlib

/-!
# Taking turns

One member of a group is on duty and the others wait in a queue.  A **turn** puts the first of
the queue on duty and sends the one that was to its end, provided that it is still a member;
the members can be **replaced** at any time, and the one on duty then stays until the next
turn, member or not.

* **The state fits together** (`Balanced`): the queue is, without repetition, the members that
  are not on duty.
* **The order of turns is a cycle** (`order`): the queue, and behind it the one on duty if it
  is a member.  A turn rotates this list by one (`Balanced.order_turn`), whether or not the one that
  leaves comes back, so that as many turns as there are members put each of them on duty once
  (`Balanced.turns_eq_order`).
* **Who is no member is not called** (`Balanced.current_turn_mem`).
-/

namespace Amt

section Collect

variable {α : Type*} [DecidableEq α] {p : α → Prop} [DecidablePred p]

/-- One element of a list is added to the collection if it qualifies and is new. -/
def collect (p : α → Prop) [DecidablePred p] (collected : List α) (a : α) : List α :=
  if p a ∧ ¬ collected.contains a then collected ++ [a] else collected

theorem mem_foldl_collect {l : List α} {a : α} : a ∈ l.foldl (collect p) [] ↔ a ∈ l ∧ p a := by
  induction l using List.reverseRecOn with
  | nil => simp
  | append_singleton l b ih =>
      rw [List.foldl_append, List.foldl_cons, List.foldl_nil, collect]
      by_cases hnew : p b ∧ ¬ (l.foldl (collect p) []).contains b
      · rw [if_pos hnew, List.mem_append, ih, List.mem_append, List.mem_singleton]
        constructor
        · rintro (⟨hmem, ha⟩ | rfl)
          · exact ⟨.inl hmem, ha⟩
          · exact ⟨.inr rfl, hnew.1⟩
        · rintro ⟨hmem | rfl, ha⟩
          · exact .inl ⟨hmem, ha⟩
          · exact .inr rfl
      · rw [if_neg hnew, ih, List.mem_append, List.mem_singleton]
        refine ⟨fun h => ⟨.inl h.1, h.2⟩, ?_⟩
        rintro ⟨hmem | rfl, ha⟩
        · exact ⟨hmem, ha⟩
        · -- it qualifies, so it has been collected before
          rw [not_and_not_right, List.contains_iff_mem, ih] at hnew
          exact hnew ha

theorem nodup_foldl_collect (l : List α) : (l.foldl (collect p) []).Nodup := by
  induction l using List.reverseRecOn with
  | nil => exact List.nodup_nil
  | append_singleton l b ih =>
      rw [List.foldl_append, List.foldl_cons, List.foldl_nil, collect]
      split
      · next hnew =>
          rw [List.contains_iff_mem] at hnew
          exact List.nodup_append.mpr ⟨ih, List.nodup_singleton b, by
            rintro a ha c hc rfl
            exact hnew.2 (List.mem_singleton.mp hc ▸ ha)⟩
      · exact ih

end Collect

/-- Who is on duty, who waits, and who is a member. -/
structure Rotation (α : Type*) where
  current : α
  waiting : List α
  members : List α

namespace Rotation

variable {α : Type*} [DecidableEq α]

/-- The next one takes over. -/
def turn (r : Rotation α) : Rotation α :=
  match r.waiting with
  | [] => r
  | next :: rest =>
      { r with
        current := next
        waiting := if r.members.contains r.current then rest ++ [r.current] else rest }

/-- Other members; the one on duty stays for now. -/
def replace (r : Rotation α) (members : List α) : Rotation α :=
  { r with members, waiting := members.filter fun a => a ≠ r.current }

/-- The order in which the members are called. -/
def order (r : Rotation α) : List α :=
  r.waiting ++ if r.members.contains r.current then [r.current] else []

/-- Everyone but the current member waits, once. -/
structure Balanced (r : Rotation α) : Prop where
  members_ne_nil : r.members ≠ []
  members_nodup : r.members.Nodup
  waiting_nodup : r.waiting.Nodup
  mem_waiting : ∀ a, a ∈ r.waiting ↔ a ∈ r.members ∧ a ≠ r.current

/-- The members `turn` puts on duty, one after the other. -/
def turns (r : Rotation α) (n : ℕ) : List α :=
  (List.range n).map fun i => (turn^[i + 1] r).current

theorem turns_succ (r : Rotation α) (n : ℕ) :
    r.turns (n + 1) = r.turns n ++ [(turn^[n + 1] r).current] := by
  rw [turns, List.range_succ, List.map_append]
  rfl

@[simp] theorem members_turn (r : Rotation α) : r.turn.members = r.members := by
  unfold turn
  split <;> rfl

variable {r : Rotation α}

namespace Balanced

/-! ### The order of turns -/

theorem mem_order (h : r.Balanced) {a : α} : a ∈ r.order ↔ a ∈ r.members := by
  rw [order, List.mem_append, h.mem_waiting]
  by_cases hcurrent : r.current ∈ r.members
  · rw [if_pos (List.contains_iff_mem.mpr hcurrent), List.mem_singleton]
    by_cases ha : a = r.current
    · simp [ha, hcurrent]
    · simp [ha]
  · rw [if_neg (by simpa using hcurrent), List.mem_nil_iff, or_false, and_iff_left_iff_imp]
    rintro hmem rfl
    exact hcurrent hmem

theorem order_nodup (h : r.Balanced) : r.order.Nodup := by
  refine List.nodup_append.mpr ⟨h.waiting_nodup, ?_, ?_⟩
  · split
    · exact List.nodup_singleton _
    · exact List.nodup_nil
  · rintro a ha b hb rfl
    split at hb
    · exact ((h.mem_waiting a).mp ha).2 (List.mem_singleton.mp hb)
    · cases hb

theorem order_perm (h : r.Balanced) : r.order.Perm r.members :=
  (List.perm_ext_iff_of_nodup h.order_nodup h.members_nodup).mpr fun _ => h.mem_order

/-- The one who is put on duty is the first in the order, and goes to its end. -/
theorem order_eq (h : r.Balanced) :
    ∃ rest, r.order = r.turn.current :: rest ∧ r.turn.order = rest ++ [r.turn.current] := by
  cases hwaiting : r.waiting with
  | nil =>
      -- nobody waits: the one on duty is the only member
      have hturn : r.turn = r := by rw [turn, hwaiting]
      obtain ⟨a, ha⟩ := List.exists_mem_of_ne_nil _ h.members_ne_nil
      have hcurrent : r.current ∈ r.members := by
        by_contra hnot
        have hmem := (h.mem_waiting a).mpr ⟨ha, fun heq => hnot (heq ▸ ha)⟩
        rw [hwaiting] at hmem
        cases hmem
      refine ⟨[], ?_, ?_⟩
      · rw [hturn, order, hwaiting, if_pos (List.contains_iff_mem.mpr hcurrent)]
        rfl
      · rw [hturn, order, hwaiting, if_pos (List.contains_iff_mem.mpr hcurrent)]
  | cons next rest =>
      have hnext : next ∈ r.members := ((h.mem_waiting next).mp (by simp [hwaiting])).1
      have hturn : r.turn =
          { r with
            current := next
            waiting := if r.members.contains r.current then rest ++ [r.current] else rest } := by
        rw [turn, hwaiting]
      refine ⟨rest ++ if r.members.contains r.current then [r.current] else [], ?_, ?_⟩
      · rw [hturn, order, hwaiting]
        rfl
      · rw [hturn, order, if_pos (List.contains_iff_mem.mpr hnext)]
        split
        · rfl
        · rw [List.append_nil]

theorem order_turn (h : r.Balanced) : r.turn.order = r.order.rotate 1 := by
  obtain ⟨rest, horder, hturn⟩ := h.order_eq
  rw [horder, hturn, List.rotate_cons_succ, List.rotate_zero]

/-- Who is put on duty is a member. -/
theorem current_turn_mem (h : r.Balanced) : r.turn.current ∈ r.members := by
  obtain ⟨rest, horder, -⟩ := h.order_eq
  rw [← h.mem_order, horder]
  exact List.mem_cons_self

/-! ### What keeps the balance -/

/-- A turn keeps the balance. -/
theorem turn (h : r.Balanced) : r.turn.Balanced := by
  obtain ⟨rest, horder, hturn⟩ := h.order_eq
  -- whoever waits now stands in the order behind the one on duty
  have hwaiting : r.turn.waiting = rest := by
    rw [order, members_turn, if_pos (List.contains_iff_mem.mpr h.current_turn_mem)] at hturn
    exact List.append_cancel_right hturn
  have hnodup := h.order_nodup
  rw [horder, List.nodup_cons] at hnodup
  refine ⟨?_, ?_, ?_, fun a => ?_⟩
  · rw [members_turn]
    exact h.members_ne_nil
  · rw [members_turn]
    exact h.members_nodup
  · rw [hwaiting]
    exact hnodup.2
  · rw [hwaiting, members_turn, ← h.mem_order, horder, List.mem_cons]
    constructor
    · intro ha
      exact ⟨.inr ha, fun heq => hnodup.1 (heq ▸ ha)⟩
    · rintro ⟨heq | ha, hne⟩
      · exact absurd heq hne
      · exact ha

theorem iterate_turn (h : r.Balanced) (n : ℕ) : (Rotation.turn^[n] r).Balanced := by
  induction n with
  | zero => exact h
  | succ n ih =>
      rw [Function.iterate_succ_apply']
      exact ih.turn

/-! ### A full round -/

theorem order_iterate_turn (h : r.Balanced) (n : ℕ) :
    (Rotation.turn^[n] r).order = r.order.rotate n := by
  induction n with
  | zero => rw [Function.iterate_zero_apply, List.rotate_zero]
  | succ n ih =>
      rw [Function.iterate_succ_apply', (h.iterate_turn n).order_turn, ih, List.rotate_rotate]

/-- **A full round calls every member once**, in the order of turns. -/
theorem turns_eq_order (h : r.Balanced) : r.turns r.members.length = r.order := by
  have hlength : r.members.length = r.order.length := h.order_perm.length_eq.symm
  refine List.ext_getElem (by simp [turns, hlength]) fun i hi hi' => ?_
  obtain ⟨rest, horder, -⟩ := (h.iterate_turn i).order_eq
  have hhead : (r.order.rotate i).head? = some (Rotation.turn^[i + 1] r).current := by
    rw [← h.order_iterate_turn, horder, Function.iterate_succ_apply', List.head?_cons]
  rw [List.head?_rotate hi', List.getElem?_eq_getElem hi', Option.some_inj] at hhead
  rw [hhead]
  simp [turns]

end Balanced

/-- Any new members, whoever is on duty. -/
theorem balanced_replace (r : Rotation α) {members : List α} (hne : members ≠ [])
    (hnodup : members.Nodup) : (r.replace members).Balanced where
  members_ne_nil := hne
  members_nodup := hnodup
  waiting_nodup := hnodup.filter _
  mem_waiting a := by simp [replace]

end Rotation

end Amt

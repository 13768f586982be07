import Amt.Lib.BTree

/-!
# Vectors that are filtered and drained in place

Three operations of a vector, on lists.

* **`swapRemove`** takes one entry out and moves the last one into its place: the rest is
  the same entries in another order.
* **`retainUnseen`** keeps the entries that pass a test and whose key is met for the first
  time, over a set of keys that are taken already.  What it keeps has pairwise distinct
  keys, none of them taken.
* **`sortByKey`** is the stable sort by a key.
-/

namespace Amt

section SwapRemove

variable {α : Type*}

/-- The list without the entry at `index`, whose place the last entry takes. -/
def swapRemove (l : List α) (index : ℕ) : List α :=
  match l.getLast? with
  | none => []
  | some last => (l.set index last).dropLast

theorem mem_of_mem_swapRemove {l : List α} {index : ℕ} {a : α} (h : a ∈ swapRemove l index) :
    a ∈ l := by
  unfold swapRemove at h
  cases hlast : l.getLast? with
  | none => simp [hlast] at h
  | some last =>
      rw [hlast] at h
      rcases List.mem_or_eq_of_mem_set (List.mem_of_mem_dropLast h) with hmem | rfl
      · exact hmem
      · exact List.mem_of_getLast? hlast

theorem length_swapRemove (l : List α) (index : ℕ) :
    (swapRemove l index).length = l.length - 1 := by
  unfold swapRemove
  cases hlast : l.getLast? with
  | none => simp [List.getLast?_eq_none_iff.mp hlast]
  | some last => simp

end SwapRemove

section RetainUnseen

variable {α K : Type*} [LinearOrder K] (key : α → K) (allowed : α → Bool)

/-- `retain` with a test and a set of keys into which each kept entry's key goes. -/
def retainUnseen : BTreeSet K → List α → List α
  | _, [] => []
  | seen, a :: l =>
      if allowed a && !seen.contains (key a) then a :: retainUnseen (seen.insert (key a)) l
      else retainUnseen seen l

variable {key allowed}

theorem allowed_of_mem_retainUnseen {seen : BTreeSet K} {l : List α} {a : α}
    (h : a ∈ retainUnseen key allowed seen l) : allowed a = true := by
  induction l generalizing seen with
  | nil => simp [retainUnseen] at h
  | cons b l ih =>
      unfold retainUnseen at h
      split at h
      · next hb =>
          rcases List.mem_cons.mp h with rfl | h
          · exact (Bool.and_eq_true_iff.mp hb).1
          · exact ih h
      · exact ih h

theorem key_not_mem_of_mem_retainUnseen {seen : BTreeSet K} {l : List α} {a : α}
    (h : a ∈ retainUnseen key allowed seen l) : key a ∉ seen := by
  induction l generalizing seen with
  | nil => simp [retainUnseen] at h
  | cons b l ih =>
      unfold retainUnseen at h
      split at h
      · next hb =>
          rcases List.mem_cons.mp h with rfl | h
          · rw [Std.ExtTreeSet.mem_iff_contains, Bool.not_eq_true]
            exact Bool.not_eq_true' _ ▸ (Bool.and_eq_true_iff.mp hb).2
          · exact fun hmem => ih h (BTreeSet.mem_insert_iff.mpr (.inr hmem))
      · exact ih h

theorem nodup_keys_retainUnseen (seen : BTreeSet K) (l : List α) :
    ((retainUnseen key allowed seen l).map key).Nodup := by
  induction l generalizing seen with
  | nil => exact List.nodup_nil
  | cons a l ih =>
      unfold retainUnseen
      split
      · rw [List.map_cons, List.nodup_cons]
        refine ⟨fun hmem => ?_, ih _⟩
        obtain ⟨b, hb, hkey⟩ := List.mem_map.mp hmem
        exact key_not_mem_of_mem_retainUnseen hb (BTreeSet.mem_insert_iff.mpr (.inl hkey))
      · exact ih _

end RetainUnseen

section SortByKey

variable {α R : Type*} [LinearOrder R] (key : α → R)

/-- `sort_by_key`: entries with equal keys stay in their order. -/
def sortByKey (l : List α) : List α := l.insertionSort fun a b => key a ≤ key b

theorem sortByKey_perm (l : List α) : (sortByKey key l).Perm l :=
  List.perm_insertionSort _ l

theorem pairwise_sortByKey (l : List α) : (sortByKey key l).Pairwise fun a b => key a ≤ key b := by
  have : Std.Total fun a b : α => key a ≤ key b := ⟨fun a b => le_total (key a) (key b)⟩
  have : IsTrans α fun a b => key a ≤ key b := ⟨fun _ _ _ => le_trans⟩
  exact List.pairwise_insertionSort _ l

/-- In a sorted list the entries with the smallest key stand in front of all others. -/
theorem lt_key_of_mem_dropWhile {l : List α} {k : R}
    (hsorted : l.Pairwise fun a b => key a ≤ key b) (hle : ∀ a ∈ l, k ≤ key a) {b : α}
    (hb : b ∈ l.dropWhile fun a => key a == k) : k < key b := by
  induction l with
  | nil => cases hb
  | cons a l ih =>
      obtain ⟨hfirst, hrest⟩ := List.pairwise_cons.mp hsorted
      by_cases ha : key a = k
      · rw [List.dropWhile_cons_of_pos (by simpa using ha)] at hb
        exact ih hrest (fun c hc => hle c (List.mem_cons_of_mem _ hc)) hb
      · rw [List.dropWhile_cons_of_neg (by simpa using ha)] at hb
        have hlt : k < key a := lt_of_le_of_ne (hle a List.mem_cons_self) (Ne.symm ha)
        obtain rfl | hb := List.mem_cons.mp hb
        · exact hlt
        · exact lt_of_lt_of_le hlt (hfirst b hb)

end SortByKey

end Amt

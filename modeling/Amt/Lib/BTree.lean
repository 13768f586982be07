import Mathlib

/-!
# Ordered maps and sets, iterated in key order

`Std.ExtTreeMap` and `Std.ExtTreeSet` are search trees up to the equivalence
"same bindings", so equality is extensional and iteration order is the key order.
That is the observable behaviour of a B-tree map, and this file fixes the two
abbreviations and the facts about them that a fold over such a map needs.

* **Sorted enumerations are canonical.**  Keys are enumerated in strictly increasing
  order (`keys_pairwise_lt`, `toList_pairwise_lt`), and such lists with the same members
  are equal, so two ways of enumerating the same keys agree in content and in order.
* **Keyed accumulation.**  `upsert` is the `entry(key).or_default()` idiom: read the
  old value or a default, store the new one.  A fold of `upsert`s over a list is
  read back one key at a time: at `k` it is the fold of the elements whose key is
  `k` (`getElem?_foldl_upsert`).
-/

namespace Amt

open Std (ExtTreeMap ExtTreeSet LawfulEqCmp TransCmp)

/-- An ordered map over a linearly ordered key type. -/
abbrev BTreeMap (K : Type*) (V : Type*) [LinearOrder K] := ExtTreeMap K V compare

/-- An ordered set over a linearly ordered element type. -/
abbrev BTreeSet (K : Type*) [LinearOrder K] := ExtTreeSet K compare

section Order

/-- The order of a type by an injective key.  Equality stays the type's own, so that
equations between keys have one `Decidable` instance. -/
abbrev orderByKey {K L : Type*} [DecidableEq K] [LinearOrder L] (key : K → L)
    (hkey : Function.Injective key) : LinearOrder K :=
  let base := LinearOrder.lift' key hkey
  { base with
    toDecidableEq := inferInstance
    compare_eq_compareOfLessAndEq := fun a b => by
      refine (base.compare_eq_compareOfLessAndEq a b).trans ?_
      unfold compareOfLessAndEq
      congr }

variable {K : Type*} [LinearOrder K]

/-- The order of the keys, as the maps ask for it. -/
instance instTransCmpCompare : TransCmp (compare : K → K → Ordering) := inferInstance

instance instLawfulEqCmpCompare : LawfulEqCmp (compare : K → K → Ordering) where
  eq_of_compare h := compare_eq_iff_eq.mp h

theorem pairwise_lt_of_pairwise_compare {l : List K}
    (h : l.Pairwise fun a b => compare a b = .lt) : l.Pairwise (· < ·) :=
  h.imp fun hab => compare_lt_iff_lt.mp hab

end Order

namespace BTreeMap

variable {K V : Type*} [LinearOrder K]

theorem keys_pairwise_lt (m : BTreeMap K V) : m.keys.Pairwise (· < ·) :=
  pairwise_lt_of_pairwise_compare ExtTreeMap.ordered_keys

theorem keys_nodup (m : BTreeMap K V) : m.keys.Nodup :=
  (keys_pairwise_lt m).imp fun h => h.ne

theorem mem_toList_iff {m : BTreeMap K V} {k : K} {v : V} :
    (k, v) ∈ m.toList ↔ m[k]? = some v :=
  ExtTreeMap.mem_toList_iff_getElem?_eq_some

theorem toList_nodup (m : BTreeMap K V) : m.toList.Nodup := by
  refine List.Nodup.of_map Prod.fst ?_
  rw [ExtTreeMap.map_fst_toList_eq_keys]
  exact keys_nodup m

theorem mem_keys_iff_exists {m : BTreeMap K V} {k : K} :
    k ∈ m.keys ↔ ∃ v, m[k]? = some v := by
  rw [ExtTreeMap.mem_keys, ExtTreeMap.mem_iff_isSome_getElem?, Option.isSome_iff_exists]

@[simp] theorem getElem?_insert_eq (m : BTreeMap K V) (k k' : K) (v : V) :
    (m.insert k v)[k']? = if k = k' then some v else m[k']? := by
  rw [ExtTreeMap.getElem?_insert]
  simp only [compare_eq_iff_eq]

@[simp] theorem getElem?_erase_eq (m : BTreeMap K V) (k k' : K) :
    (m.erase k)[k']? = if k = k' then none else m[k']? := by
  rw [ExtTreeMap.getElem?_erase]
  simp only [compare_eq_iff_eq]

theorem getElem?_erase_eq_some_iff {m : BTreeMap K V} {k k' : K} {v : V} :
    (m.erase k)[k']? = some v ↔ k ≠ k' ∧ m[k']? = some v := by
  rw [getElem?_erase_eq]
  split
  · next h => simp [h]
  · next h => simp [h]

theorem getElem?_filterMap_eq {W : Type*} (m : BTreeMap K V) (f : K → V → Option W) (k : K) :
    (m.filterMap f)[k]? = m[k]?.bind (f k) := by
  rw [ExtTreeMap.getElem?_filterMap]
  simp only [ExtTreeMap.getKey_eq, Option.pbind_eq_bind]

theorem getElem?_filter_eq (m : BTreeMap K V) (p : K → V → Bool) (k : K) :
    (m.filter p)[k]? = m[k]?.filter (p k) := by
  rw [ExtTreeMap.getElem?_filter]
  simp only [ExtTreeMap.getKey_eq, Option.pfilter_eq_filter]

theorem isEmpty_eq_false_iff_exists {m : BTreeMap K V} :
    m.isEmpty = false ↔ ∃ (k : K) (v : V), m[k]? = some v := by
  rw [ExtTreeMap.isEmpty_eq_false_iff, ExtTreeMap.eq_empty_iff_forall_not_mem]
  push Not
  simp only [ExtTreeMap.mem_iff_isSome_getElem?, Option.isSome_iff_exists]

theorem isEmpty_eq_true_iff {m : BTreeMap K V} :
    m.isEmpty = true ↔ ∀ k : K, m[k]? = none := by
  rw [ExtTreeMap.isEmpty_iff, ExtTreeMap.eq_empty_iff_forall_not_mem]
  simp only [ExtTreeMap.mem_iff_isSome_getElem?, Option.not_isSome_iff_eq_none]

/-- Fewer keys, smaller size. -/
theorem size_le_of_getElem? {W : Type*} {m : BTreeMap K V} {m' : BTreeMap K W}
    (h : ∀ (k : K) (w : W), m'[k]? = some w → ∃ v, m[k]? = some v) : m'.size ≤ m.size := by
  rw [← ExtTreeMap.length_keys, ← ExtTreeMap.length_keys]
  refine (List.subperm_of_subset (keys_nodup m') fun k hk => ?_).length_le
  obtain ⟨w, hw⟩ := mem_keys_iff_exists.mp hk
  exact mem_keys_iff_exists.mpr (h k w hw)

/-! ### Keyed accumulation -/

/-- `entry(key).or_insert(default)` followed by an update of the entry. -/
def upsert (m : BTreeMap K V) (k : K) (default : V) (f : V → V) : BTreeMap K V :=
  m.insert k (f (m[k]?.getD default))

@[simp] theorem getElem?_upsert (m : BTreeMap K V) (k k' : K) (d : V) (f : V → V) :
    (upsert m k d f)[k']? = if k = k' then some (f (m[k']?.getD d)) else m[k']? := by
  rw [upsert, getElem?_insert_eq]
  by_cases h : k = k'
  · simp [h]
  · simp [h]

/-- **A fold of keyed updates, read at one key**: only the elements with that key
matter, and a key no element has keeps its old binding. -/
theorem getElem?_foldl_upsert {ι : Type*} (key : ι → K) (d : V) (f : ι → V → V) (k : K) :
    ∀ (l : List ι) (m : BTreeMap K V),
      (l.foldl (fun m x => upsert m (key x) d (f x)) m)[k]? =
        if (l.filter fun x => key x = k).isEmpty then m[k]?
        else some ((l.filter fun x => key x = k).foldl (fun v x => f x v) (m[k]?.getD d)) := by
  intro l
  induction l with
  | nil => intro m; simp
  | cons x l ih =>
      intro m
      rw [List.foldl_cons, ih, getElem?_upsert]
      by_cases hx : key x = k
      · cases hl : (l.filter fun x => key x = k).isEmpty with
        | true => simp [hx, List.isEmpty_iff.mp hl]
        | false => simp [hx]
      · simp [hx]

end BTreeMap

namespace BTreeSet

variable {K : Type*} [LinearOrder K]

theorem toList_pairwise_lt (s : BTreeSet K) : s.toList.Pairwise (· < ·) :=
  pairwise_lt_of_pairwise_compare ExtTreeSet.ordered_toList

theorem toList_nodup (s : BTreeSet K) : s.toList.Nodup :=
  (toList_pairwise_lt s).imp fun h => h.ne

@[simp] theorem mem_insert_iff {s : BTreeSet K} {a b : K} : b ∈ s.insert a ↔ b = a ∨ b ∈ s := by
  rw [ExtTreeSet.mem_insert, compare_eq_iff_eq, eq_comm]

@[simp] theorem mem_erase_iff {s : BTreeSet K} {a b : K} : b ∈ s.erase a ↔ b ≠ a ∧ b ∈ s := by
  rw [ExtTreeSet.mem_erase, Ne, Ne, compare_eq_iff_eq, eq_comm]

@[simp] theorem mem_insertMany_iff {s : BTreeSet K} {l : List K} {a : K} :
    a ∈ s.insertMany l ↔ a ∈ s ∨ a ∈ l := by
  rw [ExtTreeSet.mem_insertMany_list, List.contains_iff_mem]

@[simp] theorem mem_ofList_iff {l : List K} {a : K} :
    a ∈ ExtTreeSet.ofList l compare ↔ a ∈ l := by
  rw [ExtTreeSet.mem_ofList, List.contains_iff_mem]

/-- Removing a list of elements one at a time. -/
theorem mem_foldl_erase_iff {a : K} :
    ∀ (l : List K) (s : BTreeSet K), a ∈ l.foldl (fun s b => s.erase b) s ↔ a ∈ s ∧ a ∉ l := by
  intro l
  induction l with
  | nil => intro s; simp
  | cons b l ih =>
      intro s
      rw [List.foldl_cons, ih, mem_erase_iff, List.mem_cons]
      tauto

theorem isEmpty_eq_false_iff_exists {s : BTreeSet K} : s.isEmpty = false ↔ ∃ a, a ∈ s := by
  rw [ExtTreeSet.isEmpty_eq_false_iff, ExtTreeSet.eq_empty_iff_forall_not_mem]
  push Not
  rfl

/-- The elements as a `Finset`. -/
def toFinset (s : BTreeSet K) : Finset K := s.toList.toFinset

@[simp] theorem mem_toFinset {s : BTreeSet K} {a : K} : a ∈ toFinset s ↔ a ∈ s := by
  rw [toFinset, List.mem_toFinset, ExtTreeSet.mem_toList]

theorem card_toFinset (s : BTreeSet K) : (toFinset s).card = s.size := by
  rw [toFinset, List.toFinset_card_of_nodup (toList_nodup s), ExtTreeSet.length_toList]

end BTreeSet

end Amt

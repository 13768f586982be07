import Amt.Lib.BTree
import Amt.Lib.Update

/-!
# Bounded admission into an ordered map

A table of at most `capacity` entries is brought up to date with a list of requests, each for
its own key: a request for a key that is there **updates** the entry, a request for a new key
**creates** one while there is room, and is turned away otherwise.

The pass changes the table it reads, but the requests it admits are known beforehand: the
first ones of those whose key is new, as many as there is room for (`newcomers`).  Everything
said here of the table after the pass (`getElem?_foldl_serve_of_some`,
`getElem?_foldl_serve_eq_some_iff`, `size_foldl_serve`) is read off that list.
-/

namespace Amt.BTreeMap

variable {K V W : Type*} [LinearOrder K]

section Serve

variable (capacity : ℕ) (update : K → W → V → V) (create : K → W → V)

/-- One request. -/
def serve (m : BTreeMap K V) (request : K × W) : BTreeMap K V :=
  match m[request.1]? with
  | some v => m.insert request.1 (update request.1 request.2 v)
  | none =>
      if capacity ≤ m.size then m else m.insert request.1 (create request.1 request.2)

/-- The requests that make an entry. -/
def newcomers (m : BTreeMap K V) (requests : List (K × W)) : List (K × W) :=
  (requests.filter fun request => !m.contains request.1).take (capacity - m.size)

variable {capacity update create} {m : BTreeMap K V} {request : K × W} {requests : List (K × W)}

/-! ### Dropping keys -/

/-- Erasing a list of keys one at a time. -/
theorem getElem?_foldl_erase (keys : List K) (m : BTreeMap K V) (k : K) :
    (keys.foldl (fun m key => m.erase key) m)[k]? = if k ∈ keys then none else m[k]? := by
  have hdrop := read_foldl_drop (fun (m : BTreeMap K V) key => m.erase key) id
    (fun m k => m[k]?) getElem?_erase_eq keys m k
  rwa [List.map_id] at hdrop

/-! ### One request -/

theorem serve_of_some {v : V} (h : m[request.1]? = some v) :
    serve capacity update create m request
      = m.insert request.1 (update request.1 request.2 v) := by
  rw [serve, h]

theorem serve_of_full (h : m[request.1]? = none) (hfull : capacity ≤ m.size) :
    serve capacity update create m request = m := by
  rw [serve, h]
  exact if_pos hfull

theorem serve_of_room (h : m[request.1]? = none) (hroom : m.size < capacity) :
    serve capacity update create m request
      = m.insert request.1 (create request.1 request.2) := by
  rw [serve, h]
  exact if_neg (Nat.not_le.mpr hroom)

/-- A request is about its own key. -/
theorem getElem?_serve_of_ne {k : K} (hne : request.1 ≠ k) :
    (serve capacity update create m request)[k]? = m[k]? := by
  cases h : m[request.1]? with
  | some v => rw [serve_of_some h, getElem?_insert_eq, if_neg hne]
  | none =>
      rcases Nat.lt_or_ge m.size capacity with hroom | hfull
      · rw [serve_of_room h hroom, getElem?_insert_eq, if_neg hne]
      · rw [serve_of_full h hfull]

/-! ### The newcomers, request by request -/

theorem contains_of_some {k : K} {v : V} (h : m[k]? = some v) : m.contains k = true := by
  rw [Std.ExtTreeMap.contains_eq_isSome_getElem?, h, Option.isSome_some]

theorem contains_of_none {k : K} (h : m[k]? = none) : m.contains k = false := by
  rw [Std.ExtTreeMap.contains_eq_isSome_getElem?, h, Option.isSome_none]

theorem contains_insert_eq (m : BTreeMap K V) (k k' : K) (v : V) :
    (m.insert k v).contains k' = (decide (k = k') || m.contains k') := by
  rw [Std.ExtTreeMap.contains_eq_isSome_getElem?, Std.ExtTreeMap.contains_eq_isSome_getElem?,
    getElem?_insert_eq]
  by_cases h : k = k'
  · simp [h]
  · simp [h]

theorem size_insert_of_some {k : K} {v : V} (h : m[k]? = some v) (v' : V) :
    (m.insert k v').size = m.size := by
  rw [Std.ExtTreeMap.size_insert, if_pos (contains_of_some h)]

theorem size_insert_of_none {k : K} (h : m[k]? = none) (v : V) :
    (m.insert k v).size = m.size + 1 := by
  rw [Std.ExtTreeMap.size_insert, if_neg (Bool.eq_false_iff.mp (contains_of_none h))]

theorem newcomers_of_full (hfull : capacity ≤ m.size) : newcomers capacity m requests = [] := by
  rw [newcomers, Nat.sub_eq_zero_of_le hfull, List.take_zero]

theorem newcomers_cons_of_some {v : V} (h : m[request.1]? = some v) (v' : V) :
    newcomers capacity m (request :: requests)
      = newcomers capacity (m.insert request.1 v') requests := by
  have hthere := contains_of_some h
  have hsame : ∀ other : K × W,
      (!m.contains other.1) = !(m.insert request.1 v').contains other.1 := by
    intro other
    rw [contains_insert_eq]
    by_cases heq : request.1 = other.1
    · rw [← heq, hthere, Bool.or_true]
    · rw [decide_eq_false heq, Bool.false_or]
  rw [newcomers, newcomers, size_insert_of_some h, List.filter_cons_of_neg (by simp [hthere])]
  simp only [hsame]

theorem newcomers_cons_of_room (h : m[request.1]? = none) (hroom : m.size < capacity)
    (hother : request.1 ∉ requests.map Prod.fst) (v : V) :
    newcomers capacity m (request :: requests)
      = request :: newcomers capacity (m.insert request.1 v) requests := by
  have hnew := contains_of_none h
  have hsame : ∀ other ∈ requests,
      (!m.contains other.1) = !(m.insert request.1 v).contains other.1 := by
    intro other hmem
    have hne : request.1 ≠ other.1 := by
      intro heq
      exact hother (heq ▸ List.mem_map_of_mem hmem)
    rw [contains_insert_eq, decide_eq_false hne, Bool.false_or]
  rw [newcomers, newcomers, size_insert_of_none h, List.filter_cons_of_pos (by simp [hnew]),
    show capacity - m.size = capacity - (m.size + 1) + 1 by omega, List.take_succ_cons,
    List.filter_congr hsame]

/-- Requests in the order of their keys are admitted in that order. -/
theorem mem_newcomers_of_lt (hsorted : requests.Pairwise fun a b => a.1 < b.1)
    {lower : K × W} (hrequest : request ∈ newcomers capacity m requests)
    (hlower : lower ∈ requests) (hnew : m[lower.1]? = none) (hlt : lower.1 < request.1) :
    lower ∈ newcomers capacity m requests := by
  have hmem : lower ∈ requests.filter fun request => !m.contains request.1 :=
    List.mem_filter.mpr ⟨hlower, by rw [contains_of_none hnew]; rfl⟩
  have hsplit := hsorted.filter fun request => !m.contains request.1
  rw [← List.take_append_drop (capacity - m.size)
    (requests.filter fun request => !m.contains request.1)] at hmem hsplit
  rcases List.mem_append.mp hmem with htake | hdrop
  · exact htake
  · -- what is left over stands behind everything that is admitted
    exact absurd hlt (lt_asymm ((List.pairwise_append.mp hsplit).2.2 request hrequest lower hdrop))

/-! ### The whole pass -/

/-- A key that nobody asks for keeps its entry. -/
theorem getElem?_foldl_serve_of_notMem {k : K} (hk : k ∉ requests.map Prod.fst) :
    (requests.foldl (serve capacity update create) m)[k]? = m[k]? := by
  induction requests generalizing m with
  | nil => rfl
  | cons request requests ih =>
      rw [List.map_cons, List.mem_cons, not_or] at hk
      rw [List.foldl_cons, ih hk.2, getElem?_serve_of_ne (Ne.symm hk.1)]

/-- **Entries are kept and updated**, whatever the capacity is. -/
theorem getElem?_foldl_serve_of_some (hnodup : (requests.map Prod.fst).Nodup) {k : K} {w : W}
    {v : V} (hmem : (k, w) ∈ requests) (h : m[k]? = some v) :
    (requests.foldl (serve capacity update create) m)[k]? = some (update k w v) := by
  induction requests generalizing m with
  | nil => cases hmem
  | cons request requests ih =>
      rw [List.map_cons, List.nodup_cons] at hnodup
      rw [List.foldl_cons]
      rcases List.mem_cons.mp hmem with rfl | htail
      · rw [getElem?_foldl_serve_of_notMem hnodup.1, serve_of_some h, getElem?_insert_eq,
          if_pos rfl]
      · refine ih hnodup.2 htail ?_
        have hne : request.1 ≠ k := by
          intro heq
          exact hnodup.1 (heq ▸ List.mem_map_of_mem htail)
        rw [getElem?_serve_of_ne hne, h]

/-- **New entries are the newcomers'**. -/
theorem getElem?_foldl_serve_eq_some_iff (hnodup : (requests.map Prod.fst).Nodup) {k : K}
    (h : m[k]? = none) (v : V) :
    (requests.foldl (serve capacity update create) m)[k]? = some v ↔
      ∃ w, (k, w) ∈ newcomers capacity m requests ∧ create k w = v := by
  induction requests generalizing m with
  | nil => simp [newcomers, h]
  | cons request requests ih =>
      rw [List.map_cons, List.nodup_cons] at hnodup
      rw [List.foldl_cons]
      cases hheld : m[request.1]? with
      | some held =>
          have hne : request.1 ≠ k := by
            rintro rfl
            rw [hheld] at h
            cases h
          rw [newcomers_cons_of_some hheld, serve_of_some hheld]
          refine ih hnodup.2 ?_
          rw [getElem?_insert_eq, if_neg hne, h]
      | none =>
          rcases Nat.lt_or_ge m.size capacity with hroom | hfull
          · rw [newcomers_cons_of_room hheld hroom hnodup.1 (create request.1 request.2),
              serve_of_room hheld hroom]
            by_cases heq : request.1 = k
            · -- this is the request for the key, and there is no other
              subst heq
              rw [getElem?_foldl_serve_of_notMem hnodup.1, getElem?_insert_eq, if_pos rfl]
              constructor
              · intro hv
                exact ⟨request.2, List.mem_cons_self, Option.some.inj hv⟩
              · rintro ⟨w, hw, hv⟩
                rcases List.mem_cons.mp hw with hhead | htail
                · rw [← hv, ← hhead]
                · have hasked := (List.mem_filter.mp (List.mem_of_mem_take htail)).1
                  exact absurd (List.mem_map_of_mem hasked) hnodup.1
            · rw [ih hnodup.2 (by rw [getElem?_insert_eq, if_neg heq, h])]
              refine exists_congr fun w => and_congr_left' ?_
              rw [List.mem_cons, or_iff_right]
              rintro rfl
              exact heq rfl
          · rw [serve_of_full hheld hfull, ih hnodup.2 h, newcomers_of_full hfull,
              newcomers_of_full hfull]

/-- The table grows by the newcomers. -/
theorem size_foldl_serve (hnodup : (requests.map Prod.fst).Nodup) :
    (requests.foldl (serve capacity update create) m).size
      = m.size + (newcomers capacity m requests).length := by
  induction requests generalizing m with
  | nil => simp [newcomers]
  | cons request requests ih =>
      rw [List.map_cons, List.nodup_cons] at hnodup
      rw [List.foldl_cons, ih hnodup.2]
      cases hheld : m[request.1]? with
      | some held =>
          rw [newcomers_cons_of_some hheld (update request.1 request.2 held), serve_of_some hheld,
            size_insert_of_some hheld]
      | none =>
          rcases Nat.lt_or_ge m.size capacity with hroom | hfull
          · rw [newcomers_cons_of_room hheld hroom hnodup.1 (create request.1 request.2),
              serve_of_room hheld hroom, size_insert_of_none hheld, List.length_cons]
            omega
          · rw [serve_of_full hheld hfull, newcomers_of_full hfull, newcomers_of_full hfull]

/-- **A full pass fills the table.**  If it holds no more than it may and only keys that are
asked for, then after the pass it has as many entries as requests, up to the capacity. -/
theorem size_foldl_serve_eq_min (hnodup : (requests.map Prod.fst).Nodup)
    (hbound : m.size ≤ capacity) (hkeys : ∀ k ∈ m.keys, k ∈ requests.map Prod.fst) :
    (requests.foldl (serve capacity update create) m).size = min capacity requests.length := by
  -- the requests for keys that are there are as many as there are keys
  have hthere : (requests.filter fun request => m.contains request.1).length = m.size := by
    have hperm : ((requests.filter fun request => m.contains request.1).map Prod.fst).Perm
        m.keys := by
      refine (List.perm_ext_iff_of_nodup (hnodup.sublist
        (List.filter_sublist.map Prod.fst)) (keys_nodup m)).mpr fun k => ?_
      rw [Std.ExtTreeMap.mem_keys, Std.ExtTreeMap.mem_iff_contains, List.mem_map]
      constructor
      · rintro ⟨request, hrequest, rfl⟩
        exact (List.mem_filter.mp hrequest).2
      · intro hk
        obtain ⟨request, hrequest, rfl⟩ := List.mem_map.mp
          (hkeys k (Std.ExtTreeMap.mem_keys.mpr (Std.ExtTreeMap.mem_iff_contains.mpr hk)))
        exact ⟨request, List.mem_filter.mpr ⟨hrequest, hk⟩, rfl⟩
    rw [← Std.ExtTreeMap.length_keys, ← hperm.length_eq, List.length_map]
  have hsplit := List.length_eq_length_filter_add (l := requests)
    fun request => m.contains request.1
  rw [size_foldl_serve hnodup, newcomers, List.length_take]
  omega

end Serve

end Amt.BTreeMap

import Amt.Lib.BTree

/-!
# Queues of entries that expire

A rate limiter keeps the entries that still count in a queue, in the order of their times, and
drops those at the front that do not count any more.  The queue is a view of a longer log, the
one of all entries ever made, and what the limiter promises is about the log.

* **`Live`**: an entry counts for `window` after its time.
* **`Pending`** relates the queue to the log: it is the end of the log, and what is missing of
  the log has expired.  It stays true as time passes (`Pending.mono`), so a queue may be
  cleaned late; cleaning it gives exactly the live entries (`Pending.dropWhile_eq`).
* **`Paced`**: every entry was made while fewer than `maximum` were live.  Then no interval of
  length `window` contains more than `maximum` of them, wherever it starts
  (`Paced.length_filter_le`).
* **`Mirrors`**: a map beside the queue that holds the same pairs, each key once.
-/

namespace Amt

section Time

variable {α : Type*} (time : α → ℕ) (window : ℕ)

/-- The entry counts at `now`. -/
def Live (now : ℕ) (a : α) : Prop := now < time a + window

instance (now : ℕ) : DecidablePred (Live time window now) := fun a =>
  inferInstanceAs (Decidable (now < time a + window))

/-- **The queue is what is left of the log**: its end, without entries that have expired. -/
structure Pending (now : ℕ) (log queue : List α) : Prop where
  sorted : log.Pairwise fun a b => time a ≤ time b
  past : ∀ a ∈ log, time a ≤ now
  kept : ∃ gone, log = gone ++ queue ∧ ∀ a ∈ gone, ¬ Live time window now a

namespace Pending

variable {time window} {now : ℕ} {log queue : List α}

theorem nil (now : ℕ) : Pending time window now ([] : List α) [] :=
  ⟨.nil, List.forall_mem_nil _, [], rfl, List.forall_mem_nil _⟩

/-- Time passes. -/
theorem mono (h : Pending time window now log queue) {later : ℕ} (hle : now ≤ later) :
    Pending time window later log queue := by
  obtain ⟨gone, hsplit, hgone⟩ := h.kept
  refine ⟨h.sorted, fun a ha => (h.past a ha).trans hle, gone, hsplit, fun a ha hlive => ?_⟩
  exact hgone a ha (hle.trans_lt hlive)

theorem queue_sorted (h : Pending time window now log queue) :
    queue.Pairwise fun a b => time a ≤ time b := by
  obtain ⟨gone, rfl, -⟩ := h.kept
  exact (List.pairwise_append.mp h.sorted).2.1

end Pending

/-- In the order of the times, the first entry that counts is followed by such entries. -/
theorem dropWhile_not_live {now : ℕ} {queue : List α}
    (hsorted : queue.Pairwise fun a b => time a ≤ time b) :
    (queue.dropWhile fun a => ¬ Live time window now a) = queue.filter (Live time window now) := by
  induction queue with
  | nil => rfl
  | cons a queue ih =>
      rw [List.pairwise_cons] at hsorted
      by_cases hlive : Live time window now a
      · have hall : ∀ b ∈ a :: queue, Live time window now b := by
          intro b hb
          rcases List.mem_cons.mp hb with rfl | hb
          · exact hlive
          · exact hlive.trans_le (Nat.add_le_add_right (hsorted.1 b hb) window)
        rw [List.dropWhile_cons_of_neg (by simpa using hlive), List.filter_eq_self.mpr]
        simpa using hall
      · rw [List.dropWhile_cons_of_pos (by simpa using hlive), ih hsorted.2,
          List.filter_cons_of_neg (by simpa using hlive)]

namespace Pending

variable {time window} {now : ℕ} {log queue : List α}

/-- **Cleaning the queue leaves exactly the live entries of the log.** -/
theorem dropWhile_eq (h : Pending time window now log queue) :
    (queue.dropWhile fun a => ¬ Live time window now a) = log.filter (Live time window now) := by
  rw [dropWhile_not_live time window h.queue_sorted]
  obtain ⟨gone, rfl, hgone⟩ := h.kept
  have hnil : gone.filter (Live time window now) = [] := by
    rw [List.filter_eq_nil_iff]
    simpa using hgone
  rw [List.filter_append, hnil, List.nil_append]

theorem clean (h : Pending time window now log queue) :
    Pending time window now log (log.filter (Live time window now)) := by
  refine ⟨h.sorted, h.past, ?_⟩
  rw [← h.dropWhile_eq]
  obtain ⟨gone, hsplit, hgone⟩ := h.kept
  refine ⟨gone ++ queue.takeWhile fun a => ¬ Live time window now a, ?_, fun a ha => ?_⟩
  · rw [List.append_assoc, List.takeWhile_append_dropWhile, hsplit]
  · rcases List.mem_append.mp ha with ha | ha
    · exact hgone a ha
    · simpa using List.mem_takeWhile_imp ha

/-- A new entry goes to the end of both. -/
theorem push (h : Pending time window now log queue) {b : α} (hb : time b = now) :
    Pending time window now (log ++ [b]) (queue ++ [b]) := by
  obtain ⟨gone, hsplit, hgone⟩ := h.kept
  refine ⟨?_, ?_, gone, by rw [hsplit, List.append_assoc], hgone⟩
  · refine List.pairwise_append.mpr ⟨h.sorted, List.pairwise_singleton _ _, ?_⟩
    intro a ha c hc
    rw [List.mem_singleton.mp hc, hb]
    exact h.past a ha
  · intro a ha
    rcases List.mem_append.mp ha with ha | ha
    · exact h.past a ha
    · rw [List.mem_singleton.mp ha, hb]

end Pending

/-! ## Intervals -/

/-- Every entry was made while fewer than `maximum` of the earlier ones counted. -/
def Paced (maximum : ℕ) (log : List α) : Prop :=
  ∀ earlier b later, log = earlier ++ b :: later →
    (earlier.filter (Live time window (time b))).length < maximum

namespace Paced

variable {time window} {maximum : ℕ} {log : List α}

theorem nil : Paced time window maximum ([] : List α) := by
  intro earlier b later h
  simp at h

theorem push (h : Paced time window maximum log) {b : α}
    (hb : (log.filter (Live time window (time b))).length < maximum) :
    Paced time window maximum (log ++ [b]) := by
  intro earlier c later hsplit
  rcases List.eq_nil_or_concat later with rfl | ⟨later, last, rfl⟩
  · obtain ⟨rfl, hlast⟩ := List.append_inj' hsplit rfl
    obtain rfl := List.singleton_inj.mp hlast
    exact hb
  · rw [List.concat_eq_append, ← List.cons_append, ← List.append_assoc] at hsplit
    exact h earlier c later (List.append_inj' hsplit rfl).1

/-- **An interval of length `window` holds at most `maximum` entries**, wherever it starts. -/
theorem length_filter_le (h : Paced time window maximum log)
    (hsorted : log.Pairwise fun a b => time a ≤ time b) (start : ℕ) :
    (log.filter fun a => start ≤ time a ∧ time a < start + window).length ≤ maximum := by
  induction log using List.reverseRecOn with
  | nil => exact Nat.zero_le _
  | append_singleton log b ih =>
      have hlog : Paced time window maximum log := fun earlier c later hsplit =>
        h earlier c (later ++ [b]) (by rw [hsplit, List.append_assoc, List.cons_append])
      rw [List.filter_append, List.length_append]
      by_cases hb : start ≤ time b ∧ time b < start + window
      · -- what the interval holds of the log still counts when `b` is made
        have hsub : (log.filter fun a => start ≤ time a ∧ time a < start + window).length
            ≤ (log.filter (Live time window (time b))).length := by
          refine (List.monotone_filter_right log fun a ha => ?_).length_le
          simp only [decide_eq_true_eq] at ha ⊢
          exact hb.2.trans_le (Nat.add_le_add_right ha.1 window)
        have hroom := h log b [] rfl
        rw [List.filter_cons_of_pos (by simpa using hb)]
        simp only [List.filter_nil, List.length_cons, List.length_nil]
        omega
      · rw [List.filter_cons_of_neg (by simpa using hb)]
        exact ih hlog (List.pairwise_append.mp hsorted).1

end Paced

end Time

/-! ## A map beside the queue -/

section Mirror

variable {K V : Type*} [LinearOrder K]

/-- **The map and the queue hold the same pairs**, each key once. -/
structure Mirrors (m : BTreeMap K V) (queue : List (K × V)) : Prop where
  nodup : (queue.map Prod.fst).Nodup
  getElem?_iff : ∀ k v, m[k]? = some v ↔ (k, v) ∈ queue

namespace Mirrors

variable {m : BTreeMap K V} {queue : List (K × V)} {k : K} {v : V}

theorem empty : Mirrors (∅ : BTreeMap K V) [] :=
  ⟨List.nodup_nil, fun k v => by simp⟩

theorem size_eq (h : Mirrors m queue) : m.size = queue.length := by
  have hqueue : queue.Nodup := h.nodup.of_map
  have hperm : m.toList.Perm queue := by
    rw [List.perm_ext_iff_of_nodup m.toList_nodup hqueue]
    rintro ⟨k, v⟩
    rw [BTreeMap.mem_toList_iff, h.getElem?_iff]
  rw [← hperm.length_eq, Std.ExtTreeMap.length_toList]

theorem getElem?_eq_none_iff (h : Mirrors m queue) : m[k]? = none ↔ ∀ v, (k, v) ∉ queue := by
  rw [Option.eq_none_iff_forall_ne_some]
  exact forall_congr' fun v => not_congr (h.getElem?_iff k v)

/-- The front of the queue leaves both. -/
theorem tail (h : Mirrors m ((k, v) :: queue)) : Mirrors (m.erase k) queue := by
  obtain ⟨hk, hnodup⟩ := List.nodup_cons.mp h.nodup
  refine ⟨hnodup, fun k' v' => ?_⟩
  rw [BTreeMap.getElem?_erase_eq_some_iff, h.getElem?_iff]
  constructor
  · rintro ⟨hne, hmem⟩
    rcases List.mem_cons.mp hmem with heq | hmem
    · exact absurd (Prod.mk.inj heq).1.symm hne
    · exact hmem
  · intro hmem
    refine ⟨?_, List.mem_cons_of_mem _ hmem⟩
    rintro rfl
    exact hk (List.mem_map.mpr ⟨_, hmem, rfl⟩)

/-- A new key goes to the end of the queue. -/
theorem push (h : Mirrors m queue) (hk : m[k]? = none) (v : V) :
    Mirrors (m.insert k v) (queue ++ [(k, v)]) := by
  have hnew : ∀ v, (k, v) ∉ queue := h.getElem?_eq_none_iff.mp hk
  refine ⟨?_, fun k' v' => ?_⟩
  · rw [List.map_append]
    refine List.nodup_append'.mpr ⟨h.nodup, List.nodup_singleton _, ?_⟩
    intro k' hmem hsingle
    obtain rfl : k' = k := List.mem_singleton.mp hsingle
    obtain ⟨⟨_, v'⟩, hpair, rfl⟩ := List.mem_map.mp hmem
    exact hnew v' hpair
  · rw [BTreeMap.getElem?_insert_eq, List.mem_append, List.mem_singleton, Prod.mk.injEq]
    by_cases hkey : k = k'
    · subst hkey
      rw [if_pos rfl, Option.some_inj, eq_comm]
      simp [hnew]
    · rw [if_neg hkey, h.getElem?_iff]
      simp [Ne.symm hkey]

end Mirrors

end Mirror

end Amt

import Amt.Lib.Expiry
import Amt.Lib.Log
import Amt.Query

/-!
# The budget of DNS queries

All DNS queries of a resolver go through one limiter, which grants at most `maximum` of them in
any interval of length `window` and tells a caller that is refused how long to wait.

* **The model** is `reserveAt`, with the clock as an argument.
* **One call** (`Paces.reserveAt`): what the limiter has in its queue
  after cleaning is what still counts of all grants so far.
* **A run** (`Paces`): the grants are paced, so the bound holds for every interval and not only
  for those that start at a call.
* **The wait** ends when the oldest grant that counts stops to count.  A refused caller that
  waits for it is granted, unless others were in between.
-/

namespace Amt

/-- A sliding window over the last queries, the oldest in front. -/
structure DnsQueryLimiter where
  maximum : ℕ
  window : Duration
  queries : List Instant
deriving DecidableEq, Repr

namespace DnsQueryLimiter

def new (maximum : ℕ) (window : Duration) : DnsQueryLimiter :=
  { maximum, window, queries := [] }

/-- A reservation at `now`: granted, or the time to wait.  The loop pops the queries at the front
that are a window old. -/
def reserveAt (limiter : DnsQueryLimiter) (now : Instant) : DnsQueryLimiter × Option Duration :=
  let queries := limiter.queries.dropWhile fun query => limiter.window ≤ elapsed query now
  if queries.length < limiter.maximum then
    ({ limiter with queries := queries ++ [now] }, none)
  else
    ({ limiter with queries }, queries.head?.map fun query => limiter.window - elapsed query now)

/-! ## Runs -/

/-- The limiter after reservations at these times. -/
def afterCalls (limiter : DnsQueryLimiter) (calls : List Instant) : DnsQueryLimiter :=
  calls.foldl (fun limiter now => (limiter.reserveAt now).1) limiter

/-- The time of a call that is granted. -/
def grant (limiter : DnsQueryLimiter) (now : Instant) : Option Instant :=
  if (limiter.reserveAt now).2 = none then some now else none

/-- The times of the calls that are granted. -/
def granted (limiter : DnsQueryLimiter) (calls : List Instant) : List Instant :=
  emitted (fun limiter now => (limiter.reserveAt now).1) grant limiter calls

theorem granted_append_singleton (limiter : DnsQueryLimiter) (calls : List Instant)
    (now : Instant) :
    limiter.granted (calls ++ [now])
      = limiter.granted calls ++ ((limiter.afterCalls calls).grant now).toList :=
  emitted_append_singleton _ _ limiter calls now

theorem afterCalls_append_singleton (limiter : DnsQueryLimiter) (calls : List Instant)
    (now : Instant) :
    limiter.afterCalls (calls ++ [now]) = ((limiter.afterCalls calls).reserveAt now).1 :=
  List.foldl_append

/-- What still counts at `now` of a log of grants. -/
def counting (limiter : DnsQueryLimiter) (now : Instant) (log : List Instant) : List Instant :=
  log.filter (Live id limiter.window now)

/-- **The limiter and the log of its grants**, at the time `now`. -/
structure Paces (limiter : DnsQueryLimiter) (now : Instant) (log : List Instant) : Prop where
  window_pos : 0 < limiter.window
  pending : Pending id limiter.window now log limiter.queries
  paced : Paced id limiter.window limiter.maximum log
  length_le : limiter.queries.length ≤ limiter.maximum

section Step

variable {limiter : DnsQueryLimiter} {now : Instant} {log : List Instant}

theorem Paces.mono (h : limiter.Paces now log) {later : Instant} (hle : now ≤ later) :
    limiter.Paces later log :=
  ⟨h.window_pos, h.pending.mono hle, h.paced, h.length_le⟩

/-- The test of the loop, without the saturating subtraction. -/
theorem age_ge_iff {window query now : ℕ} (hwindow : 0 < window) :
    window ≤ now - query ↔ ¬ now < query + window := by
  omega

/-- The wait that a refusal computes ends when the query is a window old. -/
theorem wait_bounds {window oldest now : ℕ} (hpast : oldest ≤ now)
    (hlive : now < oldest + window) :
    0 < window - (now - oldest) ∧ window - (now - oldest) ≤ window ∧
      now + (window - (now - oldest)) = oldest + window := by
  omega

/-- The loop leaves what still counts. -/
theorem Paces.dropWhile_eq (h : limiter.Paces now log) :
    (limiter.queries.dropWhile fun query => limiter.window ≤ elapsed query now)
      = limiter.counting now log := by
  rw [counting, ← h.pending.dropWhile_eq]
  congr 1
  funext query
  exact decide_eq_decide.mpr (age_ge_iff h.window_pos)

/-- What counts is part of the queue. -/
theorem Paces.length_counting_le (h : limiter.Paces now log) :
    (limiter.counting now log).length ≤ limiter.maximum := by
  rw [← h.dropWhile_eq]
  exact (List.dropWhile_sublist _).length_le.trans h.length_le

theorem Paces.reserveAt_of_room (h : limiter.Paces now log)
    (hroom : (limiter.counting now log).length < limiter.maximum) :
    limiter.reserveAt now
      = ({ limiter with queries := limiter.counting now log ++ [now] }, none) := by
  rw [reserveAt]
  simp only [h.dropWhile_eq]
  rw [if_pos hroom]

/-- A refusal names the oldest grant that counts. -/
theorem Paces.reserveAt_of_full (h : limiter.Paces now log) (hmaximum : 1 ≤ limiter.maximum)
    (hfull : ¬ (limiter.counting now log).length < limiter.maximum) :
    ∃ oldest ∈ limiter.counting now log,
      limiter.reserveAt now
        = ({ limiter with queries := limiter.counting now log },
          some (limiter.window - elapsed oldest now)) := by
  obtain ⟨oldest, rest, hcons⟩ : ∃ oldest rest, limiter.counting now log = oldest :: rest := by
    apply List.exists_cons_of_length_pos
    omega
  refine ⟨oldest, hcons ▸ List.mem_cons_self, ?_⟩
  rw [reserveAt]
  simp only [h.dropWhile_eq]
  rw [if_neg hfull, hcons]
  rfl

theorem mem_counting_iff {query : Instant} :
    query ∈ limiter.counting now log ↔ query ∈ log ∧ now < query + limiter.window := by
  rw [counting, List.mem_filter, decide_eq_true_iff]
  rfl

/-- **A call is granted exactly when fewer than `maximum` grants count.** -/
theorem Paces.reserveAt_eq_none_iff (h : limiter.Paces now log) (hmaximum : 1 ≤ limiter.maximum) :
    (limiter.reserveAt now).2 = none ↔ (limiter.counting now log).length < limiter.maximum := by
  constructor
  · intro hnone
    by_contra hfull
    obtain ⟨oldest, -, heq⟩ := h.reserveAt_of_full hmaximum hfull
    rw [heq] at hnone
    cases hnone
  · intro hroom
    rw [h.reserveAt_of_room hroom]

/-- One call keeps the invariant. -/
theorem Paces.reserveAt (h : limiter.Paces now log) (hmaximum : 1 ≤ limiter.maximum) :
    (limiter.reserveAt now).1.Paces now (log ++ (limiter.grant now).toList) := by
  by_cases hroom : (limiter.counting now log).length < limiter.maximum
  · have hgrant : limiter.grant now = some now :=
      if_pos ((h.reserveAt_eq_none_iff hmaximum).mpr hroom)
    rw [hgrant, h.reserveAt_of_room hroom]
    refine ⟨h.window_pos, h.pending.clean.push rfl, h.paced.push hroom, ?_⟩
    rw [List.length_append]
    exact hroom
  · have hgrant : limiter.grant now = none :=
      if_neg (mt (h.reserveAt_eq_none_iff hmaximum).mp hroom)
    obtain ⟨oldest, -, heq⟩ := h.reserveAt_of_full hmaximum hroom
    rw [hgrant, heq, Option.toList_none, List.append_nil]
    exact ⟨h.window_pos, h.pending.clean, h.paced, h.length_counting_le⟩

theorem reserveAt_maximum (limiter : DnsQueryLimiter) (now : Instant) :
    (limiter.reserveAt now).1.maximum = limiter.maximum := by
  rw [DnsQueryLimiter.reserveAt]
  split <;> rfl

theorem reserveAt_window (limiter : DnsQueryLimiter) (now : Instant) :
    (limiter.reserveAt now).1.window = limiter.window := by
  rw [DnsQueryLimiter.reserveAt]
  split <;> rfl

end Step

section Run

variable {limiter : DnsQueryLimiter}

theorem afterCalls_maximum (limiter : DnsQueryLimiter) (calls : List Instant) :
    (limiter.afterCalls calls).maximum = limiter.maximum := by
  induction calls using List.reverseRecOn with
  | nil => rfl
  | append_singleton calls now ih => rw [afterCalls_append_singleton, reserveAt_maximum, ih]

theorem afterCalls_window (limiter : DnsQueryLimiter) (calls : List Instant) :
    (limiter.afterCalls calls).window = limiter.window := by
  induction calls using List.reverseRecOn with
  | nil => rfl
  | append_singleton calls now ih => rw [afterCalls_append_singleton, reserveAt_window, ih]

theorem paces_new {maximum : ℕ} {window : Duration} (hwindow : 0 < window) (now : Instant) :
    (new maximum window).Paces now [] :=
  ⟨hwindow, .nil now, .nil, Nat.zero_le _⟩

/-- **A run keeps the invariant**, and it holds at any time from the last call on. -/
theorem Paces.afterCalls (hmaximum : 1 ≤ limiter.maximum)
    (h : ∀ now, limiter.Paces now []) {calls : List Instant} (hcalls : calls.Pairwise (· ≤ ·)) :
    ∀ now, (∀ call ∈ calls, call ≤ now) →
      (limiter.afterCalls calls).Paces now (limiter.granted calls) := by
  induction calls using List.reverseRecOn with
  | nil => exact fun now _ => h now
  | append_singleton calls call ih =>
      intro now hnow
      obtain ⟨hearlier, -, hlast⟩ := List.pairwise_append.mp hcalls
      have hpaces := ih hearlier call fun earlier hmem =>
        hlast earlier hmem call (List.mem_singleton_self call)
      rw [afterCalls_append_singleton, granted_append_singleton]
      refine (hpaces.reserveAt ?_).mono (hnow call (List.mem_append_right _ List.mem_cons_self))
      rw [afterCalls_maximum]
      exact hmaximum

theorem granted_append (limiter : DnsQueryLimiter) (calls more : List Instant) :
    limiter.granted (calls ++ more)
      = limiter.granted calls ++ (limiter.afterCalls calls).granted more := by
  induction more using List.reverseRecOn with
  | nil => simp [granted, emitted]
  | append_singleton more now ih =>
      rw [← List.append_assoc, granted_append_singleton, ih, granted_append_singleton,
        List.append_assoc, afterCalls, afterCalls, afterCalls, List.foldl_append]

/-- **A refused caller that waits is granted**, when no grant was made since. -/
theorem Paces.reserveAt_after_wait {log : List Instant} {now : Instant}
    (h : limiter.Paces now log) (hmaximum : 1 ≤ limiter.maximum) {wait : Duration}
    (hwait : (limiter.reserveAt now).2 = some wait) :
    0 < wait ∧ wait ≤ limiter.window ∧
      ∀ {retried : DnsQueryLimiter} {retry : Instant}, retried.maximum = limiter.maximum →
        retried.window = limiter.window → retried.Paces retry log → now + wait ≤ retry →
        (retried.reserveAt retry).2 = none := by
  have hfull : ¬ (limiter.counting now log).length < limiter.maximum := by
    intro hroom
    rw [h.reserveAt_of_room hroom] at hwait
    cases hwait
  obtain ⟨oldest, hmem, heq⟩ := h.reserveAt_of_full hmaximum hfull
  rw [heq] at hwait
  obtain rfl : limiter.window - (now - oldest) = wait := Option.some.inj hwait
  obtain ⟨hlog, hlive⟩ := mem_counting_iff.mp hmem
  obtain ⟨hpos, hle, hend⟩ := wait_bounds (h.pending.past oldest hlog) hlive
  refine ⟨hpos, hle, fun {retried retry} hmax hwindow hpaces hretry => ?_⟩
  have hmaximum' : 1 ≤ retried.maximum := hmax ▸ hmaximum
  rw [hpaces.reserveAt_eq_none_iff hmaximum', hmax]
  -- what counts at the retry counted at the refusal, and the oldest of it does not any more
  have hfilter : retried.counting retry log
      = (limiter.counting now log).filter (Live id limiter.window retry) := by
    rw [counting, counting, hwindow, List.filter_filter]
    refine List.filter_congr fun query _ => ?_
    rw [Bool.eq_iff_iff, Bool.and_eq_true, decide_eq_true_iff, decide_eq_true_iff]
    refine ⟨fun hretryLive => ⟨hretryLive, ?_⟩, fun hboth => hboth.1⟩
    exact ((Nat.le_add_right _ _).trans hretry).trans_lt hretryLive
  rw [hfilter]
  refine lt_of_lt_of_le ?_ h.length_counting_le
  rw [List.length_filter_lt_length_iff_exists]
  refine ⟨oldest, hmem, ?_⟩
  rw [decide_eq_true_iff]
  exact not_lt.mpr (hend.symm.trans_le hretry)

end Run

/-- **The budget of DNS queries.**  For calls at non-decreasing times: no half-open interval of
length `window` contains more than `maximum` granted calls, and the queue never holds more; a
refused call is told to wait for some time, at most a window, and a retry at any time after that
is granted if no call in between was. -/
theorem reserveAt_paces {maximum : ℕ} {window : Duration} (hmaximum : 1 ≤ maximum)
    (hwindow : 0 < window) {calls : List Instant} (hcalls : calls.Pairwise (· ≤ ·)) :
    (∀ start, (((new maximum window).granted calls).filter fun time =>
      start ≤ time ∧ time < start + window).length ≤ maximum) ∧
    ((new maximum window).afterCalls calls).queries.length ≤ maximum ∧
    ∀ earlier now later, calls = earlier ++ now :: later →
      ∀ wait, (((new maximum window).afterCalls earlier).reserveAt now).2 = some wait →
        0 < wait ∧ wait ≤ window ∧
        ∀ between retry rest, later = between ++ retry :: rest →
          ((new maximum window).afterCalls (earlier ++ [now])).granted between = [] →
          now + wait ≤ retry →
          (((new maximum window).afterCalls (earlier ++ now :: between)).reserveAt retry).2
            = none := by
  have hrun {calls : List Instant} (hcalls : calls.Pairwise (· ≤ ·)) :=
    Paces.afterCalls hmaximum (paces_new hwindow) hcalls
  have hparams (calls : List Instant) :
      ((new maximum window).afterCalls calls).maximum = maximum ∧
        ((new maximum window).afterCalls calls).window = window :=
    ⟨afterCalls_maximum _ calls, afterCalls_window _ calls⟩
  obtain ⟨last, hlast⟩ : ∃ last, ∀ call ∈ calls, call ≤ last :=
    ⟨calls.toFinset.sup id, fun call hmem => Finset.le_sup (f := id) (List.mem_toFinset.mpr hmem)⟩
  have hpaces := hrun hcalls last hlast
  refine ⟨fun start => ?_, ?_, ?_⟩
  · have hle := hpaces.paced.length_filter_le hpaces.pending.sorted start
    rw [(hparams calls).1, (hparams calls).2] at hle
    exact hle
  · have hle := hpaces.length_le
    rw [(hparams calls).1] at hle
    exact hle
  · rintro earlier now later rfl wait hwait
    obtain ⟨hearlier, hlater, hbefore⟩ := List.pairwise_append.mp hcalls
    have hrefused := hrun hearlier now fun call hmem => hbefore call hmem now List.mem_cons_self
    have hmax : 1 ≤ ((new maximum window).afterCalls earlier).maximum := by
      rw [(hparams earlier).1]
      exact hmaximum
    obtain ⟨hpos, hle, hretry⟩ := hrefused.reserveAt_after_wait hmax hwait
    rw [(hparams earlier).2] at hle
    refine ⟨hpos, hle, ?_⟩
    rintro between retry rest rfl hnone hslept
    -- the log at the retry is the log at the refusal
    have hlog : (new maximum window).granted (earlier ++ now :: between)
        = (new maximum window).granted earlier := by
      rw [List.append_cons, granted_append, hnone, granted_append_singleton, grant,
        if_neg (hwait ▸ Option.some_ne_none wait), Option.toList_none, List.append_nil,
        List.append_nil]
    rw [← List.cons_append, ← List.append_assoc] at hcalls
    obtain ⟨hsorted, -, hall⟩ := List.pairwise_append.mp hcalls
    have hatRetry := hrun hsorted retry fun call hmem => hall call hmem retry List.mem_cons_self
    rw [hlog] at hatRetry
    exact hretry ((hparams _).1.trans (hparams earlier).1.symm)
      ((hparams _).2.trans (hparams earlier).2.symm) hatRetry hslept

/-- The hypotheses at a refusal and its retry: one query in ten units of time. -/
theorem reserveAt_paces_retry :
    ((new 1 10).reserveAt 0).2 = none ∧
      (((new 1 10).afterCalls [0]).reserveAt 5).2 = some 5 ∧
      (((new 1 10).afterCalls [0, 5]).reserveAt 12).2 = none :=
  ⟨rfl, rfl,
    ((reserveAt_paces (le_refl 1) (Nat.succ_pos 9)
      (show ([0, 5, 12] : List Instant).Pairwise (· ≤ ·) by decide)).2.2 [0] 5 [12] rfl 5 rfl).2.2
      [] 12 [] rfl rfl (by decide)⟩

end DnsQueryLimiter

end Amt

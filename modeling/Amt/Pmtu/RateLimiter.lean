import Amt.Pmtu
import Amt.Lib.Expiry
import Amt.Lib.Log

/-!
# The rate of the feedback

The limiter keeps two views of the flows it let through: a map, which answers whether a flow is
among them, and a queue, which says what expires next.  They are cleaned together and only when
the limiter is asked.

* **One call** (`Tracks.allow_eq`): after the loop both views hold the grants that are younger
  than the interval, and the answer depends on nothing else.
* **A run** (`Tracks`): the queue is the end of the log of all grants, the map mirrors the queue,
  and the grants of one flow are an interval apart.
* **A refusal** (`Tracks.exists_of_refused`) has its reason in the log: a young grant of the flow,
  or as many young grants of other flows as may be tracked.
-/

namespace Amt

/-- A call of `allow` and the time at which it reads the clock. -/
structure FeedbackCall where
  source : IpAddr
  group : IpAddr
  now : Instant
deriving DecidableEq, Repr

/-- The key of the limiter. -/
def FeedbackCall.flow (call : FeedbackCall) : FeedbackFlow := toLex (call.source, call.group)

namespace FeedbackRateLimiter

def answer (limiter : FeedbackRateLimiter) (call : FeedbackCall) : FeedbackRateLimiter × Bool :=
  limiter.allow call.source call.group call.now

/-- The limiter after these calls. -/
def afterCalls (limiter : FeedbackRateLimiter) (calls : List FeedbackCall) :
    FeedbackRateLimiter :=
  calls.foldl (fun limiter call => (limiter.answer call).1) limiter

/-- The flow and the time of a call that is granted. -/
def grant (limiter : FeedbackRateLimiter) (call : FeedbackCall) :
    Option (FeedbackFlow × Instant) :=
  if (limiter.answer call).2 then some (call.flow, call.now) else none

/-- What was granted, and when. -/
def granted (limiter : FeedbackRateLimiter) (calls : List FeedbackCall) :
    List (FeedbackFlow × Instant) :=
  emitted (fun limiter call => (limiter.answer call).1) grant limiter calls

theorem granted_append_singleton (limiter : FeedbackRateLimiter) (calls : List FeedbackCall)
    (call : FeedbackCall) :
    limiter.granted (calls ++ [call])
      = limiter.granted calls ++ ((limiter.afterCalls calls).grant call).toList :=
  emitted_append_singleton _ _ limiter calls call

theorem afterCalls_append_singleton (limiter : FeedbackRateLimiter) (calls : List FeedbackCall)
    (call : FeedbackCall) :
    limiter.afterCalls (calls ++ [call]) = ((limiter.afterCalls calls).answer call).1 :=
  List.foldl_append

/-! ## The loop -/

/-- A grant is younger than the interval. -/
abbrev Young (limiter : FeedbackRateLimiter) (now : Instant) : FeedbackFlow × Instant → Prop :=
  Live Prod.snd limiter.minimumInterval now

theorem expired_eq_true_iff {limiter : FeedbackRateLimiter} {now : Instant}
    {entry : FeedbackFlow × Instant} :
    limiter.expired now entry.2 = true ↔ ¬ limiter.Young now entry := by
  change _ ↔ ¬ now < entry.2 + limiter.minimumInterval
  rw [expired, any_checkedDurationSince_iff, not_lt]

/-- **The loop cleans both views**: the map mirrors what is left of the queue. -/
theorem exists_expireFront (limiter : FeedbackRateLimiter) (now : Instant)
    {queue : List (FeedbackFlow × Instant)} :
    ∀ {map : BTreeMap FeedbackFlow Instant}, Mirrors map queue →
      ∃ map', limiter.expireFront now queue map
          = { limiter with
              lastFeedback := map'
              expirations := queue.dropWhile fun entry => ¬ limiter.Young now entry } ∧
        Mirrors map' (queue.dropWhile fun entry => ¬ limiter.Young now entry) := by
  induction queue with
  | nil => exact fun {map} hmirrors => ⟨map, rfl, hmirrors⟩
  | cons entry queue ih =>
      intro map hmirrors
      obtain ⟨key, observed⟩ := entry
      rw [expireFront]
      by_cases hyoung : limiter.Young now (key, observed)
      · rw [if_neg (mt expired_eq_true_iff.mp (not_not.mpr hyoung)),
          List.dropWhile_cons_of_neg (by simpa using hyoung)]
        exact ⟨map, rfl, hmirrors⟩
      · -- the entry of the front is the one that the map has for its flow
        have hkey : map[key]? = some observed :=
          (hmirrors.getElem?_iff key observed).mpr List.mem_cons_self
        rw [if_pos (expired_eq_true_iff.mpr hyoung), if_pos hkey,
          List.dropWhile_cons_of_pos (by simpa using hyoung)]
        exact ih hmirrors.tail

/-! ## One call -/

/-- **The limiter and the log of its grants**, at the time `now`. -/
structure Tracks (limiter : FeedbackRateLimiter) (now : Instant)
    (log : List (FeedbackFlow × Instant)) : Prop where
  pending : Pending Prod.snd limiter.minimumInterval now log limiter.expirations
  mirrors : Mirrors limiter.lastFeedback limiter.expirations
  length_le : limiter.expirations.length ≤ limiter.maxTrackedFlows
  spaced : log.Pairwise fun earlier later =>
    earlier.1 = later.1 → earlier.2 + limiter.minimumInterval ≤ later.2

namespace Tracks

variable {limiter : FeedbackRateLimiter} {call : FeedbackCall} {now : Instant}
  {log : List (FeedbackFlow × Instant)}

theorem mono (h : limiter.Tracks now log) {later : Instant} (hle : now ≤ later) :
    limiter.Tracks later log :=
  ⟨h.pending.mono hle, h.mirrors, h.length_le, h.spaced⟩

/-- Both views after the loop, and the answer. -/
theorem allow_eq (h : limiter.Tracks call.now log) :
    ∃ map, Mirrors map (log.filter (limiter.Young call.now)) ∧
      (log.filter (limiter.Young call.now)).length ≤ limiter.maxTrackedFlows ∧
      limiter.answer call =
        if map.contains call.flow ∨ limiter.maxTrackedFlows ≤ map.size then
          ({ limiter with
              lastFeedback := map
              expirations := log.filter (limiter.Young call.now) }, false)
        else
          ({ limiter with
              lastFeedback := map.insert call.flow call.now
              expirations := log.filter (limiter.Young call.now) ++ [(call.flow, call.now)] },
            true) := by
  obtain ⟨map, hexpire, hmirrors⟩ := limiter.exists_expireFront call.now h.mirrors
  have hlength : (limiter.expirations.dropWhile fun entry =>
      ¬ limiter.Young call.now entry).length ≤ limiter.maxTrackedFlows :=
    (List.dropWhile_sublist _).length_le.trans h.length_le
  rw [h.pending.dropWhile_eq] at hexpire hmirrors hlength
  refine ⟨map, hmirrors, hlength, ?_⟩
  rw [answer, allow]
  simp only [hexpire]
  rfl

theorem params (h : limiter.Tracks call.now log) :
    (limiter.answer call).1.minimumInterval = limiter.minimumInterval ∧
      (limiter.answer call).1.maxTrackedFlows = limiter.maxTrackedFlows := by
  obtain ⟨map, -, -, heq⟩ := h.allow_eq
  rw [heq]
  split_ifs
  · exact ⟨rfl, rfl⟩
  · exact ⟨rfl, rfl⟩

/-- A flow that the map does not have has no young grant. -/
theorem old_of_getElem?_eq_none {map : BTreeMap FeedbackFlow Instant}
    (hmirrors : Mirrors map (log.filter (limiter.Young now))) {flow : FeedbackFlow}
    (hnone : map[flow]? = none) {entry : FeedbackFlow × Instant} (hmem : entry ∈ log)
    (hflow : entry.1 = flow) : entry.2 + limiter.minimumInterval ≤ now := by
  by_contra hyoung
  refine hmirrors.getElem?_eq_none_iff.mp hnone entry.2 (List.mem_filter.mpr ⟨?_, ?_⟩)
  · rw [← hflow]
    exact hmem
  · exact decide_eq_true (not_le.mp hyoung)

/-- **One call keeps the invariant.** -/
theorem answer (h : limiter.Tracks call.now log) :
    (limiter.answer call).1.Tracks call.now (log ++ (limiter.grant call).toList) := by
  obtain ⟨map, hmirrors, hlength, heq⟩ := h.allow_eq
  by_cases hrefuse : map.contains call.flow ∨ limiter.maxTrackedFlows ≤ map.size
  · rw [if_pos hrefuse] at heq
    rw [grant, heq]
    change Tracks _ _ (log ++ [])
    rw [List.append_nil]
    exact ⟨h.pending.clean, hmirrors, hlength, h.spaced⟩
  · rw [if_neg hrefuse] at heq
    rw [grant, heq]
    obtain ⟨hcontains, hroom⟩ := not_or.mp hrefuse
    have hnone : map[call.flow]? = none := by
      rw [← Option.not_isSome_iff_eq_none, Std.ExtTreeMap.isSome_getElem?_eq_contains]
      exact hcontains
    refine ⟨h.pending.clean.push rfl, hmirrors.push hnone call.now, ?_, ?_⟩
    · rw [hmirrors.size_eq, not_le] at hroom
      rw [List.length_append]
      exact hroom
    · refine List.pairwise_append.mpr ⟨h.spaced, List.pairwise_singleton _ _, ?_⟩
      intro entry hmem last hlast hflow
      obtain rfl := List.mem_singleton.mp hlast
      exact old_of_getElem?_eq_none hmirrors hnone hmem hflow

/-- **A refusal has its reason in the log.** -/
theorem exists_of_refused (h : limiter.Tracks call.now log)
    (hrefused : (limiter.answer call).2 = false) :
    (∃ time, (call.flow, time) ∈ log ∧ call.now < time + limiter.minimumInterval) ∨
      ∃ others : Finset FeedbackFlow, others.card = limiter.maxTrackedFlows ∧
        call.flow ∉ others ∧
        ∀ flow ∈ others, ∃ time, (flow, time) ∈ log ∧
          call.now < time + limiter.minimumInterval := by
  obtain ⟨map, hmirrors, hlength, heq⟩ := h.allow_eq
  have hyoung {flow : FeedbackFlow} {time : Instant}
      (hmem : (flow, time) ∈ log.filter (limiter.Young call.now)) :
      (flow, time) ∈ log ∧ call.now < time + limiter.minimumInterval :=
    ⟨List.mem_of_mem_filter hmem, of_decide_eq_true (List.mem_filter.mp hmem).2⟩
  cases hget : map[call.flow]? with
  | some time => exact .inl ⟨time, hyoung ((hmirrors.getElem?_iff _ _).mp hget)⟩
  | none =>
      have hcontains : ¬ map.contains call.flow = true := by
        rw [← Std.ExtTreeMap.isSome_getElem?_eq_contains, hget]
        exact Bool.false_ne_true
      have hfull : limiter.maxTrackedFlows ≤ map.size := by
        by_contra hroom
        rw [if_neg (not_or.mpr ⟨hcontains, hroom⟩)] at heq
        rw [heq] at hrefused
        cases hrefused
      rw [hmirrors.size_eq] at hfull
      refine .inr ⟨((log.filter (limiter.Young call.now)).map Prod.fst).toFinset, ?_, ?_, ?_⟩
      · rw [List.toFinset_card_of_nodup hmirrors.nodup, List.length_map]
        exact le_antisymm hlength hfull
      · intro hmem
        obtain ⟨⟨flow, time⟩, hentry, hflow⟩ := List.mem_map.mp (List.mem_toFinset.mp hmem)
        obtain rfl : flow = call.flow := hflow
        exact hmirrors.getElem?_eq_none_iff.mp hget time hentry
      · intro flow hmem
        obtain ⟨⟨flow, time⟩, hentry, rfl⟩ := List.mem_map.mp (List.mem_toFinset.mp hmem)
        exact ⟨time, hyoung hentry⟩

end Tracks

/-! ## Runs -/

theorem tracks_new (minimumInterval : Duration) (maxTrackedFlows : ℕ) (now : Instant) :
    (new minimumInterval maxTrackedFlows).Tracks now [] :=
  ⟨.nil now, .empty, Nat.zero_le _, .nil⟩

/-- **A run keeps the invariant**, and it holds at any time from the last call on. -/
theorem tracks_afterCalls (minimumInterval : Duration) (maxTrackedFlows : ℕ)
    {calls : List FeedbackCall} (hcalls : calls.Pairwise fun c d => c.now ≤ d.now) :
    ((new minimumInterval maxTrackedFlows).afterCalls calls).minimumInterval = minimumInterval ∧
    ((new minimumInterval maxTrackedFlows).afterCalls calls).maxTrackedFlows = maxTrackedFlows ∧
    ∀ now, (∀ call ∈ calls, call.now ≤ now) →
      ((new minimumInterval maxTrackedFlows).afterCalls calls).Tracks now
        ((new minimumInterval maxTrackedFlows).granted calls) := by
  induction calls using List.reverseRecOn with
  | nil => exact ⟨rfl, rfl, fun now _ => tracks_new minimumInterval maxTrackedFlows now⟩
  | append_singleton calls call ih =>
      obtain ⟨hearlier, -, hlast⟩ := List.pairwise_append.mp hcalls
      obtain ⟨hinterval, hmax, htracks⟩ := ih hearlier
      have hcall := htracks call.now fun earlier hmem =>
        hlast earlier hmem call (List.mem_singleton_self call)
      rw [afterCalls_append_singleton, granted_append_singleton]
      refine ⟨hcall.params.1.trans hinterval, hcall.params.2.trans hmax, fun now hnow => ?_⟩
      exact hcall.answer.mono (hnow call (List.mem_append_right _ List.mem_cons_self))

/-- **The rate of the feedback.**  For calls at non-decreasing times and of any flows: the map and
the queue hold the same flows and times, each flow once and the times in order, and neither holds
more than `maxTrackedFlows`; two grants of one flow are at least `minimumInterval` apart; a call is
refused only if its flow was granted less than `minimumInterval` before, or `maxTrackedFlows`
other flows were. -/
theorem allow_tracks (minimumInterval : Duration) (maxTrackedFlows : ℕ)
    {calls : List FeedbackCall} (hcalls : calls.Pairwise fun c d => c.now ≤ d.now) :
    ((∀ flow time,
        ((new minimumInterval maxTrackedFlows).afterCalls calls).lastFeedback[flow]? = some time ↔
          (flow, time) ∈ ((new minimumInterval maxTrackedFlows).afterCalls calls).expirations) ∧
      (((new minimumInterval maxTrackedFlows).afterCalls calls).expirations.map Prod.fst).Nodup ∧
      (((new minimumInterval maxTrackedFlows).afterCalls calls).expirations.map
        Prod.snd).Pairwise (· ≤ ·)) ∧
    (((new minimumInterval maxTrackedFlows).afterCalls calls).lastFeedback.size
        ≤ maxTrackedFlows ∧
      ((new minimumInterval maxTrackedFlows).afterCalls calls).expirations.length
        ≤ maxTrackedFlows) ∧
    (((new minimumInterval maxTrackedFlows).granted calls).Pairwise fun earlier later =>
      earlier.1 = later.1 → earlier.2 + minimumInterval ≤ later.2) ∧
    ∀ earlier call later, calls = earlier ++ call :: later →
      (((new minimumInterval maxTrackedFlows).afterCalls earlier).answer call).2 = false →
      (∃ time, (call.flow, time) ∈ (new minimumInterval maxTrackedFlows).granted earlier ∧
        call.now < time + minimumInterval) ∨
      ∃ others : Finset FeedbackFlow, others.card = maxTrackedFlows ∧ call.flow ∉ others ∧
        ∀ flow ∈ others, ∃ time,
          (flow, time) ∈ (new minimumInterval maxTrackedFlows).granted earlier ∧
          call.now < time + minimumInterval := by
  obtain ⟨hinterval, hmax, htracks⟩ := tracks_afterCalls minimumInterval maxTrackedFlows hcalls
  obtain ⟨last, hlast⟩ : ∃ last, ∀ call ∈ calls, call.now ≤ last :=
    ⟨calls.toFinset.sup FeedbackCall.now, fun call hmem =>
      Finset.le_sup (f := FeedbackCall.now) (List.mem_toFinset.mpr hmem)⟩
  have hat := htracks last hlast
  have hlength := hat.length_le
  rw [hmax] at hlength
  have hspaced := hat.spaced
  rw [hinterval] at hspaced
  refine ⟨⟨hat.mirrors.getElem?_iff, hat.mirrors.nodup, ?_⟩, ⟨?_, hlength⟩, hspaced, ?_⟩
  · exact List.pairwise_map.mpr hat.pending.queue_sorted
  · rw [hat.mirrors.size_eq]
    exact hlength
  · rintro earlier call later rfl hrefused
    obtain ⟨hearlier, -, hbefore⟩ := List.pairwise_append.mp hcalls
    obtain ⟨hinterval, hmax, htracks⟩ :=
      tracks_afterCalls minimumInterval maxTrackedFlows hearlier
    have hcall := (htracks call.now fun other hmem =>
      hbefore other hmem call List.mem_cons_self).exists_of_refused hrefused
    rw [hinterval, hmax] at hcall
    exact hcall

/-- Three flows of one source that ask in turns, in groups `232.1.2.1` to `232.1.2.3`. -/
def threeFlows : List FeedbackCall :=
  [(1, 0), (2, 3), (1, 4), (3, 5), (1, 10), (3, 12), (3, 13), (2, 21)].map fun (group, now) =>
    ⟨.v4 (.new 192 0 2 10), .v4 (.new 232 1 2 group), now⟩

/-- The hypotheses at three flows with room for two: the flow that asks too early and the one
that finds the table full are refused, and are granted later. -/
theorem allow_tracks_threeFlows :
    ((new 10 2).granted threeFlows).map Prod.snd = [0, 3, 10, 13, 21] ∧
    ((new 10 2).granted threeFlows).Pairwise (fun earlier later =>
      earlier.1 = later.1 → earlier.2 + 10 ≤ later.2) ∧
    ((new 10 2).afterCalls threeFlows).expirations.length ≤ 2 :=
  ⟨by decide +kernel, (allow_tracks 10 2 (by decide)).2.2.1, (allow_tracks 10 2 (by decide)).2.1.2⟩

end FeedbackRateLimiter

end Amt

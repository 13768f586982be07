import Amt.Upstream

/-!
# Reconciliation, exactly

`Amt.Upstream` shows that what was asked for is in the table after a reconciliation that
succeeds.  This file says what else is there, which native calls were made for it, and what
the native context holds afterwards.

* **The context holds what the table lists** (`Tight`), and nothing else.  `ExactLaws` is
  what this needs of the native library: an added identifier is new, a removed one is gone,
  and no other call changes what is held.  Every way through a reconciliation keeps it, so
  that nothing leaks, whichever calls fail.
* **The calls are visible** (`NativeContext.logged`).  The logged context does what the
  native one does and keeps a list of the calls; forgetting the list gives the run without
  it (`reconcile_logged`).  A call can only touch an identifier that is new or stale.
* **The bound** (`BoundedLaws`).  New subscriptions are added before the stale ones are
  left, so a context for `n` subscriptions has to hold the old and the new ones together
  (`reconcile_installs_iff`).
-/

namespace Amt

open Std (ExtTreeSet)

variable {σ Id ε : Type*}

/-! ## What the native context holds -/

/-- The subscriptions that the native context holds, and what each call does to them. -/
structure ExactLaws [DecidableEq Id] (native : NativeContext σ Id ε) where
  held : σ → Finset Id
  /-- An added identifier is fresh. -/
  fresh_of_add : ∀ {s s' : σ} {config : RawSubscriptionConfig} {id : Id},
    native.add s config = (s', .ok id) → id ∉ held s
  held_of_add : ∀ {s s' : σ} {config : RawSubscriptionConfig} {id : Id},
    native.add s config = (s', .ok id) → held s' = insert id (held s)
  held_of_add_error : ∀ {s s' : σ} {config : RawSubscriptionConfig} {error : ε},
    native.add s config = (s', .error error) → held s' = held s
  held_join : ∀ (s : σ) (id : Id), held (native.join s id).1 = held s
  held_leave : ∀ (s : σ) (id : Id), held (native.leave s id).1 = held s
  /-- A removed identifier is gone. -/
  held_remove : ∀ (s : σ) (id : Id), held (native.remove s id) = (held s).erase id

/-! ## The calls -/

/-- A call of the native context, with what the manager learns from it. -/
inductive NativeCall (Id : Type*) where
  | add (id : Option Id)
  | join (id : Id) (succeeded : Bool)
  | leave (id : Id) (succeeded : Bool)
  | remove (id : Id)
deriving DecidableEq

/-- The call is about a subscription that the context holds. -/
def NativeCall.Touches (id : Id) : NativeCall Id → Prop
  | .add _ => False
  | .join other _ | .leave other _ | .remove other => other = id

/-- **The native context with a list of its calls.** -/
def NativeContext.logged (native : NativeContext σ Id ε) :
    NativeContext (σ × List (NativeCall Id)) Id ε where
  add s config :=
    let result := native.add s.1 config
    ((result.1, s.2 ++ [.add result.2.toOption]), result.2)
  join s id :=
    let result := native.join s.1 id
    ((result.1, s.2 ++ [.join id result.2.toBool]), result.2)
  leave s id :=
    let result := native.leave s.1 id
    ((result.1, s.2 ++ [.leave id result.2.toBool]), result.2)
  remove s id := (native.remove s.1 id, s.2 ++ [.remove id])

section

variable {native : NativeContext σ Id ε} {s s' : σ × List (NativeCall Id)} {id : Id}

theorem NativeContext.add_of_logged {config : RawSubscriptionConfig} {result : Except ε Id}
    (h : native.logged.add s config = (s', result)) :
    native.add s.1 config = (s'.1, result) ∧ s'.2 = s.2 ++ [.add result.toOption] := by
  cases h
  exact ⟨rfl, rfl⟩

theorem NativeContext.join_of_logged {result : Except ε Unit}
    (h : native.logged.join s id = (s', result)) :
    native.join s.1 id = (s'.1, result) ∧ s'.2 = s.2 ++ [.join id result.toBool] := by
  cases h
  exact ⟨rfl, rfl⟩

theorem NativeContext.leave_of_logged {result : Except ε Unit}
    (h : native.logged.leave s id = (s', result)) :
    native.leave s.1 id = (s'.1, result) ∧ s'.2 = s.2 ++ [.leave id result.toBool] := by
  cases h
  exact ⟨rfl, rfl⟩

/-- The list changes nothing that is held. -/
def ExactLaws.logged [DecidableEq Id] (laws : ExactLaws native) : ExactLaws native.logged where
  held s := laws.held s.1
  fresh_of_add h := laws.fresh_of_add (NativeContext.add_of_logged h).1
  held_of_add h := laws.held_of_add (NativeContext.add_of_logged h).1
  held_of_add_error h := laws.held_of_add_error (NativeContext.add_of_logged h).1
  held_join s id := laws.held_join s.1 id
  held_leave s id := laws.held_leave s.1 id
  held_remove s id := laws.held_remove s.1 id

end

namespace UpstreamManager

variable {native : NativeContext σ Id ε}

/-- The manager on the context without the list. -/
def forget (manager : UpstreamManager (σ × List (NativeCall Id)) Id) : UpstreamManager σ Id :=
  ⟨manager.config, manager.context.1, manager.active⟩

/-- The manager on the context with an empty list. -/
def withLog (manager : UpstreamManager σ Id) : UpstreamManager (σ × List (NativeCall Id)) Id :=
  ⟨manager.config, (manager.context, []), manager.active⟩

section Logged

variable (native)

/-- The native calls of a reconciliation. -/
def reconcileCalls (manager : UpstreamManager σ Id) (subscriptions : List UpstreamSubscription) :
    List (NativeCall Id) :=
  (reconcile native.logged manager.withLog subscriptions).1.context.2

theorem rollbackAdditions_logged (subscriptions : List UpstreamSubscription)
    (manager : UpstreamManager (σ × List (NativeCall Id)) Id) :
    (rollbackAdditions native.logged manager subscriptions).forget =
      rollbackAdditions native manager.forget subscriptions := by
  unfold rollbackAdditions
  induction subscriptions.reverse generalizing manager with
  | nil => rfl
  | cons subscription rest ih =>
      rw [List.foldl_cons, List.foldl_cons, ih]
      congr 1
      unfold rollbackAddition
      rw [show manager.forget.active = manager.active from rfl]
      cases manager.active[subscription]? with
      | none => rfl
      | some id => rfl

/-- Logging the native calls does not change the first loop. -/
theorem addMissing_logged (desired : List UpstreamSubscription) :
    ∀ (manager : UpstreamManager (σ × List (NativeCall Id)) Id)
      (added : List UpstreamSubscription),
      (addMissing native.logged desired manager added).1.forget =
          (addMissing native desired manager.forget added).1 ∧
        (addMissing native.logged desired manager added).2 =
          (addMissing native desired manager.forget added).2 := by
  induction desired with
  | nil => exact fun manager added => ⟨rfl, rfl⟩
  | cons subscription desired ih =>
      intro manager added
      rw [addMissing, addMissing]
      by_cases hactive : manager.active.contains subscription
      · rw [if_pos hactive, if_pos (show manager.forget.active.contains subscription from hactive)]
        exact ih manager added
      · rw [if_neg hactive,
          if_neg (show ¬ manager.forget.active.contains subscription from hactive)]
        obtain ⟨⟨context, result⟩, hadd⟩ :
            ∃ r, native.add manager.context.1 (manager.rawConfigFor subscription) = r := ⟨_, rfl⟩
        have hlogged : native.logged.add manager.context (manager.rawConfigFor subscription) =
            ((context, manager.context.2 ++ [.add result.toOption]), result) := by
          simp only [NativeContext.logged, hadd]
        rw [hlogged, show native.add manager.forget.context
          (manager.forget.rawConfigFor subscription) = (context, result) from hadd]
        cases result with
        | error error => exact ⟨rollbackAdditions_logged native added _, rfl⟩
        | ok id =>
            obtain ⟨⟨context', joined⟩, hjoin⟩ : ∃ r, native.join context id = r := ⟨_, rfl⟩
            have hlogged (log : List (NativeCall Id)) : native.logged.join (context, log) id =
                ((context', log ++ [.join id joined.toBool]), joined) := by
              simp only [NativeContext.logged, hjoin]
            dsimp only
            rw [hlogged, hjoin]
            cases joined with
            | error error => exact ⟨rollbackAdditions_logged native added _, rfl⟩
            | ok _ => exact ih _ _

/-- Nor does it change the second. -/
theorem removeStale_logged (stale : List UpstreamSubscription) :
    ∀ (manager : UpstreamManager (σ × List (NativeCall Id)) Id) (removed failedRemovals : ℕ),
      (removeStale native.logged stale manager removed failedRemovals).1.forget =
          (removeStale native stale manager.forget removed failedRemovals).1 ∧
        (removeStale native.logged stale manager removed failedRemovals).2 =
          (removeStale native stale manager.forget removed failedRemovals).2 := by
  induction stale with
  | nil => exact fun manager removed failedRemovals => ⟨rfl, rfl⟩
  | cons subscription stale ih =>
      intro manager removed failedRemovals
      rw [removeStale, removeStale, show manager.forget.active = manager.active from rfl]
      cases manager.active[subscription]? with
      | none => exact ⟨rfl, rfl⟩
      | some id =>
          obtain ⟨⟨context, left⟩, hleave⟩ : ∃ r, native.leave manager.context.1 id = r := ⟨_, rfl⟩
          have hlogged : native.logged.leave manager.context id =
              ((context, manager.context.2 ++ [.leave id left.toBool]), left) := by
            simp only [NativeContext.logged, hleave]
          dsimp only
          rw [hlogged, show native.leave manager.forget.context id = (context, left) from hleave]
          cases left with
          | error error => exact ih _ _ _
          | ok _ => exact ih _ _ _

/-- **Forgetting the list gives the reconciliation without it.** -/
theorem reconcile_logged (manager : UpstreamManager (σ × List (NativeCall Id)) Id)
    (subscriptions : List UpstreamSubscription) :
    (reconcile native.logged manager subscriptions).1.forget =
        (reconcile native manager.forget subscriptions).1 ∧
      (reconcile native.logged manager subscriptions).2 =
        (reconcile native manager.forget subscriptions).2 := by
  rw [reconcile, reconcile]
  generalize ExtTreeSet.ofList subscriptions compare = desired
  obtain ⟨hmanager, hresult⟩ := addMissing_logged native desired.toList manager []
  obtain ⟨⟨manager', result⟩, hadded⟩ :
      ∃ r, addMissing native.logged desired.toList manager [] = r := ⟨_, rfl⟩
  obtain ⟨⟨plain, result'⟩, hplain⟩ :
      ∃ r, addMissing native desired.toList manager.forget [] = r := ⟨_, rfl⟩
  rw [hadded, hplain] at hmanager hresult
  obtain rfl : manager'.forget = plain := hmanager
  obtain rfl : result = result' := hresult
  simp only [hadded, hplain]
  cases result with
  | error error => exact ⟨rfl, rfl⟩
  | ok added =>
      dsimp only
      generalize hstale : (manager.active.keys.filter fun k => !desired.contains k) = stale
      rw [show (manager.forget.active.keys.filter fun k => !desired.contains k) = stale from hstale]
      obtain ⟨hmanager, hresult⟩ := removeStale_logged native stale manager' 0 0
      obtain ⟨⟨last, counts⟩, hremoved⟩ : ∃ r, removeStale native.logged stale manager' 0 0 = r :=
        ⟨_, rfl⟩
      obtain ⟨⟨plain, counts'⟩, hplain⟩ : ∃ r, removeStale native stale manager'.forget 0 0 = r :=
        ⟨_, rfl⟩
      rw [hremoved, hplain] at hmanager hresult
      obtain rfl : last.forget = plain := hmanager
      obtain rfl : counts = counts' := hresult
      rw [hremoved, hplain]
      cases counts with
      | ok counts => exact ⟨rfl, rfl⟩
      | err error => exact ⟨rfl, rfl⟩
      | panic => exact ⟨rfl, rfl⟩

end Logged

/-! ## What there is to do -/

/-- The subscriptions that the table lists and the caller does not ask for. -/
def stale (manager : UpstreamManager σ Id) (subscriptions : List UpstreamSubscription) :
    List UpstreamSubscription :=
  manager.active.keys.filter fun k => k ∉ subscriptions

/-- The subscriptions that the caller asks for and the table does not list. -/
def missing (manager : UpstreamManager σ Id) (subscriptions : List UpstreamSubscription) :
    List UpstreamSubscription :=
  subscriptions.dedup.filter fun k => manager.active[k]?.isNone

theorem stale_eq (manager : UpstreamManager σ Id) (subscriptions : List UpstreamSubscription) :
    (manager.active.keys.filter fun k =>
      !(ExtTreeSet.ofList subscriptions compare).contains k) = manager.stale subscriptions := by
  refine List.filter_congr fun k _ => ?_
  rw [Bool.eq_iff_iff, Bool.not_eq_true', decide_eq_true_iff, ← Bool.not_eq_true,
    ExtTreeSet.contains_iff_mem, BTreeSet.mem_ofList_iff]

theorem mem_stale_iff {manager : UpstreamManager σ Id}
    {subscriptions : List UpstreamSubscription} {k : UpstreamSubscription} :
    k ∈ manager.stale subscriptions ↔
      (∃ id, manager.active[k]? = some id) ∧ k ∉ subscriptions := by
  rw [stale, List.mem_filter, BTreeMap.mem_keys_iff_exists, decide_eq_true_iff]

/-- The subscriptions that the table lists or the caller asks for. -/
def together (manager : UpstreamManager σ Id) (subscriptions : List UpstreamSubscription) :
    Finset UpstreamSubscription :=
  (manager.active.keys ++ subscriptions).toFinset

theorem mem_together_iff {manager : UpstreamManager σ Id}
    {subscriptions : List UpstreamSubscription} {k : UpstreamSubscription} :
    k ∈ manager.together subscriptions ↔
      (∃ id, manager.active[k]? = some id) ∨ k ∈ subscriptions := by
  rw [together, List.mem_toFinset, List.mem_append, BTreeMap.mem_keys_iff_exists]

/-- The number of subscriptions in a table. -/
theorem card_keys (active : BTreeMap UpstreamSubscription Id) :
    active.keys.toFinset.card = active.size := by
  rw [List.toFinset_card_of_nodup (BTreeMap.keys_nodup active), Std.ExtTreeMap.length_keys]

/-- The reconciliation succeeds exactly if the first loop does. -/
theorem reconcile_ok_iff (native : NativeContext σ Id ε) (manager : UpstreamManager σ Id)
    (subscriptions : List UpstreamSubscription) :
    (∃ changes, (reconcile native manager subscriptions).2 = .ok changes) ↔
      ∃ added, (addMissing native (ExtTreeSet.ofList subscriptions compare).toList manager []).2
        = .ok added := by
  obtain ⟨⟨grown, result⟩, hadd⟩ : ∃ r, addMissing native
    (ExtTreeSet.ofList subscriptions compare).toList manager [] = r := ⟨_, rfl⟩
  have hcases := addMissing_cases native (ExtTreeSet.ofList subscriptions compare).toList manager
  simp only [reconcile, hadd, stale_eq] at hcases ⊢
  rcases hcases with ⟨error, rfl, -⟩ | ⟨added, rfl, hadding⟩
  · simp
  · have hpresent : ∀ k ∈ manager.stale subscriptions, ∃ id, grown.active[k]? = some id := by
      intro k hk
      obtain ⟨⟨id, hid⟩, -⟩ := mem_stale_iff.mp hk
      exact ⟨id, hadding.kept k id hid⟩
    obtain ⟨⟨counts, hcounts⟩, -⟩ := removeStale_cases native (manager.stale subscriptions) grown
      0 0 ((BTreeMap.keys_nodup manager.active).filter _) hpresent
    obtain ⟨⟨last, outcome⟩, hremove⟩ :
        ∃ r, removeStale native (manager.stale subscriptions) grown 0 0 = r := ⟨_, rfl⟩
    rw [hremove] at hcounts
    subst hcounts
    simp [hremove]

/-- Nothing in the list touches an identifier of the table `base`. -/
def Spares (calls : List (NativeCall Id)) (base : BTreeMap UpstreamSubscription Id) : Prop :=
  ∀ call ∈ calls, ∀ (k : UpstreamSubscription) (id : Id), base[k]? = some id → ¬ call.Touches id

theorem Spares.append {calls calls' : List (NativeCall Id)}
    {base : BTreeMap UpstreamSubscription Id} (h : Spares calls base) (h' : Spares calls' base) :
    Spares (calls ++ calls') base := by
  intro call hcall
  rcases List.mem_append.mp hcall with hcall | hcall
  · exact h call hcall
  · exact h' call hcall

/-! ## The table and the context agree -/

section Tight

variable [DecidableEq Id]

/-- **The native context holds exactly what the table lists**, each under its own
identifier. -/
structure Tight (laws : ExactLaws native) (manager : UpstreamManager σ Id) : Prop where
  mem_held_iff : ∀ id, id ∈ laws.held manager.context ↔
    ∃ k : UpstreamSubscription, manager.active[k]? = some id
  injective : ∀ {k k' : UpstreamSubscription} {id : Id}, manager.active[k]? = some id →
    manager.active[k']? = some id → k = k'

variable {laws : ExactLaws native} {manager : UpstreamManager σ Id}

theorem tight_new (laws : ExactLaws native) (config : UpstreamConfig) {context : σ}
    (h : laws.held context = ∅) :
    Tight laws (new config context) where
  mem_held_iff id := by simp [new, h]
  injective h := by simp [new] at h

namespace Tight

/-- Calls that change nothing that is held. -/
theorem withContext (h : Tight laws manager) {context : σ}
    (hheld : laws.held context = laws.held manager.context) :
    Tight laws { manager with context } where
  mem_held_iff id := by
    show id ∈ laws.held context ↔ _
    rw [hheld, h.mem_held_iff]
  injective := h.injective

/-- A new subscription under a fresh identifier. -/
theorem insert (h : Tight laws manager) {subscription : UpstreamSubscription} {id : Id}
    {context : σ} (hnone : manager.active[subscription]? = none)
    (hfresh : id ∉ laws.held manager.context)
    (hheld : laws.held context = Insert.insert id (laws.held manager.context)) :
    Tight laws
      { manager with context, active := manager.active.insert subscription id } := by
  have hget : ∀ k : UpstreamSubscription, (manager.active.insert subscription id)[k]? =
      if subscription = k then some id else manager.active[k]? := fun k => by simp
  have hother : ∀ k : UpstreamSubscription, manager.active[k]? ≠ some id :=
    fun k hk => hfresh ((h.mem_held_iff id).mpr ⟨k, hk⟩)
  constructor
  · intro id'
    show id' ∈ laws.held context ↔
      ∃ k : UpstreamSubscription, (manager.active.insert subscription id)[k]? = some id'
    rw [hheld, Finset.mem_insert, h.mem_held_iff]
    constructor
    · rintro (rfl | ⟨k, hk⟩)
      · exact ⟨subscription, by rw [hget, if_pos rfl]⟩
      · refine ⟨k, ?_⟩
        rw [hget, if_neg, hk]
        rintro rfl
        exact absurd (hnone.symm.trans hk) (by simp)
    · rintro ⟨k, hk⟩
      rw [hget] at hk
      split at hk
      · exact .inl (Option.some.inj hk).symm
      · exact .inr ⟨k, hk⟩
  · intro k k' id' hk hk'
    dsimp only at hk hk'
    rw [hget] at hk hk'
    split at hk
    · rename_i heq
      obtain rfl := Option.some.inj hk
      split at hk'
      · exact heq.symm.trans ‹subscription = k'›
      · exact absurd hk' (hother k')
    · split at hk'
      · obtain rfl := Option.some.inj hk'
        exact absurd hk (hother k)
      · exact h.injective hk hk'

/-- A subscription that is left and removed. -/
theorem erase (h : Tight laws manager) {subscription : UpstreamSubscription} {id : Id}
    {context : σ} (hid : manager.active[subscription]? = some id)
    (hheld : laws.held context = (laws.held manager.context).erase id) :
    Tight laws { manager with context, active := manager.active.erase subscription } := by
  constructor
  · intro id'
    show id' ∈ laws.held context ↔
      ∃ k : UpstreamSubscription, (manager.active.erase subscription)[k]? = some id'
    rw [hheld, Finset.mem_erase, h.mem_held_iff]
    constructor
    · rintro ⟨hne, k, hk⟩
      refine ⟨k, BTreeMap.getElem?_erase_eq_some_iff.mpr ⟨?_, hk⟩⟩
      rintro rfl
      exact hne (Option.some.inj (hk.symm.trans hid))
    · rintro ⟨k, hk⟩
      obtain ⟨hne, hk⟩ := BTreeMap.getElem?_erase_eq_some_iff.mp hk
      refine ⟨?_, k, hk⟩
      rintro rfl
      exact hne (h.injective hid hk)
  · intro k k' id' hk hk'
    exact h.injective (BTreeMap.getElem?_erase_eq_some_iff.mp hk).2
      (BTreeMap.getElem?_erase_eq_some_iff.mp hk').2

end Tight

/-! ## The loops -/

variable {logged : UpstreamManager (σ × List (NativeCall Id)) Id}

/-- What holds along a rollback: the table only loses entries, and a call is about one that
is taken out. -/
structure RollingBack (laws : ExactLaws native) (subscriptions : List UpstreamSubscription)
    (before logged : UpstreamManager (σ × List (NativeCall Id)) Id) : Prop where
  tight : Tight laws.logged logged
  kept : ∀ (k : UpstreamSubscription) (id : Id), logged.active[k]? = some id →
    before.active[k]? = some id
  touched : ∀ call ∈ logged.context.2, call ∈ before.context.2 ∨
    ∃ k ∈ subscriptions, ∃ id, before.active[k]? = some id ∧ ∀ id', call.Touches id' → id = id'

/-- **The rollback** keeps the agreement, and touches what it takes out only. -/
theorem Tight.rollbackAdditions (h : Tight laws.logged logged)
    (subscriptions : List UpstreamSubscription) :
    RollingBack laws subscriptions logged
      (rollbackAdditions native.logged logged subscriptions) := by
  unfold UpstreamManager.rollbackAdditions
  refine List.foldlRecOn (motive := RollingBack laws subscriptions logged) _ _
    ⟨h, fun _ _ hk => hk, fun _ hcall => .inl hcall⟩ ?_
  rintro manager ⟨htight, hkept, hcalls⟩ subscription hmem
  rw [List.mem_reverse] at hmem
  unfold rollbackAddition
  cases hid : manager.active[subscription]? with
  | none => exact ⟨htight, hkept, hcalls⟩
  | some id =>
      refine ⟨htight.erase hid ?_, ?_, ?_⟩
      · show laws.held (native.remove (native.leave manager.context.1 id).1 id) = _
        rw [laws.held_remove, laws.held_leave]
        rfl
      · intro k id' hk
        exact hkept k id' (BTreeMap.getElem?_erase_eq_some_iff.mp hk).2
      · intro call hcall
        rcases List.mem_append.mp hcall with hcall | hcall
        · rcases List.mem_append.mp hcall with hcall | hcall
          · exact hcalls call hcall
          · rw [List.mem_singleton.mp hcall]
            exact .inr ⟨subscription, hmem, id, hkept _ _ hid, fun _ h => h⟩
        · rw [List.mem_singleton.mp hcall]
          exact .inr ⟨subscription, hmem, id, hkept _ _ hid, fun _ h => h⟩

/-- The first loop, with its calls: the new entries are the desired ones that were missing,
and nothing that was there is touched. -/
structure AddingExactly (laws : ExactLaws native) (base : BTreeMap UpstreamSubscription Id)
    (done : List UpstreamSubscription)
    (logged : UpstreamManager (σ × List (NativeCall Id)) Id)
    (added : List UpstreamSubscription) : Prop where
  adding : Adding base done logged added
  tight : Tight laws.logged logged
  spares : Spares logged.context.2 base
  nodup : added.Nodup
  mem_added_iff : ∀ k, k ∈ added ↔ k ∈ done ∧ base[k]? = none

/-- The first loop, after a failure. -/
structure RolledBack (laws : ExactLaws native) (base : BTreeMap UpstreamSubscription Id)
    (logged : UpstreamManager (σ × List (NativeCall Id)) Id) : Prop where
  active : logged.active = base
  tight : Tight laws.logged logged
  spares : Spares logged.context.2 base

namespace AddingExactly

variable {base : BTreeMap UpstreamSubscription Id} {done added : List UpstreamSubscription}

/-- A new identifier is none of `base`. -/
theorem ne_of_fresh (h : AddingExactly laws base done logged added) {id : Id}
    (hfresh : id ∉ laws.held logged.context.1) (k : UpstreamSubscription) :
    base[k]? ≠ some id :=
  fun hk => hfresh ((h.tight.mem_held_iff id).mpr ⟨k, h.adding.kept k id hk⟩)

/-- An identifier of `base` is none of the added ones. -/
theorem ne_of_added (h : AddingExactly laws base done logged added) {k k' : UpstreamSubscription}
    {id : Id} (hk : k ∈ added) (hid : logged.active[k]? = some id) : base[k']? ≠ some id := by
  intro hk'
  obtain rfl := h.tight.injective hid (h.adding.kept k' id hk')
  rw [((h.mem_added_iff k).mp hk).2] at hk'
  cases hk'

/-- **A failure** is rolled back without a touch on what was there. -/
theorem rollback (h : AddingExactly laws base done logged added)
    (context : σ × List (NativeCall Id)) {calls : List (NativeCall Id)}
    (hheld : laws.held context.1 = laws.held logged.context.1)
    (hcalls : context.2 = logged.context.2 ++ calls) (hspares : Spares calls base) :
    RolledBack laws base
      (UpstreamManager.rollbackAdditions native.logged { logged with context } added) := by
  have htight : Tight laws.logged { logged with context } := h.tight.withContext hheld
  obtain ⟨htight, -, htouched⟩ := htight.rollbackAdditions added
  refine ⟨h.adding.addedTo.active_rollbackAdditions native.logged { logged with context }, htight,
    ?_⟩
  intro call hcall k id hk htouches
  rcases htouched call hcall with hold | ⟨k', hk', id', hid', honly⟩
  · exact (h.spares.append hspares) call (hcalls ▸ hold) k id hk htouches
  · obtain rfl := honly id htouches
    exact h.ne_of_added hk' hid' hk

theorem start (h : Tight laws manager) :
    AddingExactly laws manager.active [] manager.withLog [] where
  adding := adding_start manager.withLog
  tight := ⟨h.mem_held_iff, h.injective⟩
  spares := by simp [Spares, withLog]
  nodup := List.nodup_nil
  mem_added_iff := by simp

/-- A subscription that is in the table is passed over. -/
theorem skip (h : AddingExactly laws base done logged added) {subscription : UpstreamSubscription}
    {id : Id} (hid : logged.active[subscription]? = some id) :
    AddingExactly laws base (done ++ [subscription]) logged added := by
  refine ⟨h.adding.skip hid, h.tight, h.spares, h.nodup, fun k => ?_⟩
  rw [h.mem_added_iff, List.mem_append, List.mem_singleton]
  refine ⟨fun ⟨hk, hnone⟩ => ⟨.inl hk, hnone⟩, fun ⟨hk, hnone⟩ => ⟨?_, hnone⟩⟩
  rcases hk with hk | rfl
  · exact hk
  · -- it is in the table and was not in `base`, so it was added before
    by_contra hdone
    have hkept := h.adding.addedTo.kept k fun hk => hdone ((h.mem_added_iff k).mp hk).1
    rw [hid, hnone] at hkept
    cases hkept

/-- Calls about a new identifier only. -/
theorem spares_of_fresh (h : AddingExactly laws base done logged added) {id : Id}
    (hfresh : id ∉ laws.held logged.context.1) {calls : List (NativeCall Id)}
    (honly : ∀ call ∈ calls, ∀ id', call.Touches id' → id = id') : Spares calls base := by
  intro call hcall k id' hk htouches
  obtain rfl := honly call hcall id' htouches
  exact h.ne_of_fresh hfresh k hk

section Added

variable {subscription : UpstreamSubscription} {config : RawSubscriptionConfig}
  {context context' : σ × List (NativeCall Id)} {id : Id}

/-- **A subscription that could be added and not joined** is removed, and the rest rolled
back. -/
theorem join_failed (h : AddingExactly laws base done logged added) {error : ε}
    (hadd : native.logged.add logged.context config = (context, .ok id))
    (hjoin : native.logged.join context id = (context', .error error)) :
    RolledBack laws base (UpstreamManager.rollbackAdditions native.logged
      { logged with context := native.logged.remove context' id } added) := by
  obtain ⟨hadd, hlog⟩ := NativeContext.add_of_logged hadd
  obtain ⟨hjoin, hlog'⟩ := NativeContext.join_of_logged hjoin
  have hfresh := laws.fresh_of_add hadd
  have hheld := laws.held_join context.1 id
  rw [hjoin] at hheld
  have hcalls : (native.logged.remove context' id).2 =
      logged.context.2 ++ [.add (some id), .join id false, .remove id] := by
    show context'.2 ++ [.remove id] = _
    rw [hlog', hlog]
    simp [Except.toOption, Except.toBool]
  refine h.rollback (native.logged.remove context' id) ?_ hcalls (h.spares_of_fresh hfresh ?_)
  · show laws.held (native.remove context'.1 id) = _
    rw [laws.held_remove, hheld, laws.held_of_add hadd, Finset.erase_insert hfresh]
  · intro call hcall id' htouches
    simp only [List.mem_cons, List.not_mem_nil, or_false] at hcall
    rcases hcall with rfl | rfl | rfl
    · exact htouches.elim
    · exact htouches
    · exact htouches

/-- **A subscription that was added and joined** is new in the table. -/
theorem insert (h : AddingExactly laws base done logged added)
    (hnone : logged.active[subscription]? = none)
    (hadd : native.logged.add logged.context config = (context, .ok id))
    (hjoin : native.logged.join context id = (context', .ok ())) :
    AddingExactly laws base (done ++ [subscription])
      { logged with context := context', active := logged.active.insert subscription id }
      (added ++ [subscription]) := by
  obtain ⟨hadd, hlog⟩ := NativeContext.add_of_logged hadd
  obtain ⟨hjoin, hlog'⟩ := NativeContext.join_of_logged hjoin
  have hfresh := laws.fresh_of_add hadd
  have hheld := laws.held_join context.1 id
  rw [hjoin] at hheld
  have hnot : subscription ∉ added := by
    intro hmem
    obtain ⟨id', hid'⟩ := h.adding.bound subscription ((h.mem_added_iff _).mp hmem).1
    rw [hnone] at hid'
    cases hid'
  refine ⟨h.adding.insert hnone context' id, h.tight.insert hnone hfresh ?_, ?_, ?_, ?_⟩
  · exact hheld.trans (laws.held_of_add hadd)
  · show Spares context'.2 base
    rw [hlog', hlog, List.append_assoc]
    refine h.spares.append (h.spares_of_fresh hfresh fun call hcall id' htouches => ?_)
    simp only [List.mem_append, List.mem_singleton] at hcall
    rcases hcall with rfl | rfl
    · exact htouches.elim
    · exact htouches
  · exact List.nodup_append.mpr ⟨h.nodup, List.nodup_singleton _, by
      intro a ha b hb
      rw [List.mem_singleton.mp hb]
      rintro rfl
      exact hnot ha⟩
  · intro k
    rw [List.mem_append, List.mem_append, List.mem_singleton, h.mem_added_iff]
    constructor
    · rintro (⟨hk, hbase⟩ | rfl)
      · exact ⟨.inl hk, hbase⟩
      · refine ⟨.inr rfl, ?_⟩
        rw [← h.adding.addedTo.kept k hnot]
        exact hnone
    · rintro ⟨hk | rfl, hbase⟩
      · exact .inl ⟨hk, hbase⟩
      · exact .inr rfl

end Added

end AddingExactly

/-- **The first loop, exactly.** -/
theorem addMissing_exact (h : Tight laws manager) (desired : List UpstreamSubscription) :
    (∃ error, (addMissing native.logged desired manager.withLog []).2 = .error error ∧
      RolledBack laws manager.active (addMissing native.logged desired manager.withLog []).1) ∨
    ∃ added, (addMissing native.logged desired manager.withLog []).2 = .ok added ∧
      AddingExactly laws manager.active desired
        (addMissing native.logged desired manager.withLog []).1 added := by
  refine addMissing_rule (P := fun _ => True) (I := AddingExactly laws manager.active)
    (E := RolledBack laws manager.active) native.logged ?_ ?_ ?_ ?_ desired [] manager.withLog []
    (fun _ _ => trivial) (.start h)
  · intro done m added subscription id h _ hid
    exact h.skip hid
  · intro done m added subscription context error h _ _ hadd
    obtain ⟨hadd, hlog⟩ := NativeContext.add_of_logged hadd
    exact h.rollback context (laws.held_of_add_error hadd) hlog
      (by simp [Spares, NativeCall.Touches])
  · intro done m added subscription context context' id error h _ _ hadd hjoin
    exact h.join_failed hadd hjoin
  · intro done m added subscription context context' id h _ hnone hadd hjoin
    exact h.insert hnone hadd hjoin

/-- What the second loop leaves, with its calls: an entry stays exactly if the attempt to
leave it failed. -/
structure RemovedExactly (laws : ExactLaws native) (stale : List UpstreamSubscription)
    (before after : UpstreamManager (σ × List (NativeCall Id)) Id)
    (calls : List (NativeCall Id)) : Prop where
  tight : Tight laws.logged after
  log : after.context.2 = before.context.2 ++ calls
  touched : ∀ call ∈ calls, ∃ k ∈ stale, ∃ id, before.active[k]? = some id ∧
    ∀ id', call.Touches id' → id = id'
  stays : ∀ k ∈ stale, ∀ id, before.active[k]? = some id →
    (NativeCall.leave id false ∈ calls ∧ after.active[k]? = some id) ∨
      (NativeCall.leave id false ∉ calls ∧ after.active[k]? = none)
  others : ∀ k : UpstreamSubscription, k ∉ stale → after.active[k]? = before.active[k]?

namespace RemovedExactly

variable {stale : List UpstreamSubscription} {subscription : UpstreamSubscription} {id : Id}
  {after : UpstreamManager (σ × List (NativeCall Id)) Id} {calls : List (NativeCall Id)}

/-- One round in which the subscription could not be left. -/
theorem cons_failed (htight : Tight laws.logged logged)
    (hid : logged.active[subscription]? = some id) (hnot : subscription ∉ stale)
    {context : σ × List (NativeCall Id)}
    (hlog : context.2 = logged.context.2 ++ [.leave id false])
    (h : RemovedExactly laws stale { logged with context } after calls) :
    RemovedExactly laws (subscription :: stale) logged after (.leave id false :: calls) where
  tight := h.tight
  log := by
    rw [h.log]
    show context.2 ++ calls = _
    rw [hlog, List.append_assoc, List.singleton_append]
  touched := by
    intro call hcall
    rcases List.mem_cons.mp hcall with rfl | hcall
    · exact ⟨subscription, List.mem_cons_self, id, hid, fun _ h => h⟩
    · obtain ⟨k, hk, hrest⟩ := h.touched call hcall
      exact ⟨k, List.mem_cons_of_mem _ hk, hrest⟩
  stays := by
    intro k hk id' hid'
    rcases List.mem_cons.mp hk with rfl | hk
    · obtain rfl := Option.some.inj (hid.symm.trans hid')
      exact .inl ⟨List.mem_cons_self, (h.others k hnot).trans hid⟩
    · -- the call of this round is about another identifier
      have hother : NativeCall.leave id' false ≠ .leave id false := by
        intro heq
        obtain rfl := (NativeCall.leave.inj heq).1
        exact hnot (htight.injective hid hid' ▸ hk)
      rw [List.mem_cons, or_iff_right hother]
      exact h.stays k hk id' hid'
  others := by
    intro k hk
    rw [List.mem_cons, not_or] at hk
    exact h.others k hk.2

/-- One round in which the subscription was left. -/
theorem cons_left (htight : Tight laws.logged logged)
    (hid : logged.active[subscription]? = some id) (hnot : subscription ∉ stale)
    {context : σ × List (NativeCall Id)}
    (hlog : context.2 = logged.context.2 ++ [.leave id true, .remove id])
    (h : RemovedExactly laws stale
      { logged with context, active := logged.active.erase subscription } after calls) :
    RemovedExactly laws (subscription :: stale) logged after
      (.leave id true :: .remove id :: calls) := by
  have hkept : ∀ {k : UpstreamSubscription} {id' : Id},
      (logged.active.erase subscription)[k]? = some id' → logged.active[k]? = some id' :=
    fun hk => (BTreeMap.getElem?_erase_eq_some_iff.mp hk).2
  have herase : ∀ k : UpstreamSubscription, k ≠ subscription →
      (logged.active.erase subscription)[k]? = logged.active[k]? := by
    intro k hk
    rw [BTreeMap.getElem?_erase_eq, if_neg hk.symm]
  refine ⟨h.tight, ?_, ?_, ?_, ?_⟩
  · rw [h.log]
    show context.2 ++ calls = _
    rw [hlog, List.append_assoc]
    rfl
  · intro call hcall
    rcases List.mem_cons.mp hcall with rfl | hcall
    · exact ⟨subscription, List.mem_cons_self, id, hid, fun _ h => h⟩
    · rcases List.mem_cons.mp hcall with rfl | hcall
      · exact ⟨subscription, List.mem_cons_self, id, hid, fun _ h => h⟩
      · obtain ⟨k, hk, id', hid', honly⟩ := h.touched call hcall
        exact ⟨k, List.mem_cons_of_mem _ hk, id', hkept hid', honly⟩
  · intro k hk id' hid'
    have hcalls : NativeCall.leave id' false ∈ .leave id true :: .remove id :: calls ↔
        .leave id' false ∈ calls := by simp
    rw [hcalls]
    rcases List.mem_cons.mp hk with rfl | hstale
    · obtain rfl := Option.some.inj (hid.symm.trans hid')
      refine .inr ⟨?_, ?_⟩
      · -- the rest of the loop is about other identifiers
        intro hcall
        obtain ⟨k', hk', other, hother, honly⟩ := h.touched _ hcall
        rw [honly id rfl] at hother
        exact hnot (htight.injective hid (hkept hother) ▸ hk')
      · rw [h.others k hnot]
        exact (BTreeMap.getElem?_erase_eq _ _ _).trans (if_pos rfl)
    · have hne : k ≠ subscription := by
        rintro rfl
        exact hnot hstale
      exact h.stays k hstale id' ((herase k hne).trans hid')
  · intro k hk
    rw [List.mem_cons, not_or] at hk
    exact (h.others k hk.2).trans (herase k hk.1)

end RemovedExactly

/-- **The second loop, exactly**, with its counts. -/
theorem removeStale_exact (stale : List UpstreamSubscription) :
    ∀ (logged : UpstreamManager (σ × List (NativeCall Id)) Id) (removed failedRemovals : ℕ),
      Tight laws.logged logged → stale.Nodup →
      (∀ k ∈ stale, ∃ id, logged.active[k]? = some id) →
      ∃ after calls, RemovedExactly laws stale logged after calls ∧
        (∀ id, .leave id false ∈ calls → ∃ s, (native.leave s id).2 ≠ .ok ()) ∧
        removeStale native.logged stale logged removed failedRemovals =
          (after, .ok
            (removed + (stale.filter fun k => after.active[k]?.isNone).length,
              failedRemovals + (stale.filter fun k => after.active[k]?.isSome).length)) := by
  induction stale with
  | nil =>
      intro logged removed failedRemovals htight _ _
      exact ⟨logged, [], ⟨htight, (List.append_nil _).symm, by simp, by simp, fun _ _ => rfl⟩,
        by simp, rfl⟩
  | cons subscription stale ih =>
      intro logged removed failedRemovals htight hnodup hpresent
      obtain ⟨hnot, hnodup⟩ := List.nodup_cons.mp hnodup
      obtain ⟨⟨id, hid⟩, hpresent⟩ := List.forall_mem_cons.mp hpresent
      rw [removeStale, hid]
      obtain ⟨⟨context, result⟩, hleave⟩ : ∃ r, native.logged.leave logged.context id = r :=
        ⟨_, rfl⟩
      obtain ⟨hnative, hlog⟩ := NativeContext.leave_of_logged hleave
      have hheld : laws.held context.1 = laws.held logged.context.1 := by
        have h := laws.held_leave logged.context.1 id
        rwa [hnative] at h
      dsimp only
      rw [hleave]
      cases result with
      | error error =>
          obtain ⟨after, calls, hexact, hfailed, hrun⟩ := ih { logged with context } removed
            (failedRemovals + 1) (htight.withContext hheld) hnodup hpresent
          have hafter : after.active[subscription]? = some id := (hexact.others _ hnot).trans hid
          refine ⟨after, _, hexact.cons_failed htight hid hnot hlog, ?_, ?_⟩
          · intro id' hcall
            rcases List.mem_cons.mp hcall with heq | hcall
            · obtain rfl := (NativeCall.leave.inj heq).1
              exact ⟨logged.context.1, by simp [hnative]⟩
            · exact hfailed id' hcall
          dsimp only
          rw [hrun, List.filter_cons_of_neg (by simp [hafter]),
            List.filter_cons_of_pos (by simp [hafter]), List.length_cons,
            Nat.add_assoc failedRemovals, Nat.add_comm 1]
      | ok _ =>
          have hleft : laws.held (native.logged.remove context id).1 =
              (laws.held logged.context.1).erase id := by
            show laws.held (native.remove context.1 id) = _
            rw [laws.held_remove, hheld]
          have hcalls : (native.logged.remove context id).2 =
              logged.context.2 ++ [.leave id true, .remove id] := by
            show context.2 ++ [.remove id] = _
            rw [hlog, List.append_assoc]
            rfl
          have hrest : ∀ k ∈ stale, ∃ id', (logged.active.erase subscription)[k]? = some id' := by
            intro k hk
            obtain ⟨id', hid'⟩ := hpresent k hk
            refine ⟨id', (BTreeMap.getElem?_erase_eq _ _ _).trans ?_⟩
            rw [if_neg, hid']
            rintro rfl
            exact hnot hk
          obtain ⟨after, calls, hexact, hfailed, hrun⟩ := ih _ (removed + 1) failedRemovals
            (htight.erase hid hleft) hnodup hrest
          have hafter : after.active[subscription]? = none := by
            rw [hexact.others _ hnot]
            exact (BTreeMap.getElem?_erase_eq _ _ _).trans (if_pos rfl)
          refine ⟨after, _, hexact.cons_left htight hid hnot hcalls, ?_, ?_⟩
          · intro id' hcall
            exact hfailed id' (by simpa using hcall)
          dsimp only
          rw [hrun, List.filter_cons_of_pos (by simp [hafter]),
            List.filter_cons_of_neg (by simp [hafter]), List.length_cons,
            Nat.add_assoc removed, Nat.add_comm 1]

/-! ## Reconciliation -/

theorem AddingExactly.length_added {subscriptions added : List UpstreamSubscription}
    (h : AddingExactly laws manager.active
      (ExtTreeSet.ofList subscriptions compare).toList logged added) :
    added.length = (manager.missing subscriptions).length := by
  refine (List.perm_ext_iff_of_nodup h.nodup ((List.nodup_dedup _).filter _)).mpr
    (fun k => ?_) |>.length_eq
  rw [h.mem_added_iff, ExtTreeSet.mem_toList, BTreeSet.mem_ofList_iff, List.mem_filter,
    List.mem_dedup, Option.isNone_iff_eq_none]

/-- What a reconciliation makes of the table: it fails and changes nothing, or the table has
what was asked for and the stale subscriptions that could not be left. -/
def Reconciled (manager : UpstreamManager σ Id) (subscriptions : List UpstreamSubscription)
    (calls : List (NativeCall Id)) (active : BTreeMap UpstreamSubscription Id)
    (outcome : Outcome ε UpstreamReconcile) : Prop :=
  (∃ error, outcome = .err error ∧ active = manager.active) ∨
    (outcome = .ok
        { added := (manager.missing subscriptions).length
          removed := ((manager.stale subscriptions).filter fun k => active[k]?.isNone).length
          failedRemovals :=
            ((manager.stale subscriptions).filter fun k => active[k]?.isSome).length
          active := active.size } ∧
      (∀ k ∈ subscriptions, ∃ id, active[k]? = some id) ∧
      ∀ k : UpstreamSubscription, k ∉ subscriptions → ∀ id, active[k]? = some id ↔
        manager.active[k]? = some id ∧ NativeCall.leave id false ∈ calls)

section Loops

variable {subscriptions added : List UpstreamSubscription}
  {after : UpstreamManager (σ × List (NativeCall Id)) Id} {calls : List (NativeCall Id)}
  (hadded : AddingExactly laws manager.active (ExtTreeSet.ofList subscriptions compare).toList
    logged added)
  (hremoved : RemovedExactly laws (manager.stale subscriptions) logged after calls)

include hremoved in
/-- The second loop leaves what is asked for. -/
theorem RemovedExactly.asked {k : UpstreamSubscription} (hk : k ∈ subscriptions) :
    after.active[k]? = logged.active[k]? :=
  hremoved.others k fun hstale => (mem_stale_iff.mp hstale).2 hk

include hadded hremoved in
/-- **What was there and is asked for** stays, and no call is about it. -/
theorem untouched_of_asked {k : UpstreamSubscription} (hk : k ∈ subscriptions) {id : Id}
    (hid : manager.active[k]? = some id) :
    after.active[k]? = some id ∧ ∀ call ∈ after.context.2, ¬ call.Touches id := by
  have hkept := hadded.adding.kept k id hid
  refine ⟨(hremoved.asked hk).trans hkept, fun call hcall htouches => ?_⟩
  rw [hremoved.log] at hcall
  rcases List.mem_append.mp hcall with hcall | hcall
  · exact hadded.spares call hcall k id hid htouches
  · obtain ⟨k', hk', id', hid', honly⟩ := hremoved.touched call hcall
    rw [honly id htouches] at hid'
    exact (mem_stale_iff.mp hk').2 (hadded.tight.injective hkept hid' ▸ hk)

include hadded hremoved in
/-- **What is not asked for** is there exactly if it was, and could not be left. -/
theorem remains_iff {k : UpstreamSubscription} (hk : k ∉ subscriptions) (id : Id) :
    after.active[k]? = some id ↔
      manager.active[k]? = some id ∧ NativeCall.leave id false ∈ after.context.2 := by
  rw [hremoved.log, List.mem_append]
  constructor
  · intro hid
    by_cases hstale : k ∈ manager.stale subscriptions
    · obtain ⟨⟨old, hold⟩, -⟩ := mem_stale_iff.mp hstale
      rcases hremoved.stays k hstale old (hadded.adding.kept k old hold) with
        ⟨hcall, hstays⟩ | ⟨-, hgone⟩
      · obtain rfl := Option.some.inj (hid.symm.trans hstays)
        exact ⟨hold, .inr hcall⟩
      · rw [hgone] at hid
        cases hid
    · -- neither stale nor asked for: it was never in the table
      have hnew : k ∉ added := by
        intro hmem
        have hdesired := ((hadded.mem_added_iff k).mp hmem).1
        exact hk (BTreeSet.mem_ofList_iff.mp (ExtTreeSet.mem_toList.mp hdesired))
      rw [hremoved.others k hstale, hadded.adding.addedTo.kept k hnew] at hid
      exact absurd (mem_stale_iff.mpr ⟨⟨id, hid⟩, hk⟩) hstale
  · rintro ⟨hid, hcall⟩
    have hstale : k ∈ manager.stale subscriptions := mem_stale_iff.mpr ⟨⟨id, hid⟩, hk⟩
    rcases hcall with hcall | hcall
    · exact absurd rfl (hadded.spares _ hcall k id hid)
    · rcases hremoved.stays k hstale id (hadded.adding.kept k id hid) with
        ⟨-, hstays⟩ | ⟨hnot, -⟩
      · exact hstays
      · exact absurd hcall hnot

end Loops

/-- Both loops together, on the logged context. -/
theorem reconcile_logged_exact (h : Tight laws manager)
    (subscriptions : List UpstreamSubscription) :
    ∃ after outcome, reconcile native.logged manager.withLog subscriptions = (after, outcome) ∧
      Tight laws.logged after ∧
      (∀ k ∈ subscriptions, ∀ id, manager.active[k]? = some id →
        after.active[k]? = some id ∧ ∀ call ∈ after.context.2, ¬ call.Touches id) ∧
      Reconciled manager subscriptions after.context.2 after.active outcome ∧
      ∀ (k : UpstreamSubscription) (id : Id), manager.active[k]? = some id →
        .leave id false ∈ after.context.2 → ∃ s, (native.leave s id).2 ≠ .ok () := by
  obtain ⟨⟨logged, result⟩, hadd⟩ : ∃ r, addMissing native.logged
    (ExtTreeSet.ofList subscriptions compare).toList manager.withLog [] = r := ⟨_, rfl⟩
  have hexact := addMissing_exact h (ExtTreeSet.ofList subscriptions compare).toList
  simp only [reconcile, hadd] at hexact ⊢
  rw [show manager.withLog.active = manager.active from rfl, stale_eq]
  rcases hexact with ⟨error, rfl, hactive, htight, hspares⟩ | ⟨added, rfl, hadded⟩
  · refine ⟨logged, .err error, rfl, htight, fun k _ id hid => ⟨hactive ▸ hid, ?_⟩,
      .inl ⟨error, rfl, hactive⟩, fun k id hid hcall => absurd rfl (hspares _ hcall k id hid)⟩
    exact fun call hcall => hspares call hcall k id hid
  · have hpresent : ∀ k ∈ manager.stale subscriptions, ∃ id, logged.active[k]? = some id := by
      intro k hk
      obtain ⟨⟨id, hid⟩, -⟩ := mem_stale_iff.mp hk
      exact ⟨id, hadded.adding.kept k id hid⟩
    obtain ⟨after, calls, hremoved, hfailed, hrun⟩ := removeStale_exact
      (manager.stale subscriptions) logged 0 0 hadded.tight
      ((BTreeMap.keys_nodup manager.active).filter _) hpresent
    refine ⟨after, _, by dsimp only; rw [hrun], hremoved.tight,
      fun k hk id hid => untouched_of_asked hadded hremoved hk hid, .inr ⟨?_, ?_, ?_⟩, ?_⟩
    · rw [hadded.length_added, Nat.zero_add, Nat.zero_add]
    · intro k hk
      obtain ⟨id, hid⟩ := hadded.adding.bound k
        (ExtTreeSet.mem_toList.mpr (BTreeSet.mem_ofList_iff.mpr hk))
      exact ⟨id, (hremoved.asked hk).trans hid⟩
    · exact fun k hk id => remains_iff hadded hremoved hk id
    · intro k id hid hcall
      rw [hremoved.log] at hcall
      rcases List.mem_append.mp hcall with hcall | hcall
      · exact absurd rfl (hadded.spares _ hcall k id hid)
      · exact hfailed id hcall

/-- Both loops together. -/
theorem Tight.reconcile (h : Tight laws manager) (subscriptions : List UpstreamSubscription) :
    Tight laws (reconcile native manager subscriptions).1 ∧
      (∀ k ∈ subscriptions, ∀ id, manager.active[k]? = some id →
        (UpstreamManager.reconcile native manager subscriptions).1.active[k]? = some id ∧
        ∀ call ∈ reconcileCalls native manager subscriptions, ¬ call.Touches id) ∧
      Reconciled manager subscriptions (reconcileCalls native manager subscriptions)
        (UpstreamManager.reconcile native manager subscriptions).1.active
        (UpstreamManager.reconcile native manager subscriptions).2 ∧
      ∀ (k : UpstreamSubscription) (id : Id), manager.active[k]? = some id →
        .leave id false ∈ reconcileCalls native manager subscriptions →
          ∃ s, (native.leave s id).2 ≠ .ok () := by
  obtain ⟨hforget, hresult⟩ := reconcile_logged native manager.withLog subscriptions
  obtain ⟨after, outcome, hrun, htight, hkept, hreconciled, hfailed⟩ :=
    reconcile_logged_exact h subscriptions
  rw [hrun] at hforget hresult
  have hplain : UpstreamManager.reconcile native manager subscriptions = (after.forget, outcome) :=
    Prod.ext hforget.symm hresult.symm
  rw [reconcileCalls, hrun, hplain]
  exact ⟨⟨htight.mem_held_iff, htight.injective⟩, hkept, hreconciled, hfailed⟩

/-- **Reconciliation, exactly.**  The table of a new manager and its context agree, and a
reconciliation keeps that, whatever fails and whatever it returns: the context holds the
identifiers of the table and no other.  Subscriptions that were there and are asked for keep
their identifiers, and no call is about them.  If it fails, the table is what it was; if it
succeeds, the table lists what was asked for and, of the stale subscriptions, those for which
leaving failed, and the four counts are exact. -/
theorem reconcile_exact (laws : ExactLaws native) :
    (∀ config context, laws.held context = ∅ → Tight laws (new config context)) ∧
    ∀ manager : UpstreamManager σ Id, Tight laws manager → ∀ subscriptions,
      Tight laws (reconcile native manager subscriptions).1 ∧
      (∀ k ∈ subscriptions, ∀ id, manager.active[k]? = some id →
        (reconcile native manager subscriptions).1.active[k]? = some id ∧
        ∀ call ∈ reconcileCalls native manager subscriptions, ¬ call.Touches id) ∧
      Reconciled manager subscriptions (reconcileCalls native manager subscriptions)
        (reconcile native manager subscriptions).1.active
        (reconcile native manager subscriptions).2 := by
  refine ⟨fun config _ h => tight_new laws config h, fun manager h subscriptions => ?_⟩
  obtain ⟨htight, hkept, hreconciled, -⟩ := h.reconcile subscriptions
  exact ⟨htight, hkept, hreconciled⟩

/-! ## A bounded context -/

/-- The context holds one subscription for each entry of the table. -/
theorem Tight.card_held (h : Tight laws manager) :
    (laws.held manager.context).card = manager.active.size := by
  have hheld : laws.held manager.context = (manager.active.toList.map Prod.snd).toFinset := by
    ext id
    rw [h.mem_held_iff, List.mem_toFinset, List.mem_map]
    constructor
    · rintro ⟨k, hk⟩
      exact ⟨(k, id), BTreeMap.mem_toList_iff.mpr hk, rfl⟩
    · rintro ⟨⟨k, _⟩, hk, rfl⟩
      exact ⟨k, BTreeMap.mem_toList_iff.mp hk⟩
  have hnodup : (manager.active.toList.map Prod.snd).Nodup := by
    refine (List.nodup_map_iff_inj_on (BTreeMap.toList_nodup manager.active)).mpr ?_
    rintro ⟨k, id⟩ hk ⟨k', id'⟩ hk' heq
    obtain rfl : id = id' := heq
    rw [h.injective (BTreeMap.mem_toList_iff.mp hk) (BTreeMap.mem_toList_iff.mp hk')]
  rw [hheld, List.toFinset_card_of_nodup hnodup, List.length_map,
    Std.ExtTreeMap.length_toList]

/-- The context has room for `n` subscriptions, and nothing else fails. -/
structure BoundedLaws (laws : ExactLaws native) (n : ℕ) : Prop where
  add_fails_iff : ∀ (s : σ) (config : RawSubscriptionConfig),
    (∃ error, (native.add s config).2 = .error error) ↔ (laws.held s).card = n
  join_ok : ∀ (s : σ) (id : Id), (native.join s id).2 = .ok ()
  leave_ok : ∀ (s : σ) (id : Id), (native.leave s id).2 = .ok ()

/-- The first loop in a bounded context: the table never grows beyond the bound. -/
structure AddingWithin (laws : ExactLaws native) (n : ℕ) (manager : UpstreamManager σ Id)
    (subscriptions done : List UpstreamSubscription) (grown : UpstreamManager σ Id)
    (added : List UpstreamSubscription) : Prop where
  adding : Adding manager.active done grown added
  tight : Tight laws grown
  within : grown.active.size ≤ n
  listed : ∀ k id, grown.active[k]? = some id → k ∈ manager.together subscriptions

namespace AddingWithin

variable {n : ℕ} {subscriptions done added : List UpstreamSubscription}
  {grown : UpstreamManager σ Id} {subscription : UpstreamSubscription}

/-- **The context is full**, and there is one more to come. -/
theorem lt_card_together (h : AddingWithin laws n manager subscriptions done grown added)
    (bounded : BoundedLaws laws n) (hmem : subscription ∈ subscriptions)
    (hnone : grown.active[subscription]? = none) {config : RawSubscriptionConfig} {context : σ}
    {error : ε} (hadd : native.add grown.context config = (context, .error error)) :
    n < (manager.together subscriptions).card := by
  have hfull : grown.active.size = n := by
    rw [← h.tight.card_held]
    exact (bounded.add_fails_iff _ _).mp ⟨error, congrArg Prod.snd hadd⟩
  have hnot : subscription ∉ grown.active.keys.toFinset := by
    rw [List.mem_toFinset, BTreeMap.mem_keys_iff_exists, hnone]
    rintro ⟨id, hid⟩
    cases hid
  calc n < n + 1 := Nat.lt_succ_self n
    _ = (Insert.insert subscription grown.active.keys.toFinset).card := by
      rw [Finset.card_insert_of_notMem hnot, card_keys, hfull]
    _ ≤ (manager.together subscriptions).card := by
      refine Finset.card_le_card (Finset.insert_subset (mem_together_iff.mpr (.inr hmem)) ?_)
      intro k hk
      rw [List.mem_toFinset, BTreeMap.mem_keys_iff_exists] at hk
      obtain ⟨id, hid⟩ := hk
      exact h.listed k id hid

/-- **There is room** for a subscription that was added. -/
theorem insert (h : AddingWithin laws n manager subscriptions done grown added)
    (bounded : BoundedLaws laws n) (hmem : subscription ∈ subscriptions)
    (hnone : grown.active[subscription]? = none) {config : RawSubscriptionConfig}
    {context context' : σ} {id : Id} (hadd : native.add grown.context config = (context, .ok id))
    (hjoin : native.join context id = (context', .ok ())) :
    AddingWithin laws n manager subscriptions (done ++ [subscription])
      { grown with context := context', active := grown.active.insert subscription id }
      (added ++ [subscription]) := by
  have hheld := laws.held_join context id
  rw [hjoin] at hheld
  have hroom : grown.active.size ≠ n := by
    rw [← h.tight.card_held, Ne, ← bounded.add_fails_iff _ config, hadd]
    rintro ⟨error, herror⟩
    cases herror
  have hnot : ¬ grown.active.contains subscription = true := by
    rw [Std.ExtTreeMap.contains_eq_isSome_getElem?, hnone]
    exact Bool.false_ne_true
  refine ⟨h.adding.insert hnone context' id,
    h.tight.insert hnone (laws.fresh_of_add hadd) (hheld.trans (laws.held_of_add hadd)), ?_, ?_⟩
  · have hwithin := h.within
    show (grown.active.insert subscription id).size ≤ n
    rw [Std.ExtTreeMap.size_insert, if_neg hnot]
    omega
  · intro k id' hk
    dsimp only at hk
    rw [BTreeMap.getElem?_insert_eq] at hk
    split at hk
    · rename_i heq
      exact mem_together_iff.mpr (.inr (heq ▸ hmem))
    · exact h.listed k id' hk

end AddingWithin

/-- **The first loop in a bounded context** fails only if old and new subscriptions together
do not fit. -/
theorem addMissing_bounded {n : ℕ} (bounded : BoundedLaws laws n) (h : Tight laws manager)
    (hactive : manager.active.size ≤ n) (subscriptions : List UpstreamSubscription) :
    (∃ error, (addMissing native (ExtTreeSet.ofList subscriptions compare).toList manager []).2
        = .error error ∧ n < (manager.together subscriptions).card) ∨
    ∃ added, (addMissing native (ExtTreeSet.ofList subscriptions compare).toList manager []).2
        = .ok added ∧
      AddingWithin laws n manager subscriptions (ExtTreeSet.ofList subscriptions compare).toList
        (addMissing native (ExtTreeSet.ofList subscriptions compare).toList manager []).1
        added := by
  refine addMissing_rule (P := fun k => k ∈ subscriptions)
    (I := AddingWithin laws n manager subscriptions)
    (E := fun _ => n < (manager.together subscriptions).card) native ?_ ?_ ?_ ?_ _ [] manager []
    (fun k hk => BTreeSet.mem_ofList_iff.mp (ExtTreeSet.mem_toList.mp hk)) ?_
  · intro done m added subscription id h _ hid
    exact ⟨h.adding.skip hid, h.tight, h.within, h.listed⟩
  · intro done m added subscription context error h hmem hnone hadd
    exact h.lt_card_together bounded hmem hnone hadd
  · intro done m added subscription context context' id error h _ _ hadd hjoin
    have hok := bounded.join_ok context id
    rw [hjoin] at hok
    cases hok
  · intro done m added subscription context context' id h hmem hnone hadd hjoin
    exact h.insert bounded hmem hnone hadd hjoin
  · exact ⟨adding_start manager, h, hactive,
      fun k id hk => mem_together_iff.mpr (.inl ⟨id, hk⟩)⟩

/-- **What a bounded context installs.**  With room for `n` subscriptions and at most `n` of
them active, a desired set is installed exactly if the active and the desired subscriptions
together are at most `n`: the new ones are added before the stale ones are left. -/
theorem reconcile_installs_iff {n : ℕ} (laws : ExactLaws native) (bounded : BoundedLaws laws n)
    {manager : UpstreamManager σ Id} (h : Tight laws manager) (hactive : manager.active.size ≤ n)
    (subscriptions : List UpstreamSubscription) :
    ((∃ changes, (reconcile native manager subscriptions).2 = .ok changes) ∧
      ∀ k, (∃ id, (reconcile native manager subscriptions).1.active[k]? = some id) ↔
        k ∈ subscriptions) ↔
    (manager.together subscriptions).card ≤ n := by
  have hok := reconcile_ok_iff native manager subscriptions
  rcases addMissing_bounded bounded h hactive subscriptions with
    ⟨error, herror, hcard⟩ | ⟨added, hadded, hwithin⟩
  · refine iff_of_false ?_ (not_le.mpr hcard)
    rintro ⟨hchanges, -⟩
    obtain ⟨added, hadded⟩ := hok.mp hchanges
    rw [herror] at hadded
    cases hadded
  · obtain ⟨changes, hchanges⟩ := hok.mpr ⟨added, hadded⟩
    obtain ⟨-, -, hreconciled, hfailed⟩ := h.reconcile subscriptions
    rw [hchanges] at hreconciled
    obtain ⟨error, herror, -⟩ | ⟨-, hbound, hothers⟩ := hreconciled
    · cases herror
    refine iff_of_true ⟨⟨changes, hchanges⟩, fun k => ⟨?_, hbound k⟩⟩ ?_
    · rintro ⟨id, hid⟩
      by_contra hk
      obtain ⟨hold, hcall⟩ := (hothers k hk id).mp hid
      obtain ⟨s, hs⟩ := hfailed k id hold hcall
      exact hs (bounded.leave_ok s id)
    · refine le_trans (Finset.card_le_card ?_) ((card_keys _).trans_le hwithin.within)
      intro k hk
      rw [List.mem_toFinset, BTreeMap.mem_keys_iff_exists]
      rcases mem_together_iff.mp hk with ⟨id, hid⟩ | hk
      · exact ⟨id, hwithin.adding.kept k id hid⟩
      · exact hwithin.adding.bound k
          (ExtTreeSet.mem_toList.mpr (BTreeSet.mem_ofList_iff.mpr hk))

end Tight

/-! ### A context for `n` subscriptions -/

/-- A native context that numbers its subscriptions and has room for `n` of them. -/
def boundedPool (n : ℕ) : NativeContext (Finset ℕ) ℕ Unit where
  add s _ :=
    if s.card = n then (s, .error ())
    else (insert (s.sup id + 1) s, .ok (s.sup id + 1))
  join s _ := (s, .ok ())
  leave s _ := (s, .ok ())
  remove s id := s.erase id

theorem sup_add_one_notMem (s : Finset ℕ) : s.sup id + 1 ∉ s := by
  intro hmem
  have hle : s.sup id + 1 ≤ s.sup id := Finset.le_sup (f := id) hmem
  omega

theorem boundedPool_add_ok {n id : ℕ} {s s' : Finset ℕ} {config : RawSubscriptionConfig}
    (h : (boundedPool n).add s config = (s', .ok id)) : id ∉ s ∧ s' = insert id s := by
  simp only [boundedPool] at h
  split at h
  · cases h
  · cases h
    exact ⟨sup_add_one_notMem s, rfl⟩

theorem boundedPool_add_error {n : ℕ} {s s' : Finset ℕ} {config : RawSubscriptionConfig}
    {error : Unit} (h : (boundedPool n).add s config = (s', .error error)) : s' = s := by
  simp only [boundedPool] at h
  split at h
  · cases h
    rfl
  · cases h

/-- The bounded pool keeps the laws. -/
def boundedPoolLaws (n : ℕ) : ExactLaws (boundedPool n) where
  held s := s
  fresh_of_add h := (boundedPool_add_ok h).1
  held_of_add h := (boundedPool_add_ok h).2
  held_of_add_error h := boundedPool_add_error h
  held_join _ _ := rfl
  held_leave _ _ := rfl
  held_remove _ _ := rfl

theorem boundedLaws_boundedPool (n : ℕ) : BoundedLaws (boundedPoolLaws n) n where
  add_fails_iff s config := by
    simp only [boundedPool, boundedPoolLaws]
    split
    · exact iff_of_true ⟨(), rfl⟩ ‹_›
    · refine iff_of_false ?_ ‹_›
      rintro ⟨error, herror⟩
      cases herror
  join_ok _ _ := rfl
  leave_ok _ _ := rfl

def oldGroup : UpstreamSubscription := .asm (.v4 (.new 239 1 1 1))

def newGroup : UpstreamSubscription := .asm (.v4 (.new 239 1 1 2))

/-- A manager that has installed one subscription in a context for `n` of them. -/
def oneInstalled (n : ℕ) : UpstreamManager (Finset ℕ) ℕ :=
  (reconcile (boundedPool n) (new .default ∅) [oldGroup]).1

theorem tight_oneInstalled (n : ℕ) : Tight (boundedPoolLaws n) (oneInstalled n) :=
  ((tight_new (boundedPoolLaws n) .default rfl).reconcile [oldGroup]).1

/-- A full context refuses a new subscription although the old one is to be released. -/
theorem reconcile_refuses_replacement :
    (oneInstalled 1).active.keys = [oldGroup] ∧ [newGroup].length ≤ 1 ∧
      (reconcile (boundedPool 1) (oneInstalled 1) [newGroup]).2 = .err () ∧
      (reconcile (boundedPool 1) (oneInstalled 1) [newGroup]).1.active.keys = [oldGroup] := by
  decide +kernel

/-- With room for one more, the same replacement is installed. -/
theorem reconcile_installs_replacement :
    ((oneInstalled 2).together [newGroup]).card ≤ 2 ∧
      (∃ changes, (reconcile (boundedPool 2) (oneInstalled 2) [newGroup]).2 = .ok changes) ∧
      ∀ k, (∃ id, (reconcile (boundedPool 2) (oneInstalled 2) [newGroup]).1.active[k]? = some id) ↔
        k ∈ [newGroup] := by
  have hcard : ((oneInstalled 2).together [newGroup]).card ≤ 2 := by decide +kernel
  have hactive : (oneInstalled 2).active.size ≤ 2 := by decide +kernel
  exact ⟨hcard, (reconcile_installs_iff (boundedPoolLaws 2) (boundedLaws_boundedPool 2)
    (tight_oneInstalled 2) hactive [newGroup]).mpr hcard⟩

/-- A reconciliation that fails leaks nothing. -/
theorem reconcile_exact_refused :
    (reconcile (boundedPool 1) (oneInstalled 1) [oldGroup, newGroup]).2 = .err () ∧
      Tight (boundedPoolLaws 1)
        (reconcile (boundedPool 1) (oneInstalled 1) [oldGroup, newGroup]).1 := by
  refine ⟨by decide +kernel, ?_⟩
  exact ((reconcile_exact (boundedPoolLaws 1)).2 (oneInstalled 1) (tight_oneInstalled 1)
    [oldGroup, newGroup]).1

end UpstreamManager

end Amt

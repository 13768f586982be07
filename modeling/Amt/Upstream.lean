import Amt.State

/-!
# Native upstream subscriptions

The relay captures the traffic its gateways want through native multicast subscriptions.
`UpstreamManager` keeps a table of the ones it holds and reconciles it with a desired
set: first every missing subscription is added and joined, and only when all of them are
there, the stale ones are left.

* **The native context is a parameter.**  `NativeContext` has the four operations the
  manager uses, over an arbitrary state: each may succeed or fail at any point, as that
  state decides.  What the documentation of the native library promises is stated apart,
  as `NativeLaws`.
* **All or nothing** (`reconcile_cases`).  A reconciliation that fails leaves the table as
  it was: what it added is rolled back, and nothing was left yet.  One that succeeds has
  everything that was asked for in the table, whichever stale subscriptions could not be
  left.  The loop that adds has an invariant rule (`addMissing_rule`); its statements about
  the table and about the native context are both instances of it.
* **The table is sound** (`Sound`): what it lists is joined natively.  Every native call
  the manager makes keeps that, so a reconciliation keeps it even when it fails half way
  (`Sound.reconcile`).
-/

namespace Amt

open Std (ExtTreeSet)

/-! ## Configuration and results -/

/-- The interface to capture on, if one is chosen. -/
structure UpstreamConfig where
  interface : Option IpAddr
  interfaceIndex : Option UInt32
deriving DecidableEq, Repr

def UpstreamConfig.default : UpstreamConfig := ⟨none, none⟩

/-- What a reconciliation has done. -/
structure UpstreamReconcile where
  added : ℕ
  removed : ℕ
  failedRemovals : ℕ
  active : ℕ
deriving DecidableEq, Repr

inductive SourceFilter where
  | any
  | source (address : IpAddr)
deriving DecidableEq, Repr

/-- A subscription in the terms of the native library. -/
structure RawSubscriptionConfig where
  group : IpAddr
  source : SourceFilter
  interface : Option IpAddr
  interfaceIndex : Option UInt32
deriving DecidableEq, Repr

/-- The interface, if it is of the family of the group. -/
def matchingFamily : Option IpAddr → IpAddr → Option IpAddr
  | some (.v4 addr), .v4 _ => some (.v4 addr)
  | some (.v6 addr), .v6 _ => some (.v6 addr)
  | _, _ => none

/-! ## The native context -/

/-- The operations of the native receive context, over its own state, subscription
identifiers and errors. -/
structure NativeContext (σ Id ε : Type*) where
  add : σ → RawSubscriptionConfig → σ × Except ε Id
  join : σ → Id → σ × Except ε Unit
  leave : σ → Id → σ × Except ε Unit
  remove : σ → Id → σ

variable {σ Id ε : Type*}

/-- What the native library promises: an identifier is not handed out while it is in
use, and a subscription that was joined stays joined until it is left or removed. -/
structure NativeLaws (native : NativeContext σ Id ε) where
  /-- Added, and not removed since. -/
  Held : σ → Id → Prop
  /-- Joined: it receives. -/
  Joined : σ → Id → Prop
  not_held_of_add : ∀ {s s' : σ} {config : RawSubscriptionConfig} {id : Id},
    native.add s config = (s', .ok id) → ¬ Held s id
  held_of_add : ∀ {s s' : σ} {config : RawSubscriptionConfig} {id : Id},
    native.add s config = (s', .ok id) → Held s' id
  held_add : ∀ {s : σ} {id : Id} (config : RawSubscriptionConfig),
    Held s id → Held (native.add s config).1 id
  held_join : ∀ {s : σ} {id : Id} (other : Id), Held s id → Held (native.join s other).1 id
  held_leave : ∀ {s : σ} {id : Id} (other : Id), Held s id → Held (native.leave s other).1 id
  held_remove : ∀ {s : σ} {id other : Id}, id ≠ other → Held s id → Held (native.remove s other) id
  joined_of_join : ∀ {s s' : σ} {id : Id}, native.join s id = (s', .ok ()) → Joined s' id
  joined_add : ∀ {s : σ} {id : Id} (config : RawSubscriptionConfig),
    Joined s id → Joined (native.add s config).1 id
  joined_join : ∀ {s : σ} {id : Id} (other : Id), Joined s id → Joined (native.join s other).1 id
  joined_leave : ∀ {s : σ} {id other : Id}, id ≠ other → Joined s id →
    Joined (native.leave s other).1 id
  joined_leave_err : ∀ {s s' : σ} {id other : Id} {error : ε},
    native.leave s other = (s', .error error) → Joined s id → Joined s' id
  joined_remove : ∀ {s : σ} {id other : Id}, id ≠ other → Joined s id →
    Joined (native.remove s other) id

/-! ## The manager -/

/-- The native context, and the subscriptions it holds. -/
structure UpstreamManager (σ Id : Type*) where
  config : UpstreamConfig
  context : σ
  active : BTreeMap UpstreamSubscription Id

namespace UpstreamManager

/-- A manager without subscriptions, on a native context that could be opened. -/
def new (config : UpstreamConfig) (context : σ) : UpstreamManager σ Id := ⟨config, context, ∅⟩

/-- An interface index is only for IPv6. -/
def rawConfigFor (manager : UpstreamManager σ Id) (subscription : UpstreamSubscription) :
    RawSubscriptionConfig where
  group := subscription.group
  source := subscription.source.elim .any .source
  interface := matchingFamily manager.config.interface subscription.group
  interfaceIndex :=
    match subscription.group with
    | .v6 _ => manager.config.interfaceIndex
    | .v4 _ => none

section Reconcile

variable (native : NativeContext σ Id ε)

/-- One iteration of `rollback_additions`. -/
def rollbackAddition (manager : UpstreamManager σ Id) (subscription : UpstreamSubscription) :
    UpstreamManager σ Id :=
  match manager.active[subscription]? with
  | none => manager
  | some id =>
      { manager with
        active := manager.active.erase subscription
        context := native.remove (native.leave manager.context id).1 id }

/-- Take back the additions, the last one first. -/
def rollbackAdditions (manager : UpstreamManager σ Id)
    (subscriptions : List UpstreamSubscription) : UpstreamManager σ Id :=
  subscriptions.reverse.foldl (rollbackAddition native) manager

/-- The first loop of `reconcile`: add and join what is missing; `newSubscriptions` is
what was added so far. -/
def addMissing : List UpstreamSubscription → UpstreamManager σ Id → List UpstreamSubscription →
    UpstreamManager σ Id × Except ε (List UpstreamSubscription)
  | [], manager, newSubscriptions => (manager, .ok newSubscriptions)
  | subscription :: desired, manager, newSubscriptions =>
      if manager.active.contains subscription then addMissing desired manager newSubscriptions
      else
        match native.add manager.context (manager.rawConfigFor subscription) with
        | (context, .error error) =>
            (rollbackAdditions native { manager with context } newSubscriptions, .error error)
        | (context, .ok id) =>
            match native.join context id with
            | (context, .error error) =>
                (rollbackAdditions native { manager with context := native.remove context id }
                  newSubscriptions, .error error)
            | (context, .ok ()) =>
                addMissing desired
                  { manager with context, active := manager.active.insert subscription id }
                  (newSubscriptions ++ [subscription])

/-- The second loop of `reconcile`: leave what is stale.  The counts are those of the
removed subscriptions and of the ones that could not be left. -/
def removeStale : List UpstreamSubscription → UpstreamManager σ Id → ℕ → ℕ →
    UpstreamManager σ Id × Outcome ε (ℕ × ℕ)
  | [], manager, removed, failedRemovals => (manager, .ok (removed, failedRemovals))
  | subscription :: stale, manager, removed, failedRemovals =>
      match manager.active[subscription]? with
      | none => (manager, .panic)
      | some id =>
          match native.leave manager.context id with
          | (context, .error _) =>
              removeStale stale { manager with context } removed (failedRemovals + 1)
          | (context, .ok ()) =>
              removeStale stale
                { manager with
                  context := native.remove context id
                  active := manager.active.erase subscription }
                (removed + 1) failedRemovals

/-- Add before removing, so that a failed addition leaves the old subscriptions. -/
def reconcile (manager : UpstreamManager σ Id) (subscriptions : List UpstreamSubscription) :
    UpstreamManager σ Id × Outcome ε UpstreamReconcile :=
  let desired : BTreeSet UpstreamSubscription := ExtTreeSet.ofList subscriptions compare
  let stale := manager.active.keys.filter fun subscription => !desired.contains subscription
  match addMissing native desired.toList manager [] with
  | (manager, .error error) => (manager, .err error)
  | (manager, .ok newSubscriptions) =>
      match removeStale native stale manager 0 0 with
      | (manager, .err error) => (manager, .err error)
      | (manager, .panic) => (manager, .panic)
      | (manager, .ok (removed, failedRemovals)) =>
          (manager, .ok
            { added := newSubscriptions.length
              removed, failedRemovals
              active := manager.active.size })

/-! ## The table -/

theorem getElem?_rollbackAddition (manager : UpstreamManager σ Id)
    (subscription k : UpstreamSubscription) :
    (rollbackAddition native manager subscription).active[k]? =
      if subscription = k then none else manager.active[k]? := by
  unfold rollbackAddition
  cases hactive : manager.active[subscription]? with
  | some id => simp
  | none =>
      by_cases hk : subscription = k
      · subst hk
        simp [hactive]
      · simp [hk]

/-- A rollback removes exactly what it is given. -/
theorem getElem?_rollbackAdditions (subscriptions : List UpstreamSubscription)
    (k : UpstreamSubscription) : ∀ manager : UpstreamManager σ Id,
      (rollbackAdditions native manager subscriptions).active[k]? =
        if k ∈ subscriptions then none else manager.active[k]? := by
  unfold rollbackAdditions
  induction subscriptions using List.reverseRecOn with
  | nil => intro manager; simp
  | append_singleton subscriptions subscription ih =>
      intro manager
      rw [List.reverse_append, List.reverse_singleton, List.singleton_append, List.foldl_cons, ih,
        getElem?_rollbackAddition]
      by_cases hk : subscription = k
      · simp [hk]
      · simp [hk, Ne.symm hk]

/-- `active` is `base` with bindings for `newSubscriptions`, which `base` lacks. -/
structure AddedTo (base active : BTreeMap UpstreamSubscription Id)
    (newSubscriptions : List UpstreamSubscription) : Prop where
  kept : ∀ k : UpstreamSubscription, k ∉ newSubscriptions → active[k]? = base[k]?
  fresh : ∀ k ∈ newSubscriptions, base[k]? = none

/-- **The rollback restores the table.** -/
theorem AddedTo.active_rollbackAdditions {base : BTreeMap UpstreamSubscription Id}
    {newSubscriptions : List UpstreamSubscription} (manager : UpstreamManager σ Id)
    (h : AddedTo base manager.active newSubscriptions) :
    (rollbackAdditions native manager newSubscriptions).active = base := by
  refine Std.ExtTreeMap.ext_getElem? fun k => ?_
  rw [getElem?_rollbackAdditions]
  by_cases hk : k ∈ newSubscriptions
  · rw [if_pos hk, h.fresh k hk]
  · rw [if_neg hk, h.kept k hk]

theorem AddedTo.insert {base active : BTreeMap UpstreamSubscription Id}
    {newSubscriptions : List UpstreamSubscription} (h : AddedTo base active newSubscriptions)
    {subscription : UpstreamSubscription} (hnone : active[subscription]? = none) (id : Id) :
    AddedTo base (active.insert subscription id) (newSubscriptions ++ [subscription]) := by
  constructor
  · intro k hk
    simp only [List.mem_append, List.mem_singleton, not_or] at hk
    rw [BTreeMap.getElem?_insert_eq, if_neg (Ne.symm hk.2), h.kept k hk.1]
  · intro k hk
    rcases List.mem_append.mp hk with hk | hk
    · exact h.fresh k hk
    · rw [List.mem_singleton] at hk
      subst hk
      by_cases hnew : k ∈ newSubscriptions
      · exact h.fresh k hnew
      · rw [← h.kept k hnew, hnone]

/-- **The invariant rule of the first loop.**  `I` speaks of what was gone through, the
manager and what was added; `E` is what a failure leaves after its rollback.  Both only have
to answer for subscriptions of which `P` holds, as it does of the desired ones. -/
theorem addMissing_rule {P : UpstreamSubscription → Prop}
    {I : List UpstreamSubscription → UpstreamManager σ Id → List UpstreamSubscription → Prop}
    {E : UpstreamManager σ Id → Prop}
    (hskip : ∀ {done manager added subscription id}, I done manager added → P subscription →
      manager.active[subscription]? = some id → I (done ++ [subscription]) manager added)
    (hadd : ∀ {done manager added subscription context error}, I done manager added →
      P subscription → manager.active[subscription]? = none →
      native.add manager.context (manager.rawConfigFor subscription) = (context, .error error) →
      E (rollbackAdditions native { manager with context } added))
    (hjoin : ∀ {done manager added subscription context context' id error}, I done manager added →
      P subscription → manager.active[subscription]? = none →
      native.add manager.context (manager.rawConfigFor subscription) = (context, .ok id) →
      native.join context id = (context', .error error) →
      E (rollbackAdditions native { manager with context := native.remove context' id } added))
    (hinsert : ∀ {done manager added subscription context context' id}, I done manager added →
      P subscription → manager.active[subscription]? = none →
      native.add manager.context (manager.rawConfigFor subscription) = (context, .ok id) →
      native.join context id = (context', .ok ()) →
      I (done ++ [subscription])
        { manager with context := context', active := manager.active.insert subscription id }
        (added ++ [subscription]))
    (desired : List UpstreamSubscription) :
    ∀ done manager added, (∀ k ∈ desired, P k) → I done manager added →
      (∃ error, (addMissing native desired manager added).2 = .error error ∧
        E (addMissing native desired manager added).1) ∨
      ∃ added', (addMissing native desired manager added).2 = .ok added' ∧
        I (done ++ desired) (addMissing native desired manager added).1 added' := by
  induction desired with
  | nil =>
      intro done manager added _ h
      rw [List.append_nil]
      exact .inr ⟨added, rfl, h⟩
  | cons subscription desired ih =>
      intro done manager added hdesired h
      obtain ⟨hsubscription, hdesired⟩ := List.forall_mem_cons.mp hdesired
      rw [addMissing, List.append_cons done subscription desired]
      cases hactive : manager.active[subscription]? with
      | some id =>
          rw [if_pos (by simp [Std.ExtTreeMap.contains_eq_isSome_getElem?, hactive])]
          exact ih _ _ _ hdesired (hskip h hsubscription hactive)
      | none =>
          rw [if_neg (by simp [Std.ExtTreeMap.contains_eq_isSome_getElem?, hactive])]
          cases hcalled : native.add manager.context (manager.rawConfigFor subscription) with
          | mk context result =>
              cases result with
              | error error => exact .inl ⟨error, rfl, hadd h hsubscription hactive hcalled⟩
              | ok id =>
                  cases hjoined : native.join context id with
                  | mk context' result =>
                      dsimp only
                      rw [hjoined]
                      cases result with
                      | error error =>
                          exact .inl ⟨error, rfl, hjoin h hsubscription hactive hcalled hjoined⟩
                      | ok _ =>
                          exact ih _ _ _ hdesired
                            (hinsert h hsubscription hactive hcalled hjoined)

/-- The table in the first loop: what is there was there or is new, what was there is
kept, and what was gone through is there. -/
structure Adding (base : BTreeMap UpstreamSubscription Id) (done : List UpstreamSubscription)
    (manager : UpstreamManager σ Id) (added : List UpstreamSubscription) : Prop where
  addedTo : AddedTo base manager.active added
  kept : ∀ (k : UpstreamSubscription) (id : Id), base[k]? = some id →
    manager.active[k]? = some id
  bound : ∀ k ∈ done, ∃ id, manager.active[k]? = some id

theorem adding_start (manager : UpstreamManager σ Id) : Adding manager.active [] manager [] :=
  ⟨⟨fun _ _ => rfl, by simp⟩, fun _ _ hk => hk, by simp⟩

theorem Adding.skip {base : BTreeMap UpstreamSubscription Id}
    {done added : List UpstreamSubscription} {manager : UpstreamManager σ Id}
    (h : Adding base done manager added) {subscription : UpstreamSubscription} {id : Id}
    (hid : manager.active[subscription]? = some id) :
    Adding base (done ++ [subscription]) manager added := by
  refine ⟨h.addedTo, h.kept, fun k hk => ?_⟩
  rcases List.mem_append.mp hk with hk | hk
  · exact h.bound k hk
  · rw [List.mem_singleton] at hk
    exact ⟨id, hk ▸ hid⟩

theorem Adding.insert {base : BTreeMap UpstreamSubscription Id}
    {done added : List UpstreamSubscription} {manager : UpstreamManager σ Id}
    (h : Adding base done manager added) {subscription : UpstreamSubscription}
    (hnone : manager.active[subscription]? = none) (context : σ) (id : Id) :
    Adding base (done ++ [subscription])
      { manager with context, active := manager.active.insert subscription id }
      (added ++ [subscription]) := by
  have hold : ∀ (k : UpstreamSubscription) (id' : Id), manager.active[k]? = some id' →
      (manager.active.insert subscription id)[k]? = some id' := by
    intro k id' hk
    have hne : subscription ≠ k := by
      rintro rfl
      rw [hnone] at hk
      cases hk
    rw [BTreeMap.getElem?_insert_eq, if_neg hne, hk]
  refine ⟨h.addedTo.insert hnone id, fun k id' hk => hold k id' (h.kept k id' hk), ?_⟩
  intro k hk
  rcases List.mem_append.mp hk with hk | hk
  · obtain ⟨id', hid'⟩ := h.bound k hk
    exact ⟨id', hold k id' hid'⟩
  · rw [List.mem_singleton] at hk
    subst hk
    exact ⟨id, by simp⟩

/-- **The first loop**: it fails and leaves the table it started from, or it has bound
every desired subscription and kept all other bindings. -/
theorem addMissing_cases (desired : List UpstreamSubscription) (manager : UpstreamManager σ Id) :
    (∃ error, (addMissing native desired manager []).2 = .error error ∧
      (addMissing native desired manager []).1.active = manager.active) ∨
    ∃ added, (addMissing native desired manager []).2 = .ok added ∧
      Adding manager.active desired (addMissing native desired manager []).1 added := by
  refine addMissing_rule (P := fun _ => True) (I := Adding manager.active)
    (E := fun m => m.active = manager.active) native ?_ ?_ ?_ ?_ desired [] manager []
    (fun _ _ => trivial) (adding_start manager)
  · intro done m added subscription id h _ hid
    exact h.skip hid
  · intro done m added subscription context error h _ _ _
    exact AddedTo.active_rollbackAdditions native { m with context } h.addedTo
  · intro done m added subscription context context' id error h _ _ _ _
    exact AddedTo.active_rollbackAdditions native
      { m with context := native.remove context' id } h.addedTo
  · intro done m added subscription context context' id h _ hnone _ _
    exact h.insert hnone context' id

/-- **The second loop**: it ends, and touches stale subscriptions only. -/
theorem removeStale_cases (stale : List UpstreamSubscription) :
    ∀ (manager : UpstreamManager σ Id) (removed failedRemovals : ℕ), stale.Nodup →
      (∀ k ∈ stale, ∃ id, manager.active[k]? = some id) →
      (∃ counts, (removeStale native stale manager removed failedRemovals).2 = .ok counts) ∧
        ∀ k : UpstreamSubscription, k ∉ stale →
          (removeStale native stale manager removed failedRemovals).1.active[k]?
            = manager.active[k]? := by
  induction stale with
  | nil =>
      intro manager removed failedRemovals _ _
      exact ⟨⟨_, rfl⟩, fun k _ => rfl⟩
  | cons subscription stale ih =>
      intro manager removed failedRemovals hnodup hpresent
      obtain ⟨hnot, hnodup⟩ := List.nodup_cons.mp hnodup
      obtain ⟨id, hid⟩ := hpresent subscription List.mem_cons_self
      have hrest : ∀ k ∈ stale, ∃ id, manager.active[k]? = some id :=
        fun k hk => hpresent k (List.mem_cons_of_mem _ hk)
      rw [removeStale, hid]
      obtain ⟨⟨context, result⟩, hleave⟩ : ∃ r, native.leave manager.context id = r := ⟨_, rfl⟩
      simp only [hleave]
      cases result with
      | error error =>
          obtain ⟨hok, hkept⟩ :=
            ih { manager with context } removed (failedRemovals + 1) hnodup hrest
          exact ⟨hok, fun k hk => hkept k fun hmem => hk (List.mem_cons_of_mem _ hmem)⟩
      | ok _ =>
          have herase : ∀ k : UpstreamSubscription, k ≠ subscription →
              (manager.active.erase subscription)[k]? = manager.active[k]? := by
            intro k hk
            rw [BTreeMap.getElem?_erase_eq, if_neg hk.symm]
          obtain ⟨hok, hkept⟩ := ih { manager with
              context := native.remove context id
              active := manager.active.erase subscription } (removed + 1) failedRemovals hnodup
            fun k hk => by
              rw [herase k fun heq => hnot (heq ▸ hk)]
              exact hrest k hk
          refine ⟨hok, fun k hk => ?_⟩
          rw [List.mem_cons, not_or] at hk
          exact (hkept k hk.2).trans (herase k hk.1)

/-- **Reconciliation**: it fails and leaves the table as it was, or it returns with every
subscription that was asked for in the table. -/
theorem reconcile_cases (manager : UpstreamManager σ Id)
    (subscriptions : List UpstreamSubscription) :
    (∃ error, (reconcile native manager subscriptions).2 = .err error ∧
      (reconcile native manager subscriptions).1.active = manager.active) ∨
    (∃ changes, (reconcile native manager subscriptions).2 = .ok changes) ∧
      ∀ k ∈ subscriptions, ∃ id,
        (reconcile native manager subscriptions).1.active[k]? = some id := by
  rw [reconcile]
  generalize hdesired : ExtTreeSet.ofList subscriptions compare = desired
  obtain ⟨⟨manager', result⟩, hadd⟩ : ∃ r, addMissing native desired.toList manager [] = r :=
    ⟨_, rfl⟩
  have hcases := addMissing_cases native desired.toList manager
  simp only [hadd] at hcases ⊢
  rcases hcases with ⟨error, rfl, hactive⟩ | ⟨added, rfl, hadding⟩
  · exact .inl ⟨error, rfl, hactive⟩
  · -- The stale list was read off the table before the additions, which keep its keys.
    generalize hstale : (manager.active.keys.filter fun k => !desired.contains k) = stale
    have hpresent : ∀ k ∈ stale, ∃ id, manager'.active[k]? = some id := by
      intro k hk
      rw [← hstale, List.mem_filter] at hk
      obtain ⟨id, hid⟩ := BTreeMap.mem_keys_iff_exists.mp hk.1
      exact ⟨id, hadding.kept k id hid⟩
    have hnodup : stale.Nodup := hstale ▸ (BTreeMap.keys_nodup manager.active).filter _
    obtain ⟨⟨counts, hok⟩, hothers⟩ := removeStale_cases native stale manager' 0 0 hnodup hpresent
    obtain ⟨⟨manager'', result⟩, hremove⟩ : ∃ r, removeStale native stale manager' 0 0 = r :=
      ⟨_, rfl⟩
    rw [hremove] at hok hothers
    subst hok
    refine .inr ⟨by simp [hremove], fun k hk => ?_⟩
    have hmem : k ∈ desired := hdesired ▸ BTreeSet.mem_ofList_iff.mpr hk
    have hfresh : k ∉ stale := by
      rw [← hstale, List.mem_filter, ExtTreeSet.contains_iff_mem.mpr hmem]
      simp
    obtain ⟨id, hid⟩ := hadding.bound k (ExtTreeSet.mem_toList.mpr hmem)
    exact ⟨id, by simpa [hremove] using (hothers k hfresh).trans hid⟩

end Reconcile

/-! ## The table and the native context -/

section Sound

variable {native : NativeContext σ Id ε}

/-- Every subscription of the table is held and joined natively, under its own
identifier. -/
structure Sound (laws : NativeLaws native) (manager : UpstreamManager σ Id) : Prop where
  joined : ∀ {k : UpstreamSubscription} {id : Id}, manager.active[k]? = some id →
    laws.Joined manager.context id
  held : ∀ {k : UpstreamSubscription} {id : Id}, manager.active[k]? = some id →
    laws.Held manager.context id
  injective : ∀ {k k' : UpstreamSubscription} {id : Id}, manager.active[k]? = some id →
    manager.active[k']? = some id → k = k'

variable {laws : NativeLaws native} {manager : UpstreamManager σ Id}

theorem sound_new (laws : NativeLaws native) (config : UpstreamConfig) (context : σ) :
    Sound laws (new config context) where
  joined h := by simp [new] at h
  held h := by simp [new] at h
  injective h := by simp [new] at h

namespace Sound

/-- A new native state in which what the table lists is still joined and held. -/
theorem withContext (h : Sound laws manager) {context : σ}
    (hkept : ∀ (k : UpstreamSubscription) (id : Id), manager.active[k]? = some id →
      laws.Joined context id ∧ laws.Held context id) : Sound laws { manager with context } where
  joined hk := (hkept _ _ hk).1
  held hk := (hkept _ _ hk).2
  injective := h.injective

theorem add (h : Sound laws manager) {config : RawSubscriptionConfig} {context : σ}
    {result : Except ε Id} (hadd : native.add manager.context config = (context, result)) :
    Sound laws { manager with context } := by
  refine h.withContext fun k id hk => ?_
  have hjoined := laws.joined_add config (h.joined hk)
  have hheld := laws.held_add config (h.held hk)
  rw [hadd] at hjoined hheld
  exact ⟨hjoined, hheld⟩

theorem join (h : Sound laws manager) {other : Id} {context : σ} {result : Except ε Unit}
    (hjoin : native.join manager.context other = (context, result)) :
    Sound laws { manager with context } := by
  refine h.withContext fun k id hk => ?_
  have hjoined := laws.joined_join other (h.joined hk)
  have hheld := laws.held_join other (h.held hk)
  rw [hjoin] at hjoined hheld
  exact ⟨hjoined, hheld⟩

/-- Leaving what the table does not list. -/
theorem leave (h : Sound laws manager) {other : Id}
    (hother : ∀ k : UpstreamSubscription, manager.active[k]? ≠ some other) :
    Sound laws { manager with context := (native.leave manager.context other).1 } := by
  refine h.withContext fun k id hk => ?_
  have hne : id ≠ other := fun heq => hother k (heq ▸ hk)
  exact ⟨laws.joined_leave hne (h.joined hk), laws.held_leave other (h.held hk)⟩

/-- A failed attempt to leave. -/
theorem leaveError (h : Sound laws manager) {other : Id} {context : σ} {error : ε}
    (hleave : native.leave manager.context other = (context, .error error)) :
    Sound laws { manager with context } := by
  refine h.withContext fun k id hk => ?_
  have hheld := laws.held_leave other (h.held hk)
  rw [hleave] at hheld
  exact ⟨laws.joined_leave_err hleave (h.joined hk), hheld⟩

/-- Removing what the table does not list. -/
theorem remove (h : Sound laws manager) {other : Id}
    (hother : ∀ k : UpstreamSubscription, manager.active[k]? ≠ some other) :
    Sound laws { manager with context := native.remove manager.context other } := by
  refine h.withContext fun k id hk => ?_
  have hne : id ≠ other := fun heq => hother k (heq ▸ hk)
  exact ⟨laws.joined_remove hne (h.joined hk), laws.held_remove hne (h.held hk)⟩

/-- A joined subscription may enter the table. -/
theorem insert (h : Sound laws manager) {subscription : UpstreamSubscription} {id : Id}
    (hjoined : laws.Joined manager.context id) (hheld : laws.Held manager.context id)
    (hnew : ∀ k : UpstreamSubscription, manager.active[k]? ≠ some id) :
    Sound laws { manager with active := manager.active.insert subscription id } := by
  have hcases : ∀ {k : UpstreamSubscription} {id' : Id},
      (manager.active.insert subscription id)[k]? = some id' →
        (subscription = k ∧ id = id') ∨ manager.active[k]? = some id' := by
    intro k id' hk
    rw [BTreeMap.getElem?_insert_eq] at hk
    split at hk
    · exact .inl ⟨‹_›, Option.some.inj hk⟩
    · exact .inr hk
  constructor
  · intro k id' hk
    rcases hcases hk with ⟨-, rfl⟩ | hk
    · exact hjoined
    · exact h.joined hk
  · intro k id' hk
    rcases hcases hk with ⟨-, rfl⟩ | hk
    · exact hheld
    · exact h.held hk
  · intro k k' id' hk hk'
    rcases hcases hk with ⟨rfl, rfl⟩ | hk
    · rcases hcases hk' with ⟨rfl, -⟩ | hk'
      · rfl
      · exact absurd hk' (hnew k')
    · rcases hcases hk' with ⟨rfl, rfl⟩ | hk'
      · exact absurd hk (hnew k)
      · exact h.injective hk hk'

theorem erase (h : Sound laws manager) (subscription : UpstreamSubscription) :
    Sound laws { manager with active := manager.active.erase subscription } := by
  have hsub : ∀ {k : UpstreamSubscription} {id : Id},
      (manager.active.erase subscription)[k]? = some id → manager.active[k]? = some id :=
    fun hk => (BTreeMap.getElem?_erase_eq_some_iff.mp hk).2
  exact ⟨fun hk => h.joined (hsub hk), fun hk => h.held (hsub hk),
    fun hk hk' => h.injective (hsub hk) (hsub hk')⟩

/-- An identifier is gone from the table with its subscription. -/
theorem erase_ne (h : Sound laws manager) {subscription : UpstreamSubscription} {id : Id}
    (hid : manager.active[subscription]? = some id) (k : UpstreamSubscription) :
    (manager.active.erase subscription)[k]? ≠ some id := by
  intro herased
  obtain ⟨hne, hk⟩ := BTreeMap.getElem?_erase_eq_some_iff.mp herased
  exact hne (h.injective hid hk)

/-- A new identifier is none of the table's. -/
theorem ne_of_add (h : Sound laws manager) {config : RawSubscriptionConfig} {context : σ} {id : Id}
    (hadd : native.add manager.context config = (context, .ok id)) (k : UpstreamSubscription) :
    manager.active[k]? ≠ some id :=
  fun hk => laws.not_held_of_add hadd (h.held hk)

/-- Taking a subscription out of the table, and out of the native context. -/
theorem drop (h : Sound laws manager) {subscription : UpstreamSubscription} {id : Id}
    (hid : manager.active[subscription]? = some id) :
    Sound laws
      { manager with
        active := manager.active.erase subscription
        context := native.remove (native.leave manager.context id).1 id } :=
  ((h.erase subscription).leave (h.erase_ne hid)).remove (h.erase_ne hid)

theorem rollbackAdditions (h : Sound laws manager) (subscriptions : List UpstreamSubscription) :
    Sound laws (rollbackAdditions native manager subscriptions) := by
  unfold UpstreamManager.rollbackAdditions
  refine List.foldlRecOn _ _ h fun manager h subscription _ => ?_
  unfold rollbackAddition
  cases hid : manager.active[subscription]? with
  | none => exact h
  | some id => exact h.drop hid

theorem addMissing (h : Sound laws manager) (desired : List UpstreamSubscription) :
    Sound laws (addMissing native desired manager []).1 := by
  have hcases := addMissing_rule (P := fun _ => True) (I := fun _ manager _ => Sound laws manager)
    (E := Sound laws) native (fun h _ _ => h) ?_ ?_ ?_ desired [] manager [] (fun _ _ => trivial) h
  · rcases hcases with ⟨-, -, herror⟩ | ⟨-, -, hok⟩
    · exact herror
    · exact hok
  · intro done manager added subscription context error h _ _ hadd
    exact (h.add hadd).rollbackAdditions added
  · intro done manager added subscription context context' id error h _ _ hadd hjoin
    exact (((h.add hadd).join hjoin).remove (h.ne_of_add hadd)).rollbackAdditions added
  · intro done manager added subscription context context' id h _ _ hadd hjoin
    have hheld := laws.held_join id (laws.held_of_add hadd)
    rw [hjoin] at hheld
    exact ((h.add hadd).join hjoin).insert (laws.joined_of_join hjoin) hheld (h.ne_of_add hadd)

/-- The second loop takes out what it could leave. -/
theorem removeStale (stale : List UpstreamSubscription) :
    ∀ {manager : UpstreamManager σ Id}, Sound laws manager → ∀ removed failedRemovals,
      Sound laws (removeStale native stale manager removed failedRemovals).1 := by
  induction stale with
  | nil => exact fun h _ _ => h
  | cons subscription stale ih =>
      intro manager h removed failedRemovals
      rw [UpstreamManager.removeStale]
      cases hid : manager.active[subscription]? with
      | none => exact h
      | some id =>
          cases hleave : native.leave manager.context id with
          | mk context result =>
              dsimp only
              rw [hleave]
              cases result with
              | error error => exact ih (h.leaveError hleave) _ _
              | ok _ =>
                  have hdrop := h.drop hid
                  rw [hleave] at hdrop
                  exact ih hdrop _ _

/-- **Reconciliation keeps the table sound**, whatever it returns. -/
theorem reconcile (h : Sound laws manager) (subscriptions : List UpstreamSubscription) :
    Sound laws (reconcile native manager subscriptions).1 := by
  rw [UpstreamManager.reconcile]
  generalize ExtTreeSet.ofList subscriptions compare = desired
  have hadded := h.addMissing desired.toList
  cases hadd : UpstreamManager.addMissing native desired.toList manager [] with
  | mk manager' result =>
      rw [hadd] at hadded
      cases result with
      | error error => exact hadded
      | ok added =>
          have hremoved := hadded.removeStale
            (manager.active.keys.filter fun k => !desired.contains k) 0 0
          dsimp only
          split
          all_goals
            rename_i hremove
            rw [hremove] at hremoved
            exact hremoved

end Sound

end Sound

end UpstreamManager

end Amt

import Amt.Lib.Outcome

/-!
# Following references

A name is looked up; what comes back is the thing that was looked for or another name to look
at instead, with the time for which the reference is good.  `follow` looks until it has found
something, at most a number of times, and stops at a name whose key it has seen before.  It
keeps the shortest of the times it has met.

* `Follows step name ttls last` is the chain of references itself: from `name` they lead to
  `last`, and `ttls` are their times.  A search that finds something has followed such a chain
  (`follows_of_follow`), and what it returns with it is the minimum of the times.
* `asked` lists the names a search looks at, and the search depends on nothing else
  (`follow_congr`).  They are at most as many as the rounds, with different keys
  (`length_asked_le`, `nodup_keys_asked`).
-/

namespace Amt

/-- What a look at a name brings. -/
inductive Lookup (N R D : Type) where
  | found (result : R)
  | redirect (name : N) (ttl : D)

section Follow

variable {N K R D ε : Type} [DecidableEq K] [LinearOrder D]
  (key : N → K) (step : N → Outcome ε (Lookup N R D)) (loop : N → ε) (tooDeep : ε)

/-- Look at a name, and at what it refers to, for a number of rounds. -/
def follow : ℕ → N → List K → D → Outcome ε (R × D)
  | 0, _, _, _ => .err tooDeep
  | rounds + 1, current, visited, ttl =>
      if key current ∈ visited then .err (loop current)
      else do
        match ← step current with
        | .found result => pure (result, ttl)
        | .redirect name aliasTtl =>
            follow rounds name (key current :: visited) (min ttl aliasTtl)

/-- A chain of references from one name to another, and their times. -/
inductive Follows : N → List D → N → Prop
  | here (name : N) : Follows name [] name
  | redirect {name next last : N} {ttl : D} {ttls : List D}
      (hstep : step name = .ok (.redirect next ttl)) (hrest : Follows next ttls last) :
      Follows name (ttl :: ttls) last

variable {key step loop tooDeep}

/-- One round of a search that finds something. -/
theorem follow_succ_eq_ok {rounds : ℕ} {current : N} {visited : List K} {ttl : D}
    {found : R × D}
    (h : follow key step loop tooDeep (rounds + 1) current visited ttl = .ok found) :
    (∃ result, step current = .ok (.found result) ∧ found = (result, ttl)) ∨
      ∃ name aliasTtl, step current = .ok (.redirect name aliasTtl) ∧
        follow key step loop tooDeep rounds name (key current :: visited) (min ttl aliasTtl) =
          .ok found := by
  rw [follow] at h
  split at h
  · cases h
  · obtain ⟨lookup, hstep, h⟩ := Outcome.bind_eq_ok_iff.mp h
    cases lookup with
    | found result => exact .inl ⟨result, hstep, (Outcome.ok.inj h).symm⟩
    | redirect name aliasTtl => exact .inr ⟨name, aliasTtl, hstep, h⟩

/-- What is found stands at the end of a chain of references. -/
theorem follows_of_follow {rounds : ℕ} {current : N} {visited : List K} {ttl ttl' : D} {result : R}
    (h : follow key step loop tooDeep rounds current visited ttl = .ok (result, ttl')) :
    ∃ ttls last, Follows step current ttls last ∧ step last = .ok (.found result) ∧
      ttl' = ttls.foldl min ttl := by
  induction rounds generalizing current visited ttl with
  | zero => cases h
  | succ rounds ih =>
      obtain ⟨result', hstep, heq⟩ | ⟨name, aliasTtl, hstep, hrest⟩ := follow_succ_eq_ok h
      · obtain ⟨rfl, rfl⟩ := Prod.mk.inj heq
        exact ⟨[], current, .here current, hstep, rfl⟩
      · obtain ⟨ttls, last, hchain, hlast, rfl⟩ := ih hrest
        exact ⟨aliasTtl :: ttls, last, .redirect hstep hchain, hlast, rfl⟩

theorem foldl_min_min (x top : D) (l : List D) :
    l.foldl min (min x top) = min x (l.foldl min top) :=
  List.foldl_assoc

theorem foldl_min_cons (x top : D) (l : List D) :
    (x :: l).foldl min top = min x (l.foldl min top) := by
  rw [List.foldl_cons, min_comm, foldl_min_min]

theorem foldl_min_le (l : List D) (top : D) : l.foldl min top ≤ top := by
  rw [← min_self top, foldl_min_min, min_self]
  exact min_le_left _ _

theorem foldl_min_append (l m : List D) (top : D) :
    (l ++ m).foldl min top = min (l.foldl min top) (m.foldl min top) := by
  rw [List.foldl_append, ← foldl_min_min, min_eq_left (foldl_min_le l top)]

/-- Starting the minimum from a time that is too large does not matter. -/
theorem min?_cons_foldl_min {x top : D} (h : x ≤ top) (l : List D) :
    (x :: l).min? = some (min x (l.foldl min top)) := by
  rw [List.min?_cons', ← foldl_min_min, min_eq_left h]

end Follow

/-! ## The names that are looked at -/

section Asked

variable {N K R D ε : Type} [DecidableEq K] (key : N → K) (step : N → Outcome ε (Lookup N R D))

/-- The names that a search looks at. -/
def asked : ℕ → N → List K → List N
  | 0, _, _ => []
  | rounds + 1, current, visited =>
      if key current ∈ visited then []
      else
        match step current with
        | .ok (.redirect name _) => current :: asked rounds name (key current :: visited)
        | _ => [current]

variable {key step} (rounds : ℕ) (current : N) (visited : List K)

theorem asked_of_mem (h : key current ∈ visited) :
    asked key step (rounds + 1) current visited = [] := by
  rw [asked, if_pos h]

theorem asked_redirect {name : N} {ttl : D} (h : key current ∉ visited)
    (hstep : step current = .ok (.redirect name ttl)) :
    asked key step (rounds + 1) current visited =
      current :: asked key step rounds name (key current :: visited) := by
  rw [asked, if_neg h, hstep]

theorem asked_last (h : key current ∉ visited)
    (hstep : ∀ name ttl, step current ≠ .ok (.redirect name ttl)) :
    asked key step (rounds + 1) current visited = [current] := by
  rw [asked, if_neg h]
  cases hlook : step current with
  | err e => rfl
  | panic => rfl
  | ok lookup =>
      cases lookup with
      | found result => rfl
      | redirect name ttl => exact absurd hlook (hstep name ttl)

variable (key step) in
/-- How one round adds to the names. -/
theorem asked_cases :
    (key current ∈ visited ∧ asked key step (rounds + 1) current visited = []) ∨
      key current ∉ visited ∧
        (((∀ name ttl, step current ≠ .ok (.redirect name ttl)) ∧
            asked key step (rounds + 1) current visited = [current]) ∨
          ∃ name ttl, step current = .ok (.redirect name ttl) ∧
            asked key step (rounds + 1) current visited =
              current :: asked key step rounds name (key current :: visited)) := by
  by_cases hseen : key current ∈ visited
  · exact .inl ⟨hseen, asked_of_mem rounds current visited hseen⟩
  · refine .inr ⟨hseen, ?_⟩
    by_cases hstep : ∃ name ttl, step current = .ok (.redirect name ttl)
    · obtain ⟨name, ttl, hstep⟩ := hstep
      exact .inr ⟨name, ttl, hstep, asked_redirect rounds current visited hseen hstep⟩
    · have hlast : ∀ name ttl, step current ≠ .ok (.redirect name ttl) :=
        fun name ttl h => hstep ⟨name, ttl, h⟩
      exact .inl ⟨hlast, asked_last rounds current visited hseen hlast⟩

theorem length_asked_le : (asked key step rounds current visited).length ≤ rounds := by
  induction rounds generalizing current visited with
  | zero => exact Nat.le_refl 0
  | succ rounds ih =>
      obtain ⟨-, hnone⟩ | ⟨-, ⟨-, hlast⟩ | ⟨name, ttl, -, hnext⟩⟩ :=
        asked_cases key step rounds current visited
      · rw [hnone]
        exact Nat.zero_le _
      · rw [hlast]
        exact Nat.succ_le_succ (Nat.zero_le _)
      · rw [hnext]
        exact Nat.succ_le_succ (ih _ _)

/-- No name is looked at whose key has been seen, so that no key is seen twice. -/
theorem nodup_keys_asked :
    ((asked key step rounds current visited).map key).Nodup ∧
      ∀ name ∈ asked key step rounds current visited, key name ∉ visited := by
  induction rounds generalizing current visited with
  | zero => exact ⟨.nil, fun _ h => absurd h List.not_mem_nil⟩
  | succ rounds ih =>
      obtain ⟨-, hnone⟩ | ⟨hfresh, ⟨-, hlast⟩ | ⟨name, ttl, -, hnext⟩⟩ :=
        asked_cases key step rounds current visited
      · rw [hnone]
        exact ⟨.nil, fun _ h => absurd h List.not_mem_nil⟩
      · rw [hlast]
        exact ⟨List.nodup_singleton _, by simpa using hfresh⟩
      · obtain ⟨hnodup, hunseen⟩ := ih name (key current :: visited)
        rw [hnext, List.map_cons, List.nodup_cons, List.forall_mem_cons]
        refine ⟨⟨fun hmem => ?_, hnodup⟩, hfresh, fun n hn => ?_⟩
        · obtain ⟨n, hn, hkey⟩ := List.mem_map.mp hmem
          exact hunseen n hn (hkey ▸ List.mem_cons_self)
        · exact fun hseen => hunseen n hn (List.mem_cons_of_mem _ hseen)

/-- The search depends on the names that are looked at and on no other. -/
theorem follow_congr [LinearOrder D] {step' : N → Outcome ε (Lookup N R D)} {loop : N → ε}
    {tooDeep : ε} (ttl : D)
    (h : ∀ name ∈ asked key step rounds current visited, step' name = step name) :
    follow key step' loop tooDeep rounds current visited ttl =
      follow key step loop tooDeep rounds current visited ttl := by
  induction rounds generalizing current visited ttl with
  | zero => rfl
  | succ rounds ih =>
      rw [follow, follow]
      obtain ⟨hseen, -⟩ | ⟨hfresh, ⟨hother, hlast⟩ | ⟨name, aliasTtl, hstep, hnext⟩⟩ :=
        asked_cases key step rounds current visited
      · rw [if_pos hseen, if_pos hseen]
      · rw [hlast] at h
        rw [if_neg hfresh, if_neg hfresh, h current List.mem_cons_self]
        cases hlook : step current with
        | err e => rfl
        | panic => rfl
        | ok lookup =>
            cases lookup with
            | found result => rfl
            | redirect name aliasTtl => exact absurd hlook (hother name aliasTtl)
      · rw [hnext] at h
        obtain ⟨hcurrent, hrest⟩ := List.forall_mem_cons.mp h
        rw [if_neg hfresh, if_neg hfresh, hcurrent, hstep]
        exact ih _ _ _ hrest

end Asked

end Amt

import Amt.Lib.Shuffle
import Amt.Driad

/-!
# The order in which relays are tried

The relays found for a source are tried by precedence.  Relays of one precedence, a *tier*, are
shuffled and then taken from the two address families in turn, beginning with the family that
the shuffle put first.

`orderRelayCandidates` sorts, cuts the sorted list into tiers and orders each tier.  Whatever
the random numbers are, it returns the relays it was given, sorted by precedence, with the
families of every tier alternating until one of them is used up
(`exists_orderRelayCandidates`).  In particular the two queues of a tier never run out early:
that is what the `expect` of the source relies on.
-/

namespace Amt

open Outcome

/-! ## The code -/

def SocketAddr.isIpv4 : SocketAddr → Bool
  | .v4 _ _ => true
  | .v6 _ _ _ _ => false

def SocketAddr.isIpv6 : SocketAddr → Bool
  | .v4 _ _ => false
  | .v6 _ _ _ _ => true

/-- Smaller is preferred. -/
def DriadRelaySelection.precedence (selection : DriadRelaySelection) : ℕ :=
  selection.record.precedence.toNat

/-- One round of the generator that shuffles the relays; zero is replaced, as it would stay zero. -/
def xorshift64 (value : UInt64) : UInt64 :=
  let value := if value = 0 then 0x2545f4914f6cdd1d else value
  let value := value ^^^ (value <<< 13)
  let value := value ^^^ (value >>> 7)
  value ^^^ (value <<< 17)

/-- The last loop of `shuffle_and_interleave_families`, from an index on: `count` places are
left to be filled from the two queues. -/
def interleaveFamilies (preferIpv6 : Bool) :
    ℕ → ℕ → List DriadRelaySelection → List DriadRelaySelection →
      Outcome DriadError (List DriadRelaySelection)
  | 0, _, _, _ => .ok []
  | count + 1, index, ipv4, ipv6 =>
      let takeIpv6 := (index % 2 == 0) == preferIpv6
      if takeIpv6 then
        match popEither ipv6 ipv4 with
        | some (selection, ipv6, ipv4) => do
            let rest ← interleaveFamilies preferIpv6 count (index + 1) ipv4 ipv6
            pure (selection :: rest)
        | none => .panic
      else
        match popEither ipv4 ipv6 with
        | some (selection, ipv4, ipv6) => do
            let rest ← interleaveFamilies preferIpv6 count (index + 1) ipv4 ipv6
            pure (selection :: rest)
        | none => .panic

/-- `shuffle_and_interleave_families`, with the random number it starts from. -/
def shuffleAndInterleaveFamilies (random : UInt64) (selections : List DriadRelaySelection) :
    Outcome DriadError (List DriadRelaySelection) :=
  if selections.length < 2 then .ok selections
  else do
    let selections ← shuffle xorshift64 UInt64.toNat (selections.length - 1) random selections
    match selections.head? with
    | none => .panic
    | some first =>
        interleaveFamilies first.relay.isIpv6 selections.length 0
          (selections.filter fun selection => selection.relay.isIpv4)
          (selections.filter fun selection => selection.relay.isIpv6)

/-- The loop of `order_relay_candidates` over the tiers of the entries from `start` on.  Each
round takes at least one entry, so that as many rounds as entries are enough. -/
def orderTiers (random : ℕ → UInt64) :
    ℕ → ℕ → List DriadRelaySelection → Outcome DriadError (List DriadRelaySelection)
  | _, _, [] => .ok []
  | 0, _, _ :: _ => .panic
  | rounds + 1, start, first :: rest => do
      let tier := (first :: rest).takeWhile fun selection =>
        selection.precedence == first.precedence
      let later := (first :: rest).dropWhile fun selection =>
        selection.precedence == first.precedence
      let ordered ← shuffleAndInterleaveFamilies (random start) tier
      let laterOrdered ← orderTiers random rounds (start + tier.length) later
      pure (ordered ++ laterOrdered)

/-- `order_relay_candidates`.  A tier draws a random number of its own, named by where the
tier starts. -/
def orderRelayCandidates (random : ℕ → UInt64) (selections : List DriadRelaySelection) :
    Outcome DriadError (List DriadRelaySelection) :=
  orderTiers random selections.length 0
    (sortByKey DriadRelaySelection.precedence selections)

/-! ## One tier -/

/-- The family of a selection. -/
def DriadRelaySelection.isIpv6 (selection : DriadRelaySelection) : Bool := selection.relay.isIpv6

theorem SocketAddr.isIpv4_eq_not_isIpv6 (address : SocketAddr) :
    address.isIpv4 = !address.isIpv6 := by
  cases address <;> rfl

/-- The turn changes with every place. -/
theorem turn_succ (preferIpv6 : Bool) (index : ℕ) :
    (((index + 1) % 2 == 0) == preferIpv6) = !((index % 2 == 0) == preferIpv6) := by
  obtain h | h := Nat.mod_two_eq_zero_or_one index
  · have h' : (index + 1) % 2 = 1 := by omega
    rw [h, h']
    cases preferIpv6 <;> rfl
  · have h' : (index + 1) % 2 = 0 := by omega
    rw [h, h']
    cases preferIpv6 <;> rfl

/-- A place that is filled from the IPv6 queue, or from the other if that one is empty. -/
theorem interleaveFamilies_ipv6 {preferIpv6 : Bool} {count index : ℕ}
    {ipv4 ipv6 ipv4' ipv6' rest : List DriadRelaySelection} {selection : DriadRelaySelection}
    (hturn : ((index % 2 == 0) == preferIpv6) = true)
    (hpop : popEither ipv6 ipv4 = some (selection, ipv6', ipv4'))
    (hrest : interleaveFamilies preferIpv6 count (index + 1) ipv4' ipv6' = .ok rest) :
    interleaveFamilies preferIpv6 (count + 1) index ipv4 ipv6 = .ok (selection :: rest) := by
  rw [interleaveFamilies, if_pos hturn, hpop]
  dsimp only
  rw [hrest, bind_ok, pure_eq_ok]

theorem interleaveFamilies_ipv4 {preferIpv6 : Bool} {count index : ℕ}
    {ipv4 ipv6 ipv4' ipv6' rest : List DriadRelaySelection} {selection : DriadRelaySelection}
    (hturn : ((index % 2 == 0) == preferIpv6) = false)
    (hpop : popEither ipv4 ipv6 = some (selection, ipv4', ipv6'))
    (hrest : interleaveFamilies preferIpv6 count (index + 1) ipv4' ipv6' = .ok rest) :
    interleaveFamilies preferIpv6 (count + 1) index ipv4 ipv6 = .ok (selection :: rest) := by
  rw [interleaveFamilies, if_neg (by rw [hturn]; exact Bool.false_ne_true), hpop]
  dsimp only
  rw [hrest, bind_ok, pure_eq_ok]

/-- The loop takes from the two queues in turn, first from the one whose turn the index says. -/
theorem interleaveFamilies_of_takeTurns {preferIpv6 : Bool} {count index : ℕ}
    {ipv4 ipv6 l : List DriadRelaySelection}
    (h : takeTurns count (if (index % 2 == 0) == preferIpv6 then ipv6 else ipv4)
      (if (index % 2 == 0) == preferIpv6 then ipv4 else ipv6) = some l) :
    interleaveFamilies preferIpv6 count index ipv4 ipv6 = .ok l := by
  induction count generalizing index ipv4 ipv6 l with
  | zero =>
      obtain rfl := Option.some.inj h
      rfl
  | succ count ih =>
      obtain ⟨selection, first, second, rest, hpop, hrest, rfl⟩ := takeTurns_succ_eq_some_iff.mp h
      have hturn := turn_succ preferIpv6 index
      by_cases hcase : ((index % 2 == 0) == preferIpv6) = true
      · rw [hcase, Bool.not_true] at hturn
        rw [if_pos hcase, if_pos hcase] at hpop
        refine interleaveFamilies_ipv6 hcase hpop (ih ?_)
        rw [hturn]
        exact hrest
      · rw [Bool.eq_false_iff.mpr hcase, Bool.not_false] at hturn
        rw [if_neg hcase, if_neg hcase] at hpop
        refine interleaveFamilies_ipv4 (Bool.eq_false_iff.mpr hcase) hpop (ih ?_)
        rw [hturn]
        exact hrest

theorem filter_families_perm (selections : List DriadRelaySelection) :
    ((selections.filter fun selection => selection.relay.isIpv6) ++
      selections.filter fun selection => selection.relay.isIpv4).Perm selections := by
  have hnot : (fun selection : DriadRelaySelection => selection.relay.isIpv4) =
      fun selection => !selection.relay.isIpv6 := by
    funext selection
    exact SocketAddr.isIpv4_eq_not_isIpv6 selection.relay
  rw [hnot]
  exact List.filter_append_perm _ selections

/-- Whichever family comes first, the loop takes every selection once, and the families
alternate. -/
theorem exists_interleaveFamilies (preferIpv6 : Bool) (selections : List DriadRelaySelection) :
    ∃ ordered, interleaveFamilies preferIpv6 selections.length 0
        (selections.filter fun selection => selection.relay.isIpv4)
        (selections.filter fun selection => selection.relay.isIpv6) = .ok ordered ∧
      ordered.Perm selections ∧ Alternates DriadRelaySelection.isIpv6 ordered := by
  have hfamilies := filter_families_perm selections
  have hsix : ∀ a ∈ selections.filter fun selection => selection.relay.isIpv6,
      a.isIpv6 = true := fun a ha => (List.mem_filter.mp ha).2
  have hfour : ∀ a ∈ selections.filter fun selection => selection.relay.isIpv4,
      a.isIpv6 = false := by
    intro a ha
    have h := (List.mem_filter.mp ha).2
    rw [SocketAddr.isIpv4_eq_not_isIpv6, Bool.not_eq_true'] at h
    exact h
  have hcount := hfamilies.length_eq
  rw [List.length_append] at hcount
  cases preferIpv6 with
  | true =>
      obtain ⟨ordered, hordered, hperm, halt, -⟩ :=
        exists_takeTurns hcount.symm hsix (by simpa using hfour)
      exact ⟨ordered, interleaveFamilies_of_takeTurns hordered, hperm.trans hfamilies, halt⟩
  | false =>
      obtain ⟨ordered, hordered, hperm, halt, -⟩ :=
        exists_takeTurns (hcount.symm.trans (Nat.add_comm _ _)) hfour (by simpa using hsix)
      exact ⟨ordered, interleaveFamilies_of_takeTurns hordered,
        (hperm.trans List.perm_append_comm).trans hfamilies, halt⟩

/-- A tier is ordered: every selection is taken once, and the families alternate. -/
theorem exists_shuffleAndInterleaveFamilies (random : UInt64)
    (selections : List DriadRelaySelection) :
    ∃ ordered, shuffleAndInterleaveFamilies random selections = .ok ordered ∧
      ordered.Perm selections ∧ Alternates DriadRelaySelection.isIpv6 ordered := by
  rw [shuffleAndInterleaveFamilies]
  by_cases hshort : selections.length < 2
  · rw [if_pos hshort]
    refine ⟨selections, rfl, .refl _, ?_⟩
    match selections, hshort with
    | [], _ => trivial
    | [_], _ => trivial
  · rw [if_neg hshort]
    obtain ⟨shuffled, hshuffled, hperm⟩ := exists_shuffle (ε := DriadError) xorshift64
      UInt64.toNat random (show selections.length - 1 < selections.length by omega)
    rw [hshuffled, bind_ok]
    obtain ⟨first, rest, rfl⟩ : ∃ first rest, shuffled = first :: rest := by
      refine List.exists_cons_of_ne_nil fun hnil => hshort ?_
      rw [← hperm.length_eq, hnil]
      decide
    obtain ⟨ordered, hordered, hfamilies, halt⟩ :=
      exists_interleaveFamilies first.relay.isIpv6 (first :: rest)
    exact ⟨ordered, hordered, hfamilies.trans hperm, halt⟩

/-! ## All tiers -/

/-- An order in which the relays may be tried. -/
structure RelayOrder (selections ordered : List DriadRelaySelection) : Prop where
  perm : ordered.Perm selections
  sorted : ordered.Pairwise fun a b => a.precedence ≤ b.precedence
  alternates : ∀ precedence, Alternates DriadRelaySelection.isIpv6
    (ordered.filter fun selection => selection.precedence == precedence)

theorem RelayOrder.nil : RelayOrder [] [] := ⟨.refl _, .nil, fun _ => trivial⟩

/-- A tier in front of the later ones. -/
theorem RelayOrder.tier_append {k : ℕ} {tier ordered later laterOrdered : List DriadRelaySelection}
    (htier : ∀ a ∈ tier, a.precedence = k) (hlater : ∀ a ∈ later, k < a.precedence)
    (hperm : ordered.Perm tier) (halt : Alternates DriadRelaySelection.isIpv6 ordered)
    (h : RelayOrder later laterOrdered) :
    RelayOrder (tier ++ later) (ordered ++ laterOrdered) := by
  have hordered : ∀ a ∈ ordered, a.precedence = k := fun a ha => htier a (hperm.mem_iff.mp ha)
  have hrest : ∀ a ∈ laterOrdered, k < a.precedence := fun a ha => hlater a (h.perm.mem_iff.mp ha)
  refine ⟨hperm.append h.perm, List.pairwise_append.mpr ⟨?_, h.sorted, ?_⟩, fun precedence => ?_⟩
  · refine List.pairwise_of_forall_mem_list fun a ha b hb => ?_
    rw [hordered a ha, hordered b hb]
  · intro a ha b hb
    rw [hordered a ha]
    exact Nat.le_of_lt (hrest b hb)
  · -- a tier is the selections of its own precedence and none of another
    rw [List.filter_append]
    by_cases hk : precedence = k
    · rw [List.filter_eq_self.mpr fun a ha => by simp [hordered a ha, hk],
        List.filter_eq_nil_iff.mpr fun a ha => ?_, List.append_nil]
      · exact halt
      · have hlt := hrest a ha
        rw [beq_iff_eq]
        omega
    · rw [List.filter_eq_nil_iff.mpr fun a ha => ?_, List.nil_append]
      · exact h.alternates precedence
      · rw [hordered a ha, beq_iff_eq]
        exact Ne.symm hk

/-- The tiers of a sorted list, one after the other. -/
theorem exists_orderTiers (random : ℕ → UInt64) {rounds : ℕ} (start : ℕ)
    {selections : List DriadRelaySelection} (hrounds : selections.length ≤ rounds)
    (hsorted : selections.Pairwise fun a b => a.precedence ≤ b.precedence) :
    ∃ ordered, orderTiers random rounds start selections = .ok ordered ∧
      RelayOrder selections ordered := by
  induction rounds generalizing start selections with
  | zero =>
      obtain rfl := List.length_eq_zero_iff.mp (Nat.le_zero.mp hrounds)
      exact ⟨[], rfl, .nil⟩
  | succ rounds ih =>
      cases selections with
      | nil => exact ⟨[], rfl, .nil⟩
      | cons first rest =>
          obtain ⟨hleast, hrest⟩ := List.pairwise_cons.mp hsorted
          have hfirst : ∀ a ∈ first :: rest, first.precedence ≤ a.precedence :=
            List.forall_mem_cons.mpr ⟨Nat.le_refl _, hleast⟩
          rw [orderTiers, List.dropWhile_cons_of_pos (by simp)]
          generalize htier : (first :: rest).takeWhile
            (fun selection => selection.precedence == first.precedence) = tier
          generalize hlater : rest.dropWhile
            (fun selection => selection.precedence == first.precedence) = later
          have hsplit : tier ++ later = first :: rest := by
            rw [← htier, ← hlater, List.takeWhile_cons_of_pos (by simp), List.cons_append,
              List.takeWhile_append_dropWhile]
          have hequal : ∀ a ∈ tier, a.precedence = first.precedence := by
            intro a ha
            rw [← htier] at ha
            simpa using List.mem_takeWhile_imp ha
          have hgreater : ∀ a ∈ later, first.precedence < a.precedence := by
            intro a ha
            rw [← hlater] at ha
            exact lt_key_of_mem_dropWhile DriadRelaySelection.precedence hrest hleast ha
          have hsuffix : later.Sublist rest := by
            rw [← hlater]
            exact (List.dropWhile_suffix _).sublist
          have hlength : later.length ≤ rounds :=
            Nat.le_trans hsuffix.length_le (Nat.le_of_succ_le_succ hrounds)
          obtain ⟨ordered, hordered, hperm, halt⟩ :=
            exists_shuffleAndInterleaveFamilies (random start) tier
          obtain ⟨laterOrdered, hlaterOrdered, horder⟩ :=
            ih (start + tier.length) hlength (hrest.sublist hsuffix)
          refine ⟨ordered ++ laterOrdered, ?_, ?_⟩
          · rw [hordered, bind_ok, hlaterOrdered, bind_ok, pure_eq_ok]
          · rw [← hsplit]
            exact RelayOrder.tier_append hequal hgreater hperm halt horder

/-- For every list of relays and every random numbers: the same relays, sorted by precedence,
and within every precedence the families take turns until one of them is used up. -/
theorem exists_orderRelayCandidates (random : ℕ → UInt64)
    (selections : List DriadRelaySelection) :
    ∃ ordered, orderRelayCandidates random selections = .ok ordered ∧
      ordered.Perm selections ∧ (ordered.Pairwise fun a b => a.precedence ≤ b.precedence) ∧
      ∀ precedence, Alternates DriadRelaySelection.isIpv6
        (ordered.filter fun selection => selection.precedence == precedence) := by
  have hperm := sortByKey_perm DriadRelaySelection.precedence selections
  obtain ⟨ordered, hordered, horder⟩ := exists_orderTiers random 0 hperm.length_eq.le
    (pairwise_sortByKey DriadRelaySelection.precedence selections)
  exact ⟨ordered, hordered, horder.perm.trans hperm, horder.sorted, horder.alternates⟩

end Amt

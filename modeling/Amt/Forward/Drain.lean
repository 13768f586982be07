import Amt.Forward

/-!
# The drain of the capture queue

`drain_upstream` takes datagrams off the capture queue within a budget of packets and of time.
The relay sleeps after a drain that is not exhausted, and must not leave datagrams waiting:
`drainUpstream_yields`.
-/

namespace Amt

/-- How many packets, and how long, one turn of the relay may spend. -/
structure RelayWorkBudget where
  started : Instant
  packetLimit : ℕ
  timeLimit : Duration
  packets : ℕ

namespace RelayWorkBudget

/-- The first packet is taken whatever the time. -/
def canTakePacket (budget : RelayWorkBudget) (now : Instant) : Bool :=
  budget.packets < budget.packetLimit ∧
    (budget.packets = 0 ∨ elapsed budget.started now < budget.timeLimit)

def recordPacket (budget : RelayWorkBudget) : RelayWorkBudget :=
  { budget with packets := budget.packets + 1 }

/-- The turn has to end. -/
def exhausted (budget : RelayWorkBudget) (now : Instant) : Bool :=
  budget.packets = budget.packetLimit ∨
    (budget.packets ≠ 0 ∧ budget.timeLimit ≤ elapsed budget.started now)

/-- A budget that refuses a packet is exhausted, and it never refuses the first. -/
theorem spent_of_refused {budget : RelayWorkBudget} {now later : Instant}
    (hpositive : 0 < budget.packetLimit) (hlimit : budget.packets ≤ budget.packetLimit)
    (hrefused : ¬ budget.canTakePacket now) (hle : now ≤ later) :
    ¬ (budget.exhausted later = false ∨ budget.packets = 0) := by
  rcases hlimit.eq_or_lt with hall | hlimit
  · simp [exhausted, hall, hpositive.ne']
  · rw [canTakePacket, decide_eq_true_eq, not_and, not_or] at hrefused
    obtain ⟨hpackets, hspent⟩ := hrefused hlimit
    have hlate : budget.timeLimit ≤ elapsed budget.started later :=
      (not_lt.mp hspent).trans (Nat.sub_le_sub_right hle _)
    simp [exhausted, hpackets, hlate]

end RelayWorkBudget

open RelayWorkBudget

variable {σ E : Type} (socket : TunnelSocket σ) (relay : Relay) {pathMtu : ℕ}
  (clock : ℕ → Instant) (queue : ℕ → Except E (Option UpstreamDatagram)) (finished : Instant)

/-- The loop of `drain_upstream`: the packets taken, and whether it is exhausted.  `clock` and
`queue` are what the turn after that many packets reads. -/
def drainUpstream (pathMtu : ℕ) : ℕ → RelayWorkBudget → σ → Outcome E (ℕ × σ × Bool)
  | 0, budget, state => .ok (budget.packets, state, budget.exhausted finished)
  | fuel + 1, budget, state =>
      if budget.canTakePacket (clock budget.packets) then
        match queue budget.packets with
        | .error error => .err error
        | .ok none => .ok (budget.packets, state, budget.exhausted finished)
        | .ok (some datagram) => do
            let forwarding ← (drainUpstreamDatagram socket relay pathMtu state datagram).mapErr
              Empty.elim
            drainUpstream pathMtu fuel budget.recordPacket forwarding.socket
      else .ok (budget.packets, state, budget.exhausted finished)

/-- **A drain leaves no datagram unnoticed.**  It takes what the queue gives, turn after turn.
It ends with the error of the worker, or it has seen the queue empty, unless it took something
and says that its budget is exhausted. -/
theorem drainUpstream_yields (hmtu : 1280 ≤ pathMtu) (hclock : ∀ i, clock i ≤ finished)
    (fuel : ℕ) (budget : RelayWorkBudget) (state : σ) (hpositive : 0 < budget.packetLimit)
    (hfuel : budget.packets + fuel = budget.packetLimit) :
    ∃ n ≤ budget.packetLimit, budget.packets ≤ n ∧
      (∀ i ∈ Set.Ico budget.packets n, ∃ datagram, queue i = .ok (some datagram)) ∧
      match drainUpstream socket relay clock queue finished pathMtu fuel budget state with
      | .err error => queue n = .error error
      | .ok (packets, _, exhausted) =>
          packets = n ∧ (exhausted = false ∨ n = 0 → queue n = .ok none)
      | .panic => False := by
  induction fuel generalizing budget state with
  | zero =>
      have hall : budget.packets = budget.packetLimit := hfuel
      have hrefused : ¬ budget.canTakePacket finished := by simp [canTakePacket, hall]
      have hspent := spent_of_refused hpositive hall.le hrefused le_rfl
      exact ⟨_, hall.le, le_rfl, by simp, rfl, fun h => absurd h hspent⟩
  | succ fuel ih =>
      have hlimit : budget.packets < budget.packetLimit := by omega
      rw [drainUpstream]
      by_cases hcan : budget.canTakePacket (clock budget.packets) = true
      · rw [if_pos hcan]
        rcases hturn : queue budget.packets with error | _ | datagram
        · exact ⟨_, hlimit.le, le_rfl, by simp, hturn⟩
        · exact ⟨_, hlimit.le, le_rfl, by simp, rfl, fun _ => hturn⟩
        · obtain ⟨-, result, -, -, hforward, -⟩ := exists_rounds socket relay hmtu datagram state
          obtain ⟨n, hn, hle, htaken, hend⟩ := ih budget.recordPacket result.socket hpositive
            ((Nat.succ_add_eq_add_succ _ _).trans hfuel)
          refine ⟨n, hn, Nat.le_of_succ_le hle, fun i ⟨hi, hlt⟩ => ?_, ?_⟩
          · rcases hi.eq_or_lt with rfl | hi
            · exact ⟨datagram, hturn⟩
            · exact htaken i ⟨hi, hlt⟩
          · dsimp only
            rw [hforward]
            exact hend
      · have hspent := spent_of_refused hpositive hlimit.le hcan (hclock _)
        rw [if_neg hcan]
        exact ⟨_, hlimit.le, le_rfl, by simp, rfl, fun h => absurd h hspent⟩

/-- Three datagrams wait, each too long for the path, and then the worker fails. -/
def failingQueue (taken : ℕ) : Except Unit (Option UpstreamDatagram) :=
  if taken < 3 then
    .ok (some ⟨.v4 longHeader.source, .v4 longHeader.destination, longHeader.bytes ++ longPayload⟩)
  else .error ()

/-- At the budget of the relay: the drain takes the three and ends with the error of the
worker.  If the first one takes it 2 ms, its budget is exhausted, and the others wait. -/
theorem drainUpstream_yields_waiting :
    drainUpstream openSocket joinedTunnel.relay (fun _ => 0) failingQueue 0 1280 512
        ⟨0, 512, 2000000, 0⟩ () = .err () ∧
      (∃ n ≤ 512, (∀ i ∈ Set.Ico 0 n, ∃ datagram, failingQueue i = .ok (some datagram)) ∧
        failingQueue n = .error ()) ∧
      ∃ packets state, drainUpstream openSocket joinedTunnel.relay
          (fun taken => if taken = 0 then 0 else 2000000) failingQueue 2000000 1280 512
          ⟨0, 512, 2000000, 0⟩ () = .ok (packets, state, true) ∧
        0 < packets ∧ packets < 3 := by
  have hfails : drainUpstream openSocket joinedTunnel.relay (fun _ => 0) failingQueue 0 1280 512
      ⟨0, 512, 2000000, 0⟩ () = .err () := by decide +kernel
  have hspent : drainUpstream openSocket joinedTunnel.relay
      (fun taken => if taken = 0 then 0 else 2000000) failingQueue 2000000 1280 512
      ⟨0, 512, 2000000, 0⟩ () = .ok (1, (), true) := by decide +kernel
  obtain ⟨n, hn, -, htaken, hend⟩ := drainUpstream_yields openSocket joinedTunnel.relay
    (fun _ => 0) failingQueue 0 le_rfl (fun _ => le_rfl) 512 ⟨0, 512, 2000000, 0⟩ () (by decide) rfl
  rw [hfails] at hend
  exact ⟨hfails, ⟨n, hn, htaken, hend⟩, 1, (), hspent, by decide, by decide⟩

end Amt

import Amt.Lib.Run

/-!
# The capture worker and the relay thread

The upstream worker captures packets and hands them to the relay thread over a bounded
channel.  Beside the channel there is a counter, `queue_depth`, which the worker raises
before it sends and the relay lowers after it has received, and the worker notifies the
poller only for a packet that raised the counter from zero.

* **Steps.**  Each atomic operation, each operation on the channel and each notification is
  one step of its thread (`step`); between two steps of a thread, the other may take any
  number.  The place where a thread stands is its program counter, `CapturePc` and
  `RelayPc`.  Budgets, control datagrams, pruning and the return of a wait are left open: the
  steps that depend on them can go either way.  What a step can do is said once (`Steps.move`),
  and every invariant goes through the moves.
* **The depth** is the number of packets in the channel, and one more for a reservation, and
  one more for a packet that was received and not counted off (`Inv.depth`).  Everything
  else follows from it: no underflow, no lost packet, and no lost wakeup, since the relay
  waits only after it has read a depth of zero (`Inv.awake`).
* **The high-water mark** is read off the same counter, so it can exceed the capacity by the
  packet that the relay has not counted off yet (`highWater_le_iff`).
-/

namespace Amt

/-! ## The threads -/

/-- Where the worker stands in its capture loop. -/
inductive CapturePc (P : Type*) where
  /-- Before `try_recv` of the capture source. -/
  | idle
  | captured (packet : P)
  /-- `accepted_packets` is raised. -/
  | accepted (packet : P)
  /-- `reserve_queue_slot` returned. -/
  | reserved (packet : P) (wasEmpty : Bool) (reservedDepth : ℕ)
  /-- `try_send` took the packet. -/
  | sent (wasEmpty : Bool) (reservedDepth : ℕ)
  /-- `commit_queue_slot` has read the depth. -/
  | loaded (wasEmpty : Bool) (depth : ℕ)
  /-- `commit_queue_slot` returned. -/
  | committed (wasEmpty : Bool)
  /-- `try_send` found the channel full. -/
  | full
  /-- `release_queue_slot` returned. -/
  | released
deriving DecidableEq, Repr

/-- Where the relay thread stands in its main loop.  `controlFull` says that it has handled as
many control datagrams as one round allows. -/
inductive RelayPc (P : Type*) where
  /-- Control datagrams and pruning. -/
  | control
  /-- Before `try_recv` in `drain_upstream`. -/
  | draining (controlFull : Bool)
  /-- `try_recv` of the channel returned a packet, which is not counted off. -/
  | received (controlFull : Bool) (packet : P)
  | drained (controlFull budgetExhausted : Bool)
  /-- The snapshot is taken. -/
  | deciding (controlFull budgetExhausted : Bool) (queueDepth : ℕ)
  | waiting
deriving DecidableEq, Repr

/-- What the two threads share, where they stand, and the packets that were captured and
delivered so far. -/
structure CaptureQueue (P : Type*) where
  channel : List P
  queueDepth : ℕ
  queueHighWater : ℕ
  acceptedPackets : ℕ
  queueDrops : ℕ
  notified : Bool
  worker : CapturePc P
  relay : RelayPc P
  captured : List P
  delivered : List P
deriving DecidableEq, Repr

namespace CaptureQueue

variable {P : Type*}

/-- Nothing is captured. -/
def start : CaptureQueue P where
  channel := []
  queueDepth := 0
  queueHighWater := 0
  acceptedPackets := 0
  queueDrops := 0
  notified := false
  worker := .idle
  relay := .control
  captured := []
  delivered := []

/-- The next operation of a thread, with what the environment decides. -/
inductive Label (P : Type*) where
  | capture (packet : P)
  | accept
  | reserveQueueSlot
  | trySend
  | commitLoad
  | commitMax
  | notify
  | releaseQueueSlot
  | countDrop
  | startDrain (controlFull : Bool)
  /-- `exhausted` is what the budget says if the channel is empty. -/
  | tryRecv (exhausted : Bool)
  | recordDequeued
  /-- The budget allows no further packet. -/
  | stopDrain
  | snapshot
  | decide
  /-- The wait returns: for a notification, for a datagram or for its timeout. -/
  | wake
deriving DecidableEq, Repr

/-- `fetch_sub(1)` of an `AtomicUsize`. -/
def fetchSub (depth : ℕ) : ℕ := if depth = 0 then 2 ^ 64 - 1 else depth - 1

theorem fetchSub_of_ne_zero {depth : ℕ} (h : depth ≠ 0) : fetchSub depth = depth - 1 := if_neg h

/-- **One step**, of the thread whose operation the label names; `none` where the thread
does not stand there. -/
def step (capacity : ℕ) (s : CaptureQueue P) : Label P → Option (CaptureQueue P)
  | .capture packet =>
      match s.worker with
      | .idle => some { s with worker := .captured packet, captured := s.captured ++ [packet] }
      | _ => none
  | .accept =>
      match s.worker with
      | .captured packet =>
          some { s with worker := .accepted packet, acceptedPackets := s.acceptedPackets + 1 }
      | _ => none
  | .reserveQueueSlot =>
      match s.worker with
      | .accepted packet =>
          some { s with
            worker := .reserved packet (s.queueDepth == 0) (s.queueDepth + 1)
            queueDepth := s.queueDepth + 1 }
      | _ => none
  | .trySend =>
      match s.worker with
      | .reserved packet wasEmpty reservedDepth =>
          if s.channel.length < capacity then
            some { s with
              worker := .sent wasEmpty reservedDepth
              channel := s.channel ++ [packet] }
          else some { s with worker := .full }
      | _ => none
  | .commitLoad =>
      match s.worker with
      | .sent wasEmpty reservedDepth =>
          some { s with worker := .loaded wasEmpty (min reservedDepth s.queueDepth) }
      | _ => none
  | .commitMax =>
      match s.worker with
      | .loaded wasEmpty depth =>
          some { s with
            worker := .committed wasEmpty
            queueHighWater := max s.queueHighWater depth }
      | _ => none
  | .notify =>
      match s.worker with
      | .committed wasEmpty =>
          some { s with worker := .idle, notified := s.notified || wasEmpty }
      | _ => none
  | .releaseQueueSlot =>
      match s.worker with
      | .full => some { s with worker := .released, queueDepth := fetchSub s.queueDepth }
      | _ => none
  | .countDrop =>
      match s.worker with
      | .released => some { s with worker := .idle, queueDrops := s.queueDrops + 1 }
      | _ => none
  | .startDrain controlFull =>
      match s.relay with
      | .control => some { s with relay := .draining controlFull }
      | _ => none
  | .tryRecv exhausted =>
      match s.relay with
      | .draining controlFull =>
          match s.channel with
          | [] => some { s with relay := .drained controlFull exhausted }
          | packet :: channel =>
              some { s with
                relay := .received controlFull packet
                channel
                delivered := s.delivered ++ [packet] }
      | _ => none
  | .recordDequeued =>
      match s.relay with
      | .received controlFull _ =>
          some { s with relay := .draining controlFull, queueDepth := fetchSub s.queueDepth }
      | _ => none
  | .stopDrain =>
      match s.relay with
      | .draining controlFull => some { s with relay := .drained controlFull true }
      | _ => none
  | .snapshot =>
      match s.relay with
      | .drained controlFull exhausted =>
          some { s with relay := .deciding controlFull exhausted s.queueDepth }
      | _ => none
  | .decide =>
      match s.relay with
      | .deciding controlFull exhausted queueDepth =>
          if controlFull || exhausted || queueDepth != 0 then some { s with relay := .control }
          else some { s with relay := .waiting }
      | _ => none
  | .wake =>
      match s.relay with
      | .waiting => some { s with relay := .control, notified := false }
      | _ => none

/-- The step relation of both threads. -/
def Steps (capacity : ℕ) (s : CaptureQueue P) (label : Label P) (t : CaptureQueue P) : Prop :=
  s.step capacity label = some t

/-- **What one step does**, with where the thread stood before it. -/
inductive Move (capacity : ℕ) (s : CaptureQueue P) : Label P → CaptureQueue P → Prop
  | capture {packet : P} (hw : s.worker = .idle) :
      Move capacity s (.capture packet)
        { s with worker := .captured packet, captured := s.captured ++ [packet] }
  | accept {packet : P} (hw : s.worker = .captured packet) :
      Move capacity s .accept
        { s with worker := .accepted packet, acceptedPackets := s.acceptedPackets + 1 }
  | reserve {packet : P} (hw : s.worker = .accepted packet) :
      Move capacity s .reserveQueueSlot
        { s with
          worker := .reserved packet (s.queueDepth == 0) (s.queueDepth + 1)
          queueDepth := s.queueDepth + 1 }
  | send {packet : P} {wasEmpty : Bool} {reservedDepth : ℕ}
      (hw : s.worker = .reserved packet wasEmpty reservedDepth)
      (hroom : s.channel.length < capacity) :
      Move capacity s .trySend
        { s with worker := .sent wasEmpty reservedDepth, channel := s.channel ++ [packet] }
  | sendFull {packet : P} {wasEmpty : Bool} {reservedDepth : ℕ}
      (hw : s.worker = .reserved packet wasEmpty reservedDepth)
      (hroom : ¬ s.channel.length < capacity) :
      Move capacity s .trySend { s with worker := .full }
  | load {wasEmpty : Bool} {reservedDepth : ℕ} (hw : s.worker = .sent wasEmpty reservedDepth) :
      Move capacity s .commitLoad
        { s with worker := .loaded wasEmpty (min reservedDepth s.queueDepth) }
  | commit {wasEmpty : Bool} {depth : ℕ} (hw : s.worker = .loaded wasEmpty depth) :
      Move capacity s .commitMax
        { s with worker := .committed wasEmpty, queueHighWater := max s.queueHighWater depth }
  | notify {wasEmpty : Bool} (hw : s.worker = .committed wasEmpty) :
      Move capacity s .notify { s with worker := .idle, notified := s.notified || wasEmpty }
  | release (hw : s.worker = .full) :
      Move capacity s .releaseQueueSlot
        { s with worker := .released, queueDepth := fetchSub s.queueDepth }
  | drop (hw : s.worker = .released) :
      Move capacity s .countDrop { s with worker := .idle, queueDrops := s.queueDrops + 1 }
  | startDrain {controlFull : Bool} (hr : s.relay = .control) :
      Move capacity s (.startDrain controlFull) { s with relay := .draining controlFull }
  | recvEmpty {exhausted controlFull : Bool} (hr : s.relay = .draining controlFull)
      (hchannel : s.channel = []) :
      Move capacity s (.tryRecv exhausted) { s with relay := .drained controlFull exhausted }
  | recv {exhausted controlFull : Bool} {packet : P} {channel : List P}
      (hr : s.relay = .draining controlFull) (hchannel : s.channel = packet :: channel) :
      Move capacity s (.tryRecv exhausted)
        { s with
          relay := .received controlFull packet
          channel
          delivered := s.delivered ++ [packet] }
  | dequeued {controlFull : Bool} {packet : P} (hr : s.relay = .received controlFull packet) :
      Move capacity s .recordDequeued
        { s with relay := .draining controlFull, queueDepth := fetchSub s.queueDepth }
  | stopDrain {controlFull : Bool} (hr : s.relay = .draining controlFull) :
      Move capacity s .stopDrain { s with relay := .drained controlFull true }
  | snapshot {controlFull exhausted : Bool} (hr : s.relay = .drained controlFull exhausted) :
      Move capacity s .snapshot { s with relay := .deciding controlFull exhausted s.queueDepth }
  | again {controlFull exhausted : Bool} {queueDepth : ℕ}
      (hr : s.relay = .deciding controlFull exhausted queueDepth)
      (hwork : (controlFull || exhausted || queueDepth != 0) = true) :
      Move capacity s .decide { s with relay := .control }
  | wait {controlFull exhausted : Bool} {queueDepth : ℕ}
      (hr : s.relay = .deciding controlFull exhausted queueDepth)
      (hwork : ¬ (controlFull || exhausted || queueDepth != 0) = true) :
      Move capacity s .decide { s with relay := .waiting }
  | wake (hr : s.relay = .waiting) :
      Move capacity s .wake { s with relay := .control, notified := false }

/-- Every step is one of the moves; the invariants below are read off these. -/
theorem Steps.move {capacity : ℕ} {s t : CaptureQueue P} {label : Label P}
    (hs : Steps capacity s label t) : Move capacity s label t := by
  cases label <;> simp only [Steps, step] at hs <;> (repeat' split at hs) <;> cases hs <;>
    constructor <;> assumption

end CaptureQueue

/-! ## What a program counter says -/

section

variable {P : Type*}

/-- The worker's share of the depth: a slot that is reserved and neither filled nor
released. -/
def CapturePc.reservation : CapturePc P → ℕ
  | .reserved .. | .full => 1
  | _ => 0

/-- The relay's share of the depth: a packet that is received and not counted off. -/
def RelayPc.uncounted : RelayPc P → ℕ
  | .received .. => 1
  | _ => 0

/-- Packets that are accepted and neither queued nor counted as dropped. -/
def CapturePc.inHand : CapturePc P → ℕ
  | .accepted _ | .reserved .. | .full | .released => 1
  | _ => 0

/-- The captured packet that may still be queued. -/
def CapturePc.held : CapturePc P → List P
  | .captured packet | .accepted packet | .reserved packet .. => [packet]
  | _ => []

/-- The worker has sent a packet that it will notify the poller of. -/
def CapturePc.notifyAhead : CapturePc P → Bool
  | .sent wasEmpty _ | .loaded wasEmpty _ | .committed wasEmpty => wasEmpty
  | _ => false

/-- The worker has raised the depth from zero and has not notified the poller yet. -/
def CapturePc.rising : CapturePc P → Bool
  | .reserved _ wasEmpty _ => wasEmpty
  | pc => pc.notifyAhead

/-- The relay waits, or has read a depth of zero and may go to wait. -/
def RelayPc.settled : RelayPc P → Bool
  | .deciding _ _ queueDepth => queueDepth == 0
  | .waiting => true
  | _ => false

end

namespace CaptureQueue

variable {P : Type*} {capacity : ℕ} {s t : CaptureQueue P} {label : Label P}

/-- **The invariant of both threads.** -/
structure Inv (capacity : ℕ) (s : CaptureQueue P) : Prop where
  bounded : s.channel.length ≤ capacity
  depth : s.queueDepth = s.channel.length + s.worker.reservation + s.relay.uncounted
  order : (s.delivered ++ s.channel ++ s.worker.held).Sublist s.captured
  accepted : s.acceptedPackets =
    s.delivered.length + s.queueDrops + s.channel.length + s.worker.inHand
  fresh : ∀ packet depth, s.worker = .reserved packet true depth → s.channel = []
  awake : 0 < capacity → s.relay.settled = true → s.queueDepth ≠ 0 →
    s.notified = true ∨ s.worker.rising = true

theorem inv_start : Inv capacity (start : CaptureQueue P) := by
  constructor <;> simp [start, CapturePc.reservation, RelayPc.uncounted, CapturePc.held,
    CapturePc.inHand]

/-- The depth counts what is queued, reserved, and taken but not yet counted. -/
theorem depth_step (h : Inv capacity s) (hs : Steps capacity s label t) :
    t.queueDepth = t.channel.length + t.worker.reservation + t.relay.uncounted := by
  have hdepth := h.depth
  cases hs.move with
  | capture hw | accept hw | load hw | commit hw | notify hw | drop hw | sendFull hw _ =>
      rw [hw] at hdepth
      exact hdepth
  | reserve hw =>
      simp only [hw, CapturePc.reservation] at hdepth ⊢
      omega
  | send hw _ =>
      simp only [hw, CapturePc.reservation, List.length_append, List.length_singleton] at hdepth ⊢
      omega
  | release hw =>
      simp only [hw, CapturePc.reservation] at hdepth ⊢
      rw [fetchSub_of_ne_zero (by omega)]
      omega
  | recv hr hchannel =>
      simp only [hr, hchannel, RelayPc.uncounted, List.length_cons] at hdepth ⊢
      omega
  | dequeued hr =>
      simp only [hr, RelayPc.uncounted] at hdepth ⊢
      rw [fetchSub_of_ne_zero (by omega)]
      omega
  | startDrain hr | recvEmpty hr _ | stopDrain hr | snapshot hr | again hr _ | wait hr _
  | wake hr =>
      rw [hr] at hdepth
      exact hdepth

theorem bounded_step (h : Inv capacity s) (hs : Steps capacity s label t) :
    t.channel.length ≤ capacity := by
  have hbounded := h.bounded
  cases hs.move with
  | send hw hroom => simpa using hroom
  | recv hr hchannel =>
      rw [hchannel, List.length_cons] at hbounded
      exact Nat.le_of_succ_le hbounded
  | _ => exact hbounded

theorem accepted_step (h : Inv capacity s) (hs : Steps capacity s label t) :
    t.acceptedPackets =
      t.delivered.length + t.queueDrops + t.channel.length + t.worker.inHand := by
  have haccepted := h.accepted
  cases hs.move with
  | accept hw | send hw _ | drop hw =>
      simp only [hw, CapturePc.inHand, List.length_append, List.length_singleton] at haccepted ⊢
      omega
  | recv hr hchannel =>
      simp only [hchannel, List.length_append, List.length_cons, List.length_nil] at haccepted ⊢
      omega
  | capture hw | reserve hw | sendFull hw _ | load hw | commit hw | notify hw | release hw =>
      rw [hw] at haccepted
      exact haccepted
  | _ => exact haccepted

/-- A slot that raised the depth from zero was reserved while the channel was empty, and only
the worker fills the channel. -/
theorem fresh_step (h : Inv capacity s) (hs : Steps capacity s label t) (packet : P) (depth : ℕ)
    (hw : t.worker = .reserved packet true depth) : t.channel = [] := by
  have hfresh := h.fresh
  cases hs.move with
  | reserve =>
      have hzero : s.queueDepth = 0 := by simpa using (CapturePc.reserved.inj hw).2.1
      have hdepth := h.depth
      show s.channel = []
      exact List.eq_nil_of_length_eq_zero (by omega)
  | recv hr hchannel =>
      rw [hfresh packet depth hw] at hchannel
      cases hchannel
  | _ => first | exact hfresh packet depth hw | cases hw

/-- Packets move from the worker's hand through the channel to the relay, in order; one that
does not fit is left out. -/
theorem order_step (h : Inv capacity s) (hs : Steps capacity s label t) :
    (t.delivered ++ t.channel ++ t.worker.held).Sublist t.captured := by
  have horder := h.order
  cases hs.move with
  | capture hw =>
      simp only [hw, CapturePc.held, List.append_nil] at horder
      exact horder.append (List.Sublist.refl _)
  | @sendFull packet _ _ hw _ =>
      simp only [hw, CapturePc.held] at horder
      simpa [CapturePc.held] using (List.sublist_append_left _ [packet]).trans horder
  | send hw _ =>
      simp only [hw, CapturePc.held] at horder
      simpa [CapturePc.held] using horder
  | recv _ hchannel =>
      rw [hchannel] at horder
      simpa using horder
  | accept hw | reserve hw | load hw | commit hw | notify hw | release hw | drop hw =>
      rw [hw] at horder
      exact horder
  | _ => exact horder

/-- **No wakeup is lost.**  The relay settles on a depth of zero; the next slot raises the depth
from zero, is filled since the channel is empty, and is notified of. -/
theorem awake_step (hc : 0 < capacity) (h : Inv capacity s) (hs : Steps capacity s label t)
    (hsettled : t.relay.settled = true) (hd : t.queueDepth ≠ 0) :
    t.notified = true ∨ t.worker.rising = true := by
  have hawake := h.awake hc
  have hdepth := h.depth
  cases hs.move with
  | @reserve packet hw =>
      by_cases hzero : s.queueDepth = 0
      · exact Or.inr (by simp [CapturePc.rising, hzero])
      · have := hawake hsettled hzero
        simp only [hw, CapturePc.rising, CapturePc.notifyAhead, Bool.false_eq_true,
          or_false] at this
        exact Or.inl this
  | send hw _ => simpa [hw, CapturePc.rising, CapturePc.notifyAhead] using hawake hsettled hd
  | @sendFull packet wasEmpty depth hw hfull =>
      -- a slot that raised the depth from zero would have been filled
      refine (hawake hsettled hd).imp_right fun hrising => ?_
      obtain rfl : wasEmpty = true := by simpa [hw, CapturePc.rising] using hrising
      rw [h.fresh packet depth hw] at hfull
      exact absurd hc hfull
  | @notify wasEmpty hw =>
      have hold := hawake hsettled hd
      rw [hw] at hold
      exact Or.inl (Bool.or_eq_true_iff.mpr hold)
  | release hw =>
      have hold := hawake hsettled (by
        simp only [hw, CapturePc.reservation] at hdepth
        omega)
      rw [hw] at hold
      exact hold
  | capture hw | accept hw | load hw | commit hw | drop hw =>
      have hold := hawake hsettled hd
      rw [hw] at hold
      exact hold
  | snapshot => exact absurd (by simpa [RelayPc.settled] using hsettled) hd
  | @wait controlFull exhausted queueDepth hr hwork =>
      -- the relay goes to wait on a depth of zero that it has read
      obtain ⟨-, hzero⟩ : (controlFull = false ∧ exhausted = false) ∧ queueDepth = 0 := by
        simpa using hwork
      exact hawake (by simp [hr, RelayPc.settled, hzero]) hd
  | startDrain | recvEmpty | recv | dequeued | stopDrain | again | wake => cases hsettled

theorem Inv.step (h : Inv capacity s) (hs : Steps capacity s label t) : Inv capacity t :=
  { bounded := bounded_step h hs
    depth := depth_step h hs
    order := order_step h hs
    accepted := accepted_step h hs
    fresh := fresh_step h hs
    awake := fun hc => awake_step hc h hs }

theorem Inv.of_run {labels : List (Label P)} (h : Run (Steps capacity) start labels s) :
    Inv capacity s :=
  h.invariant (fun _ _ _ hi hs => hi.step hs) inv_start

/-- **The hand-over between the threads.**  In every state of every run, the depth counter is
not zero where a thread is about to lower it and counts at least the packets in the channel;
the delivered packets are captured ones in their order, each at most once; every accepted
packet is delivered, dropped, queued or the one in the worker's hand; and if the relay waits
with a packet in the channel, a notification is pending or the worker is still between the
`try_send` and its notification. -/
theorem handover {labels : List (Label P)} (h : Run (Steps capacity) start labels s) :
    (s.worker = .full → s.queueDepth ≠ 0) ∧
    (∀ controlFull packet, s.relay = .received controlFull packet → s.queueDepth ≠ 0) ∧
    s.channel.length ≤ s.queueDepth ∧
    s.delivered.Sublist s.captured ∧
    s.acceptedPackets =
      s.delivered.length + s.queueDrops + s.channel.length + s.worker.inHand ∧
    (s.relay = .waiting → s.channel ≠ [] → s.notified = true ∨ s.worker.notifyAhead = true) := by
  have inv := Inv.of_run h
  have hdepth := inv.depth
  refine ⟨fun hw => ?_, fun controlFull packet hr => ?_, by omega, ?_, inv.accepted,
    fun hr hne => ?_⟩
  · simp only [hw, CapturePc.reservation] at hdepth
    omega
  · simp only [hr, RelayPc.uncounted] at hdepth
    omega
  · have hleft : s.delivered.Sublist (s.delivered ++ s.channel ++ s.worker.held) := by
      simp [List.append_assoc]
    exact hleft.trans inv.order
  · have hlen := List.length_pos_of_ne_nil hne
    have hpos : s.queueDepth ≠ 0 := by omega
    have hc : 0 < capacity := hlen.trans_le inv.bounded
    refine (inv.awake hc (by rw [hr]; rfl) hpos).imp_right fun hrising => ?_
    -- a slot that is only reserved was reserved on an empty channel
    cases hw : s.worker with
    | reserved packet wasEmpty depth =>
        obtain rfl : wasEmpty = true := by simpa [hw, CapturePc.rising] using hrising
        exact absurd (inv.fresh packet depth hw) hne
    | _ => simpa [hw, CapturePc.rising] using hrising

/-- The relay waits, and the worker has sent a packet that it is about to notify of. -/
def waitingRun : List (Label ℕ) :=
  [.startDrain false, .tryRecv false, .snapshot, .capture 1, .accept, .reserveQueueSlot,
    .trySend, .decide]

def waitingQueue : CaptureQueue ℕ where
  channel := [1]
  queueDepth := 1
  queueHighWater := 0
  acceptedPackets := 1
  queueDrops := 0
  notified := false
  worker := .sent true 1
  relay := .waiting
  captured := [1]
  delivered := []

theorem handover_waiting :
    Run (Steps 1) start waitingRun waitingQueue ∧
      (waitingQueue.channel ≠ [] ∧
        (waitingQueue.notified = true ∨ waitingQueue.worker.notifyAhead = true)) := by
  have hrun : Run (Steps 1) start waitingRun waitingQueue :=
    Run.of_foldlM (f := step 1) (by decide)
  have hne : waitingQueue.channel ≠ [] := by decide
  obtain ⟨-, -, -, -, -, hawake⟩ := handover hrun
  exact ⟨hrun, hne, hawake rfl hne⟩

/-! ## The high-water mark -/

/-- What a commit has in hand is at most what it reserved, and the depth does not grow between
a reservation and its commit, so that the commit takes the depth it reads. -/
def Clipped (s : CaptureQueue P) : Prop :=
  ∀ wasEmpty reservedDepth, s.worker = .sent wasEmpty reservedDepth ∨
    (∃ packet, s.worker = .reserved packet wasEmpty reservedDepth) → s.queueDepth ≤ reservedDepth

/-- The depth does not grow before the commit. -/
theorem clipped_step (inv : Inv capacity s) (h : Clipped s) (hs : Steps capacity s label t) :
    Clipped t := by
  have hdepth := inv.depth
  intro wasEmpty reservedDepth hw
  cases hs.move with
  | reserve =>
      obtain ⟨_, hreserved⟩ := hw.resolve_left (by simp)
      exact (CapturePc.reserved.inj hreserved).2.2.le
  | @send packet _ _ hreserved _ =>
      obtain ⟨rfl, rfl⟩ : _ = wasEmpty ∧ _ = reservedDepth := by simpa using hw
      exact h _ _ (.inr ⟨packet, hreserved⟩)
  | dequeued hr =>
      have hold := h wasEmpty reservedDepth hw
      simp only [hr, RelayPc.uncounted] at hdepth
      show fetchSub s.queueDepth ≤ reservedDepth
      rw [fetchSub_of_ne_zero (by omega)]
      omega
  | _ => first | exact h wasEmpty reservedDepth hw | simp at hw

theorem clipped_of_run {labels : List (Label P)} (h : Run (Steps capacity) start labels s) :
    Clipped s := by
  have hboth : Inv capacity s ∧ Clipped s :=
    h.invariant (I := fun s => Inv capacity s ∧ Clipped s)
      (fun _ _ _ hi hs => ⟨hi.1.step hs, clipped_step hi.1 hi.2 hs⟩)
      ⟨inv_start, by simp [Clipped, start]⟩
  exact hboth.2

/-- The state in which a commit reads too much: the channel is full, and the relay has received
a packet that it has not counted off. -/
def Overlaps (capacity : ℕ) (s : CaptureQueue P) : Prop :=
  s.channel.length = capacity ∧ s.relay.uncounted = 1

theorem RelayPc.uncounted_le (pc : RelayPc P) : pc.uncounted ≤ 1 := by
  cases pc <;> simp [RelayPc.uncounted]

/-- A commit reads the packets in the channel and the one that is not counted off. -/
theorem commitLoad_loaded (inv : Inv capacity s) (hclip : Clipped s)
    (hs : Steps capacity s .commitLoad t) :
    ∃ wasEmpty depth, t.worker = .loaded wasEmpty depth ∧
      (capacity < depth ↔ Overlaps capacity s) := by
  cases hs.move with
  | @load wasEmpty reservedDepth hw =>
      refine ⟨wasEmpty, _, rfl, ?_⟩
      have hdepth := inv.depth
      have hle := hclip wasEmpty reservedDepth (.inl hw)
      have hbounded := inv.bounded
      have huncounted := RelayPc.uncounted_le s.relay
      simp only [hw, CapturePc.reservation] at hdepth
      rw [min_eq_right hle, Overlaps]
      omega

/-- The run with the labels `labels` read the depth for a commit in the state `u` and went on
with `later`. -/
def ReadsDepth (capacity : ℕ) (labels : List (Label P)) (u : CaptureQueue P)
    (later : List (Label P)) : Prop :=
  ∃ earlier, labels = earlier ++ .commitLoad :: later ∧ Run (Steps capacity) start earlier u

/-- A commit has read the depth in an overlap, and its maximum is still to be taken. -/
def OverlapPending (capacity : ℕ) (labels : List (Label P)) : Prop :=
  ∃ u later, ReadsDepth capacity labels u later ∧ .commitMax ∉ later ∧ Overlaps capacity u

/-- A commit has read the depth in an overlap and is finished. -/
def OverlapCommitted (capacity : ℕ) (labels : List (Label P)) : Prop :=
  ∃ u later, ReadsDepth capacity labels u later ∧ .commitMax ∈ later ∧ Overlaps capacity u

theorem readsDepth_snoc {labels later : List (Label P)} {u : CaptureQueue P}
    (h : Run (Steps capacity) start labels s) :
    ReadsDepth capacity (labels ++ [label]) u later ↔
      (label = .commitLoad ∧ u = s ∧ later = []) ∨
      ∃ before, later = before ++ [label] ∧ ReadsDepth capacity labels u before := by
  constructor
  · rintro ⟨earlier, hsplit, hrun⟩
    rcases List.eq_nil_or_concat later with rfl | ⟨before, last, rfl⟩
    · obtain ⟨rfl, hlabel⟩ := List.append_inj' hsplit rfl
      exact .inl ⟨List.singleton_inj.mp hlabel, Run.unique hrun h, rfl⟩
    · rw [List.concat_eq_append, ← List.cons_append, ← List.append_assoc] at hsplit
      obtain ⟨hlabels, hlabel⟩ := List.append_inj' hsplit rfl
      obtain rfl := List.singleton_inj.mp hlabel
      exact .inr ⟨before, List.concat_eq_append, earlier, hlabels, hrun⟩
  · rintro (⟨rfl, rfl, rfl⟩ | ⟨before, rfl, earlier, rfl, hrun⟩)
    · exact ⟨labels, rfl, h⟩
    · exact ⟨earlier, by simp, hrun⟩

theorem overlapPending_snoc {labels : List (Label P)}
    (h : Run (Steps capacity) start labels s) :
    OverlapPending capacity (labels ++ [label]) ↔
      (label = .commitLoad ∧ Overlaps capacity s) ∨
      (label ≠ .commitMax ∧ OverlapPending capacity labels) := by
  constructor
  · rintro ⟨u, later, hread, hmax, hoverlap⟩
    rcases (readsDepth_snoc h).mp hread with ⟨rfl, rfl, rfl⟩ | ⟨before, rfl, hold⟩
    · exact .inl ⟨rfl, hoverlap⟩
    · simp only [List.mem_append, List.mem_singleton, not_or] at hmax
      exact .inr ⟨Ne.symm hmax.2, u, before, hold, hmax.1, hoverlap⟩
  · rintro (⟨rfl, hoverlap⟩ | ⟨hlabel, u, later, hread, hmax, hoverlap⟩)
    · exact ⟨s, [], (readsDepth_snoc h).mpr (.inl ⟨rfl, rfl, rfl⟩), by simp, hoverlap⟩
    · refine ⟨u, later ++ [label], (readsDepth_snoc h).mpr (.inr ⟨later, rfl, hread⟩), ?_,
        hoverlap⟩
      simp [hmax, Ne.symm hlabel]

theorem overlapCommitted_snoc {labels : List (Label P)}
    (h : Run (Steps capacity) start labels s) :
    OverlapCommitted capacity (labels ++ [label]) ↔
      OverlapCommitted capacity labels ∨
      (label = .commitMax ∧ OverlapPending capacity labels) := by
  constructor
  · rintro ⟨u, later, hread, hmax, hoverlap⟩
    rcases (readsDepth_snoc h).mp hread with ⟨rfl, rfl, rfl⟩ | ⟨before, rfl, hold⟩
    · simp at hmax
    · by_cases hbefore : .commitMax ∈ before
      · exact .inl ⟨u, before, hold, hbefore, hoverlap⟩
      · have hlabel : label = .commitMax := by
          simpa [hbefore, eq_comm] using hmax
        exact .inr ⟨hlabel, u, before, hold, hbefore, hoverlap⟩
  · rintro (⟨u, later, hread, hmax, hoverlap⟩ | ⟨rfl, u, later, hread, -, hoverlap⟩)
    · exact ⟨u, later ++ [label], (readsDepth_snoc h).mpr (.inr ⟨later, rfl, hread⟩),
        List.mem_append_left _ hmax, hoverlap⟩
    · exact ⟨u, later ++ [.commitMax], (readsDepth_snoc h).mpr (.inr ⟨later, rfl, hread⟩),
        by simp, hoverlap⟩

/-- Only a commit touches what a commit has read and the high-water mark. -/
theorem commit_frame (hload : label ≠ .commitLoad) (hmax : label ≠ .commitMax)
    (hs : Steps capacity s label t) :
    t.queueHighWater = s.queueHighWater ∧
      ∀ wasEmpty depth, t.worker = .loaded wasEmpty depth ↔ s.worker = .loaded wasEmpty depth := by
  cases hs.move with
  | load => exact absurd rfl hload
  | commit => exact absurd rfl hmax
  | capture hw | accept hw | reserve hw | send hw _ | sendFull hw _ | notify hw | release hw
  | drop hw => exact ⟨rfl, by simp [hw]⟩
  | _ => exact ⟨rfl, fun _ _ => Iff.rfl⟩

/-- The high-water mark, and what a commit has in hand, exceed the capacity exactly if a commit
read the depth in an overlap. -/
theorem highWater_run {labels : List (Label P)} (h : Run (Steps capacity) start labels s) :
    (capacity < s.queueHighWater ↔ OverlapCommitted capacity labels) ∧
    ((∃ wasEmpty depth, s.worker = .loaded wasEmpty depth ∧ capacity < depth) ↔
      OverlapPending capacity labels) := by
  induction h with
  | nil => simp [start, OverlapCommitted, OverlapPending, ReadsDepth]
  | @snoc labels s t label hrun hs ih =>
      obtain ⟨hmark, hpending⟩ := ih
      rw [overlapCommitted_snoc hrun, overlapPending_snoc hrun, ← hmark, ← hpending]
      by_cases hload : label = .commitLoad
      · subst hload
        obtain ⟨wasEmpty, depth, hw, hover⟩ :=
          commitLoad_loaded (Inv.of_run hrun) (clipped_of_run hrun) hs
        cases hs.move with
        | load hsent =>
            cases hw
            simp [hsent, ← hover]
      by_cases hmax : label = .commitMax
      · subst hmax
        cases hs.move with
        | commit hw => simp [hw]
      · obtain ⟨hwater, hworker⟩ := commit_frame hload hmax hs
        simp [hwater, hworker, hload, hmax]

/-- **When the high-water mark stays within the capacity.**  It does exactly if no finished
commit read the depth while the channel was full and the relay stood between its receive and
its decrement. -/
theorem highWater_le_iff {labels : List (Label P)} (h : Run (Steps capacity) start labels s) :
    s.queueHighWater ≤ capacity ↔
      ∀ u later, ReadsDepth capacity labels u later → .commitMax ∈ later →
        ¬ Overlaps capacity u := by
  rw [← not_lt, (highWater_run h).1, OverlapCommitted]
  push Not
  rfl

/-! ### A run for each side -/

/-- The labels that bring one captured packet into the channel. -/
def queueOne (packet : P) : List (Label P) :=
  [.capture packet, .accept, .reserveQueueSlot, .trySend, .commitLoad, .commitMax, .notify]

/-- The relay receives the first packet; the second is captured, sent and committed before the
relay has counted off the first. -/
def overlappingRun : List (Label ℕ) :=
  queueOne 1 ++ [.startDrain false, .tryRecv false] ++ queueOne 2

/-- The same with the first packet counted off in time. -/
def orderlyRun : List (Label ℕ) :=
  queueOne 1 ++ [.startDrain false, .tryRecv false, .recordDequeued] ++ queueOne 2

/-- Where `overlappingRun` ends. -/
def overlapped : CaptureQueue ℕ where
  channel := [2]
  queueDepth := 2
  queueHighWater := 2
  acceptedPackets := 2
  queueDrops := 0
  notified := true
  worker := .idle
  relay := .received false 1
  captured := [1, 2]
  delivered := [1]

/-- Where `orderlyRun` ends. -/
def orderly : CaptureQueue ℕ where
  channel := [2]
  queueDepth := 1
  queueHighWater := 1
  acceptedPackets := 2
  queueDrops := 0
  notified := true
  worker := .idle
  relay := .draining false
  captured := [1, 2]
  delivered := [1]

/-- With a channel for one packet, a mark of two. -/
theorem highWater_overlapped :
    Run (Steps 1) start overlappingRun overlapped ∧ 1 < overlapped.queueHighWater :=
  ⟨Run.of_foldlM (f := step 1) (by decide), by decide⟩

theorem highWater_orderly :
    Run (Steps 1) start orderlyRun orderly ∧ orderly.queueHighWater ≤ 1 ∧
      (orderly.queueHighWater ≤ 1 ↔
        ∀ u later, ReadsDepth 1 orderlyRun u later → .commitMax ∈ later → ¬ Overlaps 1 u) := by
  have hrun : Run (Steps 1) start orderlyRun orderly := Run.of_foldlM (f := step 1) (by decide)
  exact ⟨hrun, by decide, highWater_le_iff hrun⟩

end CaptureQueue

end Amt

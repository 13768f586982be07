import Amt.Driad.HoldDown

/-!
# A DNS refresh that brings no new relay

The resolver shuffles the relays of one precedence on every lookup, and the caches on the way
count their TTLs down, so that two answers with the same relays are seldom the same list.
`poll_refresh` compares lists.

The schedule of the probes survives a refresh, whenever it comes, exactly if the answer is the
current one, entry by entry (`schedule_pollRefresh_iff`).  Any other answer starts the round
again: the next probe is due at once, and a backoff is forgotten.
-/

namespace Amt

/-- What the relays are chosen by. -/
def DriadRelaySelection.offer (selection : DriadRelaySelection) : SocketAddr × UInt8 :=
  (selection.relay, selection.record.precedence)

/-- The two answers name the same relays with the same precedences. -/
def SameRelays (earlier later : List DriadRelaySelection) : Prop :=
  ∀ offer, offer ∈ earlier.map DriadRelaySelection.offer ↔
    offer ∈ later.map DriadRelaySelection.offer

/-- What says which relay is probed next, and when. -/
structure ProbeSchedule where
  pending : List DriadCandidate
  currentRank : Option DriadRank
  nextProbeAt : Instant
  retryRoundAt : Option Instant
deriving DecidableEq

namespace DriadSourceTunnel

variable {tunnel : DriadSourceTunnel}

/-- What decides about the next probe. -/
def schedule (tunnel : DriadSourceTunnel) : ProbeSchedule where
  pending := tunnel.pending
  currentRank := tunnel.currentRank
  nextProbeAt := tunnel.nextProbeAt
  retryRoundAt := tunnel.retryRoundAt

/-- A refresh that confirms the current list. -/
theorem pollRefresh_confirmed (hpresent : tunnel.noRelayPresent = false) (rebuiltAt : Instant) :
    (tunnel.pollRefresh (.resolved (.ok tunnel.dnsCandidates)) rebuiltAt).1.schedule
      = tunnel.schedule := by
  simp [pollRefresh, hpresent, schedule]

/-- A refresh that brings another list starts the round again. -/
theorem pollRefresh_changed (hidle : tunnel.active = none) {selections : List DriadRelaySelection}
    (hchanged : tunnel.dnsCandidates ≠ selections) (rebuiltAt : Instant) :
    (tunnel.pollRefresh (.resolved (.ok selections)) rebuiltAt).1
      = rebuildProbeQueue { tunnel with dnsCandidates := selections, noRelayPresent := false }
          rebuiltAt := by
  simp [pollRefresh, hidle, hchanged]

theorem nextProbeAt_rebuildProbeQueue (hpresent : tunnel.noRelayPresent = false) (now : Instant) :
    (tunnel.rebuildProbeQueue now).nextProbeAt = now := by
  simp [rebuildProbeQueue, hpresent]

/-- **Only the same list keeps the schedule.**  For every tunnel that has no active relay and is
not withdrawn, and every answer with its relays and precedences, in any order and with any TTLs:
the refresh leaves the schedule alone at all times from some time on exactly if the answer is
the current list. -/
theorem schedule_pollRefresh_iff (hidle : tunnel.active = none)
    (hpresent : tunnel.noRelayPresent = false) (since : Instant) :
    ∀ selections, SameRelays tunnel.dnsCandidates selections →
      ((∀ rebuiltAt, since ≤ rebuiltAt →
          (tunnel.pollRefresh (.resolved (.ok selections)) rebuiltAt).1.schedule
            = tunnel.schedule) ↔
        tunnel.dnsCandidates = selections) := by
  intro selections _
  constructor
  · intro hkept
    by_contra hchanged
    -- a rebuild makes the next probe due at its own time, and so at two times
    have hdue : ∀ rebuiltAt, since ≤ rebuiltAt → rebuiltAt = tunnel.nextProbeAt := by
      intro rebuiltAt hsince
      have hnext := congrArg ProbeSchedule.nextProbeAt (hkept rebuiltAt hsince)
      rw [pollRefresh_changed hidle hchanged] at hnext
      exact (nextProbeAt_rebuildProbeQueue rfl rebuiltAt).symm.trans hnext
    exact absurd ((hdue (since + 1) (Nat.le_succ since)).trans (hdue since le_rfl).symm)
      (Nat.succ_ne_self since)
  · rintro rfl rebuiltAt -
    exact pollRefresh_confirmed hpresent rebuiltAt

/-! ## Two relays that change places -/

/-- A relay whose record lives for a second. -/
def briefSelection (host : UInt8) : DriadRelaySelection :=
  { tierSelection host with ttl := Duration.fromSecs 1 }

/-- Two probes of the tunnel start two seconds apart. -/
def staggeredTunnel : DriadSourceTunnel :=
  .new (.v4 (.new 198 51 100 7)) .igmpv3 false
    { GatewayDriadConfig.default with happyEyeballsDelay := Duration.fromSecs 2 }
    { protocol := .igmpv3
      records :=
        [{ kind := .modeIsInclude
           group := .v4 (.new 232 1 1 1)
           sources := [.v4 (.new 198 51 100 7)] }] } 0 0

/-- Two relays are found; a second later the next lookup begins. -/
def staggeredRound : List Call :=
  [.poll (pollAt 0 .started fun _ => []),
    .poll (pollAt (Duration.fromMillis 100)
      (.resolved (.ok [briefSelection 1, briefSelection 2])) fun _ => []),
    .poll (pollAt (Duration.fromMillis 1100) .started fun _ => [])]

theorem sameRelays_swapped :
    SameRelays [briefSelection 1, briefSelection 2] [briefSelection 2, briefSelection 1] := by
  intro offer
  simp [or_comm]

/-- The lookup brings the two relays in the other order.  The second probe, which had to wait
for another nine tenths of a second, is sent at once. -/
theorem schedule_pollRefresh_swapped :
    (staggeredTunnel.after staggeredRound).dnsCandidates = [briefSelection 1, briefSelection 2] ∧
      SameRelays [briefSelection 1, briefSelection 2] [briefSelection 2, briefSelection 1] ∧
      (staggeredTunnel.after staggeredRound).active.isNone = true ∧
      (staggeredTunnel.after staggeredRound).noRelayPresent = false ∧
      (staggeredTunnel.after staggeredRound).nextProbeAt = Duration.fromMillis 2100 ∧
      ((staggeredTunnel.after staggeredRound).pollRefresh
          (.resolved (.ok [briefSelection 2, briefSelection 1]))
          (Duration.fromMillis 1200)).1.nextProbeAt = Duration.fromMillis 1200 ∧
      ((staggeredTunnel.after staggeredRound).step
          (.poll (pollAt (Duration.fromMillis 1200) .idle fun _ => []))).probes.length = 1 ∧
      ((staggeredTunnel.after staggeredRound).step
          (.poll (pollAt (Duration.fromMillis 1200)
            (.resolved (.ok [briefSelection 2, briefSelection 1])) fun _ => []))).probes.length
        = 2 := by
  refine ⟨?_, sameRelays_swapped, ?_, ?_, ?_, ?_, ?_, ?_⟩ <;> decide +kernel

/-- The lookup brings the list as it was. -/
theorem schedule_pollRefresh_confirmed :
    (staggeredTunnel.after staggeredRound).active = none ∧
      ∀ rebuiltAt, 0 ≤ rebuiltAt →
        ((staggeredTunnel.after staggeredRound).pollRefresh
            (.resolved (.ok [briefSelection 1, briefSelection 2])) rebuiltAt).1.schedule
          = (staggeredTunnel.after staggeredRound).schedule := by
  have hidle : (staggeredTunnel.after staggeredRound).active = none :=
    Option.isNone_iff_eq_none.mp (by decide +kernel)
  have hlist : (staggeredTunnel.after staggeredRound).dnsCandidates
      = [briefSelection 1, briefSelection 2] := by decide +kernel
  refine ⟨hidle, ?_⟩
  exact (schedule_pollRefresh_iff hidle (by decide +kernel) 0 _
    (hlist ▸ fun _ => Iff.rfl)).mpr hlist

end DriadSourceTunnel

end Amt

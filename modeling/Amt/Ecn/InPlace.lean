import Amt.Packet
import Amt.Lib.InPlace

/-!
# Decapsulation in place

`decapsulate_ecn` rewrites the packet it is given, and its caller still holds that packet
when the call fails.  This module runs the function on a buffer that outlives its errors.

* **The program** (`decapsulateEcnInPlace`) reads and writes the packet in the order of the
  source.  Forgetting the buffer of a failed call gives the function that the gateway's model
  uses (`toOutcome_decapsulateEcnInPlace`).
* **Errors come first.**  Both rewrites validate the packet before they touch it, and a write
  into a valid packet does not fail, so that an error leaves every byte as it was
  (`decapsulateEcnInPlace_of_err`).
* **What a rewrite does** (`SizedPacket.exists_setIpEcn`): the packet has the new ECN field,
  differs in nothing but that field and the checksum that covers it, and its checksum is
  right.
* **Twice is once.**  A codepoint that was written for an outer codepoint is kept for that
  outer codepoint (`decapsulationResult_of_output`).
-/

namespace Amt

open InPlace (inspect write)

/-! ## The program -/

/-- The first byte, or the error of `ok_or`. -/
def firstByte (packet : Bytes) : Outcome EcnError UInt8 :=
  match packet.head? with
  | none => .err .truncated
  | some first => .ok first

/-- `set_ip_ecn` on a buffer. -/
def setIpEcnInPlace (ecn : EcnCodepoint) : InPlace Bytes EcnError Unit := do
  let first ← inspect firstByte
  match first >>> 4 with
  | 4 => do
      let headerLen ← inspect validateIpv4
      let tos ← inspect (byteAt · 1)
      write (setAt · 1 ((tos &&& ~~~(3 : UInt8)) ||| ecn.bits))
      write (copyInto · 10 12 [0, 0])
      let header ← inspect (slice · 0 headerLen)
      write (copyInto · 10 12 (u16ToBe (checksum header)))
  | 6 => do
      inspect validateIpv6
      let classFlow ← inspect (byteAt · 1)
      write (setAt · 1 ((classFlow &&& ~~~(0x30 : UInt8)) ||| (ecn.bits <<< 4)))
  | other => inspect fun _ => .err (.unsupportedVersion other)

/-- The rewrite that follows the decision: none if the packet is to be dropped, or has the
output already. -/
def writeOutput (inner : EcnCodepoint) : Option EcnCodepoint → InPlace Bytes EcnError Unit
  | some output => if output ≠ inner then setIpEcnInPlace output else pure ()
  | none => pure ()

/-- `decapsulate_ecn` on a buffer; a packet to be dropped is not written. -/
def decapsulateEcnInPlace (outer : EcnCodepoint) : InPlace Bytes EcnError EcnDecapsulation := do
  let inner ← inspect ipEcn
  let (output, currentlyUnused) := decapsulationResult inner outer
  writeOutput inner output
  pure { inner, outer, output, currentlyUnused }

/-! ## The functional model -/

/-- **The rewrite is that of the functional model.** -/
theorem toOutcome_setIpEcnInPlace (ecn : EcnCodepoint) (packet : Bytes) :
    (setIpEcnInPlace ecn).toOutcome packet
      = setIpEcn packet ecn >>= fun packet => .ok (packet, ()) := by
  rw [setIpEcnInPlace, setIpEcn, InPlace.toOutcome_inspect_bind, firstByte]
  cases packet.head? with
  | none => rfl
  | some first =>
      rw [Outcome.bind_ok]
      dsimp only
      generalize first >>> 4 = version
      by_cases hv4 : version = 4
      · subst hv4
        simp only [InPlace.toOutcome_inspect_bind, InPlace.toOutcome_write_bind,
          InPlace.toOutcome_write, Outcome.bind_assoc, sumFits_unbounded, Outcome.bind_ok]
      by_cases hv6 : version = 6
      · subst hv6
        simp only [InPlace.toOutcome_inspect_bind, InPlace.toOutcome_write, Outcome.bind_assoc]
      · repeat' split
        all_goals first
          | contradiction
          | rfl

/-- **The functional model forgets the packet of a failed call, and nothing else.** -/
theorem toOutcome_decapsulateEcnInPlace (packet : Bytes) (outer : EcnCodepoint) :
    (decapsulateEcnInPlace outer).toOutcome packet = decapsulateEcn packet outer := by
  rw [decapsulateEcnInPlace, decapsulateEcn, InPlace.toOutcome_inspect_bind]
  congr 1
  funext inner
  rcases decapsulationResult inner outer with ⟨output, currentlyUnused⟩
  dsimp only
  rw [InPlace.toOutcome_bind]
  cases output with
  | none => rfl
  | some output =>
      rw [writeOutput]
      dsimp only
      split
      · rw [toOutcome_setIpEcnInPlace, Outcome.bind_assoc]
        rfl
      · rfl

/-- A packet without an ECN field is given back as it is. -/
theorem decapsulateEcnInPlace_of_err {packet : Bytes} {error : EcnError}
    (h : ipEcn packet = .err error) (outer : EcnCodepoint) :
    decapsulateEcnInPlace outer packet = (.err error, packet) :=
  InPlace.bind_of_err (InPlace.inspect_of_err h)

/-! ## What a rewrite does -/

theorem fromBits_marked_v4 (tos : UInt8) (ecn : EcnCodepoint) :
    EcnCodepoint.fromBits ((tos &&& ~~~(3 : UInt8)) ||| ecn.bits) = ecn := by
  revert tos
  cases ecn <;> decide +kernel

theorem fromBits_marked_v6 (classFlow : UInt8) (ecn : EcnCodepoint) :
    EcnCodepoint.fromBits (((classFlow &&& ~~~(0x30 : UInt8)) ||| (ecn.bits <<< 4)) >>> 4)
      = ecn := by
  revert classFlow
  cases ecn <;> decide +kernel

/-- **The packet with another ECN field**: the field is the new one, nothing else differs but
the IPv4 checksum, and that is still valid if it was. -/
structure Marked (packet packet' : Bytes) (ecn : EcnCodepoint) : Prop where
  ecn_eq : ipEcn packet' = .ok ecn
  frame : EqUpToEcn packet packet'
  checksum_valid : ipVersion packet = 4 → Ipv4ChecksumValid packet → Ipv4ChecksumValid packet'

namespace SizedPacket

variable {packet : Bytes}

theorem eqUpToEcn_refl (h : SizedPacket packet) : EqUpToEcn packet packet := by
  cases h with
  | v4 h => exact .v4 h.version rfl
  | v6 h => exact .v6 h.version rfl

/-- A packet marked with its own codepoint is left alone. -/
theorem marked_self (h : SizedPacket packet) {ecn : EcnCodepoint} (hecn : ipEcn packet = .ok ecn) :
    Marked packet packet ecn :=
  ⟨hecn, h.eqUpToEcn_refl, fun _ hvalid => hvalid⟩

/-- **The second validation cannot fail**, and the rewrite does what it is for. -/
theorem exists_setIpEcn (h : SizedPacket packet) (ecn : EcnCodepoint) :
    ∃ packet', setIpEcn packet ecn = .ok packet' ∧ Marked packet packet' ecn := by
  cases h with
  | @v4 header body h =>
      have hdatagram := h.withEcn ecn
      refine ⟨_, h.setIpEcn ecn, ?_, .v4 h.version (ecn_bits_v4 _ ecn), fun _ _ => ?_⟩
      · rw [hdatagram.toIsSized.ipEcn]
        exact congrArg Outcome.ok (fromBits_marked_v4 header.tos ecn)
      · exact hdatagram.ipv4ChecksumValid
  | @v6 header body h =>
      refine ⟨_, h.setIpEcn ecn, ?_, .v6 h.version (ecn_bits_v6 _ ecn), fun hversion => ?_⟩
      · rw [(h.withEcn ecn).ipEcn]
        exact congrArg Outcome.ok (fromBits_marked_v6 header.classFlow ecn)
      · have hsix : header.versionClass >>> 4 = 4 := hversion
        rw [h.version] at hsix
        exact absurd hsix (by decide)

end SizedPacket

/-! ## What a decapsulation does -/

/-- **Twice is once**: the output for an outer codepoint is its own output. -/
theorem decapsulationResult_of_output {inner outer output : EcnCodepoint}
    (h : (decapsulationResult inner outer).1 = some output) :
    (decapsulationResult output outer).1 = some output := by
  revert h
  cases inner <;> cases outer <;> cases output <;> decide

/-- **A packet with an ECN field** is marked with the output of its own codepoint, or left
alone if there is none. -/
theorem exists_decapsulateEcn_of_ok {packet : Bytes} {inner : EcnCodepoint}
    (h : ipEcn packet = .ok inner) (outer : EcnCodepoint) :
    ∃ packet', decapsulateEcnInPlace outer packet
        = (.ok ⟨inner, outer, (decapsulationResult inner outer).1,
            (decapsulationResult inner outer).2⟩, packet') ∧
      ((decapsulationResult inner outer).1 = none → packet' = packet) ∧
      (∀ output, (decapsulationResult inner outer).1 = some output →
        Marked packet packet' output ∧ (output = inner → packet' = packet)) := by
  have hsized := sizedPacket_of_ipEcn h
  simp only [← InPlace.toOutcome_eq_ok_iff, toOutcome_decapsulateEcnInPlace, decapsulateEcn, h,
    Outcome.bind_ok]
  rcases decapsulationResult inner outer with ⟨output, currentlyUnused⟩
  cases output with
  | none => exact ⟨packet, rfl, fun _ => rfl, by rintro output ⟨⟩⟩
  | some output =>
      by_cases hsame : output = inner
      · subst hsame
        refine ⟨packet, if_neg (not_not.mpr rfl), fun _ => rfl, ?_⟩
        rintro found ⟨⟩
        exact ⟨hsized.marked_self h, fun _ => rfl⟩
      · obtain ⟨packet', hset, hmarked⟩ := hsized.exists_setIpEcn output
        refine ⟨packet', ?_, by rintro ⟨⟩, ?_⟩
        · dsimp only
          rw [if_pos hsame, hset]
          rfl
        · rintro found ⟨⟩
          exact ⟨hmarked, fun heq => absurd heq hsame⟩

/-- **Decapsulation touches the ECN field and what covers it.**  Whatever the packet is, a
call of `decapsulate_ecn` does not panic;

* with an output, the packet has that codepoint afterwards and differs from the one before in
  the two ECN bits and the IPv4 header checksum only: all other bits of the byte they are in,
  and with them the rest of the traffic class and the flow label, are kept.  A checksum that
  was valid, over a header of any length, is valid;
* without an output, or with an error, every byte is what it was;
* a second call with the same outer codepoint changes nothing. -/
theorem decapsulateEcnInPlace_frame (packet : Bytes) (outer : EcnCodepoint) :
    (decapsulateEcnInPlace outer packet).1 ≠ .panic ∧
    (∀ result output packet', decapsulateEcnInPlace outer packet = (.ok result, packet') →
      result.output = some output →
        ipEcn packet' = .ok output ∧ EqUpToEcn packet packet' ∧
        (ipVersion packet = 4 → Ipv4ChecksumValid packet → Ipv4ChecksumValid packet')) ∧
    (∀ result packet', decapsulateEcnInPlace outer packet = (.ok result, packet') →
      result.output = none → packet' = packet) ∧
    (∀ error packet', decapsulateEcnInPlace outer packet = (.err error, packet') →
      packet' = packet) ∧
    ∀ outcome packet', decapsulateEcnInPlace outer packet = (outcome, packet') →
      (decapsulateEcnInPlace outer packet').2 = packet' := by
  cases hecn : ipEcn packet with
  | panic => exact absurd hecn (ipEcn_ne_panic packet)
  | err error =>
      have hrun := decapsulateEcnInPlace_of_err hecn outer
      simp only [hrun]
      refine ⟨by rintro ⟨⟩, by rintro _ _ _ ⟨⟩, by rintro _ _ ⟨⟩, ?_, ?_⟩
      · rintro _ _ ⟨⟩
        rfl
      · rintro _ _ ⟨⟩
        rw [hrun]
  | ok inner =>
      obtain ⟨packet', hrun, hnone, hsome⟩ := exists_decapsulateEcn_of_ok hecn outer
      rw [hrun]
      refine ⟨by rintro ⟨⟩, ?_, ?_, by rintro _ _ ⟨⟩, ?_⟩
      · rintro _ output _ ⟨⟩ houtput
        obtain ⟨hmarked, -⟩ := hsome output houtput
        exact ⟨hmarked.ecn_eq, hmarked.frame, hmarked.checksum_valid⟩
      · rintro _ _ ⟨⟩
        exact hnone
      · rintro _ _ ⟨⟩
        cases houtput : (decapsulationResult inner outer).1 with
        | none =>
            obtain rfl := hnone houtput
            rw [hrun]
        | some output =>
            -- the second call sees the output as its inner codepoint, and keeps it
            obtain ⟨hmarked, -⟩ := hsome output houtput
            obtain ⟨again, hagain, -, hkept⟩ := exists_decapsulateEcn_of_ok hmarked.ecn_eq outer
            rw [hagain]
            exact (hkept output (decapsulationResult_of_output houtput)).2 rfl

end Amt

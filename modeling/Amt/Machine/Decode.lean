import Amt.Machine
import Amt.Protocol.Canonical

/-!
# Decoding on a machine

The decoders of the tunnel messages compute the offsets of the nonces, and subtract twice from
the length of the input.  That they do not panic is known; what is left is that the machine
changes nothing.
-/

namespace Amt

open Outcome (bind_congr_of_ok)

namespace Machine

variable {m : Machine} {permits : Allocation → Bool} {input : Bytes}

/-- The nonces stand at offsets that no machine overflows at. -/
theorem readU32_bind {offset : ℕ} {f g : UInt32 → Outcome DecodeError Message}
    (hoffset : offset ≤ 8) (hf : ∀ nonce, f nonce = g nonce) :
    (m.on permits (Message.readU32 input offset) >>= f) = (Message.readU32 input offset >>= g) := by
  have hfits := representable_of_le permits (m.le_usizeMax (n := offset + 3) (by omega))
  have hread : m.on permits (Message.readU32 input offset) = Message.readU32 input offset :=
    congrArg (· >>= fun _ => u32At input offset) (Outcome.assert_of hfits)
  rw [funext hf, hread]

theorem check_bind {c : Prop} [Decidable c] {α : Type} {f g : Unit → Outcome DecodeError α}
    (hc : c) (hf : f () = g ()) :
    (m.on permits (Target.check c) >>= f) = (Target.check c >>= g) :=
  (congrArg (· >>= f) (Outcome.assert_of (.inr hc))).trans hf

theorem decodeRelayAdvertisement_eq :
    m.on permits (decodeRelayAdvertisement input) = decodeRelayAdvertisement input := by
  refine bind_congr_of_ok fun _ hlen => readU32_bind (by omega) fun nonce => ?_
  exact check_bind (requireAtLeast_eq_ok hlen) rfl

theorem decodeMembershipQuery_eq :
    m.on permits (decodeMembershipQuery input) = decodeMembershipQuery input := by
  refine bind_congr_of_ok fun _ _ => bind_congr_of_ok fun flags _ => ?_
  -- the gateway fields are the last of the message
  refine ite_congr rfl (fun _ => ite_congr rfl (fun _ => rfl) fun hfields => ?_) fun _ => ?_
  · refine check_bind (by omega) (bind_congr_of_ok fun gatewayOffset _ => ?_)
    exact bind_congr_of_ok fun mac _ => readU32_bind le_rfl fun nonce => rfl
  · refine bind_congr_of_ok fun gatewayOffset _ => bind_congr_of_ok fun mac _ => ?_
    exact readU32_bind le_rfl fun nonce => rfl

theorem decode_eq (input : Bytes) : m.on permits (decode input) = decode input := by
  unfold decode
  cases input.head? with
  | none => rfl
  | some first =>
      refine bind_congr_of_ok fun _ _ => bind_congr_of_ok fun messageType _ => ?_
      cases messageType with
      | relayDiscovery => exact bind_congr_of_ok fun _ _ => readU32_bind (by omega) fun _ => rfl
      | relayAdvertisement => exact decodeRelayAdvertisement_eq
      | request =>
          refine bind_congr_of_ok fun _ _ => bind_congr_of_ok fun flags _ => ?_
          exact readU32_bind (by omega) fun _ => rfl
      | membershipQuery => exact decodeMembershipQuery_eq
      | membershipUpdate =>
          refine bind_congr_of_ok fun _ _ => bind_congr_of_ok fun mac _ => ?_
          exact readU32_bind le_rfl fun _ => rfl
      | multicastData => rfl
      | teardown =>
          refine bind_congr_of_ok fun _ _ => bind_congr_of_ok fun mac _ => ?_
          exact readU32_bind le_rfl fun _ => rfl

/-- **Decoding is safe**: no byte string makes the decoder overflow or read outside of it. -/
theorem agree_decode (input : Bytes) :
    m.Agrees permits (decode input) fun _ => True :=
  ⟨decode_eq input, decode_ne_panic input, fun _ _ => trivial⟩

end Machine

end Amt

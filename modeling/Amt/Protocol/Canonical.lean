import Amt.Protocol

/-!
# What the decoder accepts

`decode_encode` says that the decoder reads every encoding.  This module is the other
direction: a byte string the decoder accepts is the encoding of the message it returns,
with the bits that the format reserves left free.

* **The reserved bits** of a message are a mask over its first bytes
  (`Message.reservedBits`): the padding of Discovery, Advertisement and Request, the second
  byte of Update, Data and Teardown, and the flag bits that Request and Query do not use.
* `encode_of_decode`: encoding what was decoded gives the datagram back, with its reserved
  bits cleared.
* `decode_ne_panic`: no byte string takes a read out of its bounds.

`codec_exact` puts both directions together.
-/

namespace Amt

open Outcome (bind_ok bind_eq_ok_iff bind_ne_panic pure_eq_ok ensure_eq_ok_iff ensure_ne_panic)

/-! ## Reserved bits -/

/-- The bits of the first bytes that a receiver ignores. -/
def Message.reservedBits : Message → Bytes
  | .relayDiscovery _ | .relayAdvertisement _ _ => [0, 0xff, 0xff, 0xff]
  | .request _ _ _ => [0, 0xfc, 0xff, 0xff]
  | .membershipQuery _ _ _ _ _ => [0, 0xfc]
  | .membershipUpdate _ _ _ | .multicastData _ | .teardown _ _ _ => [0, 0xff]

/-- Clear the bits of the mask; bytes beyond the mask stay as they are. -/
def clearBits : Bytes → Bytes → Bytes
  | m :: mask, b :: bytes => (b &&& ~~~m) :: clearBits mask bytes
  | _, bytes => bytes

theorem length_clearBits (mask bytes : Bytes) : (clearBits mask bytes).length = bytes.length := by
  induction mask generalizing bytes with
  | nil => cases bytes <;> rfl
  | cons m mask ih =>
      cases bytes with
      | nil => rfl
      | cons b bytes => simp [clearBits, ih]

theorem clearBits_nil (bytes : Bytes) : clearBits [] bytes = bytes := by cases bytes <;> rfl

/-- The first byte carries version and type, and nothing is reserved in it. -/
theorem clearBits_first (mask : Bytes) (first : UInt8) (rest : Bytes) :
    clearBits (0 :: mask) (first :: rest) = first :: clearBits mask rest := by
  have hfirst : first &&& ~~~(0 : UInt8) = first := by
    revert first
    decide +kernel
  rw [clearBits, hfirst]

/-- A byte that is reserved as a whole reads as zero. -/
theorem clearBits_reserved (mask : Bytes) (b : UInt8) (rest : Bytes) :
    clearBits (0xff :: mask) (b :: rest) = 0 :: clearBits mask rest := by
  have hb : b &&& ~~~(0xff : UInt8) = 0 := by
    revert b
    decide +kernel
  rw [clearBits, hb]

/-- Two flag bits and six reserved ones. -/
theorem clearBits_flags (mask : Bytes) (flags : UInt8) (rest : Bytes) :
    clearBits (0xfc :: mask) (flags :: rest)
      = ((flag (flags &&& 0x02 != 0) <<< 1) ||| flag (flags &&& 0x01 != 0))
        :: clearBits mask rest := by
  have hflags : flags &&& ~~~(0xfc : UInt8)
      = (flag (flags &&& 0x02 != 0) <<< 1) ||| flag (flags &&& 0x01 != 0) := by
    revert flags
    decide +kernel
  rw [clearBits, hflags]

/-! ## Inversion -/

theorem requireExact_eq_ok {messageType : MessageType} {input : Bytes} {n : ℕ}
    (h : requireExact messageType input n = .ok ()) : input.length = n := by
  unfold requireExact at h
  split at h
  · assumption
  · split at h <;> cases h

theorem requireAtLeast_eq_ok {messageType : MessageType} {input : Bytes} {n : ℕ}
    (h : requireAtLeast messageType input n = .ok ()) : n ≤ input.length := by
  unfold requireAtLeast at h
  split at h
  · assumption
  · cases h

theorem readResponseMac_eq_ok {input : Bytes} {mac : ResponseMac}
    (h : readResponseMac input = .ok mac) : mac.bytes.toList = (input.take 8).drop 2 := by
  obtain ⟨bytes, hslice, h⟩ := bind_eq_ok_iff.mp h
  obtain ⟨octets, hoctets, h⟩ := bind_eq_ok_iff.mp h
  obtain rfl := Outcome.ok.inj h
  rw [Octets.toList_of_ofSlice hoctets, slice_eq_ok hslice]

theorem readGatewayEndpoint_eq_ok {input : Bytes} {gateway : GatewayEndpoint}
    (h : readGatewayEndpoint input = .ok gateway) : putGatewayEndpoint [] gateway = input := by
  obtain ⟨_, hlen, h⟩ := bind_eq_ok_iff.mp h
  obtain ⟨bytes, hslice, h⟩ := bind_eq_ok_iff.mp h
  obtain ⟨octets, hoctets, h⟩ := bind_eq_ok_iff.mp h
  obtain ⟨port, hport, h⟩ := bind_eq_ok_iff.mp h
  obtain rfl := Outcome.ok.inj h
  rw [ensure_eq_ok_iff, gatewayFieldsLen] at hlen
  have haddress : octets.toList = input.drop 2 := by
    rw [Octets.toList_of_ofSlice hoctets, slice_eq_ok hslice, List.take_of_length_le (by omega)]
  show [] ++ u16ToBe port ++ octets.toList = input
  rw [List.nil_append, u16ToBe_of_u16At hport, haddress, take_drop_append_drop _ (by omega)]
  rfl

/-- The Response MAC and the nonce are the ten bytes behind the first two. -/
theorem mac_append_nonce {input : Bytes} {mac : ResponseMac} {nonce : UInt32}
    (hmac : readResponseMac input = .ok mac)
    (hnonce : Message.readU32 input 8 = .ok nonce) (back : Bytes)
    (hback : back = input.drop 12) :
    mac.bytes.toList ++ (u32ToBe nonce ++ back) = input.drop 2 := by
  rw [readResponseMac_eq_ok hmac, u32ToBe_of_u32At hnonce, hback,
    take_drop_append_drop _ (by omega), take_drop_append_drop _ (by omega)]

/-- The nonce is the four bytes behind the first four. -/
theorem nonce_append {input : Bytes} {nonce : UInt32}
    (hnonce : Message.readU32 input 4 = .ok nonce) (back : Bytes)
    (hback : back = input.drop 8) : u32ToBe nonce ++ back = input.drop 4 := by
  rw [u32ToBe_of_u32At hnonce, hback, take_drop_append_drop _ (by omega)]

/-- A message of at least eight bytes, behind its first one. -/
theorem exists_cons_three (rest : Bytes) (h : 8 ≤ rest.length + 1) :
    ∃ a b c tail, rest = a :: b :: c :: tail := by
  match rest, h with
  | a :: b :: c :: tail, _ => exact ⟨a, b, c, tail, rfl⟩

theorem exists_cons_one (rest : Bytes) (h : 2 ≤ rest.length + 1) :
    ∃ a tail, rest = a :: tail := by
  match rest, h with
  | a :: tail, _ => exact ⟨a, tail, rfl⟩

/-! ## Encoding what was decoded -/

section Decoders

variable {rest : Bytes} {message : Message}

theorem encode_of_decodeRelayDiscovery
    (h : decodeRelayDiscovery (header .relayDiscovery :: rest) = .ok message) :
    encode message = clearBits message.reservedBits (header .relayDiscovery :: rest) := by
  obtain ⟨_, hlen, h⟩ := bind_eq_ok_iff.mp h
  obtain ⟨nonce, hnonce, h⟩ := bind_eq_ok_iff.mp h
  obtain rfl := Outcome.ok.inj h
  have hlen := requireExact_eq_ok hlen
  rw [List.length_cons] at hlen
  obtain ⟨a, b, c, tail, rfl⟩ := exists_cons_three rest (by omega)
  have htail : u32ToBe nonce ++ [] = tail :=
    nonce_append hnonce [] (List.drop_eq_nil_of_le (by simp at hlen ⊢; omega)).symm
  rw [Message.reservedBits, clearBits_first, clearBits_reserved, clearBits_reserved,
    clearBits_reserved, clearBits_nil, ← htail, List.append_nil]
  rfl

theorem encode_of_decodeRelayAdvertisement
    (h : decodeRelayAdvertisement (header .relayAdvertisement :: rest) = .ok message) :
    encode message = clearBits message.reservedBits (header .relayAdvertisement :: rest) := by
  obtain ⟨_, hlen, h⟩ := bind_eq_ok_iff.mp h
  obtain ⟨nonce, hnonce, h⟩ := bind_eq_ok_iff.mp h
  obtain ⟨_, -, h⟩ := bind_eq_ok_iff.mp h
  have hlen := requireAtLeast_eq_ok hlen
  rw [List.length_cons] at hlen
  obtain ⟨a, b, c, tail, rfl⟩ := exists_cons_three rest hlen
  generalize hinput : header .relayAdvertisement :: a :: b :: c :: tail = input at h hnonce
  have hmask : ∀ address, clearBits (Message.relayAdvertisement nonce address).reservedBits input
      = [header .relayAdvertisement, 0, 0, 0] ++ tail := by
    intro address
    rw [← hinput, Message.reservedBits, clearBits_first, clearBits_reserved, clearBits_reserved,
      clearBits_reserved, clearBits_nil]
    rfl
  have htail : ∀ back, back = input.drop 8 → u32ToBe nonce ++ back = tail := by
    intro back hback
    rw [nonce_append hnonce back hback, ← hinput]
    rfl
  split at h
  · rename_i hlength
    obtain ⟨b₀, h₀, h⟩ := bind_eq_ok_iff.mp h
    obtain ⟨b₁, h₁, h⟩ := bind_eq_ok_iff.mp h
    obtain ⟨b₂, h₂, h⟩ := bind_eq_ok_iff.mp h
    obtain ⟨b₃, h₃, h⟩ := bind_eq_ok_iff.mp h
    obtain rfl := Outcome.ok.inj h
    have hbytes : [b₀, b₁, b₂, b₃] = input.drop 8 := by
      have htake : input.take 12 = input := List.take_of_length_le (by omega)
      rw [← htake, take_drop_eq_cons (byteAt_eq_ok_iff.mp h₀) (by omega),
        take_drop_eq_cons (byteAt_eq_ok_iff.mp h₁) (by omega),
        take_drop_eq_cons (byteAt_eq_ok_iff.mp h₂) (by omega),
        take_drop_eq_cons (byteAt_eq_ok_iff.mp h₃) (by omega), take_drop_self]
    rw [hmask, ← htail _ hbytes]
    rfl
  · split at h
    · rename_i hlength
      obtain ⟨bytes, hslice, h⟩ := bind_eq_ok_iff.mp h
      obtain ⟨octets, hoctets, h⟩ := bind_eq_ok_iff.mp h
      obtain rfl := Outcome.ok.inj h
      have hbytes : octets.toList = input.drop 8 := by
        rw [Octets.toList_of_ofSlice hoctets, slice_eq_ok hslice,
          List.take_of_length_le (by omega)]
      rw [hmask, ← htail _ hbytes]
      rfl
    · cases h

theorem encode_of_decodeRequest (h : decodeRequest (header .request :: rest) = .ok message) :
    encode message = clearBits message.reservedBits (header .request :: rest) := by
  obtain ⟨_, hlen, h⟩ := bind_eq_ok_iff.mp h
  obtain ⟨flags, hflags, h⟩ := bind_eq_ok_iff.mp h
  obtain ⟨nonce, hnonce, h⟩ := bind_eq_ok_iff.mp h
  obtain rfl := Outcome.ok.inj h
  have hlen := requireExact_eq_ok hlen
  rw [List.length_cons] at hlen
  obtain ⟨a, b, c, tail, rfl⟩ := exists_cons_three rest (by omega)
  obtain rfl : a = flags := Outcome.ok.inj hflags
  have htail : u32ToBe nonce ++ [] = tail :=
    nonce_append hnonce [] (List.drop_eq_nil_of_le (by simp at hlen ⊢; omega)).symm
  have hprotocol : (MembershipProtocol.fromPFlag (a &&& 0x01 != 0)).pFlag = (a &&& 0x01 != 0) := by
    cases a &&& 0x01 != 0 <;> rfl
  rw [Message.reservedBits, clearBits_first, clearBits_flags, clearBits_reserved,
    clearBits_reserved, clearBits_nil, ← htail, List.append_nil, encode, Message.encodeInto,
    hprotocol]
  rfl

theorem encode_of_decodeMembershipUpdate
    (h : decodeMembershipUpdate (header .membershipUpdate :: rest) = .ok message) :
    encode message = clearBits message.reservedBits (header .membershipUpdate :: rest) := by
  obtain ⟨_, hlen, h⟩ := bind_eq_ok_iff.mp h
  obtain ⟨mac, hmac, h⟩ := bind_eq_ok_iff.mp h
  obtain ⟨nonce, hnonce, h⟩ := bind_eq_ok_iff.mp h
  obtain ⟨update, hupdate, h⟩ := bind_eq_ok_iff.mp h
  obtain rfl := Outcome.ok.inj h
  have hlen := requireAtLeast_eq_ok hlen
  rw [List.length_cons] at hlen
  obtain ⟨a, tail, rfl⟩ := exists_cons_one rest (by omega)
  have htail : mac.bytes.toList ++ (u32ToBe nonce ++ update) = tail :=
    mac_append_nonce hmac hnonce _ (sliceFrom_eq_ok hupdate)
  rw [Message.reservedBits, clearBits_first, clearBits_reserved, clearBits_nil, ← htail]
  simp [encode, Message.encodeInto]

theorem encode_of_decodeMulticastData
    (h : decodeMulticastData (header .multicastData :: rest) = .ok message) :
    encode message = clearBits message.reservedBits (header .multicastData :: rest) := by
  obtain ⟨_, hlen, h⟩ := bind_eq_ok_iff.mp h
  obtain ⟨packet, hpacket, h⟩ := bind_eq_ok_iff.mp h
  obtain rfl := Outcome.ok.inj h
  have hlen := requireAtLeast_eq_ok hlen
  rw [List.length_cons] at hlen
  obtain ⟨a, tail, rfl⟩ := exists_cons_one rest (by omega)
  obtain rfl : packet = tail := sliceFrom_eq_ok hpacket
  rw [Message.reservedBits, clearBits_first, clearBits_reserved, clearBits_nil]
  rfl

theorem encode_of_decodeTeardown (h : decodeTeardown (header .teardown :: rest) = .ok message) :
    encode message = clearBits message.reservedBits (header .teardown :: rest) := by
  obtain ⟨_, hlen, h⟩ := bind_eq_ok_iff.mp h
  obtain ⟨mac, hmac, h⟩ := bind_eq_ok_iff.mp h
  obtain ⟨nonce, hnonce, h⟩ := bind_eq_ok_iff.mp h
  obtain ⟨fields, hfields, h⟩ := bind_eq_ok_iff.mp h
  obtain ⟨gateway, hgateway, h⟩ := bind_eq_ok_iff.mp h
  obtain rfl := Outcome.ok.inj h
  have hlen := requireExact_eq_ok hlen
  rw [List.length_cons, gatewayFieldsLen] at hlen
  obtain ⟨a, tail, rfl⟩ := exists_cons_one rest (by omega)
  have htail : mac.bytes.toList ++ (u32ToBe nonce ++ putGatewayEndpoint [] gateway) = tail := by
    refine mac_append_nonce hmac hnonce _ ?_
    rw [readGatewayEndpoint_eq_ok hgateway, sliceFrom_eq_ok hfields]
  rw [Message.reservedBits, clearBits_first, clearBits_reserved, clearBits_nil, ← htail]
  simp [encode, Message.encodeInto, putGatewayEndpoint]

/-- The trailing gateway fields are split off at the same place where they are put. -/
theorem decodeMembershipQuery_eq_ok {input : Bytes}
    (h : decodeMembershipQuery input = .ok message) :
    12 ≤ input.length ∧ ∃ flags mac nonce gateway query,
      (byteAt input 1 : Outcome DecodeError UInt8) = .ok flags ∧
        readResponseMac input = .ok mac ∧
        Message.readU32 input 8 = .ok nonce ∧
        gateway.isSome = (flags &&& 0x01 != 0) ∧
        query ++ gateway.elim [] (putGatewayEndpoint []) = input.drop 12 ∧
        message = .membershipQuery mac nonce (flags &&& 0x02 != 0) gateway query := by
  obtain ⟨_, hlen, h⟩ := bind_eq_ok_iff.mp h
  obtain ⟨flags, hflags, h⟩ := bind_eq_ok_iff.mp h
  refine ⟨requireAtLeast_eq_ok hlen, flags, ?_⟩
  dsimp only at h
  cases hflag : (flags &&& 0x01 != 0) with
  | false =>
      simp only [hflag, Bool.false_eq_true, if_false, pure_eq_ok, bind_ok] at h
      obtain ⟨mac, hmac, h⟩ := bind_eq_ok_iff.mp h
      obtain ⟨nonce, hnonce, h⟩ := bind_eq_ok_iff.mp h
      obtain ⟨query, hquery, h⟩ := bind_eq_ok_iff.mp h
      refine ⟨mac, nonce, none, query, hflags, hmac, hnonce, rfl, ?_, (Outcome.ok.inj h).symm⟩
      rw [slice_eq_ok hquery, List.take_length, Option.elim_none, List.append_nil]
  | true =>
      simp only [hflag, if_true] at h
      split at h
      · cases h
      · rename_i hfields
        simp only [Target.check_unbounded, pure_eq_ok, bind_ok] at h
        obtain ⟨mac, hmac, h⟩ := bind_eq_ok_iff.mp h
        obtain ⟨nonce, hnonce, h⟩ := bind_eq_ok_iff.mp h
        obtain ⟨fields, hslice, h⟩ := bind_eq_ok_iff.mp h
        obtain ⟨gateway, hgateway, h⟩ := bind_eq_ok_iff.mp h
        obtain ⟨query, hquery, h⟩ := bind_eq_ok_iff.mp h
        cases hread : readGatewayEndpoint fields with
        | err error => rw [hread] at hgateway; cases hgateway
        | panic => rw [hread] at hgateway; cases hgateway
        | ok endpoint =>
            rw [hread] at hgateway
            obtain rfl : some endpoint = gateway := Outcome.ok.inj hgateway
            refine ⟨mac, nonce, some endpoint, query, hflags, hmac, hnonce, rfl, ?_,
              (Outcome.ok.inj h).symm⟩
            rw [slice_eq_ok hquery, Option.elim_some, readGatewayEndpoint_eq_ok hread,
              sliceFrom_eq_ok hslice]
            exact take_drop_append_drop _ (by omega)

theorem encode_of_decodeMembershipQuery
    (h : decodeMembershipQuery (header .membershipQuery :: rest) = .ok message) :
    encode message = clearBits message.reservedBits (header .membershipQuery :: rest) := by
  obtain ⟨hlen, flags, mac, nonce, gateway, query, hflags, hmac, hnonce, hsome, hback, rfl⟩ :=
    decodeMembershipQuery_eq_ok h
  rw [List.length_cons] at hlen
  obtain ⟨a, tail, rfl⟩ := exists_cons_one rest (by omega)
  obtain rfl : a = flags := Outcome.ok.inj hflags
  have htail : mac.bytes.toList ++ (u32ToBe nonce ++
      (query ++ gateway.elim [] (putGatewayEndpoint []))) = tail :=
    mac_append_nonce hmac hnonce _ hback
  rw [Message.reservedBits, clearBits_first, clearBits_flags, clearBits_nil, ← htail, ← hsome]
  cases gateway with
  | none => simp [encode, Message.encodeInto]
  | some endpoint => simp [encode, Message.encodeInto, putGatewayEndpoint]

end Decoders

/-- A first byte that passes the version check and selects a message type. -/
theorem eq_header_of_fromNibble {first : UInt8} {messageType : MessageType}
    (hversion : (first &&& 0xf0) >>> 4 = version)
    (htype : MessageType.fromNibble (first &&& 0x0f) = .ok messageType) :
    first = header messageType := by
  have hall : ∀ first : UInt8, ((first &&& 0xf0) >>> 4 = version) →
      ∀ messageType ∈ [MessageType.relayDiscovery, .relayAdvertisement, .request,
        .membershipQuery, .membershipUpdate, .multicastData, .teardown],
        MessageType.fromNibble (first &&& 0x0f) = .ok messageType → first = header messageType := by
    decide +kernel
  refine hall first hversion messageType ?_ htype
  cases messageType <;> simp

/-- **What is decoded encodes to the datagram**, with its reserved bits cleared. -/
theorem encode_of_decode {input : Bytes} {message : Message} (h : decode input = .ok message) :
    encode message = clearBits message.reservedBits input := by
  cases input with
  | nil => cases h
  | cons first rest =>
      obtain ⟨_, hversion, h⟩ := bind_eq_ok_iff.mp h
      obtain ⟨messageType, htype, h⟩ := bind_eq_ok_iff.mp h
      obtain rfl := eq_header_of_fromNibble (ensure_eq_ok_iff.mp hversion) htype
      cases messageType with
      | relayDiscovery => exact encode_of_decodeRelayDiscovery h
      | relayAdvertisement => exact encode_of_decodeRelayAdvertisement h
      | request => exact encode_of_decodeRequest h
      | membershipQuery => exact encode_of_decodeMembershipQuery h
      | membershipUpdate => exact encode_of_decodeMembershipUpdate h
      | multicastData => exact encode_of_decodeMulticastData h
      | teardown => exact encode_of_decodeTeardown h

/-- The buffer is reserved to the byte. -/
theorem length_encode (message : Message) : (encode message).length = message.encodedLen := by
  cases message with
  | relayDiscovery nonce => rfl
  | request nonce protocol ecnCapable => rfl
  | relayAdvertisement nonce address =>
      cases address <;> simp [encode, Message.encodeInto, Message.encodedLen]
  | membershipQuery mac nonce limit gateway query =>
      cases gateway with
      | none =>
          simp [encode, Message.encodeInto, Message.encodedLen]
          omega
      | some endpoint =>
          simp [encode, Message.encodeInto, Message.encodedLen, putGatewayEndpoint,
            gatewayFieldsLen]
          omega
  | membershipUpdate mac nonce update =>
      simp [encode, Message.encodeInto, Message.encodedLen]
      omega
  | multicastData packet =>
      simp [encode, Message.encodeInto, Message.encodedLen]
      omega
  | teardown mac nonce gateway =>
      simp [encode, Message.encodeInto, Message.encodedLen, putGatewayEndpoint, gatewayFieldsLen]

/-! ## Every read is within bounds -/

theorem requireExact_ne_panic (messageType : MessageType) (input : Bytes) (n : ℕ) :
    requireExact messageType input n ≠ .panic := by
  unfold requireExact
  split
  · simp
  · split <;> simp

theorem requireAtLeast_ne_panic (messageType : MessageType) (input : Bytes) (n : ℕ) :
    requireAtLeast messageType input n ≠ .panic := by
  unfold requireAtLeast
  split <;> simp

theorem readResponseMac_ne_panic {input : Bytes} (h : 8 ≤ input.length) :
    readResponseMac input ≠ .panic := by
  refine bind_ne_panic (slice_ne_panic (by omega) h) fun bytes hbytes => ?_
  refine bind_ne_panic (Octets.ofSlice_ne_panic ?_) fun _ _ => by simp
  rw [slice_eq_ok hbytes]
  simp
  omega

theorem readGatewayEndpoint_ne_panic (input : Bytes) : readGatewayEndpoint input ≠ .panic := by
  refine bind_ne_panic ensure_ne_panic fun _ hlen => ?_
  rw [ensure_eq_ok_iff, gatewayFieldsLen] at hlen
  refine bind_ne_panic (slice_ne_panic (by omega) (by omega)) fun bytes hbytes => ?_
  refine bind_ne_panic (Octets.ofSlice_ne_panic ?_) fun _ _ => ?_
  · rw [slice_eq_ok hbytes]
    simp
    omega
  · exact bind_ne_panic (u16At_ne_panic (by omega)) fun _ _ => by simp

section Bounds

variable (input : Bytes)

theorem decodeRelayDiscovery_ne_panic : decodeRelayDiscovery input ≠ .panic := by
  refine bind_ne_panic (requireExact_ne_panic _ _ _) fun _ hlen => ?_
  have hlen := requireExact_eq_ok hlen
  exact bind_ne_panic (u32At_ne_panic (by omega)) fun _ _ => by simp

theorem decodeRelayAdvertisement_ne_panic : decodeRelayAdvertisement input ≠ .panic := by
  refine bind_ne_panic (requireAtLeast_ne_panic _ _ _) fun _ hlen => ?_
  have hlen := requireAtLeast_eq_ok hlen
  refine bind_ne_panic (u32At_ne_panic (by omega)) fun _ _ => ?_
  refine bind_ne_panic (by simp) fun _ _ => ?_
  split
  · refine bind_ne_panic (byteAt_ne_panic (by omega)) fun _ _ => ?_
    refine bind_ne_panic (byteAt_ne_panic (by omega)) fun _ _ => ?_
    refine bind_ne_panic (byteAt_ne_panic (by omega)) fun _ _ => ?_
    exact bind_ne_panic (byteAt_ne_panic (by omega)) fun _ _ => by simp
  · split
    · refine bind_ne_panic (slice_ne_panic (by omega) (by omega)) fun bytes hbytes => ?_
      refine bind_ne_panic (Octets.ofSlice_ne_panic ?_) fun _ _ => by simp
      rw [slice_eq_ok hbytes]
      simp
      omega
    · simp

theorem decodeRequest_ne_panic : decodeRequest input ≠ .panic := by
  refine bind_ne_panic (requireExact_ne_panic _ _ _) fun _ hlen => ?_
  have hlen := requireExact_eq_ok hlen
  refine bind_ne_panic (byteAt_ne_panic (by omega)) fun _ _ => ?_
  exact bind_ne_panic (u32At_ne_panic (by omega)) fun _ _ => by simp

theorem decodeMembershipQuery_ne_panic : decodeMembershipQuery input ≠ .panic := by
  refine bind_ne_panic (requireAtLeast_ne_panic _ _ _) fun _ hlen => ?_
  have hlen := requireAtLeast_eq_ok hlen
  refine bind_ne_panic (byteAt_ne_panic (by omega)) fun flags _ => ?_
  dsimp only
  cases flags &&& 0x01 != 0 with
  | false =>
      simp only [Bool.false_eq_true, if_false, pure_eq_ok, bind_ok]
      refine bind_ne_panic (readResponseMac_ne_panic (by omega)) fun _ _ => ?_
      refine bind_ne_panic (u32At_ne_panic (by omega)) fun _ _ => ?_
      exact bind_ne_panic (slice_ne_panic hlen le_rfl) fun _ _ => by simp
  | true =>
      simp only [if_true]
      split
      · simp
      · rename_i hfields
        simp only [Target.check_unbounded, pure_eq_ok, bind_ok]
        refine bind_ne_panic (readResponseMac_ne_panic (by omega)) fun _ _ => ?_
        refine bind_ne_panic (u32At_ne_panic (by omega)) fun _ _ => ?_
        refine bind_ne_panic (sliceFrom_ne_panic (by omega)) fun fields _ => ?_
        refine bind_ne_panic (Outcome.map_ne_panic (readGatewayEndpoint_ne_panic fields))
          fun _ _ => ?_
        exact bind_ne_panic (slice_ne_panic (by omega) (by omega)) fun _ _ => by simp

theorem decodeMembershipUpdate_ne_panic : decodeMembershipUpdate input ≠ .panic := by
  refine bind_ne_panic (requireAtLeast_ne_panic _ _ _) fun _ hlen => ?_
  have hlen := requireAtLeast_eq_ok hlen
  refine bind_ne_panic (readResponseMac_ne_panic (by omega)) fun _ _ => ?_
  refine bind_ne_panic (u32At_ne_panic (by omega)) fun _ _ => ?_
  exact bind_ne_panic (sliceFrom_ne_panic hlen) fun _ _ => by simp

theorem decodeMulticastData_ne_panic : decodeMulticastData input ≠ .panic := by
  refine bind_ne_panic (requireAtLeast_ne_panic _ _ _) fun _ hlen => ?_
  have hlen := requireAtLeast_eq_ok hlen
  exact bind_ne_panic (sliceFrom_ne_panic hlen) fun _ _ => by simp

theorem decodeTeardown_ne_panic : decodeTeardown input ≠ .panic := by
  refine bind_ne_panic (requireExact_ne_panic _ _ _) fun _ hlen => ?_
  have hlen := requireExact_eq_ok hlen
  refine bind_ne_panic (readResponseMac_ne_panic (by omega)) fun _ _ => ?_
  refine bind_ne_panic (u32At_ne_panic (by omega)) fun _ _ => ?_
  refine bind_ne_panic (sliceFrom_ne_panic (by omega)) fun _ _ => ?_
  exact bind_ne_panic (readGatewayEndpoint_ne_panic _) fun _ _ => by simp

/-- **No byte string makes the decoder read outside of it.** -/
theorem decode_ne_panic : decode input ≠ .panic := by
  unfold decode
  cases input.head? with
  | none => simp
  | some first =>
      refine bind_ne_panic ensure_ne_panic fun _ _ => ?_
      refine bind_ne_panic ?_ fun messageType _ => ?_
      · unfold MessageType.fromNibble
        split <;> simp
      · cases messageType with
        | relayDiscovery => exact decodeRelayDiscovery_ne_panic input
        | relayAdvertisement => exact decodeRelayAdvertisement_ne_panic input
        | request => exact decodeRequest_ne_panic input
        | membershipQuery => exact decodeMembershipQuery_ne_panic input
        | membershipUpdate => exact decodeMembershipUpdate_ne_panic input
        | multicastData => exact decodeMulticastData_ne_panic input
        | teardown => exact decodeTeardown_ne_panic input

end Bounds

/-- **The codec, in both directions.**  Every message is decoded from its encoding, which
has the announced length.  Every datagram that is decoded has the length of the encoding
of its message and is that encoding up to reserved bits.  No datagram takes the decoder
out of bounds. -/
theorem codec_exact :
    (∀ message : Message, decode (encode message) = .ok message ∧
      (encode message).length = message.encodedLen) ∧
    (∀ (input : Bytes) (message : Message), decode input = .ok message →
      (encode message).length = input.length ∧
        encode message = clearBits message.reservedBits input) ∧
    ∀ input : Bytes, decode input ≠ .panic := by
  refine ⟨fun message => ⟨decode_encode message, length_encode message⟩, ?_, decode_ne_panic⟩
  intro input message h
  have hencode := encode_of_decode h
  exact ⟨by rw [hencode, length_clearBits], hencode⟩

end Amt

import Amt.Net
import Amt.Target

/-!
# The AMT message codec

The seven messages of RFC 7450, decoded from one UDP payload and encoded into a
fresh byte vector.  Decoding is byte-exact: a length that does not match is an
error, reserved bytes are ignored.  Its arithmetic is checked against a `Target`.

`decode_encode` is the round trip: every message, with any field values and any
embedded packet, is decoded from its own encoding.
-/

namespace Amt

open Outcome (ensure)
open Target (check fits)

/-! ## Message types and fields -/

/-- AMT message type values. -/
inductive MessageType where
  | relayDiscovery
  | relayAdvertisement
  | request
  | membershipQuery
  | membershipUpdate
  | multicastData
  | teardown
deriving DecidableEq, Repr

/-- Why a datagram is not an AMT message. -/
inductive DecodeError where
  | unsupportedVersion (version : UInt8)
  | unknownMessageType (messageType : UInt8)
  | truncated (messageType : Option MessageType) (expectedAtLeast actual : ℕ)
  | invalidLength (messageType : MessageType) (expected : String) (actual : ℕ)
deriving DecidableEq, Repr

namespace MessageType

/-- The discriminant. -/
def toByte : MessageType → UInt8
  | relayDiscovery => 1
  | relayAdvertisement => 2
  | request => 3
  | membershipQuery => 4
  | membershipUpdate => 5
  | multicastData => 6
  | teardown => 7

/-- The type nibble of the first byte. -/
def fromNibble : UInt8 → Outcome DecodeError MessageType
  | 1 => .ok relayDiscovery
  | 2 => .ok relayAdvertisement
  | 3 => .ok request
  | 4 => .ok membershipQuery
  | 5 => .ok membershipUpdate
  | 6 => .ok multicastData
  | 7 => .ok teardown
  | other => .err (.unknownMessageType other)

end MessageType

/-- The group membership protocol requested for a relay's Membership Query. -/
inductive MembershipProtocol where
  | igmpv3
  | mldv2
deriving DecidableEq, Repr

namespace MembershipProtocol

/-- The P flag asks for MLDv2. -/
def fromPFlag (pFlag : Bool) : MembershipProtocol := if pFlag then mldv2 else igmpv3

def pFlag : MembershipProtocol → Bool
  | mldv2 => true
  | igmpv3 => false

end MembershipProtocol

/-- A six-byte Response MAC. -/
structure ResponseMac where
  bytes : Octets 6
deriving DecidableEq, Repr

/-- `ResponseMac::constant_time_eq`: the bytewise differences are collected, never
branched on. -/
def ResponseMac.constantTimeEq (a b : ResponseMac) : Bool :=
  (a.bytes.toList.zip b.bytes.toList).foldl
    (fun difference x => difference ||| (x.1 ^^^ x.2)) 0 == 0

/-- A 16-byte gateway address field; an IPv4 address is stored as 96 zero bits
followed by the address. -/
structure GatewayAddress where
  octets : Octets 16
deriving DecidableEq, Repr

namespace GatewayAddress

/-- The 16 bytes in which both families travel. -/
def fromIpAddr : IpAddr → GatewayAddress
  | .v4 addr => ⟨⟨List.replicate 12 0 ++ addr.octets.toList, by simp⟩⟩
  | .v6 addr => ⟨addr.octets⟩

def asIpv6 (a : GatewayAddress) : Ipv6Addr := ⟨a.octets⟩

/-- The address of an IPv4 gateway, if the first 96 bits are zero. -/
def asIpv4Compatible (a : GatewayAddress) : Option Ipv4Addr :=
  if a.octets.toList.take 12 = List.replicate 12 0 then
    some (Ipv4Addr.new (a.octets.get 12) (a.octets.get 13) (a.octets.get 14) (a.octets.get 15))
  else none

end GatewayAddress

/-- Gateway endpoint fields carried by Membership Query and Teardown messages. -/
structure GatewayEndpoint where
  port : UInt16
  address : GatewayAddress
deriving DecidableEq, Repr

/-- One AMT message. -/
inductive Message where
  | relayDiscovery (discoveryNonce : UInt32)
  | relayAdvertisement (discoveryNonce : UInt32) (relayAddress : IpAddr)
  | request (requestNonce : UInt32) (protocol : MembershipProtocol) (ecnCapable : Bool)
  | membershipQuery (responseMac : ResponseMac) (requestNonce : UInt32) (limit : Bool)
      (gateway : Option GatewayEndpoint) (generalQuery : Bytes)
  | membershipUpdate (responseMac : ResponseMac) (requestNonce : UInt32)
      (membershipUpdate : Bytes)
  | multicastData (packet : Bytes)
  | teardown (responseMac : ResponseMac) (requestNonce : UInt32) (gateway : GatewayEndpoint)
deriving DecidableEq, Repr

/-! ## Encoding -/

/-- The only version there is. -/
def version : UInt8 := 0

/-- The version nibble and the type nibble. -/
def header (messageType : MessageType) : UInt8 := (version <<< 4) ||| messageType.toByte

/-- `u8::from(bool)`. -/
def flag (b : Bool) : UInt8 := if b then 1 else 0

/-- The port, then the address. -/
def putGatewayEndpoint (out : Bytes) (gateway : GatewayEndpoint) : Bytes :=
  out ++ u16ToBe gateway.port ++ gateway.address.octets.toList

/-- `Message::encode`: append the message to `out`. -/
def Message.encodeInto (out : Bytes) : Message → Bytes
  | .relayDiscovery discoveryNonce =>
      out ++ [header .relayDiscovery, 0, 0, 0] ++ u32ToBe discoveryNonce
  | .relayAdvertisement discoveryNonce relayAddress =>
      let out := out ++ [header .relayAdvertisement, 0, 0, 0] ++ u32ToBe discoveryNonce
      match relayAddress with
      | .v4 addr => out ++ addr.octets.toList
      | .v6 addr => out ++ addr.octets.toList
  | .request requestNonce protocol ecnCapable =>
      out ++ [header .request] ++ [(flag ecnCapable <<< 1) ||| flag protocol.pFlag] ++ [0, 0] ++
        u32ToBe requestNonce
  | .membershipQuery responseMac requestNonce limit gateway generalQuery =>
      let out := out ++ [header .membershipQuery] ++ [(flag limit <<< 1) ||| flag gateway.isSome] ++
        responseMac.bytes.toList ++ u32ToBe requestNonce ++ generalQuery
      match gateway with
      | some gateway => putGatewayEndpoint out gateway
      | none => out
  | .membershipUpdate responseMac requestNonce update =>
      out ++ [header .membershipUpdate] ++ [0] ++ responseMac.bytes.toList ++
        u32ToBe requestNonce ++ update
  | .multicastData packet => out ++ [header .multicastData, 0] ++ packet
  | .teardown responseMac requestNonce gateway =>
      putGatewayEndpoint (out ++ [header .teardown] ++ [0] ++ responseMac.bytes.toList ++
        u32ToBe requestNonce) gateway

/-- `encode`: a message in a fresh byte vector. -/
def encode (message : Message) : Bytes := message.encodeInto []

/-- Two port bytes and the gateway address. -/
def gatewayFieldsLen : ℕ := 2 + 16

/-- The length of the encoding, by which the buffer is reserved. -/
def Message.encodedLen : Message → ℕ
  | .relayDiscovery _ => 8
  | .relayAdvertisement _ relayAddress =>
      8 + match relayAddress with
        | .v4 _ => 4
        | .v6 _ => 16
  | .request _ _ _ => 8
  | .membershipQuery _ _ _ gateway generalQuery =>
      12 + generalQuery.length + (gateway.map fun _ => gatewayFieldsLen).getD 0
  | .membershipUpdate _ _ update => 12 + update.length
  | .multicastData packet => 2 + packet.length
  | .teardown _ _ _ => 12 + gatewayFieldsLen

/-! ## Decoding -/

/-- The error says whether the message is too short or too long. -/
def requireExact (messageType : MessageType) (input : Bytes) (expected : ℕ) :
    Outcome DecodeError Unit :=
  if input.length = expected then .ok ()
  else if input.length < expected then .err (.truncated (some messageType) expected input.length)
  else .err (.invalidLength messageType "the fixed RFC 7450 message length" input.length)

def requireAtLeast (messageType : MessageType) (input : Bytes) (expectedAtLeast : ℕ) :
    Outcome DecodeError Unit :=
  if input.length ≥ expectedAtLeast then .ok ()
  else .err (.truncated (some messageType) expectedAtLeast input.length)

/-- The six bytes after the type and the flags. -/
def readResponseMac (input : Bytes) : Outcome DecodeError ResponseMac := do
  let mac ← Octets.ofSlice (← slice input 2 8)
  pure ⟨mac⟩

/-- The 18 bytes of a port and an address. -/
def readGatewayEndpoint (input : Bytes) : Outcome DecodeError GatewayEndpoint := do
  ensure (input.length = gatewayFieldsLen)
    (.invalidLength .teardown "18 gateway endpoint bytes" input.length)
  let address ← Octets.ofSlice (← slice input 2 18)
  let port ← u16At input 0
  pure { port := port, address := ⟨address⟩ }

section Decode

variable [Target] (input : Bytes)

/-- `read_u32`. -/
def Message.readU32 (offset : ℕ) : Outcome DecodeError UInt32 := do
  fits (offset + 3)
  u32At input offset

def decodeRelayDiscovery : Outcome DecodeError Message := do
  requireExact .relayDiscovery input 8
  pure (.relayDiscovery (← Message.readU32 input 4))

/-- The length decides the family of the relay address. -/
def decodeRelayAdvertisement : Outcome DecodeError Message := do
  requireAtLeast .relayAdvertisement input 8
  let discoveryNonce ← Message.readU32 input 4
  check (8 ≤ input.length)
  if input.length - 8 = 4 then do
    let a ← byteAt input 8
    let b ← byteAt input 9
    let c ← byteAt input 10
    let d ← byteAt input 11
    pure (.relayAdvertisement discoveryNonce (.v4 (Ipv4Addr.new a b c d)))
  else if input.length - 8 = 16 then do
    let octets ← Octets.ofSlice (← slice input 8 24)
    pure (.relayAdvertisement discoveryNonce (.v6 ⟨octets⟩))
  else
    .err (.invalidLength .relayAdvertisement "12 bytes for IPv4 or 24 bytes for IPv6"
      input.length)

def decodeRequest : Outcome DecodeError Message := do
  requireExact .request input 8
  let flags ← byteAt input 1
  let requestNonce ← Message.readU32 input 4
  pure (.request requestNonce (MembershipProtocol.fromPFlag (flags &&& 0x01 != 0))
    (flags &&& 0x02 != 0))

/-- The G flag says whether the last 18 bytes are the gateway fields. -/
def decodeMembershipQuery : Outcome DecodeError Message := do
  requireAtLeast .membershipQuery input 12
  let flags ← byteAt input 1
  let hasGateway := flags &&& 0x01 != 0
  let gatewayOffset ←
    if hasGateway then
      if input.length < 12 + gatewayFieldsLen then
        .err (.truncated (some .membershipQuery) (12 + gatewayFieldsLen) input.length)
      else do
        check (gatewayFieldsLen ≤ input.length)
        pure (input.length - gatewayFieldsLen)
    else pure input.length
  let responseMac ← readResponseMac input
  let requestNonce ← Message.readU32 input 8
  let gateway ←
    if hasGateway then some <$> (readGatewayEndpoint (← sliceFrom input gatewayOffset))
    else pure none
  let generalQuery ← slice input 12 gatewayOffset
  pure (.membershipQuery responseMac requestNonce (flags &&& 0x02 != 0) gateway generalQuery)

def decodeMembershipUpdate : Outcome DecodeError Message := do
  requireAtLeast .membershipUpdate input 12
  let responseMac ← readResponseMac input
  let requestNonce ← Message.readU32 input 8
  let membershipUpdate ← sliceFrom input 12
  pure (.membershipUpdate responseMac requestNonce membershipUpdate)

def decodeMulticastData : Outcome DecodeError Message := do
  requireAtLeast .multicastData input 2
  pure (.multicastData (← sliceFrom input 2))

def decodeTeardown : Outcome DecodeError Message := do
  requireExact .teardown input (12 + gatewayFieldsLen)
  let responseMac ← readResponseMac input
  let requestNonce ← Message.readU32 input 8
  let gateway ← readGatewayEndpoint (← sliceFrom input 12)
  pure (.teardown responseMac requestNonce gateway)

/-- `Message::decode`. -/
def decode : Outcome DecodeError Message :=
  match input.head? with
  | none => .err (.truncated none 1 0)
  | some first => do
      let v := (first &&& 0xf0) >>> 4
      ensure (v = version) (.unsupportedVersion v)
      let messageType ← MessageType.fromNibble (first &&& 0x0f)
      match messageType with
      | .relayDiscovery => decodeRelayDiscovery input
      | .relayAdvertisement => decodeRelayAdvertisement input
      | .request => decodeRequest input
      | .membershipQuery => decodeMembershipQuery input
      | .membershipUpdate => decodeMembershipUpdate input
      | .multicastData => decodeMulticastData input
      | .teardown => decodeTeardown input

end Decode

@[simp] theorem Message.readU32_unbounded (input : Bytes) (offset : ℕ) :
    Message.readU32 input offset = u32At input offset := rfl

/-! ## Round trip -/

/-- The first byte of an encoded message selects its decoder. -/
theorem decode_header_cons (messageType : MessageType) (rest : Bytes) :
    decode (header messageType :: rest) =
      match messageType with
      | .relayDiscovery => decodeRelayDiscovery (header messageType :: rest)
      | .relayAdvertisement => decodeRelayAdvertisement (header messageType :: rest)
      | .request => decodeRequest (header messageType :: rest)
      | .membershipQuery => decodeMembershipQuery (header messageType :: rest)
      | .membershipUpdate => decodeMembershipUpdate (header messageType :: rest)
      | .multicastData => decodeMulticastData (header messageType :: rest)
      | .teardown => decodeTeardown (header messageType :: rest) := by
  cases messageType <;> rfl

theorem requireAtLeast_of_le {messageType : MessageType} {input : Bytes} {n : ℕ}
    (h : n ≤ input.length) : requireAtLeast messageType input n = .ok () := if_pos h

theorem requireExact_of_eq {messageType : MessageType} {input : Bytes} {n : ℕ}
    (h : input.length = n) : requireExact messageType input n = .ok () := if_pos h

/-- The Response MAC sits behind two header bytes. -/
theorem readResponseMac_append (a b : UInt8) (mac : ResponseMac) (back : Bytes) :
    readResponseMac ([a, b] ++ (mac.bytes.toList ++ back)) = .ok mac := by
  have hslice : (slice ([a, b] ++ (mac.bytes.toList ++ back)) 2 8 : Outcome DecodeError Bytes)
      = .ok mac.bytes.toList := slice_append back rfl (by simp)
  rw [readResponseMac, hslice]
  simp

/-- The request nonce sits behind the Response MAC. -/
theorem readU32_after_mac (a b : UInt8) (mac : ResponseMac) (v : UInt32) (back : Bytes) :
    Message.readU32 ([a, b] ++ (mac.bytes.toList ++ (u32ToBe v ++ back))) 8 = .ok v := by
  rw [← List.append_assoc]
  exact u32At_append v back (by simp)

theorem readGatewayEndpoint_put (gateway : GatewayEndpoint) :
    readGatewayEndpoint (putGatewayEndpoint [] gateway) = .ok gateway := by
  obtain ⟨port, ⟨address⟩⟩ := gateway
  have hslice : (slice (u16ToBe port ++ (address.toList ++ [])) 2 18 : Outcome DecodeError Bytes)
      = .ok address.toList := slice_append [] rfl (by simp)
  have hport : (u16At ([] ++ (u16ToBe port ++ address.toList)) 0 : Outcome DecodeError UInt16)
      = .ok port := u16At_append port _ rfl
  rw [List.append_nil] at hslice
  rw [List.nil_append] at hport
  change readGatewayEndpoint (u16ToBe port ++ address.toList) = _
  rw [readGatewayEndpoint, Outcome.ensure_of (by simp [gatewayFieldsLen]), hslice, hport]
  simp

theorem decode_encode_relayDiscovery (discoveryNonce : UInt32) :
    decode (encode (.relayDiscovery discoveryNonce)) = .ok (.relayDiscovery discoveryNonce) := by
  have hnonce : Message.readU32
      ([header .relayDiscovery, 0, 0, 0] ++ (u32ToBe discoveryNonce ++ [])) 4
      = .ok discoveryNonce :=
    (Message.readU32_unbounded _ _).trans (u32At_append discoveryNonce [] rfl)
  rw [List.append_nil] at hnonce
  change decode (header .relayDiscovery :: ([0, 0, 0] ++ u32ToBe discoveryNonce)) = _
  rw [decode_header_cons]
  change decodeRelayDiscovery ([header .relayDiscovery, 0, 0, 0] ++ u32ToBe discoveryNonce) = _
  rw [decodeRelayDiscovery, requireExact_of_eq (by simp), hnonce]
  rfl

theorem decode_encode_relayAdvertisement (discoveryNonce : UInt32) (relayAddress : IpAddr) :
    decode (encode (.relayAdvertisement discoveryNonce relayAddress))
      = .ok (.relayAdvertisement discoveryNonce relayAddress) := by
  have hnonce : ∀ back : Bytes,
      Message.readU32 ([header .relayAdvertisement, 0, 0, 0] ++ (u32ToBe discoveryNonce ++ back)) 4
        = .ok discoveryNonce :=
    fun back => (Message.readU32_unbounded _ _).trans (u32At_append discoveryNonce back rfl)
  cases relayAddress with
  | v4 addr =>
      obtain ⟨a, b, c, d, rfl⟩ := addr.exists_eq_new
      change decode (header .relayAdvertisement ::
        ([0, 0, 0] ++ (u32ToBe discoveryNonce ++ [a, b, c, d]))) = _
      rw [decode_header_cons]
      change decodeRelayAdvertisement ([header .relayAdvertisement, 0, 0, 0] ++
        (u32ToBe discoveryNonce ++ [a, b, c, d])) = _
      rw [decodeRelayAdvertisement, requireAtLeast_of_le (by simp), hnonce]
      rfl
  | v6 addr =>
      have hlen : ([header .relayAdvertisement, 0, 0, 0] ++
          (u32ToBe discoveryNonce ++ addr.octets.toList)).length = 24 := by simp
      have hslice : (slice (([header .relayAdvertisement, 0, 0, 0] ++ u32ToBe discoveryNonce) ++
          (addr.octets.toList ++ [])) 8 24 : Outcome DecodeError Bytes)
          = .ok addr.octets.toList := slice_append [] rfl (by simp)
      rw [List.append_nil, List.append_assoc] at hslice
      change decode (header .relayAdvertisement ::
        ([0, 0, 0] ++ (u32ToBe discoveryNonce ++ addr.octets.toList))) = _
      rw [decode_header_cons]
      change decodeRelayAdvertisement ([header .relayAdvertisement, 0, 0, 0] ++
        (u32ToBe discoveryNonce ++ addr.octets.toList)) = _
      rw [decodeRelayAdvertisement, requireAtLeast_of_le (by omega), hnonce, hlen, hslice]
      simp

theorem decode_encode_request (requestNonce : UInt32) (protocol : MembershipProtocol)
    (ecnCapable : Bool) :
    decode (encode (.request requestNonce protocol ecnCapable))
      = .ok (.request requestNonce protocol ecnCapable) := by
  have hnonce : ∀ flags : UInt8,
      Message.readU32 ([header .request, flags, 0, 0] ++ (u32ToBe requestNonce ++ [])) 4
        = .ok requestNonce :=
    fun flags => (Message.readU32_unbounded _ _).trans (u32At_append requestNonce [] rfl)
  simp only [List.append_nil] at hnonce
  have hflags : ∀ flags : UInt8, decode ([header .request, flags, 0, 0] ++ u32ToBe requestNonce) =
      .ok (.request requestNonce (MembershipProtocol.fromPFlag (flags &&& 0x01 != 0))
        (flags &&& 0x02 != 0)) := by
    intro flags
    change decode (header .request :: ([flags, 0, 0] ++ u32ToBe requestNonce)) = _
    rw [decode_header_cons]
    change decodeRequest ([header .request, flags, 0, 0] ++ u32ToBe requestNonce) = _
    rw [decodeRequest, requireExact_of_eq (by simp), hnonce]
    rfl
  change decode ([header .request, (flag ecnCapable <<< 1) ||| flag protocol.pFlag, 0, 0] ++
    u32ToBe requestNonce) = _
  rw [hflags]
  cases protocol <;> cases ecnCapable <;> rfl

theorem decode_encode_membershipUpdate (responseMac : ResponseMac) (requestNonce : UInt32)
    (update : Bytes) :
    decode (encode (.membershipUpdate responseMac requestNonce update))
      = .ok (.membershipUpdate responseMac requestNonce update) := by
  have hencode : encode (.membershipUpdate responseMac requestNonce update) =
      [header .membershipUpdate, 0] ++
        (responseMac.bytes.toList ++ (u32ToBe requestNonce ++ update)) := by
    simp [encode, Message.encodeInto]
  have hrest : (sliceFrom (([header .membershipUpdate, 0] ++
      (responseMac.bytes.toList ++ u32ToBe requestNonce)) ++ update) 12 :
      Outcome DecodeError Bytes) = .ok update := sliceFrom_append update (by simp)
  simp only [List.append_assoc] at hrest
  rw [hencode]
  change decode (header .membershipUpdate :: _) = _
  rw [decode_header_cons]
  change decodeMembershipUpdate ([header .membershipUpdate, 0] ++
    (responseMac.bytes.toList ++ (u32ToBe requestNonce ++ update))) = _
  rw [decodeMembershipUpdate, requireAtLeast_of_le (by simp; omega), readResponseMac_append,
    readU32_after_mac, hrest]
  rfl

theorem decode_encode_multicastData (packet : Bytes) :
    decode (encode (.multicastData packet)) = .ok (.multicastData packet) := by
  change decode (header .multicastData :: (0 :: packet)) = _
  rw [decode_header_cons]
  change decodeMulticastData ([header .multicastData, 0] ++ packet) = _
  have hrest : (sliceFrom ([header .multicastData, 0] ++ packet) 2 : Outcome DecodeError Bytes)
      = .ok packet := sliceFrom_append packet rfl
  rw [decodeMulticastData, requireAtLeast_of_le (by simp), hrest]
  rfl

theorem decode_encode_teardown (responseMac : ResponseMac) (requestNonce : UInt32)
    (gateway : GatewayEndpoint) :
    decode (encode (.teardown responseMac requestNonce gateway))
      = .ok (.teardown responseMac requestNonce gateway) := by
  have hencode : encode (.teardown responseMac requestNonce gateway) =
      [header .teardown, 0] ++
        (responseMac.bytes.toList ++ (u32ToBe requestNonce ++ putGatewayEndpoint [] gateway)) := by
    simp [encode, Message.encodeInto, putGatewayEndpoint]
  have hrest : (sliceFrom (([header .teardown, 0] ++
      (responseMac.bytes.toList ++ u32ToBe requestNonce)) ++ putGatewayEndpoint [] gateway) 12 :
      Outcome DecodeError Bytes) = .ok (putGatewayEndpoint [] gateway) :=
    sliceFrom_append _ (by simp)
  simp only [List.append_assoc] at hrest
  rw [hencode]
  change decode (header .teardown :: _) = _
  rw [decode_header_cons]
  change decodeTeardown ([header .teardown, 0] ++
    (responseMac.bytes.toList ++ (u32ToBe requestNonce ++ putGatewayEndpoint [] gateway))) = _
  rw [decodeTeardown, requireExact_of_eq (by simp [putGatewayEndpoint, gatewayFieldsLen]),
    readResponseMac_append, readU32_after_mac, hrest]
  simp [readGatewayEndpoint_put]

/-- A Membership Query, its trailing gateway fields (if any) split off again. -/
theorem decode_encode_membershipQuery (responseMac : ResponseMac) (requestNonce : UInt32)
    (limit : Bool) (gateway : Option GatewayEndpoint) (generalQuery : Bytes) :
    decode (encode (.membershipQuery responseMac requestNonce limit gateway generalQuery))
      = .ok (.membershipQuery responseMac requestNonce limit gateway generalQuery) := by
  have hflags : ∀ limit some : Bool,
      (((flag limit <<< 1) ||| flag some) &&& 0x01 != 0) = some ∧
        (((flag limit <<< 1) ||| flag some) &&& 0x02 != 0) = limit := by decide
  obtain ⟨hgateway, hlimit⟩ := hflags limit gateway.isSome
  generalize hf : (flag limit <<< 1) ||| flag gateway.isSome = flags at hgateway hlimit
  have hencode : encode (.membershipQuery responseMac requestNonce limit gateway generalQuery) =
      [header .membershipQuery, flags] ++ (responseMac.bytes.toList ++
        (u32ToBe requestNonce ++ (generalQuery ++ gateway.elim [] (putGatewayEndpoint [])))) := by
    cases gateway with
    | none => simp [encode, Message.encodeInto, ← hf]
    | some endpoint => simp [encode, Message.encodeInto, putGatewayEndpoint, ← hf]
  have hquery : ∀ back : Bytes, (slice (([header .membershipQuery, flags] ++
      (responseMac.bytes.toList ++ u32ToBe requestNonce)) ++ (generalQuery ++ back)) 12
      (12 + generalQuery.length) : Outcome DecodeError Bytes) = .ok generalQuery :=
    fun back => slice_append back (by simp) (by simp)
  have hfields : ∀ back : Bytes, (sliceFrom (([header .membershipQuery, flags] ++
      (responseMac.bytes.toList ++ (u32ToBe requestNonce ++ generalQuery))) ++ back)
      (12 + generalQuery.length) : Outcome DecodeError Bytes) = .ok back :=
    fun back => sliceFrom_append back (by simp; omega)
  simp only [List.append_assoc] at hquery hfields
  rw [hencode]
  change decode (header .membershipQuery :: _) = _
  rw [decode_header_cons]
  change decodeMembershipQuery ([header .membershipQuery, flags] ++ (responseMac.bytes.toList ++
    (u32ToBe requestNonce ++ (generalQuery ++ gateway.elim [] (putGatewayEndpoint []))))) = _
  rw [decodeMembershipQuery, requireAtLeast_of_le (by simp; omega), readResponseMac_append,
    readU32_after_mac]
  cases gateway with
  | none =>
      have hlen : ([header .membershipQuery, flags] ++ (responseMac.bytes.toList ++
          (u32ToBe requestNonce ++ (generalQuery ++ [])))).length = 12 + generalQuery.length := by
        simp; omega
      simp only [Option.elim_none, hlen]
      simp only [List.cons_append, List.nil_append] at hquery ⊢
      simp only [byteAt_cons_succ, byteAt_cons_zero, Outcome.bind_ok, hgateway, hlimit,
        Option.isSome_none, Bool.false_eq_true, if_false, Outcome.pure_eq_ok, hquery]
  | some endpoint =>
      have hlen : ([header .membershipQuery, flags] ++ (responseMac.bytes.toList ++
          (u32ToBe requestNonce ++ (generalQuery ++ putGatewayEndpoint [] endpoint)))).length
          = 12 + generalQuery.length + gatewayFieldsLen := by
        simp [putGatewayEndpoint, gatewayFieldsLen]; omega
      have hoffset : 12 + generalQuery.length + gatewayFieldsLen - gatewayFieldsLen
          = 12 + generalQuery.length := by omega
      simp only [Option.elim_some, hlen]
      simp only [List.cons_append, List.nil_append] at hquery hfields ⊢
      simp only [byteAt_cons_succ, byteAt_cons_zero, Outcome.bind_ok, hgateway, hlimit,
        Target.check_unbounded, Option.isSome_some, if_true,
        if_neg (show ¬ 12 + generalQuery.length + gatewayFieldsLen < 12 + gatewayFieldsLen by
          omega),
        Outcome.pure_eq_ok, hoffset, hquery, hfields, readGatewayEndpoint_put, Outcome.map_ok]

/-- **Every message is decoded from its own encoding.** -/
theorem decode_encode (message : Message) : decode (encode message) = .ok message := by
  cases message with
  | relayDiscovery discoveryNonce => exact decode_encode_relayDiscovery discoveryNonce
  | relayAdvertisement discoveryNonce relayAddress =>
      exact decode_encode_relayAdvertisement discoveryNonce relayAddress
  | request requestNonce protocol ecnCapable =>
      exact decode_encode_request requestNonce protocol ecnCapable
  | membershipQuery responseMac requestNonce limit gateway generalQuery =>
      exact decode_encode_membershipQuery responseMac requestNonce limit gateway generalQuery
  | membershipUpdate responseMac requestNonce update =>
      exact decode_encode_membershipUpdate responseMac requestNonce update
  | multicastData packet => exact decode_encode_multicastData packet
  | teardown responseMac requestNonce gateway =>
      exact decode_encode_teardown responseMac requestNonce gateway

theorem encode_injective {message message' : Message} (h : encode message = encode message') :
    message = message' := by
  have hdecode := decode_encode message
  rw [h, decode_encode message'] at hdecode
  exact (Outcome.ok.inj hdecode).symm

end Amt

import Amt.Ip.RouterAlert
import Amt.Query.RoundTrip
import Amt.Membership

/-!
# The header chain of an accepted MLD query

An IPv6 packet says by itself where its ICMPv6 message begins: the fixed header names the
header behind it, and a hop-by-hop header says in its second byte how long it is.  There are
two readers of that chain in the code.

* **`parse_ipv6_membership_report` follows it**: the message of a report begins at
  `40 + (byte 41 + 1) * 8` (`parseHopByHop`).
* **`validate_mldv2_general_query` does not**: it takes the message of a query from offset 48
  on, which is where a hop-by-hop header of eight bytes ends, and never reads byte 41.

`HeadersLeadToQuery` says that a packet's own headers lead to the General Query that was
checked.  Among the packets the validator accepts these are exactly the ones whose byte 41 is
zero (`validated_headersLeadToQuery_iff`), and it accepts others: whatever is written over byte
41 of a query the builder made, the packet is still accepted
(`validatedGeneralQuery_set_extensionLen`).
-/

namespace Amt

open Outcome (ensure bind_ok bind_eq_ok_iff ensure_of pure_eq_ok)

/-! ## What an accepted packet contains -/

/-- The fields of an MLD General Query, in a message that came from `source`. -/
structure MldGeneralQuery (source : Ipv6Addr) (message : Bytes) (interval : Duration) : Prop where
  length : message.length = mldv2QueryLen
  kind : (byteAt message 0 : Outcome QueryValidationError UInt8) = .ok 130
  code : (byteAt message 1 : Outcome QueryValidationError UInt8) = .ok 0
  group : (slice message 8 24 : Outcome QueryValidationError Bytes) = .ok (List.replicate 16 0)
  sources : (u16At message 26 : Outcome QueryValidationError UInt16) = .ok 0
  checksum : icmpv6Checksum source.octets allNodesV6.octets 58 message = 0
  interval : (queryInterval <$> byteAt message 25 : Outcome QueryValidationError Duration)
    = .ok interval

/-- What the validator has established of a packet it accepts, as far as the place of its
message goes. -/
structure AcceptedMldv2Query (packet : Bytes) (interval : Duration) (source : Ipv6Addr)
    (message : Bytes) : Prop where
  long : 76 ≤ packet.length
  payload : (u16At packet 4 : Outcome QueryValidationError UInt16) = .ok 36
  next : (byteAt packet 6 : Outcome QueryValidationError UInt8) = .ok 0
  extensionNext : (byteAt packet 40 : Outcome QueryValidationError UInt8) = .ok 58
  alert : (hasIpv6RouterAlert ((packet.take 48).drop 42) : Outcome QueryValidationError Bool)
    = .ok true
  sender : (readIpv6 packet 8 : Outcome QueryValidationError Ipv6Addr) = .ok source
  messagePart : message = (packet.take 76).drop 48
  query : MldGeneralQuery source message interval

/-- What the validation has established, once and for all. -/
theorem acceptedMldv2Query_of_validated {packet query : Bytes} {interval : Duration}
    (h : validatedGeneralQuery .mldv2 packet = .ok (interval, query)) :
    ∃ source message, AcceptedMldv2Query packet interval source message := by
  obtain ⟨⟨code, len⟩, hvalid, hrest⟩ := bind_eq_ok_iff.mp h
  obtain ⟨_, _, hrest⟩ := bind_eq_ok_iff.mp hrest
  obtain ⟨_, _, hinterval⟩ := bind_eq_ok_iff.mp hrest
  rw [validateMldv2GeneralQuery] at hvalid
  cases hfirst : packet.head? with
  | none => rw [hfirst] at hvalid; cases hvalid
  | some first =>
      rw [hfirst] at hvalid
      -- one step of the validator after the other: a read, then its check
      simp only [Target.fits_unbounded, sumFits_unbounded, pure_eq_ok, bind_ok, bind_eq_ok_iff,
        Outcome.ensure_eq_ok_iff, exists_const, not_or, not_lt, not_not] at hvalid
      obtain ⟨-, hlong, payloadLen, hpayload, ⟨-, hpayloadLen⟩, next, hnext, hnextZero, -, -, -,
        -, -, -, extensionNext, hextension, hextensionNext, options, hoptions, found, halert,
        hfound, source, hsource, -, message, hmessage, kind, hkind, hkindQuery, zero, hcode,
        hcodeZero, group, hgroup, hgroupZero, count, hcount, hcountZero, hsum, code', hcode',
        hresult⟩ := hvalid
      have hthirtySix : payloadLen = 36 := UInt16.toNat_inj.mp hpayloadLen
      subst hthirtySix hnextZero hextensionNext hfound hkindQuery hcodeZero hgroupZero hcountZero
      have hlong : 76 ≤ packet.length := hlong
      have hoptionsPart := slice_eq_ok hoptions
      have hmessagePart : message = (packet.take 76).drop 48 := slice_eq_ok hmessage
      refine ⟨source, message, hlong, hpayload, hnext, hextension, hoptionsPart ▸ halert, hsource,
        hmessagePart, ?_, hkind, hcode, hgroup, hcount, hsum, ?_⟩
      · rw [hmessagePart, List.length_drop, List.length_take, Nat.min_eq_left hlong]
        rfl
      · rw [hcode', Outcome.map_ok]
        cases hresult
        cases hinterval
        rfl

/-! ## Following the headers -/

/-- Whether a Router Alert is found does not depend on the errors of the caller. -/
theorem ipv6RouterAlertFrom_ok {ε ε' : Type*} {options : Bytes} {found : Bool} (offset : ℕ)
    (h : (ipv6RouterAlertFrom options offset : Outcome ε Bool) = .ok found) :
    (ipv6RouterAlertFrom options offset : Outcome ε' Bool) = .ok found := by
  rw [ipv6RouterAlertFrom_eq rfl, Outcome.ok.injEq] at h ⊢
  exact h

/-- **The packet's own headers lead to the query that was checked**: behind the hop-by-hop
header, by the length it declares, stands an ICMPv6 message that takes up the rest of the
payload, it is the message the validator has looked at, and it is a General Query. -/
def HeadersLeadToQuery (packet : Bytes) (interval : Duration) : Prop :=
  ∃ payloadLen source offset message,
    (u16At packet 4 : Outcome QueryValidationError UInt16) = .ok payloadLen ∧
    (readIpv6 packet 8 : Outcome QueryValidationError Ipv6Addr) = .ok source ∧
    parseHopByHop packet (ipv6HeaderLen + payloadLen.toNat) = .ok (58, offset, true) ∧
    (slice packet offset (ipv6HeaderLen + payloadLen.toNat) : Outcome QueryValidationError Bytes)
      = .ok message ∧
    message = (packet.take (ipv6HeaderLen + payloadLen.toNat)).drop
      (ipv6HeaderLen + ipv6HopByHopLen) ∧
    MldGeneralQuery source message interval

/-- A hop-by-hop header ends where its length byte says. -/
theorem offset_of_parseHopByHop {packet : Bytes} {totalLen offset : ℕ} {nextHeader : UInt8}
    {alert : Bool} (hnext : packet[6]? = some 0)
    (h : parseHopByHop packet totalLen = .ok (nextHeader, offset, alert)) :
    ∃ length, packet[41]? = some length ∧ offset = 40 + (length.toNat + 1) * 8 := by
  rw [parseHopByHop, byteAt_eq_ok_iff.mpr hnext, bind_ok, if_pos rfl] at h
  obtain ⟨_, _, h⟩ := bind_eq_ok_iff.mp h
  obtain ⟨_, _, h⟩ := bind_eq_ok_iff.mp h
  obtain ⟨_, _, h⟩ := bind_eq_ok_iff.mp h
  obtain ⟨length, hlength, h⟩ := bind_eq_ok_iff.mp h
  obtain ⟨_, _, h⟩ := bind_eq_ok_iff.mp h
  obtain ⟨_, _, h⟩ := bind_eq_ok_iff.mp h
  obtain ⟨_, _, h⟩ := bind_eq_ok_iff.mp h
  obtain ⟨_, _, h⟩ := bind_eq_ok_iff.mp h
  obtain ⟨_, _, h⟩ := bind_eq_ok_iff.mp h
  refine ⟨length, byteAt_eq_ok_iff.mp hlength, ?_⟩
  cases h
  rfl

namespace AcceptedMldv2Query

variable {packet message : Bytes} {interval : Duration} {source : Ipv6Addr}

/-- Where the headers of an accepted packet lead, by the length its hop-by-hop header
declares. -/
theorem parseHopByHop_eq (accepted : AcceptedMldv2Query packet interval source message)
    {length : UInt8} {found : Bool} (hlength : packet[41]? = some length)
    (hfits : (length.toNat + 1) * 8 ≤ 36)
    (halert : (hasIpv6RouterAlert ((packet.take (40 + (length.toNat + 1) * 8)).drop 42) :
      Outcome MembershipParseError Bool) = .ok found) :
    parseHopByHop packet 76 = .ok (58, 40 + (length.toNat + 1) * 8, found) := by
  have hlong := accepted.long
  have hnext := byteAt_eq_ok_iff.mp accepted.next
  have hextension := byteAt_eq_ok_iff.mp accepted.extensionNext
  have hpayload : (slice packet 40 76 : Outcome MembershipParseError Bytes)
      = .ok ((packet.take 76).drop 40) := slice_of (by omega) hlong
  have hoptions : (slice packet 42 (40 + (length.toNat + 1) * 8) :
      Outcome MembershipParseError Bytes)
      = .ok ((packet.take (40 + (length.toNat + 1) * 8)).drop 42) :=
    slice_of (by omega) (by omega)
  have hpayloadLen : ((packet.take 76).drop 40).length = 36 := by
    rw [List.length_drop, List.length_take, Nat.min_eq_left hlong]
  rw [parseHopByHop, byteAt_eq_ok_iff.mpr hnext, bind_ok, if_pos rfl]
  dsimp only [ipv6HeaderLen]
  rw [hpayload, bind_ok, requireLen, hpayloadLen, ensure_of (by decide),
    bind_ok, byteAt_eq_ok_iff.mpr hextension, bind_ok,
    byteAt_eq_ok_iff.mpr hlength, bind_ok, bind_ok, requireLen, hpayloadLen,
    ensure_of (by omega), bind_ok, hoptions, bind_ok, halert,
    bind_ok, pure_eq_ok]
  rfl

/-- The one byte of the header that decides. -/
theorem headersLeadToQuery_iff (accepted : AcceptedMldv2Query packet interval source message) :
    HeadersLeadToQuery packet interval ↔ packet[41]? = some 0 := by
  have hlong := accepted.long
  constructor
  · rintro ⟨payloadLen, sender, offset, found, hpayload, -, hwalk, hfound, -, hquery⟩
    have hpayloadLen : payloadLen = 36 :=
      Outcome.ok.inj (hpayload.symm.trans accepted.payload)
    subst hpayloadLen
    obtain ⟨length, hlength, rfl⟩ :=
      offset_of_parseHopByHop (byteAt_eq_ok_iff.mp accepted.next) hwalk
    -- a query of 28 bytes up to offset 76 begins at offset 48
    have hfoundLen : (packet.take 76).length - (40 + (length.toNat + 1) * 8) = 28 := by
      rw [← List.length_drop]
      exact (congrArg List.length (slice_eq_ok hfound)).symm.trans hquery.length
    rw [List.length_take, Nat.min_eq_left hlong] at hfoundLen
    have hzero : length = 0 := UInt8.toNat_inj.mp (by
      show length.toNat = 0
      omega)
    rw [hlength, hzero]
  · intro hzero
    have hmessage : (slice packet 48 76 : Outcome QueryValidationError Bytes) = .ok message := by
      rw [accepted.messagePart]
      exact slice_of (by omega) hlong
    have hwalk : parseHopByHop packet 76 = .ok (58, 48, true) :=
      accepted.parseHopByHop_eq hzero (by decide) (ipv6RouterAlertFrom_ok 0 accepted.alert)
    exact ⟨36, source, 48, message, accepted.payload, accepted.sender, hwalk, hmessage,
      accepted.messagePart, accepted.query⟩

end AcceptedMldv2Query

/-- **An accepted query stands where the packet's headers say, exactly if its hop-by-hop
header declares eight bytes.** -/
theorem validated_headersLeadToQuery_iff {packet query : Bytes} {interval : Duration}
    (h : validatedGeneralQuery .mldv2 packet = .ok (interval, query)) :
    HeadersLeadToQuery packet interval ↔ packet[41]? = some 0 := by
  obtain ⟨source, message, accepted⟩ := acceptedMldv2Query_of_validated h
  exact accepted.headersLeadToQuery_iff

/-! ## Queries with another length byte -/

/-- The built query with its hop-by-hop header declared `(length + 1) * 8` bytes long. -/
def mldv2QueryPacketWith (config : GeneralQueryConfig) (length : UInt8) : Bytes :=
  (mldv2QueryPacket config).set 41 length

theorem mldv2QueryFields_with (config : GeneralQueryConfig) (length : UInt8) :
    Mldv2QueryFields (mldv2QueryPacketWith config length) config
      (mldv2QueryMessage config (u16ToBe (mldv2QueryChecksum config))) := by
  rw [mldv2QueryPacketWith, mldv2QueryPacket]
  generalize mldv2QueryChecksum config = sum
  obtain ⟨igmpSource, mldSource, igmpCode, mldCode, robustness, interval⟩ := config
  obtain ⟨a, b, c, d, e, f, g, h, i, j, k, l, m, n, o, p, rfl⟩ := mldSource.exists_octets
  constructor <;> rfl

/-- **Byte 41 is not checked**: a built query is accepted with any length in its hop-by-hop
header. -/
theorem validatedGeneralQuery_set_extensionLen (config : GeneralQueryConfig)
    (hsource : config.SourceUsable .mldv2) (length : UInt8) :
    validatedGeneralQuery .mldv2 (mldv2QueryPacketWith config length)
      = .ok (queryInterval config.queryIntervalCode, mldv2QueryPacketWith config length) := by
  have hfields := mldv2QueryFields_with config length
  have hmulticast : config.mldSource.isMulticast = false := hsource
  have hvalid := hfields.validate (by simp [hmulticast]) (icmpv6Checksum_mldv2QueryMessage config)
  rw [validatedGeneralQuery]
  dsimp only
  rw [hvalid, bind_ok]
  dsimp only
  rw [slice_whole hfields.length]
  rfl

theorem getElem?_mldv2QueryPacketWith (config : GeneralQueryConfig) (length : UInt8) :
    (mldv2QueryPacketWith config length)[41]? = some length := by
  have hlength : (mldv2QueryPacket config).length = 76 :=
    (mldv2QueryFields_append config _).length
  rw [mldv2QueryPacketWith, List.getElem?_set_self (by omega)]

/-- The query of the default configuration, as it is built. -/
theorem headersLeadToQuery_forAmt :
    validatedGeneralQuery .mldv2 (mldv2QueryPacketWith .forAmt 0)
        = .ok (queryInterval 125, mldv2QueryPacketWith .forAmt 0) ∧
      HeadersLeadToQuery (mldv2QueryPacketWith .forAmt 0) (queryInterval 125) := by
  have hvalid : validatedGeneralQuery .mldv2 (mldv2QueryPacketWith .forAmt 0)
      = .ok (queryInterval 125, mldv2QueryPacketWith .forAmt 0) :=
    validatedGeneralQuery_set_extensionLen .forAmt rfl 0
  exact ⟨hvalid, (validated_headersLeadToQuery_iff hvalid).mpr
    (getElem?_mldv2QueryPacketWith .forAmt 0)⟩

/-- **With a length byte of one the query is accepted all the same**, though its headers lead
eight bytes past the beginning of the query. -/
theorem accepted_query_off_header_chain :
    validatedGeneralQuery .mldv2 (mldv2QueryPacketWith .forAmt 1)
        = .ok (queryInterval 125, mldv2QueryPacketWith .forAmt 1) ∧
      parseHopByHop (mldv2QueryPacketWith .forAmt 1) 76 = .ok (58, 56, true) ∧
      ¬ HeadersLeadToQuery (mldv2QueryPacketWith .forAmt 1) (queryInterval 125) := by
  have hvalid : validatedGeneralQuery .mldv2 (mldv2QueryPacketWith .forAmt 1)
      = .ok (queryInterval 125, mldv2QueryPacketWith .forAmt 1) :=
    validatedGeneralQuery_set_extensionLen .forAmt rfl 1
  obtain ⟨source, message, accepted⟩ := acceptedMldv2Query_of_validated hvalid
  refine ⟨hvalid, ?_, ?_⟩
  · have halert : (hasIpv6RouterAlert (((mldv2QueryPacketWith .forAmt 1).take 56).drop 42) :
        Outcome MembershipParseError Bool) = .ok true := by
      rw [hasIpv6RouterAlert, ipv6RouterAlertFrom]
      rfl
    exact accepted.parseHopByHop_eq (getElem?_mldv2QueryPacketWith _ 1) (by decide) halert
  · intro hleads
    have hzero := accepted.headersLeadToQuery_iff.mp hleads
    rw [getElem?_mldv2QueryPacketWith] at hzero
    cases hzero

end Amt

import Amt.Protocol
import Amt.Ip

/-!
# General Queries

The IGMPv3 and MLDv2 General Query a relay embeds in a Membership Query, and the
validation a gateway applies to it.  The query also advertises the relay's query
interval as an eight-bit code: a plain number of seconds below 128, a floating-point
code from there on.  The validation checks its arithmetic against a `Target`.

Durations are natural numbers of nanoseconds, and an instant is a duration since an
arbitrary origin.
-/

namespace Amt

open Outcome (ensure)
open Target (check fits)

/-! ## Time -/

/-- `std::time::Duration`. -/
abbrev Duration := ℕ

/-- `std::time::Instant`. -/
abbrev Instant := ℕ

def Duration.fromSecs (seconds : ℕ) : Duration := seconds * 1000000000

/-- `since.elapsed()` when the clock reads `now`; it saturates at zero. -/
def elapsed (since now : Instant) : Duration := now - since

theorem elapsed_le_iff {since now : Instant} {duration : Duration} :
    elapsed since now ≤ duration ↔ now ≤ since + duration :=
  Nat.sub_le_iff_le_add'

/-- `now.checked_duration_since(since)`. -/
def checkedDurationSince (now since : Instant) : Option Duration :=
  if since ≤ now then some (elapsed since now) else none

/-- A time in the future is not old. -/
theorem any_checkedDurationSince_iff {now since : Instant} {timeout : Duration} :
    (checkedDurationSince now since).any (fun idle => timeout ≤ idle) = true ↔
      since + timeout ≤ now := by
  unfold checkedDurationSince elapsed
  split_ifs with hpast
  · rw [Option.any_some, decide_eq_true_eq]
    exact Nat.le_sub_iff_add_le' hpast
  · exact iff_of_false (by simp) fun h => hpast (le_trans (Nat.le_add_right _ _) h)

/-- The keys of a table of times that were last seen at least `timeout` ago. -/
def staleKeys {K : Type*} [LinearOrder K] (lastSeen : BTreeMap K Instant) (timeout : Duration)
    (now : Instant) : List K :=
  lastSeen.toList.filterMap fun (key, seen) =>
    if (checkedDurationSince now seen).any fun idle => timeout ≤ idle then some key else none

theorem mem_staleKeys_iff {K : Type*} [LinearOrder K] {lastSeen : BTreeMap K Instant}
    {timeout : Duration} {now : Instant} {key : K} :
    key ∈ staleKeys lastSeen timeout now ↔
      ∃ seen, lastSeen[key]? = some seen ∧ seen + timeout ≤ now := by
  unfold staleKeys
  rw [List.mem_filterMap]
  constructor
  · rintro ⟨⟨k, seen⟩, hmem, hstale⟩
    dsimp only at hstale
    split at hstale
    · rename_i hold
      obtain rfl := Option.some.inj hstale
      exact ⟨seen, BTreeMap.mem_toList_iff.mp hmem, any_checkedDurationSince_iff.mp hold⟩
    · cases hstale
  · rintro ⟨seen, hseen, hold⟩
    exact ⟨(key, seen), BTreeMap.mem_toList_iff.mpr hseen,
      if_pos (any_checkedDurationSince_iff.mpr hold)⟩

/-! ## Configuration and errors -/

/-- The fields of a General Query that a relay may choose. -/
structure GeneralQueryConfig where
  igmpSource : Ipv4Addr
  mldSource : Ipv6Addr
  igmpMaxResponseCode : UInt8
  mldMaxResponseCode : UInt16
  robustnessVariable : UInt8
  queryIntervalCode : UInt8
deriving DecidableEq, Repr

namespace GeneralQueryConfig

/-- Query values recommended for an AMT relay pseudo-interface. -/
def forAmt : GeneralQueryConfig where
  igmpSource := .unspecified
  mldSource := .unspecified
  igmpMaxResponseCode := 1
  mldMaxResponseCode := 1
  robustnessVariable := 2
  queryIntervalCode := 125

def default : GeneralQueryConfig := forAmt

end GeneralQueryConfig

/-- Why a packet is not a General Query. -/
inductive QueryValidationError where
  | truncated
  | wrongAddressFamily
  | invalidLength
  | invalidHeader
  | invalidChecksum
  | invalidSource
  | notGeneralQuery
deriving DecidableEq, Repr

def queryIpv4HeaderLen : ℕ := 24
def igmpv3QueryLen : ℕ := 12
def ipv6HopByHopLen : ℕ := 8
def mldv2QueryLen : ℕ := 28

def allSystemsV4 : Ipv4Addr := Ipv4Addr.new 224 0 0 1
def allNodesV6 : Ipv6Addr := Ipv6Addr.new 0xff02 0 0 0 0 0 0 1

/-! ## The query interval code -/

/-- The mantissa of the floating-point form. -/
def queryMantissa (code : UInt8) : ℕ := ((code &&& 0x0f) ||| 0x10).toNat

/-- The exponent of the floating-point form. -/
def queryExponent (code : UInt8) : ℕ := ((code >>> 4) &&& 0x07).toNat + 3

/-- Codes from 128 on are a floating-point form. -/
def queryInterval (code : UInt8) : Duration :=
  Duration.fromSecs
    (if code < 128 then code.toNat else queryMantissa code <<< queryExponent code)

/-! ## Validation -/

section Validate

variable [Target]

/-- The check of the shift in `query_interval`, which is one of a `u64`. -/
def intervalFits {ε : Type*} (code : UInt8) : Outcome ε Unit :=
  check (queryExponent code < 64 ∧ queryMantissa code <<< queryExponent code < 2 ^ 64)

/-- The interval code and the length of the packet. -/
def validateIgmpv3GeneralQuery (packet : Bytes) : Outcome QueryValidationError (UInt8 × ℕ) := do
  let first ← match packet.head? with
    | some first => pure first
    | none => .err .truncated
  ensure (first >>> 4 = 4) .wrongAddressFamily
  ensure (¬ packet.length < queryIpv4HeaderLen + igmpv3QueryLen) .truncated
  let ihl := ((← byteAt packet 0) &&& 0x0f).toNat * 4
  fits (ihl + igmpv3QueryLen)
  ensure (¬ (ihl < queryIpv4HeaderLen ∨ ihl > packet.length)) .invalidHeader
  let totalLen := (← u16At packet 2).toNat
  ensure (¬ (totalLen > packet.length ∨ totalLen ≠ ihl + igmpv3QueryLen)) .invalidLength
  ensure ((← byteAt packet 8) = 1) .invalidHeader
  ensure ((← byteAt packet 9) = 2) .invalidHeader
  ensure ((← u16At packet 6) &&& 0x3fff = 0) .invalidHeader
  ensure ((← slice packet 16 20) = allSystemsV4.octets.toList) .invalidHeader
  ensure (← hasIpv4RouterAlert (← slice packet 20 ihl)) .invalidHeader
  let source ← readIpv4 packet 12
  ensure (¬ (source.isMulticast || source.isBroadcast)) .invalidSource
  let header ← slice packet 0 ihl
  sumFits [header]
  ensure (onesComplementSum header = 0xffff) .invalidChecksum
  let igmp ← slice packet ihl totalLen
  ensure ((← byteAt igmp 0) = 0x11) .notGeneralQuery
  ensure ((← slice igmp 4 8) = [0, 0, 0, 0]) .notGeneralQuery
  ensure ((← u16At igmp 10) = 0) .notGeneralQuery
  sumFits [igmp]
  ensure (onesComplementSum igmp = 0xffff) .invalidChecksum
  pure (← byteAt igmp 9, totalLen)

/-- The interval code and the length of the packet. -/
def validateMldv2GeneralQuery (packet : Bytes) : Outcome QueryValidationError (UInt8 × ℕ) := do
  let first ← match packet.head? with
    | some first => pure first
    | none => .err .truncated
  ensure (first >>> 4 = 6) .wrongAddressFamily
  ensure (¬ packet.length < ipv6HeaderLen + ipv6HopByHopLen + mldv2QueryLen) .truncated
  let payloadLen := (← u16At packet 4).toNat
  let totalLen := ipv6HeaderLen + payloadLen
  fits totalLen
  ensure (¬ (totalLen > packet.length ∨ payloadLen ≠ ipv6HopByHopLen + mldv2QueryLen))
    .invalidLength
  ensure ((← byteAt packet 6) = 0) .invalidHeader
  ensure ((← byteAt packet 7) = 1) .invalidHeader
  ensure ((← slice packet 24 40) = allNodesV6.octets.toList) .invalidHeader
  ensure ((← byteAt packet 40) = 58) .invalidHeader
  ensure (← hasIpv6RouterAlert (← slice packet 42 48)) .invalidHeader
  let source ← readIpv6 packet 8
  ensure (¬ source.isMulticast) .invalidSource
  let mld ← slice packet (ipv6HeaderLen + ipv6HopByHopLen) totalLen
  ensure ((← byteAt mld 0) = 130) .notGeneralQuery
  ensure ((← byteAt mld 1) = 0) .notGeneralQuery
  ensure ((← slice mld 8 24) = List.replicate 16 0) .notGeneralQuery
  ensure ((← u16At mld 26) = 0) .notGeneralQuery
  sumFits (icmpv6Parts source.octets allNodesV6.octets 58 mld)
  ensure (icmpv6Checksum source.octets allNodesV6.octets 58 mld = 0) .invalidChecksum
  pure (← byteAt mld 25, totalLen)

/-- The advertised interval and the query without what follows it. -/
def validatedGeneralQuery (protocol : MembershipProtocol) (packet : Bytes) :
    Outcome QueryValidationError (Duration × Bytes) := do
  let (intervalCode, datagramLen) ← match protocol with
    | .igmpv3 => validateIgmpv3GeneralQuery packet
    | .mldv2 => validateMldv2GeneralQuery packet
  intervalFits intervalCode
  pure (queryInterval intervalCode, ← slice packet 0 datagramLen)

end Validate

@[simp] theorem intervalFits_unbounded {ε : Type*} (code : UInt8) :
    (intervalFits code : Outcome ε Unit) = .ok () := rfl

/-! ## Building -/

section Build

variable {ε : Type*}

/-- To all systems, with the Router Alert option. -/
def buildIgmpv3GeneralQuery (config : GeneralQueryConfig) : Outcome ε Bytes := do
  let totalLen := queryIpv4HeaderLen + igmpv3QueryLen
  let packet : Bytes := List.replicate totalLen 0
  let packet ← setAt packet 0 0x46
  let packet ← setAt packet 1 0xc0
  let packet ← copyInto packet 2 4 (u16ToBe (UInt16.ofNat totalLen))
  let packet ← setAt packet 8 1
  let packet ← setAt packet 9 2
  let packet ← copyInto packet 12 16 config.igmpSource.octets.toList
  let packet ← copyInto packet 16 20 allSystemsV4.octets.toList
  let packet ← copyInto packet 20 24 [0x94, 0x04, 0x00, 0x00]
  let igmp ← sliceFrom packet queryIpv4HeaderLen
  let igmp ← setAt igmp 0 0x11
  let igmp ← setAt igmp 1 config.igmpMaxResponseCode
  let igmp ← setAt igmp 8 (config.robustnessVariable &&& 0x07)
  let igmp ← setAt igmp 9 config.queryIntervalCode
  let igmp ← copyInto igmp 2 4 (u16ToBe (checksum igmp))
  -- `igmp` is the mutable tail of `packet`
  let ipHeader ← slice packet 0 queryIpv4HeaderLen
  let packet := ipHeader ++ igmp
  copyInto packet 10 12 (u16ToBe (checksum ipHeader))

/-- To all nodes, behind a hop-by-hop header with the Router Alert option. -/
def buildMldv2GeneralQuery (config : GeneralQueryConfig) : Outcome ε Bytes := do
  let payloadLen := ipv6HopByHopLen + mldv2QueryLen
  let totalLen := ipv6HeaderLen + payloadLen
  let packet : Bytes := List.replicate totalLen 0
  let packet ← setAt packet 0 0x60
  let packet ← copyInto packet 4 6 (u16ToBe (UInt16.ofNat payloadLen))
  let packet ← setAt packet 6 0
  let packet ← setAt packet 7 1
  let packet ← copyInto packet 8 24 config.mldSource.octets.toList
  let packet ← copyInto packet 24 40 allNodesV6.octets.toList
  let packet ← copyInto packet 40 48 [58, 0, 5, 2, 0, 0, 1, 0]
  let mldOffset := ipv6HeaderLen + ipv6HopByHopLen
  let mld ← sliceFrom packet mldOffset
  let mld ← setAt mld 0 130
  let mld ← copyInto mld 4 6 (u16ToBe config.mldMaxResponseCode)
  let mld ← setAt mld 24 (config.robustnessVariable &&& 0x07)
  let mld ← setAt mld 25 config.queryIntervalCode
  let mldChecksum := icmpv6Checksum config.mldSource.octets allNodesV6.octets 58 mld
  let ipHeader ← slice packet 0 mldOffset
  let packet := ipHeader ++ mld
  copyInto packet (mldOffset + 2) (mldOffset + 4) (u16ToBe mldChecksum)

def buildGeneralQuery (protocol : MembershipProtocol) (config : GeneralQueryConfig) :
    Outcome ε Bytes :=
  match protocol with
  | .igmpv3 => buildIgmpv3GeneralQuery config
  | .mldv2 => buildMldv2GeneralQuery config

end Build

end Amt

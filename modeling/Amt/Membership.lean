import Amt.Protocol
import Amt.Ip

/-!
# Membership reports

IGMPv3 and MLDv2 membership reports as IP datagrams: the builders a gateway uses and
the parsers a relay uses.

The two protocols share one record layout up to the address length, so the record
loop, the record parser and the record writer are written once over a `RecordFormat`;
the IGMPv3 and MLDv2 functions of the source are its two instances, each inside its
own IP envelope (an IPv4 header with Router Alert, an IPv6 header with a hop-by-hop
Router Alert).

The builders write into a zeroed buffer at explicit offsets, as the source does.  The parsers
check their arithmetic, and the vectors they reserve, against a `Target`.
-/

namespace Amt

open Outcome (ensure)
open Target (fits reserve saturate)

/-! ## Records, reports, errors -/

/-- The six kinds of records of IGMPv3 and MLDv2, and those of the older versions. -/
inductive MembershipRecordKind where
  | modeIsInclude
  | modeIsExclude
  | changeToInclude
  | changeToExclude
  | allowNewSources
  | blockOldSources
  | legacyReport
  | legacyLeave
deriving DecidableEq, Repr

/-- A change to the filter of one group. -/
structure MembershipRecord where
  kind : MembershipRecordKind
  group : IpAddr
  sources : List IpAddr
deriving DecidableEq, Repr

/-- The records of one packet. -/
structure MembershipReport where
  protocol : MembershipProtocol
  records : List MembershipRecord
deriving DecidableEq, Repr

/-- What a relay lets a packet hold. -/
structure MembershipParseLimits where
  maxRecords : ℕ
  maxSourcesPerRecord : ℕ
deriving DecidableEq, Repr

def MembershipParseLimits.default : MembershipParseLimits where
  maxRecords := 512
  maxSourcesPerRecord := 128

/-- Why a packet is not a report. -/
inductive MembershipParseError where
  | truncated (context : String) (expectedAtLeast actual : ℕ)
  | invalidIpVersion (version : UInt8)
  | invalidIpv4HeaderLength (length : ℕ)
  | invalidTotalLength (totalLength available : ℕ)
  | invalidMessageLength (context : String) (expected actual : ℕ)
  | invalidProtocol (expected actual : UInt8)
  | invalidChecksum (context : String)
  | invalidHopLimit (hopLimit : UInt8)
  | fragmentedPacket
  | missingIpv4RouterAlert
  | missingIpv6RouterAlert
  | invalidDestination (destination : IpAddr)
  | invalidSourceAddress (source : IpAddr)
  | resourceLimit (resource : String) (requested limit : ℕ)
  | unsupportedMembershipMessage (kind : UInt8)
  | unknownRecordType (kind : UInt8)
  | invalidMulticastGroup (group : IpAddr)
  | mixedAddressFamilies
deriving DecidableEq, Repr

/-- Why a report has no packet. -/
inductive MembershipBuildError where
  | emptyReport
  | tooManyRecords (count : ℕ)
  | tooManySources (count : ℕ)
  | packetTooLong (length : ℕ)
  | unsupportedRecordKind (kind : MembershipRecordKind)
  | invalidMulticastGroup (group : IpAddr)
  | mixedAddressFamilies
  | protocolAddressFamilyMismatch (protocol : MembershipProtocol) (group : IpAddr)
deriving DecidableEq, Repr

def u16Max : ℕ := 65535

/-- `usize::MAX` of a 64-bit target. -/
def usizeMax : ℕ := 2 ^ 64 - 1

/-! ## Checks shared by the parsers -/

def requireLen (context : String) (bytes : Bytes) (expectedAtLeast : ℕ) :
    Outcome MembershipParseError Unit :=
  ensure (¬ bytes.length < expectedAtLeast) (.truncated context expectedAtLeast bytes.length)

def requireExactLen (context : String) (bytes : Bytes) (expected : ℕ) :
    Outcome MembershipParseError Unit :=
  ensure (bytes.length = expected) (.invalidMessageLength context expected bytes.length)

def checkParseLimit (resource : String) (requested limit : ℕ) :
    Outcome MembershipParseError Unit :=
  ensure (requested ≤ limit) (.resourceLimit resource requested limit)

/-- The record type of the wire. -/
def recordKind : UInt8 → Outcome MembershipParseError MembershipRecordKind
  | 1 => .ok .modeIsInclude
  | 2 => .ok .modeIsExclude
  | 3 => .ok .changeToInclude
  | 4 => .ok .changeToExclude
  | 5 => .ok .allowNewSources
  | 6 => .ok .blockOldSources
  | other => .err (.unknownRecordType other)

/-- The wire has no type for the records of older versions. -/
def encodeRecordKind : MembershipRecordKind → Outcome MembershipBuildError UInt8
  | .modeIsInclude => .ok 1
  | .modeIsExclude => .ok 2
  | .changeToInclude => .ok 3
  | .changeToExclude => .ok 4
  | .allowNewSources => .ok 5
  | .blockOldSources => .ok 6
  | .legacyReport => .err (.unsupportedRecordKind .legacyReport)
  | .legacyLeave => .err (.unsupportedRecordKind .legacyLeave)

/-- A source has to be a unicast address. -/
def isValidSource : IpAddr → Bool
  | .v4 source => !source.isUnspecified && !source.isMulticast && !source.isBroadcast
  | .v6 source => !source.isUnspecified && !source.isMulticast

/-- A wrong source is reported before a mixture of families. -/
def validateRecord (group : IpAddr) (sources : List IpAddr) :
    Outcome MembershipParseError Unit := do
  ensure group.isMulticast (.invalidMulticastGroup group)
  if sources.any fun source => !group.sameFamily source || !isValidSource source then
    match sources.find? fun source => !isValidSource source with
    | some source => .err (.invalidSourceAddress source)
    | none => .err .mixedAddressFamilies
  else .ok ()

def validateRecords : List MembershipRecord → Outcome MembershipParseError Unit
  | [] => .ok ()
  | record :: records => do
      validateRecord record.group record.sources
      validateRecords records

/-- The record of a whole message of an older version. -/
def legacyRecord (kind : MembershipRecordKind) (group : IpAddr) : MembershipRecord :=
  { kind, group, sources := [] }

/-! ## The record layout -/

/-- What the record layouts of IGMPv3 and MLDv2 differ in. -/
structure RecordFormat where
  addressLen : ℕ
  /-- Read an address of the family. -/
  read : [Target] → Bytes → ℕ → Outcome MembershipParseError IpAddr
  /-- The octets of an address of the family; the other family is unreachable. -/
  octets : IpAddr → Outcome MembershipBuildError Bytes
  reportContext : String
  recordsContext : String
  recordContext : String

namespace RecordFormat

/-- A record without its sources: type, auxiliary length, source count, group. -/
def recordHeaderLen (format : RecordFormat) : ℕ := 4 + format.addressLen

end RecordFormat

def igmpv3Format : RecordFormat where
  addressLen := 4
  read bytes offset := do pure (.v4 (← readIpv4 bytes offset))
  octets
    | .v4 address => .ok address.octets.toList
    | .v6 _ => .panic
  reportContext := "IGMPv3 Membership Report"
  recordsContext := "IGMPv3 group records"
  recordContext := "IGMPv3 group record"

def mldv2Format : RecordFormat where
  addressLen := 16
  read bytes offset := do pure (.v6 (← readIpv6 bytes offset))
  octets
    | .v6 address => .ok address.octets.toList
    | .v4 _ => .panic
  reportContext := "MLDv2 Listener Report"
  recordsContext := "MLDv2 multicast address records"
  recordContext := "MLDv2 multicast address record"

/-! ## Parsing -/

section Parse

variable [Target]

/-- The source list of a record, `count` addresses from `offset`. -/
def readSources (format : RecordFormat) (message : Bytes) :
    ℕ → ℕ → Outcome MembershipParseError (List IpAddr)
  | 0, _ => .ok []
  | count + 1, offset => do
      fits offset
      let source ← format.read message offset
      let sources ← readSources format message count (offset + format.addressLen)
      pure (source :: sources)

/-- One iteration of the record loop: the record at `offset` and the offset behind it. -/
def parseRecord (format : RecordFormat) (message : Bytes) (limits : MembershipParseLimits)
    (offset : ℕ) : Outcome MembershipParseError (MembershipRecord × ℕ) := do
  requireLen format.recordContext (← sliceFrom message offset) format.recordHeaderLen
  let kind ← recordKind (← byteAt message offset)
  fits (offset + 4)
  let auxLen := (← byteAt message (offset + 1)).toNat * 4
  fits auxLen
  let sourceCount := (← u16At message (offset + 2)).toNat
  checkParseLimit "sources per record" sourceCount limits.maxSourcesPerRecord
  let group ← format.read message (offset + 4)
  fits (offset + format.recordHeaderLen)
  let recordLen := format.recordHeaderLen + sourceCount * format.addressLen + auxLen
  fits recordLen
  requireLen format.recordContext (← sliceFrom message offset) recordLen
  reserve (.sources sourceCount)
  let sources ← readSources format message sourceCount (offset + format.recordHeaderLen)
  validateRecord group sources
  fits (offset + recordLen)
  pure ({ kind, group, sources }, offset + recordLen)

/-- The record loop: `count` records from `offset`, and the offset behind the last. -/
def parseRecordLoop (format : RecordFormat) (message : Bytes) (limits : MembershipParseLimits) :
    ℕ → ℕ → Outcome MembershipParseError (List MembershipRecord × ℕ)
  | 0, offset => .ok ([], offset)
  | count + 1, offset => do
      let (record, next) ← parseRecord format message limits offset
      let (records, last) ← parseRecordLoop format message limits count next
      pure (record :: records, last)

/-- As many records as the message announces, and nothing after them. -/
def parseFormatRecords (format : RecordFormat) (message : Bytes) (limits : MembershipParseLimits) :
    Outcome MembershipParseError (List MembershipRecord) := do
  requireLen format.reportContext message 8
  let count := (← u16At message 6).toNat
  checkParseLimit "records" count limits.maxRecords
  let expectedAtLeast := 8 + saturate (count * format.recordHeaderLen)
  fits expectedAtLeast
  ensure (¬ count > (message.length - 8) / format.recordHeaderLen)
    (.truncated format.recordsContext expectedAtLeast message.length)
  reserve (.records count)
  let (records, offset) ← parseRecordLoop format message limits count 8
  requireExactLen format.reportContext message offset
  pure records

def parseIgmpv3Records (igmp : Bytes) (limits : MembershipParseLimits) :
    Outcome MembershipParseError (List MembershipRecord) :=
  parseFormatRecords igmpv3Format igmp limits

def parseMldv2Records (icmp : Bytes) (limits : MembershipParseLimits) :
    Outcome MembershipParseError (List MembershipRecord) :=
  parseFormatRecords mldv2Format icmp limits

def igmpv3ReportDestination : Ipv4Addr := Ipv4Addr.new 224 0 0 22
def igmpv2AllRouters : Ipv4Addr := Ipv4Addr.new 224 0 0 2
def mldv2ReportDestination : Ipv6Addr := Ipv6Addr.new 0xff02 0 0 0 0 0 0 0x16
def mldv1AllRouters : Ipv6Addr := Ipv6Addr.new 0xff02 0 0 0 0 0 0 2

/-- The IGMP message of a membership packet, by its type. -/
def parseIgmpRecords (igmp : Bytes) (destination : Ipv4Addr) (limits : MembershipParseLimits) :
    Outcome MembershipParseError (List MembershipRecord) := do
  match ← byteAt igmp 0 with
  | 0x16 =>
      requireExactLen "IGMPv2 Membership Report" igmp 8
      let group ← readIpv4 igmp 4
      ensure (destination = group) (.invalidDestination (.v4 destination))
      pure [legacyRecord .legacyReport (.v4 group)]
  | 0x17 =>
      requireExactLen "IGMPv2 Leave Group" igmp 8
      ensure (destination = igmpv2AllRouters) (.invalidDestination (.v4 destination))
      pure [legacyRecord .legacyLeave (.v4 (← readIpv4 igmp 4))]
  | 0x22 =>
      ensure (destination = igmpv3ReportDestination) (.invalidDestination (.v4 destination))
      parseIgmpv3Records igmp limits
  | kind => .err (.unsupportedMembershipMessage kind)

/-- An IGMP message in an IPv4 packet that is not a fragment. -/
def parseIpv4MembershipReport (packet : Bytes) (limits : MembershipParseLimits) :
    Outcome MembershipParseError MembershipReport := do
  requireLen "IPv4 header" packet ipv4MinHeaderLen
  let ihl := ((← byteAt packet 0) &&& 0x0f).toNat * 4
  fits ihl
  ensure (¬ ihl < ipv4MinHeaderLen) (.invalidIpv4HeaderLength ihl)
  requireLen "IPv4 header" packet ihl
  let totalLen := (← u16At packet 2).toNat
  ensure (¬ (totalLen < ihl ∨ totalLen > packet.length))
    (.invalidTotalLength totalLen packet.length)
  let protocol ← byteAt packet 9
  ensure (protocol = 2) (.invalidProtocol 2 protocol)
  let hopLimit ← byteAt packet 8
  ensure (hopLimit = 1) (.invalidHopLimit hopLimit)
  ensure ((← u16At packet 6) &&& 0x3fff = 0) .fragmentedPacket
  let source ← readIpv4 packet 12
  ensure (¬ (source.isMulticast || source.isBroadcast)) (.invalidSourceAddress (.v4 source))
  let routerAlert ←
    if ihl = ipv4MinHeaderLen then pure false
    else hasIpv4RouterAlert (← slice packet ipv4MinHeaderLen ihl)
  ensure routerAlert .missingIpv4RouterAlert
  let header ← slice packet 0 ihl
  sumFits [header]
  ensure (onesComplementSum header = 0xffff) (.invalidChecksum "IPv4 header")
  let igmp ← slice packet ihl totalLen
  requireLen "IGMP message" igmp 8
  sumFits [igmp]
  ensure (onesComplementSum igmp = 0xffff) (.invalidChecksum "IGMP")
  let destination ← readIpv4 packet 16
  let records ← parseIgmpRecords igmp destination limits
  validateRecords records
  pure { protocol := .igmpv3, records }

/-- The ICMPv6 message of a membership packet, by its type. -/
def parseMldRecords (icmp : Bytes) (destination : Ipv6Addr) (limits : MembershipParseLimits) :
    Outcome MembershipParseError (List MembershipRecord) := do
  match ← byteAt icmp 0 with
  | 131 =>
      requireExactLen "MLDv1 Listener Report" icmp 24
      let group ← readIpv6 icmp 8
      ensure (destination = group) (.invalidDestination (.v6 destination))
      pure [legacyRecord .legacyReport (.v6 group)]
  | 132 =>
      requireExactLen "MLDv1 Listener Done" icmp 24
      ensure (destination = mldv1AllRouters) (.invalidDestination (.v6 destination))
      pure [legacyRecord .legacyLeave (.v6 (← readIpv6 icmp 8))]
  | 143 =>
      ensure (destination = mldv2ReportDestination) (.invalidDestination (.v6 destination))
      parseMldv2Records icmp limits
  | kind => .err (.unsupportedMembershipMessage kind)

/-- The hop-by-hop header at offset 40, when there is one: the next header, the
offset behind it, and whether it carries a Router Alert. -/
def parseHopByHop (packet : Bytes) (totalLen : ℕ) :
    Outcome MembershipParseError (UInt8 × ℕ × Bool) := do
  let nextHeader ← byteAt packet 6
  let offset := ipv6HeaderLen
  if nextHeader = 0 then do
    requireLen "IPv6 hop-by-hop header" (← slice packet offset totalLen) 8
    let nextHeader ← byteAt packet offset
    let extensionLen := ((← byteAt packet (offset + 1)).toNat + 1) * 8
    fits (offset + extensionLen)
    requireLen "IPv6 hop-by-hop header" (← slice packet offset totalLen) extensionLen
    let sawRouterAlert ← hasIpv6RouterAlert (← slice packet (offset + 2) (offset + extensionLen))
    pure (nextHeader, offset + extensionLen, sawRouterAlert)
  else pure (nextHeader, offset, false)

/-- An ICMPv6 message behind a hop-by-hop header. -/
def parseIpv6MembershipReport (packet : Bytes) (limits : MembershipParseLimits) :
    Outcome MembershipParseError MembershipReport := do
  requireLen "IPv6 header" packet ipv6HeaderLen
  let payloadLen := (← u16At packet 4).toNat
  let totalLen := ipv6HeaderLen + payloadLen
  fits totalLen
  ensure (¬ totalLen > packet.length) (.invalidTotalLength totalLen packet.length)
  let hopLimit ← byteAt packet 7
  ensure (hopLimit = 1) (.invalidProtocol 1 hopLimit)
  let source ← readIpv6 packet 8
  ensure (¬ source.isMulticast) (.invalidSourceAddress (.v6 source))
  let destination ← readIpv6 packet 24
  let (nextHeader, offset, sawRouterAlert) ← parseHopByHop packet totalLen
  ensure sawRouterAlert .missingIpv6RouterAlert
  ensure (nextHeader = 58) (.invalidProtocol 58 nextHeader)
  let icmp ← slice packet offset totalLen
  requireLen "MLD message" icmp 8
  sumFits (icmpv6Parts source.octets destination.octets 58 icmp)
  ensure (icmpv6Checksum source.octets destination.octets 58 icmp = 0)
    (.invalidChecksum "ICMPv6")
  let records ← parseMldRecords icmp destination limits
  validateRecords records
  pure { protocol := .mldv2, records }

/-- By the version in the first byte. -/
def parseMembershipReportWithLimits (packet : Bytes) (limits : MembershipParseLimits) :
    Outcome MembershipParseError MembershipReport :=
  match packet.head? with
  | none => .err (.truncated "IP packet" 1 0)
  | some first =>
      match first >>> 4 with
      | 4 => parseIpv4MembershipReport packet limits
      | 6 => parseIpv6MembershipReport packet limits
      | version => .err (.invalidIpVersion version)

/-- `parse_membership_report`, with the default limits. -/
def parseMembershipReport (packet : Bytes) : Outcome MembershipParseError MembershipReport :=
  parseMembershipReportWithLimits packet .default

end Parse

/-! ## Building -/

/-- The group's family is the protocol's. -/
def protocolFamily : MembershipProtocol → IpAddr → Bool
  | .igmpv3, .v4 _ => true
  | .mldv2, .v6 _ => true
  | _, _ => false

/-- One iteration of `validate_build_records`. -/
def validateBuildRecord (protocol : MembershipProtocol) (record : MembershipRecord) :
    Outcome MembershipBuildError Unit := do
  let _ ← encodeRecordKind record.kind
  ensure (isAmtForwardableGroup record.group) (.invalidMulticastGroup record.group)
  ensure (protocolFamily protocol record.group)
    (.protocolAddressFamilyMismatch protocol record.group)
  ensure (¬ record.sources.length > u16Max) (.tooManySources record.sources.length)
  ensure (¬ record.sources.any fun source =>
    !record.group.sameFamily source || !isValidSource source) .mixedAddressFamilies

def validateBuildRecordLoop (protocol : MembershipProtocol) :
    List MembershipRecord → Outcome MembershipBuildError Unit
  | [] => .ok ()
  | record :: records => do
      validateBuildRecord protocol record
      validateBuildRecordLoop protocol records

/-- There is a record, and none is of the wrong kind, group, family or size. -/
def validateBuildRecords (protocol : MembershipProtocol) (records : List MembershipRecord) :
    Outcome MembershipBuildError Unit := do
  ensure (¬ records.isEmpty) .emptyReport
  ensure (¬ records.length > u16Max) (.tooManyRecords records.length)
  validateBuildRecordLoop protocol records

/-- The length of the sources of a record. -/
def checkedMulSources (sourceCount sourceLen : ℕ) : Outcome MembershipBuildError ℕ := do
  ensure (¬ sourceCount > u16Max) (.tooManySources sourceCount)
  ensure (sourceCount * sourceLen ≤ usizeMax) (.packetTooLong usizeMax)
  pure (sourceCount * sourceLen)

/-- The `try_fold` over the records: their encoded length. -/
def encodedRecordsLen (format : RecordFormat) :
    List MembershipRecord → ℕ → Outcome MembershipBuildError ℕ
  | [], len => .ok len
  | record :: records, len => do
      let sourceLen ← checkedMulSources record.sources.length format.addressLen
      ensure (len + (format.recordHeaderLen + sourceLen) ≤ usizeMax) (.packetTooLong usizeMax)
      encodedRecordsLen format records (len + (format.recordHeaderLen + sourceLen))

/-- Write the sources of a record, from `offset` on. -/
def writeSources (format : RecordFormat) :
    List IpAddr → Bytes → ℕ → Outcome MembershipBuildError (Bytes × ℕ)
  | [], message, offset => .ok (message, offset)
  | source :: sources, message, offset => do
      let octets ← format.octets source
      let message ← copyInto message offset (offset + format.addressLen) octets
      writeSources format sources message (offset + format.addressLen)

/-- Write the records, from `offset` on. -/
def writeRecords (format : RecordFormat) :
    List MembershipRecord → Bytes → ℕ → Outcome MembershipBuildError (Bytes × ℕ)
  | [], message, offset => .ok (message, offset)
  | record :: records, message, offset => do
      let group ← format.octets record.group
      let message ← setAt message offset (← encodeRecordKind record.kind)
      let message ← copyInto message (offset + 2) (offset + 4)
        (u16ToBe (UInt16.ofNat record.sources.length))
      let message ← copyInto message (offset + 4) (offset + format.recordHeaderLen) group
      let (message, offset) ←
        writeSources format record.sources message (offset + format.recordHeaderLen)
      writeRecords format records message offset

/-- An IPv4 packet with the Router Alert option, addressed to the IGMPv3 routers. -/
def buildIgmpv3MembershipReport (records : List MembershipRecord) :
    Outcome MembershipBuildError Bytes := do
  validateBuildRecords .igmpv3 records
  let recordsLen ← encodedRecordsLen igmpv3Format records 0
  let igmpLen := 8 + recordsLen
  let totalLen := 24 + igmpLen
  ensure (¬ totalLen > u16Max) (.packetTooLong totalLen)
  let packet : Bytes := List.replicate totalLen 0
  let packet ← setAt packet 0 0x46
  let packet ← setAt packet 1 0xc0
  let packet ← copyInto packet 2 4 (u16ToBe (UInt16.ofNat totalLen))
  let packet ← setAt packet 8 1
  let packet ← setAt packet 9 2
  let packet ← copyInto packet 12 16 Ipv4Addr.unspecified.octets.toList
  let packet ← copyInto packet 16 20 igmpv3ReportDestination.octets.toList
  let packet ← copyInto packet 20 24 [0x94, 0x04, 0, 0]
  let igmp ← sliceFrom packet 24
  let igmp ← setAt igmp 0 0x22
  let igmp ← copyInto igmp 6 8 (u16ToBe (UInt16.ofNat records.length))
  let (igmp, _) ← writeRecords igmpv3Format records igmp 8
  let igmp ← copyInto igmp 2 4 (u16ToBe (checksum igmp))
  -- `igmp` is the mutable tail of `packet`
  let ipHeader ← slice packet 0 24
  let packet := ipHeader ++ igmp
  copyInto packet 10 12 (u16ToBe (checksum ipHeader))

/-- An IPv6 packet with the Router Alert option, addressed to the MLDv2 routers. -/
def buildMldv2MembershipReport (records : List MembershipRecord) :
    Outcome MembershipBuildError Bytes := do
  validateBuildRecords .mldv2 records
  let recordsLen ← encodedRecordsLen mldv2Format records 0
  let mldLen := 8 + recordsLen
  let payloadLen := 8 + mldLen
  ensure (¬ payloadLen > u16Max) (.packetTooLong (ipv6HeaderLen + payloadLen))
  let totalLen := ipv6HeaderLen + payloadLen
  let source := Ipv6Addr.unspecified.octets
  let destination := mldv2ReportDestination.octets
  let packet : Bytes := List.replicate totalLen 0
  let packet ← setAt packet 0 0x60
  let packet ← copyInto packet 4 6 (u16ToBe (UInt16.ofNat payloadLen))
  let packet ← setAt packet 6 0
  let packet ← setAt packet 7 1
  let packet ← copyInto packet 8 24 source.toList
  let packet ← copyInto packet 24 40 destination.toList
  let packet ← copyInto packet 40 48 [58, 0, 5, 2, 0, 0, 1, 0]
  let mld ← sliceFrom packet 48
  let mld ← setAt mld 0 143
  let mld ← copyInto mld 6 8 (u16ToBe (UInt16.ofNat records.length))
  let (mld, _) ← writeRecords mldv2Format records mld 8
  let mld ← copyInto mld 2 4 (u16ToBe (icmpv6Checksum source destination 58 mld))
  -- `mld` is the mutable tail of `packet`
  let ipHeader ← slice packet 0 48
  pure (ipHeader ++ mld)

/-- The packet of a report, by its protocol. -/
def buildMembershipReport (report : MembershipReport) : Outcome MembershipBuildError Bytes :=
  match report.protocol with
  | .igmpv3 => buildIgmpv3MembershipReport report.records
  | .mldv2 => buildMldv2MembershipReport report.records

end Amt

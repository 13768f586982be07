import Amt.Lib.Follow
import Amt.Driad.DnsMessage
import Amt.Driad.Order

/-!
# Finding the relays of a source

`resolveSourceCandidates` looks up the AMTRELAY records of a source under its reverse name,
looks up the addresses of the relays that are given by name, and returns the relays it may
use, in the order in which they are to be tried.

* **The network is a parameter.**  A `Dns` answers each message to each resolver in each
  attempt with any bytes or with an error; it also decides the numbers of the queries.  The
  functions here build the messages, check the replies and go on to the next resolver.
* **Two searches follow aliases**, one for records and one for addresses.  Both are instances
  of `follow`: at most eight names are asked for, none of them twice, and the lifetimes of the
  aliases are kept.
* **A selection is as good as its shortest lifetime.**  `RelayOf` says how a relay follows from
  a record and which lifetimes that involves; the lifetime of a selection is the minimum of
  these, of the record's own and of the aliases that led to it
  (`resolveSourceCandidates_spec`).

The clock, the timeouts and the budget of queries only decide whether a query fails, which a
`Dns` may do at any time.
-/

namespace Amt

open Outcome Text

/-! ## The code -/

/-- Where the resolver asks, how long and how often. -/
structure DriadResolverConfig where
  resolvers : List SocketAddr
  timeout : Duration
  attempts : ℕ
  allowInsecureDns : Bool
  maxCandidates : ℕ
  maxQueriesPerWindow : ℕ
  queryRateWindow : Duration

def IpAddr.isLoopback : IpAddr → Bool
  | .v4 a => a.octets.toList.head? == some 127
  | .v6 a => a == Ipv6Addr.new 0 0 0 0 0 0 0 1

def Ipv6Addr.isUnicastLinkLocal (a : Ipv6Addr) : Bool := a.segment0 &&& 0xffc0 == 0xfe80

/-- `DriadResolver::validate`. -/
def DriadResolverConfig.validate (config : DriadResolverConfig) : Outcome DriadError Unit := do
  ensure (config.resolvers ≠ []) .noResolvers
  match config.allowInsecureDns, config.resolvers.find? fun resolver => !resolver.ip.isLoopback with
  | false, some resolver => .err (.insecureResolver resolver)
  | _, _ => pure ()
  ensure (config.timeout ≠ 0) (.invalidConfig "timeout must not be zero")
  ensure (config.attempts ≠ 0) (.invalidConfig "attempts must not be zero")
  ensure (config.maxCandidates ≠ 0) (.invalidConfig "maximum candidate count must not be zero")
  ensure (config.maxQueriesPerWindow ≠ 0) (.invalidConfig "DNS query limit must not be zero")
  ensure (config.queryRateWindow ≠ 0) (.invalidConfig "DNS query-rate window must not be zero")

/-- What becomes of the messages of the resolver. -/
structure Dns where
  /-- The number of a query, or why it cannot be made. -/
  queryId : ℕ → SocketAddr → String → UInt16 → Except DriadError UInt16
  /-- The datagram that answers a query. -/
  udp : ℕ → SocketAddr → Bytes → Except DriadError Bytes
  /-- The message that answers a query over TCP. -/
  tcp : ℕ → SocketAddr → Bytes → Except DriadError Bytes

/-- `reverse_source_name`. -/
def reverseSourceName : IpAddr → String
  | .v4 a =>
      String.intercalate "." (a.octets.toList.reverse.map fun b => toString b.toNat) ++
        ".in-addr.arpa"
  | .v6 a =>
      String.intercalate "." (a.octets.toList.reverse.flatMap fun (b : UInt8) =>
        [String.ofList [Nat.digitChar (b &&& 0x0f).toNat],
          String.ofList [Nat.digitChar (b >>> 4).toNat]]) ++ ".ip6.arpa"

/-- A link-local address would need a scope, which a record does not have. -/
def isUsableRelayAddress : IpAddr → Bool
  | .v4 a => !a.isUnspecified && !a.isMulticast && !a.isBroadcast
  | .v6 a => !a.isUnspecified && !a.isMulticast && !a.isUnicastLinkLocal

/-- The flag of a datagram that is not the whole answer. -/
def isTruncated : Bytes → Bool
  | _ :: _ :: hi :: lo :: _ => u16OfBe hi lo &&& 0x0200 != 0
  | _ => false

section Code

variable (dns : Dns) (config : DriadResolverConfig)

/-- `query_tcp`. -/
def queryTcp (attempt : ℕ) (resolver : SocketAddr) (query : Bytes) : Outcome DriadError Bytes := do
  let response ← ofExcept (dns.tcp attempt resolver query)
  ensure (dnsHeaderLen ≤ response.length) (.truncated "DNS TCP response")
  pure response

/-- `query_wire`. -/
def queryWire (attempt : ℕ) (resolver : SocketAddr) (name : String) (queryType : UInt16) :
    Outcome DriadError (UInt16 × Bytes) := do
  let id ← ofExcept (dns.queryId attempt resolver name queryType)
  let query ← buildDnsQuery id name queryType
  let datagram ← ofExcept (dns.udp attempt resolver query)
  if isTruncated datagram then do
    let response ← queryTcp dns attempt resolver query
    pure (id, response)
  else pure (id, datagram)

/-- The attempts with each resolver, in the order in which they are made. -/
def queries : List (ℕ × SocketAddr) :=
  (List.range (max config.attempts 1)).flatMap fun attempt =>
    config.resolvers.map fun resolver => (attempt, resolver)

/-- `query_resolver`. -/
def queryResolver (attempt : ℕ) (resolver : SocketAddr) (name : String) :
    Outcome DriadError DnsAmtRelayResponse := do
  let reply ← queryWire dns attempt resolver name amtrelayRrtype
  parseDnsResponse reply.1 name reply.2

/-- The loops of `lookup_amtrelay_name`: the first reply that is accepted. -/
def queryRecords (name : String) :
    List (ℕ × SocketAddr) → Option DriadError → Outcome DriadError DnsAmtRelayResponse
  | [], lastError => .err (lastError.getD .noResolvers)
  | (attempt, resolver) :: rest, _ =>
      match queryResolver dns attempt resolver name with
      | .ok response => .ok response
      | .err error => queryRecords name rest (some error)
      | .panic => .panic

/-- `lookup_amtrelay_name`. -/
def lookupAmtrelayName (name : String) : Outcome DriadError DnsAmtRelayResponse :=
  queryRecords dns name (queries config) none

/-- A round of `lookup_amtrelay_following_aliases`: records, or the first alias. -/
def amtrelayStep (current : String) :
    Outcome DriadError (Lookup String (List (Timed AmtRelayRecord)) Duration) := do
  let response ← lookupAmtrelayName dns config current
  if response.records ≠ [] then pure (.found response.records)
  else
    match response.aliases.head? with
    | some next => pure (.redirect next.value next.ttl)
    | none => .err (.noRecords current)

/-- How many aliases are followed. -/
def maxAliasDepth : ℕ := 8

/-- `lookup_amtrelay_following_aliases`. -/
def lookupAmtrelayFollowingAliases (queryName : String) :
    Outcome DriadError (List (Timed AmtRelayRecord)) := do
  let found ← follow toAsciiLowercase (amtrelayStep dns config) .aliasLoop
    (.aliasDepthExceeded queryName) maxAliasDepth queryName [] Duration.maximum
  pure (found.1.map fun record => ⟨record.value, min record.ttl found.2⟩)

/-- A query for addresses and its reply. -/
def queryAddresses (attempt : ℕ) (resolver : SocketAddr) (name : String) (queryType : UInt16) :
    Outcome DriadError DnsAddressResponse := do
  let reply ← queryWire dns attempt resolver name queryType
  parseAddressResponse reply.1 name queryType reply.2

/-- The loops over the queries of `lookup_host_type`: a reply without addresses and without an
alias is passed over, and so is an error, which is kept. -/
def queryHost (current : String) (queryType : UInt16) :
    List (ℕ × SocketAddr) → DriadError →
      Outcome DriadError (Lookup String (List (Timed IpAddr)) Duration)
  | [], lastError => .err lastError
  | (attempt, resolver) :: rest, lastError =>
      match queryAddresses dns attempt resolver current queryType with
      | .ok response =>
          if response.addresses ≠ [] then .ok (.found response.addresses)
          else
            match response.aliasName with
            | some next => .ok (.redirect next.value next.ttl)
            | none => queryHost current queryType rest lastError
      | .err error => queryHost current queryType rest error
      | .panic => .panic

/-- A round of `lookup_host_type`. -/
def hostStep (queryType : UInt16) (current : String) :
    Outcome DriadError (Lookup String (List (Timed IpAddr)) Duration) :=
  queryHost dns current queryType (queries config) (.noRecords current)

/-- `lookup_host_type`. -/
def lookupHostType (name : String) (queryType : UInt16) :
    Outcome DriadError (List (Timed IpAddr)) := do
  let found ← follow toAsciiLowercase (hostStep dns config queryType) .aliasLoop
    (.aliasDepthExceeded name) maxAliasDepth name [] Duration.maximum
  pure (found.1.map fun address => ⟨address.value, min address.ttl found.2⟩)

/-- Addresses that are not there yet are added. -/
def addAddresses (addresses found : List (Timed IpAddr)) : List (Timed IpAddr) :=
  found.foldl (fun addresses address =>
    if addresses.any fun existing => existing.value == address.value then addresses
    else addresses ++ [address]) addresses

/-- The loop of `lookup_host` over the types. -/
def lookupHostTypes (name : String) :
    List UInt16 → List (Timed IpAddr) → Outcome DriadError (List (Timed IpAddr))
  | [], addresses => .ok addresses
  | queryType :: rest, addresses =>
      match lookupHostType dns config name queryType with
      | .ok found => lookupHostTypes name rest (addAddresses addresses found)
      | .err _ => lookupHostTypes name rest addresses
      | .panic => .panic

/-- `lookup_host`. -/
def lookupHost (name : String) : Outcome DriadError (List (Timed IpAddr)) := do
  let addresses ← lookupHostTypes dns config name [dnsTypeA, dnsTypeAaaa] []
  if addresses = [] then .err .noUsableRelay else pure addresses

/-- `relay_socket_addrs`. -/
def relaySocketAddrs : AmtRelayTarget → Outcome DriadError (List (Timed SocketAddr))
  | .noRelay => .err .noRelayPresent
  | .ipv4 address => .ok [⟨SocketAddr.new (.v4 address) amtPort, Duration.maximum⟩]
  | .ipv6 address => .ok [⟨SocketAddr.new (.v6 address) amtPort, Duration.maximum⟩]
  | .name name => do
      let found ← lookupHost dns config name
      let addresses : List (Timed SocketAddr) :=
        found.map fun address => ⟨SocketAddr.new address.value amtPort, address.ttl⟩
      if addresses = [] then .err .noUsableRelay else pure addresses

end Code

section Select

variable (maxCandidates : ℕ) (source : IpAddr) (queryName : String)

/-- The loop over the relays of a record. -/
def selectRelays (record : Timed AmtRelayRecord) :
    List DriadRelaySelection → List (Timed SocketAddr) → List DriadRelaySelection
  | selections, [] => selections
  | selections, relay :: relays =>
      if ¬ isUsableRelayAddress relay.value.ip then selectRelays record selections relays
      else if selections.any fun selection => selection.relay == relay.value then
        selectRelays record selections relays
      else
        let selections := selections ++
          [{ source, queryName, record := record.value, relay := relay.value,
             ttl := min record.ttl relay.ttl }]
        if selections.length ≥ maxCandidates then selections
        else selectRelays record selections relays

/-- The loop over the records; a record whose relays cannot be found is passed over. -/
def selectRecords (dns : Dns) (config : DriadResolverConfig) :
    List DriadRelaySelection → List (Timed AmtRelayRecord) →
      Outcome DriadError (List DriadRelaySelection)
  | selections, [] => .ok selections
  | selections, record :: records =>
      match relaySocketAddrs dns config record.value.target with
      | .ok relays =>
          let selections := selectRelays maxCandidates source queryName record selections relays
          if selections.length ≥ maxCandidates then .ok selections
          else selectRecords dns config selections records
      | .err _ => selectRecords dns config selections records
      | .panic => .panic

end Select

/-- `resolve_source_candidates`. -/
def resolveSourceCandidates (dns : Dns) (config : DriadResolverConfig) (random : ℕ → UInt64)
    (source : IpAddr) : Outcome DriadError (List DriadRelaySelection) := do
  config.validate
  let queryName := reverseSourceName source
  let records ← lookupAmtrelayFollowingAliases dns config queryName
  if records.any fun record => record.value.target == .noRelay then .err .noRelayPresent
  else do
    let sorted := sortByKey (fun record => record.value.precedence.toNat) records
    let selections ← selectRecords (max config.maxCandidates 1) source queryName dns config []
      (sorted.take (max config.maxCandidates 1))
    if selections = [] then .err .noUsableRelay
    else orderRelayCandidates random selections

/-! ## Records and their lifetimes -/

section Records

variable {dns : Dns} {config : DriadResolverConfig}

theorem ttl_le_of_queryRecords {name : String} {list : List (ℕ × SocketAddr)}
    {lastError : Option DriadError} {response : DnsAmtRelayResponse}
    (h : queryRecords dns name list lastError = .ok response) :
    ∀ r ∈ response.records, r.ttl ≤ Duration.maximum := by
  induction list generalizing lastError with
  | nil => cases h
  | cons query rest ih =>
      rw [queryRecords] at h
      split at h
      · next found hfound =>
          obtain rfl := Outcome.ok.inj h
          obtain ⟨reply, -, hparse⟩ := bind_eq_ok_iff.mp hfound
          exact fun r hr => (isRecordOf_of_parseDnsResponse hparse r hr).2
      · exact ih h
      · cases h

theorem ttl_le_of_amtrelayStep {name : String} {records : List (Timed AmtRelayRecord)}
    (h : amtrelayStep dns config name = .ok (.found records)) :
    ∀ r ∈ records, r.ttl ≤ Duration.maximum := by
  obtain ⟨response, hresponse, h⟩ := bind_eq_ok_iff.mp h
  split at h
  · obtain rfl := Lookup.found.inj (Outcome.ok.inj h)
    exact ttl_le_of_queryRecords hresponse
  · split at h
    · cases h
    · cases h

/-- The records that are found, and with each of them the minimum of its own lifetime and
those of the aliases. -/
theorem records_of_lookupAmtrelayFollowingAliases {queryName : String}
    {records : List (Timed AmtRelayRecord)}
    (h : lookupAmtrelayFollowingAliases dns config queryName = .ok records) :
    ∃ ttls last found, Follows (amtrelayStep dns config) queryName ttls last ∧
      amtrelayStep dns config last = .ok (.found found) ∧
      records = found.map fun record =>
        ⟨record.value, min record.ttl (ttls.foldl min Duration.maximum)⟩ := by
  obtain ⟨⟨found, ttl⟩, hfollow, h⟩ := bind_eq_ok_iff.mp h
  obtain ⟨ttls, last, hchain, hlast, rfl⟩ := follows_of_follow hfollow
  exact ⟨ttls, last, found, hchain, hlast, (Outcome.ok.inj h).symm⟩

/-! ## Relays and their lifetimes -/

variable (dns config) in
/-- The relays that the target of a record stands for, and the lifetimes on the way: those of
an address record and of the aliases that led to it. -/
inductive RelayOf : AmtRelayTarget → SocketAddr → List Duration → Prop
  | ipv4 (address : Ipv4Addr) : RelayOf (.ipv4 address) (SocketAddr.new (.v4 address) amtPort) []
  | ipv6 (address : Ipv6Addr) : RelayOf (.ipv6 address) (SocketAddr.new (.v6 address) amtPort) []
  | name {name last : String} {queryType : UInt16} {ttls : List Duration}
      {found : List (Timed IpAddr)} {address : Timed IpAddr}
      (htype : queryType ∈ [dnsTypeA, dnsTypeAaaa])
      (hchain : Follows (hostStep dns config queryType) name ttls last)
      (hlast : hostStep dns config queryType last = .ok (.found found))
      (hmem : address ∈ found) :
      RelayOf (.name name) (SocketAddr.new address.value amtPort) (address.ttl :: ttls)

theorem mem_or_mem_of_mem_addAddresses {addresses found : List (Timed IpAddr)}
    {address : Timed IpAddr} (h : address ∈ addAddresses addresses found) :
    address ∈ addresses ∨ address ∈ found := by
  induction found generalizing addresses with
  | nil => exact .inl h
  | cons first rest ih =>
      obtain h | h := ih h
      · dsimp only at h
        split at h
        · exact .inl h
        · obtain h | h := List.mem_append.mp h
          · exact .inl h
          · rw [List.mem_singleton.mp h]
            exact .inr List.mem_cons_self
      · exact .inr (List.mem_cons_of_mem _ h)

/-- Every address comes from one of the lookups. -/
theorem mem_of_lookupHostTypes {name : String} {types : List UInt16}
    {addresses result : List (Timed IpAddr)}
    (h : lookupHostTypes dns config name types addresses = .ok result) {address : Timed IpAddr}
    (hmem : address ∈ result) :
    address ∈ addresses ∨ ∃ queryType ∈ types, ∃ found,
      lookupHostType dns config name queryType = .ok found ∧ address ∈ found := by
  induction types generalizing addresses with
  | nil =>
      obtain rfl := Outcome.ok.inj h
      exact .inl hmem
  | cons queryType rest ih =>
      rw [lookupHostTypes] at h
      split at h
      · next found hfound =>
          obtain hadded | ⟨later, hlater, hrest⟩ := ih h
          · obtain hold | hnew := mem_or_mem_of_mem_addAddresses hadded
            · exact .inl hold
            · exact .inr ⟨queryType, List.mem_cons_self, found, hfound, hnew⟩
          · exact .inr ⟨later, List.mem_cons_of_mem _ hlater, hrest⟩
      · obtain hold | ⟨later, hlater, hrest⟩ := ih h
        · exact .inl hold
        · exact .inr ⟨later, List.mem_cons_of_mem _ hlater, hrest⟩
      · cases h

/-- A relay that is returned, with the minimum of the lifetimes on the way. -/
theorem relayOf_of_relaySocketAddrs {target : AmtRelayTarget} {relays : List (Timed SocketAddr)}
    (h : relaySocketAddrs dns config target = .ok relays) {relay : Timed SocketAddr}
    (hmem : relay ∈ relays) :
    ∃ ttls, RelayOf dns config target relay.value ttls ∧
      relay.ttl = ttls.foldl min Duration.maximum := by
  cases target with
  | noRelay => cases h
  | ipv4 address =>
      obtain rfl := Outcome.ok.inj h
      rw [List.mem_singleton.mp hmem]
      exact ⟨[], .ipv4 address, rfl⟩
  | ipv6 address =>
      obtain rfl := Outcome.ok.inj h
      rw [List.mem_singleton.mp hmem]
      exact ⟨[], .ipv6 address, rfl⟩
  | name name =>
      obtain ⟨found, hfound, h⟩ := bind_eq_ok_iff.mp h
      dsimp only at h
      split at h
      · cases h
      · obtain rfl := Outcome.ok.inj h
        obtain ⟨address, haddress, rfl⟩ := List.mem_map.mp hmem
        obtain ⟨types, htypes, hresult⟩ := bind_eq_ok_iff.mp hfound
        split at hresult
        · cases hresult
        · obtain rfl := Outcome.ok.inj hresult
          obtain hnone | ⟨queryType, htype, ofType, hlookup, hin⟩ :=
            mem_of_lookupHostTypes htypes haddress
          · cases hnone
          · obtain ⟨⟨addresses, ttl⟩, hfollow, hmap⟩ := bind_eq_ok_iff.mp hlookup
            obtain ⟨ttls, last, hchain, hlast, rfl⟩ := follows_of_follow hfollow
            obtain rfl := Outcome.ok.inj hmap
            obtain ⟨raw, hraw, rfl⟩ := List.mem_map.mp hin
            exact ⟨raw.ttl :: ttls, .name htype hchain hlast hraw,
              (foldl_min_cons raw.ttl Duration.maximum ttls).symm⟩

end Records

/-! ## Selecting -/

/-- Selections that may be returned: not too many, different relays, and each of them good. -/
structure Selected (maxCandidates : ℕ) (good : DriadRelaySelection → Prop)
    (selections : List DriadRelaySelection) : Prop where
  length_le : selections.length ≤ maxCandidates
  nodup : (selections.map DriadRelaySelection.relay).Nodup
  all : ∀ selection ∈ selections, good selection

section Select

variable {maxCandidates : ℕ} {good : DriadRelaySelection → Prop} {source : IpAddr}
  {queryName : String}

theorem Selected.nil : Selected maxCandidates good [] :=
  ⟨Nat.zero_le _, .nil, fun _ h => absurd h List.not_mem_nil⟩

/-- A relay that is not there yet. -/
theorem Selected.push {selections : List DriadRelaySelection} {selection : DriadRelaySelection}
    (h : Selected maxCandidates good selections) (hroom : selections.length < maxCandidates)
    (hnew : ∀ existing ∈ selections, existing.relay ≠ selection.relay) (hgood : good selection) :
    Selected maxCandidates good (selections ++ [selection]) := by
  refine ⟨by rw [List.length_append, List.length_singleton]; omega, ?_, ?_⟩
  · rw [List.map_append, List.nodup_append]
    refine ⟨h.nodup, List.nodup_singleton _, fun relay hrelay other hother => ?_⟩
    obtain ⟨existing, hexisting, rfl⟩ := List.mem_map.mp hrelay
    rw [List.map_singleton, List.mem_singleton] at hother
    rw [hother]
    exact hnew existing hexisting
  · intro s hs
    obtain hs | hs := List.mem_append.mp hs
    · exact h.all s hs
    · rw [List.mem_singleton.mp hs]
      exact hgood

/-- The relays of one record. -/
theorem Selected.selectRelays {record : Timed AmtRelayRecord} {relays : List (Timed SocketAddr)}
    {selections : List DriadRelaySelection} (h : Selected maxCandidates good selections)
    (hroom : selections.length < maxCandidates)
    (hgood : ∀ relay ∈ relays, isUsableRelayAddress relay.value.ip = true →
      good ⟨source, queryName, record.value, relay.value, min record.ttl relay.ttl⟩) :
    Selected maxCandidates good
      (selectRelays maxCandidates source queryName record selections relays) := by
  induction relays generalizing selections with
  | nil => exact h
  | cons relay relays ih =>
      obtain ⟨hfirst, hrest⟩ := List.forall_mem_cons.mp hgood
      rw [Amt.selectRelays]
      split
      · exact ih h hroom hrest
      · next husable =>
          split
          · exact ih h hroom hrest
          · next hnew =>
              rw [not_not] at husable
              have hpush := h.push hroom (by simpa using hnew) (hfirst husable)
              dsimp only
              split
              · exact hpush
              · next hmore => exact ih hpush (Nat.not_le.mp hmore) hrest

/-- The relays of all records. -/
theorem selected_of_selectRecords {dns : Dns} {config : DriadResolverConfig}
    {records : List (Timed AmtRelayRecord)} {selections result : List DriadRelaySelection}
    (h : selectRecords maxCandidates source queryName dns config selections records = .ok result)
    (hselected : Selected maxCandidates good selections)
    (hroom : selections.length < maxCandidates)
    (hgood : ∀ record ∈ records, ∀ relays,
      relaySocketAddrs dns config record.value.target = .ok relays →
      ∀ relay ∈ relays, isUsableRelayAddress relay.value.ip = true →
        good ⟨source, queryName, record.value, relay.value, min record.ttl relay.ttl⟩) :
    Selected maxCandidates good result := by
  induction records generalizing selections with
  | nil =>
      obtain rfl := Outcome.ok.inj h
      exact hselected
  | cons record records ih =>
      obtain ⟨hfirst, hrest⟩ := List.forall_mem_cons.mp hgood
      rw [selectRecords] at h
      split at h
      · next relays hrelays =>
          have hmore := hselected.selectRelays hroom (hfirst relays hrelays)
          dsimp only at h
          split at h
          · obtain rfl := Outcome.ok.inj h
            exact hmore
          · next hless => exact ih h hmore (Nat.not_le.mp hless) hrest
      · exact ih h hselected hroom hrest
      · cases h

end Select

/-! ## The whole resolution -/

section Resolve

variable {dns : Dns} {config : DriadResolverConfig} {random : ℕ → UInt64} {source : IpAddr}

variable (dns config) in
/-- How a selection follows from the DNS: a record that the aliases of the name lead to, a
relay that the record stands for, and the shortest of all lifetimes on the way. -/
def SelectionOf (queryName : String) (selection : DriadRelaySelection) : Prop :=
  ∃ aliasTtls last records record relayTtls,
    Follows (amtrelayStep dns config) queryName aliasTtls last ∧
    amtrelayStep dns config last = .ok (.found records) ∧ record ∈ records ∧
    selection.record = record.value ∧
    RelayOf dns config record.value.target selection.relay relayTtls ∧
    (record.ttl :: (aliasTtls ++ relayTtls)).min? = some selection.ttl

theorem maxCandidates_pos_of_validate (h : config.validate = .ok ()) :
    0 < config.maxCandidates := by
  obtain ⟨_, -, h⟩ := bind_eq_ok_iff.mp h
  dsimp only at h
  split at h
  · obtain ⟨_, hrefused, -⟩ := bind_eq_ok_iff.mp h
    cases hrefused
  · obtain ⟨_, -, h⟩ := bind_eq_ok_iff.mp h
    obtain ⟨_, -, h⟩ := bind_eq_ok_iff.mp h
    obtain ⟨_, hcandidates, -⟩ := bind_eq_ok_iff.mp h
    exact Nat.pos_of_ne_zero (ensure_eq_ok_iff.mp hcandidates)

theorem resolveSourceCandidates_noRelay {records : List (Timed AmtRelayRecord)}
    (hvalid : config.validate = .ok ())
    (hrecords : lookupAmtrelayFollowingAliases dns config (reverseSourceName source) = .ok records)
    (hnone : ∃ record ∈ records, record.value.target = .noRelay) :
    resolveSourceCandidates dns config random source = .err .noRelayPresent := by
  have hany : (records.any fun record => record.value.target == .noRelay) = true := by
    obtain ⟨record, hrecord, htarget⟩ := hnone
    exact List.any_eq_true.mpr ⟨record, hrecord, beq_iff_eq.mpr htarget⟩
  rw [resolveSourceCandidates, hvalid, bind_ok]
  dsimp only
  rw [hrecords, bind_ok, if_pos hany]

/-- What is selected, before it is put in order. -/
theorem selected_of_resolveSourceCandidates {ordered : List DriadRelaySelection}
    (h : resolveSourceCandidates dns config random source = .ok ordered) :
    ∃ selections, orderRelayCandidates random selections = .ok ordered ∧
      Selected config.maxCandidates (fun selection =>
        isUsableRelayAddress selection.relay.ip = true ∧
          SelectionOf dns config (reverseSourceName source) selection) selections := by
  obtain ⟨_, hvalid, h⟩ := bind_eq_ok_iff.mp h
  obtain ⟨records, hrecords, h⟩ := bind_eq_ok_iff.mp h
  have hpos := maxCandidates_pos_of_validate hvalid
  split at h
  · cases h
  · rw [max_eq_left hpos] at h
    obtain ⟨selections, hselections, h⟩ := bind_eq_ok_iff.mp h
    split at h
    · cases h
    · refine ⟨selections, h, selected_of_selectRecords hselections .nil hpos ?_⟩
      intro record hrecord relays hrelays relay hrelay husable
      refine ⟨husable, ?_⟩
      obtain ⟨aliasTtls, last, found, hchain, hlast, rfl⟩ :=
        records_of_lookupAmtrelayFollowingAliases hrecords
      have hmem := (sortByKey_perm _ _).mem_iff.mp (List.mem_of_mem_take hrecord)
      obtain ⟨raw, hraw, rfl⟩ := List.mem_map.mp hmem
      obtain ⟨relayTtls, hrelayOf, httl⟩ := relayOf_of_relaySocketAddrs hrelays hrelay
      refine ⟨aliasTtls, last, found, raw, relayTtls, hchain, hlast, hraw, rfl, hrelayOf, ?_⟩
      rw [min?_cons_foldl_min (ttl_le_of_amtrelayStep hlast raw hraw), foldl_min_append, httl,
        ← min_assoc]

end Resolve

/-- What the resolver returns, whatever the network does and whatever the random numbers are;
and which names its two searches ask for. -/
theorem resolveSourceCandidates_spec (dns : Dns) (config : DriadResolverConfig)
    (random : ℕ → UInt64) (source : IpAddr) :
    (∀ records, config.validate = .ok () →
      lookupAmtrelayFollowingAliases dns config (reverseSourceName source) = .ok records →
      (∃ record ∈ records, record.value.target = .noRelay) →
        resolveSourceCandidates dns config random source = .err .noRelayPresent) ∧
    (∀ selections, resolveSourceCandidates dns config random source = .ok selections →
      selections.length ≤ config.maxCandidates ∧
      (selections.map DriadRelaySelection.relay).Nodup ∧
      (∀ s ∈ selections, isUsableRelayAddress s.relay.ip = true) ∧
      (selections.Pairwise fun a b => a.precedence ≤ b.precedence) ∧
      ∀ s ∈ selections, SelectionOf dns config (reverseSourceName source) s) ∧
    (∀ name,
      let names := asked toAsciiLowercase (amtrelayStep dns config) maxAliasDepth name []
      names.length ≤ 8 ∧ (names.map toAsciiLowercase).Nodup ∧
        ∀ dns', (∀ n ∈ names, amtrelayStep dns' config n = amtrelayStep dns config n) →
          lookupAmtrelayFollowingAliases dns' config name =
            lookupAmtrelayFollowingAliases dns config name) ∧
    ∀ queryType name,
      let names := asked toAsciiLowercase (hostStep dns config queryType) maxAliasDepth name []
      names.length ≤ 8 ∧ (names.map toAsciiLowercase).Nodup ∧
        ∀ dns', (∀ n ∈ names, hostStep dns' config queryType n = hostStep dns config queryType n) →
          lookupHostType dns' config name queryType = lookupHostType dns config name queryType := by
  refine ⟨fun records => resolveSourceCandidates_noRelay, fun ordered h => ?_, fun name => ?_,
    fun queryType name => ?_⟩
  · obtain ⟨selections, horder, hselected⟩ := selected_of_resolveSourceCandidates h
    obtain ⟨ordered', horder', hperm, hsorted, -⟩ := exists_orderRelayCandidates random selections
    obtain rfl := Outcome.ok.inj (horder.symm.trans horder')
    refine ⟨hperm.length_eq ▸ hselected.length_le, ?_, fun s hs => ?_, hsorted, fun s hs => ?_⟩
    · exact (hperm.map DriadRelaySelection.relay).nodup_iff.mpr hselected.nodup
    · exact (hselected.all s (hperm.mem_iff.mp hs)).1
    · exact (hselected.all s (hperm.mem_iff.mp hs)).2
  · refine ⟨length_asked_le _ _ _, (nodup_keys_asked _ _ _).1, fun dns' hsame => ?_⟩
    rw [lookupAmtrelayFollowingAliases, follow_congr _ _ _ _ hsame]
    rfl
  · refine ⟨length_asked_le _ _ _, (nodup_keys_asked _ _ _).1, fun dns' hsame => ?_⟩
    rw [lookupHostType, follow_congr _ _ _ _ hsame]
    rfl

end Amt

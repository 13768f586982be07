import Amt.Membership

/-!
# Relay membership state

What a relay remembers of its gateways: per endpoint, the groups it asked for and the
source filter of each, and four fields derived from that.

* `forwarding` maps a group to the endpoints holding an interest in it, so that the
  data path does not scan every endpoint;
* `aggregate` maps a group to the merged filter of its endpoints;
* `subscriptions` is the set of native subscriptions that capture the merged filters:
  any-source for an Exclude filter, one per source for an Include filter;
* `totalEndpointGroups` and `totalSources` are the counters the limits are checked
  against.

Every mutation of `endpoints` is followed by `rebuildIndexes`, which recomputes the
derived fields by one scan in key order.
-/

namespace Amt

open Outcome (ensure)

/-! ## Source filters -/

/-- The sources are those that are wanted, or those that are not. -/
inductive FilterMode where
  | Include
  | Exclude
deriving DecidableEq, Repr

/-- The filter of one group. -/
structure GroupInterest where
  mode : FilterMode
  sources : BTreeSet IpAddr
deriving DecidableEq

namespace GroupInterest

/-- `GroupInterest::include`. -/
def ofInclude (sources : List IpAddr) : GroupInterest :=
  ⟨.Include, Std.ExtTreeSet.ofList sources compare⟩

/-- `GroupInterest::exclude`. -/
def ofExclude (sources : List IpAddr) : GroupInterest :=
  ⟨.Exclude, Std.ExtTreeSet.ofList sources compare⟩

def wantsSource (interest : GroupInterest) (source : IpAddr) : Bool :=
  match interest.mode with
  | .Include => interest.sources.contains source
  | .Exclude => !interest.sources.contains source

end GroupInterest

/-- What the relay asks of the network; no source is any source. -/
structure UpstreamSubscription where
  group : IpAddr
  source : Option IpAddr
deriving DecidableEq, Repr

namespace UpstreamSubscription

/-- The any-source subscription to a group. -/
def asm (group : IpAddr) : UpstreamSubscription := ⟨group, none⟩

/-- The subscription to one source of a group. -/
def ssm (group source : IpAddr) : UpstreamSubscription := ⟨group, some source⟩

/-- The key of the derived order: by group, any-source before source-specific. -/
def sortKey (subscription : UpstreamSubscription) : IpAddr ×ₗ WithBot IpAddr :=
  toLex (subscription.group, subscription.source)

theorem sortKey_injective : Function.Injective sortKey := by
  rintro ⟨group, source⟩ ⟨group', source'⟩ h
  obtain ⟨rfl, rfl⟩ := Prod.mk.inj (toLex_inj.mp h)
  rfl

instance instLinearOrder : LinearOrder UpstreamSubscription :=
  orderByKey sortKey sortKey_injective

end UpstreamSubscription

/-! ## Limits -/

/-- What the relay lets its gateways hold. -/
structure RelayLimits where
  maxEndpoints : ℕ
  maxEndpointsPerIp : ℕ
  maxGroupsPerEndpoint : ℕ
  maxSourcesPerGroup : ℕ
  maxTotalEndpointGroups : ℕ
  maxTotalSources : ℕ
  maxUpstreamSubscriptions : ℕ
  maxRecordsPerReport : ℕ
deriving DecidableEq, Repr

def RelayLimits.default : RelayLimits where
  maxEndpoints := 4096
  maxEndpointsPerIp := 256
  maxGroupsPerEndpoint := 128
  maxSourcesPerGroup := 128
  maxTotalEndpointGroups := 16384
  maxTotalSources := 65536
  maxUpstreamSubscriptions := 256
  maxRecordsPerReport := 512

/-- The resource, and by how much it is exceeded. -/
structure StateLimitError where
  resource : String
  requested : ℕ
  limit : ℕ
deriving DecidableEq, Repr

def checkLimit (resource : String) (requested limit : ℕ) : Outcome StateLimitError Unit :=
  ensure (requested ≤ limit) { resource, requested, limit }

/-- From nine tenths of a limit on; a limit of zero is never near. -/
def nearLimit (value limit : ℕ) : Bool := limit != 0 && value ≥ limit - limit / 10

/-! ## One endpoint -/

/-- What one gateway wants, group by group. -/
structure EndpointState where
  groups : BTreeMap IpAddr GroupInterest
deriving DecidableEq

namespace EndpointState

def default : EndpointState := ⟨∅⟩

/-- The effect of a record on the endpoint's groups; `apply_record` without its
result. -/
def updateGroups (state : EndpointState) (record : MembershipRecord) : EndpointState :=
  match record.kind with
  | .legacyReport => ⟨state.groups.insert record.group (.ofExclude [])⟩
  | .legacyLeave => ⟨state.groups.erase record.group⟩
  | .modeIsInclude | .changeToInclude =>
      if record.sources.isEmpty then ⟨state.groups.erase record.group⟩
      else ⟨state.groups.insert record.group (.ofInclude record.sources)⟩
  | .modeIsExclude | .changeToExclude =>
      ⟨state.groups.insert record.group (.ofExclude record.sources)⟩
  | .allowNewSources =>
      if record.sources.isEmpty then state
      else
        ⟨BTreeMap.upsert state.groups record.group (.ofInclude []) fun interest =>
          match interest.mode with
          | .Include => { interest with sources := interest.sources.insertMany record.sources }
          | .Exclude =>
              { interest with
                sources := record.sources.foldl (fun sources s => sources.erase s)
                  interest.sources }⟩
  | .blockOldSources =>
      if record.sources.isEmpty then state
      else
        match state.groups[record.group]? with
        | none => state
        | some interest =>
            match interest.mode with
            | .Include =>
                let sources :=
                  record.sources.foldl (fun sources s => sources.erase s) interest.sources
                if sources.isEmpty then ⟨state.groups.erase record.group⟩
                else ⟨state.groups.insert record.group { interest with sources }⟩
            | .Exclude =>
                ⟨state.groups.insert record.group
                  { interest with sources := interest.sources.insertMany record.sources }⟩

/-- Apply a record, and report whether the record's group changed.  The two early
`return false` of the source are covered: the state is then the one before. -/
def applyRecord (state : EndpointState) (record : MembershipRecord) : EndpointState × Bool :=
  let after := state.updateGroups record
  (after, state.groups[record.group]? ≠ after.groups[record.group]?)

/-- Apply records in order, counting those that changed their group. -/
def applyRecords (state : EndpointState) (records : List MembershipRecord) : EndpointState × ℕ :=
  records.foldl
    (fun acc record =>
      let (state, changed) := acc.1.applyRecord record
      (state, if changed then acc.2 + 1 else acc.2))
    (state, 0)

end EndpointState

/-! ## The merged filter of a group -/

/-- The merge of several filters, in the making. -/
structure GroupSummary where
  includeSources : BTreeSet IpAddr
  excludeSources : Option (BTreeSet IpAddr)

namespace GroupSummary

def default : GroupSummary := ⟨∅, none⟩

/-- Include lists are united, exclude lists intersected. -/
def apply (summary : GroupSummary) (interest : GroupInterest) : GroupSummary :=
  match interest.mode with
  | .Include =>
      { summary with
        includeSources := summary.includeSources.insertMany interest.sources.toList }
  | .Exclude =>
      { summary with
        excludeSources :=
          match summary.excludeSources with
          | some excludeSources =>
              some (excludeSources.filter fun source => interest.sources.contains source)
          | none => some interest.sources }

/-- A source that someone includes is not excluded. -/
def intoInterest (summary : GroupSummary) : Option GroupInterest :=
  match summary.excludeSources with
  | some excludeSources =>
      some ⟨.Exclude,
        summary.includeSources.toList.foldl (fun sources s => sources.erase s) excludeSources⟩
  | none =>
      if summary.includeSources.isEmpty then none else some ⟨.Include, summary.includeSources⟩

end GroupSummary

/-! ## The relay state -/

/-- The interests of all gateways, with the indexes that the lookups use. -/
structure RelayState where
  endpoints : BTreeMap SocketAddr EndpointState
  forwarding : BTreeMap IpAddr (BTreeSet SocketAddr)
  aggregate : BTreeMap IpAddr GroupInterest
  subscriptions : BTreeSet UpstreamSubscription
  totalEndpointGroups : ℕ
  totalSources : ℕ
deriving DecidableEq

/-- The accumulators of the scan in `rebuild_indexes`. -/
structure IndexScan where
  forwarding : BTreeMap IpAddr (BTreeSet SocketAddr)
  groups : BTreeMap IpAddr GroupSummary
  totalEndpointGroups : ℕ
  totalSources : ℕ

namespace IndexScan

def empty : IndexScan := ⟨∅, ∅, 0, 0⟩

/-- The body of the inner loop. -/
def visitGroup (endpoint : SocketAddr) (scan : IndexScan) (entry : IpAddr × GroupInterest) :
    IndexScan where
  forwarding := BTreeMap.upsert scan.forwarding entry.1 ∅ fun endpoints => endpoints.insert endpoint
  groups := BTreeMap.upsert scan.groups entry.1 .default fun summary => summary.apply entry.2
  totalEndpointGroups := scan.totalEndpointGroups
  totalSources := scan.totalSources + entry.2.sources.size

/-- The body of the outer loop. -/
def visitEndpoint (scan : IndexScan) (entry : SocketAddr × EndpointState) : IndexScan :=
  entry.2.groups.toList.foldl (visitGroup entry.1)
    { scan with totalEndpointGroups := scan.totalEndpointGroups + entry.2.groups.size }

end IndexScan

namespace RelayState

def default : RelayState := ⟨∅, ∅, ∅, ∅, 0, 0⟩

/-- The native subscriptions of one entry of the aggregate. -/
def insertSubscriptions (subscriptions : BTreeSet UpstreamSubscription)
    (entry : IpAddr × GroupInterest) : BTreeSet UpstreamSubscription :=
  match entry.2.mode with
  | .Exclude => subscriptions.insert (.asm entry.1)
  | .Include => subscriptions.insertMany (entry.2.sources.toList.map (.ssm entry.1))

/-- The indexes, computed from the interests. -/
def rebuildIndexes (state : RelayState) : RelayState :=
  let scan := state.endpoints.toList.foldl IndexScan.visitEndpoint .empty
  let aggregate : BTreeMap IpAddr GroupInterest :=
    scan.groups.filterMap fun _ summary => summary.intoInterest
  { endpoints := state.endpoints
    forwarding := scan.forwarding
    aggregate
    subscriptions := aggregate.toList.foldl insertSubscriptions ∅
    totalEndpointGroups := scan.totalEndpointGroups
    totalSources := scan.totalSources }

/-! ### Queries -/

def containsEndpoint (state : RelayState) (endpoint : SocketAddr) : Bool :=
  state.endpoints.contains endpoint

def endpointCount (state : RelayState) : ℕ := state.endpoints.size

/-- The gateways behind one address. -/
def endpointCountForIp (state : RelayState) (address : IpAddr) : ℕ :=
  (state.endpoints.keys.filter fun endpoint => endpoint.ip = address).length

def isIpNearEndpointLimit (state : RelayState) (address : IpAddr) (limit : ℕ) : Bool :=
  nearLimit (state.endpointCountForIp address) limit

def endpointInterest (state : RelayState) (endpoint : SocketAddr) (group : IpAddr) :
    Option GroupInterest :=
  state.endpoints[endpoint]?.bind fun endpointState => endpointState.groups[group]?

def endpointHasInterests (state : RelayState) (endpoint : SocketAddr) : Bool :=
  state.endpoints[endpoint]?.any fun endpointState => !endpointState.groups.isEmpty

/-- The endpoint holds an interest in `group` that wants `source`. -/
def endpointWants (state : RelayState) (source group : IpAddr) (endpoint : SocketAddr) : Bool :=
  (state.endpointInterest endpoint group).any fun interest => interest.wantsSource source

/-- The gateways a datagram goes to. -/
def matchingEndpoints (state : RelayState) (source group : IpAddr) : List SocketAddr :=
  match state.forwarding[group]? with
  | none => []
  | some endpoints => endpoints.toList.filter (state.endpointWants source group)

/-- What the network is to deliver. -/
def upstreamSubscriptions (state : RelayState) : List UpstreamSubscription :=
  state.subscriptions.toList

/-- Some gateway names the source. -/
def hasSsmInterest (state : RelayState) (source group : IpAddr) : Bool :=
  match state.forwarding[group]? with
  | none => false
  | some endpoints =>
      endpoints.toList.any fun endpoint =>
        (state.endpointInterest endpoint group).any fun interest =>
          interest.mode = .Include && interest.sources.contains source

def aggregateInterests (state : RelayState) : BTreeMap IpAddr GroupInterest := state.aggregate

/-- Some limit is near. -/
def isNearLimits (state : RelayState) (limits : RelayLimits) : Bool :=
  nearLimit state.endpoints.size limits.maxEndpoints
    || nearLimit state.totalEndpointGroups limits.maxTotalEndpointGroups
    || nearLimit state.totalSources limits.maxTotalSources
    || nearLimit state.subscriptions.size limits.maxUpstreamSubscriptions

/-! ### Updates -/

/-- The number of records that would change something, and whether the endpoint's
state would change. -/
def previewReport (state : RelayState) (endpoint : SocketAddr) (report : MembershipReport) :
    ℕ × Bool :=
  if report.records.isEmpty then (0, false)
  else
    let current := state.endpoints[endpoint]?
    let (candidate, applied) := (current.getD .default).applyRecords report.records
    let changed :=
      if candidate.groups.isEmpty then current.isSome else decide (current ≠ some candidate)
    (applied, changed)

/-- Apply the records; a gateway without a group is forgotten. -/
def applyReport (state : RelayState) (endpoint : SocketAddr) (report : MembershipReport) :
    RelayState × ℕ :=
  if report.records.isEmpty then (state, 0)
  else
    let (endpointState, applied) :=
      (state.endpoints[endpoint]?.getD .default).applyRecords report.records
    let endpoints :=
      if endpointState.groups.isEmpty then state.endpoints.erase endpoint
      else state.endpoints.insert endpoint endpointState
    ({ state with endpoints }.rebuildIndexes, applied)

/-- The largest source list among the groups of an endpoint. -/
def maxGroupSourceCount (endpointState : Option EndpointState) : ℕ :=
  match endpointState with
  | none => 0
  | some endpointState =>
      (endpointState.groups.toList.map fun held => held.2.sources.size).max?.getD 0

/-- The checks of `apply_report_limited` on the state after the report. -/
def checkLimits (state : RelayState) (endpoint : SocketAddr) (limits : RelayLimits) :
    Outcome StateLimitError Unit := do
  let endpointState := state.endpoints[endpoint]?
  checkLimit "endpoints" state.endpoints.size limits.maxEndpoints
  checkLimit "endpoints per source IP" (state.endpointCountForIp endpoint.ip)
    limits.maxEndpointsPerIp
  checkLimit "groups per endpoint" (endpointState.elim 0 fun s => s.groups.size)
    limits.maxGroupsPerEndpoint
  checkLimit "sources per endpoint group" (maxGroupSourceCount endpointState)
    limits.maxSourcesPerGroup
  checkLimit "total endpoint groups" state.totalEndpointGroups limits.maxTotalEndpointGroups
  checkLimit "total sources" state.totalSources limits.maxTotalSources
  checkLimit "upstream subscriptions" state.subscriptions.size limits.maxUpstreamSubscriptions

/-- The checks of `apply_report_limited` on the records. -/
def checkRecordSources (limits : RelayLimits) :
    List MembershipRecord → Outcome StateLimitError Unit
  | [] => .ok ()
  | record :: records => do
      checkLimit "sources per group" record.sources.length limits.maxSourcesPerGroup
      checkRecordSources limits records

/-- The checks that need nothing but the report. -/
def checkReport (report : MembershipReport) (limits : RelayLimits) :
    Outcome StateLimitError Unit := do
  checkLimit "records per report" report.records.length limits.maxRecordsPerReport
  checkRecordSources limits report.records

/-- Put back what the endpoint held before. -/
def restoreEndpoint (state : RelayState) (endpoint : SocketAddr)
    (previous : Option EndpointState) : RelayState :=
  let endpoints :=
    match previous with
    | some previous => state.endpoints.insert endpoint previous
    | none => state.endpoints.erase endpoint
  { state with endpoints }.rebuildIndexes

/-- The state is mutated on both paths, so it is returned next to the result. -/
def applyReportLimited (state : RelayState) (endpoint : SocketAddr) (report : MembershipReport)
    (limits : RelayLimits) : RelayState × Outcome StateLimitError ℕ :=
  match checkReport report limits with
  | .err error => (state, .err error)
  | .panic => (state, .panic)
  | .ok () =>
      let previous := state.endpoints[endpoint]?
      let (after, applied) := state.applyReport endpoint report
      match after.checkLimits endpoint limits with
      | .ok () => (after, .ok applied)
      | .err error => (after.restoreEndpoint endpoint previous, .err error)
      | .panic => (after, .panic)

/-- Forget a gateway; was there one? -/
def removeEndpoint (state : RelayState) (endpoint : SocketAddr) : RelayState × Bool :=
  if state.endpoints.contains endpoint then
    ({ state with endpoints := state.endpoints.erase endpoint }.rebuildIndexes, true)
  else (state, false)

end RelayState

end Amt

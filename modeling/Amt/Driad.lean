import Amt.Gateway
import Amt.Lib.Vec

/-!
# Source tunnels found through DNS

A gateway without a configured relay finds one for each source it wants: the AMTRELAY
records of the source name relays with a precedence, and `DriadSourceTunnel` probes them
until one answers with a Membership Query.

* **Candidates are probed tier by tier.**  The rank of a candidate is where it comes from
  (well-known anycast before the source's own records) and then its precedence.  `pending`
  holds the candidates still to be tried, `probes` the sockets on which a discovery is under
  way, and `currentRank` the rank that is being probed.
* **The queue is rebuilt, not edited.**  `rebuildProbeQueue` computes `pending` from the DNS
  candidates, without the relays that are held down and those that are being probed.  Between
  two rebuilds entries only leave it.
* **Everything outside is an input.**  What a socket has received, whether a datagram could
  be sent or a socket opened, what the resolver returned, each reading of the clock and each
  random draw are arguments of the call that meets them.  Metrics, log lines and the schedule
  of the resolver are left out, and so are the teardowns, which nothing here reads back.
* **A call returns the tunnel next to its result**, as a gateway does, and with them the
  events on its way (`SourceEvent`), where the source counts or logs them.  The events of a
  run, call after call, are its `trace`; no call reads them.
-/

namespace Amt

/-! ## Relays in the DNS -/

/-- The relay field of an AMTRELAY record. -/
inductive AmtRelayTarget where
  | noRelay
  | ipv4 (address : Ipv4Addr)
  | ipv6 (address : Ipv6Addr)
  | name (name : String)
deriving DecidableEq, Repr

/-- The data of an AMTRELAY record. -/
structure AmtRelayRecord where
  precedence : UInt8
  discoveryOptional : Bool
  target : AmtRelayTarget
deriving DecidableEq, Repr

/-- A relay that was found for a source, and how long the answer lasts. -/
structure DriadRelaySelection where
  source : IpAddr
  queryName : String
  record : AmtRelayRecord
  relay : SocketAddr
  ttl : Duration
deriving DecidableEq, Repr

/-- Why a source has no relay. -/
inductive DriadError where
  | noResolvers
  | insecureResolver (resolver : SocketAddr)
  | noRecords (name : String)
  | noUsableRelay
  | noRelayPresent
  | aliasLoop (name : String)
  | aliasDepthExceeded (name : String)
  | truncated (context : String)
  | invalidDnsName (name : String)
  | invalidDnsPointer
  | invalidResponseId (expected actual : UInt16)
  | dnsResponseCode (code : UInt8)
  | invalidDnsFlags (flags : UInt16)
  | invalidQuestion
  | invalidRelayType (relayType : UInt8)
  | invalidRelayLength (relayType : UInt8) (expected actual : ℕ)
  | invalidRelayName
  | invalidConfig (reason : String)
  | randomness (error : String)
  | io (error : String)
deriving DecidableEq, Repr

/-- What a look at the resolver brings. -/
inductive DriadPoll where
  | idle
  | started
  | resolved (result : Except DriadError (List DriadRelaySelection))

/-- A record gives no port. -/
def amtPort : UInt16 := 2268

def amtAnycastIpv4 : Ipv4Addr := .new 192 52 193 1

def amtAnycastIpv6 : Ipv6Addr := .new 0x2001 3 0 0 0 0 0 1

/-! ## Candidates -/

/-- Where a candidate comes from; anycast is tried before the DNS. -/
inductive DriadCandidateOrigin where
  | anycast
  | sourceDns
deriving DecidableEq, Repr

namespace DriadCandidateOrigin

/-- The position in the declaration, by which the derived order compares. -/
def position : DriadCandidateOrigin → ℕ
  | .anycast => 0
  | .sourceDns => 1

theorem position_injective : Function.Injective position := by
  intro a b h
  cases a <;> cases b <;> first | rfl | exact absurd h (by decide)

instance instLinearOrder : LinearOrder DriadCandidateOrigin :=
  orderByKey position position_injective

end DriadCandidateOrigin

/-- A relay that may be probed. -/
structure DriadCandidate where
  selection : DriadRelaySelection
  origin : DriadCandidateOrigin
deriving DecidableEq, Repr

/-- The discovery tier and the precedence in it. -/
abbrev DriadRank := DriadCandidateOrigin ×ₗ ℕ

namespace DriadCandidate

/-- Candidates of a smaller rank are probed first. -/
def rank (candidate : DriadCandidate) : DriadRank :=
  toLex (candidate.origin, candidate.selection.record.precedence.toNat)

/-- The address a probe of the candidate goes to. -/
def relay (candidate : DriadCandidate) : SocketAddr := candidate.selection.relay

end DriadCandidate

/-! ## Delays -/

def u64Max : ℕ := 2 ^ 64 - 1

def u32Max : ℕ := 2 ^ 32 - 1

def Duration.fromMillis (milliseconds : ℕ) : Duration := milliseconds * 1000000

/-- `u64::try_from(duration.as_millis()).unwrap_or(u64::MAX)`. -/
def Duration.asMillisSaturating (duration : Duration) : ℕ := min (duration / 1000000) u64Max

/-- `Duration::MAX`. -/
def Duration.maximum : Duration := Duration.fromSecs u64Max + 999999999

def gatewayRetryInitial : Duration := Duration.fromSecs 1

def gatewayRetryMax : Duration := Duration.fromSecs 120

def gatewayQueryTimeout : Duration := Duration.fromSecs 10

/-- How many datagrams one poll reads at most. -/
def maxControlDrain : ℕ := 128

/-- `GatewayRetry::upper_delay`. -/
def upperDelay (attempt : ℕ) : Duration :=
  min (gatewayRetryInitial * 2 ^ min attempt 7) gatewayRetryMax

/-- A delay between two bounds, by what the operating system's randomness gave, if it gave
anything. -/
def randomizedDurationBetween (lower upper : Duration) (random : Option UInt64) : Duration :=
  let lowerMs := lower.asMillisSaturating
  let upperMs := Duration.asMillisSaturating (max upper lower)
  let drawn := (random.map UInt64.toNat).getD upperMs
  let span := min (upperMs - lowerMs + 1) u64Max
  Duration.fromMillis (min (lowerMs + drawn % span) u64Max)

/-- The retry delay uses the same draw; its bounds never saturate. -/
def randomizedRetryDelay (upper : Duration) (random : Option UInt64) : Duration :=
  let lowerMs := gatewayRetryInitial / 1000000
  let upperMs := upper / 1000000
  let drawn := (random.map UInt64.toNat).getD upperMs
  Duration.fromMillis (lowerMs + drawn % (upperMs - lowerMs + 1))

/-! ## What a call meets outside -/

/-- An error of a socket, or a membership that cannot be reported. -/
inductive TunnelIoError where
  | socket
  | membership (error : GatewayError)
deriving DecidableEq, Repr

/-- What the answer to a datagram meets: whether it leaves the socket, the two readings of
the clock in `send_driad_desired`, and the draw of `next_traffic_timeout`. -/
structure Answering where
  sent : Bool
  refreshedAt : Instant
  deadlineFrom : Instant
  random : Option UInt64

/-- What happens in a call. -/
inductive SourceEvent where
  /-- The probe queue is rebuilt. -/
  | rebuilt
  /-- A probe of `probed` has come to the relay `advertised`, which reports load; the clock of
  the hold-down reads `heldAt`. -/
  | loaded (probed advertised : SocketAddr) (heldAt : Instant)
  /-- A probe has won; the interval is that of its Membership Query. -/
  | activated (interval : Duration)
  /-- The active relay has sent a further Membership Query, which is accepted. -/
  | queried (interval : Duration)
  /-- The desired report of an active relay is another one. -/
  | changed
  /-- The desired report is sent; traffic is awaited from then on. -/
  | sent (time : Instant)
  /-- The active relay has delivered multicast data. -/
  | data
deriving DecidableEq, Repr

/-- The event of a `send_driad_desired` that returns whether it has sent. -/
def Answering.sentEvents (answering : Answering) (sent : Bool) : List SourceEvent :=
  if sent then [.sent answering.deadlineFrom] else []

/-- What `recv_from` returns while there is something to return. -/
inductive Received where
  | failed
  | datagram (peer : SocketAddr) (bytes : Bytes) (outerEcn : EcnCodepoint) (answering : Answering)

/-! ## One probe -/

/-- A discovery that is under way with one candidate. -/
structure DriadProbe where
  candidate : DriadCandidate
  gateway : Gateway
  deadline : Instant

/-- How far a probe has come; a relay that is loaded has set the limit flag. -/
inductive DriadProbePoll where
  | pending (progress : Bool)
  | loaded (relay : SocketAddr)
  | failed
  | winner (queryInterval : Duration) (previousTeardown : Option GatewaySend)

namespace DriadProbe

/-- The relay a probe talks to: the one the advertisement named, if it has come. -/
def actual (probe : DriadProbe) : SocketAddr :=
  probe.gateway.relayEndpoint.getD probe.candidate.relay

/-- The loop of `poll_driad_probe`. -/
def pollLoop :
    ℕ → DriadProbe → Bool → List Received → DriadProbe × Outcome TunnelIoError DriadProbePoll
  | 0, probe, progress, _ => (probe, .ok (.pending progress))
  | _ + 1, probe, progress, [] => (probe, .ok (.pending progress))
  | _ + 1, probe, _, .failed :: _ => (probe, .ok .failed)
  | budget + 1, probe, _, .datagram peer bytes outerEcn answering :: received =>
      let handled := probe.gateway.handleDatagramWithEcn peer bytes outerEcn
      let probe := { probe with gateway := handled.1 }
      match handled.2 with
      | .ok (.send _ _) =>
          if answering.sent then pollLoop budget probe true received
          else (probe, .err .socket)
      | .ok (.membershipQuery _ limit _ _ queryInterval previousTeardown) =>
          if limit then (probe, .ok (.loaded probe.actual))
          else (probe, .ok (.winner queryInterval previousTeardown))
      | .ok .ignored | .ok (.multicastData _ _) | .ok (.droppedEcn _ _) | .err _ =>
          pollLoop budget probe true received
      | .panic => (probe, .panic)

/-- `poll_driad_probe`. -/
def poll (probe : DriadProbe) (received : List Received) :
    DriadProbe × Outcome TunnelIoError DriadProbePoll :=
  pollLoop maxControlDrain probe false received

end DriadProbe

/-! ## The active tunnel -/

/-- The relay that won, and the deadlines it has to keep. -/
structure ActiveDriadTunnel where
  candidate : DriadCandidate
  gateway : Gateway
  effectiveRefreshInterval : Duration
  queryCycleStarted : Option Instant
  lastMembershipRefresh : Instant
  trafficDeadline : Option Instant

/-- Why an active relay is given up. -/
inductive DriadActiveFailure where
  | loaded
  | queryTimeout
  | noTraffic
deriving DecidableEq, Repr

/-- What `poll_active` reports. -/
structure DriadActivePoll where
  madeProgress : Bool
  failure : Option DriadActiveFailure
deriving DecidableEq, Repr

namespace ActiveDriadTunnel

/-- The relay the tunnel runs through. -/
def actual (active : ActiveDriadTunnel) : SocketAddr :=
  active.gateway.relayEndpoint.getD active.candidate.relay

/-- `send_driad_desired`. -/
def sendDesired (active : ActiveDriadTunnel) (desired : MembershipReport) (answering : Answering)
    (trafficTimeout : Duration) : ActiveDriadTunnel × Outcome TunnelIoError Bool :=
  let replaced := active.gateway.replaceMemberships desired
  let active := { active with gateway := replaced.1 }
  match replaced.2 with
  | .ok none => (active, .ok false)
  | .ok (some _) =>
      if answering.sent then
        ({ active with
            lastMembershipRefresh := answering.refreshedAt
            trafficDeadline := some (answering.deadlineFrom + trafficTimeout) }, .ok true)
      else (active, .err .socket)
  | .err error => (active, .err (.membership error))
  | .panic => (active, .panic)

/-- Whether a query cycle has been without an answer for too long. -/
def queryTimedOut (active : ActiveDriadTunnel) (now : Instant) : Bool :=
  active.queryCycleStarted.any fun started => gatewayQueryTimeout ≤ elapsed started now

/-- The refresh at the start of `poll_active`; an error is the failure of the tunnel. -/
def beginRefresh (active : ActiveDriadTunnel) (now : Instant) (nonce : Nonce) (requestSent : Bool)
    (configuredRefreshInterval : Duration) : ActiveDriadTunnel × Outcome TunnelIoError Bool :=
  if !active.queryTimedOut now && active.queryCycleStarted.isNone &&
      min active.effectiveRefreshInterval configuredRefreshInterval ≤
        elapsed active.lastMembershipRefresh now then
    let begun := active.gateway.beginQueryCycle nonce
    let active := { active with gateway := begun.1 }
    match begun.2 with
    | .ok _ =>
        if requestSent then ({ active with queryCycleStarted := some now }, .ok true)
        else (active, .err .socket)
    | .err error => (active, .err (.membership error))
    | .panic => (active, .panic)
  else (active, .ok false)

/-- The two deadlines at the end of `poll_active`. -/
def checkDeadlines (active : ActiveDriadTunnel) (now later : Instant) (madeProgress : Bool) :
    DriadActivePoll :=
  if active.queryTimedOut later then ⟨true, some .queryTimeout⟩
  else if active.trafficDeadline.any fun deadline => deadline ≤ now then ⟨true, some .noTraffic⟩
  else ⟨madeProgress, none⟩

end ActiveDriadTunnel

/-! ## The tunnel of a source -/

/-- The configuration that the tunnels of all sources share. -/
structure GatewayDriadConfig where
  bind : Option SocketAddr
  useAnycast : Bool
  happyEyeballsDelay : Duration
  relayHoldDown : Duration
  trafficHoldDown : Duration
  initialTrafficTimeout : Duration
  maximumTrafficTimeout : Duration
  maxConcurrentProbes : ℕ

/-- `GatewayDriadConfig::new`. -/
def GatewayDriadConfig.default : GatewayDriadConfig where
  bind := none
  useAnycast := false
  happyEyeballsDelay := Duration.fromMillis 250
  relayHoldDown := Duration.fromSecs (10 * 60)
  trafficHoldDown := Duration.fromSecs (5 * 60)
  initialTrafficTimeout := Duration.fromSecs 4
  maximumTrafficTimeout := Duration.fromSecs 120
  maxConcurrentProbes := 4

/-- The tunnel of one source: what may be probed, what is being probed, and the active relay. -/
structure DriadSourceTunnel where
  source : IpAddr
  protocol : MembershipProtocol
  ecn : Bool
  bind : Option IpAddr
  useAnycast : Bool
  happyEyeballsDelay : Duration
  relayHoldDown : Duration
  trafficHoldDown : Duration
  initialTrafficTimeout : Duration
  maximumTrafficTimeout : Duration
  maxConcurrentProbes : ℕ
  dnsCandidates : List DriadRelaySelection
  holdDowns : BTreeMap SocketAddr Instant
  pending : List DriadCandidate
  currentRank : Option DriadRank
  probes : List DriadProbe
  nextProbeAt : Instant
  retryRoundAt : Option Instant
  retryAttempt : ℕ
  trafficRetryAttempt : ℕ
  noRelayPresent : Bool
  active : Option ActiveDriadTunnel
  desired : MembershipReport

namespace DriadSourceTunnel

/-- What a call returns: the tunnel, its result, and the events on the way. -/
structure Polled (α : Type) where
  tunnel : DriadSourceTunnel
  result : α
  events : List SourceEvent

/-- The rest of a call, after its first events. -/
abbrev Polled.prepend {α : Type} (events : List SourceEvent) (rest : Polled α) : Polled α :=
  { rest with events := events ++ rest.events }

/-! ### The probe queue -/

/-- A bound socket reaches only addresses of its family. -/
def addressFamilyAllowed (tunnel : DriadSourceTunnel) (address : IpAddr) : Bool :=
  tunnel.bind.all fun bind => bind.sameFamily address

/-- The well-known addresses, as if the DNS had named them. -/
def anycastCandidates (tunnel : DriadSourceTunnel) : List DriadCandidate :=
  ([.v6 amtAnycastIpv6, .v4 amtAnycastIpv4].filter tunnel.addressFamilyAllowed).map
    fun address =>
      { selection :=
          { source := tunnel.source
            queryName := "RFC 7450 well-known anycast"
            record :=
              { precedence := 0
                discoveryOptional := false
                target :=
                  match address with
                  | .v4 address => .ipv4 address
                  | .v6 address => .ipv6 address }
            relay := .new address amtPort
            ttl := Duration.maximum }
        origin := .anycast }

/-- The candidates `rebuild_probe_queue` starts from. -/
def candidates (tunnel : DriadSourceTunnel) : List DriadCandidate :=
  (if tunnel.useAnycast then tunnel.anycastCandidates else []) ++
    tunnel.dnsCandidates.map fun selection => { selection, origin := .sourceDns }

/-- The relays that are being probed. -/
def inFlight (tunnel : DriadSourceTunnel) : BTreeSet SocketAddr :=
  .ofList (tunnel.probes.map fun probe => probe.candidate.relay)

/-- The candidates that may be probed, in the order in which they will be. -/
def eligibleCandidates (tunnel : DriadSourceTunnel) : List DriadCandidate :=
  sortByKey DriadCandidate.rank
    (retainUnseen DriadCandidate.relay
      (fun candidate =>
        tunnel.addressFamilyAllowed candidate.relay.ip &&
          !tunnel.holdDowns.contains candidate.relay)
      tunnel.inFlight tunnel.candidates)

/-- Drop the hold-downs that have expired, and queue whatever may be probed. -/
def rebuildProbeQueue (tunnel : DriadSourceTunnel) (now : Instant) : DriadSourceTunnel :=
  let tunnel :=
    { tunnel with holdDowns := tunnel.holdDowns.filter fun _ expires => now < expires }
  if tunnel.noRelayPresent then
    { tunnel with pending := [], currentRank := none, retryRoundAt := none }
  else
    let pending := tunnel.eligibleCandidates
    { tunnel with
      pending
      currentRank :=
        (tunnel.probes.map fun probe => probe.candidate.rank).min?.or
          (pending.head?.map DriadCandidate.rank)
      nextProbeAt := now
      retryRoundAt := none }

/-- A tunnel with at most the anycast relays to probe. -/
def new (source : IpAddr) (protocol : MembershipProtocol) (ecn : Bool)
    (config : GatewayDriadConfig) (desired : MembershipReport) (now rebuiltAt : Instant) :
    DriadSourceTunnel :=
  rebuildProbeQueue
    { source
      protocol
      ecn
      bind := config.bind.map SocketAddr.ip
      useAnycast := config.useAnycast
      happyEyeballsDelay := config.happyEyeballsDelay
      relayHoldDown := config.relayHoldDown
      trafficHoldDown := config.trafficHoldDown
      initialTrafficTimeout := config.initialTrafficTimeout
      maximumTrafficTimeout := config.maximumTrafficTimeout
      maxConcurrentProbes := max config.maxConcurrentProbes 1
      dnsCandidates := []
      holdDowns := ∅
      pending := []
      currentRank := none
      probes := []
      nextProbeAt := now
      retryRoundAt := none
      retryAttempt := 0
      trafficRetryAttempt := 0
      noRelayPresent := false
      active := none
      desired } rebuiltAt

/-! ### DNS refreshes -/

/-- Take over an answer of the DNS; a list that did not change leaves the queue alone. -/
def pollRefresh (tunnel : DriadSourceTunnel) (refresh : DriadPoll) (rebuiltAt : Instant) :
    Polled Bool :=
  match refresh with
  | .idle => ⟨tunnel, false, []⟩
  | .started => ⟨tunnel, true, []⟩
  | .resolved (.ok selections) =>
      let candidatesChanged : Bool := tunnel.dnsCandidates ≠ selections
      let wasWithdrawn := tunnel.noRelayPresent
      let tunnel := { tunnel with dnsCandidates := selections, noRelayPresent := false }
      if tunnel.active.isNone && (candidatesChanged || wasWithdrawn) then
        ⟨tunnel.rebuildProbeQueue rebuiltAt, true, [.rebuilt]⟩
      else ⟨tunnel, true, []⟩
  | .resolved (.error .noRelayPresent) =>
      ⟨{ tunnel with
          noRelayPresent := true
          dnsCandidates := []
          pending := []
          probes := []
          currentRank := none
          retryRoundAt := none
          active := none }, true, []⟩
  | .resolved (.error _) => ⟨tunnel, true, []⟩

/-! ### Hold-downs and timeouts -/

/-- Hold the candidate, and the relay it turned out to be. -/
def holdCandidate (tunnel : DriadSourceTunnel) (candidate : DriadCandidate) (actual : SocketAddr)
    (expires : Instant) : DriadSourceTunnel :=
  { tunnel with
    holdDowns := (tunnel.holdDowns.insert candidate.relay expires).insert actual expires }

/-- The upper end in `next_traffic_timeout`. -/
def upperTrafficTimeout (tunnel : DriadSourceTunnel) : Duration :=
  let multiplier := 2 ^ min tunnel.trafficRetryAttempt 5
  min (min (tunnel.initialTrafficTimeout * multiplier) Duration.maximum)
    tunnel.maximumTrafficTimeout

/-- The time an active relay has to deliver something. -/
def nextTrafficTimeout (tunnel : DriadSourceTunnel) (random : Option UInt64) : Duration :=
  randomizedDurationBetween tunnel.initialTrafficTimeout tunnel.upperTrafficTimeout random

/-! ### Probing -/

/-- What `launch_probe_if_due` meets: its reading of the clock and the one of a rebuild,
whether the socket opens and the discovery leaves it, and the nonces of the gateway. -/
structure LaunchInput where
  now : Instant
  rebuiltAt : Instant
  opened : Bool
  discoverySent : Bool
  discoveryNonce : Nonce
  requestNonce : Nonce

/-- The rank to probe once the last probe of the current one is gone. -/
def advanceRank (tunnel : DriadSourceTunnel) : DriadSourceTunnel :=
  match tunnel.probes, tunnel.pending with
  | [], candidate :: _ => { tunnel with currentRank := some candidate.rank }
  | _, _ => tunnel

/-- The probe of a candidate that has left the queue. -/
def openProbe (tunnel : DriadSourceTunnel) (candidate : DriadCandidate) (input : LaunchInput) :
    DriadSourceTunnel :=
  let tunnel := { tunnel with nextProbeAt := input.now + tunnel.happyEyeballsDelay }
  if input.opened && input.discoverySent then
    let config :=
      (GatewayConfig.new candidate.relay tunnel.protocol input.discoveryNonce
        input.requestNonce).withEcn tunnel.ecn
    { tunnel with
      probes := tunnel.probes ++
        [{ candidate
           gateway := .new config input.discoveryNonce input.requestNonce
           deadline := input.now + gatewayQueryTimeout }] }
  else tunnel

/-- `launch_probe_if_due` after the wait for the next round. -/
def launchNext (tunnel : DriadSourceTunnel) (input : LaunchInput) : DriadSourceTunnel × Bool :=
  if input.now < tunnel.nextProbeAt then (tunnel, false)
  else if tunnel.maxConcurrentProbes ≤ tunnel.probes.length then (tunnel, false)
  else
    let tunnel := tunnel.advanceRank
    match tunnel.pending with
    | [] => (tunnel, false)
    | candidate :: pending =>
        if some candidate.rank ≠ tunnel.currentRank then (tunnel, false)
        else ({ tunnel with pending }.openProbe candidate input, true)

/-- Start at most one probe, after a rebuild if the wait for the next round is over. -/
def launchProbeIfDue (tunnel : DriadSourceTunnel) (input : LaunchInput) : Polled Bool :=
  match tunnel.retryRoundAt with
  | none =>
      let launched := tunnel.launchNext input
      ⟨launched.1, launched.2, []⟩
  | some retryAt =>
      if input.now < retryAt then ⟨tunnel, false, []⟩
      else
        let launched := (tunnel.rebuildProbeQueue input.rebuiltAt).launchNext input
        ⟨launched.1, launched.2, [.rebuilt]⟩

/-- What the poll of one probe meets: its socket, the clock of a hold-down, and the
activation. -/
structure ProbeInput where
  received : List Received
  heldAt : Instant
  activation : Answering

/-- What one turn of the loop of `poll_probes` does with its probe. -/
inductive ProbeTurn where
  | stays (progress : Bool)
  | removed
  | activated

/-- One turn of the loop of `poll_probes`. -/
def pollProbe (tunnel : DriadSourceTunnel) (now : Instant) (index : ℕ) (probe : DriadProbe)
    (input : ProbeInput) : Polled (Outcome TunnelIoError ProbeTurn) :=
  let polled := probe.poll input.received
  let probes := tunnel.probes.set index polled.1
  let kept := { tunnel with probes }
  let without := { tunnel with probes := swapRemove probes index }
  match polled.2 with
  | .err _ => ⟨without, .ok .removed, []⟩
  | .panic => ⟨kept, .panic, []⟩
  | .ok (.pending progress) =>
      if probe.deadline ≤ now then ⟨without, .ok .removed, []⟩
      else ⟨kept, .ok (.stays progress), []⟩
  | .ok .failed => ⟨without, .ok .removed, []⟩
  | .ok (.loaded relay) =>
      ⟨without.holdCandidate probe.candidate relay (input.heldAt + tunnel.relayHoldDown),
        .ok .removed, [.loaded probe.candidate.relay relay input.heldAt]⟩
  | .ok (.winner queryInterval _) =>
      let active : ActiveDriadTunnel :=
        { candidate := probe.candidate
          gateway := polled.1.gateway
          effectiveRefreshInterval := queryInterval
          queryCycleStarted := none
          lastMembershipRefresh := now
          trafficDeadline := none }
      let sent := active.sendDesired tunnel.desired input.activation
        (tunnel.nextTrafficTimeout input.activation.random)
      match sent.2 with
      | .ok didSend =>
          ⟨{ without with active := some sent.1, probes := [], pending := [], retryAttempt := 0 },
            .ok .activated, .activated queryInterval :: input.activation.sentEvents didSend⟩
      | .err _ => ⟨without, .ok .removed, []⟩
      | .panic => ⟨without, .panic, []⟩

/-- The loop of `poll_probes`.  A turn takes its probe out or steps over it, so there are as
many turns as probes. -/
def pollProbesLoop (now : Instant) (inputs : SocketAddr → ProbeInput) :
    ℕ → ℕ → Bool → DriadSourceTunnel → Polled (Outcome TunnelIoError Bool)
  | 0, _, madeProgress, tunnel => ⟨tunnel, .ok madeProgress, []⟩
  | turns + 1, index, madeProgress, tunnel =>
      match tunnel.probes[index]? with
      | none => ⟨tunnel, .ok madeProgress, []⟩
      | some probe =>
          let turn := tunnel.pollProbe now index probe (inputs probe.candidate.relay)
          match turn.result with
          | .ok (.stays progress) =>
              (pollProbesLoop now inputs turns (index + 1) (madeProgress || progress)
                turn.tunnel).prepend turn.events
          | .ok .removed =>
              (pollProbesLoop now inputs turns index true turn.tunnel).prepend turn.events
          | .ok .activated => ⟨turn.tunnel, .ok true, turn.events⟩
          | .err error => ⟨turn.tunnel, .err error, turn.events⟩
          | .panic => ⟨turn.tunnel, .panic, turn.events⟩

/-- Every probe once, until one of them wins. -/
def pollProbes (tunnel : DriadSourceTunnel) (now : Instant) (inputs : SocketAddr → ProbeInput) :
    Polled (Outcome TunnelIoError Bool) :=
  pollProbesLoop now inputs tunnel.probes.length 0 false tunnel

/-- With nothing left to probe, wait before the queue is rebuilt. -/
def scheduleNextRoundIfExhausted (tunnel : DriadSourceTunnel) (now : Instant)
    (random : Option UInt64) : DriadSourceTunnel :=
  if tunnel.noRelayPresent || tunnel.active.isSome || !tunnel.probes.isEmpty ||
      !tunnel.pending.isEmpty then tunnel
  else if tunnel.retryRoundAt.isNone then
    { tunnel with
      retryAttempt := min (tunnel.retryAttempt + 1) u32Max
      retryRoundAt := some (now + randomizedRetryDelay (upperDelay tunnel.retryAttempt) random) }
  else tunnel

/-! ### The active tunnel -/

/-- What a tunnel that fails meets: the clocks of the hold-down and of the rebuild. -/
structure FailInput where
  heldAt : Instant
  rebuiltAt : Instant

/-- Give up an active relay, and hold it unless it only stopped answering. -/
def failActive (tunnel : DriadSourceTunnel) (active : ActiveDriadTunnel)
    (failure : DriadActiveFailure) (input : FailInput) : DriadSourceTunnel :=
  let tunnel :=
    match failure with
    | .loaded =>
        tunnel.holdCandidate active.candidate active.actual (input.heldAt + tunnel.relayHoldDown)
    | .noTraffic =>
        { tunnel.holdCandidate active.candidate active.actual
            (input.heldAt + tunnel.trafficHoldDown) with
          trafficRetryAttempt := min (tunnel.trafficRetryAttempt + 1) u32Max }
    | .queryTimeout => tunnel
  tunnel.rebuildProbeQueue input.rebuiltAt

/-- What `poll_active` meets: its two readings of the clock, the nonce of a new cycle and
whether its Request leaves, and the socket. -/
structure ActiveInput where
  now : Instant
  later : Instant
  nonce : Nonce
  requestSent : Bool
  received : List Received

/-- The tunnel, its active part, the outcome of `poll_active`, and the events on the way. -/
structure PolledActive where
  tunnel : DriadSourceTunnel
  active : ActiveDriadTunnel
  outcome : Outcome TunnelIoError DriadActivePoll
  events : List SourceEvent

/-- The rest of a poll, after its first events. -/
abbrev PolledActive.prepend (events : List SourceEvent) (rest : PolledActive) : PolledActive :=
  { rest with events := events ++ rest.events }

/-- A poll that ends with a failure of the active tunnel. -/
def activeFailure (tunnel : DriadSourceTunnel) (active : ActiveDriadTunnel)
    (failure : DriadActiveFailure) : PolledActive :=
  ⟨tunnel, active, .ok ⟨true, some failure⟩, []⟩

/-- The loop of `poll_active`, and what follows it. -/
def pollActiveLoop (now later : Instant) :
    ℕ → DriadSourceTunnel → ActiveDriadTunnel → Bool → List Received → PolledActive
  | 0, tunnel, active, madeProgress, _ =>
      ⟨tunnel, active, .ok (active.checkDeadlines now later madeProgress), []⟩
  | _ + 1, tunnel, active, madeProgress, [] =>
      ⟨tunnel, active, .ok (active.checkDeadlines now later madeProgress), []⟩
  | _ + 1, tunnel, active, _, .failed :: _ => activeFailure tunnel active .queryTimeout
  | budget + 1, tunnel, active, _, .datagram peer bytes outerEcn answering :: received =>
      let handled := active.gateway.handleDatagramWithEcn peer bytes outerEcn
      let active := { active with gateway := handled.1 }
      match handled.2 with
      | .ok (.send _ _) =>
          if answering.sent then pollActiveLoop now later budget tunnel active true received
          else activeFailure tunnel active .queryTimeout
      | .ok (.membershipQuery _ limit _ _ queryInterval _) =>
          if limit then activeFailure tunnel active .loaded
          else
            let sent :=
              { active with
                effectiveRefreshInterval := queryInterval
                queryCycleStarted := none }.sendDesired tunnel.desired answering
                (tunnel.nextTrafficTimeout answering.random)
            match sent.2 with
            | .ok didSend =>
                (pollActiveLoop now later budget tunnel sent.1 true received).prepend
                  (.queried queryInterval :: answering.sentEvents didSend)
            | .err _ => (activeFailure tunnel sent.1 .queryTimeout).prepend [.queried queryInterval]
            | .panic => ⟨tunnel, sent.1, .panic, [.queried queryInterval]⟩
      | .ok (.multicastData _ _) =>
          (pollActiveLoop now later budget { tunnel with trafficRetryAttempt := 0 }
            { active with trafficDeadline := none } true received).prepend [.data]
      | .ok (.droppedEcn _ _) | .ok .ignored | .err _ =>
          pollActiveLoop now later budget tunnel active true received
      | .panic => ⟨tunnel, active, .panic, []⟩

/-- A new cycle if it is due, then what the socket has received. -/
def pollActive (tunnel : DriadSourceTunnel) (active : ActiveDriadTunnel) (input : ActiveInput)
    (configuredRefreshInterval : Duration) : PolledActive :=
  let begun := active.beginRefresh input.now input.nonce input.requestSent
    configuredRefreshInterval
  match begun.2 with
  | .ok madeProgress =>
      pollActiveLoop input.now input.later maxControlDrain tunnel begun.1 madeProgress
        input.received
  | .err _ => activeFailure tunnel begun.1 .queryTimeout
  | .panic => ⟨tunnel, begun.1, .panic, []⟩

/-! ### Calls -/

/-- What `poll` meets. -/
structure PollInput where
  configuredRefreshInterval : Duration
  refresh : DriadPoll
  refreshedAt : Instant
  active : ActiveInput
  failed : FailInput
  now : Instant
  probes : SocketAddr → ProbeInput
  launch : LaunchInput
  scheduledAt : Instant
  random : Option UInt64

/-- `poll` while no relay is active: the probes that are under way, then the next one. -/
def pollProbing (tunnel : DriadSourceTunnel) (input : PollInput) :
    Polled (Outcome TunnelIoError Bool) :=
  let polled := tunnel.pollProbes input.now input.probes
  match polled.result with
  | .ok madeProgress =>
      let launched := polled.tunnel.launchProbeIfDue input.launch
      ⟨launched.tunnel.scheduleNextRoundIfExhausted input.scheduledAt input.random,
        .ok (madeProgress || launched.result), polled.events ++ launched.events⟩
  | .err error => ⟨polled.tunnel, .err error, polled.events⟩
  | .panic => ⟨polled.tunnel, .panic, polled.events⟩

/-- `poll` with an active relay; the active part is taken out for the time of the poll. -/
def pollEstablished (tunnel : DriadSourceTunnel) (active : ActiveDriadTunnel)
    (input : PollInput) : Polled (Outcome TunnelIoError Bool) :=
  let polled := { tunnel with active := none }.pollActive active input.active
    input.configuredRefreshInterval
  match polled.outcome with
  | .ok ⟨madeProgress, none⟩ =>
      ⟨{ polled.tunnel with active := some polled.active }, .ok madeProgress, polled.events⟩
  | .ok ⟨madeProgress, some failure⟩ =>
      ⟨polled.tunnel.failActive polled.active failure input.failed, .ok madeProgress,
        polled.events ++ [.rebuilt]⟩
  | .err error => ⟨polled.tunnel, .err error, polled.events⟩
  | .panic => ⟨polled.tunnel, .panic, polled.events⟩

/-- The answer of the DNS, then either the active relay or the probes. -/
def poll (tunnel : DriadSourceTunnel) (input : PollInput) :
    Polled (Outcome TunnelIoError Bool) :=
  let refreshed := tunnel.pollRefresh input.refresh input.refreshedAt
  let polled :=
    match refreshed.tunnel.active with
    | some active => refreshed.tunnel.pollEstablished active input
    | none => refreshed.tunnel.pollProbing input
  ⟨polled.tunnel, (refreshed.result || ·) <$> polled.result, refreshed.events ++ polled.events⟩

/-- The active relay is told at once; a probe that wins later reports what is wanted then. -/
def setDesired (tunnel : DriadSourceTunnel) (desired : MembershipReport) (answering : Answering)
    (failed : FailInput) : Polled (Outcome TunnelIoError Unit) :=
  if tunnel.desired = desired then ⟨tunnel, .ok (), []⟩
  else
    let tunnel := { tunnel with desired }
    match tunnel.active with
    | none => ⟨tunnel, .ok (), []⟩
    | some active =>
        let sent := active.sendDesired desired answering
          (tunnel.nextTrafficTimeout answering.random)
        let tunnel := { tunnel with active := none }
        match sent.2 with
        | .ok didSend =>
            ⟨{ tunnel with active := some sent.1 }, .ok (),
              .changed :: answering.sentEvents didSend⟩
        | .err _ => ⟨tunnel.failActive sent.1 .queryTimeout failed, .ok (), [.changed, .rebuilt]⟩
        | .panic => ⟨tunnel, .panic, [.changed]⟩

/-- The calls of a tunnel's life, each with what it meets. -/
inductive Call where
  | poll (input : PollInput)
  | setDesired (desired : MembershipReport) (answering : Answering) (failed : FailInput)

/-- The tunnel after one call. -/
def step (tunnel : DriadSourceTunnel) : Call → DriadSourceTunnel
  | .poll input => (tunnel.poll input).1
  | .setDesired desired answering failed => (tunnel.setDesired desired answering failed).1

/-- The tunnel after a sequence of calls. -/
def after (start : DriadSourceTunnel) (calls : List Call) : DriadSourceTunnel :=
  calls.foldl step start

/-- The events of one call. -/
def callEvents (tunnel : DriadSourceTunnel) : Call → List SourceEvent
  | .poll input => (tunnel.poll input).events
  | .setDesired desired answering failed => (tunnel.setDesired desired answering failed).events

/-- The events of a run. -/
def trace (start : DriadSourceTunnel) : List Call → List SourceEvent
  | [] => []
  | call :: calls => start.callEvents call ++ (start.step call).trace calls

end DriadSourceTunnel

end Amt

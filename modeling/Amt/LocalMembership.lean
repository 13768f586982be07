import Amt.Query
import Amt.Membership.Acceptance
import Amt.State.Origin

/-!
# Memberships of the local network

A transparent gateway listens to the membership reports of its own network and asks the
relay for what the hosts there want.  `LocalMembershipManager` keeps the reports of each
host as one endpoint of a `RelayState`, under the limits of a relay, forgets hosts that
have fallen silent, and exports the aggregate: the groups of its protocol that may leave
the network.

* **Receiving** (`tryRecv`) parses a captured datagram, skips what is not of the manager's
  protocol, and applies the report; a report beyond the limits is refused and the state is
  as before.
* **Runs** (`LocalMembershipManager.after`) are any sequence of receptions, with any bytes
  and socket errors, of prunes at any times, and of marking the export as advertised.  What
  a call does is said once (`Move`), and every invariant is read off it (`after_invariant`).
* **What holds in every run** (`Kept`): the stored filters list valid sources of their
  group's family, and there are at most as many groups as a relay may have subscriptions.
-/

namespace Amt

open Std (ExtTreeMap)

/-! ## Configuration, events, errors -/

/-- No query interval turns the expiry of reporters off. -/
structure LocalMembershipConfig where
  protocol : MembershipProtocol
  queryInterval : Option Duration
  reporterTimeout : Duration
deriving DecidableEq, Repr

def LocalMembershipConfig.new (protocol : MembershipProtocol) : LocalMembershipConfig where
  protocol := protocol
  queryInterval := some (Duration.fromSecs 30)
  reporterTimeout := Duration.fromSecs 260

/-- What the local hosts want, and what of it the relay has been told. -/
structure LocalMembershipManager where
  config : LocalMembershipConfig
  state : RelayState
  advertised : BTreeMap IpAddr GroupInterest
  reporterLastSeen : BTreeMap IpAddr Instant
  limits : RelayLimits

/-- What a report of a local host has changed. -/
structure LocalMembershipEvent where
  reporter : IpAddr
  recordsReceived : ℕ
  activeSubscriptions : List UpstreamSubscription

/-- `E` is the error type of the capture library. -/
inductive LocalMembershipError (E : Type*) where
  | mcrx (error : E)
  | parse (error : MembershipParseError)
  | stateLimit (error : StateLimitError)

/-- What `try_recv_any` of the capture context returns next. -/
inductive LocalCapture (E : Type*) where
  | failed (error : E)
  | datagram (bytes : Bytes)

/-- How many captures one call may step over. -/
def maxIrrelevantPacketSkip : ℕ := 16

/-! ## Records and groups -/

/-- Whether a record states a filter or announces a change to it. -/
inductive ReportRecordMode where
  | state
  | change
deriving DecidableEq, Repr

/-- The record that sets a filter. -/
def recordForInterest (group : IpAddr) (interest : GroupInterest) (mode : ReportRecordMode) :
    MembershipRecord :=
  match interest.mode with
  | .Include =>
      { kind :=
          match mode with
          | .state => .modeIsInclude
          | .change => .changeToInclude
        group
        sources := interest.sources.toList }
  | .Exclude =>
      { kind :=
          match mode with
          | .state => .modeIsExclude
          | .change => .changeToExclude
        group
        sources := interest.sources.toList }

@[simp] theorem recordForInterest_group (group : IpAddr) (interest : GroupInterest)
    (mode : ReportRecordMode) : (recordForInterest group interest mode).group = group := by
  unfold recordForInterest
  split <;> rfl

/-- The record of a filter sets the filter, whatever was held. -/
theorem effect_recordForInterest (group : IpAddr) {interest : GroupInterest}
    (h : interest.Canonical) (mode : ReportRecordMode) (held : Option GroupInterest) :
    (recordForInterest group interest mode).effect held = some interest := by
  obtain ⟨filter, sources⟩ := interest
  have hsources : Std.ExtTreeSet.ofList sources.toList compare = sources :=
    Std.ExtTreeSet.ext_mem fun source => by simp
  cases filter with
  | Include =>
      obtain ⟨source, hsource⟩ := h rfl
      have hne : sources.toList.isEmpty = false := by
        rw [List.isEmpty_eq_false_iff]
        exact List.ne_nil_of_mem (Std.ExtTreeSet.mem_toList.mpr hsource)
      cases mode <;>
        simp [recordForInterest, MembershipRecord.effect, GroupInterest.ofInclude, hne, hsources]
  | Exclude =>
      cases mode <;>
        simp [recordForInterest, MembershipRecord.effect, GroupInterest.ofExclude, hsources]

def groupMatchesProtocol (protocol : MembershipProtocol) (group : IpAddr) : Bool :=
  match protocol, group with
  | .igmpv3, .v4 _ => true
  | .mldv2, .v6 _ => true
  | _, _ => false

/-- Not the groups of SSDP and SLP. -/
def isAmtExportableIpv4Group (group : Ipv4Addr) : Bool :=
  !(group.octets.toList = [239, 255, 255, 250] || group.octets.toList = [239, 255, 255, 253])

def isAmtExportableIpv6Group (group : Ipv6Addr) : Bool := group.isMulticast

def isAmtExportableGroup (group : IpAddr) : Bool :=
  if ¬ isAmtForwardableGroup group then false
  else
    match group with
    | .v4 group => isAmtExportableIpv4Group group
    | .v6 group => isAmtExportableIpv6Group group

/-- The interests that may leave the local network. -/
def filterExportableInterests (protocol : MembershipProtocol)
    (interests : BTreeMap IpAddr GroupInterest) : BTreeMap IpAddr GroupInterest :=
  interests.filter fun group _ => groupMatchesProtocol protocol group && isAmtExportableGroup group

/-- The reporter: the source address of the captured packet. -/
def parseDatagramSource (datagram : Bytes) : Option IpAddr :=
  match datagram.head? with
  | none => none
  | some first =>
      match first >>> 4 with
      | 4 =>
          match (readIpv4 datagram 12 : Outcome Unit Ipv4Addr) with
          | .ok source => if 20 ≤ datagram.length then some (.v4 source) else none
          | _ => none
      | 6 =>
          match (readIpv6 datagram 8 : Outcome Unit Ipv6Addr) with
          | .ok source => if 40 ≤ datagram.length then some (.v6 source) else none
          | _ => none
      | _ => none

theorem parseDatagramSource_v6 {datagram : Bytes} {first : UInt8} {source : Ipv6Addr}
    (hfirst : datagram.head? = some first) (hversion : first >>> 4 = 6)
    (hread : (readIpv6 datagram 8 : Outcome Unit Ipv6Addr) = .ok source)
    (hlen : 40 ≤ datagram.length) : parseDatagramSource datagram = some (.v6 source) := by
  simp [parseDatagramSource, hfirst, hversion, hread, hlen]

namespace LocalMembershipManager

/-! ## The manager -/

def new (config : LocalMembershipConfig) : LocalMembershipManager where
  config := config
  state := .default
  advertised := ∅
  reporterLastSeen := ∅
  limits := .default

/-- The merged filters of all reporters. -/
def currentInterests (manager : LocalMembershipManager) : BTreeMap IpAddr GroupInterest :=
  manager.state.aggregateInterests

def currentExportableInterests (manager : LocalMembershipManager) :
    BTreeMap IpAddr GroupInterest :=
  filterExportableInterests manager.config.protocol manager.currentInterests

/-- The state of every group that may be exported; none is no report. -/
def currentReport (manager : LocalMembershipManager) : Option MembershipReport :=
  let records :=
    (manager.currentExportableInterests.toList.filter fun entry =>
      groupMatchesProtocol manager.config.protocol entry.1).map fun entry =>
        recordForInterest entry.1 entry.2 .state
  if records.isEmpty then none else some { protocol := manager.config.protocol, records }

/-- Remember what was reported, for the next difference. -/
def markAdvertised (manager : LocalMembershipManager) : LocalMembershipManager :=
  { manager with advertised := manager.currentExportableInterests }

section Receive

variable {E : Type*}

/-- One iteration of `try_recv` on a captured datagram: `none` where the loop goes on. -/
def receive (manager : LocalMembershipManager) (now : Instant) (datagram : Bytes) :
    LocalMembershipManager × Option (Outcome (LocalMembershipError E) LocalMembershipEvent) :=
  match parseMembershipReport datagram with
  | .err error => (manager, some (.err (.parse error)))
  | .panic => (manager, some .panic)
  | .ok report =>
      if report.protocol ≠ manager.config.protocol then (manager, none)
      else
        match parseDatagramSource datagram with
        | none => (manager, none)
        | some reporter =>
            let endpoint := SocketAddr.new reporter 0
            match manager.state.applyReportLimited endpoint report manager.limits with
            | (state, .err error) => ({ manager with state }, some (.err (.stateLimit error)))
            | (state, .panic) => ({ manager with state }, some .panic)
            | (state, .ok _) =>
                let reporterLastSeen :=
                  if state.containsEndpoint endpoint then
                    manager.reporterLastSeen.insert reporter now
                  else manager.reporterLastSeen.erase reporter
                ({ manager with state, reporterLastSeen },
                  some (.ok
                    { reporter
                      recordsReceived := report.records.length
                      activeSubscriptions := state.upstreamSubscriptions }))

/-- The loop of `try_recv` over what the socket has captured; what is left of it is
returned. -/
def tryRecvLoop (now : Instant) :
    ℕ → LocalMembershipManager → List (LocalCapture E) →
      LocalMembershipManager × List (LocalCapture E) ×
        Outcome (LocalMembershipError E) (Option LocalMembershipEvent)
  | 0, manager, captured => (manager, captured, .ok none)
  | _ + 1, manager, [] => (manager, [], .ok none)
  | _ + 1, manager, .failed error :: captured => (manager, captured, .err (.mcrx error))
  | skips + 1, manager, .datagram datagram :: captured =>
      match manager.receive now datagram with
      | (manager, none) => tryRecvLoop now skips manager captured
      | (manager, some outcome) => (manager, captured, some <$> outcome)

/-- The next report of a local host, if one is found within the bound on skips. -/
def tryRecv (manager : LocalMembershipManager) (now : Instant) (captured : List (LocalCapture E)) :
    LocalMembershipManager × List (LocalCapture E) ×
      Outcome (LocalMembershipError E) (Option LocalMembershipEvent) :=
  tryRecvLoop now maxIrrelevantPacketSkip manager captured

end Receive

/-- The reporters that were last seen at least a timeout ago. -/
def staleReporters (manager : LocalMembershipManager) (now : Instant) : List IpAddr :=
  staleKeys manager.reporterLastSeen manager.config.reporterTimeout now

/-- One iteration of the pruning loop. -/
def forgetReporter (manager : LocalMembershipManager) (reporter : IpAddr) :
    LocalMembershipManager :=
  { manager with
    reporterLastSeen := manager.reporterLastSeen.erase reporter
    state := (manager.state.removeEndpoint (.new reporter 0)).1 }

/-- Forget the reporters that are silent; without queries nobody has to speak. -/
def pruneStaleReportersAt (manager : LocalMembershipManager) (now : Instant) :
    LocalMembershipManager × ℕ :=
  if manager.config.queryInterval.isNone then (manager, 0)
  else
    let stale := manager.staleReporters now
    (stale.foldl forgetReporter manager, stale.length)

/-! ## Runs -/

/-- The calls that change a manager. -/
inductive Op (E : Type*) where
  | tryRecv (now : Instant) (captured : List (LocalCapture E))
  | prune (now : Instant)
  | markAdvertised

section Run

variable {E : Type*}

def step (manager : LocalMembershipManager) : Op E → LocalMembershipManager
  | .tryRecv now captured => (manager.tryRecv now captured).1
  | .prune now => (manager.pruneStaleReportersAt now).1
  | .markAdvertised => manager.markAdvertised

/-- The manager after a sequence of calls. -/
def after (config : LocalMembershipConfig) (ops : List (Op E)) : LocalMembershipManager :=
  ops.foldl step (.new config)

/-- A source that may be listed in a group: a unicast address of its family. -/
def Listable (group source : IpAddr) : Prop :=
  group.sameFamily source = true ∧ isValidSource source = true

/-- **What every run keeps.** -/
structure Kept (config : LocalMembershipConfig) (manager : LocalMembershipManager) : Prop where
  config_eq : manager.config = config
  limits_eq : manager.limits = .default
  wellFormed : manager.state.WellFormed
  sourced : manager.state.Sourced Listable
  groups : manager.state.aggregate.size ≤ RelayLimits.default.maxUpstreamSubscriptions

variable {config : LocalMembershipConfig} {manager : LocalMembershipManager}

theorem kept_new (config : LocalMembershipConfig) : (new config).Kept config where
  config_eq := rfl
  limits_eq := rfl
  wellFormed := RelayState.wellFormed_default
  sourced := RelayState.sourced_default
  groups := Nat.zero_le _

/-- **What a call does to a manager**, in parts: a report that the parser accepted and that is
of the manager's protocol is applied, a reporter is forgotten, or the export is marked. -/
inductive Move (manager : LocalMembershipManager) : LocalMembershipManager → Prop
  | reported {report : MembershipReport} (endpoint : SocketAddr) (seen : BTreeMap IpAddr Instant)
      (hprotocol : report.protocol = manager.config.protocol)
      (haccepted : report.Accepted .default) :
      Move manager
        { manager with
          state := (manager.state.applyReportLimited endpoint report manager.limits).1
          reporterLastSeen := seen }
  | forgotten (reporter : IpAddr) : Move manager (manager.forgetReporter reporter)
  | advertised : Move manager manager.markAdvertised

/-- A number of such parts. -/
def Moves : LocalMembershipManager → LocalMembershipManager → Prop := Relation.ReflTransGen Move

/-- A datagram moves the manager in one of the ways above, or not at all. -/
theorem moves_receive (manager : LocalMembershipManager) (now : Instant) (datagram : Bytes) :
    manager.Moves (manager.receive (E := E) now datagram).1 := by
  unfold LocalMembershipManager.receive
  cases hparse : parseMembershipReport datagram with
  | err error => exact .refl
  | panic => exact .refl
  | ok report =>
      dsimp only
      split
      · exact .refl
      · rename_i hprotocol
        cases parseDatagramSource datagram with
        | none => exact .refl
        | some reporter =>
            have hmove : ∀ seen, manager.Move
                { manager with
                  state := (manager.state.applyReportLimited (.new reporter 0) report
                    manager.limits).1
                  reporterLastSeen := seen } :=
              fun seen => .reported (.new reporter 0) seen (not_not.mp hprotocol)
                (parse_accepted datagram .default report hparse)
            dsimp only
            generalize manager.state.applyReportLimited (.new reporter 0) report
              manager.limits = result at hmove ⊢
            obtain ⟨state, outcome⟩ := result
            cases outcome with
            | ok applied => exact .single (hmove _)
            | err error => exact .single (hmove manager.reporterLastSeen)
            | panic => exact .single (hmove manager.reporterLastSeen)

theorem moves_tryRecvLoop (now : Instant) (captured : List (LocalCapture E)) :
    ∀ (skips : ℕ) (manager : LocalMembershipManager),
      manager.Moves (LocalMembershipManager.tryRecvLoop now skips manager captured).1 := by
  induction captured with
  | nil =>
      intro skips manager
      cases skips <;> exact .refl
  | cons head captured ih =>
      intro skips manager
      cases skips with
      | zero => exact .refl
      | succ skips =>
          cases head with
          | failed error => exact .refl
          | datagram datagram =>
              have hreceive := manager.moves_receive (E := E) now datagram
              unfold LocalMembershipManager.tryRecvLoop
              generalize manager.receive (E := E) now datagram = result at hreceive ⊢
              obtain ⟨manager', _ | outcome⟩ := result
              · exact hreceive.trans (ih skips manager')
              · exact hreceive

theorem moves_step (manager : LocalMembershipManager) (op : Op E) :
    manager.Moves (manager.step op) := by
  cases op with
  | tryRecv now captured => exact moves_tryRecvLoop now captured _ manager
  | prune now =>
      show manager.Moves (manager.pruneStaleReportersAt now).1
      unfold pruneStaleReportersAt
      split
      · exact .refl
      · exact List.foldlRecOn (motive := manager.Moves) _ _ .refl
          fun _ hmoves reporter _ => hmoves.tail (.forgotten reporter)
  | markAdvertised => exact .single .advertised

theorem moves_after (config : LocalMembershipConfig) (ops : List (Op E)) :
    (new config).Moves (after config ops) :=
  List.foldlRecOn (motive := (new config).Moves) ops step .refl
    fun manager hmoves op _ => hmoves.trans (manager.moves_step op)

/-- **The invariant rule of a manager**: what a new one has and every part of a call keeps,
every run keeps. -/
theorem after_invariant {I : LocalMembershipManager → Prop} (hnew : I (new config))
    (hmove : ∀ m m', I m → Move m m' → I m') (ops : List (Op E)) : I (after config ops) := by
  have hinvariant : ∀ m, (new config).Moves m → I m := by
    intro m hmoves
    induction hmoves with
    | refl => exact hnew
    | tail _ hlast ih => exact hmove _ _ ih hlast
  exact hinvariant _ (moves_after config ops)

/-- Each part of a call keeps it. -/
theorem Kept.move {manager' : LocalMembershipManager} (h : manager.Kept config)
    (hmove : manager.Move manager') : manager'.Kept config := by
  cases hmove with
  | @reported report endpoint seen hprotocol haccepted =>
      have hlimits := h.limits_eq
      refine ⟨h.config_eq, hlimits, ?_, ?_, ?_⟩
      · exact h.wellFormed.applyReportLimited endpoint report _
      · show RelayState.Sourced Listable (manager.state.applyReportLimited endpoint report _).1
        rcases RelayState.applyReportLimited_cases h.wellFormed.indexed endpoint report
          manager.limits with ⟨-, -, heq⟩ | ⟨error, heq⟩
        · rw [heq]
          exact h.sourced.applyReport haccepted.sources endpoint
        · rw [heq]
          exact h.sourced
      · rw [hlimits]
        exact h.wellFormed.size_aggregate_limitedStep h.groups (.report endpoint report)
  | forgotten reporter =>
      exact ⟨h.config_eq, h.limits_eq, h.wellFormed.removeEndpoint _,
        h.sourced.of_shrinks (RelayState.shrinks_removeEndpoint _ _),
        h.wellFormed.size_aggregate_limitedStep h.groups (.remove (.new reporter 0))⟩
  | advertised => exact ⟨h.config_eq, h.limits_eq, h.wellFormed, h.sourced, h.groups⟩

theorem kept_after (config : LocalMembershipConfig) (ops : List (Op E)) :
    (after config ops).Kept config :=
  after_invariant (kept_new config) (fun _ _ h hmove => h.move hmove) ops

end Run

/-! ## The export -/

section Export

variable {config : LocalMembershipConfig} {manager : LocalMembershipManager}

theorem groupMatchesProtocol_eq (protocol : MembershipProtocol) (group : IpAddr) :
    groupMatchesProtocol protocol group = protocolFamily protocol group := by
  cases protocol <;> cases group <;> rfl

theorem isAmtForwardableGroup_of_exportable {group : IpAddr}
    (h : isAmtExportableGroup group = true) : isAmtForwardableGroup group = true := by
  unfold isAmtExportableGroup at h
  split at h
  · cases h
  · rename_i hforwardable
    simpa using hforwardable

theorem getElem?_currentExportableInterests (manager : LocalMembershipManager) (g : IpAddr)
    (interest : GroupInterest) :
    manager.currentExportableInterests[g]? = some interest ↔
      manager.state.aggregate[g]? = some interest ∧
        protocolFamily manager.config.protocol g = true ∧ isAmtExportableGroup g = true := by
  rw [currentExportableInterests, filterExportableInterests, BTreeMap.getElem?_filter_eq,
    Option.filter_eq_some_iff, Bool.and_eq_true, groupMatchesProtocol_eq]
  rfl

theorem currentExportableInterests_eq {state : RelayState} (hconfig : manager.config = config)
    (hstate : manager.state = state) :
    manager.currentExportableInterests
      = filterExportableInterests config.protocol state.aggregate := by
  subst hconfig hstate
  rfl

/-- The export names each of its groups once. -/
theorem currentReport_eq (manager : LocalMembershipManager) :
    manager.currentReport =
      if manager.currentExportableInterests.toList.isEmpty then none
      else some
        { protocol := manager.config.protocol
          records := manager.currentExportableInterests.toList.map fun entry =>
            recordForInterest entry.1 entry.2 .state } := by
  have hfilter : (manager.currentExportableInterests.toList.filter fun entry =>
      groupMatchesProtocol manager.config.protocol entry.1)
        = manager.currentExportableInterests.toList := by
    refine List.filter_eq_self.mpr fun entry hentry => ?_
    obtain ⟨-, hfamily, -⟩ := (manager.getElem?_currentExportableInterests entry.1 entry.2).mp
      (BTreeMap.mem_toList_iff.mp hentry)
    rw [groupMatchesProtocol_eq, hfamily]
  rw [currentReport, hfilter]
  simp only [List.isEmpty_map]

/-- At most as many groups are exported as a relay may have subscriptions. -/
theorem Kept.size_currentExportableInterests (h : manager.Kept config) :
    manager.currentExportableInterests.size
      ≤ RelayLimits.default.maxUpstreamSubscriptions := by
  refine le_trans (BTreeMap.size_le_of_getElem? fun g interest hinterest => ?_) h.groups
  exact ⟨interest, ((manager.getElem?_currentExportableInterests g interest).mp hinterest).1⟩

end Export

end LocalMembershipManager

end Amt

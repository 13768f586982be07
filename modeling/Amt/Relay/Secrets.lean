import Amt.Lib.Run
import Amt.Relay.Authority

/-!
# Secret rotation along a run

The relay answers a Request with a MAC under its current secret and may rotate the
secret at any later call.  Two clocks guard a rotation: it has to be due, and the
previous secret has to be out of its grace time of two query intervals.  The same grace
time limits how long the previous secret is accepted.

* **An issued MAC lives long enough** (`Remembers`): the secret it was made with stays
  the current one, or becomes the previous one no earlier than the MAC was issued; it is
  dropped only by a second rotation, and that one waits until the grace time after the
  first is over.
* **A replaced secret does not live too long** (`ReplacedIn`): whatever is stored as the
  previous secret was replaced by a call of the run, at the time stored with it.
-/

namespace Amt

namespace Relay

variable (hmac : RelaySecret → Bytes → Octets 32)

/-! ## Rotation -/

/-- The relay after a rotation to `next`. -/
def withSecret (relay : Relay) (next : RelaySecret) (rotatedAt : Instant) : Relay :=
  { relay with
    config := { relay.config with secret := next }
    previousSecret := some { secret := relay.config.secret, rotatedAt }
    secretRotatedAt := rotatedAt }

/-- The call replaces the current secret. -/
def Rotates (relay : Relay) (env : CallEnv) : Prop :=
  ∃ next, env.generated = some next ∧
    relay.rotateSecretIfDue env = relay.withSecret next env.clock.rotation

/-- **What a rotation check can do**: nothing, or replace the secret once the previous one
is out of its grace time. -/
theorem rotateSecretIfDue_cases (relay : Relay) (env : CallEnv) :
    relay.rotateSecretIfDue env = relay ∨
      relay.Rotates env ∧ ∀ previous, relay.previousSecret = some previous →
        previous.rotatedAt + relay.previousGrace < env.clock.graceCheck := by
  unfold Rotates rotateSecretIfDue
  cases hinterval : relay.config.secretRotationInterval with
  | none => exact .inl rfl
  | some interval =>
      by_cases hdue : elapsed relay.secretRotatedAt env.clock.rotationCheck < interval
      · exact .inl (by simp only [if_pos hdue])
      · by_cases hgrace : (relay.previousSecret.any fun previous =>
            elapsed previous.rotatedAt env.clock.graceCheck ≤ relay.previousGrace) = true
        · exact .inl (by simp only [if_neg hdue, if_pos hgrace])
        · cases hgenerated : env.generated with
          | none => exact .inl (by simp only [if_neg hdue, if_neg hgrace])
          | some next =>
              refine .inr ⟨⟨next, rfl, by simp only [if_neg hdue, if_neg hgrace]; rfl⟩, ?_⟩
              intro previous hprevious
              refine Nat.lt_of_not_le fun hle => hgrace ?_
              rw [hprevious]
              exact decide_eq_true (elapsed_le_iff.mpr hle)

/-- The fields that MACs are checked with. -/
def SameSecrets (relay relay' : Relay) : Prop :=
  relay'.config = relay.config ∧ relay'.previousSecret = relay.previousSecret

theorem sameSecrets_rememberGatewayEcnCapability (relay : Relay) (now : Instant)
    (endpoint : SocketAddr) (capable : Bool) :
    relay.SameSecrets (relay.rememberGatewayEcnCapability now endpoint capable) := by
  simp only [rememberGatewayEcnCapability]
  repeat' split
  all_goals exact ⟨rfl, rfl⟩

theorem sameSecrets_prepareTeardown (relay : Relay) (now : Instant) (mac : ResponseMac)
    (requestNonce : UInt32) (gateway : GatewayEndpoint) :
    relay.SameSecrets (relay.prepareTeardown hmac now mac requestNonce gateway).1 := by
  simp only [prepareTeardown]
  repeat' split
  all_goals exact ⟨rfl, rfl⟩

/-- Processing a message leaves the secrets alone. -/
theorem sameSecrets_prepareMessage (relay : Relay) (now : Instant) (peer : SocketAddr)
    (message : Message) : relay.SameSecrets (relay.prepareMessage hmac now peer message).1 := by
  cases message with
  | request requestNonce protocol ecnCapable =>
      exact sameSecrets_rememberGatewayEcnCapability relay now peer ecnCapable
  | teardown mac nonce gateway => exact sameSecrets_prepareTeardown hmac relay now mac nonce gateway
  | relayDiscovery _ | relayAdvertisement _ _ | membershipQuery _ _ _ _ _ | membershipUpdate _ _ _
  | multicastData _ => exact ⟨rfl, rfl⟩

theorem sameSecrets_prepareDatagram (env : CallEnv) (relay : Relay) (peer : SocketAddr)
    (datagram : Bytes) :
    (relay.rotateSecretIfDue env).SameSecrets (relay.prepareDatagram hmac env peer datagram).1 := by
  unfold prepareDatagram
  cases decode datagram with
  | ok message => exact sameSecrets_prepareMessage hmac _ _ peer message
  | err error => exact ⟨rfl, rfl⟩
  | panic => exact ⟨rfl, rfl⟩

/-! ## Runs -/

/-- One `prepare_datagram` call, and the state its caller commits afterwards, if any. -/
structure Call where
  env : CallEnv
  peer : SocketAddr
  datagram : Bytes
  commit : Option RelayState

/-- The relay after the call and the commit. -/
def afterCall (relay : Relay) (call : Call) : Relay :=
  let prepared := (relay.prepareDatagram hmac call.env call.peer call.datagram).1
  match call.commit with
  | some state => prepared.commitState state
  | none => prepared

/-- Calls one after the other: the clock of a call starts where that of the last one
ended. -/
def CallStep (before : Relay × Instant) (call : Call) (after : Relay × Instant) : Prop :=
  before.2 ≤ call.env.clock.rotationCheck ∧
    after = (before.1.afterCall hmac call, call.env.clock.processing)

theorem sameSecrets_afterCall (relay : Relay) (call : Call) :
    (relay.rotateSecretIfDue call.env).SameSecrets (relay.afterCall hmac call) := by
  have hsame := sameSecrets_prepareDatagram hmac call.env relay call.peer call.datagram
  unfold afterCall
  cases call.commit with
  | none => exact hsame
  | some state => exact hsame

/-- The call answers with a Membership Query that carries the MAC and the nonce. -/
def Issues (relay : Relay) (call : Call) (mac : ResponseMac) (nonce : UInt32) : Prop :=
  ∃ limit gateway generalQuery, (relay.prepareDatagram hmac call.env call.peer call.datagram).2 =
    .ok (.send (encode (.membershipQuery mac nonce limit gateway generalQuery)), none)

/-- **An issued MAC is the one of the secret that is current after the rotation.** -/
theorem Issues.mac_eq {relay : Relay} {call : Call} {mac : ResponseMac} {nonce : UInt32}
    (h : relay.Issues hmac call mac nonce) :
    mac = responseMacWithSecret hmac (relay.rotateSecretIfDue call.env).config.secret
      call.peer.ip call.peer.port nonce := by
  obtain ⟨limit, gateway, generalQuery, h⟩ := h
  unfold prepareDatagram at h
  generalize relay.rotateSecretIfDue call.env = relay at h ⊢
  cases hdecode : decode call.datagram with
  | err error => simp [hdecode] at h
  | panic => simp [hdecode] at h
  | ok message =>
      simp only [hdecode] at h
      cases message with
      | relayDiscovery discoveryNonce =>
          obtain ⟨-, -, hpure⟩ := Outcome.bind_eq_ok_iff.mp h
          have haction := (Prod.mk.inj (Outcome.ok.inj hpure)).1
          have hsend := encode_injective (RelayAction.send.inj haction)
          cases hsend
      | request requestNonce protocol ecnCapable =>
          simp only [prepareMessage, prepareRequest] at h
          obtain ⟨query, -, hpure⟩ := Outcome.bind_eq_ok_iff.mp h
          have haction := (Prod.mk.inj (Outcome.ok.inj hpure)).1
          have hsend := encode_injective (RelayAction.send.inj haction)
          obtain ⟨hmac', rfl, -⟩ := Message.membershipQuery.inj hsend
          rw [← hmac', responseMac,
            (sameSecrets_rememberGatewayEcnCapability relay _ call.peer ecnCapable).1]
      | membershipUpdate mac' nonce' update =>
          simp only [prepareMessage, prepareUpdate] at h
          split at h
          · rcases prepareReport_cases h with
              ⟨hignored, -⟩ | ⟨report, -, ⟨-, -, haccepted⟩ | ⟨-, -, -, haccepted⟩⟩
            · cases hignored
            · cases haccepted
            · cases haccepted
          · cases h
      | teardown mac' nonce' gateway' =>
          simp only [prepareMessage, prepareTeardown] at h
          repeat' split at h
          all_goals cases h
      | relayAdvertisement _ _ => cases h
      | membershipQuery _ _ _ _ _ => cases h
      | multicastData _ => cases h

/-! ## An issued MAC lives long enough -/

/-- The relay still knows a secret it used at `since`: as the current one, as a previous
one replaced no earlier than that, or the grace time is over. -/
structure Remembers (grace : Duration) (secret : RelaySecret) (since : Instant)
    (relay : Relay) (now : Instant) : Prop where
  grace_eq : relay.previousGrace = grace
  since_le : since ≤ now
  known : relay.config.secret = secret ∨
    (∃ previous, relay.previousSecret = some previous ∧ previous.secret = secret ∧
      since ≤ previous.rotatedAt) ∨
    since + grace < now

theorem Remembers.of_sameSecrets {grace : Duration} {secret : RelaySecret} {since now : Instant}
    {relay relay' : Relay} (h : Remembers grace secret since relay now)
    (hsame : relay.SameSecrets relay') : Remembers grace secret since relay' now := by
  obtain ⟨hconfig, hprevious⟩ := hsame
  refine ⟨?_, h.since_le, ?_⟩
  · rw [← h.grace_eq, previousGrace, hconfig, previousGrace]
  · rw [hconfig, hprevious]
    exact h.known

/-- **The rotation of a later call.**  The first rotation makes the secret the previous
one; a second one waits for the grace time. -/
theorem Remembers.rotate {grace : Duration} {secret : RelaySecret} {since now : Instant}
    {relay : Relay} (h : Remembers grace secret since relay now) {env : CallEnv}
    (hnow : now ≤ env.clock.rotationCheck) :
    Remembers grace secret since (relay.rotateSecretIfDue env) env.clock.processing := by
  obtain ⟨clock, generated⟩ := env
  have hcheck : now ≤ clock.graceCheck := hnow.trans clock.rotationCheck_le
  have hrotation : now ≤ clock.rotation := hcheck.trans clock.graceCheck_le
  have hprocessing : now ≤ clock.processing := hrotation.trans clock.rotation_le
  rcases rotateSecretIfDue_cases relay ⟨clock, generated⟩ with hsame | ⟨⟨next, -, heq⟩, hover⟩
  · rw [hsame]
    refine ⟨h.grace_eq, h.since_le.trans hprocessing, ?_⟩
    rcases h.known with hcurrent | hprevious | hexpired
    · exact .inl hcurrent
    · exact .inr (.inl hprevious)
    · exact .inr (.inr (hexpired.trans_le hprocessing))
  · rw [heq]
    refine ⟨h.grace_eq, h.since_le.trans hprocessing, ?_⟩
    rcases h.known with hcurrent | ⟨previous, hprevious, -, hsince⟩ | hexpired
    · exact .inr (.inl ⟨_, rfl, hcurrent, h.since_le.trans hrotation⟩)
    · -- the second rotation: the grace time after the first one is over
      have hgrace := hover previous hprevious
      rw [h.grace_eq] at hgrace
      refine .inr (.inr ?_)
      calc since + grace ≤ previous.rotatedAt + grace := Nat.add_le_add_right hsince grace
        _ < clock.graceCheck := hgrace
        _ ≤ clock.processing := clock.graceCheck_le.trans clock.rotation_le
    · exact .inr (.inr (hexpired.trans_le hprocessing))

theorem Remembers.run {grace : Duration} {secret : RelaySecret} {since : Instant}
    {start stop : Relay × Instant} {calls : List Call}
    (h : Remembers grace secret since start.1 start.2)
    (hrun : Run (CallStep hmac) start calls stop) : Remembers grace secret since stop.1 stop.2 := by
  refine Run.invariant (I := fun s => Remembers grace secret since s.1 s.2) ?_ h hrun
  rintro before call after hbefore ⟨hnow, rfl⟩
  exact (hbefore.rotate hnow).of_sameSecrets (sameSecrets_afterCall hmac before.1 call)

/-- While it is remembered and the grace time runs, a MAC under the secret is accepted. -/
theorem Remembers.authorized {grace : Duration} {secret : RelaySecret} {since now : Instant}
    {relay : Relay} (h : Remembers grace secret since relay now) (hnow : now ≤ since + grace)
    (gatewayIp : IpAddr) (gatewayPort : UInt16) (nonce : UInt32) :
    relay.Authorized hmac now (responseMacWithSecret hmac secret gatewayIp gatewayPort nonce)
      gatewayIp gatewayPort nonce := by
  rcases h.known with hcurrent | ⟨previous, hprevious, hsecret, hsince⟩ | hexpired
  · exact .inl (by rw [hcurrent])
  · refine .inr ⟨previous, hprevious, ?_, by rw [hsecret]⟩
    have hgrace : queryInterval relay.config.generalQuery.queryIntervalCode * 2 = grace :=
      h.grace_eq
    rw [hgrace]
    exact hnow.trans (Nat.add_le_add_right hsince grace)
  · exact absurd hnow (Nat.not_le.mpr hexpired)

/-! ## A replaced secret does not live too long -/

/-- Some call of the run replaced the secret at the given time. -/
def ReplacedIn (start : Relay × Instant) (calls : List Call) (secret : RelaySecret)
    (rotatedAt : Instant) : Prop :=
  ∃ before call after reached, calls = before ++ call :: after ∧
    Run (CallStep hmac) start before reached ∧ reached.1.Rotates call.env ∧
    reached.1.config.secret = secret ∧ call.env.clock.rotation = rotatedAt

theorem ReplacedIn.append {start : Relay × Instant} {calls : List Call} {secret : RelaySecret}
    {rotatedAt : Instant} (h : ReplacedIn hmac start calls secret rotatedAt) (call : Call) :
    ReplacedIn hmac start (calls ++ [call]) secret rotatedAt := by
  obtain ⟨before, replacing, after, reached, rfl, hrest⟩ := h
  exact ⟨before, replacing, after ++ [call], reached, by simp, hrest⟩

/-- **The rotation of a call, recorded**: the previous secret after it is the one before,
or the one this call replaced. -/
theorem replacedIn_rotate {start reached : Relay × Instant} {calls : List Call} {call : Call}
    (hrun : Run (CallStep hmac) start calls reached)
    (hrecorded : ∀ previous, reached.1.previousSecret = some previous →
      ReplacedIn hmac start calls previous.secret previous.rotatedAt)
    {previous : PreviousSecret}
    (hprevious : (reached.1.rotateSecretIfDue call.env).previousSecret = some previous) :
    ReplacedIn hmac start (calls ++ [call]) previous.secret previous.rotatedAt := by
  rcases rotateSecretIfDue_cases reached.1 call.env with hsame | ⟨hrotates, -⟩
  · rw [hsame] at hprevious
    exact (hrecorded previous hprevious).append hmac call
  · obtain ⟨next, -, heq⟩ := id hrotates
    rw [heq] at hprevious
    obtain rfl : _ = previous := Option.some.inj hprevious
    exact ⟨calls, call, [], reached, rfl, hrun, hrotates, rfl, rfl⟩

theorem replacedIn_run {config : RelayConfig} {start : Instant} {reached : Relay × Instant}
    {calls : List Call} (hrun : Run (CallStep hmac) (Relay.new config start, start) calls reached) :
    ∀ previous, reached.1.previousSecret = some previous →
      ReplacedIn hmac (Relay.new config start, start) calls previous.secret previous.rotatedAt := by
  induction hrun with
  | nil =>
      intro previous hprevious
      cases hprevious
  | @snoc calls reached after call hrun hstep ih =>
      intro previous hprevious
      obtain ⟨-, rfl⟩ := hstep
      rw [(sameSecrets_afterCall hmac reached.1 call).2] at hprevious
      exact replacedIn_rotate hmac hrun ih hprevious

/-- The query interval a relay advertises does not change. -/
theorem previousGrace_run {config : RelayConfig} {start : Instant} {reached : Relay × Instant}
    {calls : List Call} (hrun : Run (CallStep hmac) (Relay.new config start, start) calls reached) :
    reached.1.previousGrace = queryInterval config.generalQuery.queryIntervalCode * 2 := by
  refine Run.invariant (I := fun s => s.1.previousGrace =
    queryInterval config.generalQuery.queryIntervalCode * 2) ?_ rfl hrun
  rintro before call after hbefore ⟨-, rfl⟩
  change (before.1.afterCall hmac call).previousGrace = _
  rw [previousGrace, (sameSecrets_afterCall hmac before.1 call).1, ← hbefore]
  rcases rotateSecretIfDue_cases before.1 call.env with hsame | ⟨⟨next, -, heq⟩, -⟩
  · rw [hsame]
    rfl
  · rw [heq]
    rfl

/-! ## The two guards meet -/

/-- **Response MACs along every run.**  A MAC that a call issued is accepted, for the same
address, port and nonce, by every later call that is processed within two query
intervals of the issue, however many rotations were due in between.  And what a call
accepts was made with the current secret, or with one that a call of the run replaced at
most two query intervals before. -/
theorem responseMac_window (hmac : RelaySecret → Bytes → Octets 32) (config : RelayConfig)
    (start : Instant) :
    (∀ (before after : List Call) (issue call : Call) (asked answered reached : Relay × Instant)
        (mac : ResponseMac) (nonce : UInt32),
      Run (CallStep hmac) (Relay.new config start, start) before asked →
      CallStep hmac asked issue answered → asked.1.Issues hmac issue mac nonce →
      Run (CallStep hmac) answered after reached →
      reached.2 ≤ call.env.clock.rotationCheck →
      call.env.clock.processing ≤ issue.env.clock.processing +
        queryInterval config.generalQuery.queryIntervalCode * 2 →
      (reached.1.rotateSecretIfDue call.env).validResponseMac hmac call.env.clock.processing mac
        issue.peer.ip issue.peer.port nonce = true) ∧
    (∀ (calls : List Call) (call : Call) (reached : Relay × Instant) (mac : ResponseMac)
        (gatewayIp : IpAddr) (gatewayPort : UInt16) (nonce : UInt32),
      Run (CallStep hmac) (Relay.new config start, start) calls reached →
      reached.2 ≤ call.env.clock.rotationCheck →
      (reached.1.rotateSecretIfDue call.env).validResponseMac hmac call.env.clock.processing mac
        gatewayIp gatewayPort nonce = true →
      mac = responseMacWithSecret hmac (reached.1.rotateSecretIfDue call.env).config.secret
          gatewayIp gatewayPort nonce ∨
        ∃ secret rotatedAt,
          ReplacedIn hmac (Relay.new config start, start) (calls ++ [call]) secret rotatedAt ∧
          call.env.clock.processing ≤
            rotatedAt + queryInterval config.generalQuery.queryIntervalCode * 2 ∧
          mac = responseMacWithSecret hmac secret gatewayIp gatewayPort nonce) := by
  constructor
  · intro before after issue call asked answered reached mac nonce hbefore hissue hissues hafter
      hlater hwithin
    have hgrace := previousGrace_run hmac (hbefore.snoc hissue)
    obtain ⟨-, rfl⟩ := hissue
    -- right after the issue, the secret of the MAC is the current one
    have hremembers : Remembers (queryInterval config.generalQuery.queryIntervalCode * 2)
        (asked.1.rotateSecretIfDue issue.env).config.secret issue.env.clock.processing
        (asked.1.afterCall hmac issue) issue.env.clock.processing :=
      ⟨hgrace, le_rfl, .inl (by rw [(sameSecrets_afterCall hmac asked.1 issue).1])⟩
    have hreached := (hremembers.run hmac hafter).rotate hlater
    rw [hissues.mac_eq hmac]
    exact (validResponseMac_iff hmac).mpr (hreached.authorized hmac hwithin _ _ _)
  · intro calls call reached mac gatewayIp gatewayPort nonce hrun hlater hvalid
    have hgrace := previousGrace_run hmac (hrun.snoc ⟨hlater, rfl⟩)
    rw [previousGrace, (sameSecrets_afterCall hmac reached.1 call).1] at hgrace
    rcases (validResponseMac_iff hmac).mp hvalid with
      hcurrent | ⟨previous, hprevious, hwithin, hmac'⟩
    · exact .inl hcurrent
    · refine .inr ⟨previous.secret, previous.rotatedAt,
        replacedIn_rotate hmac hrun (replacedIn_run hmac hrun) hprevious, ?_, hmac'⟩
      rw [← hgrace]
      exact hwithin

/-! ### A rotation between the issue and the use of a MAC -/

/-- A digest that shows the secret. -/
def secretDigest : RelaySecret → Bytes → Octets 32 := fun secret _ => secret.bytes

/-- A Request from one gateway, and what the system generates meanwhile. -/
def requestAt (now : Instant) (generated : Option RelaySecret) : Call where
  env := { clock := .at now, generated }
  peer := .v4 (.new 192 0 2 1) 5001
  datagram := encode (.request 7 .igmpv3 false)
  commit := none

/-- A relay that rotates its secret as often as it may. -/
def restless : Relay :=
  .new { RelayConfig.default ⟨.zero 32⟩ with secretRotationInterval := some 0 } 0

def restlessQuery : Bytes :=
  match (buildGeneralQuery .igmpv3 .default : Outcome RelayError Bytes) with
  | .ok query => query
  | _ => []

theorem restless_issues : restless.Issues secretDigest (requestAt 0 none) ⟨.zero 6⟩ 7 :=
  ⟨false, some { port := 5001, address := .fromIpAddr (.v4 (.new 192 0 2 1)) }, restlessQuery,
    by decide +kernel⟩

def nextSecret : RelaySecret := ⟨⟨List.replicate 32 1, rfl⟩⟩

/-- The relay after its first answer and a rotation. -/
def rotated : Relay :=
  (restless.afterCall secretDigest (requestAt 0 none)).afterCall secretDigest
    (requestAt 1 (some nextSecret))

/-- The first MAC of the relay is still valid when its secret has been replaced. -/
theorem responseMac_window_across_rotation :
    rotated.config.secret = nextSecret ∧
      (rotated.rotateSecretIfDue (requestAt 2 none).env).validResponseMac secretDigest 2 ⟨.zero 6⟩
        (.v4 (.new 192 0 2 1)) 5001 7 = true := by
  refine ⟨by decide +kernel, ?_⟩
  exact (responseMac_window secretDigest restless.config 0).1 [] [requestAt 1 (some nextSecret)]
    (requestAt 0 none) (requestAt 2 none) (restless, 0) _ (rotated, 1) ⟨.zero 6⟩ 7 .nil
    ⟨le_rfl, rfl⟩ restless_issues (Run.nil.snoc ⟨Nat.zero_le 1, rfl⟩) (by decide)
    (by decide +kernel)

end Relay

end Amt

import Amt.Driad.DnsName
import Amt.Membership.Wire

/-!
# Replies of a resolver

A reply is checked against the question that was asked (`validateDnsResponse`) and its
answers are read one after the other: `parseDnsResponse` collects relay records and the
aliases of the name, `parseAddressResponse` addresses and one alias.

* **One loop.**  Both functions read the head of an answer, use what they know, and go on
  behind its data; `parseAnswers` is that loop, and the two differ in the use they make of an
  answer.  What holds of every answer is therefore proved once: the cursor moves by at least
  eleven bytes and stays inside the reply (`parseAnswers_bounds`), so that the number of
  answers that are read is bounded by the size of the reply and not by its counter.
* **Nothing is read outside the reply**, whatever its bytes are: no call panics
  (`parseDnsResponse_ne_panic`, `parseAddressResponse_ne_panic`).
* **The question is compared as text.**  A reply whose question has the labels of the query
  is accepted, and so is one whose labels only have the same text.  The two agree as long as
  no label of the reply has a dot (`validateDnsResponse_sameQuestion_iff`).
-/

namespace Amt

open Outcome Text

/-! ## The code -/

def amtrelayRrtype : UInt16 := 260

def dnsClassIn : UInt16 := 1

def dnsTypeA : UInt16 := 1

def dnsTypeCname : UInt16 := 5

def dnsTypeAaaa : UInt16 := 28

def dnsTypeDname : UInt16 := 39

def dnsHeaderLen : ℕ := 12

/-- A value and how long it lasts. -/
structure Timed (α : Type) where
  value : α
  ttl : Duration
deriving DecidableEq, Repr

/-- The records of a name, or the aliases to follow. -/
structure DnsAmtRelayResponse where
  records : List (Timed AmtRelayRecord)
  aliases : List (Timed String)
deriving DecidableEq, Repr

/-- The addresses of a name, or the alias to follow. -/
structure DnsAddressResponse where
  addresses : List (Timed IpAddr)
  aliasName : Option (Timed String)
deriving DecidableEq, Repr

/-- `read_u16`. -/
def readU16 (input : Bytes) (offset : ℕ) : Outcome DriadError UInt16 := do
  let bytes ← okOr (getRange input offset (offset + 2)) (.truncated "u16")
  u16At bytes 0

/-- `read_u32`. -/
def readU32 (input : Bytes) (offset : ℕ) : Outcome DriadError UInt32 := do
  let bytes ← okOr (getRange input offset (offset + 4)) (.truncated "u32")
  u32At bytes 0

/-- `require_relay_len`. -/
def requireRelayLen (relayType : UInt8) (relay : Bytes) (expected : ℕ) : Outcome DriadError Unit :=
  ensure (relay.length = expected) (.invalidRelayLength relayType expected relay.length)

/-- The `match` of `parse_amtrelay_rdata` on the type of the relay. -/
def parseRelayTarget (relayType : UInt8) (relay : Bytes) : Outcome DriadError AmtRelayTarget :=
  if relayType = 0 then do
    requireRelayLen relayType relay 0
    pure .noRelay
  else if relayType = 1 then do
    requireRelayLen relayType relay 4
    let a ← byteAt relay 0
    let b ← byteAt relay 1
    let c ← byteAt relay 2
    let d ← byteAt relay 3
    pure (.ipv4 (Ipv4Addr.new a b c d))
  else if relayType = 2 then do
    requireRelayLen relayType relay 16
    let octets ← Octets.ofSlice relay
    pure (.ipv6 ⟨octets⟩)
  else if relayType = 3 then do
    let parsed ← parseUncompressedDnsName relay
    if parsed.2 ≠ relay.length ∨ parsed.1 = "" then .err .invalidRelayName
    else pure (.name parsed.1)
  else .err (.invalidRelayType relayType)

/-- `parse_amtrelay_rdata`. -/
def parseAmtrelayRdata (rdata : Bytes) : Outcome DriadError AmtRelayRecord := do
  ensure (2 ≤ rdata.length) (.truncated "AMTRELAY RDATA")
  let precedence ← byteAt rdata 0
  let flags ← byteAt rdata 1
  let relay ← sliceFrom rdata 2
  let target ← parseRelayTarget (flags &&& 0x7f) relay
  pure { precedence, discoveryOptional := flags &&& 0x80 ≠ 0, target }

/-- `build_dns_query`. -/
def buildDnsQuery (id : UInt16) (name : String) (qtype : UInt16) : Outcome DriadError Bytes := do
  let out ← putDnsName
    (u16ToBe id ++ u16ToBe 0x0100 ++ u16ToBe 1 ++ u16ToBe 0 ++ u16ToBe 0 ++ u16ToBe 0) name
  pure (out ++ u16ToBe qtype ++ u16ToBe dnsClassIn)

/-- `validate_dns_response`: the number of answers and where they start. -/
def validateDnsResponse (expectedId : UInt16) (queryName : String) (queryType : UInt16)
    (response : Bytes) : Outcome DriadError (ℕ × ℕ) := do
  ensure (dnsHeaderLen ≤ response.length) (.truncated "DNS header")
  let actualId ← readU16 response 0
  ensure (actualId = expectedId) (.invalidResponseId expectedId actualId)
  let flags ← readU16 response 2
  ensure (¬ (flags &&& 0x8000 = 0 ∨ flags &&& 0x7800 ≠ 0 ∨ flags &&& 0x0200 ≠ 0 ∨
    flags &&& 0x0040 ≠ 0)) (.invalidDnsFlags flags)
  ensure ((flags &&& 0x000f).toUInt8 = 0) (.dnsResponseCode (flags &&& 0x000f).toUInt8)
  let qdcount ← readU16 response 4
  ensure (qdcount = 1) .invalidQuestion
  let question ← parseDnsName response dnsHeaderLen
  ensure (question.2 + 4 ≤ response.length) .invalidQuestion
  ensure (dnsNameEq question.1 queryName = true) .invalidQuestion
  let qtype ← readU16 response question.2
  ensure (qtype = queryType) .invalidQuestion
  let qclass ← readU16 response (question.2 + 2)
  ensure (qclass = dnsClassIn) .invalidQuestion
  let ancount ← readU16 response 6
  pure (ancount.toNat, question.2 + 4)

/-- An answer up to its data, which stands from `offset` to `rdataEnd`. -/
structure Answer where
  owner : String
  rrtype : UInt16
  rrclass : UInt16
  ttl : Duration
  rdlen : ℕ
  offset : ℕ
  rdataEnd : ℕ

/-- The first half of both answer loops; `context` is the word their errors use. -/
def readAnswer (context : String) (response : Bytes) (offset : ℕ) :
    Outcome DriadError Answer := do
  let owner ← parseDnsName response offset
  ensure (owner.2 + 10 ≤ response.length) (.truncated context)
  let rrtype ← readU16 response owner.2
  let rrclass ← readU16 response (owner.2 + 2)
  let ttl ← readU32 response (owner.2 + 4)
  let rdlen ← readU16 response (owner.2 + 8)
  ensure (owner.2 + 10 + rdlen.toNat ≤ response.length) (.truncated (context ++ " RDATA"))
  pure
    { owner := owner.1
      rrtype
      rrclass
      ttl := Duration.fromSecs ttl.toNat
      rdlen := rdlen.toNat
      offset := owner.2 + 10
      rdataEnd := owner.2 + 10 + rdlen.toNat }

/-- The loop over the answers: what has been collected and the cursor, after `count` of them. -/
def parseAnswers {σ : Type} (context : String) (response : Bytes)
    (use : σ → Answer → Outcome DriadError σ) : ℕ → σ → ℕ → Outcome DriadError (σ × ℕ)
  | 0, collected, offset => .ok (collected, offset)
  | count + 1, collected, offset => do
      let answer ← readAnswer context response offset
      let collected ← use collected answer
      parseAnswers context response use count collected answer.rdataEnd

/-- `parse_amtrelay_rdata` on the data of an answer; a record it refuses is skipped. -/
def collectRecord (rdata : Bytes) (ttl : Duration) (collected : DnsAmtRelayResponse) :
    Outcome DriadError DnsAmtRelayResponse :=
  match parseAmtrelayRdata rdata with
  | .ok record => .ok { collected with records := collected.records ++ [⟨record, ttl⟩] }
  | .err _ => .ok collected
  | .panic => .panic

/-- The second half of the loop of `parse_dns_response`. -/
def useRelayAnswer (queryName : String) (response : Bytes) (collected : DnsAmtRelayResponse)
    (answer : Answer) : Outcome DriadError DnsAmtRelayResponse :=
  if answer.rrclass = dnsClassIn ∧ answer.rrtype = amtrelayRrtype ∧
      dnsNameEq answer.owner queryName = true then do
    let rdata ← slice response answer.offset answer.rdataEnd
    collectRecord rdata answer.ttl collected
  else if answer.rrclass = dnsClassIn ∧ answer.rrtype = dnsTypeCname ∧
      dnsNameEq answer.owner queryName = true then do
    let target ← parseDnsName response answer.offset
    if target.2 = answer.rdataEnd then
      pure { collected with aliases := collected.aliases ++ [⟨target.1, answer.ttl⟩] }
    else pure collected
  else if answer.rrclass = dnsClassIn ∧ answer.rrtype = dnsTypeDname then do
    let target ← parseDnsName response answer.offset
    if target.2 = answer.rdataEnd then do
      let redirected ← applyDname queryName answer.owner target.1
      pure { collected with
        aliases := collected.aliases ++ redirected.toList.map fun name => ⟨name, answer.ttl⟩ }
    else pure collected
  else .ok collected

/-- `parse_dns_response`. -/
def parseDnsResponse (expectedId : UInt16) (queryName : String) (response : Bytes) :
    Outcome DriadError DnsAmtRelayResponse := do
  let start ← validateDnsResponse expectedId queryName amtrelayRrtype response
  let answers ← parseAnswers "answer" response (useRelayAnswer queryName response) start.1
    ⟨[], []⟩ start.2
  pure answers.1

/-- The second half of the loop of `parse_address_response`. -/
def useAddressAnswer (queryName : String) (queryType : UInt16) (response : Bytes)
    (collected : DnsAddressResponse) (answer : Answer) : Outcome DriadError DnsAddressResponse :=
  if answer.rrclass = dnsClassIn ∧ dnsNameEq answer.owner queryName = true then
    if answer.rrtype = dnsTypeA ∧ answer.rdlen = 4 ∧ queryType = dnsTypeA then do
      let a ← byteAt response answer.offset
      let b ← byteAt response (answer.offset + 1)
      let c ← byteAt response (answer.offset + 2)
      let d ← byteAt response (answer.offset + 3)
      pure { collected with
        addresses := collected.addresses ++ [⟨.v4 (Ipv4Addr.new a b c d), answer.ttl⟩] }
    else if answer.rrtype = dnsTypeAaaa ∧ answer.rdlen = 16 ∧ queryType = dnsTypeAaaa then do
      let rdata ← slice response answer.offset answer.rdataEnd
      let octets ← Octets.ofSlice rdata
      pure { collected with addresses := collected.addresses ++ [⟨.v6 ⟨octets⟩, answer.ttl⟩] }
    else if answer.rrtype = dnsTypeCname then do
      let target ← parseDnsName response answer.offset
      if target.2 = answer.rdataEnd then
        pure { collected with aliasName := some ⟨target.1, answer.ttl⟩ }
      else pure collected
    else .ok collected
  else .ok collected

/-- `parse_address_response`. -/
def parseAddressResponse (expectedId : UInt16) (queryName : String) (queryType : UInt16)
    (response : Bytes) : Outcome DriadError DnsAddressResponse := do
  let start ← validateDnsResponse expectedId queryName queryType response
  let answers ← parseAnswers "address answer" response
    (useAddressAnswer queryName queryType response) start.1 ⟨[], none⟩ start.2
  pure answers.1

/-! ## Words -/

section Words

variable {input : Bytes} {offset : ℕ}

theorem readU16_append {front : Bytes} (v : UInt16) (back : Bytes) (h : offset = front.length) :
    readU16 (front ++ (u16ToBe v ++ back)) offset = .ok v := by
  have hword : (u16At ([] ++ (u16ToBe v ++ [])) 0 : Outcome DriadError UInt16) = .ok v :=
    u16At_append v [] rfl
  rw [readU16, getRange_append back h (by rw [h]; rfl), okOr_some, bind_ok]
  simpa using hword

theorem readU32_append {front : Bytes} (v : UInt32) (back : Bytes) (h : offset = front.length) :
    readU32 (front ++ (u32ToBe v ++ back)) offset = .ok v := by
  have hword : (u32At ([] ++ (u32ToBe v ++ [])) 0 : Outcome DriadError UInt32) = .ok v :=
    u32At_append v [] rfl
  rw [readU32, getRange_append back h (by rw [h]; rfl), okOr_some, bind_ok]
  simpa using hword

theorem readU16_ne_panic : readU16 input offset ≠ .panic := by
  refine bind_ne_panic okOr_ne_panic fun bytes hbytes => u16At_ne_panic ?_
  obtain ⟨-, hle, rfl⟩ := getRange_eq_some_iff.mp (okOr_eq_ok_iff.mp hbytes)
  rw [List.length_drop, List.length_take]
  omega

theorem readU32_ne_panic : readU32 input offset ≠ .panic := by
  refine bind_ne_panic okOr_ne_panic fun bytes hbytes => u32At_ne_panic ?_
  obtain ⟨-, hle, rfl⟩ := getRange_eq_some_iff.mp (okOr_eq_ok_iff.mp hbytes)
  rw [List.length_drop, List.length_take]
  omega

end Words

/-! ## The data of a relay record -/

theorem requireRelayLen_ne_panic (relayType : UInt8) (relay : Bytes) (expected : ℕ) :
    requireRelayLen relayType relay expected ≠ .panic :=
  ensure_ne_panic

theorem parseRelayTarget_ne_panic (relayType : UInt8) (relay : Bytes) :
    parseRelayTarget relayType relay ≠ .panic := by
  rw [parseRelayTarget]
  split
  · exact bind_ne_panic (requireRelayLen_ne_panic _ _ _) fun _ _ => by simp
  split
  · refine bind_ne_panic (requireRelayLen_ne_panic _ _ _) fun _ hlen => ?_
    have hfour : relay.length = 4 := ensure_eq_ok_iff.mp hlen
    exact bind_ne_panic (byteAt_ne_panic (by omega)) fun _ _ =>
      bind_ne_panic (byteAt_ne_panic (by omega)) fun _ _ =>
        bind_ne_panic (byteAt_ne_panic (by omega)) fun _ _ =>
          bind_ne_panic (byteAt_ne_panic (by omega)) fun _ _ => by simp
  split
  · refine bind_ne_panic (requireRelayLen_ne_panic _ _ _) fun _ hlen => ?_
    have hsixteen : relay.length = 16 := ensure_eq_ok_iff.mp hlen
    exact bind_ne_panic (Octets.ofSlice_ne_panic hsixteen) fun _ _ => by simp
  split
  · refine bind_ne_panic (parseUncompressedLoop_ne_panic _ _ _ _) fun _ _ => ?_
    split
    · simp
    · simp
  · simp

theorem parseAmtrelayRdata_ne_panic (rdata : Bytes) : parseAmtrelayRdata rdata ≠ .panic := by
  refine bind_ne_panic ensure_ne_panic fun _ hlen => ?_
  have htwo : 2 ≤ rdata.length := ensure_eq_ok_iff.mp hlen
  exact bind_ne_panic (byteAt_ne_panic (by omega)) fun _ _ =>
    bind_ne_panic (byteAt_ne_panic (by omega)) fun _ _ =>
      bind_ne_panic (sliceFrom_ne_panic htwo) fun _ _ =>
        bind_ne_panic (parseRelayTarget_ne_panic _ _) fun _ _ => by simp

/-- A record that is refused leaves what was collected as it is. -/
theorem collectRecord_eq (rdata : Bytes) (ttl : Duration) (collected : DnsAmtRelayResponse) :
    (∃ record, parseAmtrelayRdata rdata = .ok record ∧ collectRecord rdata ttl collected =
        .ok { collected with records := collected.records ++ [⟨record, ttl⟩] }) ∨
      (∃ error, parseAmtrelayRdata rdata = .err error) ∧
        collectRecord rdata ttl collected = .ok collected := by
  rw [collectRecord]
  cases hparse : parseAmtrelayRdata rdata with
  | ok record => exact .inl ⟨record, rfl, rfl⟩
  | err error => exact .inr ⟨⟨error, rfl⟩, rfl⟩
  | panic => exact absurd hparse (parseAmtrelayRdata_ne_panic rdata)

/-! ## The loop over the answers -/

/-- **The head of an answer**: where it leaves the cursor, that the data it announces are
there, and that its lifetime, of 32 bits, is one the program can express. -/
theorem readAnswer_spec {context : String} {response : Bytes} {offset : ℕ} {answer : Answer}
    (h : readAnswer context response offset = .ok answer) :
    offset + 11 ≤ answer.offset ∧ answer.rdataEnd = answer.offset + answer.rdlen ∧
      answer.rdataEnd ≤ response.length ∧ answer.ttl ≤ Duration.maximum := by
  obtain ⟨owner, howner, h⟩ := bind_eq_ok_iff.mp h
  obtain ⟨_, -, h⟩ := bind_eq_ok_iff.mp h
  obtain ⟨rrtype, -, h⟩ := bind_eq_ok_iff.mp h
  obtain ⟨rrclass, -, h⟩ := bind_eq_ok_iff.mp h
  obtain ⟨ttl, -, h⟩ := bind_eq_ok_iff.mp h
  obtain ⟨rdlen, -, h⟩ := bind_eq_ok_iff.mp h
  obtain ⟨_, hend, h⟩ := bind_eq_ok_iff.mp h
  obtain rfl := Outcome.ok.inj h
  obtain ⟨hlt, -⟩ := lt_next_of_parseDnsName howner
  have hsecs : ttl.toNat ≤ u64Max := Nat.le_trans (Nat.le_of_lt ttl.toNat_lt) (by decide)
  refine ⟨?_, rfl, ensure_eq_ok_iff.mp hend, ?_⟩
  · dsimp only
    omega
  · exact Nat.le_trans (Nat.mul_le_mul_right _ hsecs) (Nat.le_add_right _ _)

theorem readAnswer_ne_panic (context : String) (response : Bytes) (offset : ℕ) :
    readAnswer context response offset ≠ .panic :=
  bind_ne_panic (parseDnsName_ne_panic offset) fun _ _ =>
    bind_ne_panic ensure_ne_panic fun _ _ =>
      bind_ne_panic readU16_ne_panic fun _ _ =>
        bind_ne_panic readU16_ne_panic fun _ _ =>
          bind_ne_panic readU32_ne_panic fun _ _ =>
            bind_ne_panic readU16_ne_panic fun _ _ =>
              bind_ne_panic ensure_ne_panic fun _ _ => by simp

section Loop

variable {σ : Type} {context : String} {response : Bytes} {use : σ → Answer → Outcome DriadError σ}
  {collected collected' : σ} {count offset offset' : ℕ}

/-- One answer of a run that goes through. -/
theorem parseAnswers_succ_eq_ok_iff :
    parseAnswers context response use (count + 1) collected offset = .ok (collected', offset') ↔
      ∃ answer after, readAnswer context response offset = .ok answer ∧
        use collected answer = .ok after ∧
        parseAnswers context response use count after answer.rdataEnd
          = .ok (collected', offset') := by
  rw [parseAnswers, bind_eq_ok_iff]
  constructor
  · rintro ⟨answer, hanswer, h⟩
    obtain ⟨after, hafter, hrest⟩ := bind_eq_ok_iff.mp h
    exact ⟨answer, after, hanswer, hafter, hrest⟩
  · rintro ⟨answer, after, hanswer, hafter, hrest⟩
    exact ⟨answer, hanswer, bind_eq_ok_iff.mpr ⟨after, hafter, hrest⟩⟩

theorem parseAnswers_succ_of_err {error : DriadError}
    (h : readAnswer context response offset = .err error) :
    parseAnswers context response use (count + 1) collected offset = .err error := by
  rw [parseAnswers, h, bind_err]

/-- Every answer takes at least eleven bytes, and none ends outside the reply. -/
theorem parseAnswers_bounds
    (h : parseAnswers context response use count collected offset = .ok (collected', offset')) :
    offset + 11 * count ≤ offset' ∧ (offset ≤ response.length → offset' ≤ response.length) := by
  induction count generalizing collected offset with
  | zero =>
      obtain ⟨-, rfl⟩ := Prod.mk.inj (Outcome.ok.inj h)
      exact ⟨Nat.le_refl _, fun hle => hle⟩
  | succ count ih =>
      obtain ⟨answer, after, hanswer, -, hrest⟩ := parseAnswers_succ_eq_ok_iff.mp h
      obtain ⟨hmoved, hdata, hinside, -⟩ := readAnswer_spec hanswer
      obtain ⟨hfar, hend⟩ := ih hrest
      exact ⟨by omega, fun _ => hend hinside⟩

/-- What the use of every answer that was read keeps, the loop keeps. -/
theorem parseAnswers_invariant {P : σ → Prop}
    (huse : ∀ offset collected answer after, readAnswer context response offset = .ok answer →
      use collected answer = .ok after → P collected → P after)
    (h : parseAnswers context response use count collected offset = .ok (collected', offset'))
    (hP : P collected) : P collected' := by
  induction count generalizing collected offset with
  | zero =>
      obtain ⟨rfl, -⟩ := Prod.mk.inj (Outcome.ok.inj h)
      exact hP
  | succ count ih =>
      obtain ⟨answer, after, hanswer, hafter, hrest⟩ := parseAnswers_succ_eq_ok_iff.mp h
      exact ih hrest (huse offset collected answer after hanswer hafter hP)

theorem parseAnswers_ne_panic
    (huse : ∀ collected answer, answer.rdataEnd = answer.offset + answer.rdlen →
      answer.rdataEnd ≤ response.length → use collected answer ≠ .panic) :
    parseAnswers context response use count collected offset ≠ .panic := by
  induction count generalizing collected offset with
  | zero => simp [parseAnswers]
  | succ count ih =>
      refine bind_ne_panic (readAnswer_ne_panic _ _ _) fun answer hanswer => ?_
      obtain ⟨-, hdata, hinside, -⟩ := readAnswer_spec hanswer
      exact bind_ne_panic (huse _ _ hdata hinside) fun _ _ => ih

end Loop

/-! ## The question of a reply -/

section Question

variable {expectedId queryType : UInt16} {queryName : String} {response : Bytes}
  {ancount start : ℕ}

/-- What an accepted reply says about its question. -/
theorem question_of_validateDnsResponse
    (h : validateDnsResponse expectedId queryName queryType response = .ok (ancount, start)) :
    ∃ name next, parseDnsName response dnsHeaderLen = .ok (name, next) ∧ start = next + 4 ∧
      start ≤ response.length ∧ dnsNameEq name queryName = true ∧
      readU16 response next = .ok queryType ∧ readU16 response (next + 2) = .ok dnsClassIn := by
  obtain ⟨_, -, h⟩ := bind_eq_ok_iff.mp h
  obtain ⟨actualId, -, h⟩ := bind_eq_ok_iff.mp h
  obtain ⟨_, -, h⟩ := bind_eq_ok_iff.mp h
  obtain ⟨flags, -, h⟩ := bind_eq_ok_iff.mp h
  obtain ⟨_, -, h⟩ := bind_eq_ok_iff.mp h
  obtain ⟨_, -, h⟩ := bind_eq_ok_iff.mp h
  obtain ⟨qdcount, -, h⟩ := bind_eq_ok_iff.mp h
  obtain ⟨_, -, h⟩ := bind_eq_ok_iff.mp h
  obtain ⟨⟨name, next⟩, hname, h⟩ := bind_eq_ok_iff.mp h
  obtain ⟨_, hfits, h⟩ := bind_eq_ok_iff.mp h
  obtain ⟨_, hsame, h⟩ := bind_eq_ok_iff.mp h
  obtain ⟨qtype, htype, h⟩ := bind_eq_ok_iff.mp h
  obtain ⟨_, hqtype, h⟩ := bind_eq_ok_iff.mp h
  obtain ⟨qclass, hclass, h⟩ := bind_eq_ok_iff.mp h
  obtain ⟨_, hqclass, h⟩ := bind_eq_ok_iff.mp h
  obtain ⟨count, -, h⟩ := bind_eq_ok_iff.mp h
  rw [ensure_eq_ok_iff] at hfits hsame hqtype hqclass
  obtain ⟨-, rfl⟩ := Prod.mk.inj (Outcome.ok.inj h)
  subst hqtype hqclass
  exact ⟨name, next, hname, rfl, hfits, hsame, htype, hclass⟩

theorem validateDnsResponse_ne_panic :
    validateDnsResponse expectedId queryName queryType response ≠ .panic :=
  bind_ne_panic ensure_ne_panic fun _ _ =>
    bind_ne_panic readU16_ne_panic fun _ _ =>
    bind_ne_panic ensure_ne_panic fun _ _ =>
    bind_ne_panic readU16_ne_panic fun _ _ =>
    bind_ne_panic ensure_ne_panic fun _ _ =>
    bind_ne_panic ensure_ne_panic fun _ _ =>
    bind_ne_panic readU16_ne_panic fun _ _ =>
    bind_ne_panic ensure_ne_panic fun _ _ =>
    bind_ne_panic (parseDnsName_ne_panic _) fun _ _ =>
    bind_ne_panic ensure_ne_panic fun _ _ =>
    bind_ne_panic ensure_ne_panic fun _ _ =>
    bind_ne_panic readU16_ne_panic fun _ _ =>
    bind_ne_panic ensure_ne_panic fun _ _ =>
    bind_ne_panic readU16_ne_panic fun _ _ =>
    bind_ne_panic ensure_ne_panic fun _ _ =>
    bind_ne_panic readU16_ne_panic fun _ _ => by simp

/-- The same labels on the wire, ASCII case aside. -/
def SameWireLabels (left right : List Bytes) : Prop :=
  left.map (List.map lowerByte) = right.map (List.map lowerByte)

instance (left right : List Bytes) : Decidable (SameWireLabels left right) :=
  inferInstanceAs (Decidable (_ = _))

theorem sameWireLabels_wireLabels_iff {left right : List DnsLabel} :
    SameWireLabels (wireLabels left) (wireLabels right) ↔ SameLabels left right := by
  have hlower : ∀ labels : List DnsLabel, (wireLabels labels).map (List.map lowerByte) =
      (labels.map fun label => toAsciiLowercase label.text).map asBytes := by
    intro labels
    rw [wireLabels, List.map_map, List.map_map]
    apply List.map_congr_left
    intro label _
    exact (asBytes_toAsciiLowercase label.text).symm
  rw [SameWireLabels, hlower, hlower, SameLabels]
  exact (List.map_injective_iff.mpr asBytes_injective).eq_iff

/-- The byte of a dot. -/
def dotByte : UInt8 := 0x2e

theorem dotByte_mem_asBytes_iff {s : String} : dotByte ∈ asBytes s ↔ '.' ∈ s.toList :=
  ofNat_mem_asBytes_iff (d := '.') (by decide)

/-- Case folding neither makes a dot nor removes one. -/
theorem dotByte_mem_map_lowerByte_iff {label : Bytes} :
    dotByte ∈ label.map lowerByte ↔ dotByte ∈ label := by
  rw [List.mem_map]
  constructor
  · rintro ⟨b, hb, hdot⟩
    rwa [← (lowerByte_eq_iff (by decide)).mp hdot]
  · intro h
    exact ⟨dotByte, h, by decide⟩

/-- Labels that match labels without dots have no dots. -/
theorem SameWireLabels.noDot {left right : List Bytes} (h : SameWireLabels left right)
    (hright : ∀ label ∈ right, dotByte ∉ label) : ∀ label ∈ left, dotByte ∉ label := by
  intro label hlabel hdot
  have hmem : label.map lowerByte ∈ right.map (List.map lowerByte) := by
    rw [← h]
    exact List.mem_map_of_mem hlabel
  obtain ⟨label', hlabel', heq⟩ := List.mem_map.mp hmem
  refine hright label' hlabel' ?_
  rw [← dotByte_mem_map_lowerByte_iff, heq, dotByte_mem_map_lowerByte_iff]
  exact hdot

theorem dotByte_not_mem_wireLabels (labels : List DnsLabel) :
    ∀ label ∈ wireLabels labels, dotByte ∉ label := by
  intro l hl
  obtain ⟨label, -, rfl⟩ := List.mem_map.mp hl
  exact mt dotByte_mem_asBytes_iff.mp label.noDot

/-- Labels of a message that have no dot are the labels of a dotted name. -/
theorem NameAt.exists_dnsLabels {message : Bytes} {offset next rounds : ℕ} {texts : List String}
    (h : NameAt message offset (texts.map asBytes) next rounds)
    (hdot : ∀ label ∈ texts.map asBytes, dotByte ∉ label) :
    ∃ labels : List DnsLabel, labels.map DnsLabel.text = texts := by
  refine DnsLabel.exists_map_text fun text htext => ?_
  have hmem : asBytes text ∈ texts.map asBytes := List.mem_map_of_mem htext
  refine ⟨?_, mt dotByte_mem_asBytes_iff.mpr (hdot _ hmem)⟩
  rintro rfl
  exact h.ne_nil_of_mem hmem rfl

/-- The question of an accepted reply has the type and the class that were asked for.  Its
labels are the labels of the query exactly if none of them has a dot: the comparison is one of
texts, and in a text a dot inside a label looks like the end of the label. -/
theorem validateDnsResponse_sameQuestion_iff {wire : Bytes}
    (hput : putDnsName [] queryName = .ok wire)
    (h : validateDnsResponse expectedId queryName queryType response = .ok (ancount, start)) :
    ∃ labels asked next rounds rounds', NameAt response dnsHeaderLen labels next rounds ∧
      NameAt wire 0 asked wire.length rounds' ∧ start = next + 4 ∧
      readU16 response next = .ok queryType ∧ readU16 response (next + 2) = .ok dnsClassIn ∧
      (SameWireLabels labels asked ↔ ∀ label ∈ labels, dotByte ∉ label) := by
  obtain ⟨query, hquery, hwire⟩ := putDnsName_eq_ok_iff.mp hput
  obtain ⟨name, next, hname, hstart, -, hsame, htype, hclass⟩ := question_of_validateDnsResponse h
  obtain ⟨texts, rounds, hat, -, htext⟩ := nameAt_of_parseDnsName hname
  have hasked := nameAt_encodeName hquery.isWireLabel [] []
  rw [List.nil_append, List.append_nil, List.length_nil, Nat.zero_add] at hasked
  rw [List.nil_append] at hwire
  subst hwire
  refine ⟨_, _, next, rounds, _, hat, hasked, hstart, htype, hclass, ?_, ?_⟩
  · intro hlabels
    exact hlabels.noDot (dotByte_not_mem_wireLabels query)
  · intro hdot
    obtain ⟨labels, hlabels⟩ := hat.exists_dnsLabels hdot
    rw [htext, ← hlabels, ← dotted_zero] at hsame
    rw [dnsNameEq, trimEndMatches_dotted, hquery.text, eqIgnoreAsciiCase_dotted] at hsame
    rw [← hlabels, ← wireLabels_eq_map_asBytes]
    exact sameWireLabels_wireLabels_iff.mpr hsame

/-- A reply without answers: number 7, no error, and one question of type AMTRELAY. -/
def replyTo (question : Bytes) : Bytes :=
  u16ToBe 7 ++ u16ToBe 0x8180 ++ u16ToBe 1 ++ u16ToBe 0 ++ u16ToBe 0 ++ u16ToBe 0 ++
    question ++ u16ToBe amtrelayRrtype ++ u16ToBe dnsClassIn

theorem validateDnsResponse_sameQuestion_echo :
    validateDnsResponse 7 "a.A." amtrelayRrtype (replyTo [1, 0x61, 1, 0x61, 0]) = .ok (0, 21) ∧
      ∃ labels asked next rounds rounds',
        NameAt (replyTo [1, 0x61, 1, 0x61, 0]) dnsHeaderLen labels next rounds ∧
        NameAt [1, 0x61, 1, 0x41, 0] 0 asked 5 rounds' ∧ 21 = next + 4 ∧
        readU16 (replyTo [1, 0x61, 1, 0x61, 0]) next = .ok amtrelayRrtype ∧
        readU16 (replyTo [1, 0x61, 1, 0x61, 0]) (next + 2) = .ok dnsClassIn ∧
        (SameWireLabels labels asked ↔ ∀ label ∈ labels, dotByte ∉ label) := by
  have hput : putDnsName [] "a.A." = .ok [1, 0x61, 1, 0x41, 0] := by decide +kernel
  have hvalid : validateDnsResponse 7 "a.A." amtrelayRrtype (replyTo [1, 0x61, 1, 0x61, 0]) =
      .ok (0, 21) := by
    decide +kernel
  exact ⟨hvalid, validateDnsResponse_sameQuestion_iff hput hvalid⟩

/-- The query asks for a name of two labels, and the reply is about the name whose only label
is the three bytes `a.a`. -/
theorem validateDnsResponse_other_name :
    putDnsName [] "a.a" = .ok [1, 0x61, 1, 0x61, 0] ∧
      validateDnsResponse 7 "a.a" amtrelayRrtype (replyTo [3, 0x61, 0x2e, 0x61, 0]) =
        .ok (0, 21) ∧
      NameAt (replyTo [3, 0x61, 0x2e, 0x61, 0]) dnsHeaderLen [[0x61, 0x2e, 0x61]] 17 2 ∧
      ¬ ∃ labels asked next rounds next' rounds',
        NameAt (replyTo [3, 0x61, 0x2e, 0x61, 0]) dnsHeaderLen labels next rounds ∧
        NameAt [1, 0x61, 1, 0x61, 0] 0 asked next' rounds' ∧ SameWireLabels labels asked := by
  have hat : NameAt (replyTo [3, 0x61, 0x2e, 0x61, 0]) dnsHeaderLen [[0x61, 0x2e, 0x61]] 17 2 :=
    .label rfl rfl (by decide) rfl (.root rfl)
  have hasked : NameAt [1, 0x61, 1, 0x61, 0] 0 [[0x61], [0x61]] 5 3 :=
    .label rfl rfl (by decide) rfl (.label rfl rfl (by decide) rfl (.root rfl))
  refine ⟨by decide +kernel, by decide +kernel, hat, ?_⟩
  rintro ⟨labels, asked, next, rounds, next', rounds', hlabels, hwire, hsame⟩
  obtain ⟨rfl, -, -⟩ := hat.unique hlabels
  obtain ⟨rfl, -, -⟩ := hasked.unique hwire
  exact absurd hsame (by decide)

end Question

/-! ## Replies stay inside their bytes -/

section Inside

variable {queryName : String} {queryType : UInt16} {response : Bytes}

/-- Some data of the reply. -/
def IsRdataOf (response rdata : Bytes) : Prop :=
  ∃ lo hi, lo ≤ hi ∧ hi ≤ response.length ∧ rdata = (response.take hi).drop lo

theorem useRelayAnswer_ne_panic {collected : DnsAmtRelayResponse} {answer : Answer}
    (hdata : answer.rdataEnd = answer.offset + answer.rdlen)
    (hinside : answer.rdataEnd ≤ response.length) :
    useRelayAnswer queryName response collected answer ≠ .panic := by
  rw [useRelayAnswer]
  split
  · refine bind_ne_panic (slice_ne_panic (by omega) hinside) fun rdata _ => ?_
    obtain ⟨record, -, heq⟩ | ⟨-, heq⟩ := collectRecord_eq rdata answer.ttl collected
    · rw [heq]
      simp
    · rw [heq]
      simp
  split
  · refine bind_ne_panic (parseDnsName_ne_panic _) fun _ _ => ?_
    split
    · simp
    · simp
  split
  · refine bind_ne_panic (parseDnsName_ne_panic _) fun _ _ => ?_
    split
    · exact bind_ne_panic (applyDname_ne_panic _ _ _) fun _ _ => by simp
    · simp
  · simp

theorem parseDnsResponse_ne_panic (expectedId : UInt16) (queryName : String) (response : Bytes) :
    parseDnsResponse expectedId queryName response ≠ .panic :=
  bind_ne_panic validateDnsResponse_ne_panic fun _ _ =>
    bind_ne_panic (parseAnswers_ne_panic fun _ _ => useRelayAnswer_ne_panic) fun _ _ => by simp

theorem useAddressAnswer_ne_panic {collected : DnsAddressResponse} {answer : Answer}
    (hdata : answer.rdataEnd = answer.offset + answer.rdlen)
    (hinside : answer.rdataEnd ≤ response.length) :
    useAddressAnswer queryName queryType response collected answer ≠ .panic := by
  rw [useAddressAnswer]
  split
  · split
    · next hfour =>
        exact bind_ne_panic (byteAt_ne_panic (by omega)) fun _ _ =>
          bind_ne_panic (byteAt_ne_panic (by omega)) fun _ _ =>
            bind_ne_panic (byteAt_ne_panic (by omega)) fun _ _ =>
              bind_ne_panic (byteAt_ne_panic (by omega)) fun _ _ => by simp
    split
    · next hsixteen =>
        refine bind_ne_panic (slice_ne_panic (by omega) hinside) fun rdata hrdata => ?_
        refine bind_ne_panic (Octets.ofSlice_ne_panic ?_) fun _ _ => by simp
        rw [slice_eq_ok hrdata, List.length_drop, List.length_take]
        omega
    split
    · refine bind_ne_panic (parseDnsName_ne_panic _) fun _ _ => ?_
      split
      · simp
      · simp
    · simp
  · simp

theorem parseAddressResponse_ne_panic (expectedId : UInt16) (queryName : String)
    (queryType : UInt16) (response : Bytes) :
    parseAddressResponse expectedId queryName queryType response ≠ .panic :=
  bind_ne_panic validateDnsResponse_ne_panic fun _ _ =>
    bind_ne_panic (parseAnswers_ne_panic fun _ _ => useAddressAnswer_ne_panic) fun _ _ => by simp

/-- What the use of an answer adds: nothing, a record, or aliases. -/
theorem useRelayAnswer_cases {collected after : DnsAmtRelayResponse} {answer : Answer}
    (h : useRelayAnswer queryName response collected answer = .ok after) :
    after = collected ∨
      (∃ rdata record, (slice response answer.offset answer.rdataEnd :
          Outcome DriadError Bytes) = .ok rdata ∧ parseAmtrelayRdata rdata = .ok record ∧
        after = { collected with records := collected.records ++ [⟨record, answer.ttl⟩] }) ∨
      ∃ names : List String, after = { collected with
        aliases := collected.aliases ++ names.map fun name => ⟨name, answer.ttl⟩ } := by
  rw [useRelayAnswer] at h
  split at h
  · obtain ⟨rdata, hrdata, h⟩ := bind_eq_ok_iff.mp h
    obtain ⟨record, hrecord, heq⟩ | ⟨-, heq⟩ := collectRecord_eq rdata answer.ttl collected
    · exact .inr (.inl ⟨rdata, record, hrdata, hrecord, Outcome.ok.inj (h.symm.trans heq)⟩)
    · exact .inl (Outcome.ok.inj (h.symm.trans heq))
  split at h
  · obtain ⟨target, -, h⟩ := bind_eq_ok_iff.mp h
    split at h
    · exact .inr (.inr ⟨[target.1], (Outcome.ok.inj h).symm⟩)
    · exact .inl (Outcome.ok.inj h).symm
  split at h
  · obtain ⟨target, -, h⟩ := bind_eq_ok_iff.mp h
    split at h
    · obtain ⟨redirected, -, h⟩ := bind_eq_ok_iff.mp h
      exact .inr (.inr ⟨redirected.toList, (Outcome.ok.inj h).symm⟩)
    · exact .inl (Outcome.ok.inj h).symm
  · exact .inl (Outcome.ok.inj h).symm

/-- What the use of an answer adds: nothing, an address, or an alias. -/
theorem useAddressAnswer_cases {collected after : DnsAddressResponse} {answer : Answer}
    (hdata : answer.rdataEnd = answer.offset + answer.rdlen)
    (h : useAddressAnswer queryName queryType response collected answer = .ok after) :
    after = collected ∨
      (∃ address, addressBytes address = (response.take answer.rdataEnd).drop answer.offset ∧
        after = { collected with addresses := collected.addresses ++ [⟨address, answer.ttl⟩] }) ∨
      ∃ name, after = { collected with aliasName := some ⟨name, answer.ttl⟩ } := by
  rw [useAddressAnswer] at h
  split at h
  · split at h
    · next hfour =>
        obtain ⟨a, ha, h⟩ := bind_eq_ok_iff.mp h
        obtain ⟨b, hb, h⟩ := bind_eq_ok_iff.mp h
        obtain ⟨c, hc, h⟩ := bind_eq_ok_iff.mp h
        obtain ⟨d, hd, h⟩ := bind_eq_ok_iff.mp h
        refine .inr (.inl ⟨_, ?_, (Outcome.ok.inj h).symm⟩)
        rw [hdata, hfour.2.1, take_drop_eq_cons (byteAt_eq_ok_iff.mp ha) (by omega),
          take_drop_eq_cons (byteAt_eq_ok_iff.mp hb) (by omega),
          take_drop_eq_cons (byteAt_eq_ok_iff.mp hc) (by omega),
          take_drop_eq_cons (byteAt_eq_ok_iff.mp hd) (by omega), take_drop_self]
        rfl
    split at h
    · obtain ⟨rdata, hrdata, h⟩ := bind_eq_ok_iff.mp h
      obtain ⟨octets, hoctets, h⟩ := bind_eq_ok_iff.mp h
      have hbytes := (Octets.toList_of_ofSlice hoctets).trans (slice_eq_ok hrdata)
      exact .inr (.inl ⟨.v6 ⟨octets⟩, hbytes, (Outcome.ok.inj h).symm⟩)
    split at h
    · obtain ⟨target, -, h⟩ := bind_eq_ok_iff.mp h
      split at h
      · exact .inr (.inr ⟨target.1, (Outcome.ok.inj h).symm⟩)
      · exact .inl (Outcome.ok.inj h).symm
    · exact .inl (Outcome.ok.inj h).symm
  · exact .inl (Outcome.ok.inj h).symm

/-- A record of the reply: its data stands in it, and its lifetime can be expressed. -/
def IsRecordOf (response : Bytes) (r : Timed AmtRelayRecord) : Prop :=
  (∃ rdata, IsRdataOf response rdata ∧ parseAmtrelayRdata rdata = .ok r.value) ∧
    r.ttl ≤ Duration.maximum

/-- Every record returned stands in the message. -/
theorem isRecordOf_of_parseDnsResponse {expectedId : UInt16} {result : DnsAmtRelayResponse}
    (h : parseDnsResponse expectedId queryName response = .ok result) :
    ∀ r ∈ result.records, IsRecordOf response r := by
  obtain ⟨start, -, h⟩ := bind_eq_ok_iff.mp h
  obtain ⟨⟨collected, cursor⟩, hanswers, h⟩ := bind_eq_ok_iff.mp h
  obtain rfl := Outcome.ok.inj h
  refine parseAnswers_invariant (P := fun collected : DnsAmtRelayResponse =>
    ∀ r ∈ collected.records, IsRecordOf response r) ?_ hanswers (by simp)
  intro offset collected answer after hread huse hrecords
  obtain ⟨-, hdata, hinside, httl⟩ := readAnswer_spec hread
  obtain rfl | ⟨rdata, record, hrdata, hrecord, rfl⟩ | ⟨names, rfl⟩ := useRelayAnswer_cases huse
  · exact hrecords
  · intro r hr
    obtain hr | hr := List.mem_append.mp hr
    · exact hrecords r hr
    · rw [List.mem_singleton.mp hr]
      exact ⟨⟨rdata, ⟨_, _, by omega, hinside, slice_eq_ok hrdata⟩, hrecord⟩, httl⟩
  · exact hrecords

/-- Every address returned stands in the message. -/
theorem addresses_of_parseAddressResponse {expectedId : UInt16} {result : DnsAddressResponse}
    (h : parseAddressResponse expectedId queryName queryType response = .ok result) :
    ∀ r ∈ result.addresses, IsRdataOf response (addressBytes r.value) := by
  obtain ⟨start, -, h⟩ := bind_eq_ok_iff.mp h
  obtain ⟨⟨collected, cursor⟩, hanswers, h⟩ := bind_eq_ok_iff.mp h
  obtain rfl := Outcome.ok.inj h
  refine parseAnswers_invariant (P := fun collected : DnsAddressResponse =>
    ∀ r ∈ collected.addresses, IsRdataOf response (addressBytes r.value)) ?_ hanswers (by simp)
  intro offset collected answer after hread huse haddresses
  obtain ⟨-, hdata, hinside, -⟩ := readAnswer_spec hread
  obtain rfl | ⟨address, haddress, rfl⟩ | ⟨name, rfl⟩ := useAddressAnswer_cases hdata huse
  · exact haddresses
  · intro r hr
    obtain hr | hr := List.mem_append.mp hr
    · exact haddresses r hr
    · rw [List.mem_singleton.mp hr]
      exact ⟨_, _, by omega, hinside, haddress⟩
  · exact haddresses

/-- However many answers have been used, the cursor has moved by eleven bytes for each and is
inside the reply, and the next answer that can be read moves it on inside the reply. -/
def CursorInside {σ : Type} (context : String) (response : Bytes)
    (use : σ → Answer → Outcome DriadError σ) (initial : σ) (start : ℕ) : Prop :=
  ∀ count collected cursor,
    parseAnswers context response use count initial start = .ok (collected, cursor) →
      start + 11 * count ≤ cursor ∧ cursor ≤ response.length ∧
      count ≤ (response.length - dnsHeaderLen) / 11 ∧
      ∀ answer, readAnswer context response cursor = .ok answer →
        cursor < answer.rdataEnd ∧ answer.rdataEnd ≤ response.length ∧
        count + 1 ≤ (response.length - dnsHeaderLen) / 11

theorem cursorInside {σ : Type} {context : String} {use : σ → Answer → Outcome DriadError σ}
    {initial : σ} {start : ℕ} (hstart : dnsHeaderLen ≤ start) (hinside : start ≤ response.length) :
    CursorInside context response use initial start := by
  intro count collected cursor h
  obtain ⟨hfar, hend⟩ := parseAnswers_bounds h
  have hcursor := hend hinside
  refine ⟨hfar, hcursor, ?_, fun answer hanswer => ?_⟩
  · rw [Nat.le_div_iff_mul_le (by decide)]
    omega
  · obtain ⟨hmoved, hdata, hlast, -⟩ := readAnswer_spec hanswer
    refine ⟨by omega, hlast, ?_⟩
    rw [Nat.le_div_iff_mul_le (by decide)]
    omega

theorem start_of_validateDnsResponse {expectedId : UInt16} {ancount start : ℕ}
    (h : validateDnsResponse expectedId queryName queryType response = .ok (ancount, start)) :
    dnsHeaderLen ≤ start ∧ start ≤ response.length := by
  obtain ⟨name, next, hname, rfl, hle, -⟩ := question_of_validateDnsResponse h
  have hlt := (lt_next_of_parseDnsName hname).1
  exact ⟨by omega, hle⟩

/-- Whatever bytes a resolver sends, both functions return, read nothing outside the reply, go
through its answers from the front to the back and return only what stands in it. -/
theorem dnsResponse_inside (expectedId queryType : UInt16) (queryName : String)
    (response : Bytes) :
    parseDnsResponse expectedId queryName response ≠ .panic ∧
      parseAddressResponse expectedId queryName queryType response ≠ .panic ∧
      (∀ offset name next, parseDnsName response offset = .ok (name, next) →
        offset < next ∧ next ≤ response.length) ∧
      (∀ ancount start,
        validateDnsResponse expectedId queryName amtrelayRrtype response = .ok (ancount, start) →
          CursorInside "answer" response (useRelayAnswer queryName response) ⟨[], []⟩ start) ∧
      (∀ ancount start,
        validateDnsResponse expectedId queryName queryType response = .ok (ancount, start) →
          CursorInside "address answer" response (useAddressAnswer queryName queryType response)
            ⟨[], none⟩ start) ∧
      (∀ result, parseDnsResponse expectedId queryName response = .ok result →
        ∀ r ∈ result.records,
          ∃ rdata, IsRdataOf response rdata ∧ parseAmtrelayRdata rdata = .ok r.value) ∧
      ∀ result, parseAddressResponse expectedId queryName queryType response = .ok result →
        ∀ r ∈ result.addresses, IsRdataOf response (addressBytes r.value) := by
  refine ⟨parseDnsResponse_ne_panic _ _ _, parseAddressResponse_ne_panic _ _ _ _,
    fun _ _ _ => lt_next_of_parseDnsName, fun ancount start h => ?_, fun ancount start h => ?_,
    fun _ h r hr => (isRecordOf_of_parseDnsResponse h r hr).1,
    fun _ => addresses_of_parseAddressResponse⟩
  · obtain ⟨hlo, hhi⟩ := start_of_validateDnsResponse h
    exact cursorInside hlo hhi
  · obtain ⟨hlo, hhi⟩ := start_of_validateDnsResponse h
    exact cursorInside hlo hhi

end Inside

end Amt

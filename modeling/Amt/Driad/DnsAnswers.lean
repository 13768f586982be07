import Amt.Driad.DnsMessage

/-!
# The replies that servers send

A server repeats the question and writes the owner of each answer as a pointer back to it.
`relayReply` is such a reply, with any relay records, and `parseDnsResponse` returns the ones
whose data it accepts (`parseDnsResponse_relayReply_iff`), for every query name with up to 126
labels.

A name may have 127.  Reading the question then takes 128 rounds, which is what `parseDnsName`
allows, and reading an owner takes one more for the pointer: the reply is refused with the
first answer.
-/

namespace Amt

open Outcome Text

/-- An AMTRELAY record as a server sends it. -/
structure SentRecord where
  ttl : UInt32
  rdata : Bytes
  fits : rdata.length < 65536

/-- An answer whose owner is a pointer to the question. -/
def SentRecord.encode (sent : SentRecord) : Bytes :=
  [0xc0, 0x0c] ++ u16ToBe amtrelayRrtype ++ u16ToBe dnsClassIn ++ u32ToBe sent.ttl ++
    u16ToBe (UInt16.ofNat sent.rdata.length) ++ sent.rdata

/-- The record that is returned for it. -/
def SentRecord.timed (sent : SentRecord) : Option (Timed AmtRelayRecord) :=
  match parseAmtrelayRdata sent.rdata with
  | .ok record => some ⟨record, Duration.fromSecs sent.ttl.toNat⟩
  | _ => none

/-- A reply to a standard query, complete and without an error. -/
structure ReplyFlags where
  flags : UInt16
  response : flags &&& 0x8000 ≠ 0
  opcode : flags &&& 0x7800 = 0
  complete : flags &&& 0x0200 = 0
  reserved : flags &&& 0x0040 = 0
  noError : flags &&& 0x000f = 0

/-- The header of a reply with one question. -/
def replyHeader (id : UInt16) (flags : ReplyFlags) (ancount nscount arcount : UInt16) :
    List UInt16 :=
  [id, flags.flags, 1, ancount, nscount, arcount]

/-- A reply that repeats the question `wire` and answers it with relay records; authority and
additional sections may follow. -/
def relayReply (id : UInt16) (flags : ReplyFlags) (nscount arcount : UInt16) (wire : Bytes)
    (answers : List SentRecord) (rest : Bytes) : Bytes :=
  (replyHeader id flags (UInt16.ofNat answers.length) nscount arcount).flatMap u16ToBe ++
    (wire ++ (u16ToBe amtrelayRrtype ++ (u16ToBe dnsClassIn ++
      (answers.flatMap SentRecord.encode ++ rest))))

/-! ## Reading the reply -/

theorem length_flatMap_u16ToBe (words : List UInt16) :
    (words.flatMap u16ToBe).length = 2 * words.length := by
  induction words with
  | nil => rfl
  | cons word words ih =>
      rw [List.flatMap_cons, List.length_append, ih, length_u16ToBe, List.length_cons]
      omega

/-- A word of a table of words. -/
theorem readU16_flatMap {words : List UInt16} {i : ℕ} {v : UInt16} (h : words[i]? = some v)
    (back : Bytes) : readU16 (words.flatMap u16ToBe ++ back) (2 * i) = .ok v := by
  obtain ⟨hi, rfl⟩ := List.getElem?_eq_some_iff.mp h
  have hsplit : words = words.take i ++ words[i] :: words.drop (i + 1) := by
    rw [List.getElem_cons_drop, List.take_append_drop]
  have hbytes : words.flatMap u16ToBe ++ back = (words.take i).flatMap u16ToBe ++
      (u16ToBe words[i] ++ ((words.drop (i + 1)).flatMap u16ToBe ++ back)) := by
    conv_lhs => rw [hsplit]
    rw [List.flatMap_append, List.flatMap_cons, List.append_assoc, List.append_assoc]
  rw [hbytes]
  refine readU16_append _ _ ?_
  rw [length_flatMap_u16ToBe, List.length_take, Nat.min_eq_left (Nat.le_of_lt hi)]

section Reply

variable {message front back : Bytes} {texts : List String} {next rounds : ℕ}

/-- The owner of an answer takes one round more than the question it points to. -/
theorem parseDnsName_pointer (hname : NameAt message dnsHeaderLen (texts.map asBytes) next rounds)
    (hmessage : message = front ++ ([0xc0, 0x0c] ++ back)) :
    parseDnsName message front.length =
      if rounds + 1 ≤ 128 then .ok (String.intercalate "." texts, front.length + 2)
      else .err .invalidDnsPointer := by
  have hhi : message[front.length]? = some 0xc0 := by simp [hmessage]
  have hlo : message[front.length + 1]? = some 0x0c := by simp [hmessage]
  exact parseDnsName_of_nameAt (.pointer hhi rfl hlo hname)

/-- The answer that is read where a record was written. -/
def SentRecord.answer (sent : SentRecord) (owner : String) (offset : ℕ) : Answer where
  owner := owner
  rrtype := amtrelayRrtype
  rrclass := dnsClassIn
  ttl := Duration.fromSecs sent.ttl.toNat
  rdlen := sent.rdata.length
  offset := offset + 12
  rdataEnd := offset + 12 + sent.rdata.length

theorem SentRecord.length_encode (sent : SentRecord) :
    sent.encode.length = 12 + sent.rdata.length := by
  simp [encode]
  omega

theorem readAnswer_sent (sent : SentRecord)
    (hname : NameAt message dnsHeaderLen (texts.map asBytes) next rounds)
    (hmessage : message = front ++ (sent.encode ++ back)) :
    readAnswer "answer" message front.length =
      if rounds + 1 ≤ 128 then
        .ok (sent.answer (String.intercalate "." texts) front.length)
      else .err .invalidDnsPointer := by
  have howner : message = front ++ ([0xc0, 0x0c] ++ (u16ToBe amtrelayRrtype ++
      (u16ToBe dnsClassIn ++ (u32ToBe sent.ttl ++
        (u16ToBe (UInt16.ofNat sent.rdata.length) ++ (sent.rdata ++ back)))))) := by
    simp [hmessage, SentRecord.encode]
  rw [readAnswer, parseDnsName_pointer hname howner]
  split
  · have hlength : message.length = front.length + 12 + sent.rdata.length + back.length := by
      rw [hmessage, List.length_append, List.length_append, sent.length_encode]
      omega
    have htype : readU16 message (front.length + 2) = .ok amtrelayRrtype := by
      rw [howner, ← List.append_assoc]
      exact readU16_append _ _ (by simp)
    have hclass : readU16 message (front.length + 2 + 2) = .ok dnsClassIn := by
      rw [howner, ← List.append_assoc, ← List.append_assoc]
      exact readU16_append _ _ (by simp)
    have httl : readU32 message (front.length + 2 + 4) = .ok sent.ttl := by
      rw [howner, ← List.append_assoc, ← List.append_assoc, ← List.append_assoc]
      exact readU32_append _ _ (by simp)
    have hrdlen : readU16 message (front.length + 2 + 8) =
        .ok (UInt16.ofNat sent.rdata.length) := by
      rw [howner, ← List.append_assoc, ← List.append_assoc, ← List.append_assoc,
        ← List.append_assoc]
      exact readU16_append _ _ (by simp)
    have hsize : (UInt16.ofNat sent.rdata.length).toNat = sent.rdata.length :=
      UInt16.toNat_ofNat_of_lt' sent.fits
    rw [bind_ok, ensure_of (by omega), bind_ok, htype, bind_ok, hclass, bind_ok, httl, bind_ok,
      hrdlen, bind_ok, hsize, ensure_of (by omega), bind_ok]
    rfl
  · rfl

/-- Using a record that was sent: it is collected if its data is accepted. -/
theorem useRelayAnswer_sent (sent : SentRecord) {queryName owner : String}
    (howner : dnsNameEq owner queryName = true)
    (hmessage : message = front ++ (sent.encode ++ back)) (collected : DnsAmtRelayResponse) :
    useRelayAnswer queryName message collected (sent.answer owner front.length) =
      .ok { collected with records := collected.records ++ sent.timed.toList } := by
  have hdata : message = (front ++ ([0xc0, 0x0c] ++ u16ToBe amtrelayRrtype ++ u16ToBe dnsClassIn ++
      u32ToBe sent.ttl ++ u16ToBe (UInt16.ofNat sent.rdata.length))) ++ (sent.rdata ++ back) := by
    simp [hmessage, SentRecord.encode]
  have hslice : (slice message (front.length + 12) (front.length + 12 + sent.rdata.length) :
      Outcome DriadError Bytes) = .ok sent.rdata := by
    rw [hdata]
    exact slice_append _ (by simp) (by simp)
  rw [useRelayAnswer, if_pos ⟨rfl, rfl, howner⟩]
  change slice message (front.length + 12) (front.length + 12 + sent.rdata.length) >>= _ = _
  rw [hslice, bind_ok]
  obtain ⟨record, hrecord, heq⟩ | ⟨⟨error, herror⟩, heq⟩ :=
    collectRecord_eq sent.rdata (Duration.fromSecs sent.ttl.toNat) collected
  · rw [SentRecord.timed, hrecord]
    exact heq
  · rw [SentRecord.timed, herror]
    refine heq.trans ?_
    simp

/-- The answers of a reply, as long as the owners can be read. -/
theorem parseAnswers_sent {queryName : String}
    (hname : NameAt message dnsHeaderLen (texts.map asBytes) next rounds)
    (hrounds : rounds + 1 ≤ 128)
    (howner : dnsNameEq (String.intercalate "." texts) queryName = true)
    (answers : List SentRecord)
    (hmessage : message = front ++ (answers.flatMap SentRecord.encode ++ back))
    (collected : DnsAmtRelayResponse) :
    ∃ cursor, parseAnswers "answer" message (useRelayAnswer queryName message) answers.length
      collected front.length =
        .ok ({ collected with
          records := collected.records ++ answers.filterMap SentRecord.timed }, cursor) := by
  -- the cursor stands behind the answers that have been used: `front` grows with it
  induction answers generalizing front collected with
  | nil => exact ⟨front.length, by simp [parseAnswers]⟩
  | cons sent answers ih =>
      have hhere : message = front ++ (sent.encode ++
          (answers.flatMap SentRecord.encode ++ back)) := by
        simp [hmessage]
      have hread := readAnswer_sent sent hname hhere
      rw [if_pos hrounds] at hread
      have huse := useRelayAnswer_sent sent howner hhere collected
      have hmoved : message = (front ++ sent.encode) ++
          (answers.flatMap SentRecord.encode ++ back) := by
        simp [hhere]
      have hfilter : (sent :: answers).filterMap SentRecord.timed =
          sent.timed.toList ++ answers.filterMap SentRecord.timed := by
        cases htimed : sent.timed with
        | none => rw [List.filterMap_cons_none htimed]; rfl
        | some record => rw [List.filterMap_cons_some htimed]; rfl
      obtain ⟨cursor, hrest⟩ := ih hmoved
        { collected with records := collected.records ++ sent.timed.toList }
      refine ⟨cursor, parseAnswers_succ_eq_ok_iff.mpr ⟨_, _, hread, huse, ?_⟩⟩
      rw [List.length_append, sent.length_encode, ← Nat.add_assoc] at hrest
      rw [hfilter, ← List.append_assoc]
      exact hrest

end Reply

section Complete

variable {queryName : String} {labels : List DnsLabel} (id : UInt16) (flags : ReplyFlags)
  (nscount arcount : UInt16) (answers : List SentRecord) (rest : Bytes)

/-- What stands behind the header and the name. -/
def replyBody (answers : List SentRecord) (rest : Bytes) : Bytes :=
  u16ToBe amtrelayRrtype ++ (u16ToBe dnsClassIn ++ (answers.flatMap SentRecord.encode ++ rest))

theorem relayReply_eq (wire : Bytes) :
    relayReply id flags nscount arcount wire answers rest =
      (replyHeader id flags (UInt16.ofNat answers.length) nscount arcount).flatMap u16ToBe ++
        (wire ++ replyBody answers rest) :=
  rfl

theorem length_replyHeader (ancount : UInt16) :
    ((replyHeader id flags ancount nscount arcount).flatMap u16ToBe).length = dnsHeaderLen :=
  rfl

/-- The question of a reply is read as the query. -/
theorem nameAt_relayReply (hlabels : DnsNameLabels queryName labels) :
    NameAt (relayReply id flags nscount arcount (encodeName (wireLabels labels)) answers rest)
      dnsHeaderLen ((labels.map DnsLabel.text).map asBytes)
      (dnsHeaderLen + (encodeName (wireLabels labels)).length) (labels.length + 1) := by
  have hname := nameAt_encodeName hlabels.isWireLabel
    ((replyHeader id flags (UInt16.ofNat answers.length) nscount arcount).flatMap u16ToBe)
    (replyBody answers rest)
  rw [length_replyHeader, length_wireLabels, ← relayReply_eq] at hname
  rwa [← wireLabels_eq_map_asBytes]

theorem dnsNameEq_of_labels (hlabels : DnsNameLabels queryName labels) :
    dnsNameEq (String.intercalate "." (labels.map DnsLabel.text)) queryName = true := by
  rw [← dotted_zero, dnsNameEq, trimEndMatches_dotted, hlabels.text, eqIgnoreAsciiCase_dotted]
  rfl

/-- A reply to the query passes the checks of its header and question. -/
theorem validateDnsResponse_relayReply (hlabels : DnsNameLabels queryName labels)
    (hcount : answers.length < 65536) :
    validateDnsResponse id queryName amtrelayRrtype
        (relayReply id flags nscount arcount (encodeName (wireLabels labels)) answers rest) =
      .ok (answers.length, dnsHeaderLen + (encodeName (wireLabels labels)).length + 4) := by
  have hname := parseDnsName_of_nameAt
    (nameAt_relayReply id flags nscount arcount answers rest hlabels)
  rw [if_pos (by have := hlabels.length_le; omega)] at hname
  have hsame := dnsNameEq_of_labels hlabels
  generalize hwire : encodeName (wireLabels labels) = wire at hname
  generalize hmessage : relayReply id flags nscount arcount wire answers rest = message at hname
  have hbytes := relayReply_eq id flags nscount arcount answers rest wire
  rw [hmessage] at hbytes
  have hid : readU16 message 0 = .ok id := by
    rw [hbytes]
    exact readU16_flatMap (i := 0) rfl _
  have hflags : readU16 message 2 = .ok flags.flags := by
    rw [hbytes]
    exact readU16_flatMap (i := 1) rfl _
  have hqdcount : readU16 message 4 = .ok 1 := by
    rw [hbytes]
    exact readU16_flatMap (i := 2) rfl _
  have hancount : readU16 message 6 = .ok (UInt16.ofNat answers.length) := by
    rw [hbytes]
    exact readU16_flatMap (i := 3) rfl _
  have hlength : dnsHeaderLen + wire.length + 4 ≤ message.length := by
    rw [hbytes, List.length_append, length_replyHeader, List.length_append, replyBody,
      List.length_append, List.length_append, length_u16ToBe, length_u16ToBe]
    omega
  have htype : readU16 message (dnsHeaderLen + wire.length) = .ok amtrelayRrtype := by
    rw [hbytes, ← List.append_assoc]
    exact readU16_append _ _ (by rw [List.length_append, length_replyHeader])
  have hclass : readU16 message (dnsHeaderLen + wire.length + 2) = .ok dnsClassIn := by
    rw [hbytes, ← List.append_assoc, replyBody, ← List.append_assoc]
    exact readU16_append _ _
      (by rw [List.length_append, List.length_append, length_replyHeader, length_u16ToBe])
  have hgood : ¬ (flags.flags &&& 0x8000 = 0 ∨ flags.flags &&& 0x7800 ≠ 0 ∨
      flags.flags &&& 0x0200 ≠ 0 ∨ flags.flags &&& 0x0040 ≠ 0) := by
    simp [flags.response, flags.opcode, flags.complete, flags.reserved]
  have hcode : (flags.flags &&& 0x000f).toUInt8 = 0 := by
    rw [flags.noError]
    rfl
  rw [validateDnsResponse, ensure_of (by omega), bind_ok, hid, bind_ok, ensure_of rfl, bind_ok,
    hflags, bind_ok, ensure_of hgood, bind_ok, ensure_of hcode, bind_ok, hqdcount, bind_ok,
    ensure_of rfl, bind_ok, hname, bind_ok, ensure_of hlength, bind_ok, ensure_of hsame, bind_ok,
    htype, bind_ok, ensure_of rfl, bind_ok, hclass, bind_ok, ensure_of rfl, bind_ok, hancount,
    bind_ok, UInt16.toNat_ofNat_of_lt' hcount, pure_eq_ok]

/-- Where the answers start. -/
theorem relayReply_eq_answers (wire : Bytes) :
    relayReply id flags nscount arcount wire answers rest =
      ((replyHeader id flags (UInt16.ofNat answers.length) nscount arcount).flatMap u16ToBe ++
        wire ++ u16ToBe amtrelayRrtype ++ u16ToBe dnsClassIn) ++
        (answers.flatMap SentRecord.encode ++ rest) := by
  simp [relayReply]

/-- All records are read, unless the name is too long for a pointer to it. -/
theorem parseDnsResponse_relayReply (hlabels : DnsNameLabels queryName labels)
    (hcount : answers.length < 65536) :
    parseDnsResponse id queryName
        (relayReply id flags nscount arcount (encodeName (wireLabels labels)) answers rest) =
      if labels.length ≤ 126 ∨ answers = [] then
        .ok ⟨answers.filterMap SentRecord.timed, []⟩
      else .err .invalidDnsPointer := by
  have hname := nameAt_relayReply id flags nscount arcount answers rest hlabels
  have hbytes := relayReply_eq_answers id flags nscount arcount answers rest
    (encodeName (wireLabels labels))
  have hstart : dnsHeaderLen + (encodeName (wireLabels labels)).length + 4 =
      ((replyHeader id flags (UInt16.ofNat answers.length) nscount arcount).flatMap u16ToBe ++
        encodeName (wireLabels labels) ++ u16ToBe amtrelayRrtype ++ u16ToBe dnsClassIn).length := by
    rw [List.length_append, List.length_append, List.length_append, length_replyHeader]
    rfl
  rw [parseDnsResponse, validateDnsResponse_relayReply id flags nscount arcount answers rest
    hlabels hcount, bind_ok]
  dsimp only
  rw [hstart]
  by_cases hfew : labels.length ≤ 126
  · obtain ⟨cursor, hanswers⟩ := parseAnswers_sent hname (by omega) (dnsNameEq_of_labels hlabels)
      answers hbytes ⟨[], []⟩
    rw [hanswers, bind_ok, if_pos (.inl hfew)]
    rfl
  · cases answers with
    | nil => rw [if_pos (.inr rfl)]; rfl
    | cons sent answers =>
        rw [List.flatMap_cons, List.append_assoc sent.encode] at hbytes
        have hread := readAnswer_sent sent hname hbytes
        rw [if_neg (by omega)] at hread
        rw [if_neg (by simp [hfew])]
        exact bind_eq_err_iff.mpr (.inl (parseAnswers_succ_of_err hread))

/-- The labels of a name that is written, counted in its text. -/
theorem DnsNameLabels.length_split_le_iff (hlabels : DnsNameLabels queryName labels) :
    (Text.split (trimEndMatches queryName '.') '.').length ≤ 126 ↔ labels.length ≤ 126 := by
  rw [hlabels.text]
  by_cases hnil : labels = []
  · subst hnil
    decide +kernel
  · rw [split_dotted hnil, List.length_map]

/-- A server's reply to a query, with any relay records, is read as exactly the records whose
data is accepted, unless the name has 127 labels and there is an answer. -/
theorem parseDnsResponse_relayReply_iff {queryName : String} {wire : Bytes}
    (hput : putDnsName [] queryName = .ok wire) (id : UInt16) (flags : ReplyFlags)
    (nscount arcount : UInt16) (answers : List SentRecord) (hcount : answers.length < 65536)
    (rest : Bytes) :
    parseDnsResponse id queryName (relayReply id flags nscount arcount wire answers rest) =
        .ok ⟨answers.filterMap SentRecord.timed, []⟩ ↔
      (Text.split (trimEndMatches queryName '.') '.').length ≤ 126 ∨ answers = [] := by
  obtain ⟨labels, hlabels, hwire⟩ := putDnsName_eq_ok_iff.mp hput
  rw [List.nil_append] at hwire
  subst hwire
  rw [parseDnsResponse_relayReply id flags nscount arcount answers rest hlabels hcount,
    hlabels.length_split_le_iff]
  split
  · next hfew => exact ⟨fun _ => hfew, fun _ => rfl⟩
  · next hmany =>
      refine ⟨fun h => ?_, fun h => absurd h hmany⟩
      cases h

theorem parseDnsResponse_two_labels :
    ∃ (flags : ReplyFlags) (sent : SentRecord),
      putDnsName [] "a.a" = .ok [1, 0x61, 1, 0x61, 0] ∧
      sent.timed = some ⟨⟨10, false, .ipv4 (Ipv4Addr.new 192 0 2 1)⟩, Duration.fromSecs 60⟩ ∧
      parseDnsResponse 7 "a.a" (relayReply 7 flags 0 0 [1, 0x61, 1, 0x61, 0] [sent] []) =
        .ok ⟨[sent].filterMap SentRecord.timed, []⟩ := by
  have hput : putDnsName [] "a.a" = .ok [1, 0x61, 1, 0x61, 0] := by decide +kernel
  refine ⟨⟨0x8180, by decide, rfl, rfl, rfl, rfl⟩, ⟨60, [10, 1, 192, 0, 2, 1], by decide⟩, hput,
    rfl, ?_⟩
  exact (parseDnsResponse_relayReply_iff hput 7 _ 0 0 _ (by decide) []).mpr
    (.inl (by decide +kernel))

/-- One record that would be accepted, for the longest name: the reply is refused. -/
theorem parseDnsResponse_longest_refused :
    ∃ (flags : ReplyFlags) (sent : SentRecord) (wire : Bytes),
      putDnsName [] (dotted longestLabels 0) = .ok wire ∧
      sent.timed = some ⟨⟨10, false, .ipv4 (Ipv4Addr.new 192 0 2 1)⟩, Duration.fromSecs 60⟩ ∧
      parseDnsResponse 7 (dotted longestLabels 0) (relayReply 7 flags 0 0 wire [sent] []) =
        .err .invalidDnsPointer := by
  refine ⟨⟨0x8180, by decide, rfl, rfl, rfl, rfl⟩, ⟨60, [10, 1, 192, 0, 2, 1], by decide⟩,
    encodeName (wireLabels longestLabels), putDnsName_of_labels dnsNameLabels_longest [], rfl, ?_⟩
  have hmany : longestLabels.length = 127 := List.length_replicate
  rw [parseDnsResponse_relayReply 7 _ 0 0 _ [] dnsNameLabels_longest (by decide),
    if_neg (by rw [hmany]; simp)]

end Complete

end Amt

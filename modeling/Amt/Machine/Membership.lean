import Amt.Machine
import Amt.Membership.Wire

/-!
# Membership reports and queries on a machine

The parsers of membership packets and the validators of General Queries.

* **The record loop** computes with a record count, source counts and auxiliary lengths of the
  sender.  It reserves a vector only behind a test against the limits and the bytes that are
  left (`agree_parseRecord`, `agree_parseFormatRecords`).
* **The headers** give the offset at which the message starts; the tests before it make the
  slices non-empty and in range.
-/

namespace Amt

namespace Machine

variable {m : Machine} {permits : Allocation → Bool} {protocol : MembershipProtocol}
  {message packet : Bytes} {limits : MembershipParseLimits}

/-! ## Records -/

theorem recordKind_ne_panic (value : UInt8) : recordKind value ≠ .panic := by
  unfold recordKind
  split <;> simp

theorem validateRecord_ne_panic (group : IpAddr) (sources : List IpAddr) :
    validateRecord group sources ≠ .panic := by
  refine Outcome.bind_ne_panic Outcome.ensure_ne_panic fun _ _ => ?_
  split
  · split <;> simp
  · simp

theorem validateRecords_ne_panic (records : List MembershipRecord) :
    validateRecords records ≠ .panic := by
  induction records with
  | nil => simp [validateRecords]
  | cons record records ih =>
      exact Outcome.bind_ne_panic (validateRecord_ne_panic _ _) fun _ _ => ih

theorem addressLen_bounds (protocol : MembershipProtocol) :
    4 ≤ protocol.format.addressLen ∧ protocol.format.addressLen ≤ 16 := by
  cases protocol with
  | igmpv3 => decide
  | mldv2 => decide

theorem agree_read (h : m.Addressable message) {offset : ℕ}
    (hroom : offset + protocol.format.addressLen ≤ message.length) :
    m.Agrees permits (protocol.format.read message offset) fun _ => True := by
  cases protocol with
  | igmpv3 => exact .bind (agree_readIpv4 h hroom) fun _ _ => .ok trivial
  | mldv2 => exact .bind (agree_readIpv6 h hroom) fun _ _ => .ok trivial

theorem agree_readSources (h : m.Addressable message) {count : ℕ} :
    ∀ {offset : ℕ}, offset + count * protocol.format.addressLen ≤ message.length →
      m.Agrees permits (readSources protocol.format message count offset) fun _ => True := by
  induction count with
  | zero => exact fun _ => .ok trivial
  | succ count ih =>
      intro offset hroom
      rw [Nat.succ_mul] at hroom
      refine agree_fits (h.add_le (n := offset) (k := 0) (by omega) (by omega)) ?_
      refine .bind (agree_read h (by omega)) fun _ _ => ?_
      exact .bind (ih (by omega)) fun _ _ => .ok trivial

/-- **One record**: its sources are reserved behind the test that the message holds them. -/
theorem agree_parseRecord (h : m.Addressable message)
    (hpermits : Permits permits limits message.length) {offset : ℕ}
    (hoffset : offset ≤ message.length) :
    m.Agrees permits (parseRecord protocol.format message limits offset)
      fun parsed => parsed.2 ≤ message.length := by
  have hheader : protocol.format.recordHeaderLen = 4 + protocol.format.addressLen := rfl
  have haddress := addressLen_bounds protocol
  have hadd (k : ℕ) (hk : k ≤ 2 ^ 31 - 1) := h.add_le hoffset hk
  refine .bind (.sliceFrom hoffset) fun rest hrest => .ensure fun hhead => ?_
  refine .bind (.byteAt (by omega)) fun kindByte _ => ?_
  refine .bind (.same (recordKind_ne_panic _)) fun kind _ => ?_
  refine agree_fits (hadd 4 (by omega)) (.bind (.byteAt (by omega)) fun aux _ => ?_)
  have haux : aux.toNat < 256 := aux.toNat_lt
  refine agree_fits (le_usizeMax (by omega)) ?_
  refine .bind (.u16At (by omega)) fun count hcount => .ensure fun hlimit => ?_
  refine .bind (agree_read h (by omega)) fun group _ => agree_fits (hadd _ (by omega)) ?_
  -- 65535 IPv6 sources are less than two MiB
  have hfew : count.toNat * 4 ≤ count.toNat * protocol.format.addressLen :=
    Nat.mul_le_mul_left _ haddress.1
  have hmany : count.toNat * protocol.format.addressLen ≤ 65535 * 16 :=
    Nat.mul_le_mul (by omega) haddress.2
  refine agree_fits (le_usizeMax (by omega)) ?_
  refine .bind (.sliceFrom hoffset) fun rest hrest => .ensure fun hrecord => ?_
  refine agree_reserve (hpermits.sources hlimit (by omega)) ?_
  refine .bind (agree_readSources h (by omega)) fun sources _ => ?_
  refine .bind (.same (validateRecord_ne_panic _ _)) fun _ _ => ?_
  exact agree_fits (hadd _ (by omega)) (.ok (by dsimp only; omega))

theorem agree_parseRecordLoop (h : m.Addressable message)
    (hpermits : Permits permits limits message.length) {count : ℕ} :
    ∀ {offset : ℕ}, offset ≤ message.length →
      m.Agrees permits (parseRecordLoop protocol.format message limits count offset)
        fun _ => True := by
  induction count with
  | zero => exact fun _ => .ok trivial
  | succ count ih =>
      intro offset hoffset
      refine .bind (agree_parseRecord h hpermits hoffset) fun parsed hnext => ?_
      exact .bind (ih hnext) fun _ _ => .ok trivial

/-- **The records**: their vector is reserved behind the test that the message can hold them. -/
theorem agree_parseFormatRecords (protocol : MembershipProtocol) (h : m.Addressable message)
    (hpermits : Permits permits limits message.length) :
    m.Agrees permits (parseFormatRecords protocol.format message limits) fun _ => True := by
  have hheader : protocol.format.recordHeaderLen = 4 + protocol.format.addressLen := rfl
  have haddress := addressLen_bounds protocol
  refine .ensure fun hlen => ?_
  refine .bind (.u16At (by omega)) fun count hcount => .ensure fun hlimit => ?_
  have hmany : count.toNat * protocol.format.recordHeaderLen ≤ 65535 * 20 :=
    Nat.mul_le_mul (by omega) (by omega)
  dsimp only
  rw [saturate_of_le (le_usizeMax (by omega))]
  refine agree_fits (le_usizeMax (by omega)) (.ensure fun hroom => ?_)
  have hfit : count.toNat * protocol.format.recordHeaderLen ≤ message.length - 8 :=
    (Nat.le_div_iff_mul_le (by omega)).mp (not_lt.mp hroom)
  have hfew : count.toNat * 8 ≤ count.toNat * protocol.format.recordHeaderLen :=
    Nat.mul_le_mul_left _ (by omega)
  refine agree_reserve (hpermits.records hlimit (by omega)) ?_
  refine .bind (agree_parseRecordLoop h hpermits (not_lt.mp hlen)) fun _ _ => ?_
  exact .ensure fun _ => .ok trivial

/-! ## Reports -/

theorem agree_parseIgmpRecords (h : m.Addressable message)
    (hpermits : Permits permits limits message.length) (hlen : 8 ≤ message.length)
    (destination : Ipv4Addr) :
    m.Agrees permits (parseIgmpRecords message destination limits) fun _ => True := by
  refine .bind (.byteAt (by omega)) fun kind _ => ?_
  split
  · refine .ensure fun _ => .bind (agree_readIpv4 h hlen) fun group _ => ?_
    exact .ensure fun _ => .ok trivial
  · refine .ensure fun _ => .ensure fun _ => ?_
    exact .bind (agree_readIpv4 h hlen) fun _ _ => .ok trivial
  · exact .ensure fun _ => agree_parseFormatRecords .igmpv3 h hpermits
  · exact .err _

theorem agree_parseMldRecords (h : m.Addressable message)
    (hpermits : Permits permits limits message.length) (hlen : 8 ≤ message.length)
    (destination : Ipv6Addr) :
    m.Agrees permits (parseMldRecords message destination limits) fun _ => True := by
  refine .bind (.byteAt (by omega)) fun kind _ => ?_
  split
  · refine .ensure fun hexact => ?_
    refine .bind (agree_readIpv6 h (by omega)) fun group _ => ?_
    exact .ensure fun _ => .ok trivial
  · refine .ensure fun hexact => .ensure fun _ => ?_
    exact .bind (agree_readIpv6 h (by omega)) fun _ _ => .ok trivial
  · exact .ensure fun _ => agree_parseFormatRecords .mldv2 h hpermits
  · exact .err _

theorem agree_parseIpv4MembershipReport (h : m.Addressable packet)
    (hpermits : Permits permits limits packet.length) :
    m.Agrees permits (parseIpv4MembershipReport packet limits) fun _ => True := by
  refine .ensure fun hlen => ?_
  have hmin : ipv4MinHeaderLen = 20 := rfl
  refine .bind (.byteAt (by omega)) fun first _ => ?_
  have hihl := ihl_le first
  dsimp only
  generalize (first &&& 0x0f).toNat * 4 = ihl at hihl ⊢
  refine agree_fits (le_usizeMax (by omega)) (.ensure fun hihlMin => ?_)
  refine .ensure fun hheader => .bind (.u16At (by omega)) fun total _ => ?_
  refine .ensure fun htotal => ?_
  refine .bind (.byteAt (by omega)) fun _ _ => .ensure fun _ => ?_
  refine .bind (.byteAt (by omega)) fun _ _ => .ensure fun _ => ?_
  refine .bind (.u16At (by omega)) fun _ _ => .ensure fun _ => ?_
  refine .bind (agree_readIpv4 h (by omega)) fun source _ => .ensure fun _ => ?_
  -- a header without options has no Router Alert
  refine .ite (fun _ => .bind (Q := (· = false)) (.ok rfl) fun alert halert => ?_) fun _ => ?_
  · exact .ensure fun hset => absurd (halert.symm.trans hset) Bool.false_ne_true
  refine .bind (.slice (by omega) (by omega)) fun options hoptions => ?_
  refine .bind (agree_hasIpv4RouterAlert (h.of_length_le (by omega))) fun alert _ => ?_
  refine .ensure fun _ => .bind (.slice (by omega) (by omega)) fun header _ => ?_
  refine agree_sumFits (.ensure fun _ => ?_)
  refine .bind (.slice (by omega) (by omega)) fun igmp higmp => .ensure fun hroom => ?_
  refine agree_sumFits (.ensure fun _ => ?_)
  refine .bind (agree_readIpv4 h (by omega)) fun destination _ => ?_
  refine .bind (agree_parseIgmpRecords (h.of_length_le (by omega)) (hpermits.mono (by omega))
    (not_lt.mp hroom) destination) fun records _ => ?_
  exact .bind (.same (validateRecords_ne_panic _)) fun _ _ => .ok trivial

/-- The hop-by-hop header: behind it the message starts, within the packet. -/
theorem agree_parseHopByHop (h : m.Addressable packet) {totalLen : ℕ}
    (hheader : ipv6HeaderLen ≤ totalLen) (htotal : totalLen ≤ packet.length) :
    m.Agrees permits (parseHopByHop packet totalLen) fun parsed => parsed.2.1 ≤ totalLen := by
  have hmin : ipv6HeaderLen = 40 := rfl
  refine .bind (.byteAt (by omega)) fun nextHeader _ => ?_
  refine .ite (fun _ => ?_) fun _ => .ok hheader
  refine .bind (.slice hheader htotal) fun rest hrest => .ensure fun hroom => ?_
  refine .bind (.byteAt (by omega)) fun next _ => .bind (.byteAt (by omega)) fun extension _ => ?_
  have hextension : extension.toNat < 256 := extension.toNat_lt
  refine agree_fits (le_usizeMax (by omega)) ?_
  refine .bind (.slice hheader htotal) fun rest hrest => .ensure fun hroom => ?_
  refine .bind (.slice (by omega) (by omega)) fun options hoptions => ?_
  refine .bind (agree_hasIpv6RouterAlert (h.of_length_le (by omega))) fun alert _ => .ok ?_
  dsimp only
  omega

theorem agree_parseIpv6MembershipReport (h : m.Addressable packet)
    (hpermits : Permits permits limits packet.length) :
    m.Agrees permits (parseIpv6MembershipReport packet limits) fun _ => True := by
  refine .ensure fun hlen => ?_
  have hmin : ipv6HeaderLen = 40 := rfl
  refine .bind (.u16At (by omega)) fun payload hpayload => ?_
  refine agree_fits (le_usizeMax (by omega)) (.ensure fun htotal => ?_)
  refine .bind (.byteAt (by omega)) fun _ _ => .ensure fun _ => ?_
  refine .bind (agree_readIpv6 h (by omega)) fun source _ => .ensure fun _ => ?_
  refine .bind (agree_readIpv6 h (by omega)) fun destination _ => ?_
  refine .bind (agree_parseHopByHop h (by omega) (by omega)) fun parsed hoffset => ?_
  obtain ⟨nextHeader, offset, alert⟩ := parsed
  refine .ensure fun _ => .ensure fun _ => ?_
  refine .bind (.slice hoffset (by omega)) fun icmp hicmp => .ensure fun hroom => ?_
  refine agree_sumFits (.ensure fun _ => ?_)
  refine .bind (agree_parseMldRecords (h.of_length_le (by omega)) (hpermits.mono (by omega))
    (not_lt.mp hroom) destination) fun records _ => ?_
  exact .bind (.same (validateRecords_ne_panic _)) fun _ _ => .ok trivial

/-- **Membership reports are safe**, with vectors within the limits and the packet. -/
theorem agree_parseMembershipReportWithLimits (h : m.Addressable packet)
    (hpermits : Permits permits limits packet.length) :
    m.Agrees permits (parseMembershipReportWithLimits packet limits) fun _ => True := by
  unfold parseMembershipReportWithLimits
  cases packet.head? with
  | none => exact .err _
  | some first =>
      dsimp only
      split
      · exact agree_parseIpv4MembershipReport h hpermits
      · exact agree_parseIpv6MembershipReport h hpermits
      · exact .err _

/-! ## General Queries -/

theorem agree_validateIgmpv3GeneralQuery (h : m.Addressable packet) :
    m.Agrees permits (validateIgmpv3GeneralQuery packet)
      fun parsed => parsed.2 ≤ packet.length := by
  have hheaderLen : queryIpv4HeaderLen = 24 := rfl
  have hqueryLen : igmpv3QueryLen = 12 := rfl
  unfold validateIgmpv3GeneralQuery
  cases packet.head? with
  | none => exact .err _
  | some first =>
      refine .bind (Q := fun _ => True) (.ok trivial) fun first _ => ?_
      refine .ensure fun _ => .ensure fun hlen => .bind (.byteAt (by omega)) fun first _ => ?_
      have hihl := ihl_le first
      dsimp only
      generalize (first &&& 0x0f).toNat * 4 = ihl at hihl ⊢
      refine agree_fits (le_usizeMax (by omega)) (.ensure fun hheader => ?_)
      refine .bind (.u16At (by omega)) fun total _ => .ensure fun htotal => ?_
      refine .bind (.byteAt (by omega)) fun _ _ => .ensure fun _ => ?_
      refine .bind (.byteAt (by omega)) fun _ _ => .ensure fun _ => ?_
      refine .bind (.u16At (by omega)) fun _ _ => .ensure fun _ => ?_
      refine .bind (.slice (by omega) (by omega)) fun _ _ => .ensure fun _ => ?_
      refine .bind (.slice (by omega) (by omega)) fun options hoptions => ?_
      refine .bind (agree_hasIpv4RouterAlert (h.of_length_le (by omega))) fun _ _ => ?_
      refine .ensure fun _ => .bind (agree_readIpv4 h (by omega)) fun source _ => ?_
      refine .ensure fun _ => .bind (.slice (by omega) (by omega)) fun header _ => ?_
      refine agree_sumFits (.ensure fun _ => ?_)
      refine .bind (.slice (by omega) (by omega)) fun igmp higmp => ?_
      refine .bind (.byteAt (by omega)) fun _ _ => .ensure fun _ => ?_
      refine .bind (.slice (by omega) (by omega)) fun _ _ => .ensure fun _ => ?_
      refine .bind (.u16At (by omega)) fun _ _ => .ensure fun _ => ?_
      refine agree_sumFits (.ensure fun _ => ?_)
      exact .bind (.byteAt (by omega)) fun _ _ => .ok (by dsimp only; omega)

theorem agree_validateMldv2GeneralQuery (h : m.Addressable packet) :
    m.Agrees permits (validateMldv2GeneralQuery packet) fun parsed => parsed.2 ≤ packet.length := by
  have hheaderLen : ipv6HeaderLen = 40 := rfl
  have hoptionsLen : ipv6HopByHopLen = 8 := rfl
  have hqueryLen : mldv2QueryLen = 28 := rfl
  unfold validateMldv2GeneralQuery
  cases packet.head? with
  | none => exact .err _
  | some first =>
      refine .bind (Q := fun _ => True) (.ok trivial) fun first _ => ?_
      refine .ensure fun _ => .ensure fun hlen => .bind (.u16At (by omega)) fun payload _ => ?_
      refine agree_fits (le_usizeMax (by omega)) (.ensure fun htotal => ?_)
      refine .bind (.byteAt (by omega)) fun _ _ => .ensure fun _ => ?_
      refine .bind (.byteAt (by omega)) fun _ _ => .ensure fun _ => ?_
      refine .bind (.slice (by omega) (by omega)) fun _ _ => .ensure fun _ => ?_
      refine .bind (.byteAt (by omega)) fun _ _ => .ensure fun _ => ?_
      refine .bind (.slice (by omega) (by omega)) fun options hoptions => ?_
      refine .bind (agree_hasIpv6RouterAlert (h.of_length_le (by omega))) fun _ _ => ?_
      refine .ensure fun _ => .bind (agree_readIpv6 h (by omega)) fun source _ => ?_
      refine .ensure fun _ => .bind (.slice (by omega) (by omega)) fun mld hmld => ?_
      refine .bind (.byteAt (by omega)) fun _ _ => .ensure fun _ => ?_
      refine .bind (.byteAt (by omega)) fun _ _ => .ensure fun _ => ?_
      refine .bind (.slice (by omega) (by omega)) fun _ _ => .ensure fun _ => ?_
      refine .bind (.u16At (by omega)) fun _ _ => .ensure fun _ => ?_
      refine agree_sumFits (.ensure fun _ => ?_)
      exact .bind (.byteAt (by omega)) fun _ _ => .ok (by dsimp only; omega)

/-- **Queries are safe.** -/
theorem agree_validatedGeneralQuery (h : m.Addressable packet) (protocol : MembershipProtocol) :
    m.Agrees permits (validatedGeneralQuery protocol packet) fun _ => True := by
  cases protocol with
  | igmpv3 =>
      refine .bind (agree_validateIgmpv3GeneralQuery h) fun ⟨code, datagramLen⟩ hlen => ?_
      exact agree_intervalFits (.bind (.slice (Nat.zero_le _) hlen) fun _ _ => .ok trivial)
  | mldv2 =>
      refine .bind (agree_validateMldv2GeneralQuery h) fun ⟨code, datagramLen⟩ hlen => ?_
      exact agree_intervalFits (.bind (.slice (Nat.zero_le _) hlen) fun _ _ => .ok trivial)

end Machine

end Amt

import Amt.Lib.Options
import Amt.Ip

/-!
# The Router Alert scans

Membership packets are only accepted with a Router Alert, an option of the IPv4 header or of an
IPv6 hop-by-hop header.  The two scans of the source walk over the options by their lengths.
Here they are related to the grammar of the options: both are `OptionFormat.find` at their
format (`ipv4RouterAlertFrom_eq`, `ipv6RouterAlertFrom_eq`), so they return on all bytes, they
find a Router Alert exactly where the grammar has one, and not inside the value of another
option.
-/

namespace Amt

open Outcome (bind_ok)
open Target (representable fits_of_le)

variable {ε : Type*}

/-- IPv4: No-Op is a single byte, type 0 ends the list, and a length counts the whole option. -/
def ipv4OptionFormat : OptionFormat where
  pad := 1
  stop := some 0
  overhead := 2

/-- IPv6: Pad1 is a single byte, and a length counts the value. -/
def ipv6OptionFormat : OptionFormat where
  pad := 0
  stop := none
  overhead := 0

/-- An option of the type `kind` with the value 0. -/
def OptionItem.isAlert {format : OptionFormat} (kind : UInt8) : OptionItem format → Bool
  | pad => false
  | tlv kind' value _ _ _ => kind' == kind && value == [0, 0]

theorem OptionItem.isAlert_iff {format : OptionFormat} {kind : UInt8} {item : OptionItem format} :
    item.isAlert kind = true ↔ item.bytes = [kind, UInt8.ofNat (2 + format.overhead), 0, 0] := by
  cases item with
  | pad => simp [isAlert, bytes]
  | tlv kind' value hpad' hstop' hlength' =>
      rw [isAlert, bytes, Bool.and_eq_true, beq_iff_eq, beq_iff_eq]
      constructor
      · rintro ⟨rfl, rfl⟩
        rfl
      · intro h
        obtain ⟨hkind, hvalue⟩ := List.cons.inj h
        exact ⟨hkind, (List.cons.inj hvalue).2⟩

theorem drop_eq_of_getElem? {bytes : Bytes} {i : ℕ} {b : UInt8} (hb : bytes[i]? = some b) :
    bytes.drop i = b :: bytes.drop (i + 1) := by
  obtain ⟨hi, rfl⟩ := List.getElem?_eq_some_iff.mp hb
  exact List.drop_eq_getElem_cons hi

/-! ## The scans -/

section Scan

variable (format : OptionFormat) {options : Bytes} {offset : ℕ} {kind lengthByte alertKind : UInt8}

theorem find_drop_of_le {test : OptionItem format → Bool} (h : options.length ≤ offset) :
    format.find test (options.drop offset) = false := by
  rw [List.drop_eq_nil_of_le h, OptionFormat.find_of_next_none rfl]

/-- A padding byte is passed over. -/
theorem find_isAlert_pad (hkind : options[offset]? = some format.pad) :
    format.find (OptionItem.isAlert alertKind) (options.drop offset) =
      format.find (OptionItem.isAlert alertKind) (options.drop (offset + 1)) := by
  rw [drop_eq_of_getElem? hkind, OptionFormat.find_of_next_some (OptionFormat.next_pad _),
    OptionItem.isAlert, Bool.false_or]

/-- An option without a length, or one that does not fit, ends the scan. -/
theorem find_isAlert_cut (hkind : options[offset]? = some kind) (hpad : kind ≠ format.pad)
    (hcut : ∀ lengthByte, options[offset + 1]? = some lengthByte →
      lengthByte.toNat < format.overhead ∨
        options.length + format.overhead < offset + 2 + lengthByte.toNat) :
    format.find (OptionItem.isAlert alertKind) (options.drop offset) = false := by
  rw [drop_eq_of_getElem? hkind]
  cases hsecond : options[offset + 1]? with
  | none =>
      rw [List.drop_eq_nil_of_le (List.getElem?_eq_none_iff.mp hsecond),
        OptionFormat.find_of_next_none (OptionFormat.next_singleton hpad)]
  | some lengthByte =>
      have hcut := hcut lengthByte hsecond
      have hlt := (List.getElem?_eq_some_iff.mp hsecond).1
      have hfits : ¬ (format.overhead ≤ lengthByte.toNat ∧
          lengthByte.toNat - format.overhead ≤ (options.drop (offset + 1 + 1)).length) := by
        rw [List.length_drop]
        omega
      rw [drop_eq_of_getElem? hsecond,
        OptionFormat.find_of_next_none (OptionFormat.next_of_not_fits hpad hfits)]

section Option

variable {valueLen : ℕ} (hkind : options[offset]? = some kind)
  (hlengthByte : options[offset + 1]? = some lengthByte) (hpad : kind ≠ format.pad)
  (hstop : format.stop ≠ some kind) (hvalueLen : lengthByte.toNat = valueLen + format.overhead)
  (hroom : offset + 2 + valueLen ≤ options.length)

include hkind hlengthByte hpad hstop hvalueLen hroom

/-- **One option of a scan**: the value is compared if the type is the one looked for, and the
scan goes on behind the value. -/
theorem find_isAlert_option :
    format.find (OptionItem.isAlert alertKind) (options.drop offset) =
      (kind == alertKind && (options.take (offset + 2 + valueLen)).drop (offset + 2) == [0, 0] ||
        format.find (OptionItem.isAlert alertKind) (options.drop (offset + 2 + valueLen))) := by
  have hcount : lengthByte.toNat - format.overhead = valueLen := by omega
  have hfits : format.overhead ≤ lengthByte.toNat ∧
      lengthByte.toNat - format.overhead ≤ (options.drop (offset + 1 + 1)).length := by
    rw [hcount, List.length_drop]
    omega
  rw [drop_eq_of_getElem? hkind, drop_eq_of_getElem? hlengthByte,
    OptionFormat.find_of_next_some (OptionFormat.next_of_fits hpad hstop hfits),
    OptionItem.isAlert, hcount, List.drop_drop, List.drop_take, Nat.add_sub_cancel_left]

/-- The value is read and compared; the scan goes on if it is not 0. -/
theorem find_isAlert_read (halert : kind = alertKind) {goOn : Bool → Outcome ε Bool}
    (hfound : goOn true = .ok true) (hrest : goOn false =
      .ok (format.find (OptionItem.isAlert alertKind) (options.drop (offset + 2 + valueLen)))) :
    ((· == [0, 0]) <$> slice options (offset + 2) (offset + 2 + valueLen)) >>= goOn =
      .ok (format.find (OptionItem.isAlert alertKind) (options.drop offset)) := by
  have hread : (slice options (offset + 2) (offset + 2 + valueLen) : Outcome ε Bytes) =
      .ok ((options.take (offset + 2 + valueLen)).drop (offset + 2)) :=
    slice_of (by omega) hroom
  rw [hread, Outcome.map_ok, Outcome.bind_ok, find_isAlert_option format hkind hlengthByte
    hpad hstop hvalueLen hroom, halert, beq_self_eq_true, Bool.true_and]
  cases (options.take (offset + 2 + valueLen)).drop (offset + 2) == [0, 0] with
  | true => exact hfound
  | false => exact hrest

/-- An option of another type or length is passed over. -/
theorem find_isAlert_other (hother : ¬ (kind = alertKind ∧ valueLen = 2)) :
    format.find (OptionItem.isAlert alertKind) (options.drop offset) =
      format.find (OptionItem.isAlert alertKind) (options.drop (offset + 2 + valueLen)) := by
  rw [find_isAlert_option format hkind hlengthByte hpad hstop hvalueLen hroom,
    Bool.or_eq_right_iff_imp, Bool.and_eq_true, beq_iff_eq, beq_iff_eq]
  rintro ⟨halert, hvalue⟩
  have hlength := congrArg List.length hvalue
  rw [List.length_drop, List.length_take, List.length_cons, List.length_singleton] at hlength
  exact absurd ⟨halert, by omega⟩ hother

end Option

end Scan

/-- **The IPv4 scan looks for an option**, from any boundary on, where no offset overflows. -/
theorem ipv4RouterAlertFrom_eq [Target] {options : Bytes}
    (hfits : representable (options.length + 256) = true) (offset : ℕ) :
    (ipv4RouterAlertFrom options offset : Outcome ε Bool) =
      .ok (ipv4OptionFormat.find (OptionItem.isAlert 0x94) (options.drop offset)) := by
  fun_induction ipv4RouterAlertFrom (ε := ε) options offset with
  | case1 offset hoffset ihpad ihoption =>
      have hfirst := List.getElem?_eq_getElem hoffset
      rw [fits_of_le hfits (by omega), bind_ok]
      split
      · next hkind =>
        have hkind : options[offset] = 0 := hkind
        rw [List.drop_eq_getElem_cons hoffset, hkind,
          OptionFormat.find_of_next_none (OptionFormat.next_stop (by decide) rfl)]
      · next hkind =>
        rw [ihpad, find_isAlert_pad ipv4OptionFormat (List.getElem?_eq_some_iff.mpr ⟨_, hkind⟩)]
      · next hzero hone =>
        cases hsecond : options[offset + 1]? with
        | none => rw [find_isAlert_cut ipv4OptionFormat hfirst hone (by simp [hsecond])]
        | some lengthByte =>
            have hbyte : lengthByte.toNat < 256 := lengthByte.toNat_lt
            dsimp only
            rw [fits_of_le hfits (by omega), bind_ok]
            by_cases hlength : lengthByte.toNat < 2 ∨ offset + lengthByte.toNat > options.length
            · rw [dif_pos hlength, find_isAlert_cut ipv4OptionFormat hfirst hone]
              intro other hother
              obtain rfl := Option.some.inj (hsecond.symm.trans hother)
              exact hlength.imp_right fun h => by
                rw [Nat.add_right_comm]
                exact Nat.add_lt_add_right h 2
            have hvalueLen : lengthByte.toNat = lengthByte.toNat - 2 + 2 := by omega
            have hbehind : offset + lengthByte.toNat = offset + 2 + (lengthByte.toNat - 2) := by
              omega
            have hstop : ipv4OptionFormat.stop ≠ some options[offset] :=
              fun h => hzero (Option.some.inj h).symm
            have hrest := ihoption lengthByte hlength
            rw [dif_neg hlength]
            split
            · next halert =>
              have hfour : lengthByte.toNat = 2 + 2 := halert.2
              rw [hfour] at hrest ⊢
              exact find_isAlert_read ipv4OptionFormat hfirst hsecond hone hstop hfour (by omega)
                halert.1 rfl hrest
            · next halert =>
              rw [find_isAlert_other ipv4OptionFormat hfirst hsecond hone hstop hvalueLen
                (by omega) fun h => halert ⟨h.1, by omega⟩, ← hbehind]
              exact hrest
  | case2 offset hoffset => rw [find_drop_of_le _ (not_lt.mp hoffset)]

/-- **The IPv6 scan looks for an option**, from any boundary on, where no offset overflows. -/
theorem ipv6RouterAlertFrom_eq [Target] {options : Bytes}
    (hfits : representable (options.length + 256) = true) (offset : ℕ) :
    (ipv6RouterAlertFrom options offset : Outcome ε Bool) =
      .ok (ipv6OptionFormat.find (OptionItem.isAlert 5) (options.drop offset)) := by
  fun_induction ipv6RouterAlertFrom (ε := ε) options offset with
  | case1 offset hoffset ihpad ihoption =>
      have hfirst := List.getElem?_eq_getElem hoffset
      rw [fits_of_le hfits (by omega), bind_ok]
      dsimp only
      by_cases hkind : options.get ⟨offset, hoffset⟩ = 0
      · rw [if_pos hkind, ihpad,
          find_isAlert_pad ipv6OptionFormat (List.getElem?_eq_some_iff.mpr ⟨_, hkind⟩)]
      rw [if_neg hkind]
      cases hsecond : options[offset + 1]? with
      | none => rw [find_isAlert_cut ipv6OptionFormat hfirst hkind (by simp [hsecond])]
      | some lengthByte =>
          have hbyte : lengthByte.toNat < 256 := lengthByte.toNat_lt
          dsimp only
          rw [fits_of_le hfits (by omega), bind_ok]
          by_cases hend : offset + 2 + lengthByte.toNat > options.length
          · rw [if_pos hend, find_isAlert_cut ipv6OptionFormat hfirst hkind]
            intro other hother
            obtain rfl := Option.some.inj (hsecond.symm.trans hother)
            exact .inr hend
          have hrest := ihoption lengthByte hend
          have hstop : ipv6OptionFormat.stop ≠ some options[offset] :=
            (Option.some_ne_none _).symm
          rw [if_neg hend]
          split
          · next halert =>
            exact find_isAlert_read ipv6OptionFormat hfirst hsecond hkind hstop rfl
              (not_lt.mp hend) halert.1 rfl hrest
          · next halert =>
            rw [find_isAlert_other ipv6OptionFormat hfirst hsecond hkind hstop rfl
              (not_lt.mp hend) fun h => halert ⟨h.1, UInt8.toNat_inj.mp h.2⟩]
            exact hrest
  | case2 offset hoffset => rw [find_drop_of_le _ (not_lt.mp hoffset)]

/-! ## The grammar -/

section Grammar

variable {format : OptionFormat} {kind : UInt8}

/-- A Router Alert is there if the bytes are options up to it. -/
theorem find_isAlert_iff (hpad : kind ≠ format.pad) (hstop : format.stop ≠ some kind)
    (hlength : 2 + format.overhead < 256) {options : Bytes} :
    format.find (OptionItem.isAlert kind) options = true ↔
      ∃ (before : List (OptionItem format)) (rest : Bytes), options =
        before.flatMap OptionItem.bytes ++
          ([kind, UInt8.ofNat (2 + format.overhead), 0, 0] ++ rest) := by
  rw [OptionFormat.find_eq_true_iff]
  constructor
  · rintro ⟨before, item, rest, halert, rfl⟩
    refine ⟨before, rest, ?_⟩
    rw [OptionItem.isAlert_iff.mp halert]
  · rintro ⟨before, rest, rfl⟩
    have halert : (OptionItem.tlv kind [0, 0] hpad hstop hlength : OptionItem format).isAlert kind
        = true := OptionItem.isAlert_iff.mpr rfl
    exact ⟨before, _, rest, halert, rfl⟩

theorem isAlert_eq_false {items : List (OptionItem format)}
    (h : ∀ item ∈ items, item.bytes ≠ [kind, UInt8.ofNat (2 + format.overhead), 0, 0]) :
    ∀ item ∈ items, item.isAlert kind = false := by
  intro item hitem
  rw [Bool.eq_false_iff]
  exact mt OptionItem.isAlert_iff.mp (h item hitem)

end Grammar

/-- **The Router Alert scans**: for all option bytes they return, and they return true exactly
if the bytes are well-formed options up to a Router Alert; and a list of options none of which is
a Router Alert has none, whatever the values of its options are. -/
theorem routerAlert_scans (options : Bytes) :
    ((hasIpv4RouterAlert options : Outcome ε Bool) = .ok true ↔
      ∃ (before : List (OptionItem ipv4OptionFormat)) (rest : Bytes),
        options = before.flatMap OptionItem.bytes ++ ([0x94, 4, 0, 0] ++ rest)) ∧
    ((hasIpv6RouterAlert options : Outcome ε Bool) = .ok true ↔
      ∃ (before : List (OptionItem ipv6OptionFormat)) (rest : Bytes),
        options = before.flatMap OptionItem.bytes ++ ([5, 2, 0, 0] ++ rest)) ∧
    (∃ found, (hasIpv4RouterAlert options : Outcome ε Bool) = .ok found) ∧
    (∃ found, (hasIpv6RouterAlert options : Outcome ε Bool) = .ok found) ∧
    (∀ (items : List (OptionItem ipv4OptionFormat)) (tail : Bytes),
      (∀ item ∈ items, item.bytes ≠ [0x94, 4, 0, 0]) → (tail = [] ∨ tail.head? = some 0) →
        options = items.flatMap OptionItem.bytes ++ tail →
          (hasIpv4RouterAlert options : Outcome ε Bool) = .ok false) ∧
    ∀ items : List (OptionItem ipv6OptionFormat), (∀ item ∈ items, item.bytes ≠ [5, 2, 0, 0]) →
      options = items.flatMap OptionItem.bytes →
        (hasIpv6RouterAlert options : Outcome ε Bool) = .ok false := by
  have hfour : (hasIpv4RouterAlert options : Outcome ε Bool) =
      .ok (ipv4OptionFormat.find (OptionItem.isAlert 0x94) options) :=
    ipv4RouterAlertFrom_eq rfl 0
  have hsix : (hasIpv6RouterAlert options : Outcome ε Bool) =
      .ok (ipv6OptionFormat.find (OptionItem.isAlert 5) options) :=
    ipv6RouterAlertFrom_eq rfl 0
  refine ⟨?_, ?_, ⟨_, hfour⟩, ⟨_, hsix⟩, ?_, ?_⟩
  · rw [hfour, Outcome.ok.injEq]
    exact find_isAlert_iff (by decide) (by decide) (by decide)
  · rw [hsix, Outcome.ok.injEq]
    exact find_isAlert_iff (by decide) (by decide) (by decide)
  · rintro items tail hitems htail rfl
    have hend : ipv4OptionFormat.next tail = none := by
      obtain rfl | hstop := htail
      · rfl
      · obtain ⟨rest, rfl⟩ := List.head?_eq_some_iff.mp hstop
        exact OptionFormat.next_stop (by decide) rfl
    rw [hfour, OptionFormat.find_flatMap_eq_false (isAlert_eq_false hitems) hend]
  · rintro items hitems rfl
    have hnone : ipv6OptionFormat.find (OptionItem.isAlert 5)
        (items.flatMap OptionItem.bytes ++ []) = false :=
      OptionFormat.find_flatMap_eq_false (isAlert_eq_false hitems) rfl
    rw [List.append_nil] at hnone
    rw [hsix, hnone]

end Amt

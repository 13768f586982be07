import Amt.Lib.Bytes

/-!
# Sequences of options

Protocol headers end in a sequence of options of different lengths.  An option is a single
padding byte, or a type, a length and a value; some formats have a type that ends the sequence.
Formats differ in these bytes and in what the length counts (`OptionFormat`).

* **The grammar.**  `OptionItem` is one option, with its well-formedness; `OptionItem.bytes` is
  how it is written.
* **Reading one option** (`OptionFormat.next`) inverts writing it (`next_eq_some_iff`), so that a
  byte string is a sequence of options in at most one way.
* **Looking for an option** (`OptionFormat.find`) goes from boundary to boundary.  It finds one
  exactly if the bytes are options up to one that is looked for (`find_eq_true_iff`); what
  stands inside the value of another option is never looked at (`find_flatMap_eq_false`).
-/

namespace Amt

/-- What formats of options differ in. -/
structure OptionFormat where
  /-- The option that is a single byte. -/
  pad : UInt8
  /-- The type that ends the sequence, if there is one. -/
  stop : Option UInt8
  /-- The bytes that a length counts besides the value. -/
  overhead : ℕ

/-- **A well-formed option** of a format, other than the end of the sequence. -/
inductive OptionItem (format : OptionFormat) where
  | pad
  | tlv (kind : UInt8) (value : Bytes) (hpad : kind ≠ format.pad)
      (hstop : format.stop ≠ some kind) (hlength : value.length + format.overhead < 256)

namespace OptionItem

variable {format : OptionFormat}

/-- The option on the wire. -/
def bytes : OptionItem format → Bytes
  | pad => [format.pad]
  | tlv kind value _ _ _ => kind :: UInt8.ofNat (value.length + format.overhead) :: value

end OptionItem

namespace OptionFormat

variable (format : OptionFormat)

theorem length_take_lt (length : UInt8) (rest : Bytes)
    (hlength : format.overhead ≤ length.toNat ∧
      length.toNat - format.overhead ≤ rest.length) :
    (rest.take (length.toNat - format.overhead)).length + format.overhead < 256 := by
  have := length.toNat_lt
  rw [List.length_take]
  omega

/-- The option in front, and what follows it. -/
def next : Bytes → Option (OptionItem format × Bytes)
  | [] => none
  | kind :: rest =>
      if hpad : kind = format.pad then some (.pad, rest)
      else if hstop : format.stop = some kind then none
      else match rest with
        | [] => none
        | length :: rest =>
            if hlength : format.overhead ≤ length.toNat ∧
                length.toNat - format.overhead ≤ rest.length then
              some (.tlv kind (rest.take (length.toNat - format.overhead)) hpad hstop
                (length_take_lt format length rest hlength),
                rest.drop (length.toNat - format.overhead))
            else none

variable {format}

/-! ## Reading one option -/

/-- A padding byte is an option. -/
theorem next_pad (rest : Bytes) :
    format.next (format.pad :: rest) = some (.pad, rest) := dif_pos rfl

section Kind

variable {kind length : UInt8} {rest : Bytes}

/-- The type that ends the sequence is no option. -/
theorem next_stop (hpad : kind ≠ format.pad) (hstop : format.stop = some kind) :
    format.next (kind :: rest) = none := by
  rw [next, dif_neg hpad, dif_pos hstop]

/-- An option without a length. -/
theorem next_singleton (hpad : kind ≠ format.pad) : format.next [kind] = none := by
  rw [next, dif_neg hpad]
  split
  · rfl
  · rfl

/-- A length that is too short for an option, or reaches behind the bytes. -/
theorem next_of_not_fits (hpad : kind ≠ format.pad)
    (hfits : ¬ (format.overhead ≤ length.toNat ∧ length.toNat - format.overhead ≤ rest.length)) :
    format.next (kind :: length :: rest) = none := by
  rw [next, dif_neg hpad]
  split
  · rfl
  · exact dif_neg hfits

theorem next_of_fits (hpad : kind ≠ format.pad) (hstop : format.stop ≠ some kind)
    (hfits : format.overhead ≤ length.toNat ∧ length.toNat - format.overhead ≤ rest.length) :
    format.next (kind :: length :: rest) =
      some (.tlv kind (rest.take (length.toNat - format.overhead)) hpad hstop
        (length_take_lt format length rest hfits), rest.drop (length.toNat - format.overhead)) := by
  rw [next, dif_neg hpad, dif_neg hstop]
  exact dif_pos hfits

end Kind

theorem next_tlv {kind : UInt8} {value : Bytes} (hpad : kind ≠ format.pad)
    (hstop : format.stop ≠ some kind) (hlength : value.length + format.overhead < 256)
    (rest : Bytes) :
    format.next (kind :: UInt8.ofNat (value.length + format.overhead) :: (value ++ rest))
      = some (.tlv kind value hpad hstop hlength, rest) := by
  have hcount : (UInt8.ofNat (value.length + format.overhead)).toNat - format.overhead
      = value.length := by
    rw [UInt8.toNat_ofNat_of_lt' hlength]
    omega
  have hfits : format.overhead ≤ (UInt8.ofNat (value.length + format.overhead)).toNat ∧
      (UInt8.ofNat (value.length + format.overhead)).toNat - format.overhead
        ≤ (value ++ rest).length := by
    rw [hcount, UInt8.toNat_ofNat_of_lt' hlength, List.length_append]
    omega
  rw [next_of_fits hpad hstop hfits]
  simp only [hcount, List.take_left', List.drop_left']

/-- **Reading inverts writing.** -/
theorem next_eq_some_iff {bytes rest : Bytes} {item : OptionItem format} :
    format.next bytes = some (item, rest) ↔ bytes = item.bytes ++ rest := by
  constructor
  · intro h
    cases bytes with
    | nil => cases h
    | cons kind tail =>
        by_cases hpad : kind = format.pad
        · subst hpad
          rw [next_pad] at h
          obtain ⟨rfl, rfl⟩ := Prod.mk.inj (Option.some.inj h)
          rfl
        by_cases hstop : format.stop = some kind
        · rw [next_stop hpad hstop] at h
          cases h
        cases tail with
        | nil =>
            rw [next_singleton hpad] at h
            cases h
        | cons length tail =>
            by_cases hfits : format.overhead ≤ length.toNat ∧
                length.toNat - format.overhead ≤ tail.length
            · rw [next_of_fits hpad hstop hfits] at h
              obtain ⟨rfl, rfl⟩ := Prod.mk.inj (Option.some.inj h)
              have hcount : (tail.take (length.toNat - format.overhead)).length
                  + format.overhead = length.toNat := by
                rw [List.length_take]
                omega
              rw [OptionItem.bytes, hcount, UInt8.ofNat_toNat, List.cons_append,
                List.cons_append, List.take_append_drop]
            · rw [next_of_not_fits hpad hfits] at h
              cases h
  · rintro rfl
    cases item with
    | pad => exact next_pad rest
    | tlv kind value hpad hstop hlength => exact next_tlv hpad hstop hlength rest

theorem length_lt_of_next {bytes rest : Bytes} {item : OptionItem format}
    (h : format.next bytes = some (item, rest)) : rest.length < bytes.length := by
  rw [next_eq_some_iff.mp h, List.length_append]
  cases item with
  | pad => simp [OptionItem.bytes]
  | tlv kind value hpad hstop hlength => simp [OptionItem.bytes]

variable (format) in
/-- Whether some option of the sequence passes the test.  The sequence ends where no option
can be read. -/
def find (test : OptionItem format → Bool) (bytes : Bytes) : Bool :=
  match _h : format.next bytes with
  | none => false
  | some (item, rest) => test item || find test rest
termination_by bytes.length
decreasing_by exact length_lt_of_next ‹_›

/-! ## Looking for an option -/

variable {test : OptionItem format → Bool}

theorem find_of_next_none {bytes : Bytes} (h : format.next bytes = none) :
    format.find test bytes = false := by
  rw [find]
  split
  · rfl
  · next hsome => rw [h] at hsome; cases hsome

theorem find_of_next_some {bytes rest : Bytes} {item : OptionItem format}
    (h : format.next bytes = some (item, rest)) :
    format.find test bytes = (test item || format.find test rest) := by
  rw [find]
  split
  · next hnone => rw [h] at hnone; cases hnone
  · next hsome =>
      obtain ⟨rfl, rfl⟩ := Prod.mk.inj (Option.some.inj (h.symm.trans hsome))
      rfl

theorem find_append (item : OptionItem format) (rest : Bytes) :
    format.find test (item.bytes ++ rest) = (test item || format.find test rest) :=
  find_of_next_some (next_eq_some_iff.mpr rfl)

/-- **What is found**: an option that passes the test, behind a sequence of options. -/
theorem find_eq_true_iff {bytes : Bytes} :
    format.find test bytes = true ↔ ∃ (before : List (OptionItem format)) (item : OptionItem format)
      (rest : Bytes), test item = true ∧
        bytes = before.flatMap OptionItem.bytes ++ (item.bytes ++ rest) := by
  constructor
  · intro h
    -- on the length: each option that does not pass the test is taken off the front
    induction hn : bytes.length using Nat.strong_induction_on generalizing bytes with
    | _ n ih =>
        cases hnext : format.next bytes with
        | none =>
            rw [find_of_next_none hnext] at h
            cases h
        | some read =>
            obtain ⟨item, rest⟩ := read
            rw [find_of_next_some hnext, Bool.or_eq_true] at h
            have hbytes := next_eq_some_iff.mp hnext
            obtain htest | hrest := h
            · exact ⟨[], item, rest, htest, hbytes⟩
            · obtain ⟨before, found, after, htest, rfl⟩ :=
                ih _ (hn ▸ length_lt_of_next hnext) hrest rfl
              refine ⟨item :: before, found, after, htest, ?_⟩
              rw [hbytes, List.flatMap_cons, List.append_assoc]
  · rintro ⟨before, item, rest, htest, rfl⟩
    induction before with
    | nil =>
        rw [List.flatMap_nil, List.nil_append, find_append, htest, Bool.true_or]
    | cons first before ih =>
        rw [List.flatMap_cons, List.append_assoc, find_append, ih, Bool.or_true]

/-- **The values of other options are not searched**: if no option passes the test, nothing is
found, whatever the values are. -/
theorem find_flatMap_eq_false {items : List (OptionItem format)} {tail : Bytes}
    (hitems : ∀ item ∈ items, test item = false) (htail : format.next tail = none) :
    format.find test (items.flatMap OptionItem.bytes ++ tail) = false := by
  induction items with
  | nil => exact find_of_next_none htail
  | cons item items ih =>
      obtain ⟨hitem, hitems⟩ := List.forall_mem_cons.mp hitems
      rw [List.flatMap_cons, List.append_assoc, find_append, hitem, ih hitems, Bool.false_or]

end OptionFormat

end Amt

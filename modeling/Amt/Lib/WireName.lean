import Amt.Lib.Bytes

/-!
# Domain names on the wire

A domain name is a sequence of labels.  On the wire each label stands behind a byte that
gives its length, and the byte zero ends the name.  Inside a message a name may also end in
a *compression pointer*: two bytes whose top bits are set and which lead to another offset,
where the rest of the name stands.

* `encodeName` writes a name without pointers.
* `NameAt message offset labels next rounds` says what a message holds: the name at `offset`
  has these labels once its pointers are followed, the bytes behind it start at `next`, and
  `rounds` length bytes and pointers are read on the way.
* A message holds at most one name at an offset (`NameAt.unique`), a name ends inside the
  message (`NameAt.next_le`), and what `encodeName` writes is read back (`nameAt_encodeName`).

The relation puts no bound on the number of pointers: a chain that runs into a loop has no
name, because a name has a finite derivation.
-/

namespace Amt

/-- Each label behind its length, then the empty label. -/
def encodeName (labels : List Bytes) : Bytes :=
  labels.flatMap (fun label => UInt8.ofNat label.length :: label) ++ [0]

/-- The offset a compression pointer leads to. -/
def pointerTarget (hi lo : UInt8) : ℕ := (hi &&& 0x3f).toNat * 256 + lo.toNat

/-- The name a message holds at an offset. -/
inductive NameAt (message : Bytes) : ℕ → List Bytes → ℕ → ℕ → Prop
  | root {offset : ℕ} (hlen : message[offset]? = some 0) :
      NameAt message offset [] (offset + 1) 1
  | label {offset next rounds : ℕ} {len : UInt8} {label : Bytes} {labels : List Bytes}
      (hlen : message[offset]? = some len) (hkind : len &&& 0xc0 = 0) (hne : len ≠ 0)
      (hlabel : getRange message (offset + 1) (offset + 1 + len.toNat) = some label)
      (hrest : NameAt message (offset + 1 + len.toNat) labels next rounds) :
      NameAt message offset (label :: labels) next (rounds + 1)
  | pointer {offset next rounds : ℕ} {hi lo : UInt8} {labels : List Bytes}
      (hhi : message[offset]? = some hi) (hkind : hi &&& 0xc0 = 0xc0)
      (hlo : message[offset + 1]? = some lo)
      (htarget : NameAt message (pointerTarget hi lo) labels next rounds) :
      NameAt message offset labels (offset + 2) (rounds + 1)

namespace NameAt

variable {message : Bytes} {offset next rounds : ℕ} {labels : List Bytes}

theorem lt_next (h : NameAt message offset labels next rounds) : offset < next := by
  induction h with
  | root hlen => exact Nat.lt_succ_self _
  | label hlen hkind hne hlabel hrest ih => omega
  | pointer hhi hkind hlo htarget ih => omega

theorem next_le (h : NameAt message offset labels next rounds) : next ≤ message.length := by
  induction h with
  | root hlen => exact (List.getElem?_eq_some_iff.mp hlen).1
  | label hlen hkind hne hlabel hrest ih => exact ih
  | pointer hhi hkind hlo htarget ih => exact (List.getElem?_eq_some_iff.mp hlo).1

theorem ne_nil_of_mem (h : NameAt message offset labels next rounds) {label : Bytes}
    (hmem : label ∈ labels) : label ≠ [] := by
  induction h with
  | root hlen => cases hmem
  | @label offset next rounds len label' labels hlen hkind hne hlabel hrest ih =>
      obtain rfl | hmem := List.mem_cons.mp hmem
      · obtain ⟨-, hle, rfl⟩ := getRange_eq_some_iff.mp hlabel
        have hpos : len.toNat ≠ 0 := fun h0 => hne (UInt8.toNat_inj.mp h0)
        refine List.ne_nil_of_length_pos ?_
        rw [List.length_drop, List.length_take]
        omega
      · exact ih hmem
  | pointer hhi hkind hlo htarget ih => exact ih hmem

/-- A message holds one name at an offset: the byte there decides how it goes on. -/
theorem unique (h : NameAt message offset labels next rounds) {labels' : List Bytes}
    {next' rounds' : ℕ} (h' : NameAt message offset labels' next' rounds') :
    labels = labels' ∧ next = next' ∧ rounds = rounds' := by
  induction h generalizing labels' next' rounds' with
  | root hlen =>
      cases h' with
      | root hlen' => exact ⟨rfl, rfl, rfl⟩
      | label hlen' hkind' hne' hlabel' hrest' =>
          exact absurd (Option.some.inj (hlen.symm.trans hlen')).symm hne'
      | pointer hhi' hkind' hlo' htarget' =>
          obtain rfl := Option.some.inj (hlen.symm.trans hhi')
          exact absurd hkind' (by decide)
  | label hlen hkind hne hlabel hrest ih =>
      cases h' with
      | root hlen' => exact absurd (Option.some.inj (hlen.symm.trans hlen')) hne
      | label hlen' hkind' hne' hlabel' hrest' =>
          obtain rfl := Option.some.inj (hlen.symm.trans hlen')
          obtain rfl := Option.some.inj (hlabel.symm.trans hlabel')
          obtain ⟨rfl, rfl, rfl⟩ := ih hrest'
          exact ⟨rfl, rfl, rfl⟩
      | pointer hhi' hkind' hlo' htarget' =>
          obtain rfl := Option.some.inj (hlen.symm.trans hhi')
          exact absurd (hkind.symm.trans hkind') (by decide)
  | pointer hhi hkind hlo htarget ih =>
      cases h' with
      | root hlen' =>
          obtain rfl := Option.some.inj (hhi.symm.trans hlen')
          exact absurd hkind (by decide)
      | label hlen' hkind' hne' hlabel' hrest' =>
          obtain rfl := Option.some.inj (hhi.symm.trans hlen')
          exact absurd (hkind'.symm.trans hkind) (by decide)
      | pointer hhi' hkind' hlo' htarget' =>
          obtain rfl := Option.some.inj (hhi.symm.trans hhi')
          obtain rfl := Option.some.inj (hlo.symm.trans hlo')
          obtain ⟨rfl, -, rfl⟩ := ih htarget'
          exact ⟨rfl, rfl, rfl⟩

end NameAt

/-! ## Reading back what was written -/

/-- A label as the length byte can express it. -/
def IsWireLabel (label : Bytes) : Prop := label ≠ [] ∧ label.length ≤ 63

theorem encodeName_nil : encodeName [] = [0] := rfl

theorem encodeName_cons (label : Bytes) (labels : List Bytes) :
    encodeName (label :: labels) = UInt8.ofNat label.length :: (label ++ encodeName labels) := by
  simp [encodeName]

theorem lengthByte_kind {n : ℕ} (hn : n ≤ 63) : UInt8.ofNat n &&& 0xc0 = 0 := by
  interval_cases n <;> rfl

theorem toNat_lengthByte {label : Bytes} (h : IsWireLabel label) :
    (UInt8.ofNat label.length).toNat = label.length := by
  apply UInt8.toNat_ofNat_of_lt'
  change label.length < 256
  exact Nat.lt_of_le_of_lt h.2 (by decide)

theorem lengthByte_ne_zero {label : Bytes} (h : IsWireLabel label) :
    UInt8.ofNat label.length ≠ 0 := by
  intro h0
  have hlen := toNat_lengthByte h
  rw [h0] at hlen
  exact h.1 (List.length_eq_zero_iff.mp hlen.symm)

section Cons

variable {label : Bytes} (labels : List Bytes) (front back : Bytes)

/-- Behind its first label a name goes on as the rest of it. -/
theorem append_encodeName_cons :
    front ++ (encodeName (label :: labels) ++ back) =
      (front ++ UInt8.ofNat label.length :: label) ++ (encodeName labels ++ back) := by
  simp [encodeName_cons]

theorem length_append_label (h : IsWireLabel label) :
    (front ++ UInt8.ofNat label.length :: label).length =
      front.length + 1 + (UInt8.ofNat label.length).toNat := by
  rw [toNat_lengthByte h, List.length_append, List.length_cons]
  omega

theorem getElem?_encodeName_cons :
    (front ++ (encodeName (label :: labels) ++ back))[front.length]? =
      some (UInt8.ofNat label.length) := by
  simp [encodeName_cons]

theorem getRange_encodeName_cons (h : IsWireLabel label) :
    getRange (front ++ (encodeName (label :: labels) ++ back)) (front.length + 1)
      (front.length + 1 + (UInt8.ofNat label.length).toNat) = some label := by
  have hsplit : front ++ (encodeName (label :: labels) ++ back) =
      (front ++ [UInt8.ofNat label.length]) ++ (label ++ (encodeName labels ++ back)) := by
    simp [encodeName_cons]
  rw [hsplit]
  exact getRange_append _ (by simp) (by rw [toNat_lengthByte h]; simp)

end Cons

/-- A name in front of which and behind which anything may stand. -/
theorem nameAt_encodeName {labels : List Bytes} (hlabels : ∀ label ∈ labels, IsWireLabel label)
    (front back : Bytes) :
    NameAt (front ++ (encodeName labels ++ back)) front.length labels
      (front.length + (encodeName labels).length) (labels.length + 1) := by
  induction labels generalizing front with
  | nil => exact .root (by simp [encodeName_nil])
  | cons label labels ih =>
      have hlabel := hlabels label List.mem_cons_self
      have hrest := ih (fun l hl => hlabels l (List.mem_cons_of_mem _ hl))
        (front ++ UInt8.ofNat label.length :: label)
      rw [← append_encodeName_cons, length_append_label front hlabel] at hrest
      have hnext : front.length + (encodeName (label :: labels)).length =
          front.length + 1 + (UInt8.ofNat label.length).toNat + (encodeName labels).length := by
        rw [toNat_lengthByte hlabel, encodeName_cons, List.length_cons, List.length_append]
        omega
      rw [hnext]
      exact .label (getElem?_encodeName_cons labels front back) (lengthByte_kind hlabel.2)
        (lengthByte_ne_zero hlabel) (getRange_encodeName_cons labels front back hlabel) hrest

end Amt

import Amt.Lib.Bytes

/-!
# Text: the operations of a UTF-8 string

A text is a sequence of characters that is stored as its UTF-8 bytes.  Operations that look
at characters are defined on the characters, those that look at the storage on the bytes,
and `asBytes` leads from one to the other.

* `asBytes` and `fromUtf8` are inverse to each other.
* Folding case touches ASCII letters only, so it commutes with the encoding
  (`asBytes_toAsciiLowercase`) and keeps every length (`utf8ByteSize_toAsciiLowercase`).
* `sliceTo` cuts a text at a byte offset.  An offset inside a character is the `panic`
  outcome, and so is one beyond the end.
* The last part is about sequences joined by a separator that none of the pieces contains:
  splitting, trimming and the suffixes of the joined sequence.
-/

namespace Amt.Text

/-! ## Characters and bytes -/

/-- `str::as_bytes`. -/
def asBytes (s : String) : Bytes := s.toByteArray.data.toList

/-- `str::from_utf8`. -/
def fromUtf8 (bytes : Bytes) : Option String := String.fromUTF8? bytes.toByteArray

theorem asBytes_injective : Function.Injective asBytes := by
  intro s t h
  apply String.toByteArray_inj.mp
  exact ByteArray.ext (Array.toList_inj.mp h)

@[simp] theorem length_asBytes (s : String) : (asBytes s).length = s.utf8ByteSize := rfl

theorem toByteArray_asBytes (s : String) : (asBytes s).toByteArray = s.toByteArray := by
  apply ByteArray.ext
  rw [List.data_toByteArray, asBytes, Array.toArray_toList]

@[simp] theorem fromUtf8_asBytes (s : String) : fromUtf8 (asBytes s) = some s := by
  rw [fromUtf8, toByteArray_asBytes, String.fromUTF8?, dif_pos s.isValidUTF8]
  rfl

theorem fromUtf8_eq_some_iff {bytes : Bytes} {s : String} :
    fromUtf8 bytes = some s ↔ asBytes s = bytes := by
  constructor
  · intro h
    rw [fromUtf8, String.fromUTF8?] at h
    split at h
    · next hvalid =>
        obtain rfl := Option.some.inj h
        change bytes.toByteArray.data.toList = bytes
        rw [List.data_toByteArray]
    · cases h
  · rintro rfl
    exact fromUtf8_asBytes s

theorem asBytes_ofList (cs : List Char) :
    asBytes (String.ofList cs) = cs.flatMap String.utf8EncodeChar := by
  rw [asBytes, String.toByteArray_ofList, List.utf8Encode, List.data_toByteArray]

theorem asBytes_eq_flatMap (s : String) : asBytes s = s.toList.flatMap String.utf8EncodeChar := by
  conv_lhs => rw [← String.ofList_toList (s := s)]
  exact asBytes_ofList s.toList

theorem utf8ByteSize_eq_sum (s : String) : s.utf8ByteSize = (s.toList.map Char.utf8Size).sum := by
  rw [← length_asBytes, asBytes_eq_flatMap, List.length_flatMap]
  simp

/-! ## ASCII case -/

/-- `str::to_ascii_lowercase`. -/
def toAsciiLowercase (s : String) : String := String.ofList (s.toList.map Char.toLower)

/-- `str::eq_ignore_ascii_case`. -/
def eqIgnoreAsciiCase (s t : String) : Bool := toAsciiLowercase s == toAsciiLowercase t

/-- `u8::to_ascii_lowercase`. -/
def lowerByte (b : UInt8) : UInt8 := if 0x41 ≤ b ∧ b ≤ 0x5a then b + 0x20 else b

@[simp] theorem toList_toAsciiLowercase (s : String) :
    (toAsciiLowercase s).toList = s.toList.map Char.toLower :=
  String.toList_ofList

theorem eqIgnoreAsciiCase_iff {s t : String} :
    eqIgnoreAsciiCase s t = true ↔ s.toList.map Char.toLower = t.toList.map Char.toLower := by
  rw [eqIgnoreAsciiCase, beq_iff_eq, ← String.toList_inj, toList_toAsciiLowercase,
    toList_toAsciiLowercase]

/-- The characters that folding changes: the ASCII capitals. -/
theorem toLower_cases (c : Char) :
    (65 ≤ c.toNat ∧ c.toNat ≤ 90 ∧ c.toLower.toNat = c.toNat + 32) ∨
      (¬ (65 ≤ c.toNat ∧ c.toNat ≤ 90) ∧ c.toLower = c) := by
  rw [Char.toLower]
  split
  · next h =>
      have hA : 65 ≤ c.toNat := UInt32.le_iff_toNat_le.mp h.1
      have hZ : c.toNat ≤ 90 := UInt32.le_iff_toNat_le.mp h.2
      refine .inl ⟨hA, hZ, ?_⟩
      change (c.val + ('a'.val - 'A'.val)).toNat = c.toNat + 32
      rw [UInt32.toNat_add]
      change (c.toNat + 32) % 4294967296 = c.toNat + 32
      omega
  · next h =>
      refine .inr ⟨fun hletter => h ⟨?_, ?_⟩, rfl⟩
      · exact UInt32.le_iff_toNat_le.mpr hletter.1
      · exact UInt32.le_iff_toNat_le.mpr hletter.2

theorem toLower_eq_iff {c d : Char} (hd : d.toNat < 65) : c.toLower = d ↔ c = d := by
  obtain ⟨hA, hZ, hlower⟩ | ⟨-, hlower⟩ := toLower_cases c
  · refine ⟨fun h => ?_, fun h => ?_⟩
    · rw [h] at hlower
      omega
    · rw [h] at hA
      omega
  · rw [hlower]

theorem lowerByte_ofNat {n : ℕ} (hn : n < 256) :
    lowerByte (UInt8.ofNat n) = UInt8.ofNat (if 65 ≤ n ∧ n ≤ 90 then n + 32 else n) := by
  have hletter : (0x41 ≤ UInt8.ofNat n ∧ UInt8.ofNat n ≤ 0x5a) ↔ 65 ≤ n ∧ n ≤ 90 := by
    rw [UInt8.le_iff_toNat_le, UInt8.le_iff_toNat_le, UInt8.toNat_ofNat_of_lt' hn]
    rfl
  rw [lowerByte]
  by_cases h : 65 ≤ n ∧ n ≤ 90
  · rw [if_pos (hletter.mpr h), if_pos h, UInt8.ofNat_add]
    rfl
  · rw [if_neg (mt hletter.mp h), if_neg h]

theorem utf8EncodeChar_ascii {c : Char} (h : c.toNat ≤ 127) :
    String.utf8EncodeChar c = [UInt8.ofNat c.toNat] :=
  if_pos h

/-- Every byte of an encoding longer than one byte has its top bit set. -/
theorem toNat_le_of_mem_utf8EncodeChar {c : Char} (hc : ¬ c.val.toNat ≤ 127) {b : UInt8}
    (hb : b ∈ String.utf8EncodeChar c) : 128 ≤ b.toNat := by
  have hbyte : ∀ n, 128 ≤ n → n < 256 → 128 ≤ (UInt8.ofNat n).toNat := by
    intro n hlo hhi
    rw [UInt8.toNat_ofNat']
    omega
  rw [String.utf8EncodeChar, if_neg hc] at hb
  split at hb
  · simp only [List.mem_cons, List.not_mem_nil, or_false] at hb
    obtain rfl | rfl := hb
    all_goals exact hbyte _ (by omega) (by omega)
  · split at hb
    · simp only [List.mem_cons, List.not_mem_nil, or_false] at hb
      obtain rfl | rfl | rfl := hb
      all_goals exact hbyte _ (by omega) (by omega)
    · simp only [List.mem_cons, List.not_mem_nil, or_false] at hb
      obtain rfl | rfl | rfl | rfl := hb
      all_goals exact hbyte _ (by omega) (by omega)

theorem lowerByte_of_le {b : UInt8} (h : 128 ≤ b.toNat) : lowerByte b = b := by
  refine if_neg fun hletter => ?_
  have hZ : b.toNat ≤ 90 := UInt8.le_iff_toNat_le.mp hletter.2
  omega

theorem lowerByte_eq_iff {b d : UInt8} (hd : d.toNat < 65) : lowerByte b = d ↔ b = d := by
  rw [lowerByte]
  split
  · next h =>
      have hA : 65 ≤ b.toNat := UInt8.le_iff_toNat_le.mp h.1
      have hZ : b.toNat ≤ 90 := UInt8.le_iff_toNat_le.mp h.2
      refine ⟨fun heq => ?_, fun heq => ?_⟩
      · have hsum := congrArg UInt8.toNat heq
        rw [UInt8.toNat_add] at hsum
        change (b.toNat + 32) % 256 = d.toNat at hsum
        omega
      · rw [heq] at hA
        omega
  · rfl

/-- Folding the case of a character folds the case of its bytes. -/
theorem utf8EncodeChar_toLower (c : Char) :
    String.utf8EncodeChar c.toLower = (String.utf8EncodeChar c).map lowerByte := by
  obtain ⟨hA, hZ, hlower⟩ | ⟨hother, hlower⟩ := toLower_cases c
  · rw [utf8EncodeChar_ascii (by omega), utf8EncodeChar_ascii (by omega), List.map_singleton,
      lowerByte_ofNat (by omega), if_pos ⟨hA, hZ⟩, hlower]
  · rw [hlower]
    by_cases hascii : c.toNat ≤ 127
    · rw [utf8EncodeChar_ascii hascii, List.map_singleton, lowerByte_ofNat (by omega),
        if_neg hother]
    · calc String.utf8EncodeChar c
          = (String.utf8EncodeChar c).map id := (List.map_id _).symm
        _ = (String.utf8EncodeChar c).map lowerByte :=
            List.map_congr_left fun b hb =>
              (lowerByte_of_le (toNat_le_of_mem_utf8EncodeChar hascii hb)).symm

/-- An ASCII character is in a text if its byte is: no other character has that byte. -/
theorem ofNat_mem_utf8EncodeChar_iff {c d : Char} (hd : d.toNat ≤ 127) :
    UInt8.ofNat d.toNat ∈ String.utf8EncodeChar c ↔ c = d := by
  constructor
  · intro h
    by_cases hc : c.val.toNat ≤ 127
    · rw [utf8EncodeChar_ascii hc, List.mem_singleton] at h
      have hbytes := congrArg UInt8.toNat h
      rw [UInt8.toNat_ofNat', UInt8.toNat_ofNat'] at hbytes
      change c.toNat ≤ 127 at hc
      exact Char.toNat_inj.mp (by omega)
    · have hbyte := toNat_le_of_mem_utf8EncodeChar hc h
      rw [UInt8.toNat_ofNat'] at hbyte
      omega
  · rintro rfl
    rw [utf8EncodeChar_ascii hd]
    exact List.mem_singleton_self _

theorem ofNat_mem_asBytes_iff {s : String} {d : Char} (hd : d.toNat ≤ 127) :
    UInt8.ofNat d.toNat ∈ asBytes s ↔ d ∈ s.toList := by
  rw [asBytes_eq_flatMap, List.mem_flatMap]
  constructor
  · rintro ⟨c, hc, hmem⟩
    rwa [← (ofNat_mem_utf8EncodeChar_iff hd).mp hmem]
  · intro h
    exact ⟨d, h, (ofNat_mem_utf8EncodeChar_iff hd).mpr rfl⟩

theorem asBytes_toAsciiLowercase (s : String) :
    asBytes (toAsciiLowercase s) = (asBytes s).map lowerByte := by
  rw [asBytes_eq_flatMap, asBytes_eq_flatMap, toList_toAsciiLowercase, List.flatMap_map,
    List.map_flatMap]
  simp only [utf8EncodeChar_toLower]

theorem utf8ByteSize_toAsciiLowercase (s : String) :
    (toAsciiLowercase s).utf8ByteSize = s.utf8ByteSize := by
  rw [← length_asBytes, asBytes_toAsciiLowercase, List.length_map, length_asBytes]

/-! ## Cutting -/

/-- The characters that take exactly `n` bytes at the front, if a character ends there. -/
def takeBytes : List Char → ℕ → Option (List Char)
  | _, 0 => some []
  | [], _ + 1 => none
  | c :: cs, n + 1 =>
      if c.utf8Size ≤ n + 1 then (takeBytes cs (n + 1 - c.utf8Size)).map (c :: ·) else none

theorem takeBytes_append (front back : List Char) :
    takeBytes (front ++ back) (front.map Char.utf8Size).sum = some front := by
  induction front with
  | nil => cases back <;> rfl
  | cons c cs ih =>
      have hpos := c.utf8Size_pos
      rw [List.map_cons, List.sum_cons, List.cons_append]
      obtain ⟨n, hn⟩ : ∃ n, c.utf8Size + (cs.map Char.utf8Size).sum = n + 1 :=
        ⟨_, (Nat.succ_pred_eq_of_pos (by omega)).symm⟩
      rw [hn, takeBytes, if_pos (by omega), ← hn, Nat.add_sub_cancel_left, ih, Option.map_some]

section Cut

variable {ε : Type*}

/-- `&s[..n]`. -/
def sliceTo (s : String) (n : ℕ) : Outcome ε String :=
  match takeBytes s.toList n with
  | some cs => .ok (String.ofList cs)
  | none => .panic

theorem sliceTo_of_toList_eq {s front : String} {back : List Char}
    (h : s.toList = front.toList ++ back) :
    (sliceTo s front.utf8ByteSize : Outcome ε String) = .ok front := by
  rw [sliceTo, h, utf8ByteSize_eq_sum, takeBytes_append]
  dsimp only
  rw [String.ofList_toList]

end Cut

/-- `str::trim_end_matches`. -/
def trimEndMatches (s : String) (c : Char) : String := String.ofList (s.toList.rdropWhile (· == c))

/-- `str::split`. -/
def split (s : String) (c : Char) : List String := (s.toList.splitOn c).map String.ofList

/-- `str::ends_with`. -/
def endsWith (s suffix : String) : Bool := suffix.toList.isSuffixOf s.toList

@[simp] theorem toList_trimEndMatches (s : String) (c : Char) :
    (trimEndMatches s c).toList = s.toList.rdropWhile (· == c) :=
  String.toList_ofList

theorem endsWith_iff {s suffix : String} :
    endsWith s suffix = true ↔ suffix.toList <:+ s.toList := by
  rw [endsWith, List.isSuffixOf_iff_suffix]

/-- A suffix up to case is as long as the part of the text it matches. -/
theorem exists_split_of_endsWith {s suffix : String}
    (h : endsWith (toAsciiLowercase s) (toAsciiLowercase suffix) = true) :
    ∃ front back : String, s.toList = front.toList ++ back.toList ∧
      s.utf8ByteSize = front.utf8ByteSize + suffix.utf8ByteSize := by
  rw [endsWith_iff, toList_toAsciiLowercase, toList_toAsciiLowercase] at h
  obtain ⟨lowered, hlowered⟩ := h
  obtain ⟨front, back, hsplit, -, hback⟩ := List.map_eq_append_iff.mp hlowered.symm
  have hsame : toAsciiLowercase (String.ofList back) = toAsciiLowercase suffix := by
    rw [← String.toList_inj, toList_toAsciiLowercase, toList_toAsciiLowercase,
      String.toList_ofList, hback]
  refine ⟨String.ofList front, String.ofList back, ?_, ?_⟩
  · rw [String.toList_ofList, String.toList_ofList, hsplit]
  · rw [← utf8ByteSize_toAsciiLowercase suffix, ← hsame, utf8ByteSize_toAsciiLowercase,
      utf8ByteSize_eq_sum, utf8ByteSize_eq_sum, utf8ByteSize_eq_sum, hsplit, String.toList_ofList,
      String.toList_ofList, List.map_append, List.sum_append]

/-! ## Pieces joined by a separator -/

section Separated

variable {α β : Type*}

/-- The pieces can be told apart in the joined sequence: none is empty or has a separator. -/
def Pieces (x : α) (ls : List (List α)) : Prop := ∀ l ∈ ls, l ≠ [] ∧ x ∉ l

theorem intercalate_append {x : α} {ls ms : List (List α)} (hls : ls ≠ []) (hms : ms ≠ []) :
    [x].intercalate (ls ++ ms) = [x].intercalate ls ++ x :: [x].intercalate ms := by
  induction ls with
  | nil => exact absurd rfl hls
  | cons l ls ih =>
      cases ls with
      | nil =>
          rw [List.singleton_append, List.intercalate_cons_of_ne_nil hms,
            List.intercalate_singleton]
          simp
      | cons l' ls =>
          rw [List.cons_append, List.cons_append, List.intercalate_cons_cons, ← List.cons_append,
            ih (by simp), List.intercalate_cons_cons]
          simp

theorem map_intercalate (f : α → β) (x : α) (ls : List (List α)) :
    ([x].intercalate ls).map f = [f x].intercalate (ls.map (List.map f)) := by
  induction ls with
  | nil => rfl
  | cons l ls ih =>
      cases ls with
      | nil => simp
      | cons l' ls =>
          rw [List.intercalate_cons_cons, List.map_append, List.map_append, ih]
          simp only [List.map_cons, List.intercalate_cons_cons, List.map_nil]

/-- A mapping under which only the separator becomes a separator keeps pieces apart. -/
theorem Pieces.map {f : α → β} {x : α} {y : β} {ls : List (List α)} (h : Pieces x ls)
    (hf : ∀ a, f a = y → a = x) : Pieces y (ls.map (List.map f)) := by
  intro m hm
  obtain ⟨l, hl, rfl⟩ := List.mem_map.mp hm
  refine ⟨by simpa using (h l hl).1, fun hy => ?_⟩
  obtain ⟨a, ha, hay⟩ := List.mem_map.mp hy
  exact (h l hl).2 (hf a hay ▸ ha)

variable [BEq α] [LawfulBEq α]

theorem splitOn_intercalate_pieces {x : α} {ls : List (List α)} (h : Pieces x ls)
    (hne : ls ≠ []) : ([x].intercalate ls).splitOn x = ls :=
  List.splitOn_intercalate x (fun l hl => (h l hl).2) hne

/-- No piece of a split has a separator. -/
theorem not_mem_of_mem_splitOn {x : α} {xs piece : List α} (h : piece ∈ xs.splitOn x) :
    x ∉ piece := by
  induction xs generalizing piece with
  | nil =>
      rw [List.splitOn_nil, List.mem_singleton] at h
      rw [h]
      exact List.not_mem_nil
  | cons a xs ih =>
      obtain ⟨first, rest, hsplit⟩ := List.exists_cons_of_ne_nil (List.splitOn_ne_nil x xs)
      rw [List.splitOn_cons_eq_if_modifyHead] at h
      split at h
      · obtain rfl | h := List.mem_cons.mp h
        · exact List.not_mem_nil
        · exact ih h
      · next ha =>
          rw [hsplit, List.modifyHead_cons] at h
          obtain rfl | h := List.mem_cons.mp h
          · have hfirst : x ∉ first := ih (by simp [hsplit])
            have hx : x ≠ a := fun hxa => ha (by simp [hxa])
            exact List.not_mem_cons_of_ne_of_not_mem hx hfirst
          · exact ih (by simp [hsplit, h])

/-- Joined pieces determine the pieces. -/
theorem intercalate_inj {x : α} {ls ms : List (List α)} (hls : Pieces x ls) (hms : Pieces x ms)
    (h : [x].intercalate ls = [x].intercalate ms) : ls = ms := by
  have hnil : ∀ {ls : List (List α)}, Pieces x ls → [x].intercalate ls = [] → ls = [] := by
    intro ls hls h
    by_contra hne
    have hsplit := splitOn_intercalate_pieces hls hne
    rw [h, List.splitOn_nil] at hsplit
    exact (hls [] (by simp [← hsplit])).1 rfl
  by_cases hne : ls = []
  · rw [hne] at h ⊢
    exact (hnil hms h.symm).symm
  · have hne' : ms ≠ [] := by
      rintro rfl
      exact hne (hnil hls h)
    rw [← splitOn_intercalate_pieces hls hne, h, splitOn_intercalate_pieces hms hne']

/-- A suffix that starts at a separator is made of whole pieces. -/
theorem suffix_intercalate_iff {x : α} {ls ms : List (List α)} (hls : Pieces x ls)
    (hms : Pieces x ms) (hne : ms ≠ []) (front : List α) :
    [x].intercalate ls = front ++ x :: [x].intercalate ms ↔
      ∃ above, above ≠ [] ∧ ls = above ++ ms ∧ front = [x].intercalate above := by
  constructor
  · intro h
    have hnil : ls ≠ [] := by
      rintro rfl
      simp at h
    have hsplit := splitOn_intercalate_pieces hls hnil
    rw [h, List.splitOn_append_cons_self, splitOn_intercalate_pieces hms hne] at hsplit
    exact ⟨front.splitOn x, List.splitOn_ne_nil x front, hsplit.symm,
      (List.intercalate_splitOn x).symm⟩
  · rintro ⟨above, habove, rfl, rfl⟩
    exact intercalate_append habove hne

/-- Trimming the separators behind joined pieces. -/
theorem rdropWhile_intercalate_append {x : α} {ls : List (List α)} (h : Pieces x ls) (n : ℕ) :
    ([x].intercalate ls ++ List.replicate n x).rdropWhile (· == x) = [x].intercalate ls := by
  induction n with
  | zero =>
      rw [List.replicate_zero, List.append_nil, List.rdropWhile_eq_self_iff]
      intro hne
      obtain ⟨init, last, rfl⟩ : ∃ init last, ls = init ++ [last] := by
        rcases List.eq_nil_or_concat' ls with rfl | hconcat
        · exact absurd rfl hne
        · exact hconcat
      obtain ⟨hlast, hfree⟩ := h last (by simp)
      have hend : ∃ front, [x].intercalate (init ++ [last]) = front ++ last := by
        by_cases hinit : init = []
        · exact ⟨[], by simp [hinit]⟩
        · exact ⟨[x].intercalate init ++ [x], by rw [intercalate_append hinit (by simp)]; simp⟩
      obtain ⟨front, hfront⟩ := hend
      simp only [hfront, List.getLast_append_of_ne_nil _ hlast, beq_iff_eq]
      intro heq
      exact hfree (heq ▸ List.getLast_mem hlast)
  | succ n ih =>
      rw [List.replicate_succ', ← List.append_assoc, List.rdropWhile_concat_pos _ _ _ (by simp), ih]

end Separated

end Amt.Text

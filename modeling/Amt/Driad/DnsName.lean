import Amt.Lib.Text
import Amt.Lib.WireName
import Amt.Driad

/-!
# Names in DNS messages

The resolver keeps a domain name as text, with dots between the labels, and the wire has
the labels themselves.  `putDnsName` goes from the text to the wire, `parseDnsName` reads a
name of a message and follows its pointers, and `parseUncompressedDnsName` reads the name
inside the data of a relay record, which has none.

* **A text stands for labels.**  A `DnsLabel` is a text that can be told apart in a dotted
  name: it is not empty and has no dot.  `dotted labels n` is the name with these labels and
  `n` dots behind it; trimming, splitting and comparing dotted names are operations on their
  labels, and every name that `putDnsName` accepts is one (`putDnsName_eq_ok_iff`).
* **A wire name stands for labels too**, by `NameAt`.  `parseDnsName` returns what `NameAt`
  says as long as 128 rounds are enough (`parseDnsName_of_nameAt`, `nameAt_of_parseDnsName`).
  Labels, pointers and the end of the name each take a round.
* The text that is returned joins the labels with dots and does not escape them.  A label on
  the wire may have a dot of its own, so the text alone does not give the labels back.
* `applyDname` replaces a suffix of a name.  It works on the text, and its cut never falls
  inside a label (`applyDname_iff`).
-/

namespace Amt

open Outcome Text

/-! ## The code -/

/-- The loop of `put_dns_name` over the labels. -/
def putDnsLabels (name : String) : Bytes → List String → Outcome DriadError Bytes
  | out, [] => .ok out
  | out, label :: labels =>
      if label = "" ∨ label.utf8ByteSize > 63 then .err (.invalidDnsName name)
      else putDnsLabels name (out ++ UInt8.ofNat label.utf8ByteSize :: asBytes label) labels

/-- `put_dns_name`.  What has been written when it fails is dropped with the buffer. -/
def putDnsName (out : Bytes) (name : String) : Outcome DriadError Bytes :=
  let name := trimEndMatches name '.'
  if name = "" then .ok (out ++ [0])
  else if name.utf8ByteSize > 253 then .err (.invalidDnsName name)
  else do
    let out ← putDnsLabels name out (Text.split name '.')
    pure (out ++ [0])

/-- The rounds of `parse_dns_name`: the labels so far, the cursor, and where the name ends
in place once a pointer has been followed. -/
def parseDnsNameLoop (message : Bytes) :
    ℕ → List String → ℕ → Option ℕ → Outcome DriadError (String × ℕ)
  | 0, _, _, _ => .err .invalidDnsPointer
  | rounds + 1, labels, cursor, nextOffset => do
      let len ← okOr message[cursor]? (.truncated "DNS name")
      if len &&& 0xc0 = 0x00 then
        if len = 0 then
          pure (String.intercalate "." labels, nextOffset.getD (cursor + 1))
        else do
          let labelEnd := cursor + 1 + len.toNat
          let label ← okOr (getRange message (cursor + 1) labelEnd) (.truncated "DNS label")
          let text ← okOr (fromUtf8 label) .invalidRelayName
          parseDnsNameLoop message rounds (labels ++ [text]) labelEnd nextOffset
      else if len &&& 0xc0 = 0xc0 then do
        let pointerTail ← okOr message[cursor + 1]? (.truncated "DNS pointer")
        let pointer := ((len &&& 0x3f).toNat <<< 8) ||| pointerTail.toNat
        if pointer ≥ message.length then .err .invalidDnsPointer
        else parseDnsNameLoop message rounds labels pointer (nextOffset.or (some (cursor + 2)))
      else .err .invalidDnsPointer

/-- `parse_dns_name`. -/
def parseDnsName (message : Bytes) (offset : ℕ) : Outcome DriadError (String × ℕ) :=
  parseDnsNameLoop message 128 [] offset none

/-- The rounds of `parse_uncompressed_dns_name`. -/
def parseUncompressedLoop (input : Bytes) :
    ℕ → List String → ℕ → Outcome DriadError (String × ℕ)
  | 0, _, _ => .err .invalidRelayName
  | rounds + 1, labels, cursor => do
      let len ← okOr input[cursor]? (.truncated "AMTRELAY domain name")
      if len &&& 0xc0 ≠ 0 then .err .invalidRelayName
      else if len = 0 then
        if cursor + 1 > 255 then .err .invalidRelayName
        else pure (String.intercalate "." labels, cursor + 1)
      else do
        let labelEnd := cursor + 1 + len.toNat
        let label ← okOr (getRange input (cursor + 1) labelEnd) (.truncated "AMTRELAY domain label")
        let text ← okOr (fromUtf8 label) .invalidRelayName
        if labelEnd ≥ 255 then .err .invalidRelayName
        else parseUncompressedLoop input rounds (labels ++ [text]) labelEnd

/-- `parse_uncompressed_dns_name`. -/
def parseUncompressedDnsName (input : Bytes) : Outcome DriadError (String × ℕ) :=
  parseUncompressedLoop input 128 [] 0

/-- `dns_name_eq`. -/
def dnsNameEq (left right : String) : Bool :=
  eqIgnoreAsciiCase (trimEndMatches left '.') (trimEndMatches right '.')

/-- `apply_dname`. -/
def applyDname (queryName owner target : String) : Outcome DriadError (Option String) :=
  let query := trimEndMatches queryName '.'
  let owner := trimEndMatches owner '.'
  let target := trimEndMatches target '.'
  if eqIgnoreAsciiCase query owner then .ok (some target)
  else
    let suffix := "." ++ owner
    if endsWith (toAsciiLowercase query) (toAsciiLowercase suffix) then
      if query.utf8ByteSize < suffix.utf8ByteSize then .panic
      else do
        let above ← sliceTo query (query.utf8ByteSize - suffix.utf8ByteSize)
        pure (some (above ++ "." ++ target))
    else .ok none

/-! ## Dotted names -/

/-- A label of a dotted name. -/
structure DnsLabel where
  text : String
  ne_empty : text ≠ ""
  noDot : '.' ∉ text.toList
deriving DecidableEq

namespace DnsLabel

@[ext] theorem ext {a b : DnsLabel} (h : a.text = b.text) : a = b := by
  cases a
  cases b
  cases h
  rfl

/-- The characters of a sequence of labels. -/
def chars (labels : List DnsLabel) : List (List Char) := labels.map fun label => label.text.toList

theorem pieces_chars (labels : List DnsLabel) : Pieces '.' (chars labels) := by
  intro l hl
  obtain ⟨label, -, rfl⟩ := List.mem_map.mp hl
  refine ⟨fun hnil => label.ne_empty ?_, label.noDot⟩
  rw [← String.toList_inj, hnil]
  rfl

theorem chars_append (above below : List DnsLabel) :
    chars (above ++ below) = chars above ++ chars below :=
  List.map_append

@[simp] theorem chars_eq_nil_iff {labels : List DnsLabel} : chars labels = [] ↔ labels = [] :=
  List.map_eq_nil_iff

/-- Texts that are labels, as labels. -/
theorem exists_map_text {texts : List String}
    (h : ∀ text ∈ texts, text ≠ "" ∧ '.' ∉ text.toList) :
    ∃ labels : List DnsLabel, labels.map text = texts := by
  induction texts with
  | nil => exact ⟨[], rfl⟩
  | cons t texts ih =>
      obtain ⟨labels, hlabels⟩ := ih fun u hu => h u (List.mem_cons_of_mem _ hu)
      obtain ⟨hne, hdot⟩ := h t List.mem_cons_self
      exact ⟨⟨t, hne, hdot⟩ :: labels, by rw [List.map_cons, hlabels]⟩

end DnsLabel

open DnsLabel (chars)

/-- The name with the given labels and a number of dots behind them. -/
def dotted (labels : List DnsLabel) (dots : ℕ) : String :=
  String.intercalate "." (labels.map DnsLabel.text) ++ String.ofList (List.replicate dots '.')

/-- The same labels, ASCII case aside. -/
def SameLabels (left right : List DnsLabel) : Prop :=
  left.map (fun label => toAsciiLowercase label.text) =
    right.map fun label => toAsciiLowercase label.text

instance (left right : List DnsLabel) : Decidable (SameLabels left right) :=
  inferInstanceAs (Decidable (_ = _))

theorem toList_dot : ".".toList = ['.'] := rfl

theorem toList_dotted (labels : List DnsLabel) (dots : ℕ) :
    (dotted labels dots).toList = ['.'].intercalate (chars labels) ++ List.replicate dots '.' := by
  rw [dotted, String.toList_append, String.toList_intercalate, toList_dot, String.toList_ofList,
    List.map_map]
  rfl

theorem toList_dotted_zero (labels : List DnsLabel) :
    (dotted labels 0).toList = ['.'].intercalate (chars labels) := by
  rw [toList_dotted, List.replicate_zero, List.append_nil]

theorem dotted_zero (labels : List DnsLabel) :
    dotted labels 0 = String.intercalate "." (labels.map DnsLabel.text) := by
  rw [← String.toList_inj, toList_dotted_zero, String.toList_intercalate, List.map_map, toList_dot]
  rfl

@[simp] theorem trimEndMatches_dotted (labels : List DnsLabel) (dots : ℕ) :
    trimEndMatches (dotted labels dots) '.' = dotted labels 0 := by
  rw [← String.toList_inj, toList_trimEndMatches, toList_dotted, toList_dotted_zero]
  exact rdropWhile_intercalate_append (DnsLabel.pieces_chars labels) dots

theorem split_dotted {labels : List DnsLabel} (h : labels ≠ []) :
    Text.split (dotted labels 0) '.' = labels.map DnsLabel.text := by
  have hne : chars labels ≠ [] := by simpa using h
  rw [Text.split, toList_dotted_zero, splitOn_intercalate_pieces (DnsLabel.pieces_chars labels) hne,
    DnsLabel.chars, List.map_map]
  apply List.map_congr_left
  intro label _
  exact String.ofList_toList

theorem sameLabels_iff_chars {left right : List DnsLabel} :
    SameLabels left right ↔
      (chars left).map (List.map Char.toLower) = (chars right).map (List.map Char.toLower) := by
  have hlower : ∀ labels : List DnsLabel, (chars labels).map (List.map Char.toLower) =
      (labels.map fun label => toAsciiLowercase label.text).map String.toList := by
    intro labels
    rw [DnsLabel.chars, List.map_map, List.map_map]
    apply List.map_congr_left
    intro label _
    exact (toList_toAsciiLowercase label.text).symm
  rw [hlower, hlower, SameLabels]
  refine ⟨fun h => by rw [h], fun h => List.map_injective_iff.mpr ?_ h⟩
  intro s t hst
  exact String.toList_inj.mp hst

theorem toLower_eq_dot {c : Char} (h : c.toLower = '.') : c = '.' :=
  (toLower_eq_iff (by decide)).mp h

/-- Lower-cased labels can still be told apart. -/
theorem pieces_toLower (labels : List DnsLabel) :
    Pieces '.' ((chars labels).map (List.map Char.toLower)) :=
  (DnsLabel.pieces_chars labels).map fun _ => toLower_eq_dot

theorem map_toLower_dotted (labels : List DnsLabel) :
    (dotted labels 0).toList.map Char.toLower =
      ['.'].intercalate ((chars labels).map (List.map Char.toLower)) := by
  rw [toList_dotted_zero, map_intercalate]
  rfl

/-- Comparing dotted names compares their labels. -/
theorem dnsNameEq_dotted (left right : List DnsLabel) (m n : ℕ) :
    dnsNameEq (dotted left m) (dotted right n) = true ↔ SameLabels left right := by
  rw [dnsNameEq, trimEndMatches_dotted, trimEndMatches_dotted, eqIgnoreAsciiCase_iff,
    map_toLower_dotted, map_toLower_dotted, sameLabels_iff_chars]
  exact ⟨intercalate_inj (pieces_toLower left) (pieces_toLower right), fun h => by rw [h]⟩

/-! ## Writing a name -/

/-- The labels of a name as they stand on the wire. -/
def wireLabels (labels : List DnsLabel) : List Bytes := labels.map fun label => asBytes label.text

/-- A name that fits a DNS message, and its labels. -/
structure DnsNameLabels (name : String) (labels : List DnsLabel) : Prop where
  text : trimEndMatches name '.' = dotted labels 0
  short : ∀ label ∈ labels, label.text.utf8ByteSize ≤ 63
  fits : (dotted labels 0).utf8ByteSize ≤ 253

theorem DnsLabel.utf8ByteSize_pos (label : DnsLabel) : 0 < label.text.utf8ByteSize := by
  rw [← length_asBytes]
  refine List.length_pos_of_ne_nil fun h => label.ne_empty ?_
  exact asBytes_injective h

theorem DnsNameLabels.isWireLabel {name : String} {labels : List DnsLabel}
    (h : DnsNameLabels name labels) : ∀ l ∈ wireLabels labels, IsWireLabel l := by
  intro l hl
  obtain ⟨label, hlabel, rfl⟩ := List.mem_map.mp hl
  exact ⟨List.ne_nil_of_length_pos label.utf8ByteSize_pos, h.short label hlabel⟩

theorem utf8ByteSize_dotted_singleton (label : DnsLabel) :
    (dotted [label] 0).utf8ByteSize = label.text.utf8ByteSize := by
  rw [dotted_zero]
  rfl

theorem utf8ByteSize_dotted_cons (label : DnsLabel) {labels : List DnsLabel} (h : labels ≠ []) :
    (dotted (label :: labels) 0).utf8ByteSize =
      label.text.utf8ByteSize + 1 + (dotted labels 0).utf8ByteSize := by
  have hne : chars labels ≠ [] := by simpa using h
  have hdot : ('.' : Char).utf8Size = 1 := by decide
  rw [utf8ByteSize_eq_sum, utf8ByteSize_eq_sum, utf8ByteSize_eq_sum, toList_dotted_zero,
    toList_dotted_zero]
  change ((['.'].intercalate (label.text.toList :: chars labels)).map Char.utf8Size).sum = _
  rw [List.intercalate_cons_of_ne_nil hne]
  simp only [List.map_append, List.sum_append, List.map_singleton, List.sum_singleton, hdot]

/-- The bytes of a dotted name: each label, and a dot between two of them. -/
theorem utf8ByteSize_dotted_add_one {labels : List DnsLabel} (h : labels ≠ []) :
    (dotted labels 0).utf8ByteSize + 1 =
      (labels.map fun label => label.text.utf8ByteSize + 1).sum := by
  induction labels with
  | nil => exact absurd rfl h
  | cons label labels ih =>
      by_cases hne : labels = []
      · subst hne
        rw [utf8ByteSize_dotted_singleton]
        rfl
      · rw [utf8ByteSize_dotted_cons label hne, List.map_cons, List.sum_cons, ← ih hne]
        omega

theorem length_encodeName_eq_sum (labels : List DnsLabel) :
    (encodeName (wireLabels labels)).length =
      (labels.map fun label => label.text.utf8ByteSize + 1).sum + 1 := by
  rw [encodeName, wireLabels, List.flatMap_map, List.length_append, List.length_flatMap]
  rfl

/-- The wire has one byte more in front of the text and one more behind it. -/
theorem length_encodeName_wireLabels {labels : List DnsLabel} (h : labels ≠ []) :
    (encodeName (wireLabels labels)).length = (dotted labels 0).utf8ByteSize + 2 := by
  rw [length_encodeName_eq_sum, ← utf8ByteSize_dotted_add_one h]

theorem two_mul_length_le (labels : List DnsLabel) :
    2 * labels.length ≤ (dotted labels 0).utf8ByteSize + 1 := by
  by_cases h : labels = []
  · rw [h]
    exact Nat.zero_le _
  · rw [utf8ByteSize_dotted_add_one h, Nat.mul_comm, ← smul_eq_mul,
      ← List.length_map fun label : DnsLabel => label.text.utf8ByteSize + 1]
    apply List.card_nsmul_le_sum
    intro size hsize
    obtain ⟨label, -, rfl⟩ := List.mem_map.mp hsize
    exact Nat.succ_le_succ label.utf8ByteSize_pos

/-- At most 127 labels fit. -/
theorem DnsNameLabels.length_le {name : String} {labels : List DnsLabel}
    (h : DnsNameLabels name labels) : labels.length ≤ 127 := by
  have hsize := two_mul_length_le labels
  have hfits := h.fits
  omega

theorem putDnsLabels_eq_ok_iff {name : String} {texts : List String} {out out' : Bytes} :
    putDnsLabels name out texts = .ok out' ↔
      (∀ text ∈ texts, text ≠ "" ∧ text.utf8ByteSize ≤ 63) ∧
        out' = out ++ texts.flatMap fun text => UInt8.ofNat text.utf8ByteSize :: asBytes text := by
  induction texts generalizing out with
  | nil =>
      rw [putDnsLabels, Outcome.ok.injEq]
      simp [eq_comm]
  | cons text texts ih =>
      rw [putDnsLabels]
      split
      · next hbad =>
          refine ⟨fun h => ?_, fun h => ?_⟩
          · cases h
          · obtain ⟨hne, hshort⟩ := h.1 text List.mem_cons_self
            obtain hempty | hlong := hbad
            · exact absurd hempty hne
            · omega
      · next hgood =>
          rw [ih, List.forall_mem_cons]
          have htext : text ≠ "" ∧ text.utf8ByteSize ≤ 63 := by
            refine ⟨fun h => hgood (.inl h), ?_⟩
            omega
          simp [htext]

theorem encodeName_eq_flatMap (labels : List DnsLabel) :
    encodeName (wireLabels labels) = ((labels.map DnsLabel.text).flatMap fun text =>
      UInt8.ofNat text.utf8ByteSize :: asBytes text) ++ [0] := by
  rw [encodeName, wireLabels, List.flatMap_map, List.flatMap_map]
  rfl

/-- A text none of whose pieces is empty is a dotted name. -/
theorem exists_dotted_of_split {name : String} (h : ∀ text ∈ Text.split name '.', text ≠ "") :
    ∃ labels : List DnsLabel,
      Text.split name '.' = labels.map DnsLabel.text ∧ name = dotted labels 0 := by
  have hlabel : ∀ text ∈ Text.split name '.', text ≠ "" ∧ '.' ∉ text.toList := by
    intro text htext
    refine ⟨h text htext, ?_⟩
    obtain ⟨piece, hpiece, rfl⟩ := List.mem_map.mp htext
    rw [String.toList_ofList]
    exact not_mem_of_mem_splitOn hpiece
  obtain ⟨labels, hlabels⟩ := DnsLabel.exists_map_text hlabel
  refine ⟨labels, hlabels.symm, ?_⟩
  have hpieces : (Text.split name '.').map String.toList = name.toList.splitOn '.' := by
    rw [Text.split, List.map_map]
    simp [Function.comp_def]
  rw [dotted_zero, hlabels, ← String.toList_inj, String.toList_intercalate, hpieces, toList_dot,
    List.intercalate_splitOn]

theorem dotted_eq_empty_iff {labels : List DnsLabel} : dotted labels 0 = "" ↔ labels = [] := by
  constructor
  · intro h
    have hsize := two_mul_length_le labels
    have hzero : "".utf8ByteSize = 0 := rfl
    rw [h] at hsize
    exact List.length_eq_zero_iff.mp (by omega)
  · rintro rfl
    rfl

/-- A name with at least one label goes through the loop. -/
theorem putDnsName_of_ne_empty {out : Bytes} {name : String}
    (hne : trimEndMatches name '.' ≠ "")
    (hfits : (trimEndMatches name '.').utf8ByteSize ≤ 253) :
    putDnsName out name =
      putDnsLabels (trimEndMatches name '.') out (Text.split (trimEndMatches name '.') '.') >>=
        fun out => pure (out ++ [0]) := by
  rw [putDnsName, if_neg hne, if_neg (Nat.not_lt.mpr hfits)]

/-- A name of labels is written as its labels. -/
theorem putDnsName_of_labels {name : String} {labels : List DnsLabel}
    (h : DnsNameLabels name labels) (out : Bytes) :
    putDnsName out name = .ok (out ++ encodeName (wireLabels labels)) := by
  by_cases hnil : labels = []
  · subst hnil
    rw [putDnsName, if_pos (h.text.trans (dotted_eq_empty_iff.mpr rfl))]
    rfl
  · have hne : trimEndMatches name '.' ≠ "" := by
      rw [h.text]
      exact mt dotted_eq_empty_iff.mp hnil
    rw [putDnsName_of_ne_empty hne (by rw [h.text]; exact h.fits), h.text, split_dotted hnil,
      putDnsLabels_eq_ok_iff.mpr ⟨?_, rfl⟩, bind_ok, pure_eq_ok, encodeName_eq_flatMap,
      List.append_assoc]
    intro text htext
    obtain ⟨label, hlabel, rfl⟩ := List.mem_map.mp htext
    exact ⟨label.ne_empty, h.short label hlabel⟩

/-- Only such a name is written. -/
theorem labels_of_putDnsName {out out' : Bytes} {name : String}
    (h : putDnsName out name = .ok out') : ∃ labels, DnsNameLabels name labels := by
  by_cases hempty : trimEndMatches name '.' = ""
  · exact ⟨[], ⟨hempty.trans rfl, by simp, by decide⟩⟩
  by_cases hlong : (trimEndMatches name '.').utf8ByteSize > 253
  · rw [putDnsName, if_neg hempty, if_pos hlong] at h
    cases h
  rw [putDnsName_of_ne_empty hempty (Nat.not_lt.mp hlong)] at h
  obtain ⟨written, hwritten, -⟩ := bind_eq_ok_iff.mp h
  obtain ⟨htexts, -⟩ := putDnsLabels_eq_ok_iff.mp hwritten
  obtain ⟨labels, hsplit, hname⟩ := exists_dotted_of_split fun text ht => (htexts text ht).1
  refine ⟨labels, ⟨hname, fun label hlabel => ?_, hname ▸ Nat.not_lt.mp hlong⟩⟩
  refine (htexts label.text ?_).2
  rw [hsplit]
  exact List.mem_map_of_mem hlabel

/-- Which names are written, and what is written for them. -/
theorem putDnsName_eq_ok_iff {out out' : Bytes} {name : String} :
    putDnsName out name = .ok out' ↔
      ∃ labels, DnsNameLabels name labels ∧ out' = out ++ encodeName (wireLabels labels) := by
  constructor
  · intro h
    obtain ⟨labels, hlabels⟩ := labels_of_putDnsName h
    rw [putDnsName_of_labels hlabels] at h
    exact ⟨labels, hlabels, (Outcome.ok.inj h).symm⟩
  · rintro ⟨labels, hlabels, rfl⟩
    exact putDnsName_of_labels hlabels out

/-! ## Reading a name -/

section Parse

variable {message : Bytes} {cursor : ℕ}

theorem pointer_eq_pointerTarget (hi lo : UInt8) :
    (((hi &&& 0x3f).toNat <<< 8) ||| lo.toNat) = pointerTarget hi lo := by
  rw [← Nat.shiftLeft_add_eq_or_of_lt lo.toNat_lt, Nat.shiftLeft_eq]
  rfl

theorem parseDnsNameLoop_root (hlen : message[cursor]? = some 0) (rounds : ℕ)
    (labels : List String) (nextOffset : Option ℕ) :
    parseDnsNameLoop message (rounds + 1) labels cursor nextOffset =
      .ok (String.intercalate "." labels, nextOffset.getD (cursor + 1)) := by
  rw [parseDnsNameLoop, hlen]
  rfl

theorem parseDnsNameLoop_label {len : UInt8} {text : String} (hlen : message[cursor]? = some len)
    (hkind : len &&& 0xc0 = 0) (hne : len ≠ 0)
    (hlabel : getRange message (cursor + 1) (cursor + 1 + len.toNat) = some (asBytes text))
    (rounds : ℕ) (labels : List String) (nextOffset : Option ℕ) :
    parseDnsNameLoop message (rounds + 1) labels cursor nextOffset =
      parseDnsNameLoop message rounds (labels ++ [text]) (cursor + 1 + len.toNat) nextOffset := by
  rw [parseDnsNameLoop, hlen, okOr_some, bind_ok, if_pos hkind, if_neg hne]
  dsimp only
  rw [hlabel, okOr_some, bind_ok, fromUtf8_asBytes, okOr_some, bind_ok]

theorem parseDnsNameLoop_pointer {hi lo : UInt8} (hhi : message[cursor]? = some hi)
    (hkind : hi &&& 0xc0 = 0xc0) (hlo : message[cursor + 1]? = some lo)
    (htarget : pointerTarget hi lo < message.length) (rounds : ℕ) (labels : List String)
    (nextOffset : Option ℕ) :
    parseDnsNameLoop message (rounds + 1) labels cursor nextOffset =
      parseDnsNameLoop message rounds labels (pointerTarget hi lo)
        (nextOffset.or (some (cursor + 2))) := by
  have hplain : ¬ hi &&& 0xc0 = 0 := by
    rw [hkind]
    decide
  rw [parseDnsNameLoop, hhi, okOr_some, bind_ok, if_neg hplain, if_pos hkind, hlo, okOr_some,
    bind_ok]
  dsimp only
  rw [pointer_eq_pointerTarget, if_neg (Nat.not_le.mpr htarget)]

/-- What one round of a reading that succeeds can have met. -/
theorem parseDnsNameLoop_cases {rounds : ℕ} {labels : List String} {nextOffset : Option ℕ}
    {result : String × ℕ}
    (h : parseDnsNameLoop message (rounds + 1) labels cursor nextOffset = .ok result) :
    (message[cursor]? = some 0 ∧
        result = (String.intercalate "." labels, nextOffset.getD (cursor + 1))) ∨
      (∃ len text, message[cursor]? = some len ∧ len &&& 0xc0 = 0 ∧ len ≠ 0 ∧
        getRange message (cursor + 1) (cursor + 1 + len.toNat) = some (asBytes text) ∧
        parseDnsNameLoop message rounds (labels ++ [text]) (cursor + 1 + len.toNat) nextOffset
          = .ok result) ∨
      ∃ hi lo, message[cursor]? = some hi ∧ hi &&& 0xc0 = 0xc0 ∧ message[cursor + 1]? = some lo ∧
        parseDnsNameLoop message rounds labels (pointerTarget hi lo)
          (nextOffset.or (some (cursor + 2))) = .ok result := by
  rw [parseDnsNameLoop] at h
  obtain ⟨len, hlen, h⟩ := bind_eq_ok_iff.mp h
  rw [okOr_eq_ok_iff] at hlen
  by_cases hplain : len &&& 0xc0 = 0
  · rw [if_pos hplain] at h
    by_cases hzero : len = 0
    · rw [if_pos hzero] at h
      exact .inl ⟨hzero ▸ hlen, (Outcome.ok.inj h).symm⟩
    · rw [if_neg hzero] at h
      obtain ⟨label, hlabel, h⟩ := bind_eq_ok_iff.mp h
      obtain ⟨text, htext, hnext⟩ := bind_eq_ok_iff.mp h
      rw [okOr_eq_ok_iff] at hlabel htext
      obtain rfl := fromUtf8_eq_some_iff.mp htext
      exact .inr (.inl ⟨len, text, hlen, hplain, hzero, hlabel, hnext⟩)
  · rw [if_neg hplain] at h
    by_cases hpointer : len &&& 0xc0 = 0xc0
    · rw [if_pos hpointer] at h
      obtain ⟨lo, hlo, h⟩ := bind_eq_ok_iff.mp h
      rw [okOr_eq_ok_iff] at hlo
      dsimp only at h
      rw [pointer_eq_pointerTarget] at h
      by_cases hbeyond : pointerTarget len lo ≥ message.length
      · rw [if_pos hbeyond] at h
        cases h
      · rw [if_neg hbeyond] at h
        exact .inr (.inr ⟨len, lo, hlen, hpointer, hlo, h⟩)
    · rw [if_neg hpointer] at h
      cases h

/-- A name whose labels are text is read if the rounds are enough for it. -/
theorem parseDnsNameLoop_of_nameAt {texts : List String} {next rounds : ℕ}
    (h : NameAt message cursor (texts.map asBytes) next rounds) (fuel : ℕ)
    (labels : List String) (nextOffset : Option ℕ) :
    parseDnsNameLoop message fuel labels cursor nextOffset =
      if rounds ≤ fuel then .ok (String.intercalate "." (labels ++ texts), nextOffset.getD next)
      else .err .invalidDnsPointer := by
  -- the induction follows the bytes of the name; each constructor is one round
  generalize hbytes : texts.map asBytes = wire at h
  induction h generalizing texts fuel labels nextOffset with
  | @root offset hlen =>
      obtain rfl := List.map_eq_nil_iff.mp hbytes
      cases fuel with
      | zero => rfl
      | succ fuel =>
          rw [parseDnsNameLoop_root hlen, if_pos (Nat.le_add_left 1 fuel), List.append_nil]
  | @label offset next rounds len label wire hlen hkind hne hlabel hrest ih =>
      obtain ⟨text, texts, rfl, rfl, rfl⟩ := List.map_eq_cons_iff.mp hbytes
      cases fuel with
      | zero => rfl
      | succ fuel =>
          rw [parseDnsNameLoop_label hlen hkind hne hlabel, ih fuel _ _ rfl, List.append_assoc]
          simp only [Nat.add_le_add_iff_right]
          rfl
  | @pointer offset next rounds hi lo wire hhi hkind hlo htarget ih =>
      have hinside : pointerTarget hi lo < message.length :=
        Nat.lt_of_lt_of_le htarget.lt_next htarget.next_le
      cases fuel with
      | zero => rfl
      | succ fuel =>
          rw [parseDnsNameLoop_pointer hhi hkind hlo hinside, ih fuel _ _ hbytes]
          simp only [Nat.add_le_add_iff_right]
          cases nextOffset <;> rfl

/-- What is read is the name that stands there. -/
theorem nameAt_of_parseDnsNameLoop {fuel : ℕ} {labels : List String} {nextOffset : Option ℕ}
    {result : String × ℕ}
    (h : parseDnsNameLoop message fuel labels cursor nextOffset = .ok result) :
    ∃ texts next rounds, NameAt message cursor (texts.map asBytes) next rounds ∧ rounds ≤ fuel ∧
      result = (String.intercalate "." (labels ++ texts), nextOffset.getD next) := by
  induction fuel generalizing labels cursor nextOffset with
  | zero => cases h
  | succ fuel ih =>
      obtain ⟨hlen, rfl⟩ | ⟨len, text, hlen, hkind, hne, hlabel, h⟩ |
        ⟨hi, lo, hhi, hkind, hlo, h⟩ := parseDnsNameLoop_cases h
      · exact ⟨[], cursor + 1, 1, .root hlen, by omega, by rw [List.append_nil]⟩
      · obtain ⟨texts, next, rounds, hname, hrounds, rfl⟩ := ih h
        refine ⟨text :: texts, next, rounds + 1, .label hlen hkind hne hlabel hname, by omega, ?_⟩
        rw [List.append_assoc]
        rfl
      · obtain ⟨texts, next, rounds, hname, hrounds, rfl⟩ := ih h
        refine ⟨texts, cursor + 2, rounds + 1, .pointer hhi hkind hlo hname, by omega, ?_⟩
        cases nextOffset <;> rfl

theorem parseDnsName_of_nameAt {texts : List String} {offset next rounds : ℕ}
    (h : NameAt message offset (texts.map asBytes) next rounds) :
    parseDnsName message offset =
      if rounds ≤ 128 then .ok (String.intercalate "." texts, next)
      else .err .invalidDnsPointer :=
  parseDnsNameLoop_of_nameAt h 128 [] none

theorem nameAt_of_parseDnsName {offset next : ℕ} {name : String}
    (h : parseDnsName message offset = .ok (name, next)) :
    ∃ texts rounds, NameAt message offset (texts.map asBytes) next rounds ∧ rounds ≤ 128 ∧
      name = String.intercalate "." texts := by
  obtain ⟨texts, next', rounds, hname, hrounds, heq⟩ := nameAt_of_parseDnsNameLoop h
  obtain ⟨rfl, rfl⟩ := Prod.mk.inj heq
  exact ⟨texts, rounds, hname, hrounds, rfl⟩

/-- A name takes at least one byte and ends inside the message. -/
theorem lt_next_of_parseDnsName {offset next : ℕ} {name : String}
    (h : parseDnsName message offset = .ok (name, next)) :
    offset < next ∧ next ≤ message.length := by
  obtain ⟨texts, rounds, hname, -, -⟩ := nameAt_of_parseDnsName h
  exact ⟨hname.lt_next, hname.next_le⟩

theorem parseDnsNameLoop_ne_panic (fuel : ℕ) (labels : List String) (cursor : ℕ)
    (nextOffset : Option ℕ) :
    parseDnsNameLoop message fuel labels cursor nextOffset ≠ .panic := by
  induction fuel generalizing labels cursor nextOffset with
  | zero => simp [parseDnsNameLoop]
  | succ fuel ih =>
      rw [parseDnsNameLoop]
      refine bind_ne_panic okOr_ne_panic fun len _ => ?_
      split
      · split
        · simp
        · exact bind_ne_panic okOr_ne_panic fun _ _ =>
            bind_ne_panic okOr_ne_panic fun _ _ => ih _ _ _
      · split
        · refine bind_ne_panic okOr_ne_panic fun lo _ => ?_
          dsimp only
          split
          · simp
          · exact ih _ _ _
        · simp

theorem parseDnsName_ne_panic (offset : ℕ) : parseDnsName message offset ≠ .panic :=
  parseDnsNameLoop_ne_panic 128 [] offset none

end Parse

/-! ### Names without pointers -/

theorem parseUncompressedLoop_label {input : Bytes} {cursor : ℕ} {len : UInt8} {text : String}
    (hlen : input[cursor]? = some len) (hkind : len &&& 0xc0 = 0) (hne : len ≠ 0)
    (hlabel : getRange input (cursor + 1) (cursor + 1 + len.toNat) = some (asBytes text))
    (hfits : cursor + 1 + len.toNat < 255) (rounds : ℕ) (labels : List String) :
    parseUncompressedLoop input (rounds + 1) labels cursor =
      parseUncompressedLoop input rounds (labels ++ [text]) (cursor + 1 + len.toNat) := by
  rw [parseUncompressedLoop, hlen, okOr_some, bind_ok, if_neg (not_not.mpr hkind), if_neg hne]
  dsimp only
  rw [hlabel, okOr_some, bind_ok, fromUtf8_asBytes, okOr_some, bind_ok,
    if_neg (Nat.not_le.mpr hfits)]

theorem parseUncompressedLoop_encodeName {texts : List String}
    (hwire : ∀ label ∈ texts.map asBytes, IsWireLabel label) (front : Bytes)
    (labels : List String) (spare : ℕ)
    (hfits : front.length + (encodeName (texts.map asBytes)).length ≤ 255) :
    parseUncompressedLoop (front ++ (encodeName (texts.map asBytes) ++ []))
        (spare + 1 + texts.length) labels front.length =
      .ok (String.intercalate "." (labels ++ texts),
        front.length + (encodeName (texts.map asBytes)).length) := by
  induction texts generalizing front labels with
  | nil =>
      have hlen : (front ++ ([0] ++ []))[front.length]? = some 0 := by simp
      rw [List.map_nil, encodeName_nil, List.length_singleton] at hfits ⊢
      rw [List.length_nil, Nat.add_zero, parseUncompressedLoop, hlen, okOr_some, bind_ok,
        if_neg (by decide), if_pos rfl, if_neg (Nat.not_lt.mpr hfits), List.append_nil, pure_eq_ok]
  | cons text texts ih =>
      obtain ⟨hlabel, hrest⟩ := List.forall_mem_cons.mp hwire
      have hsize : (encodeName ((text :: texts).map asBytes)).length =
          1 + (asBytes text).length + (encodeName (texts.map asBytes)).length := by
        rw [List.map_cons, encodeName_cons, List.length_cons, List.length_append]
        omega
      have hpos : 0 < (encodeName (texts.map asBytes)).length := by simp [encodeName]
      have hcursor := length_append_label front hlabel
      have hbyte := toNat_lengthByte hlabel
      have hstep := ih hrest (front ++ UInt8.ofNat (asBytes text).length :: asBytes text)
        (labels ++ [text]) (by rw [hcursor, hbyte]; omega)
      rw [← append_encodeName_cons, hcursor, List.append_assoc] at hstep
      rw [List.length_cons, ← Nat.add_assoc, List.map_cons,
        parseUncompressedLoop_label (getElem?_encodeName_cons _ front [])
          (lengthByte_kind hlabel.2) (lengthByte_ne_zero hlabel)
          (getRange_encodeName_cons _ front [] hlabel) (by rw [hbyte]; omega), hstep]
      rw [List.map_cons] at hsize
      rw [hsize, hbyte, ← Nat.add_assoc, ← Nat.add_assoc]
      rfl

theorem parseUncompressedLoop_ne_panic (input : Bytes) (rounds : ℕ) (labels : List String)
    (cursor : ℕ) : parseUncompressedLoop input rounds labels cursor ≠ .panic := by
  induction rounds generalizing labels cursor with
  | zero => simp [parseUncompressedLoop]
  | succ rounds ih =>
      rw [parseUncompressedLoop]
      refine bind_ne_panic okOr_ne_panic fun len _ => ?_
      split
      · simp
      · split
        · split
          · simp
          · simp
        · refine bind_ne_panic okOr_ne_panic fun _ _ => bind_ne_panic okOr_ne_panic fun _ _ => ?_
          split
          · simp
          · exact ih _ _

theorem length_wireLabels (labels : List DnsLabel) : (wireLabels labels).length = labels.length :=
  List.length_map _

theorem wireLabels_eq_map_asBytes (labels : List DnsLabel) :
    wireLabels labels = (labels.map DnsLabel.text).map asBytes := by
  rw [wireLabels, List.map_map]
  rfl

/-- The wire form of a name takes at most 255 bytes. -/
theorem DnsNameLabels.length_encodeName_le {name : String} {labels : List DnsLabel}
    (h : DnsNameLabels name labels) : (encodeName (wireLabels labels)).length ≤ 255 := by
  by_cases hnil : labels = []
  · subst hnil
    decide
  · have hfits := h.fits
    rw [length_encodeName_wireLabels hnil]
    omega

/-- What `put_dns_name` writes is what both readers read, wherever it stands in a message: the
name without the dots behind it, up to the last byte that was written. -/
theorem parse_putDnsName {name : String} {wire : Bytes} (h : putDnsName [] name = .ok wire)
    (out front back : Bytes) :
    putDnsName out name = .ok (out ++ wire) ∧
      parseDnsName (front ++ wire ++ back) front.length =
        .ok (trimEndMatches name '.', front.length + wire.length) ∧
      parseUncompressedDnsName wire = .ok (trimEndMatches name '.', wire.length) := by
  obtain ⟨labels, hlabels, hwire⟩ := putDnsName_eq_ok_iff.mp h
  rw [List.nil_append] at hwire
  subst hwire
  have hlength := hlabels.length_le
  have htext : trimEndMatches name '.' = String.intercalate "." (labels.map DnsLabel.text) := by
    rw [hlabels.text, dotted_zero]
  refine ⟨putDnsName_of_labels hlabels out, ?_, ?_⟩
  · have hname := nameAt_encodeName hlabels.isWireLabel front back
    rw [length_wireLabels, wireLabels_eq_map_asBytes] at hname
    -- one round for each label and one for the end of the name
    rw [List.append_assoc, wireLabels_eq_map_asBytes, parseDnsName_of_nameAt hname,
      if_pos (by omega), htext]
  · have hwire : ∀ label ∈ (labels.map DnsLabel.text).map asBytes, IsWireLabel label := by
      rw [← wireLabels_eq_map_asBytes]
      exact hlabels.isWireLabel
    have hfits := hlabels.length_encodeName_le
    have hplain := parseUncompressedLoop_encodeName hwire [] [] (127 - labels.length)
      (by rw [← wireLabels_eq_map_asBytes, List.length_nil, Nat.zero_add]; exact hfits)
    have hrounds : 127 - labels.length + 1 + (labels.map DnsLabel.text).length = 128 := by
      rw [List.length_map]
      omega
    rw [hrounds, ← wireLabels_eq_map_asBytes, List.nil_append, List.nil_append, List.append_nil,
      List.length_nil, Nat.zero_add, ← htext] at hplain
    exact hplain

theorem DnsLabel.oneLetter_ne_empty : "a" ≠ "" := by decide

theorem DnsLabel.oneLetter_noDot : '.' ∉ "a".toList := by decide

def DnsLabel.oneLetter : DnsLabel := ⟨"a", oneLetter_ne_empty, oneLetter_noDot⟩

/-- The most labels a name can have: 127 of them in 253 bytes of text. -/
def longestLabels : List DnsLabel := List.replicate 127 .oneLetter

theorem longestLabels_ne_nil : longestLabels ≠ [] :=
  List.cons_ne_nil DnsLabel.oneLetter (List.replicate 126 .oneLetter)

theorem utf8ByteSize_longest : (dotted longestLabels 0).utf8ByteSize = 253 := by
  have hsum : (longestLabels.map fun label => label.text.utf8ByteSize + 1).sum = 254 := by
    rw [longestLabels, List.map_replicate, List.sum_replicate]
    rfl
  have hsize := utf8ByteSize_dotted_add_one longestLabels_ne_nil
  omega

theorem dnsNameLabels_longest : DnsNameLabels (dotted longestLabels 0) longestLabels where
  text := trimEndMatches_dotted longestLabels 0
  short := by
    intro label hlabel
    rw [List.eq_of_mem_replicate hlabel]
    decide
  fits := utf8ByteSize_longest.le

theorem parse_putDnsName_longest :
    ∃ wire, putDnsName [] (dotted longestLabels 0) = .ok wire ∧ wire.length = 255 ∧
      parseDnsName ([0xc0] ++ wire ++ [1]) 1 = .ok (dotted longestLabels 0, 256) ∧
      parseUncompressedDnsName wire = .ok (dotted longestLabels 0, 255) := by
  have hput := putDnsName_of_labels dnsNameLabels_longest []
  rw [List.nil_append] at hput
  obtain ⟨-, hparse, hplain⟩ := parse_putDnsName hput [] [0xc0] [1]
  have hlen : (encodeName (wireLabels longestLabels)).length = 255 := by
    rw [length_encodeName_wireLabels longestLabels_ne_nil, utf8ByteSize_longest]
  rw [trimEndMatches_dotted, hlen] at hparse hplain
  exact ⟨_, hput, hlen, hparse, hplain⟩

/-! ## Replacing a suffix -/

theorem eqIgnoreAsciiCase_dotted (left right : List DnsLabel) :
    eqIgnoreAsciiCase (dotted left 0) (dotted right 0) = true ↔ SameLabels left right := by
  have h := dnsNameEq_dotted left right 0 0
  rwa [dnsNameEq, trimEndMatches_dotted, trimEndMatches_dotted] at h

theorem SameLabels.length_eq {left right : List DnsLabel} (h : SameLabels left right) :
    left.length = right.length := by
  have hlen := congrArg List.length h
  rwa [List.length_map, List.length_map] at hlen

theorem SameLabels.utf8ByteSize_dotted {left right : List DnsLabel} (h : SameLabels left right) :
    (dotted left 0).utf8ByteSize = (dotted right 0).utf8ByteSize := by
  rw [← utf8ByteSize_toAsciiLowercase (dotted left 0),
    ← utf8ByteSize_toAsciiLowercase (dotted right 0)]
  have heq := (eqIgnoreAsciiCase_dotted left right).mpr h
  rw [eqIgnoreAsciiCase, beq_iff_eq] at heq
  rw [heq]

/-- A name with labels above others. -/
theorem toList_dotted_append {above below : List DnsLabel} (habove : above ≠ [])
    (hbelow : below ≠ []) :
    (dotted (above ++ below) 0).toList =
      (dotted above 0).toList ++ '.' :: (dotted below 0).toList := by
  rw [toList_dotted_zero, toList_dotted_zero, toList_dotted_zero, DnsLabel.chars_append]
  exact intercalate_append (by simpa using habove) (by simpa using hbelow)

theorem utf8ByteSize_dotted_append {above below : List DnsLabel} (habove : above ≠ [])
    (hbelow : below ≠ []) :
    (dotted (above ++ below) 0).utf8ByteSize =
      (dotted above 0).utf8ByteSize + (1 + (dotted below 0).utf8ByteSize) := by
  have hdot : ('.' : Char).utf8Size = 1 := by decide
  rw [utf8ByteSize_eq_sum, utf8ByteSize_eq_sum, utf8ByteSize_eq_sum,
    toList_dotted_append habove hbelow, List.map_append, List.sum_append, List.map_cons,
    List.sum_cons, hdot]

theorem toList_dot_append (s : String) : ("." ++ s).toList = '.' :: s.toList := by
  rw [String.toList_append, toList_dot]
  rfl

theorem utf8ByteSize_dot_append (s : String) : ("." ++ s).utf8ByteSize = 1 + s.utf8ByteSize := by
  have hdot : ('.' : Char).utf8Size = 1 := by decide
  rw [utf8ByteSize_eq_sum, toList_dot_append, List.map_cons, List.sum_cons, hdot,
    utf8ByteSize_eq_sum]

/-- The labels `o` stand, case aside, under the labels `above` in `q`. -/
def IsBelow (q above o : List DnsLabel) : Prop :=
  ∃ below, q = above ++ below ∧ above ≠ [] ∧ SameLabels below o

/-- The suffix of the text starts at a label. -/
theorem endsWith_dotted_iff {q o : List DnsLabel} (ho : o ≠ []) :
    endsWith (toAsciiLowercase (dotted q 0)) (toAsciiLowercase ("." ++ dotted o 0)) = true ↔
      ∃ above, IsBelow q above o := by
  have hsuffix : (toAsciiLowercase ("." ++ dotted o 0)).toList =
      '.' :: ['.'].intercalate ((chars o).map (List.map Char.toLower)) := by
    rw [toList_toAsciiLowercase, toList_dot_append, List.map_cons, map_toLower_dotted]
    rfl
  have hquery : (toAsciiLowercase (dotted q 0)).toList =
      ['.'].intercalate ((chars q).map (List.map Char.toLower)) := by
    rw [toList_toAsciiLowercase, map_toLower_dotted]
  have hne : (chars o).map (List.map Char.toLower) ≠ [] := by simpa using ho
  rw [endsWith_iff, hsuffix, hquery]
  constructor
  · rintro ⟨front, hfront⟩
    obtain ⟨lowerAbove, habove, hsplit, -⟩ :=
      (suffix_intercalate_iff (pieces_toLower q) (pieces_toLower o) hne front).mp hfront.symm
    -- the split of the lower-cased labels is a split of the labels
    rw [DnsLabel.chars, List.map_map] at hsplit
    obtain ⟨above, below, rfl, rfl, hbelow⟩ := List.map_eq_append_iff.mp hsplit
    refine ⟨above, below, rfl, by simpa using habove, sameLabels_iff_chars.mpr ?_⟩
    rw [← hbelow, DnsLabel.chars, List.map_map]
  · rintro ⟨above, below, rfl, habove, hsame⟩
    refine ⟨['.'].intercalate ((chars above).map (List.map Char.toLower)), ?_⟩
    rw [DnsLabel.chars_append, List.map_append, sameLabels_iff_chars.mp hsame]
    exact (intercalate_append (by simpa using habove) hne).symm

theorem dotted_append {above below : List DnsLabel} (habove : above ≠ []) (hbelow : below ≠ []) :
    dotted above 0 ++ "." ++ dotted below 0 = dotted (above ++ below) 0 := by
  rw [← String.toList_inj, toList_dotted_append habove hbelow, String.toList_append,
    String.toList_append, toList_dot, List.append_assoc]
  rfl

section ApplyDname

variable {q o t : List DnsLabel} (i j k : ℕ)

theorem applyDname_of_same (h : SameLabels q o) :
    applyDname (dotted q i) (dotted o j) (dotted t k) = .ok (some (dotted t 0)) := by
  rw [applyDname, trimEndMatches_dotted, trimEndMatches_dotted, trimEndMatches_dotted,
    if_pos ((eqIgnoreAsciiCase_dotted q o).mpr h)]

theorem IsBelow.not_same {above : List DnsLabel} (h : IsBelow q above o) : ¬ SameLabels q o := by
  obtain ⟨below, rfl, habove, hsame⟩ := h
  intro hall
  have hlen := hall.length_eq
  have hpos := List.length_pos_of_ne_nil habove
  rw [List.length_append, hsame.length_eq] at hlen
  omega

theorem IsBelow.unique {above above' : List DnsLabel} (h : IsBelow q above o)
    (h' : IsBelow q above' o) : above = above' := by
  obtain ⟨below, rfl, -, hsame⟩ := h
  obtain ⟨below', heq, -, hsame'⟩ := h'
  have hlen : below.length = below'.length := hsame.length_eq.trans hsame'.length_eq.symm
  exact (List.append_inj' heq hlen).1

/-- The cut falls between two labels. -/
theorem applyDname_of_isBelow {above : List DnsLabel} (ho : o ≠ []) (ht : t ≠ [])
    (h : IsBelow q above o) :
    applyDname (dotted q i) (dotted o j) (dotted t k) = .ok (some (dotted (above ++ t) 0)) := by
  have hends := (endsWith_dotted_iff ho).mpr ⟨above, h⟩
  have hdiffer : ¬ eqIgnoreAsciiCase (dotted q 0) (dotted o 0) = true :=
    mt (eqIgnoreAsciiCase_dotted q o).mp h.not_same
  obtain ⟨below, rfl, habove, hsame⟩ := h
  have hbelow : below ≠ [] := by
    rintro rfl
    exact ho (List.length_eq_zero_iff.mp hsame.length_eq.symm)
  have hsize : (dotted (above ++ below) 0).utf8ByteSize =
      (dotted above 0).utf8ByteSize + ("." ++ dotted o 0).utf8ByteSize := by
    rw [utf8ByteSize_dotted_append habove hbelow, hsame.utf8ByteSize_dotted,
      utf8ByteSize_dot_append]
  rw [applyDname, trimEndMatches_dotted, trimEndMatches_dotted, trimEndMatches_dotted,
    if_neg hdiffer, if_pos hends, hsize, if_neg (by omega), Nat.add_sub_cancel,
    sliceTo_of_toList_eq (toList_dotted_append habove hbelow), bind_ok, pure_eq_ok,
    dotted_append habove ht]

theorem applyDname_of_not (ho : o ≠ []) (hsame : ¬ SameLabels q o)
    (hbelow : ¬ ∃ above, IsBelow q above o) :
    applyDname (dotted q i) (dotted o j) (dotted t k) = .ok none := by
  rw [applyDname, trimEndMatches_dotted, trimEndMatches_dotted, trimEndMatches_dotted,
    if_neg (mt (eqIgnoreAsciiCase_dotted q o).mp hsame),
    if_neg (mt (endsWith_dotted_iff ho).mp hbelow)]

/-- Whatever the texts are, the cut falls between two characters. -/
theorem applyDname_ne_panic (queryName owner target : String) :
    applyDname queryName owner target ≠ .panic := by
  rw [applyDname]
  split
  · simp
  · dsimp only
    split
    · next hends =>
        obtain ⟨front, back, hlist, hsize⟩ := exists_split_of_endsWith hends
        rw [hsize, if_neg (by omega), Nat.add_sub_cancel, sliceTo_of_toList_eq hlist]
        simp
    · simp

/-- `apply_dname` redirects exactly the names below the owner, and cuts them at a label, for
every query name but the owner itself: that one it redirects as well. -/
theorem applyDname_iff (q o t : List DnsLabel) (ho : o ≠ []) (ht : t ≠ []) (i j k : ℕ) :
    (applyDname (dotted q i) (dotted o j) (dotted t k) ≠ .panic ∧
        ∀ n, applyDname (dotted q i) (dotted o j) (dotted t k) = .ok (some n) ↔
          ∃ above, IsBelow q above o ∧ n = dotted (above ++ t) 0) ↔
      ¬ SameLabels q o := by
  constructor
  · rintro ⟨-, hiff⟩ hsame
    obtain ⟨above, habove, -⟩ := (hiff (dotted t 0)).mp (applyDname_of_same i j k hsame)
    exact habove.not_same hsame
  · intro hdiffer
    by_cases hbelow : ∃ above, IsBelow q above o
    · obtain ⟨above, habove⟩ := hbelow
      rw [applyDname_of_isBelow i j k ho ht habove]
      refine ⟨by simp, fun n => ⟨fun h => ?_, ?_⟩⟩
      · exact ⟨above, habove, (Option.some.inj (Outcome.ok.inj h)).symm⟩
      · rintro ⟨above', habove', rfl⟩
        rw [habove.unique habove']
    · rw [applyDname_of_not i j k ho hdiffer hbelow]
      refine ⟨by simp, fun n => ⟨fun h => ?_, fun h => ?_⟩⟩
      · cases h
      · obtain ⟨above, habove, -⟩ := h
        exact absurd ⟨above, habove⟩ hbelow

theorem applyDname_below :
    [DnsLabel.oneLetter] ≠ [] ∧
      applyDname "a.a." "a" "a.a" ≠ .panic ∧
      ∀ n, applyDname "a.a." "a" "a.a" = .ok (some n) ↔
        ∃ above, IsBelow [.oneLetter, .oneLetter] above [.oneLetter] ∧
          n = dotted (above ++ [.oneLetter, .oneLetter]) 0 :=
  ⟨List.cons_ne_nil _ _,
    (applyDname_iff [.oneLetter, .oneLetter] [.oneLetter] [.oneLetter, .oneLetter]
      (List.cons_ne_nil _ _) (List.cons_ne_nil _ _) 1 0 0).mpr (by decide +kernel)⟩

/-- The owner of a DNAME record, asked for, is redirected although nothing stands above it. -/
theorem applyDname_owner :
    "a" = dotted [.oneLetter] 0 ∧ "a.a" = dotted [.oneLetter, .oneLetter] 0 ∧
      applyDname "a" "a" "a.a" = .ok (some "a.a") ∧
      ¬ ∃ above, IsBelow [.oneLetter] above [.oneLetter] := by
  refine ⟨by decide +kernel, by decide +kernel, by decide +kernel, ?_⟩
  rintro ⟨above, habove⟩
  exact habove.not_same rfl

end ApplyDname

end Amt

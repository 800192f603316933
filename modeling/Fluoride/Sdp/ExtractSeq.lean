import Fluoride.Sdp.Discovery
import Fluoride.Lib.Suffix
import Fluoride.Lib.AdjacentSwap

/-!
# SDP — attribute id and UUID sequences of a request (`sdp_utils.cc`)

A client writes the attribute ids it asks for with `sdpu_build_attrib_seq`: a data element
sequence of 16-bit unsigned integers, or, for no list, the single range `0x0000-0xFFFF`. The
server reads such a sequence with `sdpu_extract_attr_seq`, and the UUID pattern of a
ServiceSearchRequest with `sdpu_extract_uid_seq`, into arrays of `MAX_ATTR_PER_SEQ` and
`MAX_UUIDS_PER_SEQ` entries.

Both readers check the sequence header against `param_len` and each element against the
sequence end before they read it; they stop with `NULL` when an element is malformed and when
the array is full. The request is the list of its bytes from `p`, so a pointer is an offset;
each element loop is a `Cursor.cursorLoop` up to the sequence end.

Results: a list of fewer than `MAX_ATTR_PER_SEQ` ids is read back as single-id entries
(`sdpuExtractAttrSeq_build`), and the wildcard as the one range (`sdpuExtractAttrSeq_wildcard`);
neither reader looks past `param_len` bytes (`sdpuExtractAttrSeq_append`,
`sdpuExtractUidSeq_append`) and neither stores more entries than its array has
(`length_sdpuExtractAttrSeq_le`, `length_sdpuExtractUidSeq_le`).
-/

namespace Sdp

open Cursor

/-! ## Descriptor sizes (`sdpdefs.h`, `sdpint.h`) -/

def sizeOneByte : UInt8 := 0
def sizeTwoBytes : UInt8 := 1
def sizeFourBytes : UInt8 := 2
def sizeEightBytes : UInt8 := 3
def sizeSixteenBytes : UInt8 := 4
def sizeInNextByte : UInt8 := 5
def sizeInNextWord : UInt8 := 6
def sizeInNextLong : UInt8 := 7

def maxAttrPerSeq : Nat := 16
def maxUuidsPerSeq : Nat := 16

/-- `UINT16_TO_BE_STREAM`. -/
def uint16ToBeStream (v : UInt16) : List UInt8 := [(v >>> 8).toUInt8, v.toUInt8]

/-! ## `sdpu_build_attrib_seq` -/

/-- `sdpu_build_attrib_seq(p_out, p_attr, num_attrs)`, `none` for a `NULL` list. -/
def sdpuBuildAttribSeq (pAttr : Option (List UInt16)) : List UInt8 :=
  -- "If no attributes, assume a 4-byte wildcard"
  let xx : Nat := match pAttr with
    | none => 5
    | some attrs => attrs.length * 3 % 65536
  let header :=
    if xx > 255 then ((dataEleSeqDescType <<< 3) ||| sizeInNextWord) :: uint16ToBeStream xx.toUInt16
    else [(dataEleSeqDescType <<< 3) ||| sizeInNextByte, xx.toUInt8]
  match pAttr with
  | none =>
    header ++ ((uintDescType <<< 3) ||| sizeFourBytes) :: uint16ToBeStream 0 ++ uint16ToBeStream 0xFFFF
  | some attrs =>
    header ++ attrs.flatMap fun attr => ((uintDescType <<< 3) ||| sizeTwoBytes) :: uint16ToBeStream attr

/-! ## The readers -/

/-- The size switch of both readers on the size bits of a header at `p`, whose size field
starts at `p`: the length it gives and the bytes of the size field, `none` where it returns
`NULL`. `fixed` are the sizes the switch takes as the length itself; a length in the next
one, two or four bytes is read only when those bytes end by `pEnd`. -/
def elementLength (fixed : UInt8 → Option Nat) (b : List UInt8) (p pEnd : Nat) (size : UInt8) :
    Option (Nat × Nat) :=
  match fixed size with
  | some len => some (len, 0)
  | none =>
    if size = sizeInNextByte then
      if pEnd < p + 1 then none else some ((b.getD p 0).toNat, 1)
    else if size = sizeInNextWord then
      if pEnd < p + 2 then none else some ((beStreamToUint16 b p).toNat, 2)
    else if size = sizeInNextLong then
      if pEnd < p + 4 then none else some ((beStreamToUint32 b p).toNat, 4)
    else none

/-- The sizes `sdpu_extract_attr_seq` takes for an id or a range. -/
def attrFixedSize (size : UInt8) : Option Nat :=
  if size = sizeTwoBytes then some 2 else if size = sizeFourBytes then some 4 else none

/-- The sizes `sdpu_extract_uid_seq` takes for a UUID, and for its sequence header. -/
def uuidFixedSize (size : UInt8) : Option Nat :=
  if size = sizeTwoBytes then some 2
  else if size = sizeFourBytes then some 4
  else if size = sizeSixteenBytes then some 16
  else none

/-- The sequence header of both readers: the offset of the first element and the end of the
sequence, which lies within `param_len`. -/
def extractSeqHeader (fixed : UInt8 → Option Nat) (b : List UInt8) (paramLen : Nat) :
    Option (Nat × Nat) :=
  if paramLen < 1 then none
  else
    let descr := b.getD 0 0
    if descr >>> 3 ≠ dataEleSeqDescType then none
    else
      match elementLength fixed b 1 paramLen (descr &&& 7) with
      | none => none
      | some (listLen, sizeBytes) =>
        let p := 1 + sizeBytes
        -- `list_len > param_len`, what is left of it after the header
        if paramLen < p + listLen then none else some (p, p + listLen)

/-- One element of `sdpu_extract_attr_seq`: an id or a range stored at `attr_entry[num_attr]`. -/
def extractAttrEntry (b : List UInt8) (pEndList p : Nat) (attrEntry : List AttEnt) :
    Advance (List AttEnt) p :=
  let descr := b.getD p 0
  if descr >>> 3 ≠ uintDescType then (attrEntry, none)
  else
    match elementLength attrFixedSize b (p + 1) pEndList (descr &&& 7) with
    | none => (attrEntry, none)
    | some (attrLen, sizeBytes) =>
      let q := p + 1 + sizeBytes
      if pEndList < q + attrLen then (attrEntry, none)
      else if attrLen = 2 then
        let start := beStreamToUint16 b q
        let attrEntry := attrEntry ++ [⟨start, start⟩]
        -- "We can only do so many"
        if maxAttrPerSeq ≤ attrEntry.length then (attrEntry, none)
        else (attrEntry, some ⟨q + 2, by omega⟩)
      else if attrLen = 4 then
        let attrEntry := attrEntry ++ [⟨beStreamToUint16 b q, beStreamToUint16 b (q + 2)⟩]
        if maxAttrPerSeq ≤ attrEntry.length then (attrEntry, none)
        else (attrEntry, some ⟨q + 4, by omega⟩)
      else (attrEntry, none)

/-- `sdpu_extract_attr_seq(p, param_len, p_seq)`: the entries it leaves in `p_seq`, also when
it fails, and the offset it returns after the sequence, `none` for `NULL`. -/
def sdpuExtractAttrSeq (b : List UInt8) (paramLen : Nat) : List AttEnt × Option Nat :=
  match extractSeqHeader (fun _ => none) b paramLen with
  | none => ([], none)
  | some (p, pEndList) =>
    let loop := cursorLoop (extractAttrEntry b pEndList) pEndList p []
    (loop.1, loop.2.map Subtype.val)

/-- `tSDP_UUID_SEQ::uuid_entry`: the length and the bytes of a UUID. -/
structure UuidEntry where
  len : Nat
  value : List UInt8
  deriving DecidableEq, Repr

/-- One element of `sdpu_extract_uid_seq`. -/
def extractUidEntry (b : List UInt8) (pSeqEnd p : Nat) (uuidEntry : List UuidEntry) :
    Advance (List UuidEntry) p :=
  let descr := b.getD p 0
  if descr >>> 3 ≠ uuidDescType then (uuidEntry, none)
  else
    match elementLength uuidFixedSize b (p + 1) pSeqEnd (descr &&& 7) with
    | none => (uuidEntry, none)
    | some (uuidLen, sizeBytes) =>
      let q := p + 1 + sizeBytes
      -- "If UUID length is valid, copy it across"
      if (uuidLen = 2 ∨ uuidLen = 4 ∨ uuidLen = 16) ∧ q + uuidLen ≤ pSeqEnd then
        let uuidEntry := uuidEntry ++ [⟨uuidLen, beStreamToArray b q uuidLen⟩]
        if maxUuidsPerSeq ≤ uuidEntry.length then (uuidEntry, none)
        else (uuidEntry, some ⟨q + uuidLen, by omega⟩)
      else (uuidEntry, none)

/-- `sdpu_extract_uid_seq(p, param_len, p_seq)`: the entries left in `p_seq` and the offset
returned. -/
def sdpuExtractUidSeq (b : List UInt8) (paramLen : Nat) : List UuidEntry × Option Nat :=
  match extractSeqHeader uuidFixedSize b paramLen with
  | none => ([], none)
  | some (p, pSeqEnd) =>
    let loop := cursorLoop (extractUidEntry b pSeqEnd) pSeqEnd p []
    (loop.1, match loop.2 with
      | none => none
      | some q => if q.1 ≠ pSeqEnd then none else some q.1)

/-! ## Reading back what `sdpu_build_attrib_seq` writes -/

theorem beStreamToUint16_of_drop {b rest : List UInt8} {p : Nat} {v : UInt16}
    (h : b.drop p = uint16ToBeStream v ++ rest) : beStreamToUint16 b p = v := by
  have high := Suffix.getD_of_drop_eq_cons (d := 0) h
  have low := Suffix.getD_of_drop_eq_cons (d := 0) (Suffix.drop_succ_of_drop_eq_cons h)
  rw [beStreamToUint16, high, low]
  apply UInt16.toNat_inj.mp
  have eight : (8 : UInt16).toNat % 16 = 8 := rfl
  simp only [UInt16.toNat_add, UInt16.toNat_shiftLeft, UInt16.toNat_shiftRight,
    UInt8.toNat_toUInt16, UInt16.toNat_toUInt8, Nat.shiftLeft_eq, Nat.shiftRight_eq_div_pow, eight]
  have := v.toNat_lt
  omega

/-- An id element `0x09 hi lo` that ends within the sequence is stored as the range of that
one id. -/
theorem extractAttrEntry_id {b rest : List UInt8} {p pEnd : Nat} {attr : UInt16}
    (h : b.drop p = 0x09 :: uint16ToBeStream attr ++ rest) (within : p + 3 ≤ pEnd)
    (attrEntry : List AttEnt) (room : attrEntry.length + 1 < maxAttrPerSeq) :
    extractAttrEntry b pEnd p attrEntry =
      (attrEntry ++ [⟨attr, attr⟩], some ⟨p + 3, by omega⟩) := by
  have descr := Suffix.getD_of_drop_eq_cons (d := 0) h
  have start := beStreamToUint16_of_drop (Suffix.drop_succ_of_drop_eq_cons h)
  have size : elementLength attrFixedSize b (p + 1) pEnd ((0x09 : UInt8) &&& 7) = some (2, 0) :=
    rfl
  simp only [extractAttrEntry, descr]
  rw [if_neg (by decide), size]
  dsimp only
  rw [if_neg (by omega), if_pos rfl]
  simp only [Nat.add_zero, start]
  rw [if_neg (by simp only [List.length_append, List.length_singleton]; omega)]

/-- The id elements from `p` to the sequence end are stored in order, and the loop stops at
the end. -/
theorem cursorLoop_extractAttrEntry_ids {b : List UInt8} {pEnd : Nat} :
    ∀ (attrs : List UInt16) (p : Nat) (attrEntry : List AttEnt) (rest : List UInt8),
      b.drop p = attrs.flatMap (fun attr => 0x09 :: uint16ToBeStream attr) ++ rest →
      pEnd = p + 3 * attrs.length → attrEntry.length + attrs.length < maxAttrPerSeq →
      (cursorLoop (extractAttrEntry b pEnd) pEnd p attrEntry).1 =
          attrEntry ++ attrs.map (fun attr => ⟨attr, attr⟩) ∧
        (cursorLoop (extractAttrEntry b pEnd) pEnd p attrEntry).2.map Subtype.val = some pEnd
  | [], p, attrEntry, rest, _, ends, _ => by
    rw [cursorLoop_of_le (by simp only [ends, List.length_nil]; omega)]
    simp [ends]
  | attr :: attrs, p, attrEntry, rest, h, ends, room => by
    simp only [List.length_cons] at ends room
    have first : b.drop p = (0x09 :: uint16ToBeStream attr) ++
        (attrs.flatMap (fun attr => 0x09 :: uint16ToBeStream attr) ++ rest) := by
      rw [h, List.flatMap_cons, List.append_assoc]
    have after := Suffix.drop_add_of_drop_eq first
    have step : extractAttrEntry b pEnd p attrEntry = _ :=
      extractAttrEntry_id first (by omega) attrEntry (by omega)
    obtain ⟨stored, ended⟩ := cursorLoop_of_next (show p < pEnd by omega) step
    have room' : (attrEntry ++ [AttEnt.mk attr attr]).length + attrs.length < maxAttrPerSeq := by
      simp only [List.length_append, List.length_singleton]
      omega
    obtain ⟨stored', ended'⟩ := cursorLoop_extractAttrEntry_ids attrs (p + 3)
      (attrEntry ++ [⟨attr, attr⟩]) rest after (show pEnd = p + 3 + 3 * attrs.length by omega) room'
    rw [stored, ended, stored', ended']
    simp

theorem sdpuBuildAttribSeq_some {attrs : List UInt16} (short : attrs.length * 3 ≤ 255) :
    sdpuBuildAttribSeq (some attrs) = [0x35, (attrs.length * 3).toUInt8] ++
      attrs.flatMap fun attr => 0x09 :: uint16ToBeStream attr := by
  simp only [sdpuBuildAttribSeq, Nat.mod_eq_of_lt (show attrs.length * 3 < 65536 by omega),
    if_neg (show ¬attrs.length * 3 > 255 by omega)]
  rfl

/-- A sequence header `0x35 len`, whose length field is one byte, is read when the sequence
fits in `param_len`. -/
theorem extractSeqHeader_nextByte {fixed : UInt8 → Option Nat} (hfixed : fixed sizeInNextByte = none)
    {len : Nat} (short : len < 256) (body : List UInt8) {paramLen : Nat} (fits : 2 + len ≤ paramLen) :
    extractSeqHeader fixed (0x35 :: len.toUInt8 :: body) paramLen = some (2, 2 + len) := by
  have size : elementLength fixed (0x35 :: len.toUInt8 :: body) 1 paramLen ((0x35 : UInt8) &&& 7) =
      some (len, 1) := by
    rw [elementLength, show (0x35 : UInt8) &&& 7 = sizeInNextByte by decide, hfixed]
    dsimp only
    rw [if_pos rfl, if_neg (by omega)]
    simp [Nat.toUInt8_eq, Nat.mod_eq_of_lt short]
  simp only [extractSeqHeader, List.getD_cons_zero]
  rw [if_neg (by omega), if_neg (by decide), size]
  dsimp only
  rw [if_neg (by omega)]

theorem length_flatMap_idElements (attrs : List UInt16) :
    (attrs.flatMap fun attr => 0x09 :: uint16ToBeStream attr).length = 3 * attrs.length := by
  induction attrs with
  | nil => rfl
  | cons attr attrs ih =>
    rw [List.flatMap_cons, List.length_append, ih, List.length_cons]
    simp only [uint16ToBeStream, List.length_cons, List.length_nil]
    omega

/-- **Round trip.** A list of fewer than `MAX_ATTR_PER_SEQ` ids, written by
`sdpu_build_attrib_seq`, is read back whole as single-id entries, in order. -/
theorem sdpuExtractAttrSeq_build {attrs : List UInt16} (few : attrs.length < maxAttrPerSeq) :
    sdpuExtractAttrSeq (sdpuBuildAttribSeq (some attrs)) (sdpuBuildAttribSeq (some attrs)).length =
      (attrs.map fun attr => ⟨attr, attr⟩, some (sdpuBuildAttribSeq (some attrs)).length) := by
  have short : attrs.length * 3 ≤ 255 := by
    unfold maxAttrPerSeq at few
    omega
  have written := sdpuBuildAttribSeq_some short
  have total : (sdpuBuildAttribSeq (some attrs)).length = 2 + attrs.length * 3 := by
    rw [written, List.length_append, length_flatMap_idElements]
    simp only [List.length_cons, List.length_nil]
    omega
  rw [total, written]
  unfold sdpuExtractAttrSeq
  rw [List.cons_append, List.cons_append, List.nil_append,
    extractSeqHeader_nextByte rfl (show attrs.length * 3 < 256 by omega) _ (Nat.le_refl _)]
  dsimp only
  -- the ids follow the two header bytes and end the sequence
  obtain ⟨stored, ended⟩ := cursorLoop_extractAttrEntry_ids
    (b := 0x35 :: (attrs.length * 3).toUInt8 :: attrs.flatMap fun attr => 0x09 :: uint16ToBeStream attr)
    attrs 2 [] [] (by simp)
    (show 2 + attrs.length * 3 = 2 + 3 * attrs.length by omega) (by simpa using few)
  rw [stored, ended, List.nil_append]

/-- For no list, the wildcard is read back as the one range of all ids. -/
theorem sdpuExtractAttrSeq_wildcard :
    sdpuExtractAttrSeq (sdpuBuildAttribSeq none) (sdpuBuildAttribSeq none).length =
      ([⟨0x0000, 0xFFFF⟩], some (sdpuBuildAttribSeq none).length) := by
  have header : extractSeqHeader (fun _ => none) (sdpuBuildAttribSeq none) 7 = some (2, 7) := by
    decide
  have range : extractAttrEntry (sdpuBuildAttribSeq none) 7 2 [] =
      ([⟨0x0000, 0xFFFF⟩], some ⟨7, by omega⟩) := by
    decide
  have seven : (sdpuBuildAttribSeq none).length = 7 := rfl
  rw [seven, sdpuExtractAttrSeq, header]
  dsimp only
  obtain ⟨stored, ended⟩ := cursorLoop_of_next (show 2 < 7 by omega) range
  rw [stored, ended, cursorLoop_of_le (Nat.le_refl 7)]
  rfl

/-! ## Nothing past `param_len` is read -/

section Agree

-- `b` and `b'` hold the same bytes below `n`
variable {b b' : List UInt8} {n : Nat} (same : ∀ i < n, b.getD i 0 = b'.getD i 0)
include same

theorem beStreamToUint16_congr {p : Nat} (h : p + 2 ≤ n) :
    beStreamToUint16 b p = beStreamToUint16 b' p := by
  rw [beStreamToUint16, beStreamToUint16, same p (by omega), same (p + 1) (by omega)]

theorem beStreamToUint32_congr {p : Nat} (h : p + 4 ≤ n) :
    beStreamToUint32 b p = beStreamToUint32 b' p := by
  rw [beStreamToUint32, beStreamToUint32, same p (by omega), same (p + 1) (by omega),
    same (p + 2) (by omega), same (p + 3) (by omega)]

theorem beStreamToArray_congr {p len : Nat} (h : p + len ≤ n) :
    beStreamToArray b p len = beStreamToArray b' p len := by
  apply List.map_congr_left
  intro i mem
  rw [List.mem_range'_1] at mem
  exact same i (by omega)

/-- The size field of a header or an element is read only before `pEnd`. -/
theorem elementLength_congr (fixed : UInt8 → Option Nat) {p pEnd : Nat} (within : pEnd ≤ n)
    (size : UInt8) : elementLength fixed b p pEnd size = elementLength fixed b' p pEnd size := by
  unfold elementLength
  split
  · rfl
  · split_ifs with byte fits word fits' long fits''
    · rfl
    · rw [same p (by omega)]
    · rfl
    · rw [beStreamToUint16_congr same (by omega)]
    · rfl
    · rw [beStreamToUint32_congr same (by omega)]
    · rfl

theorem extractSeqHeader_congr (fixed : UInt8 → Option Nat) {paramLen : Nat}
    (within : paramLen ≤ n) : extractSeqHeader fixed b paramLen = extractSeqHeader fixed b' paramLen := by
  unfold extractSeqHeader
  split_ifs with empty
  · rfl
  · rw [same 0 (by omega)]
    simp only [elementLength_congr same fixed within]

theorem extractAttrEntry_congr {pEnd p : Nat} (within : pEnd ≤ n) (hp : p < pEnd)
    (attrEntry : List AttEnt) :
    extractAttrEntry b pEnd p attrEntry = extractAttrEntry b' pEnd p attrEntry := by
  unfold extractAttrEntry
  rw [same p (by omega)]
  simp only [elementLength_congr same attrFixedSize within]
  split_ifs with descr
  · rfl
  · split
    · rfl
    · next attrLen sizeBytes _ =>
      -- the id, or the range, is read only when it ends by the sequence end
      by_cases overrun : pEnd < p + 1 + sizeBytes + attrLen
      · simp only [overrun, if_true]
      · by_cases two : attrLen = 2
        · subst two
          simp only [if_neg overrun, ↓reduceIte]
          rw [beStreamToUint16_congr same (p := p + 1 + sizeBytes) (by omega)]
        · by_cases four : attrLen = 4
          · subst four
            simp only [if_neg overrun, ↓reduceIte]
            rw [beStreamToUint16_congr same (p := p + 1 + sizeBytes) (by omega),
              beStreamToUint16_congr same (p := p + 1 + sizeBytes + 2) (by omega)]
          · simp only [overrun, two, four, if_false]

theorem extractUidEntry_congr {pEnd p : Nat} (within : pEnd ≤ n) (hp : p < pEnd)
    (uuidEntry : List UuidEntry) :
    extractUidEntry b pEnd p uuidEntry = extractUidEntry b' pEnd p uuidEntry := by
  unfold extractUidEntry
  rw [same p (by omega)]
  simp only [elementLength_congr same uuidFixedSize within]
  split_ifs with descr
  · rfl
  · split
    · rfl
    · next uuidLen sizeBytes _ =>
      by_cases valid : (uuidLen = 2 ∨ uuidLen = 4 ∨ uuidLen = 16) ∧ p + 1 + sizeBytes + uuidLen ≤ pEnd
      · simp only [if_pos valid]
        rw [beStreamToArray_congr same (p := p + 1 + sizeBytes) (by omega)]
      · simp only [if_neg valid]

end Agree

/-- The sequence a header announces ends within `param_len`. -/
theorem le_of_extractSeqHeader {fixed : UInt8 → Option Nat} {b : List UInt8} {paramLen p pEnd : Nat}
    (h : extractSeqHeader fixed b paramLen = some (p, pEnd)) : pEnd ≤ paramLen := by
  unfold extractSeqHeader at h
  dsimp only at h
  split_ifs at h
  split at h
  · exact absurd h (by simp)
  · split_ifs at h with overrun
    obtain ⟨-, rfl⟩ := Prod.mk.inj (Option.some.inj h)
    omega

/-- `sdpu_extract_attr_seq` reads the first `param_len` bytes and no others. -/
theorem sdpuExtractAttrSeq_take (b : List UInt8) (paramLen : Nat) :
    sdpuExtractAttrSeq (b.take paramLen) paramLen = sdpuExtractAttrSeq b paramLen := by
  have same : ∀ i < paramLen, (b.take paramLen).getD i 0 = b.getD i 0 :=
    fun _ h => AdjacentSwap.getD_take h 0
  unfold sdpuExtractAttrSeq
  rw [extractSeqHeader_congr same _ (Nat.le_refl _)]
  split
  · rfl
  · next p pEndList header =>
    have within := le_of_extractSeqHeader header
    rw [cursorLoop_congr (fun q s hq => extractAttrEntry_congr same within hq s)]

/-- `sdpu_extract_uid_seq` reads the first `param_len` bytes and no others. -/
theorem sdpuExtractUidSeq_take (b : List UInt8) (paramLen : Nat) :
    sdpuExtractUidSeq (b.take paramLen) paramLen = sdpuExtractUidSeq b paramLen := by
  have same : ∀ i < paramLen, (b.take paramLen).getD i 0 = b.getD i 0 :=
    fun _ h => AdjacentSwap.getD_take h 0
  unfold sdpuExtractUidSeq
  rw [extractSeqHeader_congr same _ (Nat.le_refl _)]
  split
  · rfl
  · next p pSeqEnd header =>
    have within := le_of_extractSeqHeader header
    rw [cursorLoop_congr (fun q s hq => extractUidEntry_congr same within hq s)]

/-! ## No more entries than the arrays hold -/

/-- One element stores at most one entry, and the loop goes on only below `MAX_ATTR_PER_SEQ`. -/
theorem extractAttrEntry_stores (b : List UInt8) (pEnd p : Nat) (attrEntry : List AttEnt) :
    (extractAttrEntry b pEnd p attrEntry).1.length ≤ attrEntry.length + 1 ∧
      ((extractAttrEntry b pEnd p attrEntry).2.isSome →
        (extractAttrEntry b pEnd p attrEntry).1.length < maxAttrPerSeq) := by
  generalize step : extractAttrEntry b pEnd p attrEntry = result
  obtain ⟨stored, next⟩ := result
  unfold extractAttrEntry at step
  dsimp only at step
  split_ifs at step with descr
  · obtain ⟨rfl, rfl⟩ := Prod.mk.inj step
    simp
  · split at step
    · obtain ⟨rfl, rfl⟩ := Prod.mk.inj step
      simp
    · -- every other branch stores one entry and goes on only when there is room for more
      split_ifs at step with overrun two full four full' <;> obtain ⟨rfl, rfl⟩ := Prod.mk.inj step <;>
        simp_all only [List.length_append, List.length_singleton, Option.isSome_some,
          Option.isSome_none, Bool.false_eq_true, false_implies, and_true, forall_const] <;> omega

theorem extractUidEntry_stores (b : List UInt8) (pEnd p : Nat) (uuidEntry : List UuidEntry) :
    (extractUidEntry b pEnd p uuidEntry).1.length ≤ uuidEntry.length + 1 ∧
      ((extractUidEntry b pEnd p uuidEntry).2.isSome →
        (extractUidEntry b pEnd p uuidEntry).1.length < maxUuidsPerSeq) := by
  generalize step : extractUidEntry b pEnd p uuidEntry = result
  obtain ⟨stored, next⟩ := result
  unfold extractUidEntry at step
  dsimp only at step
  split_ifs at step with descr
  · obtain ⟨rfl, rfl⟩ := Prod.mk.inj step
    simp
  · split at step
    · obtain ⟨rfl, rfl⟩ := Prod.mk.inj step
      simp
    · split_ifs at step with valid full <;> obtain ⟨rfl, rfl⟩ := Prod.mk.inj step <;>
        simp_all only [List.length_append, List.length_singleton, Option.isSome_some,
          Option.isSome_none, Bool.false_eq_true, false_implies, and_true, forall_const] <;> omega

/-- `sdpu_extract_attr_seq` leaves at most `MAX_ATTR_PER_SEQ` entries in `p_seq`, whatever
it is given and also when it fails. -/
theorem length_sdpuExtractAttrSeq_le (b : List UInt8) (paramLen : Nat) :
    (sdpuExtractAttrSeq b paramLen).1.length ≤ maxAttrPerSeq := by
  unfold sdpuExtractAttrSeq
  split
  · simp
  · exact cursorLoop_length_le (fun p s _ _ => (extractAttrEntry_stores b _ p s).1)
      (fun p s _ _ => (extractAttrEntry_stores b _ p s).2) _ [] (by decide)

theorem length_sdpuExtractUidSeq_le (b : List UInt8) (paramLen : Nat) :
    (sdpuExtractUidSeq b paramLen).1.length ≤ maxUuidsPerSeq := by
  unfold sdpuExtractUidSeq
  split
  · simp
  · exact cursorLoop_length_le (fun p s _ _ => (extractUidEntry_stores b _ p s).1)
      (fun p s _ _ => (extractUidEntry_stores b _ p s).2) _ [] (by decide)

/-- **Attribute and UUID sequences.** `sdpu_extract_attr_seq` reads back the ids
`sdpu_build_attrib_seq` writes, up to the last byte, and the wildcard as the one full range;
both readers read only the first `param_len` bytes and leave at most as many entries as their
arrays hold. -/
theorem extractSeq_round_trip_and_bounds :
    (∀ attrs : List UInt16, 1 ≤ attrs.length → attrs.length < maxAttrPerSeq →
      sdpuExtractAttrSeq (sdpuBuildAttribSeq (some attrs)) (sdpuBuildAttribSeq (some attrs)).length =
        (attrs.map fun attr => ⟨attr, attr⟩, some (sdpuBuildAttribSeq (some attrs)).length)) ∧
    sdpuExtractAttrSeq (sdpuBuildAttribSeq none) (sdpuBuildAttribSeq none).length =
      ([⟨0x0000, 0xFFFF⟩], some (sdpuBuildAttribSeq none).length) ∧
    ∀ (b : List UInt8) (paramLen : Nat),
      sdpuExtractAttrSeq (b.take paramLen) paramLen = sdpuExtractAttrSeq b paramLen ∧
      sdpuExtractUidSeq (b.take paramLen) paramLen = sdpuExtractUidSeq b paramLen ∧
      (sdpuExtractAttrSeq b paramLen).1.length ≤ maxAttrPerSeq ∧
      (sdpuExtractUidSeq b paramLen).1.length ≤ maxUuidsPerSeq := by
  refine ⟨fun attrs _ few => sdpuExtractAttrSeq_build few, sdpuExtractAttrSeq_wildcard, ?_⟩
  intro b paramLen
  exact ⟨sdpuExtractAttrSeq_take b paramLen, sdpuExtractUidSeq_take b paramLen,
    length_sdpuExtractAttrSeq_le b paramLen, length_sdpuExtractUidSeq_le b paramLen⟩

end Sdp

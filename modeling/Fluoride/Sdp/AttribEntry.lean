import Fluoride.Sdp.AttribSeqLen
import Fluoride.Sdp.ExtractSeq

/-!
# SDP server — the attribute entries of a reply (`sdpu_build_attrib_entry`)

For each attribute a ServiceSearchAttributeRequest asks of a record, the server writes an
attribute id element and the attribute's value element with `sdpu_build_attrib_entry`. The
sequence header before them announces their total length, which `sdpu_get_attrib_seq_len`
adds up from `sdpu_get_attrib_entry_len`.

The two agree attribute by attribute, for every type and every length up to
`SDP_MAX_ATTR_LEN`, whenever the value is there to copy (`length_sdpuBuildAttribEntry`);
`SDP_AddAttributeToRecord` sets `value_ptr` for every attribute whose length is not 0. Over
a request they agree modulo `2^16`, the width of the sum, on records without attribute
`0xFFFF` (`sdpuGetAttribSeqLen_eq_length`). On a record with it, the range walk of
`sdpu_get_attrib_seq_len` wraps from `0xFFFF` to `0` and never returns a length, however few
bytes the requested entries take (`attribSeqLen_wrapped_entries`).
-/

namespace Sdp

def sdpMaxAttrLen : Nat := 400

/-- `sdpu_build_attrib_entry(p_out, p_attr)`: the bytes it writes. `value` is what
`value_ptr` points to, `none` for `NULL`. `SDP_MAX_ATTR_LEN` is 400, so of the length forms
only those of one and two bytes are compiled in. -/
def sdpuBuildAttribEntry (a : Attribute) (value : Option (List UInt8)) : List UInt8 :=
  -- "First, store the attribute ID. Goes as a UINT"
  let idElement := ((uintDescType <<< 3) ||| sizeTwoBytes) :: uint16ToBeStream a.id
  -- `ARRAY_TO_BE_STREAM(p_out, p_attr->value_ptr, (int)p_attr->len)`: a length past `INT_MAX`
  -- is negative as an `int` and copies nothing
  let count := if a.len.toNat < 2 ^ 31 then a.len.toNat else 0
  let valueBytes := match value with
    | some v => beStreamToArray v 0 count
    | none => []
  if a.type = textStrDescType ∨ a.type = dataEleSeqDescType ∨ a.type = dataEleAltDescType ∨
      a.type = urlDescType then
    let header :=
      if a.len > 0xFF then ((a.type <<< 3) ||| sizeInNextWord) :: uint16ToBeStream a.len.toUInt16
      else [(a.type <<< 3) ||| sizeInNextByte, a.len.toUInt8]
    idElement ++ header ++ valueBytes
  else
    -- "Now, store the attribute value"
    let header :=
      if a.len = 1 then [(a.type <<< 3) ||| sizeOneByte]
      else if a.len = 2 then [(a.type <<< 3) ||| sizeTwoBytes]
      else if a.len = 4 then [(a.type <<< 3) ||| sizeFourBytes]
      else if a.len = 8 then [(a.type <<< 3) ||| sizeEightBytes]
      else if a.len = 16 then [(a.type <<< 3) ||| sizeSixteenBytes]
      else [(a.type <<< 3) ||| sizeInNextByte, a.len.toUInt8]
    idElement ++ header ++ valueBytes

/-! ## One attribute -/

/-- The value part copies `len` bytes when the value is there, and a length of 0 copies
nothing either way. -/
theorem length_valueBytes {a : Attribute} {value : Option (List UInt8)}
    (present : value.isSome ∨ a.len = 0) :
    (match value with
      | some v => beStreamToArray v 0 a.len.toNat
      | none => []).length = a.len.toNat := by
  cases value with
  | some v => simp [beStreamToArray]
  | none =>
    have zero : a.len = 0 := present.resolve_left (by simp)
    simp [zero]

/-- The header of a value of another type: one byte for the lengths 1, 2, 4, 8 and 16 that
the size field can say, two bytes otherwise. -/
theorem length_scalarHeader (len : UInt32) (typeBits : UInt8) :
    (if len = 1 then [typeBits ||| sizeOneByte]
      else if len = 2 then [typeBits ||| sizeTwoBytes]
      else if len = 4 then [typeBits ||| sizeFourBytes]
      else if len = 8 then [typeBits ||| sizeEightBytes]
      else if len = 16 then [typeBits ||| sizeSixteenBytes]
      else [typeBits ||| sizeInNextByte, len.toUInt8]).length =
      if len = 1 ∨ len = 2 ∨ len = 4 ∨ len = 8 ∨ len = 16 then 1 else 2 := by
  split_ifs <;> simp_all

/-- **`sdpu_get_attrib_entry_len` counts what `sdpu_build_attrib_entry` writes**, for every
type and every length up to `SDP_MAX_ATTR_LEN`, when the value is there to copy. -/
theorem length_sdpuBuildAttribEntry (a : Attribute) {value : Option (List UInt8)}
    (short : a.len.toNat ≤ sdpMaxAttrLen) (present : value.isSome ∨ a.len = 0) :
    (sdpuBuildAttribEntry a value).length = (sdpuGetAttribEntryLen a).toNat := by
  have copied := length_valueBytes present
  unfold sdpMaxAttrLen at short
  have len16 : a.len.toUInt16.toNat = a.len.toNat := by
    rw [UInt32.toNat_toUInt16]
    omega
  -- the copy is never cut short by the `int` cast
  have fits : a.len.toNat < 2 ^ 31 := by omega
  simp only [sdpuBuildAttribEntry, sdpuGetAttribEntryLen, fits, ↓reduceIte]
  -- the id element is 3 bytes and the header 1, 2 or 3; the sum stays far below `2^16`
  by_cases string : a.type = textStrDescType ∨ a.type = dataEleSeqDescType ∨
      a.type = dataEleAltDescType ∨ a.type = urlDescType
  · rw [if_pos string, if_pos string]
    split_ifs <;>
      simp only [List.length_append, List.length_cons, List.length_nil, uint16ToBeStream, copied,
        UInt16.toNat_add, len16, UInt16.reduceToNat] <;> omega
  · rw [if_neg string, if_neg string, List.length_append, List.length_append, length_scalarHeader]
    split_ifs <;>
      simp only [List.length_cons, List.length_nil, uint16ToBeStream, copied, UInt16.toNat_add,
        len16, UInt16.reduceToNat] <;> omega

/-! ## A whole request -/

theorem mem_attributes_of_mem_requested {rec : Record} {attrSeq : List AttEnt} {a : Attribute}
    (h : a ∈ requestedAttributes rec attrSeq) : a ∈ rec.attributes := by
  obtain ⟨ent, -, mem⟩ := List.mem_flatMap.mp h
  exact (mem_attrsIn.mp mem).1

/-- A sum in `uint16_t` is the sum of the numbers modulo `2^16`. -/
theorem toNat_sum_map {α : Type} (f : α → UInt16) :
    ∀ l : List α, ((l.map f).sum).toNat = (l.map fun x => (f x).toNat).sum % 65536
  | [] => rfl
  | x :: xs => by
    rw [List.map_cons, List.sum_cons, UInt16.toNat_add, toNat_sum_map f xs, List.map_cons,
      List.sum_cons]
    omega

/-- **The announced length is the length of the entries**, modulo `2^16`: on a record without
attribute `0xFFFF` whose attributes the server can send, `sdpu_get_attrib_seq_len` returns the
number of bytes of the entries of every requested attribute, entry by entry in record order. -/
theorem sdpuGetAttribSeqLen_eq_length (rec : Record) (attrSeq : List AttEnt)
    (value : Attribute → Option (List UInt8)) (hmax : ∀ a ∈ rec.attributes, a.id ≠ 0xFFFF)
    (servable : ∀ a ∈ rec.attributes, a.len.toNat ≤ sdpMaxAttrLen ∧ ((value a).isSome ∨ a.len = 0))
    {fuel : Nat} (hfuel : attrSeq.length * (rec.attributes.length + 1) < fuel) :
    (sdpuGetAttribSeqLen fuel rec attrSeq).map UInt16.toNat =
      some (((requestedAttributes rec attrSeq).flatMap fun a =>
        sdpuBuildAttribEntry a (value a)).length % 65536) := by
  rw [sdpuGetAttribSeqLen_eq rec attrSeq hmax hfuel, Option.map_some, toNat_sum_map,
    List.length_flatMap]
  -- entry by entry, the counted length is the written one
  have each : (requestedAttributes rec attrSeq).map (fun a => (sdpuGetAttribEntryLen a).toNat) =
      (requestedAttributes rec attrSeq).map (fun a => (sdpuBuildAttribEntry a (value a)).length) := by
    apply List.map_congr_left
    intro a mem
    obtain ⟨short, present⟩ := servable a (mem_attributes_of_mem_requested mem)
    rw [length_sdpuBuildAttribEntry a short present]
  rw [each]

/-- On a record with a text attribute `0x0100` and a last attribute `0xFFFF`, the request of the
range `0x0100-0xFFFF` asks for two entries of 13 bytes in all, but `sdpu_get_attrib_seq_len`
returns no length for any number of iterations: after attribute `0xFFFF` its `start_id`
wraps to `0` and the range is walked again. -/
theorem attribSeqLen_wrapped_entries :
    ((requestedAttributes ⟨[⟨0x0000, 1, 4⟩, ⟨0x0100, 4, 3⟩, ⟨0xFFFF, 1, 1⟩], by decide⟩
        [⟨0x0100, 0xFFFF⟩]).flatMap fun a =>
          sdpuBuildAttribEntry a (some (List.replicate a.len.toNat 0))).length = 13 ∧
      ∀ fuel, sdpuGetAttribSeqLen fuel ⟨[⟨0x0000, 1, 4⟩, ⟨0x0100, 4, 3⟩, ⟨0xFFFF, 1, 1⟩], by decide⟩
        [⟨0x0100, 0xFFFF⟩] = none := by
  refine ⟨by decide, fun fuel => ?_⟩
  exact sdpuGetAttribSeqLen_eq_none _ _ rfl (by decide) ⟨⟨0xFFFF, 1, 1⟩, by decide, rfl⟩
    (by decide) fuel

end Sdp

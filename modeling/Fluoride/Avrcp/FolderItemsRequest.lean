import Fluoride.Avrcp.Packet
import Fluoride.Lib.ByteOrder

/-!
# AVRCP — the GetFolderItems request (`get_folder_items.cc`)

`GetFolderItemsRequestBuilder` writes the browse header, the scope, the first and the last
item, and the attributes it asks for: their count in one byte, then each attribute in four
bytes, most significant first, in the order of its `std::set`. A count of `0xFF` says that no
attribute is asked for, and the builder writes it for an empty set. `GetFolderItemsRequest`
reads the fields back, and `IsValid` checks the browse length and that the attributes fill the
rest of the packet.

A request of fewer than 255 attributes is read back as it was built
(`getFolderItemsRequest_serialize`): valid, with its scope, its items and its attributes in
ascending order. The count is a `uint8_t`: a set of 255 attributes is written with the count
`0xFF`, and read back as a valid request for no attribute (`getAttributesRequested_of_255`).

Reading past the end of a packet asserts in `Iterator::operator*`; the readers here read `0`
there instead, which no read of a valid packet reaches.
-/

namespace Avrcp

def Scope.toUInt8 : Scope → UInt8
  | mediaPlayerList => 0x00 | vfs => 0x01 | search => 0x02 | nowPlaying => 0x03

/-- `Iterator::extractBE<uint32_t>` at index `i`. -/
def extractBE32 (pkt : List UInt8) (i : Nat) : UInt32 :=
  (pkt.getD i 0).toUInt32 <<< 24 ||| (pkt.getD (i + 1) 0).toUInt32 <<< 16 |||
    (pkt.getD (i + 2) 0).toUInt32 <<< 8 ||| (pkt.getD (i + 3) 0).toUInt32

namespace GetFolderItemsRequest

/-- `GetFolderItemsRequest::kMinSize()`: the browse header, the scope, the start and end items
and the attribute count. -/
def kMinSize : Nat := browsePacketKMinSize + 10

def getScope (pkt : List UInt8) : UInt8 := pkt.getD browsePacketKMinSize 0

def getStartItem (pkt : List UInt8) : UInt32 := extractBE32 pkt (browsePacketKMinSize + 1)

def getEndItem (pkt : List UInt8) : UInt32 := extractBE32 pkt (browsePacketKMinSize + 5)

def getNumAttributes (pkt : List UInt8) : UInt8 := pkt.getD (browsePacketKMinSize + 9) 0

def getAttributesRequested (pkt : List UInt8) : List UInt32 :=
  let numberOfAttributes := getNumAttributes pkt
  -- "No attributes requested"
  if numberOfAttributes = 0xFF then []
  else (List.range numberOfAttributes.toNat).map fun i => extractBE32 pkt (kMinSize + 4 * i)

def isValid (pkt : List UInt8) : Bool :=
  if !browsePacketIsValid pkt then false
  -- "The minimum size required to be valid"
  else if pkt.length < kMinSize then false
  else
    let attrCount := getNumAttributes pkt
    -- "No items requested"
    if attrCount = 0xFF then true
    else attrCount.toNat * 4 = pkt.length - kMinSize

end GetFolderItemsRequest

/-- `GetFolderItemsRequestBuilder`; its `std::set<Attribute>` is ordered by the attribute's
`uint32_t`. -/
structure GetFolderItemsRequestBuilder where
  scope : Scope
  startItem : UInt32
  endItem : UInt32
  requestedAttrs : KeyedSet (fun attr : UInt32 => attr.toNat)

namespace GetFolderItemsRequestBuilder

def size (b : GetFolderItemsRequestBuilder) : Nat :=
  GetFolderItemsRequest.kMinSize + b.requestedAttrs.toList.length * 4

def serialize (b : GetFolderItemsRequestBuilder) : List UInt8 :=
  browsePushHeader browsePduGetFolderItems (UInt16.ofNat (b.size - browsePacketKMinSize)) ++
    [b.scope.toUInt8] ++ addPayloadOctetsSwapped 4 b.startItem.toNat ++
    addPayloadOctetsSwapped 4 b.endItem.toNat ++
    -- "0xFF is the value to signify that there are no attributes requested."
    (if b.requestedAttrs.toList.length = 0 then [0xFF]
    else UInt8.ofNat b.requestedAttrs.toList.length ::
      b.requestedAttrs.toList.flatMap fun attr => addPayloadOctetsSwapped 4 attr.toNat)

end GetFolderItemsRequestBuilder

/-! ## Reading back four bytes -/

/-- A 32-bit field written most significant byte first reads back as its value. -/
theorem extractBE32_of_eq (pre : List UInt8) {pkt rest : List UInt8} {v : UInt32}
    (h : pkt = pre ++ addPayloadOctetsSwapped 4 v.toNat ++ rest) {i : Nat} (hi : pre.length = i) :
    extractBE32 pkt i = v := by
  subst h hi
  have bytes : addPayloadOctetsSwapped 4 v.toNat = [UInt8.ofNat (v.toNat >>> 24),
      UInt8.ofNat (v.toNat >>> 16), UInt8.ofNat (v.toNat >>> 8), UInt8.ofNat v.toNat] := by
    simp [addPayloadOctetsSwapped, addPayloadOctets, List.range_succ]
  have bound := v.toNat_lt
  apply UInt32.toNat_inj.mp
  rw [extractBE32, bytes]
  simp only [List.getD_eq_getElem?_getD, List.append_assoc, List.getElem?_append_right
    (Nat.le_add_right _ _), List.getElem?_append_right (Nat.le_refl _), Nat.sub_self,
    Nat.add_sub_cancel_left, List.cons_append, List.getElem?_cons_zero, List.getElem?_cons_succ,
    Option.getD_some, ByteOrder.toNat_be32, UInt8.toNat_ofNat', Nat.shiftRight_eq_div_pow]
  omega

/-- Attributes written one after the other are read back one by one. The induction is on the
attributes, with the bytes before them generalised. -/
theorem extractBE32_flatMap (rest : List UInt8) :
    ∀ (attrs : List UInt32) (pre : List UInt8),
      (List.range attrs.length).map (fun i => extractBE32
        (pre ++ attrs.flatMap (fun attr => addPayloadOctetsSwapped 4 attr.toNat) ++ rest)
        (pre.length + 4 * i)) = attrs
  | [], _ => rfl
  | attr :: attrs, pre => by
    rw [List.length_cons, List.range_succ_eq_map, List.map_cons, List.map_map]
    have written : pre ++ (attr :: attrs).flatMap (fun attr => addPayloadOctetsSwapped 4 attr.toNat) ++
        rest = pre ++ addPayloadOctetsSwapped 4 attr.toNat ++
          (attrs.flatMap (fun attr => addPayloadOctetsSwapped 4 attr.toNat) ++ rest) := by
      simp only [List.flatMap_cons, List.append_assoc]
    -- the first attribute is at the front, the others four bytes on
    have first := extractBE32_of_eq pre written (show pre.length = pre.length + 4 * 0 by omega)
    have after := extractBE32_flatMap rest attrs (pre ++ addPayloadOctetsSwapped 4 attr.toNat)
    rw [List.length_append, length_addPayloadOctetsSwapped] at after
    rw [first, List.cons.injEq]
    refine ⟨rfl, ?_⟩
    conv => rhs; rw [← after]
    apply List.map_congr_left
    intro i _
    simp only [Function.comp_apply, List.flatMap_cons, List.append_assoc]
    rw [show pre.length + 4 * (i + 1) = pre.length + 4 + 4 * i by omega]

/-! ## The request read back -/

namespace GetFolderItemsRequestBuilder

variable (b : GetFolderItemsRequestBuilder)

/-- The attribute part of the packet: the count, then the attributes, or the `0xFF` alone. -/
theorem serialize_eq : b.serialize =
    (browsePushHeader browsePduGetFolderItems (UInt16.ofNat (b.size - browsePacketKMinSize)) ++
      [b.scope.toUInt8]) ++ addPayloadOctetsSwapped 4 b.startItem.toNat ++
      (addPayloadOctetsSwapped 4 b.endItem.toNat ++
      (if b.requestedAttrs.toList.length = 0 then [0xFF]
      else UInt8.ofNat b.requestedAttrs.toList.length ::
        b.requestedAttrs.toList.flatMap fun attr => addPayloadOctetsSwapped 4 attr.toNat)) := by
  simp only [serialize, List.append_assoc]

theorem length_serialize : b.serialize.length = b.size := by
  have each : ∀ attrs : List UInt32,
      (attrs.flatMap fun attr => addPayloadOctetsSwapped 4 attr.toNat).length = 4 * attrs.length := by
    intro attrs
    induction attrs with
    | nil => rfl
    | cons attr attrs ih =>
      rw [List.flatMap_cons, List.length_append, ih, length_addPayloadOctetsSwapped,
        List.length_cons]
      omega
  rw [serialize_eq, size, GetFolderItemsRequest.kMinSize]
  split_ifs with none
  · simp [none, browsePacketKMinSize]
  · simp only [List.length_append, length_browsePushHeader, length_addPayloadOctetsSwapped,
      List.length_cons, List.length_nil, each, browsePacketKMinSize]
    omega

/-- The header's length is what follows it, when it fits the 16 bits of the field. -/
theorem browsePacketIsValid_serialize (fits : b.size < 2 ^ 16 + browsePacketKMinSize) :
    browsePacketIsValid b.serialize = true := by
  have length := b.length_serialize
  have header : browsePacketGetLength b.serialize = UInt16.ofNat (b.size - browsePacketKMinSize) :=
    extractBE16_swapped [browsePduGetFolderItems] _ _
  have atLeast : browsePacketKMinSize ≤ b.size := by
    simp only [size, GetFolderItemsRequest.kMinSize]
    omega
  rw [browsePacketIsValid, header, length, if_neg (by omega), UInt16.toNat_ofNat',
    Nat.mod_eq_of_lt (by omega)]
  simp only [decide_eq_true_eq]
  omega

theorem getNumAttributes_serialize :
    GetFolderItemsRequest.getNumAttributes b.serialize =
      if b.requestedAttrs.toList.length = 0 then 0xFF
      else UInt8.ofNat b.requestedAttrs.toList.length := by
  rw [GetFolderItemsRequest.getNumAttributes, serialize_eq]
  split_ifs <;> simp [List.getD_eq_getElem?_getD, browsePushHeader, browsePacketKMinSize,
    List.getElem?_append_right]

theorem getScope_serialize : GetFolderItemsRequest.getScope b.serialize = b.scope.toUInt8 := by
  simp [GetFolderItemsRequest.getScope, serialize, browsePushHeader, browsePacketKMinSize,
    List.getD_eq_getElem?_getD]

theorem getStartItem_serialize : GetFolderItemsRequest.getStartItem b.serialize = b.startItem :=
  extractBE32_of_eq _ b.serialize_eq (by simp [browsePacketKMinSize])

theorem getEndItem_serialize : GetFolderItemsRequest.getEndItem b.serialize = b.endItem := by
  have written : b.serialize = (browsePushHeader browsePduGetFolderItems
      (UInt16.ofNat (b.size - browsePacketKMinSize)) ++ [b.scope.toUInt8] ++
      addPayloadOctetsSwapped 4 b.startItem.toNat) ++ addPayloadOctetsSwapped 4 b.endItem.toNat ++
      (if b.requestedAttrs.toList.length = 0 then [0xFF]
      else UInt8.ofNat b.requestedAttrs.toList.length ::
        b.requestedAttrs.toList.flatMap fun attr => addPayloadOctetsSwapped 4 attr.toNat) := by
    simp only [serialize, List.append_assoc]
  exact extractBE32_of_eq _ written (by simp [browsePacketKMinSize])

/-- A count below 255 fits its byte and is not the sentinel. -/
theorem ofNat_count {n : Nat} (h : n < 255) : (UInt8.ofNat n).toNat = n ∧ UInt8.ofNat n ≠ 0xFF := by
  have byte : (UInt8.ofNat n).toNat = n := by
    rw [UInt8.toNat_ofNat', Nat.mod_eq_of_lt (by omega)]
  refine ⟨byte, fun same => ?_⟩
  have := congrArg UInt8.toNat same
  rw [byte] at this
  exact absurd this (by simp only [UInt8.reduceToNat]; omega)

/-- The attributes of a non-empty set follow the count, from `kMinSize` on. -/
theorem attributes_of_ne_nil (nonempty : b.requestedAttrs.toList.length ≠ 0) :
    (List.range b.requestedAttrs.toList.length).map (fun i =>
      extractBE32 b.serialize (GetFolderItemsRequest.kMinSize + 4 * i)) = b.requestedAttrs.toList := by
  have written : b.serialize = (browsePushHeader browsePduGetFolderItems
      (UInt16.ofNat (b.size - browsePacketKMinSize)) ++ [b.scope.toUInt8] ++
      addPayloadOctetsSwapped 4 b.startItem.toNat ++ addPayloadOctetsSwapped 4 b.endItem.toNat ++
      [UInt8.ofNat b.requestedAttrs.toList.length]) ++
      b.requestedAttrs.toList.flatMap (fun attr => addPayloadOctetsSwapped 4 attr.toNat) ++ [] := by
    simp [serialize, nonempty]
  have start : (browsePushHeader browsePduGetFolderItems
      (UInt16.ofNat (b.size - browsePacketKMinSize)) ++ [b.scope.toUInt8] ++
      addPayloadOctetsSwapped 4 b.startItem.toNat ++ addPayloadOctetsSwapped 4 b.endItem.toNat ++
      [UInt8.ofNat b.requestedAttrs.toList.length]).length = GetFolderItemsRequest.kMinSize := by
    simp [GetFolderItemsRequest.kMinSize, browsePacketKMinSize]
  rw [written, ← start]
  exact extractBE32_flatMap [] _ _

/-- **A request of fewer than 255 attributes is read back as built**: it is valid, and its
scope, its items and its attributes, in ascending order, are the builder's. -/
theorem getFolderItemsRequest_serialize (few : b.requestedAttrs.toList.length < 255) :
    GetFolderItemsRequest.isValid b.serialize = true ∧
      GetFolderItemsRequest.getScope b.serialize = b.scope.toUInt8 ∧
      GetFolderItemsRequest.getStartItem b.serialize = b.startItem ∧
      GetFolderItemsRequest.getEndItem b.serialize = b.endItem ∧
      GetFolderItemsRequest.getAttributesRequested b.serialize = b.requestedAttrs.toList := by
  have fits : b.size < 2 ^ 16 + browsePacketKMinSize := by
    simp only [size, GetFolderItemsRequest.kMinSize, browsePacketKMinSize]
    omega
  have count := b.getNumAttributes_serialize
  have length := b.length_serialize
  have atLeast : ¬b.size < GetFolderItemsRequest.kMinSize := by simp [size]
  refine ⟨?_, b.getScope_serialize, b.getStartItem_serialize, b.getEndItem_serialize, ?_⟩
  · rw [GetFolderItemsRequest.isValid, b.browsePacketIsValid_serialize fits, length,
      Bool.not_true, if_neg Bool.false_ne_true, if_neg atLeast]
    dsimp only
    rw [count]
    by_cases empty : b.requestedAttrs.toList.length = 0
    · rw [if_pos empty, if_pos rfl]
    · -- the attributes fill the packet after the count
      obtain ⟨byte, notSentinel⟩ := ofNat_count few
      rw [if_neg empty, if_neg notSentinel, byte, size, decide_eq_true_eq]
      omega
  · rw [GetFolderItemsRequest.getAttributesRequested, count]
    by_cases empty : b.requestedAttrs.toList.length = 0
    · rw [if_pos empty, if_pos rfl, List.eq_nil_of_length_eq_zero empty]
    · obtain ⟨byte, notSentinel⟩ := ofNat_count few
      rw [if_neg empty, if_neg notSentinel, byte, b.attributes_of_ne_nil empty]

/-- A set of exactly 255 attributes is written with the count `0xFF`, the sentinel for no
attribute: the request is valid and asks for none. -/
theorem getAttributesRequested_of_255 (full : b.requestedAttrs.toList.length = 255) :
    GetFolderItemsRequest.isValid b.serialize = true ∧
      GetFolderItemsRequest.getAttributesRequested b.serialize = [] := by
  have fits : b.size < 2 ^ 16 + browsePacketKMinSize := by
    simp only [size, GetFolderItemsRequest.kMinSize, browsePacketKMinSize, full]
    omega
  have count : GetFolderItemsRequest.getNumAttributes b.serialize = 0xFF := by
    rw [b.getNumAttributes_serialize, if_neg (by omega), full]
    rfl
  have atLeast : ¬b.size < GetFolderItemsRequest.kMinSize := by simp [size]
  constructor
  · rw [GetFolderItemsRequest.isValid, b.browsePacketIsValid_serialize fits, b.length_serialize,
      Bool.not_true, if_neg Bool.false_ne_true, if_neg atLeast]
    dsimp only
    rw [count, if_pos rfl]
  · rw [GetFolderItemsRequest.getAttributesRequested, count, if_pos rfl]

end GetFolderItemsRequestBuilder

end Avrcp

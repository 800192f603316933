import Fluoride.Sdp.Utils

/-!
# SDP server database: records and their attributes (`sdp_db.cc`)

The storage behind the SDP database API. A record (`tSDP_RECORD`) holds
`SDP_MAX_REC_ATTR` attribute slots, of which the first `num_attributes` are in use and kept
in increasing id order, and a pad of `SDP_MAX_PAD_LEN` bytes that the values are copied
into, one after the other from offset 0; `free_pad_ptr` is the first free byte.
`SDP_AddAttributeToRecord` replaces an attribute of the same id by deleting it first,
opens a slot at the sorted position, and only then checks that the value fits the pad;
`SDP_DeleteAttributeFromRecord` closes the gap a value leaves in the pad and moves the
values after it down.

A `value_ptr` is its offset in `attr_pad`. A slot `memset` to zero has a null pointer,
which is offset 0 here: the code only compares pointers with one into the pad, where null
and offset 0 both compare below or equal, and reads a value only when its `len` is not 0.
`free_pad_ptr` and the lengths are `uint32_t`, so their sums wrap; `num_attributes` stays
below `SDP_MAX_REC_ATTR` and is a `Nat`. Writes that `memcpy` would make past the end of
the pad (only when `free_pad_ptr + attr_len` wraps) are not kept: the pad keeps its
`SDP_MAX_PAD_LEN` bytes.
-/

namespace Sdp

def sdpMaxRecAttr : Nat := 25
def sdpMaxPadLen : Nat := 600
def sdpMaxRecords : Nat := 30

def attrIdServiceRecordHdl : UInt16 := 0x0000
def uintDescType : UInt8 := 1

/-- `tSDP_ATTRIBUTE` as the database stores it, with the offset of its value in the pad. -/
structure AttrSlot where
  len : UInt32
  valuePtr : Nat
  id : UInt16
  type : UInt8
  deriving DecidableEq, Repr

/-- A slot as `memset` leaves it. -/
def AttrSlot.zero : AttrSlot := ⟨0, 0, 0, 0⟩

/-- `tSDP_RECORD`: the attribute slots (`attribute`, a keyword of Lean, is `slots`) and the
pad, with the number of slots in use and the first free byte of the pad. -/
structure RecordStore where
  recordHandle : UInt32
  freePadPtr : UInt32
  numAttributes : Nat
  slots : List AttrSlot
  attrPad : List UInt8
  deriving DecidableEq, Repr

/-- A record as `memset` leaves it, with its handle. -/
def RecordStore.zeroed (handle : UInt32) : RecordStore :=
  ⟨handle, 0, 0, List.replicate sdpMaxRecAttr .zero, List.replicate sdpMaxPadLen 0⟩

/-- The slots in use, `attribute[0 .. num_attributes)`. -/
def RecordStore.attrs (pRec : RecordStore) : List AttrSlot := pRec.slots.take pRec.numAttributes

/-! ## The loops over slots and pad -/

/-- `for (yy = num; yy > xx; yy--) attribute[yy] = attribute[yy - 1]`: each slot from `xx`
to `num - 1` moves up one, opening slot `xx`. -/
def shiftUp (slots : List AttrSlot) (xx : Nat) : Nat → List AttrSlot
  | 0 => slots
  | yy + 1 =>
    if xx < yy + 1 then shiftUp (slots.set (yy + 1) (slots.getD yy .zero)) xx yy else slots

/-- `for (zz = idx; zz < num; zz++) attribute[zz] = attribute[zz + 1]`, run `count` times
from `zz = idx`: each slot after `idx` moves down one, over slot `idx`. -/
def shiftDown (slots : List AttrSlot) (zz : Nat) : Nat → List AttrSlot
  | 0 => slots
  | count + 1 => shiftDown (slots.set zz (slots.getD (zz + 1) .zero)) (zz + 1) count

/-- `for (zz = 0; zz < count; zz++, pad_ptr++) *pad_ptr = *(pad_ptr + len)`: the `count`
bytes after `padPtr + len` move down by `len`. -/
def padMoveDown (pad : List UInt8) (padPtr len : Nat) : Nat → List UInt8
  | 0 => pad
  | count + 1 => padMoveDown (pad.set padPtr (pad.getD (padPtr + len) 0)) (padPtr + 1) len count

/-- `memcpy(&attr_pad[off], src, n)`, as far as the pad goes; `src` reads zero past its end. -/
def padCopy (pad : List UInt8) (off n : Nat) (src : List UInt8) : List UInt8 :=
  pad.mapIdx fun i b => if off ≤ i ∧ i < off + n then src.getD (i - off) 0 else b

/-! ## `SDP_DeleteAttributeFromRecord` -/

/-- `SDP_DeleteAttributeFromRecord(p_rec, attr_id)`: the first slot in use with the id is
removed; if its value is not empty, every value stored above it moves down by its length,
both the pointers of the slots in use and the bytes below `free_pad_ptr`. -/
def sdpDeleteAttributeFromRecord (pRec : RecordStore) (attrId : UInt16) : Bool × RecordStore :=
  let idx := pRec.attrs.findIdx (·.id == attrId)
  if idx < pRec.numAttributes then
    let pAttr := pRec.slots.getD idx .zero
    let padPtr := pAttr.valuePtr
    let len := pAttr.len
    -- the pointers above the deleted value, in all slots in use (before the shift)
    let slots :=
      if len ≠ 0 then
        pRec.slots.mapIdx fun zz a =>
          if zz < pRec.numAttributes ∧ a.valuePtr > padPtr then
            { a with valuePtr := a.valuePtr - len.toNat }
          else a
      else pRec.slots
    let numAttributes := pRec.numAttributes - 1
    let slots := shiftDown slots idx (numAttributes - idx)
    if len ≠ 0 then
      -- `last_attribute_to_adjust` is a `uint16_t`
      let last := (((pRec.freePadPtr.toNat : Int) - (padPtr + len.toNat)) % 2 ^ 16).toNat
      (true,
        { pRec with
          slots := slots, numAttributes := numAttributes,
          attrPad := padMoveDown pRec.attrPad padPtr len.toNat last,
          freePadPtr := pRec.freePadPtr - len })
    else (true, { pRec with slots := slots, numAttributes := numAttributes })
  else (false, pRec)

/-! ## `SDP_AddAttributeToRecord` -/

/-- The search of `SDP_AddAttributeToRecord`: the slot `xx` for `attr_id` is the first in
use whose id is not below it (or the first free one); an attribute of the same id there is
deleted. -/
def addAttributeSlot (pRec : RecordStore) (attrId : UInt16) : Nat × RecordStore :=
  let xx := pRec.attrs.findIdx fun a => a.id == attrId || a.id > attrId
  -- the attribute exists: replace it
  if xx < pRec.numAttributes ∧ (pRec.slots.getD xx .zero).id = attrId then
    (xx, (sdpDeleteAttributeFromRecord pRec attrId).2)
  else (xx, pRec)

/-- The rest of `SDP_AddAttributeToRecord`, at slot `xx`: the slots from there are moved up
and the new one written, and only then is the value checked against the pad. One that does
not fit is cut to the room left if it is a text string (its last byte made `'\0'`), and
otherwise refused, zeroing the slot. -/
def addAttributeAt (pRec : RecordStore) (xx : Nat) (attrId : UInt16) (attrType : UInt8)
    (attrLen : UInt32) (pVal : List UInt8) : Bool × RecordStore :=
  if pRec.numAttributes ≥ sdpMaxRecAttr then (false, pRec)
  else
    -- since the attributes are kept in sorted order, insert ours at `xx`
    let slots :=
      if xx = pRec.numAttributes then pRec.slots else shiftUp pRec.slots xx pRec.numAttributes
    let pAttr : AttrSlot :=
      { slots.getD xx .zero with id := attrId, type := attrType, len := attrLen }
    let pRec := { pRec with slots := slots.set xx pAttr }
    if pRec.freePadPtr + attrLen ≥ sdpMaxPadLen.toUInt32 ∧
        pRec.freePadPtr ≥ sdpMaxPadLen.toUInt32 then
      (false, pRec)
    else
      let tooLong := pRec.freePadPtr + attrLen ≥ sdpMaxPadLen.toUInt32
      -- do truncate only for text string type descriptor
      let text := tooLong ∧ attrType = textStrDescType
      let room := sdpMaxPadLen.toUInt32 - pRec.freePadPtr
      let attrLen : UInt32 := if tooLong then (if text then room else 0) else attrLen
      let pVal := if text then pVal.set (room.toNat - 1) 0 else pVal
      if attrLen > 0 then
        let pAttr := { pAttr with len := attrLen, valuePtr := pRec.freePadPtr.toNat }
        (true,
          { pRec with
            slots := pRec.slots.set xx pAttr,
            attrPad := padCopy pRec.attrPad pRec.freePadPtr.toNat attrLen.toNat pVal,
            freePadPtr := pRec.freePadPtr + attrLen,
            numAttributes := pRec.numAttributes + 1 })
      else if pAttr.len ≠ 0 then
        -- if truncated to 0 length, simply don't add
        (false, { pRec with slots := pRec.slots.set xx { pAttr with id := 0, type := 0, len := 0 } })
      else (true, { pRec with numAttributes := pRec.numAttributes + 1 })

/-- `SDP_AddAttributeToRecord(p_rec, attr_id, attr_type, attr_len, p_val)`: an attribute of
the same id is replaced. -/
def sdpAddAttributeToRecord (pRec : RecordStore) (attrId : UInt16) (attrType : UInt8)
    (attrLen : UInt32) (pVal : List UInt8) : Bool × RecordStore :=
  let (xx, pRec) := addAttributeSlot pRec attrId
  addAttributeAt pRec xx attrId attrType attrLen pVal

/-! ## The database -/

/-- `tSDP_DB`: the `SDP_MAX_RECORDS` record slots, of which the first `num_records` are in
use. -/
structure SdpDb where
  numRecords : Nat
  records : List RecordStore
  deriving Repr

/-- `UINT32_TO_BE_FIELD`. -/
def uint32ToBeField (v : UInt32) : List UInt8 :=
  [(v >>> 24).toUInt8, (v >>> 16).toUInt8, (v >>> 8).toUInt8, v.toUInt8]

/-- The body of `SDP_AddAttribute` once the record is found: a full pad refuses at once. -/
def sdpAddAttributeToFound (pRec : RecordStore) (attrId : UInt16) (attrType : UInt8)
    (attrLen : UInt32) (pVal : List UInt8) : Bool × RecordStore :=
  if pRec.freePadPtr ≥ sdpMaxPadLen.toUInt32 then (false, pRec)
  else sdpAddAttributeToRecord pRec attrId attrType attrLen pVal

/-- `SDP_AddAttribute(handle, attr_id, attr_type, attr_len, p_val)`: a null `p_val` is
`none`; the attribute goes to the first record in use with the handle. -/
def sdpAddAttribute (db : SdpDb) (handle : UInt32) (attrId : UInt16) (attrType : UInt8)
    (attrLen : UInt32) (pVal : Option (List UInt8)) : Bool × SdpDb :=
  match pVal with
  | none => (false, db)
  | some pVal =>
    let zz := (db.records.take db.numRecords).findIdx (·.recordHandle == handle)
    if zz < db.numRecords then
      let (ok, pRec) := sdpAddAttributeToFound (db.records.getD zz (.zeroed 0)) attrId attrType
        attrLen pVal
      (ok, { db with records := db.records.set zz pRec })
    else (false, db)

/-- `SDP_CreateRecord()`: a zeroed record after the last, its handle one more than the last
record's (`0x10000` for the first), with the handle attribute added. The handle, or 0 when
the database is full. -/
def sdpCreateRecord (db : SdpDb) : UInt32 × SdpDb :=
  if db.numRecords ≥ sdpMaxRecords then (0, db)
  else
    let handle : UInt32 :=
      if db.numRecords ≠ 0 then (db.records.getD (db.numRecords - 1) (.zeroed 0)).recordHandle + 1
      else 0x10000
    let db : SdpDb :=
      { numRecords := db.numRecords + 1,
        records := db.records.set db.numRecords (.zeroed handle) }
    let db := (sdpAddAttribute db handle attrIdServiceRecordHdl uintDescType 4
      (some (uint32ToBeField handle))).2
    ((db.records.getD (db.numRecords - 1) (.zeroed 0)).recordHandle, db)

/-! ## One record under the API -/

/-- The calls of the database API on one record: `SDP_AddAttribute` with its handle,
`SDP_AddAttributeToRecord` and `SDP_DeleteAttributeFromRecord`. -/
inductive RecordOp
  | addAttribute (attrId : UInt16) (attrType : UInt8) (attrLen : UInt32) (pVal : List UInt8)
  | addAttributeToRecord (attrId : UInt16) (attrType : UInt8) (attrLen : UInt32)
      (pVal : List UInt8)
  | deleteAttributeFromRecord (attrId : UInt16)
  deriving DecidableEq, Repr

/-- What a call does to the record, with what it returns. -/
def RecordOp.exec (pRec : RecordStore) : RecordOp → Bool × RecordStore
  | .addAttribute attrId attrType attrLen pVal =>
    sdpAddAttributeToFound pRec attrId attrType attrLen pVal
  | .addAttributeToRecord attrId attrType attrLen pVal =>
    sdpAddAttributeToRecord pRec attrId attrType attrLen pVal
  | .deleteAttributeFromRecord attrId => sdpDeleteAttributeFromRecord pRec attrId

/-- The record `SDP_CreateRecord` makes for `handle`: zeroed, with the handle attribute
added. -/
def createdRecord (handle : UInt32) : RecordStore :=
  (sdpAddAttributeToFound (.zeroed handle) attrIdServiceRecordHdl uintDescType 4
    (uint32ToBeField handle)).2

end Sdp

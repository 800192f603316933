import Fluoride.Lib.Cursor
import Fluoride.Sdp.Db

/-!
# SDP client: parsing a ServiceSearchAttributeResponse (`sdp_discovery.cc`)

Once the last continuation of a ServiceSearchAttributeResponse has arrived, the client holds
the whole attribute list in its scratch buffer `rsp_list`, `list_len` bytes, and
`process_service_search_attr_rsp` walks it: a data element sequence of attribute sequences,
one per service record. `save_attr_seq` allocates a record in the discovery database and
reads its attribute ids; `add_attr` allocates an attribute, stores its value and, for a
sequence or an alternative, calls itself on the elements, at most `MAX_NEST_LEVELS` deep.
Element lengths come from the headers (`sdpu_get_len_from_type`).

The buffer is the list `rsp` of the `list_len` response bytes, and a pointer is an offset
into it; a byte past its end reads as zero. Every byte the parser reads appends its offset
to `reads`, so where it reads is part of what it returns. The database is its free memory
`mem_free`, an integer here so that a subtraction past zero would show, and the chain of
records, each the chain of its attributes, a sequence's elements the chain of its
sub-attributes: linking at the end of a chain is appending to a list. `add_attr` links into
the chain it is given (the record's, or its parent's sub-attributes) and returns it. The
structure sizes are those of a 64-bit build. Every loop is a `Cursor.cursorLoop`: each step
moves the pointer on, so the parse terminates, and `add_attr` recurses only below
`MAX_NEST_LEVELS`, its measure.
-/

namespace Sdp

open Cursor

/-! ## Constants (`sdpdefs.h`, `sdp_discovery_db.h`, `sdp_utils.cc`) -/

def twoCompIntDescType : UInt8 := 2
def uuidDescType : UInt8 := 3
def booleanDescType : UInt8 := 5

def maxNestLevels : Nat := 5
def sdpDiscAttrLenMask : Nat := 0x0FFF
def attrIdProtocolDescList : UInt16 := 0x0004
def attrIdAdditionProtoDescLists : UInt16 := 0x000D

/-- `sizeof(tSDP_DISC_ATTR)`: a pointer, two `uint16_t` and an 8-byte union. -/
def sizeofDiscAttr : Nat := 24

/-- `sizeof(tSDP_DISC_REC)`: two pointers, a `uint32_t` and a `RawAddress`, padded. -/
def sizeofDiscRec : Nat := 32

/-- `sdp_base_uuid`, the Bluetooth base UUID, most significant octet first. -/
def sdpBaseUuid : List UInt8 :=
  [0x00, 0x00, 0x00, 0x00, 0x00, 0x00, 0x10, 0x00, 0x80, 0x00, 0x00, 0x80, 0x5F, 0x9B, 0x34, 0xFB]

/-! ## The discovery database -/

mutual

/-- `tSDP_DISC_ATVAL`: a number, the bytes of an array, or the chain of sub-attributes
(`p_sub_attr`); `unset` where `add_attr` stores nothing. -/
inductive DiscAtval where
  | unset
  | u8 (v : UInt8)
  | u16 (v : UInt16)
  | u32 (v : UInt32)
  | array (v : List UInt8)
  | subAttr (attrs : List DiscAttr)

/-- `tSDP_DISC_ATTR`; its `p_next_attr` is the order of the chain it is in. -/
inductive DiscAttr where
  | mk (attrId : UInt16) (attrLenType : UInt16) (attrValue : DiscAtval)

end

/-- `tSDP_DISC_REC`: the chain of its attributes. -/
structure DiscRec where
  pFirstAttr : List DiscAttr

/-- `tSDP_DISCOVERY_DB`: the memory still free and the chain of records. -/
structure DiscoveryDb where
  memFree : Int
  records : List DiscRec

/-- The database and the offsets of `rsp_list` read so far. -/
structure ParseState where
  db : DiscoveryDb
  reads : List Nat

/-- Reading the bytes at `offsets`. -/
def ParseState.readAt (s : ParseState) (offsets : List Nat) : ParseState :=
  { s with reads := s.reads ++ offsets }

/-- Reading `n` bytes from offset `p`. -/
def ParseState.read (s : ParseState) (p n : Nat) : ParseState :=
  s.readAt (List.range' p n)

/-- Taking `n` bytes of the database's free memory (`p_free_mem += n; mem_free -= n`). -/
def ParseState.reserve (s : ParseState) (n : Nat) : ParseState :=
  { s with db.memFree := s.db.memFree - n }

/-- `BE_STREAM_TO_UINT16`. -/
def beStreamToUint16 (rsp : List UInt8) (p : Nat) : UInt16 :=
  ((rsp.getD p 0).toUInt16 <<< 8) + (rsp.getD (p + 1) 0).toUInt16

/-- `BE_STREAM_TO_UINT32`. -/
def beStreamToUint32 (rsp : List UInt8) (p : Nat) : UInt32 :=
  (rsp.getD (p + 3) 0).toUInt32 + ((rsp.getD (p + 2) 0).toUInt32 <<< 8) +
    ((rsp.getD (p + 1) 0).toUInt32 <<< 16) + ((rsp.getD p 0).toUInt32 <<< 24)

/-- `BE_STREAM_TO_ARRAY`: the `n` bytes at `p`. -/
def beStreamToArray (rsp : List UInt8) (p n : Nat) : List UInt8 :=
  (List.range' p n).map (rsp.getD · 0)

/-! ## `sdpu_get_len_from_type` -/

section Parse

variable (rsp : List UInt8) (stackSdpDetectNilPropertyType : Bool)

/-- `sdpu_get_len_from_type`: the pointer past the size field of an element whose header
byte is `type`, and the element's length; `none` where the size field passes `pEnd`. The
four-byte size is cut to 16 bits. -/
def sdpuGetLenFromType (p pEnd : Nat) (type : UInt8) (s : ParseState) :
    ParseState × Option (Nat × Nat) :=
  match (type &&& 7).toNat with
  | 0 => (s, some (p, if stackSdpDetectNilPropertyType then (if type = 0 then 0 else 1) else 1))
  | 1 => (s, some (p, 2))
  | 2 => (s, some (p, 4))
  | 3 => (s, some (p, 8))
  | 4 => (s, some (p, 16))
  | 5 => if p + 1 > pEnd then (s, none) else (s.read p 1, some (p + 1, (rsp.getD p 0).toNat))
  | 6 =>
    if p + 2 > pEnd then (s, none)
    else (s.read p 2, some (p + 2, (beStreamToUint16 rsp p).toNat))
  | _ =>
    if p + 4 > pEnd then (s, none)
    else (s.read p 4, some (p + 4, (beStreamToUint32 rsp p).toUInt16.toNat))

/-- The pointer `sdpu_get_len_from_type` returns is not before the one it is given. -/
theorem le_of_sdpuGetLenFromType {p pEnd : Nat} {type : UInt8} {s s' : ParseState}
    {p' len : Nat}
    (h : sdpuGetLenFromType rsp stackSdpDetectNilPropertyType p pEnd type s =
      (s', some (p', len))) : p ≤ p' := by
  unfold sdpuGetLenFromType at h
  split at h
  all_goals first
    | (simp only [Prod.mk.injEq, Option.some.injEq] at h; omega)
    | (split at h
       · simp at h
       · simp only [Prod.mk.injEq, Option.some.injEq] at h; omega)

/-! ## `add_attr` -/

/-- `sdpu_is_base_uuid` on the UUID at `p`, from offset `xx` of the list on: whether its
bytes are those of the base UUID, and the offsets it reads, up to the first that differs. -/
def sdpuIsBaseUuidFrom (p : Nat) : List Nat → Bool × List Nat
  | [] => (true, [])
  | xx :: rest =>
    if rsp.getD (p + xx) 0 ≠ sdpBaseUuid.getD xx 0 then (false, [p + xx])
    else
      let r := sdpuIsBaseUuidFrom p rest
      (r.1, (p + xx) :: r.2)

/-- `sdpu_is_base_uuid`: only the last 12 bytes are compared. -/
def sdpuIsBaseUuid (p : Nat) : Bool × List Nat :=
  sdpuIsBaseUuidFrom rsp p (List.range' 4 12)

/-- A value `add_attr` stores in the attribute itself: the value, its `attr_len_type`, the
bytes the pointer moves on and the offsets read. -/
structure Stored where
  value : DiscAtval
  attrLenType : UInt16
  consumed : Nat
  reads : List Nat

/-- The integer cases of the `switch (attr_len)` of `add_attr`. -/
def storeInt (p attrLen : Nat) (attrLenType : UInt16) : Stored :=
  match attrLen with
  | 1 => ⟨.u8 (rsp.getD p 0), attrLenType, 1, [p]⟩
  | 2 => ⟨.u16 (beStreamToUint16 rsp p), attrLenType, 2, List.range' p 2⟩
  | 4 => ⟨.u32 (beStreamToUint32 rsp p), attrLenType, 4, List.range' p 4⟩
  | _ => ⟨.array (beStreamToArray rsp p attrLen), attrLenType, attrLen, List.range' p attrLen⟩

/-- The 128-bit case of `UUID_DESC_TYPE`: a UUID on the base UUID is stored as 16 bits when
its first two bytes are zero, as 32 bits otherwise. -/
def storeUuid128 (p : Nat) (attrLenType : UInt16) : Stored :=
  let isBase := sdpuIsBaseUuid rsp p
  if isBase.1 then
    let lenType := attrLenType &&& ~~~sdpDiscAttrLenMask.toUInt16
    -- (p[0] == 0) && (p[1] == 0) reads p[1] only when p[0] is zero
    if rsp.getD p 0 = 0 then
      if rsp.getD (p + 1) 0 = 0 then
        ⟨.u16 (beStreamToUint16 rsp (p + 2)), lenType ||| 2, 16,
          isBase.2 ++ [p, p + 1] ++ List.range' (p + 2) 2⟩
      else ⟨.u32 (beStreamToUint32 rsp p), lenType ||| 4, 16, isBase.2 ++ [p, p + 1] ++
        List.range' p 4⟩
    else ⟨.u32 (beStreamToUint32 rsp p), lenType ||| 4, 16, isBase.2 ++ [p] ++ List.range' p 4⟩
  else
    ⟨.array (beStreamToArray rsp p 16), attrLenType, 16, isBase.2 ++ List.range' p 16⟩

/-- The `switch (attr_type)` of `add_attr` for the values stored in the attribute itself
(`UINT_DESC_TYPE` falls through to the signed integers); `none` for a UUID or a boolean of a
length the type does not have, where `add_attr` returns `p_attr_end` and allocates nothing. -/
def storeValue (p : Nat) (attrType : UInt8) (attrLen : Nat) (attrLenType : UInt16) :
    Option Stored :=
  if attrType = uintDescType ∨ attrType = twoCompIntDescType then
    some (storeInt rsp p attrLen attrLenType)
  else if attrType = uuidDescType then
    match attrLen with
    | 2 => some ⟨.u16 (beStreamToUint16 rsp p), attrLenType, 2, List.range' p 2⟩
    | 4 =>
      let v := beStreamToUint32 rsp p
      if v < 0x10000 then
        some ⟨.u16 v.toUInt16, (2 : UInt16) ||| (attrType.toUInt16 <<< 12), 4, List.range' p 4⟩
      else some ⟨.u32 v, attrLenType, 4, List.range' p 4⟩
    | 16 => some (storeUuid128 rsp p attrLenType)
    | _ => none
  else if attrType = textStrDescType ∨ attrType = urlDescType then
    some ⟨.array (beStreamToArray rsp p attrLen), attrLenType, attrLen, List.range' p attrLen⟩
  else if attrType = booleanDescType then
    if attrLen = 1 then some ⟨.u8 (rsp.getD p 0), attrLenType, 1, [p]⟩ else none
  else some ⟨.unset, attrLenType, 0, []⟩

/-- `add_attr`: the attribute whose header is at `p`, with id `attrId`, linked at the end of
`chain`; `isAdditionalList` and `nestLevel` are the two parts of the `nest_level` byte (bit 7
and the rest). A sequence's elements are parsed against `pEnd`, the end the attribute itself
is parsed against, not against the sequence's own end. Returns the pointer after the
attribute, or `none` for `NULL`. -/
def addAttr (pEnd : Nat) (attrId : UInt16) (isAdditionalList : Bool) (nestLevel p : Nat)
    (chain : List DiscAttr) (s : ParseState) : Advance (ParseState × List DiscAttr) p :=
  let type := rsp.getD p 0
  let s := s.read p 1
  match h : sdpuGetLenFromType rsp stackSdpDetectNilPropertyType (p + 1) pEnd type s with
  | (s, none) => ((s, chain), none)
  | (s, some (p1, attrLen)) =>
    have past : p < p1 := Nat.lt_of_lt_of_le (Nat.lt_succ_self p)
      (le_of_sdpuGetLenFromType rsp stackSdpDetectNilPropertyType h)
    if p1 + attrLen > pEnd then ((s, chain), none) else
    let attrLen := attrLen &&& sdpDiscAttrLenMask
    let attrType := (type >>> 3) &&& 0x0f
    let totalLen := if attrLen > 4 then attrLen - 4 + sizeofDiscAttr else sizeofDiscAttr
    let pAttrEnd := p1 + attrLen
    if pAttrEnd > pEnd then ((s, chain), none) else
    -- ensure it is a multiple of 4
    let totalLen := (totalLen + 3) / 4 * 4
    if s.db.memFree < totalLen then ((s, chain), none) else
    let attrLenType : UInt16 := attrLen.toUInt16 ||| (attrType.toUInt16 <<< 12)
    if attrType = uintDescType ∧ isAdditionalList = true ∧ attrLen = 2 ∧
        beStreamToUint16 rsp p1 = attrIdProtocolDescList then
      -- reserve the attribute now, as its sub-attribute is linked under it
      let s := (s.read p1 2).reserve sizeofDiscAttr
      if maxNestLevels ≤ nestLevel then ((s, chain), some ⟨pAttrEnd, by omega⟩) else
      match addAttr pEnd attrIdProtocolDescList false (nestLevel + 1) (p1 + 2) [] s with
      | ((s, subs), r) =>
        ((s, chain ++ [.mk attrId attrLenType (.subAttr subs)]),
          r.map fun q => ⟨q.1, by have := q.2; omega⟩)
    else if attrType = dataEleSeqDescType ∨ attrType = dataEleAltDescType then
      -- reserve the attribute now, as its elements are linked under it
      let s := s.reserve sizeofDiscAttr
      if maxNestLevels ≤ nestLevel then ((s, chain), some ⟨pAttrEnd, by omega⟩) else
      let isAdditionalList := isAdditionalList || attrId == attrIdAdditionProtoDescLists
      match cursorLoop (fun q st => addAttr pEnd 0 isAdditionalList (nestLevel + 1) q st.2 st.1)
          pAttrEnd p1 (s, []) with
      | ((s, _), none) => ((s, chain), none)
      | ((s, subs), some q) =>
        ((s, chain ++ [.mk attrId attrLenType (.subAttr subs)]),
          some ⟨q.1, by have := q.2; omega⟩)
    else
      -- an additional list's integer of two bytes is read as an id before it is stored
      let s := if attrType = uintDescType ∧ isAdditionalList = true ∧ attrLen = 2 then s.read p1 2
        else s
      match storeValue rsp p1 attrType attrLen attrLenType with
      | none => ((s, chain), some ⟨pAttrEnd, by omega⟩)
      | some v =>
        (((s.readAt v.reads).reserve totalLen, chain ++ [.mk attrId v.attrLenType v.value]),
          some ⟨p1 + v.consumed, by omega⟩)
termination_by maxNestLevels - nestLevel

/-! ## `save_attr_seq` and `process_service_search_attr_rsp` -/

/-- `add_record`: a record at the end of the chain, if the database has room for one. -/
def addRecord (s : ParseState) : Option ParseState :=
  if s.db.memFree < sizeofDiscRec then none
  else some { s.reserve sizeofDiscRec with db.records := s.db.records ++ [⟨[]⟩] }

/-- The record `save_attr_seq` fills: the last of the chain, with its attributes. -/
def ParseState.setLastRecord (s : ParseState) (attrs : List DiscAttr) : ParseState :=
  { s with db.records := s.db.records.dropLast ++ [⟨attrs⟩] }

/-- One iteration of the loop of `save_attr_seq`: an attribute id, a `uint16_t` that must end
inside the record's sequence, then `add_attr` on the value, against the same end, linked into
the record's chain. The size field of the id is checked against the end of the message. -/
def saveAttrSeqEntry (pSeqEnd pMsgEnd p : Nat) (st : ParseState × List DiscAttr) :
    Advance (ParseState × List DiscAttr) p :=
  let (s, chain) := st
  let type := rsp.getD p 0
  let s := s.read p 1
  match h : sdpuGetLenFromType rsp stackSdpDetectNilPropertyType (p + 1) pMsgEnd type s with
  | (s, none) => ((s, chain), none)
  | (s, some (p1, attrLen)) =>
    have past : p < p1 := Nat.lt_of_lt_of_le (Nat.lt_succ_self p)
      (le_of_sdpuGetLenFromType rsp stackSdpDetectNilPropertyType h)
    if p1 + attrLen > pSeqEnd then ((s, chain), none)
    else if type >>> 3 ≠ uintDescType ∨ attrLen ≠ 2 then ((s, chain), none)
    else
      let attrId := beStreamToUint16 rsp p1
      match addAttr rsp stackSdpDetectNilPropertyType pSeqEnd attrId false 0 (p1 + 2) chain
          (s.read p1 2) with
      | (st, r) => (st, r.map fun q => ⟨q.1, by have := q.2; omega⟩)

/-- `save_attr_seq`: one record's attribute sequence, whose length must fit in the message;
the record is allocated before its attributes are read. -/
def saveAttrSeq (pMsgEnd p : Nat) (s : ParseState) : Advance ParseState p :=
  let type := rsp.getD p 0
  let s := s.read p 1
  if type >>> 3 ≠ dataEleSeqDescType then (s, none) else
  match h : sdpuGetLenFromType rsp stackSdpDetectNilPropertyType (p + 1) pMsgEnd type s with
  | (s, none) => (s, none)
  | (s, some (p1, seqLen)) =>
    have past : p < p1 := Nat.lt_of_lt_of_le (Nat.lt_succ_self p)
      (le_of_sdpuGetLenFromType rsp stackSdpDetectNilPropertyType h)
    if p1 + seqLen > pMsgEnd then (s, none) else
    match addRecord s with
    | none => (s, none)
    | some s =>
      let pSeqEnd := p1 + seqLen
      match cursorLoop (saveAttrSeqEntry rsp stackSdpDetectNilPropertyType pSeqEnd pMsgEnd)
          pSeqEnd p1 (s, []) with
      | ((s, attrs), r) =>
        (s.setLastRecord attrs, r.map fun q => ⟨q.1, by have := q.2; omega⟩)

/-- What `process_service_search_attr_rsp` reports to `sdp_disconnect`. -/
inductive SdpStatus where
  | sdpSuccess
  | sdpIllegalParameter
  | sdpInvalidContState
  | sdpDbFull
  deriving DecidableEq, Repr

/-- The tail of `process_service_search_attr_rsp`, once the whole attribute list is in
`rsp_list`: a sequence that must fill the list exactly, then one `save_attr_seq` after the
other. The size field of the outer header is checked against `p + list_len` with `p` past
the header byte, one byte beyond the list. -/
def processServiceSearchAttrRsp (s : ParseState) : ParseState × SdpStatus :=
  let listLen := rsp.length
  let type := rsp.getD 0 0
  let s := s.read 0 1
  if type >>> 3 ≠ dataEleSeqDescType then (s, .sdpIllegalParameter) else
  match sdpuGetLenFromType rsp stackSdpDetectNilPropertyType 1 (1 + listLen) type s with
  | (s, none) => (s, .sdpIllegalParameter)
  | (s, some (p, seqLen)) =>
    if p + seqLen > p + listLen then (s, .sdpIllegalParameter)
    else if p + seqLen ≠ listLen then (s, .sdpInvalidContState)
    else
      match cursorLoop (saveAttrSeq rsp stackSdpDetectNilPropertyType listLen) listLen p s with
      | (s, none) => (s, .sdpDbFull)
      | (s, some _) => (s, .sdpSuccess)

end Parse

end Sdp

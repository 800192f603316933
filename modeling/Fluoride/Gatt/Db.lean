import Mathlib.Data.UInt
import Mathlib.Data.List.GetD

/-!
# GATT server — the attribute database (`gatt_db.cc`)

A service's attributes as the builders `gatts_init_service_db`,
`gatts_add_included_service`, `gatts_add_characteristic`, `gatts_add_char_ext_prop_descr`
and `gatts_add_char_descr` lay them out, the readability check, `read_attr_value`, and
`gatts_db_read_attr_value_by_type`, the loop behind a Read By Type response.

A `bluetooth::Uuid` is its sixteen bytes, most significant first, with the base-UUID
arithmetic of `uuid.cc`. The union `tGATT_ATTR_VALUE` is a record of its members: each
builder writes the member its attribute type is read through, and a reader only reads
the member of the attribute's own type. A response buffer is the committed bytes after
its two header bytes; bytes a failed read leaves past `p_rsp->len` are not part of it.
-/

namespace Gatt

/-- `UINT16_TO_STREAM`: little-endian. -/
def uint16ToStream (v : UInt16) : List UInt8 := [v.toUInt8, (v >>> 8).toUInt8]

@[simp] theorem length_uint16ToStream (v : UInt16) : (uint16ToStream v).length = 2 := rfl

/-! ## `bluetooth::Uuid` -/

/-- `bluetooth::Uuid`: the array `uu`, most significant byte first. -/
structure Uuid where
  uu : List UInt8
  length_uu : uu.length = 16

instance : DecidableEq Uuid := fun a b =>
  decidable_of_iff (a.uu = b.uu) (by cases a; cases b; simp)

/-- `kBase`, the Bluetooth base UUID `00000000-0000-1000-8000-00805F9B34FB`. -/
def Uuid.kBase : Uuid :=
  ⟨[0x00, 0x00, 0x00, 0x00, 0x00, 0x00, 0x10, 0x00,
    0x80, 0x00, 0x00, 0x80, 0x5f, 0x9b, 0x34, 0xfb], rfl⟩

/-- `Uuid::kEmpty`, all zero. -/
def Uuid.kEmpty : Uuid := ⟨List.replicate 16 0, rfl⟩

/-- `Uuid::GetShortestRepresentationSize`: 16 unless the last twelve bytes are the base's,
then 2 if the first two bytes are zero, else 4. -/
def Uuid.getShortestRepresentationSize (u : Uuid) : Nat :=
  if u.uu.drop 4 ≠ Uuid.kBase.uu.drop 4 then 16
  else if u.uu.getD 0 0 = 0 ∧ u.uu.getD 1 0 = 0 then 2
  else 4

/-- `Uuid::Is16Bit`. -/
def Uuid.is16Bit (u : Uuid) : Bool := u.getShortestRepresentationSize = 2

/-- `Uuid::As16Bit`: bytes 2 and 3. -/
def Uuid.as16Bit (u : Uuid) : UInt16 :=
  ((u.uu.getD 2 0).toUInt16 <<< 8) + (u.uu.getD 3 0).toUInt16

/-- `Uuid::From16Bit`: the base UUID with bytes 2 and 3 replaced. -/
def Uuid.from16Bit (v : UInt16) : Uuid :=
  ⟨(Uuid.kBase.uu.set 2 ((v &&& 0xFF00) >>> 8).toUInt8).set 3 (v &&& 0x00FF).toUInt8,
    by simp [Uuid.kBase]⟩

/-- `Uuid::From128BitLE`: the sixteen bytes at `p`, reversed. -/
def Uuid.from128BitLE (p : List UInt8) : Uuid :=
  ⟨((List.range 16).map fun i => p.getD i 0).reverse, by simp⟩

/-- `Uuid::To128BitLE`. -/
def Uuid.to128BitLE (u : Uuid) : List UInt8 := u.uu.reverse

/-- `Uuid::IsEmpty`. -/
def Uuid.isEmpty (u : Uuid) : Bool := u = Uuid.kEmpty

/-- `gatt_build_uuid_to_stream_len`: a 32-bit UUID goes out as 128 bits. -/
def gattBuildUuidToStreamLen (u : Uuid) : UInt16 :=
  let len := u.getShortestRepresentationSize
  if len = 4 then 16 else len.toUInt16

/-- `gatt_build_uuid_to_stream`: the bytes written. -/
def gattBuildUuidToStream (u : Uuid) : List UInt8 :=
  if u.isEmpty then []
  else if u.getShortestRepresentationSize = 2 then uint16ToStream u.as16Bit
  else u.to128BitLE

/-! ## Constants -/

/-- `tGATT_STATUS`, the codes this path returns. -/
inductive Status where
  | success
  | invalidHandle
  | readNotPermit
  | invalidPdu
  | insufAuthentication
  | notFound
  | notLong
  | insufKeySize
  | insufEncryption
  | noResources
  | busy
  | error
  | pending
  deriving DecidableEq, Repr

def gattUuidPriService : UInt16 := 0x2800
def gattUuidSecService : UInt16 := 0x2801
def gattUuidIncludeService : UInt16 := 0x2802
def gattUuidCharDeclare : UInt16 := 0x2803
def gattUuidCharExtProp : UInt16 := 0x2900
def gattUuidCharClientConfig : UInt16 := 0x2902
def gattUuidCharSrvrConfig : UInt16 := 0x2903
def gattUuidCharPresentFormat : UInt16 := 0x2904

def gattPermRead : UInt16 := (1 : UInt16) <<< 0
def gattPermReadEncrypted : UInt16 := (1 : UInt16) <<< 1
def gattPermReadEncMitm : UInt16 := (1 : UInt16) <<< 2
def gattPermReadIfEncryptedOrDiscoverable : UInt16 := (1 : UInt16) <<< 9
def gattEncryptKeySizeMask : UInt16 := 0xF000
def gattReadAllowed : UInt16 :=
  gattPermRead ||| gattPermReadEncrypted ||| gattPermReadEncMitm |||
    gattPermReadIfEncryptedOrDiscoverable
def gattReadAuthRequired : UInt16 := gattPermReadEncrypted
def gattReadMitmRequired : UInt16 := gattPermReadEncMitm
def gattReadEncryptedRequired : UInt16 := gattPermReadEncrypted ||| gattPermReadEncMitm

/-! ## The database -/

/-- `bt_gatt_db_attribute_type_t` as the builders set it; a value-initialised attribute
has `BTGATT_DB_PRIMARY_SERVICE`. -/
inductive GattType where
  | primaryService
  | characteristic
  | descriptor
  deriving DecidableEq, Repr

/-- `tGATT_ATTR_VALUE`, one field per member of the union. -/
structure AttrValue where
  uuid : Uuid := Uuid.kEmpty
  charDeclProperty : UInt8 := 0
  charDeclCharValHandle : UInt16 := 0
  inclSHandle : UInt16 := 0
  inclEHandle : UInt16 := 0
  inclServiceType : Uuid := Uuid.kEmpty
  charExtProp : UInt16 := 0

/-- `tGATT_ATTR`. -/
structure Attr where
  pValue : Option AttrValue
  permission : UInt16
  handle : UInt16
  uuid : Uuid
  gattType : GattType

/-- `tGATT_SVC_DB`. -/
structure SvcDb where
  attrList : List Attr
  endHandle : UInt16
  nextHandle : UInt16

/-- `allocate_attr_in_db`: the next handle for a new attribute at the end of the list;
`none` where the code stops with `log::fatal` (no handle left). -/
def allocateAttrInDb (db : SvcDb) (uuid : Uuid) (perm : UInt16) : Option SvcDb :=
  if db.nextHandle ≥ db.endHandle then none
  else some { db with
    attrList := db.attrList ++ [⟨none, perm, db.nextHandle, uuid, .primaryService⟩]
    nextHandle := db.nextHandle + 1 }

/-- Write into the attribute just allocated (`attr.p_value.reset(...)`, `gatt_type = ...`). -/
def SvcDb.setLast (db : SvcDb) (f : Attr → Attr) : SvcDb :=
  { db with attrList := db.attrList.modifyLast f }

/-- `gatts_init_service_db`: a fresh database for `num_handle` handles from `s_hdl`, its
first attribute the service declaration. -/
def gattsInitServiceDb (serviceUuid : Uuid) (isPri : Bool) (sHdl numHandle : UInt16) :
    Option SvcDb := do
  let db : SvcDb := ⟨[], sHdl + numHandle, sHdl⟩
  let uuid := Uuid.from16Bit (if isPri then gattUuidPriService else gattUuidSecService)
  let db ← allocateAttrInDb db uuid gattPermRead
  pure (db.setLast fun a => { a with pValue := some { uuid := serviceUuid } })

/-- `gatts_add_included_service`; `none` for a fatal stop, and the database unchanged
(the code returns 0) on illegal parameters. -/
def gattsAddIncludedService (db : SvcDb) (sHandle eHandle : UInt16) (service : Uuid) :
    Option SvcDb :=
  if service.isEmpty ∨ sHandle = 0 ∨ eHandle = 0 then some db
  else do
    let db ← allocateAttrInDb db (Uuid.from16Bit gattUuidIncludeService) gattPermRead
    let v : AttrValue := { inclSHandle := sHandle, inclEHandle := eHandle, inclServiceType := service }
    pure (db.setLast fun a => { a with pValue := some v })

/-- `gatts_add_characteristic`: the declaration, then the value right after it. -/
def gattsAddCharacteristic (db : SvcDb) (perm : UInt16) (property : UInt8) (charUuid : Uuid) :
    Option SvcDb := do
  let declHandle := db.nextHandle
  let db ← allocateAttrInDb db (Uuid.from16Bit gattUuidCharDeclare) gattPermRead
  let db ← allocateAttrInDb db charUuid perm
  let valHandle := db.nextHandle - 1
  let db := db.setLast fun a => { a with gattType := .characteristic }
  let v : AttrValue := { charDeclProperty := property, charDeclCharValHandle := valHandle }
  pure { db with attrList := db.attrList.map fun a =>
    if a.handle = declHandle then { a with pValue := some v } else a }

/-- `gatts_add_char_ext_prop_descr`. -/
def gattsAddCharExtPropDescr (db : SvcDb) (extendedProperties : UInt16) : Option SvcDb := do
  let db ← allocateAttrInDb db (Uuid.from16Bit gattUuidCharExtProp) gattPermRead
  let v : AttrValue := { charExtProp := extendedProperties }
  pure (db.setLast fun a => { a with gattType := .descriptor, pValue := some v })

/-- `gatts_add_char_descr`. -/
def gattsAddCharDescr (db : SvcDb) (perm : UInt16) (descrUuid : Uuid) : Option SvcDb := do
  let db ← allocateAttrInDb db descrUuid perm
  pure (db.setLast fun a => { a with gattType := .descriptor })

/-! ## Reading -/

/-- `tGATT_SEC_FLAG`. -/
structure SecFlag where
  isLinkKeyKnown : Bool
  isLinkKeyAuthed : Bool
  isEncrypted : Bool
  canReadDiscoverableCharacteristics : Bool
  deriving DecidableEq, Repr

/-- `gatts_check_attr_readability` (its offset argument is unused). -/
def gattsCheckAttrReadability (attr : Attr) (readLong : Bool) (secFlag : SecFlag)
    (keySize : UInt8) : Status :=
  let perm := attr.permission
  let minKeySize := (perm &&& gattEncryptKeySizeMask) >>> 12
  let minKeySize := if minKeySize ≠ 0 then minKeySize + 6 else minKeySize
  if perm &&& gattReadAllowed = 0 then .readNotPermit
  else if perm &&& gattReadAuthRequired ≠ 0 ∧ !secFlag.isLinkKeyKnown ∧ !secFlag.isEncrypted then
    .insufAuthentication
  else if perm &&& gattReadMitmRequired ≠ 0 ∧ !secFlag.isLinkKeyAuthed then .insufAuthentication
  else if perm &&& gattReadEncryptedRequired ≠ 0 ∧ !secFlag.isEncrypted then .insufEncryption
  else if perm &&& gattReadEncryptedRequired ≠ 0 ∧ secFlag.isEncrypted ∧
      keySize.toUInt16 < minKeySize then .insufKeySize
  else if perm &&& gattPermReadIfEncryptedOrDiscoverable ≠ 0 ∧
      !secFlag.canReadDiscoverableCharacteristics ∧
      (!secFlag.isLinkKeyKnown ∨ !secFlag.isEncrypted) then .insufAuthentication
  else if perm &&& gattPermReadIfEncryptedOrDiscoverable ≠ 0 ∧
      !secFlag.canReadDiscoverableCharacteristics ∧ keySize.toUInt16 < minKeySize then
    .insufKeySize
  else if readLong ∧ attr.uuid.is16Bit ∧
      attr.uuid.as16Bit ∈ [gattUuidPriService, gattUuidSecService, gattUuidCharDeclare,
        gattUuidIncludeService, gattUuidCharExtProp, gattUuidCharClientConfig,
        gattUuidCharSrvrConfig, gattUuidCharPresentFormat] then .notLong
  else .success

/-- What `read_attr_value` hands back: its status, `*p_len` and the bytes it wrote. -/
structure ReadResult where
  status : Status
  pLen : UInt16
  bytes : List UInt8

/-- `read_attr_value` at offset 0. `valAttr` is `&attr16 + 1`, the attribute after a
characteristic declaration, which `gatts_add_characteristic` makes its value. The value
of a declaration the server keeps is written here; any other attribute is left to the
application (`GATT_PENDING`). -/
def readAttrValue (attr16 valAttr : Attr) (readLong : Bool) (mtu pLen : UInt16)
    (secFlag : SecFlag) (keySize : UInt8) : ReadResult :=
  let status := gattsCheckAttrReadability attr16 readLong secFlag keySize
  let v := attr16.pValue.getD {}
  if status ≠ .success then ⟨status, pLen, []⟩
  else if !attr16.uuid.is16Bit then ⟨.pending, pLen, []⟩
  else
    let uuid16 := attr16.uuid.as16Bit
    if uuid16 = gattUuidPriService ∨ uuid16 = gattUuidSecService then
      let pLen := gattBuildUuidToStreamLen v.uuid
      if mtu < pLen then ⟨.noResources, pLen, []⟩
      else ⟨.success, pLen, gattBuildUuidToStream v.uuid⟩
    else if uuid16 = gattUuidCharDeclare then
      let valLen := valAttr.uuid.getShortestRepresentationSize
      let pLen : UInt16 := if valLen = 2 then 5 else 19
      if mtu < pLen then ⟨.noResources, pLen, []⟩
      else ⟨.success, pLen, [v.charDeclProperty] ++ uint16ToStream v.charDeclCharValHandle ++
        (if valLen = 2 then uint16ToStream valAttr.uuid.as16Bit else valAttr.uuid.to128BitLE)⟩
    else if uuid16 = gattUuidIncludeService then
      let pLen : UInt16 := if v.inclServiceType.is16Bit then 6 else 4
      if mtu < pLen then ⟨.noResources, pLen, []⟩
      else ⟨.success, pLen, uint16ToStream v.inclSHandle ++ uint16ToStream v.inclEHandle ++
        (if v.inclServiceType.is16Bit then uint16ToStream v.inclServiceType.as16Bit else [])⟩
    else if uuid16 = gattUuidCharExtProp then
      -- the descriptor may have been added by hand, without a value
      let charExtProp := match attr16.pValue with
        | some v => v.charExtProp
        | none => 0
      if mtu < 2 then ⟨.noResources, 2, []⟩
      else ⟨.success, 2, uint16ToStream charExtProp⟩
    else ⟨.pending, pLen, []⟩

/-- What the server sends: an error response, a response PDU, or a read request handed to
the application. -/
inductive Sent where
  | errorRsp (reason : Status) (opCode : UInt8) (handle : UInt16)
  | srMsg (pdu : List UInt8)
  | appReadReq (handle : UInt16)
  deriving DecidableEq, Repr

/-- `gatts_send_app_read_request` with `trans_id` 0: the command is queued when no other
request is pending (`gatt_sr_enqueue_cmd`), then handed to the application. -/
def gattsSendAppReadRequest (noPendingCmd : Bool) (handle : UInt16) (gattType : GattType) :
    Status × List Sent :=
  if noPendingCmd then
    match gattType with
    | .descriptor | .characteristic => (.pending, [.appReadReq handle])
    | .primaryService => (.error, [])
  else (.busy, [])

/-- The fields of the response `BT_HDR` the loop reads and writes: `offset` holds the
entry length once the first entry is in, `len` the message length, `data` the entries. -/
structure RspMsg where
  offset : UInt16
  len : UInt16
  data : List UInt8

/-- The locals and out-parameters of `gatts_db_read_attr_value_by_type`. -/
structure ByTypeState where
  status : Status
  len : UInt16
  rsp : RspMsg
  pLen : UInt16
  curHandle : UInt16
  sent : List Sent

/-- An all-zero attribute, read where a declaration has no attribute after it. -/
def Attr.zero : Attr := ⟨none, 0, 0, Uuid.kEmpty, .primaryService⟩

/-- The loop of `gatts_db_read_attr_value_by_type` over the attribute list. Every
attribute at or after `sHandle` of the requested type is listed; the requested end
handle is not an argument (the code comments it out). -/
def readAttrValueByTypeLoop (sHandle : UInt16) (type : Uuid) (secFlag : SecFlag)
    (keySize : UInt8) (noPendingCmd : Bool) : List Attr → ByTypeState → ByTypeState
  | [], st => st
  | attr :: rest, st =>
    if attr.handle ≥ sHandle ∧ type = attr.uuid then
      if st.pLen ≤ 2 then { st with status := .noResources }
      else
        let r := readAttrValue attr (rest.headD Attr.zero) false (st.pLen - 2) st.len secFlag keySize
        if r.status = .pending then
          let (status, sent) := gattsSendAppReadRequest noPendingCmd attr.handle attr.gattType
          { st with status, len := r.pLen, sent := st.sent ++ sent }
        else if r.status = .success then
          let offset := if st.rsp.offset = 0 then r.pLen + 2 else st.rsp.offset
          if offset = r.pLen + 2 then
            -- the message grows by `len + 2` bytes; the buffer is zeroed (`osi_calloc`) and
            -- nothing was written past the message before, so what the read did not write is 0
            readAttrValueByTypeLoop sHandle type secFlag keySize noPendingCmd rest
              { st with status := .success, len := r.pLen,
                        rsp := ⟨offset, st.rsp.len + (r.pLen + 2),
                          st.rsp.data ++ uint16ToStream attr.handle ++ r.bytes ++
                            List.replicate (r.pLen.toNat - r.bytes.length) 0⟩,
                        pLen := st.pLen - (r.pLen + 2) }
          else
            -- "format mismatch"
            { st with status := .noResources, len := r.pLen, rsp := { st.rsp with offset } }
        else { st with status := r.status, len := r.pLen, curHandle := attr.handle }
    else readAttrValueByTypeLoop sHandle type secFlag keySize noPendingCmd rest st

/-- `gatts_db_read_attr_value_by_type`: its status, the response message, `*p_len`,
`*p_cur_handle` and what it handed to the application. -/
def gattsDbReadAttrValueByType (db : SvcDb) (rsp : RspMsg) (sHandle : UInt16) (type : Uuid)
    (pLen : UInt16) (secFlag : SecFlag) (keySize : UInt8) (curHandle : UInt16)
    (noPendingCmd : Bool) : ByTypeState :=
  readAttrValueByTypeLoop sHandle type secFlag keySize noPendingCmd db.attrList
    ⟨.notFound, 0, rsp, pLen, curHandle, []⟩

end Gatt

import Fluoride.Gatt.Db

/-!
# GATT server — the Read By Type request (`gatt_sr.cc`)

`gatts_process_read_by_type_req` from the request bytes to what the server sends:
`read_handles`, `gatts_validate_packet_format` and `gatt_parse_uuid_from_cmd` on the way
in, then `gatts_db_read_attr_value_by_type` on every registered service whose handle
range meets the requested one, and one error or success response.

The request is the bytes after the opcode, its length their number. The link's payload
size, security flags and key size are inputs, as is whether a server command is already
pending (`gatt_sr_enqueue_cmd` queues a read for the application only when none is).
-/

namespace Gatt

/-- `STREAM_TO_UINT16`: little-endian. -/
def streamToUint16 (p : List UInt8) : UInt16 :=
  (p.getD 0 0).toUInt16 ||| ((p.getD 1 0).toUInt16 <<< 8)

def gattReqFindTypeValue : UInt8 := 0x06
def gattReqReadByType : UInt8 := 0x08

/-- `GATT_HANDLE_IS_VALID`. -/
def gattHandleIsValid (h : UInt16) : Bool := h ≠ 0

/-- `read_handles`: its status and the two handles as far as it read them (the caller's
are 0 until then). -/
def readHandles (p : List UInt8) : Status × UInt16 × UInt16 :=
  if p.length < 4 then (.invalidPdu, 0, 0)
  else
    let sHdl := streamToUint16 p
    let eHdl := streamToUint16 (p.drop 2)
    if sHdl > eHdl ∨ !gattHandleIsValid sHdl ∨ !gattHandleIsValid eHdl then
      (.invalidHandle, sHdl, eHdl)
    else (.success, sHdl, eHdl)

/-- `gatt_parse_uuid_from_cmd`: whether it accepts the size, and the UUID it leaves
(unchanged unless it read one). A 32-bit UUID is refused. -/
def gattParseUuidFromCmd (uuidRec : Uuid) (uuidSize : Nat) (p : List UInt8) : Bool × Uuid :=
  if uuidSize = 2 then (true, Uuid.from16Bit (streamToUint16 p))
  else if uuidSize = 16 then (true, Uuid.from128BitLE p)
  else (uuidSize = 0, uuidRec)

/-- `gatts_validate_packet_format`: status, UUID and the two handles. -/
def gattsValidatePacketFormat (opCode : UInt8) (p : List UInt8) :
    Status × Uuid × UInt16 × UInt16 :=
  let (ret, sHdl, eHdl) := readHandles p
  if ret ≠ .success then (ret, Uuid.kEmpty, sHdl, eHdl)
  else
    let len := p.length - 4
    if len < 2 then (.invalidPdu, Uuid.kEmpty, sHdl, eHdl)
    else
      let uuidLen := if opCode = gattReqFindTypeValue then 2 else len
      let (ok, uuid) := gattParseUuidFromCmd Uuid.kEmpty uuidLen (p.drop 4)
      if !ok then (.invalidPdu, uuid, sHdl, eHdl) else (.success, uuid, sHdl, eHdl)

/-- `tGATT_SRV_LIST_ELEM`: a registered service's handle range and its database. -/
structure SrvListElem where
  sHdl : UInt16
  eHdl : UInt16
  pDb : SvcDb

/-- The locals of the service loop of `gatts_process_read_by_type_req`. -/
structure ReadByTypeState where
  reason : Status
  rsp : RspMsg
  bufLen : UInt16
  errHdl : UInt16
  sHdl : UInt16
  sent : List Sent

/-- The loop over `gatt_cb.srv_list_info`: each service whose range meets
`[s_hdl, e_hdl]` adds its entries; a status other than success or not-found stops it,
with `s_hdl` set to the handle the database reported. -/
def readByTypeServices (eHdl : UInt16) (uuid : Uuid) (secFlag : SecFlag) (keySize : UInt8)
    (noPendingCmd : Bool) : List SrvListElem → ReadByTypeState → ReadByTypeState
  | [], st => st
  | el :: rest, st =>
    if el.sHdl ≤ eHdl ∧ el.eHdl ≥ st.sHdl then
      let r := gattsDbReadAttrValueByType el.pDb st.rsp st.sHdl uuid st.bufLen secFlag keySize
        st.errHdl noPendingCmd
      let reason := if r.status ≠ .notFound then
          (if r.status = .noResources then .success else r.status)
        else st.reason
      let st := { st with reason, rsp := r.rsp, bufLen := r.pLen, errHdl := r.curHandle,
                          sent := st.sent ++ r.sent }
      if r.status ≠ .success ∧ r.status ≠ .notFound then { st with sHdl := st.errHdl }
      else readByTypeServices eHdl uuid secFlag keySize noPendingCmd rest st
    else readByTypeServices eHdl uuid secFlag keySize noPendingCmd rest st

/-- `gatts_process_read_by_type_req`: what the server sends for the request `p` (the
bytes after the opcode). A pending or busy status sends no response: the application
answers later, or the command is dropped. -/
def gattsProcessReadByTypeReq (srvList : List SrvListElem) (payloadSize : UInt16)
    (secFlag : SecFlag) (keySize : UInt8) (noPendingCmd : Bool) (opCode : UInt8)
    (p : List UInt8) : List Sent :=
  let (reason, uuid, sHdl, eHdl) := gattsValidatePacketFormat opCode p
  if reason ≠ .success then [.errorRsp reason opCode sHdl]
  -- the channel is already closed
  else if payloadSize = 0 then []
  else
    let st := readByTypeServices eHdl uuid secFlag keySize noPendingCmd srvList
      ⟨.notFound, ⟨0, 2, []⟩, payloadSize - 2, 0, sHdl, []⟩
    if st.reason ≠ .success then
      st.sent ++ (if st.reason ≠ .pending ∧ st.reason ≠ .busy then
        [.errorRsp st.reason opCode st.sHdl] else [])
    else st.sent ++ [.srMsg ([opCode + 1, st.rsp.offset.toUInt8] ++ st.rsp.data)]

end Gatt

import Fluoride.Rfcomm.TsFrames

/-!
# RFCOMM — multiplexer control messages (`rfc_ts_frames.cc`)

The messages on DLCI 0 that negotiate a DLC's parameters (PN), carry its modem status (MSC), its
line status (RLS) and its port settings (RPN), turn the flow off and on (FCOFF, FCON), test the
link (TEST), and answer a command the other side does not take (NSC).

Each `rfc_send_*` writes its message into a new buffer after room for the L2CAP and UIH headers:
a type byte with EA and the message's own C/R bit, a length byte, and the values
(`rfcSendMx`); `rfc_send_buf_uih` then frames it as a UIH frame on DLCI 0.

`rfc_process_mx_message` reads a message back from the information field of a UIH frame on
DLCI 0. It writes what it reads into `rfc_cb.rfc.rx_frame` and hands the message to its handler
(`MxAction`); a message it cannot take is dropped, and answered with NSC when it was a command.
The union `u` of `rx_frame` is one record per member here: the handlers read the member that the
message they handle has just written.
-/

namespace Rfcomm

open Stack

/-! ## Message types and sizes (`rfcdefs.h`, `rfc_int.h`, `port_int.h`) -/

def rfcommMxPn : UInt8 := 0x80
def rfcommMxPnLen : Nat := 8
def rfcommMxTest : UInt8 := 0x20
def rfcommMxFcon : UInt8 := 0xA0
def rfcommMxFconLen : Nat := 0
def rfcommMxFcoff : UInt8 := 0x60
def rfcommMxFcoffLen : Nat := 0
def rfcommMxMsc : UInt8 := 0xE0
def rfcommMxMscLenNoBreak : Nat := 2
def rfcommMxMscLenWithBreak : Nat := 3
def rfcommMxNsc : UInt8 := 0x10
def rfcommMxNscLen : Nat := 1
def rfcommMxRpn : UInt8 := 0x90
def rfcommMxRpnReqLen : Nat := 1
def rfcommMxRpnLen : Nat := 8
def rfcommMxRls : UInt8 := 0x50
def rfcommMxRlsLen : Nat := 2

def rfcommEaMask : UInt8 := 0x01
def rfcommPnDlciMask : UInt8 := 0x3F
def rfcommPnFramTypeUih : UInt8 := 0x00
def rfcommPnFrameTypeMask : UInt8 := 0x0F
def rfcommPnConvLayerMask : UInt8 := 0xF0
def rfcommPnPriorityMask : UInt8 := 0x3F
def rfcommPnPriority0 : UInt8 := 0
def rfcommPnKMask : UInt8 := 0x07
def rfcommT1Dsec : UInt8 := 0
def rfcommN2 : UInt8 := 0

def rfcommMscFc : UInt8 := 0x02
def rfcommMscRtc : UInt8 := 0x04
def rfcommMscRtr : UInt8 := 0x08
def rfcommMscIc : UInt8 := 0x40
def rfcommMscDv : UInt8 := 0x80
def rfcommMscShiftBreak : UInt8 := 4
def rfcommMscBreakMask : UInt8 := 0xF0
def rfcommMscBreakPresentMask : UInt8 := 0x02

def rfcommRpnBitsMask : UInt8 := 0x03
def rfcommRpnBitsShift : UInt8 := 0
def rfcommRpnStopBitsMask : UInt8 := 0x01
def rfcommRpnStopBitsShift : UInt8 := 2
def rfcommRpnParityMask : UInt8 := 0x01
def rfcommRpnParityShift : UInt8 := 3
def rfcommRpnParityTypeMask : UInt8 := 0x03
def rfcommRpnParityTypeShift : UInt8 := 4
def rfcommFcMask : UInt8 := 0x3F
def rfcommRpnPmMask : Nat := 0x3F7F
def rfcommRlsError : UInt8 := 0x01

/-- `RFCOMM_MIN_MTU`. -/
def rfcommMinMtu : Nat := 23
/-- `RFCOMM_MAX_MTU`. -/
def rfcommMaxMtu : Nat := 32767
/-- `RFCOMM_MIN_OFFSET`: the address, control, two length bytes and a credit byte. -/
def rfcommMinOffset : Nat := 5
/-- `RFCOMM_CMD_BUF_SIZE`, `BT_SMALL_BUFFER_SIZE`. -/
def rfcommCmdBufSize : Nat := 660

def modemSignalDtrdsr : UInt8 := 0x01
def modemSignalRtscts : UInt8 := 0x02
def modemSignalRi : UInt8 := 0x04
def modemSignalDcd : UInt8 := 0x08
def rfcommCtrlBreakInSeq : UInt8 := 1

/-- `RFCOMM_I_CR`: the C/R bit of a multiplexer message. -/
def rfcommICr (isCommand : Bool) : UInt8 := if isCommand then 0x02 else 0x00

/-! ## `rx_frame` -/

/-- `u.pn`. -/
structure PnFields where
  frameType : UInt8
  convLayer : UInt8
  priority : UInt8
  t1 : UInt8
  mtu : Nat
  n2 : UInt8
  k : UInt8
  deriving DecidableEq, Repr

/-- `u.msc`. -/
structure MscFields where
  signals : UInt8
  breakPresent : UInt8
  breakDuration : UInt8
  deriving DecidableEq, Repr

/-- `u.nsc`. -/
structure NscFields where
  ea : UInt8
  cr : UInt8
  type : UInt8
  deriving DecidableEq, Repr

/-- `u.rpn`. -/
structure RpnFields where
  isRequest : Bool
  baudRate : UInt8
  byteSize : UInt8
  stopBits : UInt8
  parity : UInt8
  parityType : UInt8
  fcType : UInt8
  xonChar : UInt8
  xoffChar : UInt8
  paramMask : Nat
  deriving DecidableEq, Repr

/-- The fields of `rfc_cb.rfc.rx_frame` that `rfc_process_mx_message` writes: the message's EA,
C/R bit and type, the DLCI it is about, and the union's members. `u.test` is the length of the
test data; its pointer is the buffer the TEST action carries. -/
structure MxRxFrame where
  dlci : UInt8
  type : UInt8
  cr : UInt8
  ea : UInt8
  pn : PnFields
  testLen : Nat
  msc : MscFields
  nsc : NscFields
  rpn : RpnFields
  rlsLineStatus : UInt8
  deriving DecidableEq, Repr

/-- `rfc_cb.rfc.rx_frame` as `RFCOMM_Init` leaves it: zeroed by its `memset`. -/
def MxRxFrame.init : MxRxFrame :=
  ⟨0, 0, 0, 0, ⟨0, 0, 0, 0, 0, 0, 0⟩, 0, ⟨0, 0, 0⟩, ⟨0, 0, 0⟩,
    ⟨false, 0, 0, 0, 0, 0, 0, 0, 0, 0⟩, 0⟩

/-- What `rfc_process_mx_message` does with a message once it has read it. -/
inductive MxAction
  /-- `osi_free(p_buf)`, and nothing else. -/
  | freed
  /-- `rfc_send_nsc`, after `osi_free(p_buf)`. -/
  | sendNsc
  | processPn (isCommand : Bool)
  /-- A TEST command goes back with `rfc_send_test`, a response to `rfc_process_test_rsp`; either
  way the buffer is moved two bytes on, past the message's type and length. -/
  | test (isCommand : Bool) (pBuf : BtHdr)
  | processFcon (isCommand : Bool)
  | processFcoff (isCommand : Bool)
  | processMsc (isCommand : Bool)
  | processNsc
  | processRpn (isCommand isRequest : Bool)
  | processRls (isCommand : Bool)
  deriving DecidableEq, Repr

/-! ## `rfc_process_mx_message` -/

/-- A `break` out of the `switch`: the buffer is freed, and a command is answered with NSC. -/
def rfcMxReject (rx : MxRxFrame) (isCommand : Bool) : MxRxFrame × MxAction :=
  (rx, if isCommand then .sendNsc else .freed)

/-- `case RFCOMM_MX_PN`, on the message's values `q`. -/
def rfcMxPnCase (rx : MxRxFrame) (isCommand : Bool) (q : List UInt8) (length : Nat) :
    MxRxFrame × MxAction :=
  let byte (i : Nat) : UInt8 := q.getD i 0
  if length ≠ rfcommMxPnLen then rfcMxReject rx isCommand
  else
    let rx := { rx with
      dlci := byte 0 &&& rfcommPnDlciMask
      pn := ⟨byte 1 &&& rfcommPnFrameTypeMask, byte 1 &&& rfcommPnConvLayerMask,
        byte 2 &&& rfcommPnPriorityMask, byte 3, (byte 4).toNat + (byte 5).toNat <<< 8, byte 6,
        byte 7 &&& rfcommPnKMask⟩ }
    if rx.dlci = 0 ∨ rfcommValidDlci rx.dlci = false ∨ rx.pn.mtu < rfcommMinMtu ∨
        rx.pn.mtu > rfcommMaxMtu then rfcMxReject rx isCommand
    else (rx, .processPn isCommand)

/-- `case RFCOMM_MX_TEST`: the buffer moves on by the two bytes of a one-byte length field, whatever
the length field took. -/
def rfcMxTestCase (rx : MxRxFrame) (isCommand : Bool) (length : Nat) (pBuf : BtHdr) :
    MxRxFrame × MxAction :=
  if length = 0 then rfcMxReject rx isCommand
  else ({ rx with testLen := length }, .test isCommand ⟨pBuf.offset + 2, pBuf.len - 2, pBuf.data⟩)

/-- The address byte that MSC, RPN and RLS carry: EA and C/R set, and a valid DLCI other than
the multiplexer's. -/
def rfcMxDlciOk (b : UInt8) : Bool :=
  b &&& rfcommEa != 0 && (b &&& rfcommCrMask) >>> rfcommShiftCr != 0 &&
    b >>> rfcommShiftDlci != 0 && rfcommValidDlci (b >>> rfcommShiftDlci)

/-- `case RFCOMM_MX_MSC`: a message of the wrong length is dropped without an answer. -/
def rfcMxMscCase (rx : MxRxFrame) (isCommand : Bool) (q : List UInt8) (length : Nat) :
    MxRxFrame × MxAction :=
  let byte (i : Nat) : UInt8 := q.getD i 0
  if length ≠ rfcommMxMscLenWithBreak ∧ length ≠ rfcommMxMscLenNoBreak then (rx, .freed)
  else
    let rx := { rx with dlci := byte 0 >>> rfcommShiftDlci }
    if rfcMxDlciOk (byte 0) = false then rfcMxReject rx isCommand
    else
      -- the source tests `mx_len`, which equals `length` here
      let rx := { rx with msc :=
        if length = rfcommMxMscLenWithBreak then
          ⟨byte 1, byte 2 &&& rfcommMscBreakPresentMask,
            (byte 2 &&& rfcommMscBreakMask) >>> rfcommMscShiftBreak⟩
        else ⟨byte 1, 0, 0⟩ }
      (rx, .processMsc isCommand)

/-- `case RFCOMM_MX_NSC`: taken only as a command. -/
def rfcMxNscCase (rx : MxRxFrame) (isCommand : Bool) (q : List UInt8) (length : Nat) :
    MxRxFrame × MxAction :=
  let b := q.getD 0 0
  if length ≠ rfcommMxNscLen ∨ isCommand = false then rfcMxReject rx isCommand
  else
    ({ rx with nsc := ⟨b &&& rfcommEa, (b &&& rfcommCrMask) >>> rfcommShiftCr,
      b >>> rfcommShiftDlci⟩ }, .processNsc)

/-- `case RFCOMM_MX_RPN`: a request of one byte, or the port settings. -/
def rfcMxRpnCase (rx : MxRxFrame) (isCommand : Bool) (q : List UInt8) (length : Nat) :
    MxRxFrame × MxAction :=
  let byte (i : Nat) : UInt8 := q.getD i 0
  if length ≠ rfcommMxRpnReqLen ∧ length ≠ rfcommMxRpnLen then rfcMxReject rx isCommand
  else
    let rx := { rx with dlci := byte 0 >>> rfcommShiftDlci }
    if rfcMxDlciOk (byte 0) = false then rfcMxReject rx isCommand
    else
      let isRequest := decide (length = rfcommMxRpnReqLen)
      let rpn : RpnFields :=
        if isRequest then { rx.rpn with isRequest := true }
        else
          ⟨false, byte 1, (byte 2 >>> rfcommRpnBitsShift) &&& rfcommRpnBitsMask,
            (byte 2 >>> rfcommRpnStopBitsShift) &&& rfcommRpnStopBitsMask,
            (byte 2 >>> rfcommRpnParityShift) &&& rfcommRpnParityMask,
            (byte 2 >>> rfcommRpnParityTypeShift) &&& rfcommRpnParityTypeMask,
            byte 3 &&& rfcommFcMask, byte 4, byte 5,
            ((byte 6).toNat + (byte 7).toNat <<< 8) &&& rfcommRpnPmMask⟩
      ({ rx with rpn := rpn }, .processRpn isCommand isRequest)

/-- `case RFCOMM_MX_RLS`: the line status without its error bit. -/
def rfcMxRlsCase (rx : MxRxFrame) (isCommand : Bool) (q : List UInt8) (length : Nat) :
    MxRxFrame × MxAction :=
  let byte (i : Nat) : UInt8 := q.getD i 0
  if length ≠ rfcommMxRlsLen then rfcMxReject rx isCommand
  else
    let rx := { rx with dlci := byte 0 >>> rfcommShiftDlci, rlsLineStatus := byte 1 &&& ~~~0x01 }
    if rfcMxDlciOk (byte 0) = false then rfcMxReject rx isCommand
    else (rx, .processRls isCommand)

/-- The `switch` on the message type, with `q` the values after the message's header. -/
def rfcMxSwitch (rx : MxRxFrame) (isCommand : Bool) (q : List UInt8) (length : Nat)
    (pBuf : BtHdr) : MxRxFrame × MxAction :=
  if rx.type = rfcommMxPn then rfcMxPnCase rx isCommand q length
  else if rx.type = rfcommMxTest then rfcMxTestCase rx isCommand length pBuf
  else if rx.type = rfcommMxFcon then
    if length ≠ rfcommMxFconLen then rfcMxReject rx isCommand else (rx, .processFcon isCommand)
  else if rx.type = rfcommMxFcoff then
    if length ≠ rfcommMxFcoffLen then rfcMxReject rx isCommand else (rx, .processFcoff isCommand)
  else if rx.type = rfcommMxMsc then rfcMxMscCase rx isCommand q length
  else if rx.type = rfcommMxNsc then rfcMxNscCase rx isCommand q length
  else if rx.type = rfcommMxRpn then rfcMxRpnCase rx isCommand q length
  else if rx.type = rfcommMxRls then rfcMxRlsCase rx isCommand q length
  else rfcMxReject rx isCommand

/-- `rfc_process_mx_message`: the message's type byte and length field, checked against the
buffer's length, then the `switch`. `mx_len` is a `uint8_t`: a second length byte adds only its
low bit, as bit 7. -/
def rfcProcessMxMessage (rx : MxRxFrame) (pBuf : BtHdr) : MxRxFrame × MxAction :=
  let p := pBuf.data.drop pBuf.offset
  let byte (i : Nat) : UInt8 := p.getD i 0
  if pBuf.len < 2 then (rx, .freed)
  else
    let rx := { rx with
      ea := byte 0 &&& rfcommEa
      cr := (byte 0 &&& rfcommCrMask) >>> rfcommShiftCr
      type := byte 0 &&& ~~~(rfcommCrMask ||| rfcommEaMask) }
    if rx.ea = 0 ∨ pBuf.len = 0 then (rx, .freed)
    else
      let isCommand := rx.cr != 0
      let ea := byte 1 &&& rfcommEa
      let length := pBuf.len - 2
      if ea = 0 ∧ length < 1 then (rx, .freed)
      else
        let mxLen : Nat :=
          if ea = 0 then
            ((byte 1).toNat >>> rfcommShiftLength1 + (byte 2).toNat <<< rfcommShiftLength2) % 256
          else (byte 1).toNat >>> rfcommShiftLength1
        let length := if ea = 0 then length - 1 else length
        if mxLen ≠ length then (rx, .freed)
        else rfcMxSwitch rx isCommand (p.drop (if ea = 0 then 3 else 2)) length pBuf

/-! ## Sending a message -/

/-- A new command buffer, `osi_malloc(RFCOMM_CMD_BUF_SIZE)`, with a multiplexer message written
after room for the L2CAP and UIH headers. -/
def rfcMxBuf (msg : List UInt8) : BtHdr :=
  ⟨l2capMinOffset + rfcommCtrlFrameLen, msg.length,
    Overwrite.write (List.replicate (rfcommCmdBufSize - btHdrSize) 0)
      (l2capMinOffset + rfcommCtrlFrameLen) msg⟩

/-- What every `rfc_send_*` of a multiplexer message does: the type byte with EA and the
message's C/R bit, the length byte for `len` values, the values, framed on DLCI 0. -/
def rfcSendMx (mcb : RfcMcb) (type : UInt8) (isCommand : Bool) (len : Nat)
    (values : List UInt8) : BtHdr :=
  rfcSendBufUih mcb rfcommMxDlci
    (rfcMxBuf ([rfcommEa ||| rfcommICr isCommand ||| type, rfcommEa ||| (len <<< 1).toUInt8] ++
      values)) 0

/-- `rfc_send_pn`. A response echoes the priority of the PN just received. -/
def rfcSendPn (mcb : RfcMcb) (rx : MxRxFrame) (dlci : UInt8) (isCommand : Bool) (mtu : UInt16)
    (cl k : UInt8) : BtHdr :=
  rfcSendMx mcb rfcommMxPn isCommand rfcommMxPnLen
    [dlci, rfcommPnFramTypeUih ||| cl, if isCommand then rfcommPnPriority0 else rx.pn.priority,
      rfcommT1Dsec, (mtu &&& 0xFF).toUInt8, (mtu >>> 8).toUInt8, rfcommN2, k]

/-- `rfc_send_fcon`. -/
def rfcSendFcon (mcb : RfcMcb) (isCommand : Bool) : BtHdr :=
  rfcSendMx mcb rfcommMxFcon isCommand rfcommMxFconLen []

/-- `rfc_send_fcoff`. -/
def rfcSendFcoff (mcb : RfcMcb) (isCommand : Bool) : BtHdr :=
  rfcSendMx mcb rfcommMxFcoff isCommand rfcommMxFcoffLen []

/-- `tPORT_CTRL`. -/
structure PortCtrl where
  modemSignal : UInt8
  breakSignal : UInt8
  discardBuffers : UInt8
  breakSignalSeq : UInt8
  fc : Bool
  deriving DecidableEq, Repr

/-- `rfc_send_msc`: the modem signals as the V.24 bits, and a break byte when there is a break. -/
def rfcSendMsc (mcb : RfcMcb) (dlci : UInt8) (isCommand : Bool) (pars : PortCtrl) : BtHdr :=
  let signals := pars.modemSignal
  let breakDuration := pars.breakSignal
  let len := if breakDuration ≠ 0 then rfcommMxMscLenWithBreak else rfcommMxMscLenNoBreak
  rfcSendMx mcb rfcommMxMsc isCommand len
    ([rfcommEa ||| rfcommCrMask ||| (dlci <<< rfcommShiftDlci),
      rfcommEa ||| (if pars.fc then rfcommMscFc else 0) |||
        (if signals &&& modemSignalDtrdsr ≠ 0 then rfcommMscRtc else 0) |||
        (if signals &&& modemSignalRtscts ≠ 0 then rfcommMscRtr else 0) |||
        (if signals &&& modemSignalRi ≠ 0 then rfcommMscIc else 0) |||
        (if signals &&& modemSignalDcd ≠ 0 then rfcommMscDv else 0)] ++
      if breakDuration ≠ 0 then
        [rfcommEa ||| rfcommMscBreakPresentMask ||| (breakDuration <<< rfcommMscShiftBreak)]
      else [])

/-- `rfc_send_rls`. -/
def rfcSendRls (mcb : RfcMcb) (dlci : UInt8) (isCommand : Bool) (status : UInt8) : BtHdr :=
  rfcSendMx mcb rfcommMxRls isCommand rfcommMxRlsLen
    [rfcommEa ||| rfcommCrMask ||| (dlci <<< rfcommShiftDlci), rfcommRlsError ||| status]

/-- `rfc_send_nsc`: a response naming the type of the message just received. -/
def rfcSendNsc (mcb : RfcMcb) (rx : MxRxFrame) : BtHdr :=
  rfcSendMx mcb rfcommMxNsc false rfcommMxNscLen
    [rx.ea ||| (rx.cr <<< rfcommShiftCr) ||| rx.type]

/-- The fields of `PortSettings` that `rfc_send_rpn` writes. -/
structure PortSettings where
  baudRate : UInt8
  byteSize : UInt8
  stopBits : UInt8
  parity : UInt8
  parityType : UInt8
  fcType : UInt8
  xonChar : UInt8
  xoffChar : UInt8
  deriving DecidableEq, Repr

/-- `rfc_send_rpn`: a request without settings, or the settings with the mask of those that
apply. -/
def rfcSendRpn (mcb : RfcMcb) (dlci : UInt8) (isCommand : Bool) (settings : Option PortSettings)
    (mask : UInt16) : BtHdr :=
  let addr := rfcommEa ||| rfcommCrMask ||| (dlci <<< rfcommShiftDlci)
  match settings with
  | none => rfcSendMx mcb rfcommMxRpn isCommand rfcommMxRpnReqLen [addr]
  | some s =>
    rfcSendMx mcb rfcommMxRpn isCommand rfcommMxRpnLen
      [addr, s.baudRate,
        (s.byteSize <<< rfcommRpnBitsShift) ||| (s.stopBits <<< rfcommRpnStopBitsShift) |||
          (s.parity <<< rfcommRpnParityShift) ||| (s.parityType <<< rfcommRpnParityTypeShift),
        s.fcType, s.xonChar, s.xoffChar, (mask &&& 0xFF).toUInt8, (mask >>> 8).toUInt8]

/-- `rfc_send_test`: the test data, moved into a new buffer when there is no room in front of it
for the message header and the UIH header, goes out behind a one-byte length field. -/
def rfcSendTest (mcb : RfcMcb) (isCommand : Bool) (pBuf : BtHdr) : BtHdr :=
  let room := l2capMinOffset + rfcommMinOffset + 2
  let pBuf : BtHdr :=
    if pBuf.offset < room then ⟨room, pBuf.len, List.replicate room 0 ++ pBuf.msg ++ [0]⟩
    else pBuf
  rfcSendBufUih mcb rfcommMxDlci
    (pBuf.prepend [rfcommEa ||| rfcommICr isCommand ||| rfcommMxTest,
      rfcommEa ||| (pBuf.len <<< 1).toUInt8]) 0

/-- The `tPORT_CTRL` that `rfc_process_msc` builds from a received MSC, for `PORT_ControlInd` or
`PORT_ControlCnf`: the modem signals back from the V.24 bits, the FC bit, and the break. -/
def rfcProcessMscPars (msc : MscFields) : PortCtrl :=
  let s := msc.signals
  { modemSignal :=
      (if s &&& rfcommMscRtc ≠ 0 then modemSignalDtrdsr else 0) |||
        (if s &&& rfcommMscRtr ≠ 0 then modemSignalRtscts else 0) |||
        (if s &&& rfcommMscIc ≠ 0 then modemSignalRi else 0) |||
        (if s &&& rfcommMscDv ≠ 0 then modemSignalDcd else 0)
    breakSignal := if msc.breakPresent ≠ 0 then msc.breakDuration else 0
    discardBuffers := 0
    breakSignalSeq := rfcommCtrlBreakInSeq
    fc := s &&& rfcommMscFc == rfcommMscFc }

end Rfcomm

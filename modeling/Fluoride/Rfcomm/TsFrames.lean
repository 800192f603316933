import Fluoride.Stack.BtHdr
import Fluoride.Lib.Overwrite

/-!
# RFCOMM — frames on the multiplexer channel (`rfc_ts_frames.cc`, `rfc_utils.cc`)

A TS 07.10 frame is an address byte (EA bit, C/R bit and DLCI), a control byte (frame type and
P/F bit), a length field of one byte (EA set) or two, for a UIH frame with credit-based flow
control a credit byte, the information field, and the FCS, a CRC-8 over the address and control
bytes (UIH) or over those and the length byte (the other frames). `rfc_calc_fcs` computes it
from a table and `rfc_check_fcs` checks a received one; `RFCOMM_PRECALC_FCS` is not defined, so
every frame's FCS is computed this way.

The senders kept here write a frame into a buffer: `rfc_send_sabme`, `rfc_send_ua`, `rfc_send_dm`
and `rfc_send_disc` a control frame of three header bytes and the FCS at `L2CAP_MIN_OFFSET`
(`rfcCtrlFrame`, with each sender's type, P/F bit and C/R bit), `rfc_send_buf_uih` the header in
front of a payload already in its buffer and the FCS after it, `rfc_send_credit` a UIH frame
carrying credits alone. What they then do with the buffer,
queue it in `cmd_q` or hand it to L2CAP, is left out: the model returns the buffer.
`rfc_parse_data` checks a received frame and strips its header: it returns the event, the fields
it writes into `p_frame`, and `p_buf` moved to the information field.

An MCB is kept to the two fields these functions read: `is_initiator` and `flow`. Of `MX_FRAME`
the fields `rfc_parse_data` writes are kept; `ea` and the union `u` are left out.
-/

namespace Rfcomm

open Stack

/-! ## Frame fields (`rfcdefs.h`) -/

def rfcommSabme : UInt8 := 0x2F
def rfcommUa : UInt8 := 0x63
def rfcommDm : UInt8 := 0x0F
def rfcommDisc : UInt8 := 0x43
def rfcommUih : UInt8 := 0xEF

def rfcommCtrlFrameLen : Nat := 3

def rfcommEa : UInt8 := 1
def rfcommCrMask : UInt8 := 0x02
def rfcommShiftCr : UInt8 := 1
def rfcommShiftDlci : UInt8 := 2
def rfcommShiftDlci2 : UInt8 := 6
def rfcommPf : UInt8 := 0x10
def rfcommPfMask : UInt8 := 0x10
def rfcommPfOffset : UInt8 := 4
def rfcommShiftLength1 : Nat := 1
def rfcommShiftLength2 : Nat := 7

def rfcommMaxDlci : UInt8 := 61
def rfcommMxDlci : UInt8 := 0

/-- `PORT_FC_CREDIT`: credit-based flow control on a multiplexer. -/
def portFcCredit : UInt8 := 2

/-- `RFCOMM_CR`: the C/R bit of a frame, set for a command from the initiator and for a
response from the responder. -/
def rfcommCr (initiator isCommand : Bool) : UInt8 :=
  if (initiator && isCommand) || (!initiator && !isCommand) then 1 <<< rfcommShiftCr else 0

/-- `RFCOMM_FRAME_IS_CMD`. -/
def rfcommFrameIsCmd (initiator : Bool) (cr : UInt8) : Bool :=
  (initiator && cr == 0) || (!initiator && cr != 0)

/-- `RFCOMM_FRAME_IS_RSP`. -/
def rfcommFrameIsRsp (initiator : Bool) (cr : UInt8) : Bool :=
  (initiator && cr != 0) || (!initiator && cr == 0)

/-- `RFCOMM_VALID_DLCI`: the multiplexer channel 0, or a DLCI from 2 to 61. -/
def rfcommValidDlci (dlci : UInt8) : Bool :=
  dlci == 0 || (decide (2 ≤ dlci) && decide (dlci ≤ rfcommMaxDlci))

/-! ## The FCS (`rfc_utils.cc`) -/

/-- `rfc_crctable`: the reversed CRC-8 table, polynomial `0x07`. -/
def rfcCrctable : List UInt8 := [
  0x00, 0x91, 0xE3, 0x72, 0x07, 0x96, 0xE4, 0x75, 0x0E, 0x9F, 0xED, 0x7C,
  0x09, 0x98, 0xEA, 0x7B, 0x1C, 0x8D, 0xFF, 0x6E, 0x1B, 0x8A, 0xF8, 0x69,
  0x12, 0x83, 0xF1, 0x60, 0x15, 0x84, 0xF6, 0x67, 0x38, 0xA9, 0xDB, 0x4A,
  0x3F, 0xAE, 0xDC, 0x4D, 0x36, 0xA7, 0xD5, 0x44, 0x31, 0xA0, 0xD2, 0x43,
  0x24, 0xB5, 0xC7, 0x56, 0x23, 0xB2, 0xC0, 0x51, 0x2A, 0xBB, 0xC9, 0x58,
  0x2D, 0xBC, 0xCE, 0x5F, 0x70, 0xE1, 0x93, 0x02, 0x77, 0xE6, 0x94, 0x05,
  0x7E, 0xEF, 0x9D, 0x0C, 0x79, 0xE8, 0x9A, 0x0B, 0x6C, 0xFD, 0x8F, 0x1E,
  0x6B, 0xFA, 0x88, 0x19, 0x62, 0xF3, 0x81, 0x10, 0x65, 0xF4, 0x86, 0x17,
  0x48, 0xD9, 0xAB, 0x3A, 0x4F, 0xDE, 0xAC, 0x3D, 0x46, 0xD7, 0xA5, 0x34,
  0x41, 0xD0, 0xA2, 0x33, 0x54, 0xC5, 0xB7, 0x26, 0x53, 0xC2, 0xB0, 0x21,
  0x5A, 0xCB, 0xB9, 0x28, 0x5D, 0xCC, 0xBE, 0x2F, 0xE0, 0x71, 0x03, 0x92,
  0xE7, 0x76, 0x04, 0x95, 0xEE, 0x7F, 0x0D, 0x9C, 0xE9, 0x78, 0x0A, 0x9B,
  0xFC, 0x6D, 0x1F, 0x8E, 0xFB, 0x6A, 0x18, 0x89, 0xF2, 0x63, 0x11, 0x80,
  0xF5, 0x64, 0x16, 0x87, 0xD8, 0x49, 0x3B, 0xAA, 0xDF, 0x4E, 0x3C, 0xAD,
  0xD6, 0x47, 0x35, 0xA4, 0xD1, 0x40, 0x32, 0xA3, 0xC4, 0x55, 0x27, 0xB6,
  0xC3, 0x52, 0x20, 0xB1, 0xCA, 0x5B, 0x29, 0xB8, 0xCD, 0x5C, 0x2E, 0xBF,
  0x90, 0x01, 0x73, 0xE2, 0x97, 0x06, 0x74, 0xE5, 0x9E, 0x0F, 0x7D, 0xEC,
  0x99, 0x08, 0x7A, 0xEB, 0x8C, 0x1D, 0x6F, 0xFE, 0x8B, 0x1A, 0x68, 0xF9,
  0x82, 0x13, 0x61, 0xF0, 0x85, 0x14, 0x66, 0xF7, 0xA8, 0x39, 0x4B, 0xDA,
  0xAF, 0x3E, 0x4C, 0xDD, 0xA6, 0x37, 0x45, 0xD4, 0xA1, 0x30, 0x42, 0xD3,
  0xB4, 0x25, 0x57, 0xC6, 0xB3, 0x22, 0x50, 0xC1, 0xBA, 0x2B, 0x59, 0xC8,
  0xBD, 0x2C, 0x5E, 0xCF]

/-- One step of the loops of `rfc_calc_fcs` and `rfc_check_fcs`: `fcs = rfc_crctable[fcs ^ *p++]`. -/
def rfcCrcStep (fcs b : UInt8) : UInt8 := rfcCrctable.getD (fcs ^^^ b).toNat 0

/-- `rfc_calc_fcs`: the CRC of the first `len` bytes of `p`, complemented. -/
def rfcCalcFcs (len : Nat) (p : List UInt8) : UInt8 :=
  0xFF - (p.take len).foldl rfcCrcStep 0xFF

/-- `rfc_check_fcs`: the CRC of the first `len` bytes of `p` and the received FCS is `0xCF`. -/
def rfcCheckFcs (len : Nat) (p : List UInt8) (receivedFcs : UInt8) : Bool :=
  rfcCrcStep ((p.take len).foldl rfcCrcStep 0xFF) receivedFcs == 0xCF

/-! ## Sending a frame -/

/-- The fields of `tRFC_MCB` the frame functions read: `is_initiator` and `flow`. -/
structure RfcMcb where
  isInitiator : Bool
  flow : UInt8
  deriving DecidableEq, Repr

/-- A control frame in a new buffer at `L2CAP_MIN_OFFSET`: the address byte, the control byte
`ctrl`, an empty length field, and the FCS over the three. -/
def rfcCtrlFrame (cr dlci ctrl : UInt8) : BtHdr :=
  let hdr := [rfcommEa ||| cr ||| (dlci <<< rfcommShiftDlci), ctrl, rfcommEa ||| 0]
  ⟨l2capMinOffset, 4, List.replicate l2capMinOffset 0 ++ hdr ++ [rfcCalcFcs rfcommCtrlFrameLen hdr]⟩

/-- `rfc_send_sabme`: a command, P = 1. -/
def rfcSendSabme (mcb : RfcMcb) (dlci : UInt8) : BtHdr :=
  rfcCtrlFrame (rfcommCr mcb.isInitiator true) dlci (rfcommSabme ||| rfcommPf)

/-- `rfc_send_ua`: a response, F = 1. -/
def rfcSendUa (mcb : RfcMcb) (dlci : UInt8) : BtHdr :=
  rfcCtrlFrame (rfcommCr mcb.isInitiator false) dlci (rfcommUa ||| rfcommPf)

/-- `rfc_send_dm`: a response, with the F bit the caller gives. -/
def rfcSendDm (mcb : RfcMcb) (dlci : UInt8) (pf : Bool) : BtHdr :=
  rfcCtrlFrame (rfcommCr mcb.isInitiator false) dlci (rfcommDm ||| if pf then rfcommPf else 0)

/-- `rfc_send_disc`: a command, P = 1. -/
def rfcSendDisc (mcb : RfcMcb) (dlci : UInt8) : BtHdr :=
  rfcCtrlFrame (rfcommCr mcb.isInitiator true) dlci (rfcommDisc ||| rfcommPf)

/-- The header `rfc_send_buf_uih` writes in front of a payload of `len` bytes: the address byte,
the control byte (P set when credits go with the frame), a length field of one byte up to 127
and of two above, and the credits when there are any. -/
def rfcUihHeader (cr dlci credits : UInt8) (len : Nat) : List UInt8 :=
  let lenField : List UInt8 :=
    if len ≤ 127 then [rfcommEa ||| (len <<< rfcommShiftLength1).toUInt8]
    else [((len &&& 0x7f) <<< 1).toUInt8, (len >>> rfcommShiftLength2).toUInt8]
  [rfcommEa ||| cr ||| (dlci <<< rfcommShiftDlci),
    rfcommUih ||| (if credits ≠ 0 then rfcommPf else 0)] ++ lenField ++
    (if credits ≠ 0 then [credits] else [])

/-- `rfc_send_buf_uih`: the UIH header written in front of the payload of `p_buf` (a command;
the credits are `(uint8_t)layer_specific` on a DLCI other than 0), and the FCS over the address
and control bytes after the payload. The header moves the offset back by its own length, as the
source's decrements do. -/
def rfcSendBufUih (mcb : RfcMcb) (dlci : UInt8) (pBuf : BtHdr) (layerSpecific : UInt16) : BtHdr :=
  let credits : UInt8 := if dlci ≠ 0 then layerSpecific.toUInt8 else 0
  let framed := pBuf.prepend (rfcUihHeader (rfcommCr mcb.isInitiator true) dlci credits pBuf.len)
  ⟨framed.offset, framed.len + 1, Overwrite.write framed.data (framed.offset + framed.len)
    [rfcCalcFcs 2 (framed.data.drop framed.offset)]⟩

/-- `rfc_send_credit`: a UIH frame with P set, an empty information field and the credits, in a
new buffer at `L2CAP_MIN_OFFSET`, with the FCS over the address and control bytes. -/
def rfcSendCredit (mcb : RfcMcb) (dlci credit : UInt8) : BtHdr :=
  let hdr := [rfcommEa ||| rfcommCr mcb.isInitiator true ||| (dlci <<< rfcommShiftDlci),
    rfcommUih ||| rfcommPf, rfcommEa ||| 0, credit]
  ⟨l2capMinOffset, 5, List.replicate l2capMinOffset 0 ++ hdr ++ [rfcCalcFcs 2 hdr]⟩

/-! ## `rfc_parse_data` -/

/-- `tRFC_EVENT`. -/
inductive RfcEvent
  | sabme
  | ua
  | dm
  | disc
  | uih
  | timeout
  | badFrame
  deriving DecidableEq, Repr

/-- The fields of `MX_FRAME` that `rfc_parse_data` writes. -/
structure MxFrame where
  dlci : UInt8
  type : UInt8
  cr : UInt8
  pf : UInt8
  credit : UInt8
  deriving DecidableEq, Repr

/-- The `switch` on the frame type that ends `rfc_parse_data`: each type's checks of the C/R
bit against the MCB's role, of the P/F bit, of an empty information field, of the DLCI, and of
the FCS over the header at `start`. A UIH frame is taken as a command or a response alike. -/
def rfcFrameEvent (mcb : RfcMcb) (frame : MxFrame) (len : Nat) (start : List UInt8)
    (fcs : UInt8) : RfcEvent :=
  if frame.type = rfcommSabme then
    if rfcommFrameIsRsp mcb.isInitiator frame.cr || frame.pf == 0 || len != 0 ||
        !rfcommValidDlci frame.dlci || !rfcCheckFcs rfcommCtrlFrameLen start fcs then .badFrame
    else .sabme
  else if frame.type = rfcommUa then
    if rfcommFrameIsCmd mcb.isInitiator frame.cr || frame.pf == 0 || len != 0 ||
        !rfcommValidDlci frame.dlci || !rfcCheckFcs rfcommCtrlFrameLen start fcs then .badFrame
    else .ua
  else if frame.type = rfcommDm then
    if rfcommFrameIsCmd mcb.isInitiator frame.cr || len != 0 ||
        !rfcommValidDlci frame.dlci || !rfcCheckFcs rfcommCtrlFrameLen start fcs then .badFrame
    else .dm
  else if frame.type = rfcommDisc then
    if rfcommFrameIsRsp mcb.isInitiator frame.cr || frame.pf == 0 || len != 0 ||
        !rfcommValidDlci frame.dlci || !rfcCheckFcs rfcommCtrlFrameLen start fcs then .badFrame
    else .disc
  else if frame.type = rfcommUih then
    if !rfcommValidDlci frame.dlci then .badFrame
    else if !rfcCheckFcs 2 start fcs then .badFrame
    -- a response is let through, "to allow bad implementations to work"
    else .uih
  else .badFrame

/-- The end of `rfc_parse_data`, once the header of `hdrLen` bytes is read and the length field
gave `infoLen`: `p_buf` moved past the header and the FCS taken off, the credit byte read for a
UIH frame with P set under credit-based flow control, the information field's length checked,
and the frame type's checks. Returns the event, `p_frame`, how far `p_buf->offset` moved and the
new `p_buf->len`. -/
def rfcParseInfo (mcb : RfcMcb) (frame : MxFrame) (p : List UInt8) (len hdrLen infoLen : Nat) :
    RfcEvent × MxFrame × Nat × Nat :=
  let credited := mcb.flow = portFcCredit ∧ frame.type = rfcommUih ∧
    frame.dlci ≠ rfcommMxDlci ∧ frame.pf = 1
  if credited ∧ len - (hdrLen + 1) < 1 then (.badFrame, frame, hdrLen, len - (hdrLen + 1))
  else
    let frame := { frame with credit := if credited then p.getD hdrLen 0 else 0 }
    let skip := hdrLen + if credited then 1 else 0
    let rest := len - (hdrLen + 1) - if credited then 1 else 0
    if rest ≠ infoLen then (.badFrame, frame, skip, rest)
    else
      -- the FCS follows the information field
      (rfcFrameEvent mcb frame infoLen p (p.getD (skip + infoLen) 0), frame, skip, rest)

/-- `rfc_parse_data` on the frame `p` points at, of `len` bytes (`p_buf->len`): the event,
`p_frame` with the fields read from the frame, how far `p_buf->offset` moves and the new
`p_buf->len`. The frame is the list the pointer `p_data` starts at: its byte `i` is `p_data[i]`,
whatever `len`. -/
def rfcParseFrame (mcb : RfcMcb) (frame : MxFrame) (p : List UInt8) (len : Nat) :
    RfcEvent × MxFrame × Nat × Nat :=
  let byte (i : Nat) : UInt8 := p.getD i 0
  if len < rfcommCtrlFrameLen then (.badFrame, frame, 0, len)
  else
    -- `RFCOMM_PARSE_CTRL_FIELD` reads a second address byte when EA is clear
    let ead := byte 0 &&& rfcommEa
    let dlci := byte 0 >>> rfcommShiftDlci
    let frame := { frame with
      cr := (byte 0 &&& rfcommCrMask) >>> rfcommShiftCr
      dlci := if ead = 0 then dlci + (byte 1 <<< rfcommShiftDlci2) else dlci }
    if ead = 0 then (.badFrame, frame, 0, len)
    else
      let frame := { frame with
        type := byte 1 &&& ~~~rfcommPfMask
        pf := (byte 1 &&& rfcommPfMask) >>> rfcommPfOffset }
      let eal := byte 2 &&& rfcommEa
      if eal = 0 ∧ ¬len > rfcommCtrlFrameLen then (.badFrame, frame, 0, len)
      else
        let infoLen := (byte 2).toNat >>> rfcommShiftLength1 +
          if eal = 0 then (byte 3).toNat <<< rfcommShiftLength2 else 0
        let hdrLen := 3 + if eal = 0 then 1 else 0
        if len < hdrLen + 1 then (.badFrame, frame, 0, len)
        else rfcParseInfo mcb frame p len hdrLen infoLen

/-- `rfc_parse_data`: the event a received frame gives, `p_frame` with the fields read from it,
and `p_buf` moved past the header to the information field. -/
def rfcParseData (mcb : RfcMcb) (frame : MxFrame) (pBuf : BtHdr) : RfcEvent × MxFrame × BtHdr :=
  let (event, frame, skip, len) := rfcParseFrame mcb frame (pBuf.data.drop pBuf.offset) pBuf.len
  (event, frame, ⟨pBuf.offset + skip, len, pBuf.data⟩)

end Rfcomm

import Fluoride.Lib.Loop
import Fluoride.Lib.Replay
import Fluoride.Stack.BtHdr

/-!
# AVCTP — fragmenting a message and reassembling it (`avct_lcb_act.cc`)

`avct_lcb_send_msg` sends a message of `len` bytes to a peer of MTU `peer_mtu`: in one SINGLE
packet (a header byte and the PID) when it fits in `peer_mtu - 3` bytes, otherwise in a START
packet (header byte, NOSP and PID), CONT packets and one END packet (a header byte each),
every packet but the END filling the MTU. A fragment is a new buffer with its data at
`L2CAP_MIN_OFFSET`; the last packet is the message's own buffer, with the header written in
front of what is left of it. NOSP is computed once, before the loop, as a `uint8_t`.

`avct_lcb_msg_asmbl` takes the packets one call each and keeps the message being reassembled
in `p_rx_msg`, a buffer of `BT_DEFAULT_BUFFER_SIZE` bytes: a START packet is copied in whole,
its header byte copied over NOSP and the offset moved past its data; CONT and END packets are
copied there after their header byte; the END packet moves the offset back by the length
gathered, to the copied header byte, and the message is returned.

A buffer is a `Stack.BtHdr`: its `offset`, its `len` and its data area. The fields are
`uint16_t` in the source: the model is for `peer_mtu ≥ 5` and a message of fewer than `2^16`
bytes at an offset of at least 3, where the sender's computations do not wrap, and the size
checks of the reassembly keep its sums below `2^16`. The link is uncongested: the packets are
those handed to `L2CA_DataWrite`, in order.
-/

namespace Avct

open Stack

def avctPktTypeSingle : UInt8 := 0
def avctPktTypeStart : UInt8 := 1
def avctPktTypeCont : UInt8 := 2
def avctPktTypeEnd : UInt8 := 3

def avctHdrLenSingle : Nat := 3
def avctHdrLenStart : Nat := 4
def avctHdrLenCont : Nat := 1
def avctHdrLenEnd : Nat := 1

/-- `avct_lcb_pkt_type_len`: the header length of each packet type. -/
def avctLcbPktTypeLen : List Nat :=
  [avctHdrLenSingle, avctHdrLenStart, avctHdrLenCont, avctHdrLenEnd]

/-- `AVCT_BUILD_HDR`: label, packet type and C/R bits in one byte. -/
def avctBuildHdr (label type crIpid : UInt8) : UInt8 := (label <<< 4) ||| (type <<< 2) ||| crIpid

/-- `AVCT_PKT_TYPE`: the packet type bits of a header byte. -/
def avctPktType (b : UInt8) : UInt8 := (b >>> 2) &&& 3

/-- `UINT16_TO_BE_STREAM`. -/
def uint16ToBeStream (v : UInt16) : List UInt8 := [(v >>> 8).toUInt8, v.toUInt8]

/-! ## `avct_lcb_send_msg` -/

/-- The locals of the loop of `avct_lcb_send_msg`: `curr_msg_len`, `pkt_type`, the message
buffer `p_data->ul_msg.p_buf`, and the packets handed to L2CAP. -/
structure SendState where
  currMsgLen : Nat
  pktType : UInt8
  msg : BtHdr
  sent : List BtHdr

/-- The loop's condition: `curr_msg_len != 0`. -/
def SendState.sending (st : SendState) : Prop := st.currMsgLen ≠ 0

instance : DecidablePred SendState.sending := fun st =>
  inferInstanceAs (Decidable (st.currMsgLen ≠ 0))

section Send

variable (peerMtu : Nat) (label cr : UInt8) (pid : UInt16)

/-- The header `AVCT_BUILD_HDR` and the two streams after it write: the header byte, NOSP in a
START packet, and the PID in a START or SINGLE packet. -/
def avctHdr (nosp pktType : UInt8) : List UInt8 :=
  [avctBuildHdr label pktType cr] ++ (if pktType = avctPktTypeStart then [nosp] else []) ++
    (if pktType = avctPktTypeStart ∨ pktType = avctPktTypeSingle then uint16ToBeStream pid
    else [])

/-- One iteration of the loop of `avct_lcb_send_msg`: the next `peer_mtu - hdr_len` bytes in
a new buffer when what is left of the message does not fit after the header, else the
message's buffer itself; then the header in front of the data, and the type of the next
packet from what is left. -/
def avctLcbSendStep (nosp : UInt8) (st : SendState) : SendState :=
  let hdrLen := avctLcbPktTypeLen.getD st.pktType.toNat 0
  let fragment := decide (st.msg.len > peerMtu - hdrLen)
  let (pBuf, msg) : BtHdr × BtHdr :=
    if fragment then
      let len := peerMtu - hdrLen
      (⟨l2capMinOffset + hdrLen, len,
          List.replicate (l2capMinOffset + hdrLen) 0 ++ (st.msg.data.drop st.msg.offset).take len⟩,
        { st.msg with offset := st.msg.offset + len, len := st.msg.len - len })
    else (st.msg, st.msg)
  let currMsgLen := st.currMsgLen - pBuf.len
  let pBuf : BtHdr := ⟨pBuf.offset - hdrLen, pBuf.len + hdrLen,
    pBuf.data.take (pBuf.offset - hdrLen) ++ avctHdr label cr pid nosp st.pktType ++
      pBuf.data.drop pBuf.offset⟩
  { currMsgLen
    pktType := if currMsgLen > peerMtu - avctHdrLenEnd then avctPktTypeCont else avctPktTypeEnd
    -- the message's buffer is the packet when it was not fragmented
    msg := if fragment then msg else pBuf
    sent := st.sent ++ [pBuf] }

/-- NOSP: the packets after a START packet of `peer_mtu - 4` bytes, one per `peer_mtu - 1`
bytes, rounded up, and the START packet itself. `temp` is `uint16_t` and NOSP `uint8_t`. -/
def avctNosp (len : Nat) : UInt8 :=
  let temp := len + avctHdrLenStart - peerMtu
  let nosp : UInt8 := (temp / (peerMtu - 1) + 1).toUInt8
  if temp % (peerMtu - 1) ≠ 0 then nosp + 1 else nosp

/-- `avct_lcb_send_msg` on the message `msg`, uncongested, with at most `fuel` iterations: the
packets it hands to L2CAP. -/
def avctLcbSendMsg (msg : BtHdr) (fuel : Nat) : Option (List BtHdr) :=
  let single := decide (msg.len ≤ peerMtu - avctHdrLenSingle)
  let pktType := if single then avctPktTypeSingle else avctPktTypeStart
  let nosp : UInt8 := if single then 0 else avctNosp peerMtu msg.len
  Loop.whileLoop SendState.sending (avctLcbSendStep peerMtu label cr pid nosp) (·.sent) fuel
    ⟨msg.len, pktType, msg, []⟩

end Send

/-! ## `avct_lcb_msg_asmbl` -/

/-- `BT_DEFAULT_BUFFER_SIZE - sizeof(BT_HDR)`: the data area of `p_rx_msg`. -/
def rxBufLen : Nat := btDefaultBufferSize - btHdrSize

/-- `avct_lcb_msg_asmbl` on the packet `p`, with `p_rx_msg` the message being reassembled: the
message it returns, if any, and `p_rx_msg` after it. A packet of a bad length is dropped and
leaves the reassembly as it was; a SINGLE packet is returned as it is; a CONT or END packet
with no reassembly in progress is dropped. -/
def avctLcbMsgAsmbl (rxMsg : Option BtHdr) (p : BtHdr) : Option BtHdr × Option BtHdr :=
  if p.len < 1 then (none, rxMsg)
  else
    let pktType := avctPktType (p.data.getD p.offset 0)
    if p.len < avctLcbPktTypeLen.getD pktType.toNat 0 ∨
        btHdrSize + p.offset + p.len > btDefaultBufferSize then (none, rxMsg)
    else if pktType = avctPktTypeSingle then (some p, none)
    else if pktType = avctPktTypeStart then
      -- the size check again, before the copy into a buffer of `BT_DEFAULT_BUFFER_SIZE`
      if btHdrSize + p.offset + p.len > btDefaultBufferSize then (none, none)
      else
        let data := p.data.take (p.offset + p.len) ++
          List.replicate (rxBufLen - (p.offset + p.len)) 0
        -- the header byte copied over NOSP
        let data := data.set (p.offset + 1) (data.getD p.offset 0)
        (none, some ⟨p.offset + p.len, p.len - 1, data⟩)
    else
      match rxMsg with
      | none => (none, none)
      | some rx =>
        -- the fragment after its header byte, copied where the message ends so far
        let len := p.len - avctHdrLenCont
        if rx.offset + len > rxBufLen then (none, none)
        else
          let data := rx.data.take rx.offset ++ (p.data.drop (p.offset + avctHdrLenCont)).take len ++
            rx.data.drop (rx.offset + len)
          if pktType = avctPktTypeEnd then (some ⟨rx.offset - rx.len, rx.len + len, data⟩, none)
          else (none, some ⟨rx.offset + len, rx.len + len, data⟩)

end Avct

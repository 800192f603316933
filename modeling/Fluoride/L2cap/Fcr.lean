import Fluoride.L2cap.FcrTypes
import Fluoride.Lib.Machine

/-!
# L2CAP ERTM — `l2c_fcr.cc`

The transmit path (`prepare_I_frame`, `l2c_fcr_get_next_xmit_sdu_seg`,
`retransmit_i_frames`), the receive path (`l2c_fcr_proc_pdu` with `process_reqseq`,
`process_s_frame`, `process_i_frame`, `do_sar_reassembly` and the drain of the SREJ hold
queue) and the two timeouts, each as a function of the channel.

Calls into the rest of the stack keep only their effect on the channel:
`l2c_fcr_send_S_frame` records the S-frame in `out`; the timers are not modelled (a
timeout is an event the environment may deliver at any time); `l2c_link_check_send_pkts`
is not followed, since the link's later call of `l2c_fcr_get_next_xmit_sdu_seg` is an
event of its own (`Event.xmit`). The peer's mode is ERTM, the only non-basic mode of a
BR/EDR channel in this code.
-/

namespace L2cap

/-- `UINT16_TO_STREAM`: a 16-bit value as two bytes, least significant first. -/
def le16 (v : Nat) : List UInt8 := [UInt8.ofNat (v % 256), UInt8.ofNat (v / 256 % 256)]

/-- `STREAM_TO_UINT16` on the first two bytes of a buffer (callers check there are two). -/
def readLe16 : List UInt8 → Nat
  | b₀ :: b₁ :: _ => b₀.toNat + 256 * b₁.toNat
  | _ => 0

/-- The P bit of a control word (an I-frame has none). -/
def Pdu.pBit : Pdu → Bool
  | .iFrame _ => false
  | .sFrame _ _ pb _ => pb

/-- `l2c_fcr_is_flow_controlled`: the peer has flowed us off or the transmit window is full. -/
def l2cFcrIsFlowControlled (c : Ccb) : Bool :=
  c.fcrb.remoteBusy || decide (c.peerTxWinSz ≤ c.fcrb.waitingForAckQ.length)

/-- `l2cu_disconnect_chnl`: a dynamic channel sends a disconnect request and is released
(`l2cu_release_ccb` runs `l2c_fcr_cleanup`, which zeroes the block); on a fixed channel
the call does nothing. -/
def l2cuDisconnectChnl (c : Ccb) : Ccb :=
  if l2capBaseApplCid ≤ c.localCid then { c with fcrb := {}, chnlState := .released } else c

/-- `l2c_fcr_send_S_frame`: only on an open channel; a poll starts waiting for the final
response, and the frame acknowledges up to `next_seq_expected`. -/
def l2cFcrSendSFrame (c : Ccb) (sup : SupFunction) (pf : PfBit) : Ccb :=
  if c.chnlState = .open then
    let c := if pf = .p then { c with fcrb.waitAck := true } else c
    { c with fcrb.lastAckSent := c.fcrb.nextSeqExpected,
             out := c.out ++ [.sFrameOut sup c.fcrb.nextSeqExpected pf] }
  else c

/-- `prepare_I_frame`: stamps an I-frame about to go to the link. A first transmission
takes `next_tx_seq`, which then advances; a retransmission keeps its TxSeq. Either
carries the F bit if one is owed and acknowledges up to `next_seq_expected`. -/
def prepareIFrame (c : Ccb) (f : IFrame) (isRetransmission : Bool) : Ccb × IFrame :=
  let setFBit := c.fcrb.sendFRsp
  let c := { c with fcrb.sendFRsp := false }
  let (c, txSeq) :=
    if isRetransmission then (c, f.txSeq)
    else ({ c with fcrb.nextTxSeq := c.fcrb.nextTxSeq + 1 }, c.fcrb.nextTxSeq)
  ({ c with fcrb.lastAckSent := c.fcrb.nextSeqExpected },
   { f with txSeq, fBit := setFBit, reqSeq := c.fcrb.nextSeqExpected })

/-- The tail of `l2c_fcr_get_next_xmit_sdu_seg` for a new frame: stamp it and keep a copy
on `waiting_for_ack_q`. When the copy cannot be cloned the frame itself is queued and
nothing is sent ("pretend we sent it and it got lost"). -/
def xmitNewFrame (c : Ccb) (sar : Sar) (payload : List UInt8) (wackCloned : Bool) :
    Ccb × Option IFrame :=
  let (c, f) := prepareIFrame c { txSeq := 0, reqSeq := 0, fBit := false, sar, payload } false
  let c := { c with fcrb.waitingForAckQ := c.fcrb.waitingForAckQ ++ [f] }
  (c, if wackCloned then some f else none)

/-- `l2c_fcr_get_next_xmit_sdu_seg` as the BR/EDR link calls it (`max_packet_length = 0`):
a frame waiting for retransmission goes first; otherwise the next segment of the first
SDU, of at most `tx_mps` bytes, a first segment prefixed with the SDU length.
`segCloned` and `wackCloned` are the outcomes of the two `l2c_fcr_clone_buf` calls
(`osi_malloc` asserts instead of failing, but the code has the failure branches). -/
def l2cFcrGetNextXmitSduSeg (c : Ccb) (segCloned wackCloned : Bool) : Ccb × Option IFrame :=
  match c.fcrb.retransQ with
  | f :: rest =>
    let (c, f) := prepareIFrame { c with fcrb.retransQ := rest } f true
    (c, some f)
  | [] =>
    match c.xmitHoldQ with
    | [] => (c, none)
    | sdu :: rest =>
      if c.txMps < sdu.data.length then
        if segCloned then
          let seg := sdu.data.take c.txMps
          let c := { c with xmitHoldQ := ⟨sdu.data.drop c.txMps, true⟩ :: rest }
          if sdu.segStarted then xmitNewFrame c .contSdu seg wackCloned
          else xmitNewFrame c .startSdu (le16 sdu.data.length ++ seg) wackCloned
        else (c, none)
      else
        let c := { c with xmitHoldQ := rest }
        xmitNewFrame c (if sdu.segStarted then .endSdu else .unsegSdu) sdu.data wackCloned

/-- The test at the top of `process_reqseq`: an S-frame whose supervisory function is
SREJ and whose P bit is clear. -/
def Pdu.isSrejWithoutPoll : Pdu → Bool
  | .sFrame .srej _ false _ => true
  | _ => false

/-- `process_reqseq`: an SREJ without the P bit acknowledges nothing; any other frame
acknowledges the frames before its ReqSeq, and a ReqSeq beyond what was sent closes the
channel. The flag is the function's result: whether the frame is processed further. -/
def processReqseq (c : Ccb) (ctrl : Pdu) : Ccb × Bool :=
  if ctrl.isSrejWithoutPoll then (c, true)
  else
    let numBufsAcked := (ctrl.reqSeq - c.fcrb.lastRxAck).val
    if c.fcrb.waitingForAckQ.length < numBufsAcked then (l2cuDisconnectChnl c, false)
    else
      let c := { c with fcrb.lastRxAck := ctrl.reqSeq }
      if numBufsAcked ≠ 0 then
        ({ c with fcrb.numTries := 0,
                  fcrb.waitingForAckQ := c.fcrb.waitingForAckQ.drop numBufsAcked }, true)
      else (c, true)

/-- `retransmit_i_frames`: after too many tries the channel is closed; otherwise the
frame with the given TxSeq, or (`none`, `L2C_FCR_RETX_ALL_PKTS`) every unacknowledged
frame in place of the old retransmission queue, is queued for retransmission. -/
def retransmitIFrames (c : Ccb) (txSeq : Option (Fin 64)) : Ccb × Bool :=
  if c.fcrb.waitingForAckQ ≠ [] ∧ c.peerMaxTransmit ≠ 0 ∧
      c.peerMaxTransmit ≤ c.fcrb.numTries then
    (l2cuDisconnectChnl c, false)
  else
    let c := match txSeq with
      | some s =>
        match c.fcrb.waitingForAckQ.find? (·.txSeq == s) with
        | some f => { c with fcrb.retransQ := c.fcrb.retransQ ++ [f] }
        | none => c
      | none => { c with fcrb.retransQ := c.fcrb.waitingForAckQ }
    if c.fcrb.waitingForAckQ ≠ [] then
      ({ c with fcrb.numTries := (c.fcrb.numTries + 1) % 256 }, true)
    else (c, true)

/-- The `switch` of `process_s_frame` on the supervisory function; the flag is its
`all_ok`. -/
def processSFrameSwitch (c : Ccb) (sup : SupFunction) (reqSeq : Fin 64) (fBit : Bool) :
    Ccb × Bool :=
  match sup with
  | .rr =>
    let remoteWasBusy := c.fcrb.remoteBusy
    let c := { c with fcrb.remoteBusy := false }
    if fBit || remoteWasBusy then retransmitIFrames c none else (c, true)
  | .rej => retransmitIFrames { c with fcrb.remoteBusy := false } none
  | .rnr => ({ c with fcrb.remoteBusy := true }, true)
  | .srej => retransmitIFrames { c with fcrb.remoteBusy := false } (some reqSeq)

/-- `process_s_frame`: a poll re-arms REJ and owes an F-bit response, which is sent once
the supervisory function is handled (unless that closed the channel). -/
def processSFrame (c : Ccb) (sup : SupFunction) (reqSeq : Fin 64) (pBit fBit : Bool) : Ccb :=
  let c := if pBit then { c with fcrb.rejSent := false, fcrb.sendFRsp := true } else c
  match processSFrameSwitch c sup reqSeq fBit with
  | (c, allOk) =>
    if allOk && c.fcrb.sendFRsp then
      let c := l2cFcrSendSFrame c (if c.fcrb.srejSent then .srej else .rr) .f
      { c with fcrb.sendFRsp := false }
    else c

/-- `do_sar_reassembly`: appends an in-sequence I-frame to the SDU being reassembled and
hands complete SDUs up. The flag is false on a SAR error (the caller then disconnects). -/
def doSarReassembly (c : Ccb) (f : IFrame) : Ccb × Bool :=
  let stateOk := match f.sar with
    | .unsegSdu => c.fcrb.pRxSdu.isNone
    | .startSdu => c.fcrb.pRxSdu.isNone && decide (2 ≤ f.payload.length)
    | .endSdu | .contSdu => c.fcrb.pRxSdu.isSome
  if !stateOk then (c, false)
  else if f.sar = .unsegSdu then ({ c with out := c.out ++ [.sduUp f.payload] }, true)
  else
    -- a start segment carries the SDU length before its data
    let (c, data, lenOk) : Ccb × List UInt8 × Bool :=
      if f.sar = .startSdu then
        let c := { c with fcrb.rxSduLen := readLe16 f.payload }
        if c.maxRxMtu < c.fcrb.rxSduLen then (c, f.payload.drop 2, false)
        else ({ c with fcrb.pRxSdu := some [] }, f.payload.drop 2, true)
      else (c, f.payload, true)
    if !lenOk then (c, false)
    else
      let sofar := c.fcrb.pRxSdu.getD []
      if c.fcrb.rxSduLen < sofar.length + data.length then (c, false)
      else if f.sar = .endSdu ∧ sofar.length + data.length ≠ c.fcrb.rxSduLen then (c, false)
      else if f.sar = .endSdu then
        ({ c with fcrb.pRxSdu := none, out := c.out ++ [.sduUp (sofar ++ data)] }, true)
      else ({ c with fcrb.pRxSdu := some (sofar ++ data) }, true)

/-- The in-sequence branch of `process_i_frame`: clear the reject exceptions, advance
`next_seq_expected`, reassemble, and acknowledge unless the acknowledgement can wait. -/
def processIFrameInSeq (c : Ccb) (f : IFrame) (delayAck : Bool) : Ccb :=
  let c := { c with fcrb.rejSent := false, fcrb.srejSent := false,
                    fcrb.nextSeqExpected := f.txSeq + 1, out := c.out ++ [.reassembly f.txSeq] }
  let (c, ok) := doSarReassembly c f
  if !ok then l2cuDisconnectChnl c
  else
    let numToAck := (c.fcrb.nextSeqExpected - c.fcrb.lastAckSent).val
    let delayAck := delayAck || decide (numToAck < c.fcrb.maxHeldAcks)
    if numToAck ≠ 0 ∧ c.chnlState = .open ∧ !delayAck ∧
        (c.xmitHoldQ = [] ∨ l2cFcrIsFlowControlled c = true) ∧ c.fcrb.srejRcvHoldQ = [] then
      l2cFcrSendSFrame c .rr .none
    else c

/-- The out-of-sequence branch of `process_i_frame`: drop a duplicate; while an SREJ is
outstanding hold the frame if it extends the hold queue; while a REJ is outstanding drop
it; otherwise send a REJ for a gap of more than one frame, or hold the frame and send an
SREJ for a single missing frame. -/
def processIFrameOutOfSeq (c : Ccb) (f : IFrame) : Ccb :=
  let numLost := (f.txSeq - c.fcrb.nextSeqExpected).val
  if c.ourTxWinSz ≤ numLost then c
  else if c.fcrb.srejSent then
    match c.fcrb.srejRcvHoldQ.getLast? with
    | none => { c with out := c.out ++ [.nullDeref] }
    | some last =>
      if f.txSeq = last.txSeq + 1 ∧ c.fcrb.srejRcvHoldQ.length < c.ourTxWinSz then
        { c with fcrb.srejRcvHoldQ := c.fcrb.srejRcvHoldQ ++ [f] }
      else { c with fcrb.rejAfterSrej := true }
  else if c.fcrb.rejSent then c
  else if 1 < numLost then l2cFcrSendSFrame { c with fcrb.rejSent := true } .rej .none
  else
    l2cFcrSendSFrame { c with fcrb.srejRcvHoldQ := c.fcrb.srejRcvHoldQ ++ [f],
                              fcrb.srejSent := true } .srej .none

/-- `process_i_frame`: `fBit` is the F bit of the control word as the caller left it,
`f` the received buffer. A checkpoint response first retransmits. -/
def processIFrame (c : Ccb) (f : IFrame) (fBit delayAck : Bool) : Ccb :=
  let (c, ok) := if fBit then retransmitIFrames c none else (c, true)
  if !ok then c
  else if f.txSeq ≠ c.fcrb.nextSeqExpected then processIFrameOutOfSeq c f
  else processIFrameInSeq c f delayAck

/-- The body of the loop of `l2c_fcr_proc_pdu` over the frames taken off the SREJ hold
queue: the frame is processed again with its own control word while the channel is open,
and frames lost meanwhile turn into a REJ. -/
def drainHeldFrame (c : Ccb) (f : IFrame) : Ccb :=
  let c := if c.chnlState = .open then processIFrame c f f.fBit true else c
  if c.fcrb.rejAfterSrej then
    l2cFcrSendSFrame { c with fcrb.rejAfterSrej := false, fcrb.rejSent := true } .rej .none
  else c

/-- The loop itself, over the frames in queue order. -/
def drainHoldQ (c : Ccb) : List IFrame → Ccb
  | [] => c
  | f :: rest => drainHoldQ (drainHeldFrame c f) rest

/-- The poll/final filter at the start of `l2c_fcr_proc_pdu`. While a poll is
outstanding only a frame with the F bit goes on (a polled S-frame is answered first), and
its P bit is cleared; otherwise the F bit is ignored. `none`: the frame is freed here. -/
def procPduFinal (c : Ccb) (pdu : Pdu) : Ccb × Option Pdu :=
  if c.fcrb.waitAck then
    if !pdu.fBit then
      if pdu.pBit then (l2cFcrSendSFrame c (if c.fcrb.srejSent then .srej else .rr) .f, none)
      else (c, none)
    else
      let c := { c with fcrb.waitAck := false }
      let c := if c.fcrb.waitingForAckQ = [] then { c with fcrb.numTries := 0 } else c
      (c, some pdu.clearP)
  else (c, some pdu.clearF)

/-- The end of `l2c_fcr_proc_pdu` on an open channel: once the SREJ has cleared, the
frames held meanwhile are taken off the hold queue and processed, and one RR acknowledges
them all. -/
def processSrejHoldQ (c : Ccb) : Ccb :=
  if !c.fcrb.srejSent ∧ c.fcrb.srejRcvHoldQ ≠ [] then
    let c := drainHoldQ { c with fcrb.srejRcvHoldQ := [] } c.fcrb.srejRcvHoldQ
    if !c.fcrb.rejSent ∧ !c.fcrb.srejSent ∧ c.fcrb.nextSeqExpected ≠ c.fcrb.lastAckSent then
      l2cFcrSendSFrame c .rr .none
    else c
  else c

/-- `l2c_fcr_proc_pdu`. `pdu` is the received buffer, whose own control word stays as it
arrived; `ctrl` is the copy the poll/final filter adjusted. -/
def l2cFcrProcPdu (c : Ccb) (pdu : Pdu) : Ccb :=
  match procPduFinal c pdu with
  | (c, none) => c
  | (c, some ctrl) =>
    let (c, ok) := processReqseq c ctrl
    if !ok then c
    else
      let c := match pdu with
        | .iFrame f => processIFrame c f ctrl.fBit false
        | .sFrame sup reqSeq _ _ => processSFrame c sup reqSeq ctrl.pBit ctrl.fBit
      if c.chnlState ≠ .open then c
      else processSrejHoldQ c

/-- `l2c_fcr_proc_tout`: the retransmission/monitor timer expired. -/
def l2cFcrProcTout (c : Ccb) : Ccb :=
  let pollPeer (c : Ccb) : Ccb :=
    if !c.fcrb.srejSent && !c.fcrb.rejSent then l2cFcrSendSFrame c .rr .p else c
  if c.peerMaxTransmit ≠ 0 then
    let c := { c with fcrb.numTries := (c.fcrb.numTries + 1) % 256 }
    if c.peerMaxTransmit < c.fcrb.numTries then l2cuDisconnectChnl c else pollPeer c
  else pollPeer c

/-- `l2c_fcr_proc_ack_tout`: acknowledge what was held back. -/
def l2cFcrProcAckTout (c : Ccb) : Ccb :=
  if c.chnlState = .open ∧ c.fcrb.waitAck = false ∧
      c.fcrb.lastAckSent ≠ c.fcrb.nextSeqExpected then
    l2cFcrSendSFrame c .rr .none
  else c

/-! ## The channel as a machine -/

/-- What can happen to an ERTM channel: the link asks for the next frame, a PDU arrives,
a timer expires, the upper layer writes an SDU, or configuration completes. -/
inductive Event where
  | xmit (segCloned wackCloned : Bool)
  | recv (pdu : Pdu)
  | monRetransTimeout
  | ackTimeout
  | dataWrite (sdu : List UInt8)
  | configDone
  deriving DecidableEq, Repr

/-- When each event can occur. The link asks for a new frame only while the channel is
not flow controlled (`l2cu_get_next_buffer_to_send` checks that unless a retransmission
is queued); nothing happens on a released channel. -/
def ertmGuard (c : Ccb) : Event → Prop
  | .xmit _ _ => c.chnlState ≠ .released ∧
      (c.fcrb.retransQ ≠ [] ∨ l2cFcrIsFlowControlled c = false)
  | .configDone => c.chnlState = .config
  | _ => c.chnlState ≠ .released

instance (c : Ccb) : (e : Event) → Decidable (ertmGuard c e)
  | .xmit _ _ => inferInstanceAs (Decidable (c.chnlState ≠ .released ∧
      (c.fcrb.retransQ ≠ [] ∨ l2cFcrIsFlowControlled c = false)))
  | .recv _ => inferInstanceAs (Decidable (c.chnlState ≠ .released))
  | .monRetransTimeout => inferInstanceAs (Decidable (c.chnlState ≠ .released))
  | .ackTimeout => inferInstanceAs (Decidable (c.chnlState ≠ .released))
  | .dataWrite _ => inferInstanceAs (Decidable (c.chnlState ≠ .released))
  | .configDone => inferInstanceAs (Decidable (c.chnlState = .config))

/-- The effect of each event. -/
def ertmExec (c : Ccb) : Event → Ccb
  | .xmit segCloned wackCloned =>
    match l2cFcrGetNextXmitSduSeg c segCloned wackCloned with
    | (c, some f) => { c with out := c.out ++ [.iFrameOut f] }
    | (c, none) => c
  | .recv pdu => l2cFcrProcPdu c pdu
  | .monRetransTimeout => l2cFcrProcTout c
  | .ackTimeout => l2cFcrProcAckTout c
  | .dataWrite sdu => { c with xmitHoldQ := c.xmitHoldQ ++ [⟨sdu, false⟩] }
  | .configDone => { c with chnlState := .open }

/-- An ERTM channel. -/
def ertm : Lts.Machine Ccb Event := ⟨ertmGuard, ertmExec⟩

instance (c : Ccb) (e : Event) : Decidable (ertm.guard c e) :=
  inferInstanceAs (Decidable (ertmGuard c e))

/-- A channel as configuration leaves it: a fresh block, nothing queued, in
`CST_CONFIG` with ERTM agreed. The configured values are arbitrary. -/
def Ccb.initial (localCid ourTxWinSz peerTxWinSz peerMaxTransmit maxRxMtu txMps
    maxHeldAcks : Nat) : Ccb where
  fcrb := { maxHeldAcks }
  chnlState := .config
  localCid
  ourTxWinSz
  peerTxWinSz
  peerMaxTransmit
  maxRxMtu
  txMps
  xmitHoldQ := []
  out := []

end L2cap

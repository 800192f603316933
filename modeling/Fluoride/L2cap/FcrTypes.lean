import Mathlib

/-!
# L2CAP ERTM — the channel's data model

The state `l2c_fcr.cc` keeps for a channel in Enhanced Retransmission Mode: the
flow-control/retransmission block `tL2C_FCRB` and the few fields of `tL2C_CCB` the
ERTM code reads.

Sequence numbers are the 6-bit values the code masks with `L2CAP_FCR_SEQ_MODULO`
(`0x3F`); every one of them is stored already masked, so they are `Fin 64`, and the
code's `(a - b) & L2CAP_FCR_SEQ_MODULO` is `Fin` subtraction.

A received PDU is modelled after `l2c_fcr_proc_pdu` has checked its length and FCS
and read its control word: the control word is decoded along the masks of
`l2cdefs.h` into the fields the code extracts. A PDU failing those first checks is
freed before any state is read or written, so it is not an event of the model.

Buffers are lists of bytes; `fixed_queue_t` is a list, enqueued at its end.
-/

namespace L2cap

/-- The sequence space of ERTM: sequence numbers are `Fin 64`. -/
instance instNeZeroSixtyFour : NeZero (64 : Nat) := ⟨by decide⟩

/-- The supervisory function of an S-frame (`L2CAP_FCR_SUP_RR` … `L2CAP_FCR_SUP_SREJ`). -/
inductive SupFunction where
  | rr
  | rej
  | rnr
  | srej
  deriving DecidableEq, Repr

/-- The SAR bits of an I-frame (`L2CAP_FCR_UNSEG_SDU` … `L2CAP_FCR_CONT_SDU`). -/
inductive Sar where
  | unsegSdu
  | startSdu
  | endSdu
  | contSdu
  deriving DecidableEq, Repr

/-- The P/F argument of `l2c_fcr_send_S_frame`: `0`, `L2CAP_FCR_P_BIT` or `L2CAP_FCR_F_BIT`. -/
inductive PfBit where
  | none
  | p
  | f
  deriving DecidableEq, Repr

/-- An I-frame: its control word fields and the bytes after the control word. The same
record is a received I-frame buffer and a frame kept on the transmit side. -/
structure IFrame where
  txSeq : Fin 64
  reqSeq : Fin 64
  fBit : Bool
  sar : Sar
  payload : List UInt8
  deriving DecidableEq, Repr

/-- A received PDU, its control word decoded: an I-frame, or an S-frame with its
supervisory function, ReqSeq and the P and F bits. -/
inductive Pdu where
  | iFrame (f : IFrame)
  | sFrame (sup : SupFunction) (reqSeq : Fin 64) (pBit fBit : Bool)
  deriving DecidableEq, Repr

/-- The ReqSeq field of a control word. -/
def Pdu.reqSeq : Pdu → Fin 64
  | .iFrame f => f.reqSeq
  | .sFrame _ r _ _ => r

/-- The F bit of a control word. -/
def Pdu.fBit : Pdu → Bool
  | .iFrame f => f.fBit
  | .sFrame _ _ _ fb => fb

/-- `ctrl_word &= ~L2CAP_FCR_F_BIT`. -/
def Pdu.clearF : Pdu → Pdu
  | .iFrame f => .iFrame { f with fBit := false }
  | .sFrame s r pb _ => .sFrame s r pb false

/-- `ctrl_word &= ~L2CAP_FCR_P_BIT` on an S-frame. -/
def Pdu.clearP : Pdu → Pdu
  | .iFrame f => .iFrame f
  | .sFrame s r _ fb => .sFrame s r false fb

@[simp] theorem Pdu.reqSeq_clearF (p : Pdu) : p.clearF.reqSeq = p.reqSeq := by
  cases p <;> rfl

@[simp] theorem Pdu.reqSeq_clearP (p : Pdu) : p.clearP.reqSeq = p.reqSeq := by
  cases p <;> rfl

/-- An SDU waiting in `xmit_hold_q`: the bytes not yet sent, and whether segmentation of
it has started (the code marks that by setting the buffer's `event` to the CID). -/
structure Sdu where
  data : List UInt8
  segStarted : Bool
  deriving DecidableEq, Repr

/-- `chnl_state` as far as the ERTM code distinguishes it, with `released` for a CCB
that `l2cu_release_ccb` has freed (`in_use` false). ERTM PDUs reach
`l2c_fcr_proc_pdu` in `CST_CONFIG` as well as in `CST_OPEN` (`l2c_rcv_acl_data`). -/
inductive ChnlState where
  | config
  | open
  | released
  deriving DecidableEq, Repr

/-- What the channel hands to its neighbours, in order: I-frames and S-frames for the
link, the TxSeq of each I-frame given to `do_sar_reassembly`, SDUs for the upper layer,
and a marker for the one undefined access the receive path can make (the last element
of an empty `srej_rcv_hold_q`). -/
inductive Output where
  | iFrameOut (f : IFrame)
  | sFrameOut (sup : SupFunction) (reqSeq : Fin 64) (pf : PfBit)
  | reassembly (txSeq : Fin 64)
  | sduUp (sdu : List UInt8)
  | nullDeref
  deriving DecidableEq, Repr

/-- `tL2C_FCRB`. Its default value is the all-zero block `l2c_fcr_cleanup` leaves. -/
structure Fcrb where
  nextTxSeq : Fin 64 := 0
  lastRxAck : Fin 64 := 0
  nextSeqExpected : Fin 64 := 0
  lastAckSent : Fin 64 := 0
  numTries : Nat := 0
  maxHeldAcks : Nat := 0
  remoteBusy : Bool := false
  rejSent : Bool := false
  srejSent : Bool := false
  waitAck : Bool := false
  rejAfterSrej : Bool := false
  sendFRsp : Bool := false
  pRxSdu : Option (List UInt8) := none
  rxSduLen : Nat := 0
  waitingForAckQ : List IFrame := []
  srejRcvHoldQ : List IFrame := []
  retransQ : List IFrame := []
  deriving Repr

/-- The fields of `tL2C_CCB` the ERTM code reads, with the observation log `out`
(not a field of the CCB). `peerTxWinSz` and `peerMaxTransmit` are
`peer_cfg.fcr.tx_win_sz` and `peer_cfg.fcr.max_transmit`; `ourTxWinSz` is
`our_cfg.fcr.tx_win_sz`. -/
structure Ccb where
  fcrb : Fcrb
  chnlState : ChnlState
  localCid : Nat
  ourTxWinSz : Nat
  peerTxWinSz : Nat
  peerMaxTransmit : Nat
  maxRxMtu : Nat
  txMps : Nat
  xmitHoldQ : List Sdu
  out : List Output
  deriving Repr

/-- `L2CAP_BASE_APPL_CID`: CIDs below it are fixed channels. -/
def l2capBaseApplCid : Nat := 0x0040

end L2cap

import Fluoride.L2cap.Fcr

/-!
# L2CAP ERTM — frame lemmas for `l2c_fcr.cc`

What each function of the model can change. The window and hold-queue developments
cite these instead of unfolding the functions again.
-/

namespace L2cap

/-- `do_sar_reassembly` touches only the SDU being reassembled, its announced length and
the output. -/
theorem doSarReassembly_frame (c : Ccb) (f : IFrame) :
    (doSarReassembly c f).1 =
      { c with
        fcrb.pRxSdu := (doSarReassembly c f).1.fcrb.pRxSdu
        fcrb.rxSduLen := (doSarReassembly c f).1.fcrb.rxSduLen
        out := (doSarReassembly c f).1.out } := by
  obtain ⟨txSeq, reqSeq, fBit, sar, payload⟩ := f
  cases sar <;> simp only [doSarReassembly] <;> split_ifs <;> rfl

/-- `do_sar_reassembly` adds nothing to the output but complete SDUs. -/
theorem doSarReassembly_out (c : Ccb) (f : IFrame) :
    ∃ os, (doSarReassembly c f).1.out = c.out ++ os ∧ ∀ o ∈ os, ∃ sdu, o = .sduUp sdu := by
  obtain ⟨txSeq, reqSeq, fBit, sar, payload⟩ := f
  cases sar <;> simp only [doSarReassembly] <;> split_ifs <;>
    first
    | exact ⟨[], (List.append_nil _).symm, by simp⟩
    | exact ⟨[_], rfl, by simp⟩

/-! ## `process_reqseq` -/

section Reqseq

variable {c : Ccb} {ctrl : Pdu}

/-- An SREJ without the P bit acknowledges nothing and goes on. -/
theorem processReqseq_of_isSrejWithoutPoll (hs : ctrl.isSrejWithoutPoll = true) :
    processReqseq c ctrl = (c, true) := by
  simp only [processReqseq, hs, if_true]

/-- A ReqSeq beyond the frames sent closes the channel and stops the frame. -/
theorem processReqseq_of_lt (hs : ctrl.isSrejWithoutPoll = false)
    (hn : c.fcrb.waitingForAckQ.length < (ctrl.reqSeq - c.fcrb.lastRxAck).val) :
    processReqseq c ctrl = (l2cuDisconnectChnl c, false) := by
  simp only [processReqseq, hs, Bool.false_eq_true, if_false]
  rw [if_pos hn]

/-- A ReqSeq within the frames sent is accepted: it frees the first
`(ReqSeq - last_rx_ack) mod 64` frames and becomes `last_rx_ack`; the rest of the window is
untouched. -/
theorem processReqseq_of_le (hs : ctrl.isSrejWithoutPoll = false)
    (hn : (ctrl.reqSeq - c.fcrb.lastRxAck).val ≤ c.fcrb.waitingForAckQ.length) :
    (processReqseq c ctrl).2 = true ∧
    (processReqseq c ctrl).1.peerTxWinSz = c.peerTxWinSz ∧
    (processReqseq c ctrl).1.fcrb.nextTxSeq = c.fcrb.nextTxSeq ∧
    (processReqseq c ctrl).1.fcrb.lastRxAck = ctrl.reqSeq ∧
    (processReqseq c ctrl).1.fcrb.waitingForAckQ =
      c.fcrb.waitingForAckQ.drop (ctrl.reqSeq - c.fcrb.lastRxAck).val := by
  simp only [processReqseq, hs, Bool.false_eq_true, if_false]
  rw [if_neg (Nat.not_lt.mpr hn)]
  split
  · exact ⟨rfl, rfl, rfl, rfl, rfl⟩
  · -- nothing acknowledged: the queue stays as it is
    rename_i h0
    have hzero : (ctrl.reqSeq - c.fcrb.lastRxAck).val = 0 := not_not.mp h0
    exact ⟨rfl, rfl, rfl, rfl, by rw [hzero, List.drop_zero]⟩

end Reqseq

/-! ## The transmit path -/

/-- A new frame takes `next_tx_seq`, which advances, and joins the end of
`waiting_for_ack_q`. -/
theorem xmitNewFrame_window (c : Ccb) (sar : Sar) (payload : List UInt8) (wackCloned : Bool) :
    (xmitNewFrame c sar payload wackCloned).1.peerTxWinSz = c.peerTxWinSz ∧
    (xmitNewFrame c sar payload wackCloned).1.fcrb.lastRxAck = c.fcrb.lastRxAck ∧
    (xmitNewFrame c sar payload wackCloned).1.fcrb.nextTxSeq = c.fcrb.nextTxSeq + 1 ∧
    (xmitNewFrame c sar payload wackCloned).1.fcrb.waitingForAckQ.map (·.txSeq) =
      c.fcrb.waitingForAckQ.map (·.txSeq) ++ [c.fcrb.nextTxSeq] ∧
    (xmitNewFrame c sar payload wackCloned).1.fcrb.waitingForAckQ.length =
      c.fcrb.waitingForAckQ.length + 1 := by
  refine ⟨rfl, rfl, rfl, ?_, ?_⟩ <;> simp [xmitNewFrame, prepareIFrame]

end L2cap

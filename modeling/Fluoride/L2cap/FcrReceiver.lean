import Fluoride.L2cap.FcrLemmas

/-!
# L2CAP ERTM — the receiver's SREJ hold queue

`srej_sent` says an SREJ is outstanding for the frame `next_seq_expected`; the frames that
arrived after the gap wait on `srej_rcv_hold_q`. `process_i_frame` reads the last held
frame (`fixed_queue_try_peek_last`) while an SREJ is outstanding, and the queue is never
empty then: `srej_sent` is only ever set together with enqueueing a frame, and the queue
is only swapped out once `srej_sent` is clear. `ReceiverInv` states that, together with the
fact that the undefined access (`Output.nullDeref`) never happened, and holds in every state
an ERTM channel reaches.

What does not hold is that the held frames start at `next_seq_expected + 1`: ERTM PDUs are
processed in `CST_CONFIG` too, where `l2c_fcr_proc_pdu` returns before draining the hold
queue, so a frame can stay held after the gap before it has been filled
(`ertm_config_holdQ_gap`).
-/

namespace L2cap

/-- The receiver's invariant. -/
structure ReceiverInv (c : Ccb) : Prop where
  /-- While an SREJ is outstanding, the hold queue is not empty. -/
  holdQ : c.fcrb.srejSent = true → c.fcrb.srejRcvHoldQ ≠ []
  /-- The last element of an empty hold queue was never read. -/
  noDeref : Output.nullDeref ∉ c.out

section Transfer

variable {c c' : Ccb}

/-- A step that adds outputs other than the undefined access, and leaves `srej_sent` and
the hold queue alone, keeps the invariant. -/
theorem ReceiverInv.of_append (h : ReceiverInv c) {os : List Output}
    (hs : c'.fcrb.srejSent = c.fcrb.srejSent) (hq : c'.fcrb.srejRcvHoldQ = c.fcrb.srejRcvHoldQ)
    (ho : c'.out = c.out ++ os) (hos : Output.nullDeref ∉ os) : ReceiverInv c' := by
  refine ⟨?_, ?_⟩
  · rw [hs, hq]
    exact h.holdQ
  · rw [ho, List.mem_append, not_or]
    exact ⟨h.noDeref, hos⟩

theorem ReceiverInv.of_eq (h : ReceiverInv c) (hs : c'.fcrb.srejSent = c.fcrb.srejSent)
    (hq : c'.fcrb.srejRcvHoldQ = c.fcrb.srejRcvHoldQ) (ho : c'.out = c.out) :
    ReceiverInv c' :=
  h.of_append hs hq (ho.trans (List.append_nil _).symm) List.not_mem_nil

/-- With no SREJ outstanding only the output matters. -/
theorem ReceiverInv.of_srejSent_false (h : ReceiverInv c) {os : List Output}
    (hs : c'.fcrb.srejSent = false) (ho : c'.out = c.out ++ os)
    (hos : Output.nullDeref ∉ os) : ReceiverInv c' := by
  refine ⟨fun hs' => absurd (hs.symm.trans hs') Bool.false_ne_true, ?_⟩
  rw [ho, List.mem_append, not_or]
  exact ⟨h.noDeref, hos⟩

end Transfer

/-! ## The functions that keep it -/

section Steps

variable {c : Ccb}

theorem receiverInv_l2cuDisconnectChnl (h : ReceiverInv c) :
    ReceiverInv (l2cuDisconnectChnl c) := by
  unfold l2cuDisconnectChnl
  split
  · -- the block is zeroed: no SREJ outstanding
    exact h.of_srejSent_false rfl (List.append_nil _).symm List.not_mem_nil
  · exact h

theorem receiverInv_l2cFcrSendSFrame (h : ReceiverInv c) (sup : SupFunction) (pf : PfBit) :
    ReceiverInv (l2cFcrSendSFrame c sup pf) := by
  unfold l2cFcrSendSFrame
  split
  · split <;> exact h.of_append rfl rfl rfl (by simp)
  · exact h

theorem receiverInv_retransmitIFrames (h : ReceiverInv c) (txSeq : Option (Fin 64)) :
    ReceiverInv (retransmitIFrames c txSeq).1 := by
  unfold retransmitIFrames
  split
  · exact receiverInv_l2cuDisconnectChnl h
  · -- only `retrans_q` and `num_tries` change
    rcases txSeq with _ | s
    · dsimp only
      split <;> exact h.of_eq rfl rfl rfl
    · dsimp only
      split <;> split <;> exact h.of_eq rfl rfl rfl

theorem receiverInv_processSFrameSwitch (h : ReceiverInv c) (sup : SupFunction)
    (reqSeq : Fin 64) (fBit : Bool) : ReceiverInv (processSFrameSwitch c sup reqSeq fBit).1 := by
  have hbusy : ∀ b : Bool, ReceiverInv { c with fcrb.remoteBusy := b } :=
    fun _ => h.of_eq rfl rfl rfl
  cases sup with
  | rr =>
    simp only [processSFrameSwitch]
    split
    · exact receiverInv_retransmitIFrames (hbusy false) none
    · exact hbusy false
  | rej => exact receiverInv_retransmitIFrames (hbusy false) none
  | rnr => exact hbusy true
  | srej => exact receiverInv_retransmitIFrames (hbusy false) (some reqSeq)

theorem receiverInv_processSFrame (h : ReceiverInv c) (sup : SupFunction) (reqSeq : Fin 64)
    (pBit fBit : Bool) : ReceiverInv (processSFrame c sup reqSeq pBit fBit) := by
  unfold processSFrame
  dsimp only
  -- the P bit only touches `rej_sent` and `send_f_rsp`
  have hpoll : ReceiverInv
      (if pBit then { c with fcrb.rejSent := false, fcrb.sendFRsp := true } else c) := by
    split
    · exact h.of_eq rfl rfl rfl
    · exact h
  have hswitch := receiverInv_processSFrameSwitch hpoll sup reqSeq fBit
  generalize processSFrameSwitch _ sup reqSeq fBit = r at hswitch ⊢
  obtain ⟨c₂, allOk⟩ := r
  dsimp only at hswitch ⊢
  split
  · have hsent := receiverInv_l2cFcrSendSFrame hswitch
      (if c₂.fcrb.srejSent then .srej else .rr) .f
    exact hsent.of_eq rfl rfl rfl
  · exact hswitch

theorem receiverInv_doSarReassembly (h : ReceiverInv c) (f : IFrame) :
    ReceiverInv (doSarReassembly c f).1 := by
  obtain ⟨os, ho, hos⟩ := doSarReassembly_out c f
  have hframe := doSarReassembly_frame c f
  refine h.of_append (congrArg (·.fcrb.srejSent) hframe)
    (congrArg (·.fcrb.srejRcvHoldQ) hframe) ho ?_
  -- the output gained only SDUs
  intro hmem
  obtain ⟨sdu, hsdu⟩ := hos _ hmem
  exact Output.noConfusion hsdu

theorem receiverInv_processIFrameInSeq (h : ReceiverInv c) (f : IFrame) (delayAck : Bool) :
    ReceiverInv (processIFrameInSeq c f delayAck) := by
  unfold processIFrameInSeq
  dsimp only
  -- the frame is in sequence, so the SREJ is cleared before reassembly
  have hclear : ReceiverInv
      { c with fcrb.rejSent := false, fcrb.srejSent := false,
               fcrb.nextSeqExpected := f.txSeq + 1, out := c.out ++ [.reassembly f.txSeq] } :=
    h.of_srejSent_false rfl rfl (by simp)
  have hsar := receiverInv_doSarReassembly hclear f
  generalize doSarReassembly _ f = r at hsar ⊢
  obtain ⟨c₂, ok⟩ := r
  dsimp only at hsar ⊢
  split
  · exact receiverInv_l2cuDisconnectChnl hsar
  · split
    · exact receiverInv_l2cFcrSendSFrame hsar .rr .none
    · exact hsar

/-- **The dereference is never reached.** Out of sequence, the frame is held at the end of
a non-empty hold queue, or starts one along with the SREJ. -/
theorem receiverInv_processIFrameOutOfSeq (h : ReceiverInv c) (f : IFrame) :
    ReceiverInv (processIFrameOutOfSeq c f) := by
  unfold processIFrameOutOfSeq
  dsimp only
  split
  · exact h
  split
  · rename_i hsrej
    split
    · -- an empty hold queue while an SREJ is outstanding: excluded by the invariant
      rename_i hlast
      exact absurd (List.getLast?_eq_none_iff.mp hlast) (h.holdQ hsrej)
    · split
      · refine ⟨fun _ => by simp, ?_⟩
        exact h.noDeref
      · exact h.of_eq rfl rfl rfl
  split
  · exact h
  split
  · apply receiverInv_l2cFcrSendSFrame
    exact h.of_eq rfl rfl rfl
  · -- a fresh loss: the SREJ goes out with the frame held
    have hhold : ReceiverInv { c with fcrb.srejRcvHoldQ := c.fcrb.srejRcvHoldQ ++ [f],
                                      fcrb.srejSent := true } :=
      ⟨fun _ => by simp, h.noDeref⟩
    exact receiverInv_l2cFcrSendSFrame hhold .srej .none

theorem receiverInv_processIFrame (h : ReceiverInv c) (f : IFrame) (fBit delayAck : Bool) :
    ReceiverInv (processIFrame c f fBit delayAck) := by
  unfold processIFrame
  have hretx : ReceiverInv (if fBit then retransmitIFrames c none else (c, true)).1 := by
    split
    · exact receiverInv_retransmitIFrames h none
    · exact h
  generalize (if fBit then retransmitIFrames c none else (c, true)) = r at hretx ⊢
  obtain ⟨c₁, ok⟩ := r
  dsimp only at hretx ⊢
  split
  · exact hretx
  split
  · exact receiverInv_processIFrameOutOfSeq hretx f
  · exact receiverInv_processIFrameInSeq hretx f delayAck

theorem receiverInv_drainHeldFrame (h : ReceiverInv c) (f : IFrame) :
    ReceiverInv (drainHeldFrame c f) := by
  unfold drainHeldFrame
  dsimp only
  have hproc : ReceiverInv
      (if c.chnlState = .open then processIFrame c f f.fBit true else c) := by
    split
    · exact receiverInv_processIFrame h f f.fBit true
    · exact h
  generalize (if c.chnlState = .open then processIFrame c f f.fBit true else c) = c₁
    at hproc ⊢
  split
  · apply receiverInv_l2cFcrSendSFrame
    exact hproc.of_eq rfl rfl rfl
  · exact hproc

theorem receiverInv_drainHoldQ (h : ReceiverInv c) (fs : List IFrame) :
    ReceiverInv (drainHoldQ c fs) := by
  induction fs generalizing c with
  | nil => exact h
  | cons f rest ih => exact ih (receiverInv_drainHeldFrame h f)

theorem receiverInv_processSrejHoldQ (h : ReceiverInv c) : ReceiverInv (processSrejHoldQ c) := by
  unfold processSrejHoldQ
  split
  · rename_i hcond
    dsimp only
    -- the queue is swapped out only once the SREJ has cleared
    have hclear : c.fcrb.srejSent = false := by
      simpa using hcond.1
    have hdrain := receiverInv_drainHoldQ
      (h.of_srejSent_false hclear (List.append_nil _).symm List.not_mem_nil :
        ReceiverInv { c with fcrb.srejRcvHoldQ := [] }) c.fcrb.srejRcvHoldQ
    split
    · exact receiverInv_l2cFcrSendSFrame hdrain .rr .none
    · exact hdrain
  · exact h

theorem receiverInv_procPduFinal (h : ReceiverInv c) (pdu : Pdu) :
    ReceiverInv (procPduFinal c pdu).1 := by
  unfold procPduFinal
  split
  · split
    · split
      · exact receiverInv_l2cFcrSendSFrame h _ .f
      · exact h
    · dsimp only
      split <;> exact h.of_eq rfl rfl rfl
  · exact h

theorem receiverInv_processReqseq (h : ReceiverInv c) (ctrl : Pdu) :
    ReceiverInv (processReqseq c ctrl).1 := by
  unfold processReqseq
  split
  · exact h
  · dsimp only
    split
    · exact receiverInv_l2cuDisconnectChnl h
    · split <;> exact h.of_eq rfl rfl rfl

theorem receiverInv_l2cFcrProcPdu (h : ReceiverInv c) (pdu : Pdu) :
    ReceiverInv (l2cFcrProcPdu c pdu) := by
  unfold l2cFcrProcPdu
  have hfinal := receiverInv_procPduFinal h pdu
  generalize procPduFinal c pdu = r at hfinal ⊢
  obtain ⟨c₁, _ | ctrl⟩ := r
  · exact hfinal
  dsimp only at hfinal ⊢
  have hreq := receiverInv_processReqseq hfinal ctrl
  generalize processReqseq c₁ ctrl = r at hreq ⊢
  obtain ⟨c₂, ok⟩ := r
  dsimp only at hreq ⊢
  cases ok
  · exact hreq
  rw [if_neg (by decide)]
  -- the frame, then the hold queue on an open channel
  have htail : ∀ c₃ : Ccb, ReceiverInv c₃ →
      ReceiverInv (if c₃.chnlState ≠ .open then c₃ else processSrejHoldQ c₃) := by
    intro c₃ h₃
    split
    · exact h₃
    · exact receiverInv_processSrejHoldQ h₃
  cases pdu with
  | iFrame f => exact htail _ (receiverInv_processIFrame hreq f ctrl.fBit false)
  | sFrame sup reqSeq pBit fBit =>
    exact htail _ (receiverInv_processSFrame hreq sup reqSeq ctrl.pBit ctrl.fBit)

theorem receiverInv_l2cFcrProcTout (h : ReceiverInv c) : ReceiverInv (l2cFcrProcTout c) := by
  have hpoll : ∀ c' : Ccb, ReceiverInv c' → ReceiverInv
      (if (!c'.fcrb.srejSent && !c'.fcrb.rejSent) = true then l2cFcrSendSFrame c' .rr .p
        else c') := by
    intro c' h'
    split
    · exact receiverInv_l2cFcrSendSFrame h' .rr .p
    · exact h'
  unfold l2cFcrProcTout
  dsimp only
  split
  · have htry : ReceiverInv { c with fcrb.numTries := (c.fcrb.numTries + 1) % 256 } :=
      h.of_eq rfl rfl rfl
    split
    · exact receiverInv_l2cuDisconnectChnl htry
    · exact hpoll _ htry
  · exact hpoll c h

theorem receiverInv_l2cFcrProcAckTout (h : ReceiverInv c) :
    ReceiverInv (l2cFcrProcAckTout c) := by
  unfold l2cFcrProcAckTout
  split
  · exact receiverInv_l2cFcrSendSFrame h .rr .none
  · exact h

/-- The transmit path touches no receive-side field. -/
theorem receiverInv_l2cFcrGetNextXmitSduSeg (h : ReceiverInv c) (segCloned wackCloned : Bool) :
    ReceiverInv (l2cFcrGetNextXmitSduSeg c segCloned wackCloned).1 := by
  unfold l2cFcrGetNextXmitSduSeg
  split
  · exact h.of_eq rfl rfl rfl
  · split
    · exact h
    · dsimp only
      split
      · split
        · split <;> exact h.of_eq rfl rfl rfl
        · exact h
      · exact h.of_eq rfl rfl rfl

end Steps

/-! ## Every run -/

section Runs

variable {c : Ccb}

/-- **Step lemma.** -/
theorem receiverInv_ertm_step (h : ReceiverInv c) (e : Event) : ReceiverInv (ertm.exec c e) := by
  cases e with
  | xmit segCloned wackCloned =>
    have hseg := receiverInv_l2cFcrGetNextXmitSduSeg h segCloned wackCloned
    show ReceiverInv (ertmExec c (.xmit segCloned wackCloned))
    unfold ertmExec
    dsimp only
    generalize l2cFcrGetNextXmitSduSeg c segCloned wackCloned = r at hseg ⊢
    obtain ⟨c₁, _ | f⟩ := r
    · exact hseg
    · exact hseg.of_append rfl rfl rfl (by simp)
  | recv pdu => exact receiverInv_l2cFcrProcPdu h pdu
  | monRetransTimeout => exact receiverInv_l2cFcrProcTout h
  | ackTimeout => exact receiverInv_l2cFcrProcAckTout h
  | dataWrite sdu => exact h.of_eq rfl rfl rfl
  | configDone => exact h.of_eq rfl rfl rfl

theorem ReceiverInv.initial (localCid ourTxWinSz peerTxWinSz peerMaxTransmit maxRxMtu txMps
    maxHeldAcks : Nat) :
    ReceiverInv (Ccb.initial localCid ourTxWinSz peerTxWinSz peerMaxTransmit maxRxMtu txMps
      maxHeldAcks) :=
  ⟨fun h => absurd h Bool.false_ne_true, List.not_mem_nil⟩

/-- **Run lemma.** Every state an ERTM channel reaches satisfies the receiver's
invariant: `process_i_frame` never reads the last element of an empty hold queue. -/
theorem ReceiverInv.reachable {c₀ : Ccb} (h₀ : ReceiverInv c₀) (hr : ertm.Reachable c₀ c) :
    ReceiverInv c :=
  Lts.Machine.Reachable.invariant hr h₀ fun _ e hs _ => receiverInv_ertm_step hs e

end Runs

/-- In `CST_CONFIG`, unsegmented I-frames with TxSeq 1, 0 and 2 (ReqSeq 0, F clear) leave an
SREJ outstanding for `next_seq_expected = 1` while the hold queue holds TxSeq 1 and 2:
TxSeq 1 was held, TxSeq 0 filled the gap without a drain, and TxSeq 2 started a new SREJ
behind the frame still held. -/
theorem ertm_config_holdQ_gap :
    ∃ c, ertm.Run (Ccb.initial 0x40 10 10 3 672 100 0)
        [.recv (.iFrame ⟨1, 0, false, .unsegSdu, []⟩),
         .recv (.iFrame ⟨0, 0, false, .unsegSdu, []⟩),
         .recv (.iFrame ⟨2, 0, false, .unsegSdu, []⟩)] c ∧
      c.fcrb.srejSent = true ∧ c.fcrb.nextSeqExpected = 1 ∧
      c.fcrb.srejRcvHoldQ.map (·.txSeq) = [1, 2] := by
  refine ⟨_, .cons ?_ (.cons ?_ (.cons ?_ (.nil _))), ?_, ?_, ?_⟩
  all_goals decide

end L2cap

import Fluoride.L2cap.FcrLemmas
import Fluoride.Lib.SeqNum

/-!
# L2CAP ERTM — the sender's window

The frames on `waiting_for_ack_q` are the ones sent and not yet acknowledged:
`next_tx_seq - last_rx_ack` of them, carrying the TxSeq values `last_rx_ack`,
`last_rx_ack + 1`, … in queue order, and never more than the peer's window. Only two
functions move this window: `l2c_fcr_get_next_xmit_sdu_seg` appends one frame and
advances `next_tx_seq`, and `process_reqseq` frees a prefix and advances `last_rx_ack`.
Every other function leaves it alone or releases the channel, which empties it
(`KeepsWindow`). From that, `SenderInv` holds in every state an ERTM channel reaches.
-/

namespace L2cap

open SeqNum

/-- The sender's window invariant. -/
structure SenderInv (c : Ccb) : Prop where
  /-- The peer's window fits the 6-bit sequence space (the claim's premise). -/
  winSz : c.peerTxWinSz ≤ 63
  /-- One queued frame per sequence number between the last acknowledgement and the next
  number to send. -/
  count : c.fcrb.waitingForAckQ.length = (c.fcrb.nextTxSeq - c.fcrb.lastRxAck).val
  /-- The queue never holds more than the peer's window. -/
  window : c.fcrb.waitingForAckQ.length ≤ c.peerTxWinSz
  /-- The queued frames carry consecutive TxSeq values from `last_rx_ack`. -/
  txSeqs : c.fcrb.waitingForAckQ.map (·.txSeq) =
    seqRun c.fcrb.lastRxAck c.fcrb.waitingForAckQ.length

/-- A step that leaves the sender's window alone, or empties it along with the
sequence numbers (the channel was released). -/
def KeepsWindow (c c' : Ccb) : Prop :=
  c'.peerTxWinSz = c.peerTxWinSz ∧
  ((c'.fcrb.waitingForAckQ = c.fcrb.waitingForAckQ ∧ c'.fcrb.nextTxSeq = c.fcrb.nextTxSeq ∧
      c'.fcrb.lastRxAck = c.fcrb.lastRxAck) ∨
    (c'.fcrb.waitingForAckQ = [] ∧ c'.fcrb.nextTxSeq = c'.fcrb.lastRxAck))

theorem KeepsWindow.refl (c : Ccb) : KeepsWindow c c :=
  ⟨rfl, .inl ⟨rfl, rfl, rfl⟩⟩

theorem KeepsWindow.trans {c₁ c₂ c₃ : Ccb} (h₁ : KeepsWindow c₁ c₂) (h₂ : KeepsWindow c₂ c₃) :
    KeepsWindow c₁ c₃ := by
  obtain ⟨hw₁, ⟨hq₁, hn₁, hl₁⟩ | ⟨hq₁, hn₁⟩⟩ := h₁ <;>
    obtain ⟨hw₂, ⟨hq₂, hn₂, hl₂⟩ | ⟨hq₂, hn₂⟩⟩ := h₂
  · exact ⟨hw₂.trans hw₁, .inl ⟨hq₂.trans hq₁, hn₂.trans hn₁, hl₂.trans hl₁⟩⟩
  · exact ⟨hw₂.trans hw₁, .inr ⟨hq₂, hn₂⟩⟩
  · refine ⟨hw₂.trans hw₁, .inr ⟨hq₂.trans hq₁, ?_⟩⟩
    rw [hn₂, hl₂, hn₁]
  · exact ⟨hw₂.trans hw₁, .inr ⟨hq₂, hn₂⟩⟩

/-- A step that keeps the window keeps the invariant. -/
theorem SenderInv.of_keepsWindow {c c' : Ccb} (h : SenderInv c) (hk : KeepsWindow c c') :
    SenderInv c' := by
  obtain ⟨hw, ⟨hq, hn, hl⟩ | ⟨hq, hn⟩⟩ := hk
  · refine ⟨hw ▸ h.winSz, ?_, ?_, ?_⟩
    · rw [hq, hn, hl]
      exact h.count
    · rw [hq, hw]
      exact h.window
    · rw [hq, hl]
      exact h.txSeqs
  · refine ⟨hw ▸ h.winSz, ?_, ?_, ?_⟩
    · rw [hq, hn, sub_self]
      rfl
    · rw [hq]
      exact Nat.zero_le _
    · rw [hq]
      rfl

/-- A step touching neither the block's window fields nor the configuration keeps it. -/
theorem keepsWindow_of_eq {c c' : Ccb} (hw : c'.peerTxWinSz = c.peerTxWinSz)
    (hq : c'.fcrb.waitingForAckQ = c.fcrb.waitingForAckQ)
    (hn : c'.fcrb.nextTxSeq = c.fcrb.nextTxSeq) (hl : c'.fcrb.lastRxAck = c.fcrb.lastRxAck) :
    KeepsWindow c c' :=
  ⟨hw, .inl ⟨hq, hn, hl⟩⟩

/-! ## The functions that keep the window -/

theorem keepsWindow_l2cuDisconnectChnl (c : Ccb) : KeepsWindow c (l2cuDisconnectChnl c) := by
  unfold l2cuDisconnectChnl
  split
  · exact ⟨rfl, .inr ⟨rfl, rfl⟩⟩
  · exact KeepsWindow.refl c

theorem keepsWindow_l2cFcrSendSFrame (c : Ccb) (sup : SupFunction) (pf : PfBit) :
    KeepsWindow c (l2cFcrSendSFrame c sup pf) := by
  unfold l2cFcrSendSFrame
  split
  · split <;> exact keepsWindow_of_eq rfl rfl rfl rfl
  · exact KeepsWindow.refl c

theorem keepsWindow_retransmitIFrames (c : Ccb) (txSeq : Option (Fin 64)) :
    KeepsWindow c (retransmitIFrames c txSeq).1 := by
  unfold retransmitIFrames
  split
  · exact keepsWindow_l2cuDisconnectChnl c
  · -- only `retrans_q` and `num_tries` change
    rcases txSeq with _ | s
    · dsimp only
      split <;> exact keepsWindow_of_eq rfl rfl rfl rfl
    · dsimp only
      split <;> split <;> exact keepsWindow_of_eq rfl rfl rfl rfl

theorem keepsWindow_processSFrameSwitch (c : Ccb) (sup : SupFunction) (reqSeq : Fin 64)
    (fBit : Bool) : KeepsWindow c (processSFrameSwitch c sup reqSeq fBit).1 := by
  have hbusy : ∀ b : Bool, KeepsWindow c { c with fcrb.remoteBusy := b } :=
    fun _ => keepsWindow_of_eq rfl rfl rfl rfl
  cases sup with
  | rr =>
    simp only [processSFrameSwitch]
    split
    · exact (hbusy false).trans (keepsWindow_retransmitIFrames _ none)
    · exact hbusy false
  | rej => exact (hbusy false).trans (keepsWindow_retransmitIFrames _ none)
  | rnr => exact hbusy true
  | srej => exact (hbusy false).trans (keepsWindow_retransmitIFrames _ (some reqSeq))

theorem keepsWindow_processSFrame (c : Ccb) (sup : SupFunction) (reqSeq : Fin 64)
    (pBit fBit : Bool) : KeepsWindow c (processSFrame c sup reqSeq pBit fBit) := by
  unfold processSFrame
  dsimp only
  set c₁ := if pBit then { c with fcrb.rejSent := false, fcrb.sendFRsp := true } else c
    with hc₁
  -- the P bit only touches `rej_sent` and `send_f_rsp`
  have hpoll : KeepsWindow c c₁ := by
    rw [hc₁]
    split
    · exact keepsWindow_of_eq rfl rfl rfl rfl
    · exact KeepsWindow.refl c
  have hswitch := hpoll.trans (keepsWindow_processSFrameSwitch c₁ sup reqSeq fBit)
  generalize processSFrameSwitch c₁ sup reqSeq fBit = r at hswitch ⊢
  obtain ⟨c₂, allOk⟩ := r
  dsimp only at hswitch ⊢
  split
  · refine hswitch.trans ((keepsWindow_l2cFcrSendSFrame c₂
      (if c₂.fcrb.srejSent then .srej else .rr) .f).trans ?_)
    exact keepsWindow_of_eq rfl rfl rfl rfl
  · exact hswitch

theorem keepsWindow_doSarReassembly (c : Ccb) (f : IFrame) :
    KeepsWindow c (doSarReassembly c f).1 := by
  rw [doSarReassembly_frame c f]
  exact keepsWindow_of_eq rfl rfl rfl rfl

theorem keepsWindow_processIFrameInSeq (c : Ccb) (f : IFrame) (delayAck : Bool) :
    KeepsWindow c (processIFrameInSeq c f delayAck) := by
  unfold processIFrameInSeq
  dsimp only
  -- advancing `next_seq_expected` is receive-side only, so the reassembled state has the
  -- window of `c`
  have hsar := keepsWindow_doSarReassembly
    { c with fcrb.rejSent := false, fcrb.srejSent := false,
             fcrb.nextSeqExpected := f.txSeq + 1, out := c.out ++ [.reassembly f.txSeq] } f
  generalize doSarReassembly _ f = r at hsar ⊢
  obtain ⟨c₂, ok⟩ := r
  dsimp only at hsar ⊢
  split
  · exact hsar.trans (keepsWindow_l2cuDisconnectChnl c₂)
  · split
    · exact hsar.trans (keepsWindow_l2cFcrSendSFrame c₂ .rr .none)
    · exact hsar

theorem keepsWindow_processIFrameOutOfSeq (c : Ccb) (f : IFrame) :
    KeepsWindow c (processIFrameOutOfSeq c f) := by
  unfold processIFrameOutOfSeq
  dsimp only
  split
  · exact KeepsWindow.refl c
  split
  · -- an SREJ is outstanding: the frame is held, or marked for a later REJ
    split
    · exact keepsWindow_of_eq rfl rfl rfl rfl
    · split <;> exact keepsWindow_of_eq rfl rfl rfl rfl
  split
  · exact KeepsWindow.refl c
  -- a REJ or an SREJ is sent, the latter after holding the frame
  split
  · refine KeepsWindow.trans ?_ (keepsWindow_l2cFcrSendSFrame _ _ _)
    exact keepsWindow_of_eq rfl rfl rfl rfl
  · refine KeepsWindow.trans ?_ (keepsWindow_l2cFcrSendSFrame _ _ _)
    exact keepsWindow_of_eq rfl rfl rfl rfl

theorem keepsWindow_processIFrame (c : Ccb) (f : IFrame) (fBit delayAck : Bool) :
    KeepsWindow c (processIFrame c f fBit delayAck) := by
  unfold processIFrame
  -- a checkpoint response first requeues every unacknowledged frame
  have hretx : KeepsWindow c (if fBit then retransmitIFrames c none else (c, true)).1 := by
    split
    · exact keepsWindow_retransmitIFrames c none
    · exact KeepsWindow.refl c
  generalize (if fBit then retransmitIFrames c none else (c, true)) = r at hretx ⊢
  obtain ⟨c₁, ok⟩ := r
  dsimp only at hretx ⊢
  split
  · exact hretx
  split
  · exact hretx.trans (keepsWindow_processIFrameOutOfSeq c₁ f)
  · exact hretx.trans (keepsWindow_processIFrameInSeq c₁ f delayAck)

theorem keepsWindow_drainHeldFrame (c : Ccb) (f : IFrame) :
    KeepsWindow c (drainHeldFrame c f) := by
  unfold drainHeldFrame
  dsimp only
  have hproc : KeepsWindow c
      (if c.chnlState = .open then processIFrame c f f.fBit true else c) := by
    split
    · exact keepsWindow_processIFrame c f f.fBit true
    · exact KeepsWindow.refl c
  generalize (if c.chnlState = .open then processIFrame c f f.fBit true else c) = c₁
    at hproc ⊢
  split
  · refine hproc.trans (KeepsWindow.trans ?_ (keepsWindow_l2cFcrSendSFrame _ _ _))
    exact keepsWindow_of_eq rfl rfl rfl rfl
  · exact hproc

theorem keepsWindow_drainHoldQ (c : Ccb) (fs : List IFrame) :
    KeepsWindow c (drainHoldQ c fs) := by
  induction fs generalizing c with
  | nil => exact KeepsWindow.refl c
  | cons f rest ih => exact (keepsWindow_drainHeldFrame c f).trans (ih _)

theorem keepsWindow_procPduFinal (c : Ccb) (pdu : Pdu) :
    KeepsWindow c (procPduFinal c pdu).1 := by
  unfold procPduFinal
  split
  · split
    · -- a frame without F while polling: answered if it polls, then freed
      split
      · exact keepsWindow_l2cFcrSendSFrame c _ .f
      · exact KeepsWindow.refl c
    · dsimp only
      split <;> exact keepsWindow_of_eq rfl rfl rfl rfl
  · exact KeepsWindow.refl c

theorem keepsWindow_l2cFcrProcTout (c : Ccb) : KeepsWindow c (l2cFcrProcTout c) := by
  -- polling the peer sends at most an RR with P
  have hpoll : ∀ c' : Ccb, KeepsWindow c'
      (if (!c'.fcrb.srejSent && !c'.fcrb.rejSent) = true then l2cFcrSendSFrame c' .rr .p
        else c') := by
    intro c'
    split
    · exact keepsWindow_l2cFcrSendSFrame c' .rr .p
    · exact KeepsWindow.refl c'
  unfold l2cFcrProcTout
  dsimp only
  split
  · -- one more try, counted in a field outside the window
    have hcount := hpoll { c with fcrb.numTries := (c.fcrb.numTries + 1) % 256 }
    split
    · refine KeepsWindow.trans ?_ (keepsWindow_l2cuDisconnectChnl _)
      exact keepsWindow_of_eq rfl rfl rfl rfl
    · exact hcount
  · exact hpoll c

theorem keepsWindow_l2cFcrProcAckTout (c : Ccb) : KeepsWindow c (l2cFcrProcAckTout c) := by
  unfold l2cFcrProcAckTout
  split
  · exact keepsWindow_l2cFcrSendSFrame c .rr .none
  · exact KeepsWindow.refl c

/-! ## The two functions that move the window -/

section Moves

variable {c : Ccb}

/-- **Acknowledgement.** `process_reqseq` keeps the invariant: a ReqSeq out of range
releases the channel, one in range frees exactly the first `(ReqSeq - last_rx_ack) mod 64`
frames, whose TxSeq values are the start of the run. -/
theorem senderInv_processReqseq (h : SenderInv c) (ctrl : Pdu) :
    SenderInv (processReqseq c ctrl).1 := by
  cases hs : ctrl.isSrejWithoutPoll
  · by_cases hn : (ctrl.reqSeq - c.fcrb.lastRxAck).val ≤ c.fcrb.waitingForAckQ.length
    · obtain ⟨-, hw, hnext, hlast, hq⟩ := processReqseq_of_le hs hn
      have hcount := h.count
      have hle : (ctrl.reqSeq - c.fcrb.lastRxAck).val ≤
          (c.fcrb.nextTxSeq - c.fcrb.lastRxAck).val := hcount ▸ hn
      refine ⟨hw ▸ h.winSz, ?_, ?_, ?_⟩
      · -- the distance to `next_tx_seq` shrinks by the number acknowledged
        rw [hq, hnext, hlast, List.length_drop, SeqNum.val_sub_sub_of_le hle, hcount]
      · rw [hq, hw, List.length_drop]
        exact le_trans (Nat.sub_le _ _) h.window
      · -- the freed frames are the start of the run
        rw [hq, hlast, List.map_drop, h.txSeqs, List.length_drop, SeqNum.drop_seqRun rfl hn]
    · rw [processReqseq_of_lt hs (Nat.lt_of_not_le hn)]
      exact h.of_keepsWindow (keepsWindow_l2cuDisconnectChnl c)
  · rw [processReqseq_of_isSrejWithoutPoll hs]
    exact h

/-- **A new frame.** Sending a new frame while the window has room keeps the invariant:
the frame takes the next TxSeq of the run and the count grows by one. -/
theorem senderInv_xmitNewFrame (h : SenderInv c)
    (hroom : c.fcrb.waitingForAckQ.length < c.peerTxWinSz) (sar : Sar) (payload : List UInt8)
    (wackCloned : Bool) : SenderInv (xmitNewFrame c sar payload wackCloned).1 := by
  obtain ⟨hw, hlast, hnext, hmap, hlen⟩ := xmitNewFrame_window c sar payload wackCloned
  have hfit : c.fcrb.waitingForAckQ.length < 63 := lt_of_lt_of_le hroom h.winSz
  refine ⟨hw ▸ h.winSz, ?_, ?_, ?_⟩
  · rw [hlen, hnext, hlast, SeqNum.val_add_one_sub h.count.symm hfit]
  · rw [hlen, hw]
    exact hroom
  · rw [hmap, hlen, hlast, h.txSeqs, SeqNum.seqRun_append_single h.count.symm]

/-- A retransmission keeps its TxSeq and its place on `waiting_for_ack_q`. -/
theorem keepsWindow_prepareIFrame_retransmission (f : IFrame) :
    KeepsWindow c (prepareIFrame c f true).1 :=
  keepsWindow_of_eq rfl rfl rfl rfl

/-- **The transmit path.** `l2c_fcr_get_next_xmit_sdu_seg`, called with a retransmission
queued or while the channel is not flow controlled, keeps the invariant. -/
theorem senderInv_l2cFcrGetNextXmitSduSeg (h : SenderInv c)
    (hcall : c.fcrb.retransQ ≠ [] ∨ l2cFcrIsFlowControlled c = false) (segCloned wackCloned : Bool) :
    SenderInv (l2cFcrGetNextXmitSduSeg c segCloned wackCloned).1 := by
  unfold l2cFcrGetNextXmitSduSeg
  split
  · -- the head of `retrans_q` goes out again
    dsimp only
    exact h.of_keepsWindow
      ((keepsWindow_of_eq rfl rfl rfl rfl).trans (keepsWindow_prepareIFrame_retransmission _))
  · rename_i hretx
    -- nothing to retransmit, so the caller checked the window has room
    have hroom : c.fcrb.waitingForAckQ.length < c.peerTxWinSz := by
      rcases hcall with hne | hfc
      · exact absurd hretx hne
      · simp only [l2cFcrIsFlowControlled, Bool.or_eq_false_iff, decide_eq_false_iff_not,
          not_le] at hfc
        exact hfc.2
    -- taking the next segment off `xmit_hold_q` touches no window field
    have hhold : ∀ q : List Sdu, SenderInv { c with xmitHoldQ := q } :=
      fun q => h.of_keepsWindow (keepsWindow_of_eq rfl rfl rfl rfl)
    split
    · exact h
    · dsimp only
      split
      · split
        · split
          · apply senderInv_xmitNewFrame (hhold _)
            exact hroom
          · apply senderInv_xmitNewFrame (hhold _)
            exact hroom
        · exact h
      · apply senderInv_xmitNewFrame (hhold _)
        exact hroom

end Moves

/-! ## Every step and every run -/

section Runs

variable {c : Ccb}

theorem keepsWindow_processSrejHoldQ (c : Ccb) : KeepsWindow c (processSrejHoldQ c) := by
  unfold processSrejHoldQ
  split
  · dsimp only
    -- the drain starts from `c` with an empty hold queue
    have hdrain := (keepsWindow_of_eq rfl rfl rfl rfl : KeepsWindow c
      { c with fcrb.srejRcvHoldQ := [] }).trans (keepsWindow_drainHoldQ _ c.fcrb.srejRcvHoldQ)
    split
    · exact hdrain.trans (keepsWindow_l2cFcrSendSFrame _ .rr .none)
    · exact hdrain
  · exact KeepsWindow.refl c

/-- What follows the frame in `l2c_fcr_proc_pdu` keeps the window. -/
theorem keepsWindow_procPduTail (c : Ccb) :
    KeepsWindow c (if c.chnlState ≠ .open then c else processSrejHoldQ c) := by
  split
  · exact KeepsWindow.refl c
  · exact keepsWindow_processSrejHoldQ c

theorem senderInv_l2cFcrProcPdu (h : SenderInv c) (pdu : Pdu) :
    SenderInv (l2cFcrProcPdu c pdu) := by
  unfold l2cFcrProcPdu
  have hfinal := h.of_keepsWindow (keepsWindow_procPduFinal c pdu)
  generalize procPduFinal c pdu = r at hfinal ⊢
  obtain ⟨c₁, _ | ctrl⟩ := r
  · exact hfinal
  dsimp only at hfinal ⊢
  -- the acknowledgement is the one step that moves the window
  have hreq := senderInv_processReqseq hfinal ctrl
  generalize processReqseq c₁ ctrl = r at hreq ⊢
  obtain ⟨c₂, ok⟩ := r
  dsimp only at hreq ⊢
  cases ok
  · exact hreq
  rw [if_neg (by decide)]
  -- the frame itself, then the drain of the hold queue
  cases pdu with
  | iFrame f =>
    have hframe := hreq.of_keepsWindow (keepsWindow_processIFrame c₂ f ctrl.fBit false)
    exact hframe.of_keepsWindow (keepsWindow_procPduTail _)
  | sFrame sup reqSeq pBit fBit =>
    have hframe := hreq.of_keepsWindow
      (keepsWindow_processSFrame c₂ sup reqSeq ctrl.pBit ctrl.fBit)
    exact hframe.of_keepsWindow (keepsWindow_procPduTail _)

/-- **Step lemma.** Every event an ERTM channel accepts keeps the sender's invariant. -/
theorem senderInv_ertm_step (h : SenderInv c) {e : Event} (hg : ertm.guard c e) :
    SenderInv (ertm.exec c e) := by
  cases e with
  | xmit segCloned wackCloned =>
    have hseg := senderInv_l2cFcrGetNextXmitSduSeg h hg.2 segCloned wackCloned
    show SenderInv (ertmExec c (.xmit segCloned wackCloned))
    unfold ertmExec
    dsimp only
    generalize l2cFcrGetNextXmitSduSeg c segCloned wackCloned = r at hseg ⊢
    obtain ⟨c₁, _ | f⟩ := r
    · exact hseg
    · exact hseg.of_keepsWindow (keepsWindow_of_eq rfl rfl rfl rfl)
  | recv pdu => exact senderInv_l2cFcrProcPdu h pdu
  | monRetransTimeout => exact h.of_keepsWindow (keepsWindow_l2cFcrProcTout c)
  | ackTimeout => exact h.of_keepsWindow (keepsWindow_l2cFcrProcAckTout c)
  | dataWrite sdu => exact h.of_keepsWindow (keepsWindow_of_eq rfl rfl rfl rfl)
  | configDone => exact h.of_keepsWindow (keepsWindow_of_eq rfl rfl rfl rfl)

/-- A freshly configured channel has an empty window. -/
theorem SenderInv.initial {localCid ourTxWinSz peerTxWinSz peerMaxTransmit maxRxMtu txMps
    maxHeldAcks : Nat} (hwin : peerTxWinSz ≤ 63) :
    SenderInv (Ccb.initial localCid ourTxWinSz peerTxWinSz peerMaxTransmit maxRxMtu txMps
      maxHeldAcks) :=
  ⟨hwin, rfl, Nat.zero_le _, rfl⟩

/-- **Run lemma.** Every state an ERTM channel reaches from a window-respecting state
satisfies the sender's invariant. -/
theorem SenderInv.reachable {c₀ : Ccb} (h₀ : SenderInv c₀) (hr : ertm.Reachable c₀ c) :
    SenderInv c :=
  Lts.Machine.Reachable.invariant hr h₀ fun _ _ hs hg => senderInv_ertm_step hs hg

end Runs

/-! ## Acknowledgements against the window -/

/-- What `process_reqseq` does with a control word: the ReqSeq is accepted exactly when it
is at most the window's count ahead of `last_rx_ack`, and an accepted ReqSeq frees exactly
the frames whose TxSeq lies in `[last_rx_ack, ReqSeq)` and becomes `last_rx_ack`. -/
def AcksWindow (c : Ccb) (ctrl : Pdu) : Prop :=
  ((processReqseq c ctrl).2 = true ↔
      (ctrl.reqSeq - c.fcrb.lastRxAck).val ≤ c.fcrb.waitingForAckQ.length) ∧
  ((processReqseq c ctrl).2 = true →
      (processReqseq c ctrl).1.fcrb.waitingForAckQ =
        c.fcrb.waitingForAckQ.filter
          (fun f => ¬ SeqNum.InWindow c.fcrb.lastRxAck ctrl.reqSeq f.txSeq) ∧
      (processReqseq c ctrl).1.fcrb.lastRxAck = ctrl.reqSeq)

/-- In a state with the sender's invariant, every control word but an SREJ without the P
bit is acknowledged against the window. -/
theorem acksWindow_of_senderInv {c : Ccb} {ctrl : Pdu} (h : SenderInv c)
    (hs : ctrl.isSrejWithoutPoll = false) : AcksWindow c ctrl := by
  -- a ReqSeq past the window is refused
  have hin : (processReqseq c ctrl).2 = true →
      (ctrl.reqSeq - c.fcrb.lastRxAck).val ≤ c.fcrb.waitingForAckQ.length := by
    intro hacc
    by_contra hn
    rw [processReqseq_of_lt hs (Nat.lt_of_not_le hn)] at hacc
    exact Bool.false_ne_true hacc
  refine ⟨⟨hin, fun hn => (processReqseq_of_le hs hn).1⟩, fun hacc => ?_⟩
  obtain ⟨-, -, -, hlast, hq⟩ := processReqseq_of_le hs (hin hacc)
  refine ⟨?_, hlast⟩
  -- the queue's TxSeq values are a run from `last_rx_ack`, so its first frames are the
  -- ones in the window
  have hlen : c.fcrb.waitingForAckQ.length ≤ 63 + 1 := by
    have := h.window
    have := h.winSz
    omega
  rw [hq]
  exact SeqNum.drop_eq_filter_not_inWindow h.txSeqs hlen ctrl.reqSeq

theorem ertm_sender_window (localCid ourTxWinSz peerTxWinSz peerMaxTransmit maxRxMtu txMps
    maxHeldAcks : Nat) (hwin : peerTxWinSz ≤ 63) {c : Ccb}
    (hr : ertm.Reachable (Ccb.initial localCid ourTxWinSz peerTxWinSz peerMaxTransmit maxRxMtu
      txMps maxHeldAcks) c) :
    SenderInv c ∧
      (∀ ctrl : Pdu, ctrl.isSrejWithoutPoll = false → AcksWindow c ctrl) ∧
      (∀ ctrl : Pdu, ctrl.isSrejWithoutPoll = true → processReqseq c ctrl = (c, true)) := by
  have hinv := SenderInv.reachable (SenderInv.initial hwin) hr
  exact ⟨hinv, fun _ hs => acksWindow_of_senderInv hinv hs,
    fun _ hs => processReqseq_of_isSrejWithoutPoll hs⟩

theorem ertm_sender_window_initial :
    SenderInv (Ccb.initial 0x40 10 10 3 672 100 0) ∧
      (∀ ctrl : Pdu, ctrl.isSrejWithoutPoll = false →
        AcksWindow (Ccb.initial 0x40 10 10 3 672 100 0) ctrl) ∧
      (∀ ctrl : Pdu, ctrl.isSrejWithoutPoll = true →
        processReqseq (Ccb.initial 0x40 10 10 3 672 100 0) ctrl =
          (Ccb.initial 0x40 10 10 3 672 100 0, true)) :=
  ertm_sender_window 0x40 10 10 3 672 100 0 (by decide) (Lts.Machine.Reachable.refl _)

/-- An SREJ without the P bit is accepted whatever its ReqSeq and acknowledges nothing: on
a freshly opened channel with nothing sent, ReqSeq 5 is accepted and `last_rx_ack` stays
0. -/
theorem processReqseq_srej_out_of_window :
    ertm.Reachable (Ccb.initial 0x40 10 10 3 672 100 0)
        (ertm.exec (Ccb.initial 0x40 10 10 3 672 100 0) .configDone) ∧
      (processReqseq (ertm.exec (Ccb.initial 0x40 10 10 3 672 100 0) .configDone)
        (.sFrame .srej 5 false false)).2 = true ∧
      ¬ ((5 : Fin 64) -
          (ertm.exec (Ccb.initial 0x40 10 10 3 672 100 0) .configDone).fcrb.lastRxAck).val ≤
        (ertm.exec (Ccb.initial 0x40 10 10 3 672 100 0) .configDone).fcrb.waitingForAckQ.length ∧
      (processReqseq (ertm.exec (Ccb.initial 0x40 10 10 3 672 100 0) .configDone)
        (.sFrame .srej 5 false false)).1.fcrb.lastRxAck ≠ 5 := by
  refine ⟨Lts.Machine.Reachable.step (Lts.Machine.Reachable.refl _) rfl, ?_, ?_, ?_⟩
  · decide
  · decide
  · decide

end L2cap

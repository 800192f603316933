import Fluoride.Rfcomm.FrameLemmas

/-!
# RFCOMM — a frame sent is the frame parsed

The frames `rfc_ts_frames.cc` builds, put through `rfc_parse_data` at the other end of the
multiplexer. A control frame (`rfc_send_sabme`, `rfc_send_ua`, `rfc_send_dm`, `rfc_send_disc`) is
taken as what it is, on its DLCI, by a peer of the other role, and rejected by one of the same
role, whose C/R bit reads the other way (`rfcSendCtrl_parsed`). A UIH frame
(`rfc_send_buf_uih`) is taken on its DLCI with its credits, and the buffer handed up holds the
payload that was sent (`rfcSendBufUih_parsed`); that needs the two ends to agree on credit-based
flow control, and a payload below `2^15` bytes, which the two-byte length field can hold. A
credit frame (`rfc_send_credit`) is a UIH frame with the credits and nothing else, and is taken
only by a peer under credit-based flow control (`rfcSendCredit_parsed`).

Each proof reads the header byte by byte (`rfcAddr_fields`, `rfcLenField_short`,
`rfcLenField_long`), follows the path of `rfc_parse_data` that a well-formed frame takes, and
checks the FCS (`rfcCheckFcs_calc`).
-/

namespace Rfcomm

open Stack

/-! ## Control frames -/

/-- A command from one side is a response to a party of the same role, and only to it. -/
theorem rfcommFrameIsRsp_command (receiver sender : Bool) :
    rfcommFrameIsRsp receiver (rfcommCr sender true >>> rfcommShiftCr) = (receiver == sender) := by
  cases receiver <;> cases sender <;> decide

/-- A response from one side is a command to a party of the same role, and only to it. -/
theorem rfcommFrameIsCmd_response (receiver sender : Bool) :
    rfcommFrameIsCmd receiver (rfcommCr sender false >>> rfcommShiftCr) = (receiver == sender) := by
  cases receiver <;> cases sender <;> decide

theorem rfcCtrlFrame_msg (cr dlci ctrl : UInt8) :
    (rfcCtrlFrame cr dlci ctrl).msg =
      [rfcommEa ||| cr ||| (dlci <<< rfcommShiftDlci), ctrl, rfcommEa ||| 0,
        rfcCalcFcs rfcommCtrlFrameLen [rfcommEa ||| cr ||| (dlci <<< rfcommShiftDlci), ctrl,
          rfcommEa ||| 0]] := rfl

/-- A control frame is parsed back into its C/R bit, DLCI, type and P/F bit, with an empty
information field; what is left is the `switch` on its type, with an FCS that checks. -/
theorem rfcParseData_ctrlFrame (mcb : RfcMcb) (frame : MxFrame) {cr dlci ctrl : UInt8}
    (hcr : cr = 0 ∨ cr = 2) (small : dlci.toNat < 64) (notUih : ctrl &&& ~~~rfcommPfMask ≠ rfcommUih) :
    let f : MxFrame := ⟨dlci, ctrl &&& ~~~rfcommPfMask, cr >>> rfcommShiftCr,
      (ctrl &&& rfcommPfMask) >>> rfcommPfOffset, 0⟩
    rfcParseData mcb frame (rfcCtrlFrame cr dlci ctrl) =
      (rfcFrameEvent mcb f 0 (rfcCtrlFrame cr dlci ctrl).msg
          ((rfcCtrlFrame cr dlci ctrl).msg.getD 3 0),
        f, ⟨l2capMinOffset + 3, 0, (rfcCtrlFrame cr dlci ctrl).data⟩) := by
  obtain ⟨ea, hcrBit, hdlci⟩ := rfcAddr_fields hcr small
  have eal : (rfcommEa ||| 0) &&& rfcommEa ≠ 0 := by decide
  have noInfo : (rfcommEa ||| 0).toNat >>> rfcommShiftLength1 = 0 := by decide
  have plain : ¬(mcb.flow = portFcCredit ∧ ctrl &&& ~~~rfcommPfMask = rfcommUih ∧
      dlci ≠ rfcommMxDlci ∧ (ctrl &&& rfcommPfMask) >>> rfcommPfOffset = 1) := fun h => notUih h.2.1
  rw [rfcParseData_eq, rfcCtrlFrame_msg]
  have len4 : (rfcCtrlFrame cr dlci ctrl).len = 4 := rfl
  simp only [len4]
  rw [rfcParseFrame_eal mcb frame (by simpa using ea) (by simpa using eal) (le_refl 4)]
  simp only [List.getD_cons_zero, List.getD_cons_succ, hcrBit, hdlci, noInfo]
  rw [rfcParseInfo_plain mcb _ plain (show 3 + 0 + 1 = 4 from rfl)]
  rfl

/-- The FCS a control frame ends with checks. -/
theorem rfcCtrlFrame_fcs (cr dlci ctrl : UInt8) :
    rfcCheckFcs rfcommCtrlFrameLen (rfcCtrlFrame cr dlci ctrl).msg
      ((rfcCtrlFrame cr dlci ctrl).msg.getD 3 0) = true := by
  have fcs : (rfcCtrlFrame cr dlci ctrl).msg.getD 3 0 =
      rfcCalcFcs rfcommCtrlFrameLen (rfcCtrlFrame cr dlci ctrl).msg := rfl
  rw [fcs]
  exact rfcCheckFcs_calc _ _

theorem rfcommValidDlci_lt {dlci : UInt8} (valid : rfcommValidDlci dlci = true) :
    dlci.toNat < 64 := by
  unfold rfcommValidDlci rfcommMaxDlci at valid
  simp only [Bool.or_eq_true, beq_iff_eq, Bool.and_eq_true, decide_eq_true_eq] at valid
  rcases valid with rfl | ⟨-, le⟩
  · decide
  · have : dlci.toNat ≤ 61 := UInt8.le_iff_toNat_le.1 le
    omega

/-- The control frames one side sends, each parsed by a peer: the peer of the other role takes
each as what it is, on the DLCI it names, and a party of the same role rejects each by its C/R
bit. -/
theorem rfcSendCtrl_parsed (sender receiver : RfcMcb) (frame : MxFrame) {dlci : UInt8}
    (valid : rfcommValidDlci dlci = true) :
    let parsedAs (b : BtHdr) (e : RfcEvent) : Prop :=
      (rfcParseData receiver frame b).1 =
          (if receiver.isInitiator = sender.isInitiator then .badFrame else e) ∧
        (rfcParseData receiver frame b).2.1.dlci = dlci
    parsedAs (rfcSendSabme sender dlci) .sabme ∧ parsedAs (rfcSendUa sender dlci) .ua ∧
      (∀ pf, parsedAs (rfcSendDm sender dlci pf) .dm) ∧ parsedAs (rfcSendDisc sender dlci) .disc := by
  dsimp only
  have small := rfcommValidDlci_lt valid
  have cr := rfcommCr_cases sender.isInitiator
  refine ⟨?_, ?_, fun pf => ?_, ?_⟩
  · rw [rfcSendSabme, rfcParseData_ctrlFrame receiver frame (cr true) small (by decide)]
    simp only [rfcFrameEvent, rfcCtrlFrame_fcs, rfcommFrameIsRsp_command, valid]
    simp +decide
  · rw [rfcSendUa, rfcParseData_ctrlFrame receiver frame (cr false) small (by decide)]
    simp only [rfcFrameEvent, rfcCtrlFrame_fcs, rfcommFrameIsCmd_response, valid]
    simp +decide
  · -- DM is taken whatever its F bit
    rw [rfcSendDm, rfcParseData_ctrlFrame receiver frame (cr false) small (by cases pf <;> decide)]
    simp only [rfcFrameEvent, rfcCtrlFrame_fcs, rfcommFrameIsCmd_response, valid]
    cases pf <;> simp +decide
  · rw [rfcSendDisc, rfcParseData_ctrlFrame receiver frame (cr true) small (by decide)]
    simp only [rfcFrameEvent, rfcCtrlFrame_fcs, rfcommFrameIsRsp_command, valid]
    simp +decide

/-- The initiator's control frames on DLCI 2, parsed by the responder. -/
theorem rfcSendCtrl_parsed_dlci2 :
    rfcommValidDlci 2 = true ∧
      let sender : RfcMcb := ⟨true, 0⟩
      let receiver : RfcMcb := ⟨false, 0⟩
      let parsedAs (b : BtHdr) (e : RfcEvent) : Prop :=
        (rfcParseData receiver ⟨0, 0, 0, 0, 0⟩ b).1 =
            (if receiver.isInitiator = sender.isInitiator then .badFrame else e) ∧
          (rfcParseData receiver ⟨0, 0, 0, 0, 0⟩ b).2.1.dlci = 2
      parsedAs (rfcSendSabme sender 2) .sabme ∧ parsedAs (rfcSendUa sender 2) .ua ∧
        (∀ pf, parsedAs (rfcSendDm sender 2 pf) .dm) ∧ parsedAs (rfcSendDisc sender 2) .disc :=
  ⟨by decide, rfcSendCtrl_parsed ⟨true, 0⟩ ⟨false, 0⟩ ⟨0, 0, 0, 0, 0⟩ (by decide)⟩

/-! ## UIH frames -/

theorem rfcCalcFcs_append {len : Nat} {p : List UInt8} (q : List UInt8) (le : len ≤ p.length) :
    rfcCalcFcs len (p ++ q) = rfcCalcFcs len p := by
  rw [rfcCalcFcs, rfcCalcFcs, List.take_append_of_le_length le]

theorem length_rfcUihHeader (cr dlci credits : UInt8) (len : Nat) :
    (rfcUihHeader cr dlci credits len).length =
      3 + (if len ≤ 127 then 0 else 1) + (if credits ≠ 0 then 1 else 0) := by
  unfold rfcUihHeader
  split_ifs <;> rfl

/-- `rfc_send_buf_uih` puts the header in front of the payload and the FCS over the header's
first two bytes after it; the header takes the room before the payload. -/
theorem rfcSendBufUih_msg (mcb : RfcMcb) (dlci : UInt8) (pBuf : BtHdr) (layerSpecific : UInt16)
    (room : 5 ≤ pBuf.offset) (fcsRoom : pBuf.offset + pBuf.len < pBuf.data.length) :
    let hdr := rfcUihHeader (rfcommCr mcb.isInitiator true) dlci
      (if dlci ≠ 0 then layerSpecific.toUInt8 else 0) pBuf.len
    let b := rfcSendBufUih mcb dlci pBuf layerSpecific
    b.offset + hdr.length = pBuf.offset ∧ b.len = hdr.length + pBuf.len + 1 ∧
      b.msg = hdr ++ pBuf.msg ++ [rfcCalcFcs 2 hdr] := by
  intro hdr b
  have hlen : 3 ≤ hdr.length ∧ hdr.length ≤ 5 := by
    simp only [hdr, length_rfcUihHeader]
    split_ifs <;> omega
  have held : pBuf.offset + pBuf.len ≤ pBuf.data.length := by omega
  have prefixLen : (pBuf.data.take (pBuf.offset - hdr.length)).length = pBuf.offset - hdr.length := by
    rw [List.length_take]
    omega
  -- the buffer with the header in front, before the FCS is written
  have framedLen : (pBuf.prepend hdr).data.length = pBuf.data.length :=
    BtHdr.length_prepend_data (by omega) (by omega)
  have fromOffset : (pBuf.prepend hdr).data.drop (pBuf.prepend hdr).offset =
      hdr ++ pBuf.data.drop pBuf.offset := by
    simp only [BtHdr.prepend, List.append_assoc]
    rw [List.drop_left' prefixLen]
  refine ⟨?_, ?_, ?_⟩
  · show pBuf.offset - hdr.length + hdr.length = pBuf.offset
    omega
  · show pBuf.len + hdr.length + 1 = hdr.length + pBuf.len + 1
    omega
  · set framed := pBuf.prepend hdr
    set fcs := rfcCalcFcs 2 (framed.data.drop framed.offset)
    show (⟨framed.offset, framed.len + [fcs].length,
      Overwrite.write framed.data (framed.offset + framed.len) [fcs]⟩ : BtHdr).msg = _
    have fits : framed.offset + framed.len + [fcs].length ≤ framed.data.length := by
      rw [framedLen]
      show pBuf.offset - hdr.length + (pBuf.len + hdr.length) + 1 ≤ _
      omega
    have fcsEq : fcs = rfcCalcFcs 2 hdr := by
      simp only [fcs]
      rw [fromOffset, rfcCalcFcs_append _ (by omega)]
    rw [BtHdr.msg_write fits, BtHdr.msg_prepend (by omega) held, fcsEq]

/-- `rfc_send_buf_uih` writes its header and its FCS inside the buffer's data area. -/
theorem length_rfcSendBufUih_data (mcb : RfcMcb) (dlci : UInt8) (pBuf : BtHdr)
    (layerSpecific : UInt16) (room : 5 ≤ pBuf.offset)
    (fcsRoom : pBuf.offset + pBuf.len < pBuf.data.length) :
    (rfcSendBufUih mcb dlci pBuf layerSpecific).data.length = pBuf.data.length := by
  simp only [rfcSendBufUih]
  set hdr := rfcUihHeader (rfcommCr mcb.isInitiator true) dlci
    (if dlci ≠ 0 then layerSpecific.toUInt8 else 0) pBuf.len
  have hlen : hdr.length ≤ 5 := by
    simp only [hdr, length_rfcUihHeader]
    split_ifs <;> omega
  have framedLen : (pBuf.prepend hdr).data.length = pBuf.data.length :=
    BtHdr.length_prepend_data (by omega) (by omega)
  -- the FCS goes right after the framed message, inside the data area
  have fits : (pBuf.prepend hdr).offset + (pBuf.prepend hdr).len + 1 ≤
      (pBuf.prepend hdr).data.length := by
    rw [framedLen]
    show pBuf.offset - hdr.length + (pBuf.len + hdr.length) + 1 ≤ _
    omega
  rw [Overwrite.write, List.length_singleton, Overwrite.length_eq fits rfl, framedLen]

/-- The header `rfc_send_buf_uih` writes is parsed back into its C/R bit, its DLCI, the UIH
type, the P bit that says credits follow, and the payload's length, from one length byte or
two. -/
theorem rfcParseFrame_uihHeader (mcb : RfcMcb) (frame : MxFrame) {cr dlci credits : UInt8}
    {n len : Nat} (rest : List UInt8) (hcr : cr = 0 ∨ cr = 2) (small : dlci.toNat < 64)
    (fits : n < 32768) (long : (rfcUihHeader cr dlci credits n).length + 1 ≤ len) :
    rfcParseFrame mcb frame (rfcUihHeader cr dlci credits n ++ rest) len =
      rfcParseInfo mcb
        ⟨dlci, rfcommUih, cr >>> rfcommShiftCr, if credits ≠ 0 then 1 else 0, frame.credit⟩
        (rfcUihHeader cr dlci credits n ++ rest) len (if n ≤ 127 then 3 else 4) n := by
  obtain ⟨ea, hcrBit, hdlci⟩ := rfcAddr_fields hcr small
  have ctrl : (rfcommUih ||| (if credits ≠ 0 then rfcommPf else 0)) &&& ~~~rfcommPfMask =
        rfcommUih ∧
      ((rfcommUih ||| (if credits ≠ 0 then rfcommPf else 0)) &&& rfcommPfMask) >>>
        rfcommPfOffset = if credits ≠ 0 then 1 else 0 := by
    split_ifs <;> decide
  obtain ⟨type, pf⟩ := ctrl
  rw [length_rfcUihHeader] at long
  by_cases short : n ≤ 127
  · obtain ⟨eal, hn⟩ := rfcLenField_short short
    rw [if_pos short] at long
    simp only [rfcUihHeader, if_pos short, List.cons_append, List.nil_append]
    rw [rfcParseFrame_eal mcb frame (by simpa using ea) (by simpa using eal) (by omega)]
    simp only [List.getD_cons_zero, List.getD_cons_succ, hcrBit, hdlci, type, pf, hn]
  · obtain ⟨eal, hn⟩ := rfcLenField_long (Nat.lt_of_not_le short) fits
    rw [if_neg short] at long
    simp only [rfcUihHeader, if_neg short, List.cons_append, List.nil_append]
    rw [rfcParseFrame_eal_zero mcb frame (by simpa using ea) (by simpa using eal) (by omega)]
    simp only [List.getD_cons_zero, List.getD_cons_succ, hcrBit, hdlci, type, pf, hn]

/-- A UIH frame on a valid DLCI whose FCS checks is taken, as a command or as a response. -/
theorem rfcFrameEvent_uih (mcb : RfcMcb) {frame : MxFrame} {len : Nat} {start : List UInt8}
    {fcs : UInt8} (uih : frame.type = rfcommUih) (valid : rfcommValidDlci frame.dlci = true)
    (checks : rfcCheckFcs 2 start fcs = true) :
    rfcFrameEvent mcb frame len start fcs = .uih := by
  unfold rfcFrameEvent
  simp +decide [uih, valid, checks]

/-- What follows the header of a UIH frame `rfc_send_buf_uih` built: the credit byte when P is
set, the payload, and an FCS that checks. -/
theorem rfcParseInfo_uih (mcb : RfcMcb) (frame : MxFrame) {cr dlci credits fcs : UInt8} {n : Nat}
    (payload : List UInt8) (valid : rfcommValidDlci dlci = true) (payloadLen : payload.length = n)
    (fcsEq : fcs = rfcCalcFcs 2 (rfcUihHeader cr dlci credits n))
    (credited : credits ≠ 0 → dlci ≠ rfcommMxDlci ∧ mcb.flow = portFcCredit) :
    let hdr := rfcUihHeader cr dlci credits n
    let f : MxFrame :=
      ⟨dlci, rfcommUih, cr >>> rfcommShiftCr, if credits ≠ 0 then 1 else 0, frame.credit⟩
    rfcParseInfo mcb f (hdr ++ (payload ++ [fcs])) (hdr.length + n + 1)
        (if n ≤ 127 then 3 else 4) n =
      (.uih, { f with credit := credits }, hdr.length, n) := by
  intro hdr f
  set h0 := if n ≤ 127 then 3 else 4 with hh0
  have hlen : hdr.length = h0 + if credits ≠ 0 then 1 else 0 := by
    simp only [hdr, length_rfcUihHeader, hh0]
    split_ifs <;> rfl
  have h0ge : 3 ≤ h0 := by
    rw [hh0]
    split_ifs <;> omega
  have fcsAt : (hdr ++ (payload ++ [fcs])).getD (hdr.length + n) 0 = fcs := by
    rw [← payloadLen, ← List.append_assoc]
    simp [List.getD_eq_getElem?_getD]
  have checks : rfcCheckFcs 2 (hdr ++ (payload ++ [fcs])) fcs = true := by
    have sent : fcs = rfcCalcFcs 2 (hdr ++ (payload ++ [fcs])) := by
      rw [rfcCalcFcs_append _ (by omega)]
      exact fcsEq
    have computed := rfcCheckFcs_calc 2 (hdr ++ (payload ++ [fcs]))
    rwa [← sent] at computed
  by_cases hc : credits ≠ 0
  · -- credits: P set, and the credit byte ends the header
    have hlen1 : hdr.length = h0 + 1 := by rw [hlen, if_pos hc]
    obtain ⟨notMx, flow⟩ := credited hc
    have withCredit : mcb.flow = portFcCredit ∧ f.type = rfcommUih ∧ f.dlci ≠ rfcommMxDlci ∧
        f.pf = 1 := ⟨flow, rfl, notMx, by simp only [f, if_pos hc]⟩
    have creditAt : (hdr ++ (payload ++ [fcs])).getD h0 0 = credits := by
      rw [List.getD_append _ _ _ _ (by omega)]
      simp only [hdr, hh0, rfcUihHeader, if_pos hc]
      split_ifs <;> rfl
    rw [rfcParseInfo_credited mcb f withCredit (by omega), show h0 + 1 + n = hdr.length + n by omega,
      fcsAt, creditAt, rfcFrameEvent_uih mcb rfl valid checks, hlen1]
  · -- no credits: P clear, and the information field starts right after the header
    have hlen0 : hdr.length = h0 := by rw [hlen, if_neg hc, Nat.add_zero]
    have noCredit : credits = 0 := not_not.1 hc
    have plain : ¬(mcb.flow = portFcCredit ∧ f.type = rfcommUih ∧ f.dlci ≠ rfcommMxDlci ∧
        f.pf = 1) := fun h => by simp [f, if_neg hc] at h
    rw [rfcParseInfo_plain mcb f plain (by omega), ← hlen0, fcsAt,
      rfcFrameEvent_uih mcb rfl valid checks, noCredit]

/-- What the peer's `rfc_parse_data` makes of a UIH frame `rfc_send_buf_uih` built: a UIH event,
the frame's fields, and a buffer at the payload's offset that holds the payload. -/
theorem rfcParseData_rfcSendBufUih (sender receiver : RfcMcb) (frame : MxFrame) {dlci : UInt8}
    (pBuf : BtHdr) (layerSpecific : UInt16) (valid : rfcommValidDlci dlci = true)
    (room : 5 ≤ pBuf.offset) (fcsRoom : pBuf.offset + pBuf.len < pBuf.data.length)
    (fits : pBuf.len < 32768)
    (flow : dlci ≠ 0 → layerSpecific.toUInt8 ≠ 0 → receiver.flow = portFcCredit) :
    let credits : UInt8 := if dlci ≠ 0 then layerSpecific.toUInt8 else 0
    ∃ data, rfcParseData receiver frame (rfcSendBufUih sender dlci pBuf layerSpecific) =
        (.uih, ⟨dlci, rfcommUih, rfcommCr sender.isInitiator true >>> rfcommShiftCr,
          if credits ≠ 0 then 1 else 0, credits⟩, ⟨pBuf.offset, pBuf.len, data⟩) ∧
      (⟨pBuf.offset, pBuf.len, data⟩ : BtHdr).msg = pBuf.msg ∧
      data.length = pBuf.data.length := by
  intro credits
  obtain ⟨offsetEq, lenEq, msgEq⟩ := rfcSendBufUih_msg sender dlci pBuf layerSpecific room fcsRoom
  set hdr := rfcUihHeader (rfcommCr sender.isInitiator true) dlci credits pBuf.len
  have payloadLen : pBuf.msg.length = pBuf.len := BtHdr.length_msg (by omega)
  -- credits go only on a DLCI other than 0, and the peer counts them
  have credited : credits ≠ 0 → dlci ≠ rfcommMxDlci ∧ receiver.flow = portFcCredit := by
    intro hc
    have hd : dlci ≠ 0 := fun h => hc (by simp [credits, h])
    exact ⟨hd, flow hd (by simpa [credits, hd] using hc)⟩
  have parsed : rfcParseFrame receiver frame (hdr ++ (pBuf.msg ++ [rfcCalcFcs 2 hdr]))
      (hdr.length + pBuf.len + 1) =
        (.uih, ⟨dlci, rfcommUih, rfcommCr sender.isInitiator true >>> rfcommShiftCr,
          if credits ≠ 0 then 1 else 0, credits⟩, hdr.length, pBuf.len) := by
    rw [rfcParseFrame_uihHeader receiver frame _ (rfcommCr_cases _ _) (rfcommValidDlci_lt valid)
      fits (show hdr.length + 1 ≤ hdr.length + pBuf.len + 1 by omega)]
    exact rfcParseInfo_uih receiver frame pBuf.msg valid payloadLen rfl credited
  refine ⟨(rfcSendBufUih sender dlci pBuf layerSpecific).data, ?_, ?_,
    length_rfcSendBufUih_data sender dlci pBuf layerSpecific room fcsRoom⟩
  · simp only [rfcParseData_eq, msgEq, lenEq, List.append_assoc, parsed, offsetEq]
  · -- the buffer handed up starts after the header and ends before the FCS
    rw [← offsetEq, BtHdr.msg_skip _ (by omega), msgEq, List.append_assoc, List.drop_left,
      List.take_left' payloadLen]

/-- A UIH frame one side sends with `rfc_send_buf_uih` is parsed by its peer as a UIH frame on
its DLCI, with the credits it carries, and the buffer handed up holds the payload that was sent,
at the offset it was sent from. -/
theorem rfcSendBufUih_parsed (sender receiver : RfcMcb) (frame : MxFrame) {dlci : UInt8}
    (pBuf : BtHdr) (layerSpecific : UInt16) (valid : rfcommValidDlci dlci = true)
    (room : 5 ≤ pBuf.offset) (fcsRoom : pBuf.offset + pBuf.len < pBuf.data.length)
    (fits : pBuf.len < 32768)
    (flow : dlci ≠ 0 → layerSpecific.toUInt8 ≠ 0 → receiver.flow = portFcCredit) :
    let r := rfcParseData receiver frame (rfcSendBufUih sender dlci pBuf layerSpecific)
    r.1 = .uih ∧ r.2.1.dlci = dlci ∧
      r.2.1.credit = (if dlci ≠ 0 then layerSpecific.toUInt8 else 0) ∧
      r.2.2.offset = pBuf.offset ∧ r.2.2.msg = pBuf.msg := by
  intro r
  obtain ⟨data, parsed, body, -⟩ := rfcParseData_rfcSendBufUih sender receiver frame pBuf
    layerSpecific valid room fcsRoom fits flow
  simp only [r, parsed, true_and]
  exact body

/-- One byte with three credits on DLCI 2, from the initiator to the responder, both under
credit-based flow control. -/
theorem rfcSendBufUih_parsed_credits :
    let pBuf : BtHdr := ⟨5, 1, [0, 0, 0, 0, 0, 0x41, 0]⟩
    rfcommValidDlci 2 = true ∧ 5 ≤ pBuf.offset ∧ pBuf.offset + pBuf.len < pBuf.data.length ∧
      pBuf.len < 32768 ∧ ((2 : UInt8) ≠ 0 → (3 : UInt16).toUInt8 ≠ 0 → portFcCredit = portFcCredit) ∧
      let r := rfcParseData ⟨false, portFcCredit⟩ ⟨0, 0, 0, 0, 0⟩
        (rfcSendBufUih ⟨true, portFcCredit⟩ 2 pBuf 3)
      r.1 = .uih ∧ r.2.1.dlci = 2 ∧ r.2.1.credit = (if (2 : UInt8) ≠ 0 then (3 : UInt16).toUInt8 else 0) ∧
        r.2.2.offset = pBuf.offset ∧ r.2.2.msg = pBuf.msg :=
  ⟨by decide, by decide, by decide, by decide, fun _ _ => rfl,
    rfcSendBufUih_parsed ⟨true, portFcCredit⟩ ⟨false, portFcCredit⟩ ⟨0, 0, 0, 0, 0⟩ _ 3 (by decide)
      (by decide) (by decide) (by decide) (fun _ _ => rfl)⟩

/-! ## Credits -/

/-- **A credit frame one side sends is parsed by the other as a UIH frame carrying the
credits**, on its DLCI and with an empty information field, when the other side runs
credit-based flow control; otherwise the credit byte is taken for an information field the
length byte does not count, and the frame is bad. -/
theorem rfcSendCredit_parsed (sender receiver : RfcMcb) (frame : MxFrame) {dlci : UInt8}
    (credit : UInt8) (valid : rfcommValidDlci dlci = true) (notMx : dlci ≠ rfcommMxDlci) :
    let r := rfcParseData receiver frame (rfcSendCredit sender dlci credit)
    (receiver.flow = portFcCredit →
      r.1 = .uih ∧ r.2.1.dlci = dlci ∧ r.2.1.credit = credit ∧ r.2.2.len = 0) ∧
    (receiver.flow ≠ portFcCredit → r.1 = .badFrame) := by
  intro r
  obtain ⟨ea, crBits, back⟩ := rfcAddr_fields (rfcommCr_cases sender.isInitiator true)
    (rfcommValidDlci_lt valid)
  set hdr := [rfcommEa ||| rfcommCr sender.isInitiator true ||| (dlci <<< rfcommShiftDlci),
    rfcommUih ||| rfcommPf, rfcommEa ||| 0, credit]
  have control : (rfcommUih ||| rfcommPf) &&& ~~~rfcommPfMask = rfcommUih ∧
      ((rfcommUih ||| rfcommPf) &&& rfcommPfMask) >>> rfcommPfOffset = 1 ∧
      (rfcommEa ||| (0 : UInt8)).toNat >>> rfcommShiftLength1 = 0 := by decide
  have msg : (rfcSendCredit sender dlci credit).msg = hdr ++ [rfcCalcFcs 2 hdr] := rfl
  -- the header: EA set, a UIH frame with P set, and a length byte of 0
  have header : rfcParseFrame receiver frame (hdr ++ [rfcCalcFcs 2 hdr]) 5 =
      rfcParseInfo receiver ⟨dlci, rfcommUih, rfcommCr sender.isInitiator true >>> rfcommShiftCr,
        1, frame.credit⟩ (hdr ++ [rfcCalcFcs 2 hdr]) 5 3 0 := by
    rw [rfcParseFrame_eal receiver frame (p := hdr ++ [rfcCalcFcs 2 hdr]) ea
      (show (rfcommEa ||| (0 : UInt8)) &&& rfcommEa ≠ 0 by decide) (by decide)]
    simp only [hdr, List.cons_append, List.getD_cons_zero, List.getD_cons_succ, back, crBits,
      control]
  have fcsOk : rfcCheckFcs 2 (hdr ++ [rfcCalcFcs 2 hdr]) (rfcCalcFcs 2 hdr) = true := by
    have calc2 := rfcCheckFcs_calc 2 (hdr ++ [rfcCalcFcs 2 hdr])
    rwa [rfcCalcFcs_append _ (by simp [hdr])] at calc2
  have lenEq : (rfcSendCredit sender dlci credit).len = 5 := rfl
  simp only [r, rfcParseData_eq, msg, lenEq, header]
  refine ⟨fun credited => ?_, fun plain => ?_⟩
  · -- the credit byte is read, and nothing is left for the information field
    rw [rfcParseInfo_credited receiver _ ⟨credited, rfl, notMx, rfl⟩ (by rfl)]
    refine ⟨?_, rfl, rfl, rfl⟩
    have read : (hdr ++ [rfcCalcFcs 2 hdr]).getD (3 + 1 + 0) 0 = rfcCalcFcs 2 hdr := rfl
    rw [read]
    dsimp only
    refine rfcFrameEvent_uih receiver ?uih ?dlciOk fcsOk
    · rfl
    · exact valid
  · -- the credit byte is one byte more than the length byte says
    unfold rfcParseInfo
    simp only [plain, false_and, if_false]
    rw [if_pos (by decide)]

/-- Seven credits on DLCI 2, from the initiator to a responder under credit-based flow
control. -/
theorem rfcSendCredit_parsed_seven :
    rfcommValidDlci 2 = true ∧ (2 : UInt8) ≠ rfcommMxDlci ∧
      let r := rfcParseData ⟨false, portFcCredit⟩ ⟨0, 0, 0, 0, 0⟩
        (rfcSendCredit ⟨true, portFcCredit⟩ 2 7)
      (portFcCredit = portFcCredit →
        r.1 = .uih ∧ r.2.1.dlci = 2 ∧ r.2.1.credit = 7 ∧ r.2.2.len = 0) ∧
      (portFcCredit ≠ portFcCredit → r.1 = .badFrame) :=
  ⟨by decide, by decide,
    rfcSendCredit_parsed ⟨true, portFcCredit⟩ ⟨false, portFcCredit⟩ ⟨0, 0, 0, 0, 0⟩ 7 (by decide)
      (by decide)⟩

end Rfcomm

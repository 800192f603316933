import Fluoride.Rfcomm.MxLemmas

/-!
# RFCOMM — the TEST message and its echo

`rfc_send_test` puts test data behind the message's type and a one-byte length field, moving it
to a new buffer when there is no room in front of it. The peer's `rfc_process_mx_message` sends
a TEST command back with `rfc_send_test` and hands a TEST response to `rfc_process_test_rsp`.

What a TEST sent by this code meets at a peer running it (`rfcSendTest_outcomes`): no data is
refused with an NSC; 128 bytes or more are dropped without an answer, since the length field
keeps seven bits of the length and no longer matches it; anything in between is taken, with the
data that was sent. A command's data comes back to its sender as the response
(`rfcSendTest_echoed`).
-/

namespace Rfcomm

open Stack

/-! ## What `rfc_send_test` sends -/

/-- `rfc_send_test` hands `rfc_send_buf_uih` its test data behind the message's type and
one-byte length field, at an offset with room for the UIH header and with a byte after it for
the FCS. -/
theorem rfcSendTest_framed (mcb : RfcMcb) (isCommand : Bool) (pBuf : BtHdr)
    (held : pBuf.offset + pBuf.len ≤ pBuf.data.length)
    (fcsRoom : l2capMinOffset + rfcommMinOffset + 2 ≤ pBuf.offset →
      pBuf.offset + pBuf.len < pBuf.data.length) :
    ∃ framed : BtHdr, rfcSendTest mcb isCommand pBuf = rfcSendBufUih mcb rfcommMxDlci framed 0 ∧
      framed.len = pBuf.len + 2 ∧
      framed.msg = [rfcommEa ||| rfcommICr isCommand ||| rfcommMxTest,
        rfcommEa ||| (pBuf.len <<< 1).toUInt8] ++ pBuf.msg ∧
      5 ≤ framed.offset ∧ framed.offset + framed.len < framed.data.length := by
  set room := l2capMinOffset + rfcommMinOffset + 2
  have roomEq : room = 20 := rfl
  have payloadLen : pBuf.msg.length = pBuf.len := BtHdr.length_msg held
  -- the buffer the header goes in front of: the one given, or the data moved to a new one
  set q : BtHdr := if pBuf.offset < room then
    ⟨room, pBuf.len, List.replicate room 0 ++ pBuf.msg ++ [0]⟩ else pBuf with hq
  have moved : room ≤ q.offset ∧ q.len = pBuf.len ∧ q.msg = pBuf.msg ∧
      q.offset + q.len < q.data.length := by
    by_cases short : pBuf.offset < room
    · rw [hq, if_pos short]
      refine ⟨le_refl _, rfl, ?_, ?_⟩
      · exact BtHdr.msg_eq (List.replicate room 0) pBuf.msg ⟨[0], rfl⟩
          (List.length_replicate) payloadLen
      · simp only [List.length_append, List.length_replicate, payloadLen, List.length_singleton]
        omega
    · rw [hq, if_neg short]
      exact ⟨by omega, rfl, rfl, fcsRoom (by omega)⟩
  obtain ⟨atRoom, qLen, qMsg, qFcs⟩ := moved
  set hdr := [rfcommEa ||| rfcommICr isCommand ||| rfcommMxTest,
    rfcommEa ||| (q.len <<< 1).toUInt8]
  have hdrLen : hdr.length = 2 := rfl
  refine ⟨q.prepend hdr, rfl, ?_, ?_, ?_, ?_⟩
  · show q.len + hdr.length = _
    rw [qLen, hdrLen]
  · rw [BtHdr.msg_prepend (by omega) (by omega), qMsg]
    simp only [hdr, qLen]
  · show 5 ≤ q.offset - hdr.length
    omega
  · rw [BtHdr.length_prepend_data (by omega) (by omega)]
    show q.offset - hdr.length + (q.len + hdr.length) < _
    omega

/-- The peer parses what `rfc_send_test` sends as a UIH frame on the multiplexer's DLCI, and the
buffer it hands to `rfc_process_mx_message` holds the TEST message, with a byte after it. -/
theorem rfcParseData_rfcSendTest (sender receiver : RfcMcb) (frame : MxFrame) (isCommand : Bool)
    (pBuf : BtHdr) (held : pBuf.offset + pBuf.len ≤ pBuf.data.length)
    (fcsRoom : l2capMinOffset + rfcommMinOffset + 2 ≤ pBuf.offset →
      pBuf.offset + pBuf.len < pBuf.data.length)
    (fits : pBuf.len + 2 < 32768) :
    let p := rfcParseData receiver frame (rfcSendTest sender isCommand pBuf)
    let body := p.2.2
    (p.1 = .uih ∧ p.2.1.dlci = rfcommMxDlci) ∧ body.len = pBuf.len + 2 ∧
      body.msg = [rfcommEa ||| rfcommICr isCommand ||| rfcommMxTest,
        rfcommEa ||| (pBuf.len <<< 1).toUInt8] ++ pBuf.msg ∧
      body.offset + body.len < body.data.length := by
  intro p body
  obtain ⟨framed, sent, framedLen, framedMsg, room, framedFcs⟩ :=
    rfcSendTest_framed sender isCommand pBuf held fcsRoom
  obtain ⟨data, parsed, bodyMsg, dataLen⟩ := rfcParseData_rfcSendBufUih sender receiver frame
    framed 0 (show rfcommValidDlci rfcommMxDlci = true by decide) room framedFcs (by omega)
    (fun notMx => absurd rfl notMx)
  simp only [body, p, sent, parsed]
  refine ⟨by simp, framedLen, ?_, ?_⟩
  · rw [bodyMsg, framedMsg]
  · rw [dataLen]
    exact framedFcs

/-- What the peer's `rfc_process_mx_message` does with a TEST this code sent: the values go to
the `case RFCOMM_MX_TEST` when the length field's seven bits hold the length, and are dropped
when they do not. -/
theorem rfcProcessMxMessage_rfcSendTest (sender receiver : RfcMcb) (frame : MxFrame)
    (rx : MxRxFrame) (isCommand : Bool) (pBuf : BtHdr)
    (held : pBuf.offset + pBuf.len ≤ pBuf.data.length)
    (fcsRoom : l2capMinOffset + rfcommMinOffset + 2 ≤ pBuf.offset →
      pBuf.offset + pBuf.len < pBuf.data.length)
    (fits : pBuf.len + 2 < 32768) :
    let body := (rfcParseData receiver frame (rfcSendTest sender isCommand pBuf)).2.2
    let rx' := { rx with
      ea := rfcommEa
      cr := if isCommand then 1 else 0
      type := rfcommMxTest }
    rfcProcessMxMessage rx body =
      if pBuf.len ≤ 127 then rfcMxTestCase rx' isCommand pBuf.len body else (rx', .freed) := by
  intro body rx'
  obtain ⟨-, bodyLen, bodyMsg, -⟩ :=
    rfcParseData_rfcSendTest sender receiver frame isCommand pBuf held fcsRoom fits
  have payloadLen : pBuf.msg.length = pBuf.len := BtHdr.length_msg held
  obtain ⟨ea, cr, typeBits⟩ := rfcMxType_fields isCommand rfcommMxTest (by simp)
  have isCmd : ((if isCommand then (1 : UInt8) else 0) != 0) = isCommand := by
    cases isCommand <;> rfl
  rw [rfcProcessMxMessage_oneByte rx (by rw [ea]; decide) bodyMsg (by rw [bodyLen, payloadLen]),
    ea, cr, typeBits, isCmd, payloadLen]
  -- seven bits hold the length exactly when it is below 128
  by_cases short : pBuf.len ≤ 127
  · rw [if_pos (Nat.mod_eq_of_lt (by omega)), if_pos short, rfcMxSwitch_test _ _ _ _ rfl]
  · rw [if_neg (by omega), if_neg short]

/-- The buffer `case RFCOMM_MX_TEST` hands on, two bytes past the start of a message with a
one-byte length field, holds the values, with a byte after them. -/
theorem rfcMxTestCase_buf {body : BtHdr} {values : List UInt8} {hdr : List UInt8}
    (hdrLen : hdr.length = 2) (bodyLen : body.len = values.length + 2)
    (bodyMsg : body.msg = hdr ++ values) (fcsRoom : body.offset + body.len < body.data.length) :
    let echo : BtHdr := ⟨body.offset + 2, body.len - 2, body.data⟩
    echo.msg = values ∧ echo.offset + echo.len < echo.data.length ∧ echo.len = values.length := by
  intro echo
  refine ⟨?_, ?_, ?_⟩
  · show (⟨body.offset + 2, body.len - 2, body.data⟩ : BtHdr).msg = values
    rw [BtHdr.msg_skip body (by omega), bodyMsg, List.drop_left' hdrLen, bodyLen,
      Nat.add_sub_cancel, List.take_length]
  · show body.offset + 2 + (body.len - 2) < body.data.length
    omega
  · show body.len - 2 = values.length
    omega

/-- A TEST this code sent with 1 to 127 bytes is taken by the peer, which hands on a buffer
holding the data, as long, with a byte after it. -/
theorem rfcSendTest_taken (sender receiver : RfcMcb) (frame : MxFrame) (rx : MxRxFrame)
    (isCommand : Bool) (pBuf : BtHdr) (held : pBuf.offset + pBuf.len ≤ pBuf.data.length)
    (fcsRoom : l2capMinOffset + rfcommMinOffset + 2 ≤ pBuf.offset →
      pBuf.offset + pBuf.len < pBuf.data.length)
    (nonempty : 0 < pBuf.len) (short : pBuf.len ≤ 127) :
    ∃ echo : BtHdr, (rfcProcessMxMessage rx
        (rfcParseData receiver frame (rfcSendTest sender isCommand pBuf)).2.2).2 =
          .test isCommand echo ∧
      echo.msg = pBuf.msg ∧ echo.offset + echo.len < echo.data.length ∧ echo.len = pBuf.len := by
  have fits : pBuf.len + 2 < 32768 := by omega
  have processed := rfcProcessMxMessage_rfcSendTest sender receiver frame rx isCommand pBuf held
    fcsRoom fits
  obtain ⟨-, bodyLen, bodyMsg, bodyFcs⟩ :=
    rfcParseData_rfcSendTest sender receiver frame isCommand pBuf held fcsRoom fits
  have payloadLen : pBuf.msg.length = pBuf.len := BtHdr.length_msg held
  obtain ⟨echoMsg, echoFcs, echoLen⟩ := rfcMxTestCase_buf (by rfl) (by rw [bodyLen, payloadLen])
    bodyMsg bodyFcs
  refine ⟨_, ?_, echoMsg, echoFcs, echoLen.trans payloadLen⟩
  simp only [processed, if_pos short, rfcMxTestCase, if_neg (show pBuf.len ≠ 0 by omega)]

/-- **What a TEST sent by this code meets at a peer running it.** No data: the peer answers a
command with an NSC and drops a response. 128 bytes or more: the peer drops it, command or
response, without an answer, for the length field keeps only seven bits of the length. Anything
in between: a command is sent back and a response handed to `rfc_process_test_rsp`, with the
data that was sent, and a byte after it for the FCS of a reply. -/
theorem rfcSendTest_outcomes (sender receiver : RfcMcb) (frame : MxFrame) (rx : MxRxFrame)
    (isCommand : Bool) (pBuf : BtHdr) (held : pBuf.offset + pBuf.len ≤ pBuf.data.length)
    (fcsRoom : l2capMinOffset + rfcommMinOffset + 2 ≤ pBuf.offset →
      pBuf.offset + pBuf.len < pBuf.data.length)
    (fits : pBuf.len + 2 < 32768) :
    let p := rfcParseData receiver frame (rfcSendTest sender isCommand pBuf)
    let r := rfcProcessMxMessage rx p.2.2
    (p.1 = .uih ∧ p.2.1.dlci = rfcommMxDlci) ∧
      (pBuf.len = 0 → r.2 = if isCommand then .sendNsc else .freed) ∧
      (128 ≤ pBuf.len → r.2 = .freed) ∧
      (0 < pBuf.len → pBuf.len ≤ 127 →
        ∃ echo : BtHdr, r.2 = .test isCommand echo ∧ echo.msg = pBuf.msg ∧
          echo.offset + echo.len < echo.data.length) := by
  intro p r
  have processed := rfcProcessMxMessage_rfcSendTest sender receiver frame rx isCommand pBuf held
    fcsRoom fits
  refine ⟨(rfcParseData_rfcSendTest sender receiver frame isCommand pBuf held fcsRoom fits).1,
    fun empty => ?_, fun long => ?_, fun nonempty short => ?_⟩
  · simp only [r, p, processed, if_pos (show pBuf.len ≤ 127 by omega), rfcMxTestCase, if_pos empty,
      rfcMxReject]
  · simp only [r, p, processed, if_neg (show ¬pBuf.len ≤ 127 by omega)]
  · obtain ⟨echo, taken, echoMsg, echoFcs, -⟩ :=
      rfcSendTest_taken sender receiver frame rx isCommand pBuf held fcsRoom nonempty short
    exact ⟨echo, taken, echoMsg, echoFcs⟩

/-- A one-byte TEST command from the initiator, at offset 0. -/
theorem rfcSendTest_outcomes_oneByte :
    let pBuf : BtHdr := ⟨0, 1, [0x41]⟩
    pBuf.offset + pBuf.len ≤ pBuf.data.length ∧
      (l2capMinOffset + rfcommMinOffset + 2 ≤ pBuf.offset →
        pBuf.offset + pBuf.len < pBuf.data.length) ∧ pBuf.len + 2 < 32768 ∧
      let p := rfcParseData ⟨false, 0⟩ ⟨0, 0, 0, 0, 0⟩ (rfcSendTest ⟨true, 0⟩ true pBuf)
      let r := rfcProcessMxMessage MxRxFrame.init p.2.2
      (p.1 = .uih ∧ p.2.1.dlci = rfcommMxDlci) ∧
      (pBuf.len = 0 → r.2 = if true then .sendNsc else .freed) ∧ (128 ≤ pBuf.len → r.2 = .freed) ∧
        (0 < pBuf.len → pBuf.len ≤ 127 →
          ∃ echo : BtHdr, r.2 = .test true echo ∧ echo.msg = pBuf.msg ∧
            echo.offset + echo.len < echo.data.length) :=
  ⟨by decide, by decide, by decide,
    rfcSendTest_outcomes ⟨true, 0⟩ ⟨false, 0⟩ _ _ true _ (by decide) (by decide) (by decide)⟩

/-- **A TEST command's data comes back to its sender.** One side sends 1 to 127 bytes with
`rfc_send_test`; the other side's `rfc_process_mx_message` sends them back with
`rfc_send_test`, and the first side's hands a buffer with the same bytes to
`rfc_process_test_rsp`. -/
theorem rfcSendTest_echoed (a b : RfcMcb) (frameA frameB : MxFrame) (rxA rxB : MxRxFrame)
    (pBuf : BtHdr) (held : pBuf.offset + pBuf.len ≤ pBuf.data.length)
    (fcsRoom : l2capMinOffset + rfcommMinOffset + 2 ≤ pBuf.offset →
      pBuf.offset + pBuf.len < pBuf.data.length)
    (nonempty : 0 < pBuf.len) (short : pBuf.len ≤ 127) :
    let pB := rfcParseData b frameB (rfcSendTest a true pBuf)
    (pB.1 = .uih ∧ pB.2.1.dlci = rfcommMxDlci) ∧
      ∃ echo : BtHdr, (rfcProcessMxMessage rxB pB.2.2).2 = .test true echo ∧
        let pA := rfcParseData a frameA (rfcSendTest b false echo)
        (pA.1 = .uih ∧ pA.2.1.dlci = rfcommMxDlci) ∧
          ∃ back : BtHdr, (rfcProcessMxMessage rxA pA.2.2).2 = .test false back ∧
            back.msg = pBuf.msg := by
  intro pB
  -- the command, at the peer
  obtain ⟨echo, atB, echoMsg, echoFcs, echoLen⟩ :=
    rfcSendTest_taken a b frameB rxB true pBuf held fcsRoom nonempty short
  have commandUih := (rfcParseData_rfcSendTest a b frameB true pBuf held fcsRoom (by omega)).1
  -- the response, back at the sender: the peer's buffer has the room a reply needs
  obtain ⟨back, atA, backMsg, -, -⟩ :=
    rfcSendTest_taken b a frameA rxA false echo (by omega) (fun _ => echoFcs) (by omega)
      (by omega)
  have responseUih :=
    (rfcParseData_rfcSendTest b a frameA false echo (by omega) (fun _ => echoFcs) (by omega)).1
  exact ⟨commandUih, echo, atB, responseUih, back, atA, backMsg.trans echoMsg⟩

/-- One byte sent from offset 0, which `rfc_send_test` moves to a new buffer first. -/
theorem rfcSendTest_echoed_oneByte :
    let pBuf : BtHdr := ⟨0, 1, [0x41]⟩
    pBuf.offset + pBuf.len ≤ pBuf.data.length ∧
      (l2capMinOffset + rfcommMinOffset + 2 ≤ pBuf.offset →
        pBuf.offset + pBuf.len < pBuf.data.length) ∧ 0 < pBuf.len ∧ pBuf.len ≤ 127 ∧
      let pB := rfcParseData ⟨false, 0⟩ ⟨0, 0, 0, 0, 0⟩ (rfcSendTest ⟨true, 0⟩ true pBuf)
      (pB.1 = .uih ∧ pB.2.1.dlci = rfcommMxDlci) ∧
        ∃ echo : BtHdr, (rfcProcessMxMessage MxRxFrame.init pB.2.2).2 = .test true echo ∧
          let pA := rfcParseData ⟨true, 0⟩ ⟨0, 0, 0, 0, 0⟩ (rfcSendTest ⟨false, 0⟩ false echo)
          (pA.1 = .uih ∧ pA.2.1.dlci = rfcommMxDlci) ∧
            ∃ back : BtHdr, (rfcProcessMxMessage MxRxFrame.init pA.2.2).2 = .test false back ∧
              back.msg = pBuf.msg :=
  ⟨by decide, by decide, by decide, by decide,
    rfcSendTest_echoed ⟨true, 0⟩ ⟨false, 0⟩ _ _ _ _ _ (by decide) (by decide) (by decide)
      (by decide)⟩

end Rfcomm

import Fluoride.Rfcomm.MxFrames
import Fluoride.Rfcomm.RoundTrip

/-!
# RFCOMM — reading a multiplexer message

`rfc_process_mx_message` reads a message through a pointer into its buffer; its length checks
keep every read inside the message (`rfcMxSwitch_take`). A message one side sends with
`rfcSendMx` reaches the other side's `switch` with the type and C/R bit it was sent with and
its values (`rfcSendMx_processed`): that is the one fact about the header that every message's
round trip in `Rfcomm.MxRoundTrip` starts from.
-/

namespace Rfcomm

open Stack

/-! ## Reads inside the message -/

section Window

variable (rx : MxRxFrame) (isCommand : Bool) (q : List UInt8)

theorem rfcMxPnCase_take (length : Nat) :
    rfcMxPnCase rx isCommand (q.take length) length = rfcMxPnCase rx isCommand q length := by
  unfold rfcMxPnCase
  by_cases wrong : length ≠ rfcommMxPnLen
  · simp only [if_pos wrong]
  · -- the eight values are all the message has
    have eight : length = 8 := not_not.1 wrong
    subst eight
    simp only [if_neg wrong, AdjacentSwap.getD_take, Nat.reduceLT]

theorem rfcMxMscCase_take (length : Nat) :
    rfcMxMscCase rx isCommand (q.take length) length = rfcMxMscCase rx isCommand q length := by
  unfold rfcMxMscCase
  by_cases wrong : length ≠ rfcommMxMscLenWithBreak ∧ length ≠ rfcommMxMscLenNoBreak
  · simp only [if_pos wrong]
  · -- a break byte is read only in a message of three values
    rw [if_neg wrong, if_neg wrong]
    rcases not_and_or.1 wrong with three | two
    · have three : length = 3 := not_not.1 three
      subst three
      simp only [AdjacentSwap.getD_take, Nat.reduceLT]
    · have two : length = 2 := not_not.1 two
      subst two
      simp only [AdjacentSwap.getD_take, Nat.reduceLT, rfcommMxMscLenWithBreak]
      simp

theorem rfcMxNscCase_take (length : Nat) :
    rfcMxNscCase rx isCommand (q.take length) length = rfcMxNscCase rx isCommand q length := by
  unfold rfcMxNscCase
  by_cases wrong : length ≠ rfcommMxNscLen ∨ isCommand = false
  · simp only [if_pos wrong]
  · have one : length = 1 := not_not.1 (not_or.1 wrong).1
    subst one
    simp only [if_neg wrong, AdjacentSwap.getD_take, Nat.reduceLT]

theorem rfcMxRpnCase_take (length : Nat) :
    rfcMxRpnCase rx isCommand (q.take length) length = rfcMxRpnCase rx isCommand q length := by
  unfold rfcMxRpnCase
  by_cases wrong : length ≠ rfcommMxRpnReqLen ∧ length ≠ rfcommMxRpnLen
  · simp only [if_pos wrong]
  · -- the settings are read only in a message of eight values
    rw [if_neg wrong, if_neg wrong]
    rcases not_and_or.1 wrong with one | eight
    · have one : length = 1 := not_not.1 one
      subst one
      simp only [AdjacentSwap.getD_take, Nat.reduceLT, rfcommMxRpnReqLen, decide_true, if_true]
    · have eight : length = 8 := not_not.1 eight
      subst eight
      simp only [AdjacentSwap.getD_take, Nat.reduceLT]

theorem rfcMxRlsCase_take (length : Nat) :
    rfcMxRlsCase rx isCommand (q.take length) length = rfcMxRlsCase rx isCommand q length := by
  unfold rfcMxRlsCase
  by_cases wrong : length ≠ rfcommMxRlsLen
  · simp only [if_pos wrong]
  · have two : length = 2 := not_not.1 wrong
    subst two
    simp only [if_neg wrong, AdjacentSwap.getD_take, Nat.reduceLT]

/-- The `switch` reads nothing past the message's `length` values. -/
theorem rfcMxSwitch_take (length : Nat) (pBuf : BtHdr) :
    rfcMxSwitch rx isCommand (q.take length) length pBuf =
      rfcMxSwitch rx isCommand q length pBuf := by
  simp only [rfcMxSwitch, rfcMxPnCase_take, rfcMxMscCase_take, rfcMxNscCase_take,
    rfcMxRpnCase_take, rfcMxRlsCase_take]

end Window

/-! ## The `switch` -/

section Switch

variable {rx : MxRxFrame} (isCommand : Bool) (q : List UInt8) (length : Nat) (pBuf : BtHdr)

theorem rfcMxSwitch_pn (h : rx.type = rfcommMxPn) :
    rfcMxSwitch rx isCommand q length pBuf = rfcMxPnCase rx isCommand q length := by
  simp +decide [rfcMxSwitch, h]

theorem rfcMxSwitch_test (h : rx.type = rfcommMxTest) :
    rfcMxSwitch rx isCommand q length pBuf = rfcMxTestCase rx isCommand length pBuf := by
  simp +decide [rfcMxSwitch, h]

theorem rfcMxSwitch_fcon (h : rx.type = rfcommMxFcon) :
    rfcMxSwitch rx isCommand q length pBuf =
      if length ≠ rfcommMxFconLen then rfcMxReject rx isCommand
      else (rx, .processFcon isCommand) := by
  simp +decide [rfcMxSwitch, h]

theorem rfcMxSwitch_fcoff (h : rx.type = rfcommMxFcoff) :
    rfcMxSwitch rx isCommand q length pBuf =
      if length ≠ rfcommMxFcoffLen then rfcMxReject rx isCommand
      else (rx, .processFcoff isCommand) := by
  simp +decide [rfcMxSwitch, h]

theorem rfcMxSwitch_msc (h : rx.type = rfcommMxMsc) :
    rfcMxSwitch rx isCommand q length pBuf = rfcMxMscCase rx isCommand q length := by
  simp +decide [rfcMxSwitch, h]

theorem rfcMxSwitch_nsc (h : rx.type = rfcommMxNsc) :
    rfcMxSwitch rx isCommand q length pBuf = rfcMxNscCase rx isCommand q length := by
  simp +decide [rfcMxSwitch, h]

theorem rfcMxSwitch_rpn (h : rx.type = rfcommMxRpn) :
    rfcMxSwitch rx isCommand q length pBuf = rfcMxRpnCase rx isCommand q length := by
  simp +decide [rfcMxSwitch, h]

theorem rfcMxSwitch_rls (h : rx.type = rfcommMxRls) :
    rfcMxSwitch rx isCommand q length pBuf = rfcMxRlsCase rx isCommand q length := by
  simp +decide [rfcMxSwitch, h]

end Switch

/-- The address byte MSC, RPN and RLS carry for a valid DLCI other than the multiplexer's passes
their check and gives the DLCI back. -/
theorem rfcMxDlciOk_addr {dlci : UInt8} (valid : rfcommValidDlci dlci = true)
    (notMx : dlci ≠ rfcommMxDlci) :
    let a := rfcommEa ||| rfcommCrMask ||| (dlci <<< rfcommShiftDlci)
    rfcMxDlciOk a = true ∧ a >>> rfcommShiftDlci = dlci := by
  obtain ⟨ea, cr, back⟩ := rfcAddr_fields (Or.inr rfl : rfcommCrMask = 0 ∨ rfcommCrMask = 2)
    (rfcommValidDlci_lt valid)
  refine ⟨?_, back⟩
  simp only [rfcMxDlciOk, cr, back, valid, Bool.and_true, Bool.and_eq_true, bne_iff_ne]
  exact ⟨⟨ea, by decide⟩, notMx⟩

/-! ## A message sent -/

theorem length_rfcMxBuf_data (msg : List UInt8)
    (fits : l2capMinOffset + rfcommCtrlFrameLen + msg.length ≤ rfcommCmdBufSize - btHdrSize) :
    (rfcMxBuf msg).data.length = rfcommCmdBufSize - btHdrSize := by
  rw [rfcMxBuf, Overwrite.write, Overwrite.length_eq (by simpa using fits) rfl,
    List.length_replicate]

theorem rfcMxBuf_msg (msg : List UInt8)
    (fits : l2capMinOffset + rfcommCtrlFrameLen + msg.length ≤ rfcommCmdBufSize - btHdrSize) :
    (rfcMxBuf msg).msg = msg := by
  apply BtHdr.msg_eq ((List.replicate (rfcommCmdBufSize - btHdrSize) (0 : UInt8)).take
    (l2capMinOffset + rfcommCtrlFrameLen)) msg
  · exact ⟨_, rfl⟩
  · rw [List.length_take, List.length_replicate]
    omega
  · rfl

/-- A multiplexer message one side sends reaches the other side, through `rfc_parse_data`, as
the information field of a UIH frame on DLCI 0. -/
theorem rfcParseData_rfcSendMx (sender receiver : RfcMcb) (frame : MxFrame) (type : UInt8)
    (isCommand : Bool) (len : Nat) (values : List UInt8)
    (fits : l2capMinOffset + rfcommCtrlFrameLen + values.length + 2 <
      rfcommCmdBufSize - btHdrSize) :
    let r := rfcParseData receiver frame (rfcSendMx sender type isCommand len values)
    r.1 = .uih ∧ r.2.1.dlci = rfcommMxDlci ∧ r.2.2.len = values.length + 2 ∧
      r.2.2.msg = [rfcommEa ||| rfcommICr isCommand ||| type, rfcommEa ||| (len <<< 1).toUInt8] ++
        values := by
  intro r
  simp only [r, rfcSendMx]
  set msg := [rfcommEa ||| rfcommICr isCommand ||| type, rfcommEa ||| (len <<< 1).toUInt8] ++ values
  have msgLen : msg.length = values.length + 2 := by
    simp only [msg, List.length_append, List.length_cons, List.length_nil]
    omega
  have room : l2capMinOffset + rfcommCtrlFrameLen + msg.length ≤ rfcommCmdBufSize - btHdrSize := by
    omega
  have fcsRoom : (rfcMxBuf msg).offset + (rfcMxBuf msg).len < (rfcMxBuf msg).data.length := by
    rw [length_rfcMxBuf_data msg room]
    show l2capMinOffset + rfcommCtrlFrameLen + msg.length < _
    omega
  obtain ⟨data, parsed, body, -⟩ := rfcParseData_rfcSendBufUih sender receiver frame (rfcMxBuf msg) 0
    (show rfcommValidDlci rfcommMxDlci = true by decide)
    (show 5 ≤ l2capMinOffset + rfcommCtrlFrameLen by decide) fcsRoom
    (show msg.length < 32768 by unfold rfcommCmdBufSize btHdrSize at room; omega)
    (fun notMx => absurd rfl notMx)
  simp only [parsed, true_and]
  refine ⟨msgLen, ?_⟩
  rw [body, rfcMxBuf_msg msg room]

/-- The multiplexer's message types: each has EA and C/R clear, and a type byte carrying one is
read back as that type with the C/R bit it was sent with. -/
theorem rfcMxType_fields (isCommand : Bool) :
    ∀ type ∈ [rfcommMxPn, rfcommMxTest, rfcommMxFcon, rfcommMxFcoff, rfcommMxMsc, rfcommMxNsc,
      rfcommMxRpn, rfcommMxRls],
    let t := rfcommEa ||| rfcommICr isCommand ||| type
    t &&& rfcommEa = rfcommEa ∧
      (t &&& rfcommCrMask) >>> rfcommShiftCr = (if isCommand then 1 else 0) ∧
      t &&& ~~~(rfcommCrMask ||| rfcommEaMask) = type := by
  intro type known
  simp only [List.mem_cons, List.not_mem_nil, or_false] at known
  -- eight types, each sent as a command or as a response
  rcases known with rfl | rfl | rfl | rfl | rfl | rfl | rfl | rfl <;> cases isCommand <;> decide

/-- The header of a message with EA set in its type byte and a one-byte length field is read:
the values go to the `switch` when the seven bits the length byte keeps match what follows, and
the buffer is freed when they do not. -/
theorem rfcProcessMxMessage_oneByte (rx : MxRxFrame) {pBuf : BtHdr} {t : UInt8} {n : Nat}
    {values : List UInt8} (ea : t &&& rfcommEa ≠ 0)
    (hmsg : pBuf.msg = [t, rfcommEa ||| (n <<< 1).toUInt8] ++ values)
    (hlen : pBuf.len = values.length + 2) :
    rfcProcessMxMessage rx pBuf =
      if n % 128 = values.length then
        rfcMxSwitch { rx with
            ea := t &&& rfcommEa
            cr := (t &&& rfcommCrMask) >>> rfcommShiftCr
            type := t &&& ~~~(rfcommCrMask ||| rfcommEaMask) }
          ((t &&& rfcommCrMask) >>> rfcommShiftCr != 0) values values.length pBuf
      else
        ({ rx with
            ea := t &&& rfcommEa
            cr := (t &&& rfcommCrMask) >>> rfcommShiftCr
            type := t &&& ~~~(rfcommCrMask ||| rfcommEaMask) }, .freed) := by
  -- the source writes the length byte with a literal shift of 1
  have eal : (rfcommEa ||| (n <<< 1).toUInt8) &&& rfcommEa ≠ 0 := (rfcLenField_mod n).1
  have mxLen : (rfcommEa ||| (n <<< 1).toUInt8).toNat >>> rfcommShiftLength1 = n % 128 :=
    (rfcLenField_mod n).2
  unfold rfcProcessMxMessage
  set p := pBuf.data.drop pBuf.offset
  have window : p.take pBuf.len = [t, rfcommEa ||| (n <<< 1).toUInt8] ++ values := hmsg
  -- the bytes read are the message's
  have read : ∀ i, i < pBuf.len → p.getD i 0 =
      ([t, rfcommEa ||| (n <<< 1).toUInt8] ++ values).getD i 0 := fun i lt => by
    rw [← window, AdjacentSwap.getD_take lt]
  have rest : (p.drop 2).take values.length = values := by
    have dropped : (p.take pBuf.len).drop 2 = values := by
      rw [window]
      rfl
    rwa [List.drop_take, hlen, Nat.add_sub_cancel] at dropped
  simp only [read 0 (by omega), read 1 (by omega), List.cons_append, List.getD_cons_zero,
    List.getD_cons_succ]
  rw [if_neg (by omega), if_neg (by simp only [ea, false_or]; omega),
    if_neg (by simp only [eal, false_and, not_false_eq_true])]
  simp only [eal, if_false, mxLen, hlen, Nat.add_sub_cancel]
  by_cases agree : n % 128 = values.length
  · rw [if_neg (not_not.2 agree), if_pos agree, ← rfcMxSwitch_take, rest]
  · rw [if_pos agree, if_neg agree]

/-- The header of a message with EA set in its type byte and a one-byte length field that
matches the buffer is read, and its values go to the `switch`. -/
theorem rfcProcessMxMessage_header (rx : MxRxFrame) {pBuf : BtHdr} {t : UInt8}
    {values : List UInt8} (ea : t &&& rfcommEa ≠ 0) (short : values.length ≤ 127)
    (hmsg : pBuf.msg = [t, rfcommEa ||| (values.length <<< 1).toUInt8] ++ values)
    (hlen : pBuf.len = values.length + 2) :
    rfcProcessMxMessage rx pBuf =
      rfcMxSwitch { rx with
          ea := t &&& rfcommEa
          cr := (t &&& rfcommCrMask) >>> rfcommShiftCr
          type := t &&& ~~~(rfcommCrMask ||| rfcommEaMask) }
        ((t &&& rfcommCrMask) >>> rfcommShiftCr != 0) values values.length pBuf := by
  rw [rfcProcessMxMessage_oneByte rx ea hmsg hlen, Nat.mod_eq_of_lt (by omega), if_pos rfl]

/-- What `rfc_send_*` sends on the multiplexer's channel is parsed by the peer as a UIH frame on
DLCI 0, which `RFCOMM_BufDataInd` hands to `rfc_process_mx_message`. -/
theorem rfcSendMx_uih (sender receiver : RfcMcb) (frame : MxFrame) (type : UInt8)
    (isCommand : Bool) (len : Nat) (values : List UInt8) (hlen : values.length = len)
    (short : len ≤ 127) :
    let p := rfcParseData receiver frame (rfcSendMx sender type isCommand len values)
    p.1 = .uih ∧ p.2.1.dlci = rfcommMxDlci := by
  subst hlen
  obtain ⟨uih, mxDlci, -, -⟩ := rfcParseData_rfcSendMx sender receiver frame type isCommand
    values.length values
    (by unfold l2capMinOffset rfcommCtrlFrameLen rfcommCmdBufSize btHdrSize; omega)
  exact ⟨uih, mxDlci⟩

/-- **A multiplexer message one side sends reaches the other side's `switch`** with its type,
its C/R bit and its values: through `rfc_send_buf_uih`, `rfc_parse_data` and the header of
`rfc_process_mx_message`. -/
theorem rfcSendMx_processed (sender receiver : RfcMcb) (frame : MxFrame) (rx : MxRxFrame)
    (type : UInt8) (isCommand : Bool) (len : Nat) (values : List UInt8)
    (known : type ∈ [rfcommMxPn, rfcommMxTest, rfcommMxFcon, rfcommMxFcoff, rfcommMxMsc,
      rfcommMxNsc, rfcommMxRpn, rfcommMxRls])
    (hlen : values.length = len) (short : len ≤ 127) :
    let body := (rfcParseData receiver frame (rfcSendMx sender type isCommand len values)).2.2
    rfcProcessMxMessage rx body =
      rfcMxSwitch { rx with
          ea := rfcommEa
          cr := if isCommand then 1 else 0
          type := type }
        isCommand values len body := by
  intro body
  subst hlen
  obtain ⟨-, -, bodyLen, bodyMsg⟩ := rfcParseData_rfcSendMx sender receiver frame type isCommand
    values.length values
    (by unfold l2capMinOffset rfcommCtrlFrameLen rfcommCmdBufSize btHdrSize; omega)
  obtain ⟨ea, cr, typeBits⟩ := rfcMxType_fields isCommand type known
  have isCmd : ((if isCommand then (1 : UInt8) else 0) != 0) = isCommand := by
    cases isCommand <;> rfl
  rw [rfcProcessMxMessage_header rx (by rw [ea]; decide) short bodyMsg bodyLen, ea, cr, typeBits,
    isCmd]

end Rfcomm

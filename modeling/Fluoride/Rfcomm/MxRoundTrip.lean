import Fluoride.Rfcomm.MxLemmas

/-!
# RFCOMM — a multiplexer message sent is the message handled

Each `rfc_send_*` of `rfc_ts_frames.cc`, put through `rfc_send_buf_uih`, the peer's
`rfc_parse_data` and the peer's `rfc_process_mx_message`, reaches the handler of its type with
the values it was sent with, as far as the receiver keeps them: the DLCI, MTU, convergence
layer and window of a PN (`rfcSendPn_processed`); the modem signals, flow control bit and break
of an MSC, back in the `tPORT_CTRL` that `rfc_process_msc` builds (`rfcSendMsc_processed`); the
port settings of an RPN (`rfcSendRpn_processed`); and the rest.
-/

namespace Rfcomm

open Stack

/-! ## Bytes -/

/-- A DLCI below 64 keeps its bits under `RFCOMM_PN_DLCI_MASK`. -/
theorem and_pnDlciMask {dlci : UInt8} (small : dlci.toNat < 64) :
    dlci &&& rfcommPnDlciMask = dlci := by
  have all : ∀ n < 64, n.toUInt8 &&& rfcommPnDlciMask = n.toUInt8 := by decide
  have back : dlci.toNat.toUInt8 = dlci := UInt8.ofNat_toNat
  rw [← back]
  exact all dlci.toNat small

/-- The two bytes `rfc_send_pn` and `rfc_send_rpn` write for a `uint16_t`, low byte first, are
read back as it. -/
theorem uint16_bytes (x : UInt16) :
    ((x &&& 0xFF).toUInt8).toNat + ((x >>> 8).toUInt8).toNat <<< 8 = x.toNat := by
  have lt : x.toNat < 65536 := UInt16.toNat_lt_size x
  have low : x.toNat &&& 255 = x.toNat % 256 := Nat.and_two_pow_sub_one_eq_mod _ 8
  have mask : UInt16.toNat 255 = 255 := rfl
  have shift : UInt16.toNat 8 % 16 = 8 := rfl
  rw [UInt16.toNat_toUInt8, UInt16.toNat_toUInt8, UInt16.toNat_and, UInt16.toNat_shiftRight, mask,
    shift, low, Nat.shiftRight_eq_div_pow, Nat.shiftLeft_eq]
  omega

/-! ## PN -/

/-- **A PN one side sends is handled by the other as a PN** on its DLCI, with its MTU, its
convergence layer and frame type, its window, and the priority it carries: 0 in a command, and
in a response the priority of the PN being answered. The DLCI must be a valid one other than
the multiplexer's, and the MTU within `RFCOMM_MIN_MTU` and `RFCOMM_MAX_MTU`, or the receiver
rejects the PN. -/
theorem rfcSendPn_processed (sender receiver : RfcMcb) (frame : MxFrame) (rx rxSender : MxRxFrame)
    {dlci : UInt8} (isCommand : Bool) {mtu : UInt16} (cl k : UInt8)
    (valid : rfcommValidDlci dlci = true) (notMx : dlci ≠ rfcommMxDlci)
    (mtuOk : rfcommMinMtu ≤ mtu.toNat ∧ mtu.toNat ≤ rfcommMaxMtu) :
    let p := rfcParseData receiver frame (rfcSendPn sender rxSender dlci isCommand mtu cl k)
    let r := rfcProcessMxMessage rx p.2.2
    (p.1 = .uih ∧ p.2.1.dlci = rfcommMxDlci) ∧ r.2 = .processPn isCommand ∧ r.1.dlci = dlci ∧
      r.1.pn = ⟨cl &&& rfcommPnFrameTypeMask, cl &&& rfcommPnConvLayerMask,
        (if isCommand then rfcommPnPriority0 else rxSender.pn.priority) &&& rfcommPnPriorityMask,
        rfcommT1Dsec, mtu.toNat, rfcommN2, k &&& rfcommPnKMask⟩ := by
  intro p r
  have dlciBits := and_pnDlciMask (rfcommValidDlci_lt valid)
  have mtuBytes := uint16_bytes mtu
  simp only [p, r, rfcSendPn]
  refine ⟨rfcSendMx_uih sender receiver frame _ _ _ _ (by rfl) (by decide), ?_⟩
  rw [rfcSendMx_processed sender receiver frame rx rfcommMxPn isCommand rfcommMxPnLen _ (by decide)
    rfl (by decide)]
  rw [rfcMxSwitch_pn _ _ _ _ rfl]
  have accepted : ¬(dlci = 0 ∨ rfcommValidDlci dlci = false ∨ mtu.toNat < rfcommMinMtu ∨
      mtu.toNat > rfcommMaxMtu) := by
    simp only [valid, Bool.true_eq_false, false_or, not_or]
    exact ⟨notMx, by omega, by omega⟩
  simp only [rfcMxPnCase, List.getD_cons_zero, List.getD_cons_succ, dlciBits, mtuBytes,
    rfcommPnFramTypeUih, UInt8.zero_or]
  rw [if_neg (by decide), if_neg accepted]
  exact ⟨rfl, rfl, rfl⟩

/-- A PN command for DLCI 2 with an MTU of 127, from the initiator to the responder. -/
theorem rfcSendPn_processed_dlci2 :
    rfcommValidDlci 2 = true ∧ (2 : UInt8) ≠ rfcommMxDlci ∧
      (rfcommMinMtu ≤ (127 : UInt16).toNat ∧ (127 : UInt16).toNat ≤ rfcommMaxMtu) ∧
      let p := rfcParseData ⟨false, 0⟩ ⟨0, 0, 0, 0, 0⟩
        (rfcSendPn ⟨true, 0⟩ MxRxFrame.init 2 true 127 0xF0 7)
      let r := rfcProcessMxMessage MxRxFrame.init p.2.2
      (p.1 = .uih ∧ p.2.1.dlci = rfcommMxDlci) ∧ r.2 = .processPn true ∧ r.1.dlci = 2 ∧
        r.1.pn = ⟨0xF0 &&& rfcommPnFrameTypeMask, 0xF0 &&& rfcommPnConvLayerMask,
          (if true then rfcommPnPriority0 else MxRxFrame.init.pn.priority) &&& rfcommPnPriorityMask,
          rfcommT1Dsec, (127 : UInt16).toNat, rfcommN2, 7 &&& rfcommPnKMask⟩ :=
  ⟨by decide, by decide, by decide,
    rfcSendPn_processed ⟨true, 0⟩ ⟨false, 0⟩ ⟨0, 0, 0, 0, 0⟩ MxRxFrame.init MxRxFrame.init true
      0xF0 7 (by decide) (by decide) (by decide)⟩

/-! ## MSC -/

/-- The V.24 byte `rfc_send_msc` writes for the modem signals and the FC flag gives them back
in the `tPORT_CTRL` `rfc_process_msc` builds: the four signals `MODEM_SIGNAL_*` name, and the
flag. -/
theorem rfcProcessMscPars_signals (m : UInt8) (fc : Bool) (breakPresent breakDuration : UInt8) :
    let s := rfcommEa ||| (if fc then rfcommMscFc else 0) |||
      (if m &&& modemSignalDtrdsr ≠ 0 then rfcommMscRtc else 0) |||
      (if m &&& modemSignalRtscts ≠ 0 then rfcommMscRtr else 0) |||
      (if m &&& modemSignalRi ≠ 0 then rfcommMscIc else 0) |||
      (if m &&& modemSignalDcd ≠ 0 then rfcommMscDv else 0)
    (rfcProcessMscPars ⟨s, breakPresent, breakDuration⟩).modemSignal = m &&& 0x0F ∧
      (rfcProcessMscPars ⟨s, breakPresent, breakDuration⟩).fc = fc := by
  -- the signals are the low four bits: the byte depends on those and on the flag alone
  have all : ∀ n < 16, ∀ fc : Bool,
      let l := n.toUInt8
      let s := rfcommEa ||| (if fc then rfcommMscFc else 0) |||
        (if l &&& modemSignalDtrdsr ≠ 0 then rfcommMscRtc else 0) |||
        (if l &&& modemSignalRtscts ≠ 0 then rfcommMscRtr else 0) |||
        (if l &&& modemSignalRi ≠ 0 then rfcommMscIc else 0) |||
        (if l &&& modemSignalDcd ≠ 0 then rfcommMscDv else 0)
      (rfcProcessMscPars ⟨s, 0, 0⟩).modemSignal = l ∧ (rfcProcessMscPars ⟨s, 0, 0⟩).fc = fc := by
    decide
  have nibble : (m &&& 0x0F).toNat < 16 := by
    rw [UInt8.toNat_and]
    exact Nat.lt_of_le_of_lt Nat.and_le_right (by decide)
  have back : (m &&& 0x0F).toNat.toUInt8 = m &&& 0x0F := UInt8.ofNat_toNat
  have low : ∀ x : UInt8, 0x0F &&& x = x → (m &&& 0x0F) &&& x = m &&& x := by
    intro x hx
    rw [UInt8.and_assoc, hx]
  have fields := all _ nibble fc
  simp only [back, low modemSignalDtrdsr (by decide), low modemSignalRtscts (by decide),
    low modemSignalRi (by decide), low modemSignalDcd (by decide)] at fields
  exact fields

/-- A byte shifted four bits up keeps only its low four bits. -/
theorem shiftLeft_four_low (b : UInt8) : b <<< (4 : UInt8) = (b &&& 0x0F) <<< (4 : UInt8) := by
  apply UInt8.toNat_inj.1
  have low : b.toNat &&& 15 = b.toNat % 16 := Nat.and_two_pow_sub_one_eq_mod _ 4
  have shift : UInt8.toNat 4 % 8 = 4 := rfl
  have mask : UInt8.toNat 15 = 15 := rfl
  simp only [UInt8.toNat_shiftLeft, UInt8.toNat_and]
  rw [shift, mask, low, Nat.shiftLeft_eq, Nat.shiftLeft_eq]
  omega

/-- The break byte `rfc_send_msc` writes gives back, under the masks `rfc_process_mx_message`
reads it with, a break present and the duration's low four bits: `break_duration << 4` keeps
no more of it in a byte. -/
theorem rfcMscBreak_fields (b : UInt8) :
    let byte := rfcommEa ||| rfcommMscBreakPresentMask ||| (b <<< rfcommMscShiftBreak)
    byte &&& rfcommMscBreakPresentMask ≠ 0 ∧
      (byte &&& rfcommMscBreakMask) >>> rfcommMscShiftBreak = b &&& 0x0F := by
  have all : ∀ n < 16,
      let byte := rfcommEa ||| rfcommMscBreakPresentMask ||| (n.toUInt8 <<< rfcommMscShiftBreak)
      byte &&& rfcommMscBreakPresentMask ≠ 0 ∧
        (byte &&& rfcommMscBreakMask) >>> rfcommMscShiftBreak = n.toUInt8 := by
    decide
  have nibble : (b &&& 0x0F).toNat < 16 := by
    rw [UInt8.toNat_and]
    exact Nat.lt_of_le_of_lt Nat.and_le_right (by decide)
  have back : (b &&& 0x0F).toNat.toUInt8 = b &&& 0x0F := UInt8.ofNat_toNat
  have fields := all _ nibble
  rw [back] at fields
  simp only [rfcommMscShiftBreak, shiftLeft_four_low b]
  exact fields

/-- **An MSC one side sends is handled by the other as an MSC** on its DLCI, and the
`tPORT_CTRL` that `rfc_process_msc` builds from it has the sender's four modem signals, its FC
flag, and the low four bits of its break duration. -/
theorem rfcSendMsc_processed (sender receiver : RfcMcb) (frame : MxFrame) (rx : MxRxFrame)
    {dlci : UInt8} (isCommand : Bool) (pars : PortCtrl)
    (valid : rfcommValidDlci dlci = true) (notMx : dlci ≠ rfcommMxDlci) :
    let p := rfcParseData receiver frame (rfcSendMsc sender dlci isCommand pars)
    let r := rfcProcessMxMessage rx p.2.2
    let got := rfcProcessMscPars r.1.msc
    (p.1 = .uih ∧ p.2.1.dlci = rfcommMxDlci) ∧ r.2 = .processMsc isCommand ∧ r.1.dlci = dlci ∧ got.modemSignal = pars.modemSignal &&& 0x0F ∧
      got.fc = pars.fc ∧ got.breakSignal = pars.breakSignal &&& 0x0F := by
  intro p r got
  obtain ⟨addrOk, addrDlci⟩ := rfcMxDlciOk_addr valid notMx
  by_cases hb : pars.breakSignal = 0
  · -- no break: the message has two values, and the receiver records none
    have noBreak : ¬pars.breakSignal ≠ 0 := not_not.2 hb
    simp only [got, p, r, rfcSendMsc, if_neg noBreak, List.append_nil]
    refine ⟨rfcSendMx_uih sender receiver frame _ _ _ _ (by rfl) (by decide), ?_⟩
    rw [rfcSendMx_processed sender receiver frame rx rfcommMxMsc isCommand rfcommMxMscLenNoBreak
      _ (by decide) rfl (by decide)]
    rw [rfcMxSwitch_msc _ _ _ _ rfl]
    simp only [rfcMxMscCase, List.getD_cons_zero, List.getD_cons_succ, addrOk, addrDlci,
      Bool.true_eq_false]
    rw [if_neg (by decide)]
    simp only [if_false, if_neg (by decide : rfcommMxMscLenNoBreak ≠ rfcommMxMscLenWithBreak)]
    refine ⟨trivial, trivial, (rfcProcessMscPars_signals _ _ _ _).1, (rfcProcessMscPars_signals _ _ _ _).2,
      ?_⟩
    simp only [rfcProcessMscPars, hb]
    decide
  · -- a break: a third value carries its duration
    simp only [got, p, r, rfcSendMsc, if_pos hb, List.cons_append, List.nil_append]
    refine ⟨rfcSendMx_uih sender receiver frame _ _ _ _ (by rfl) (by decide), ?_⟩
    rw [rfcSendMx_processed sender receiver frame rx rfcommMxMsc isCommand rfcommMxMscLenWithBreak
      _ (by decide) rfl (by decide)]
    rw [rfcMxSwitch_msc _ _ _ _ rfl]
    simp only [rfcMxMscCase, List.getD_cons_zero, List.getD_cons_succ, addrOk, addrDlci,
      Bool.true_eq_false]
    rw [if_neg (by decide)]
    simp only [if_false, if_true]
    obtain ⟨present, duration⟩ := rfcMscBreak_fields pars.breakSignal
    refine ⟨trivial, trivial, (rfcProcessMscPars_signals _ _ _ _).1, (rfcProcessMscPars_signals _ _ _ _).2,
      ?_⟩
    simp only [rfcProcessMscPars, if_pos present, duration]

/-- An MSC command on DLCI 2 with DTR/DSR and RTS/CTS up, the FC flag clear and a break of 5. -/
theorem rfcSendMsc_processed_dlci2 :
    rfcommValidDlci 2 = true ∧ (2 : UInt8) ≠ rfcommMxDlci ∧
      let pars : PortCtrl := ⟨modemSignalDtrdsr ||| modemSignalRtscts, 5, 0, 0, false⟩
      let p := rfcParseData ⟨false, 0⟩ ⟨0, 0, 0, 0, 0⟩ (rfcSendMsc ⟨true, 0⟩ 2 true pars)
      let r := rfcProcessMxMessage MxRxFrame.init p.2.2
      let got := rfcProcessMscPars r.1.msc
      (p.1 = .uih ∧ p.2.1.dlci = rfcommMxDlci) ∧ r.2 = .processMsc true ∧ r.1.dlci = 2 ∧ got.modemSignal = pars.modemSignal &&& 0x0F ∧
        got.fc = pars.fc ∧ got.breakSignal = pars.breakSignal &&& 0x0F :=
  ⟨by decide, by decide,
    rfcSendMsc_processed ⟨true, 0⟩ ⟨false, 0⟩ ⟨0, 0, 0, 0, 0⟩ MxRxFrame.init true _ (by decide)
      (by decide)⟩

/-! ## RPN -/

/-- A byte below `2 ^ k` is a number below `2 ^ k` cast to a byte. -/
theorem exists_toUInt8_of_lt {x : UInt8} {n : Nat} (lt : x.toNat < n) :
    ∃ m < n, m.toUInt8 = x :=
  ⟨x.toNat, lt, UInt8.ofNat_toNat⟩

/-- The byte `rfc_send_rpn` packs the data bits, stop bits, parity and parity type into gives
each back under the mask `rfc_process_mx_message` reads it with, when each fits its field. -/
theorem rfcRpnFormat_fields {b s p t : UInt8} (hb : b.toNat < 4) (hs : s.toNat < 2)
    (hp : p.toNat < 2) (ht : t.toNat < 4) :
    let byte := (b <<< rfcommRpnBitsShift) ||| (s <<< rfcommRpnStopBitsShift) |||
      (p <<< rfcommRpnParityShift) ||| (t <<< rfcommRpnParityTypeShift)
    (byte >>> rfcommRpnBitsShift) &&& rfcommRpnBitsMask = b ∧
      (byte >>> rfcommRpnStopBitsShift) &&& rfcommRpnStopBitsMask = s ∧
      (byte >>> rfcommRpnParityShift) &&& rfcommRpnParityMask = p ∧
      (byte >>> rfcommRpnParityTypeShift) &&& rfcommRpnParityTypeMask = t := by
  -- the four fields take 4 · 2 · 2 · 4 values: all of them are checked
  have all : ∀ b < 4, ∀ s < 2, ∀ p < 2, ∀ t < 4,
      let byte := (b.toUInt8 <<< rfcommRpnBitsShift) ||| (s.toUInt8 <<< rfcommRpnStopBitsShift) |||
        (p.toUInt8 <<< rfcommRpnParityShift) ||| (t.toUInt8 <<< rfcommRpnParityTypeShift)
      (byte >>> rfcommRpnBitsShift) &&& rfcommRpnBitsMask = b.toUInt8 ∧
        (byte >>> rfcommRpnStopBitsShift) &&& rfcommRpnStopBitsMask = s.toUInt8 ∧
        (byte >>> rfcommRpnParityShift) &&& rfcommRpnParityMask = p.toUInt8 ∧
        (byte >>> rfcommRpnParityTypeShift) &&& rfcommRpnParityTypeMask = t.toUInt8 := by
    decide
  obtain ⟨nb, lb, rfl⟩ := exists_toUInt8_of_lt hb
  obtain ⟨ns, ls, rfl⟩ := exists_toUInt8_of_lt hs
  obtain ⟨np, lp, rfl⟩ := exists_toUInt8_of_lt hp
  obtain ⟨nt, lt, rfl⟩ := exists_toUInt8_of_lt ht
  exact all nb lb ns ls np lp nt lt

/-- **An RPN one side sends is handled by the other as an RPN** on its DLCI: a request without
settings as a request, which leaves the receiver's last settings as they were; and settings
whose data bits, stop bits, parity and parity type fit their fields as those settings, with the
flow control type under `RFCOMM_FC_MASK` and the parameter mask under `RFCOMM_RPN_PM_MASK`. -/
theorem rfcSendRpn_processed (sender receiver : RfcMcb) (frame : MxFrame) (rx : MxRxFrame)
    {dlci : UInt8} (isCommand : Bool) (settings : Option PortSettings) (mask : UInt16)
    (valid : rfcommValidDlci dlci = true) (notMx : dlci ≠ rfcommMxDlci)
    (widths : ∀ s ∈ settings, s.byteSize.toNat < 4 ∧ s.stopBits.toNat < 2 ∧
      s.parity.toNat < 2 ∧ s.parityType.toNat < 4) :
    let p := rfcParseData receiver frame (rfcSendRpn sender dlci isCommand settings mask)
    let r := rfcProcessMxMessage rx p.2.2
    (p.1 = .uih ∧ p.2.1.dlci = rfcommMxDlci) ∧ r.2 = .processRpn isCommand settings.isNone ∧ r.1.dlci = dlci ∧
      r.1.rpn = match settings with
        | none => { rx.rpn with isRequest := true }
        | some s => ⟨false, s.baudRate, s.byteSize, s.stopBits, s.parity, s.parityType,
            s.fcType &&& rfcommFcMask, s.xonChar, s.xoffChar, mask.toNat &&& rfcommRpnPmMask⟩ := by
  intro p r
  obtain ⟨addrOk, addrDlci⟩ := rfcMxDlciOk_addr valid notMx
  cases settings with
  | none =>
    simp only [p, r, rfcSendRpn]
    refine ⟨rfcSendMx_uih sender receiver frame _ _ _ _ (by rfl) (by decide), ?_⟩
    rw [rfcSendMx_processed sender receiver frame rx rfcommMxRpn isCommand rfcommMxRpnReqLen
      _ (by decide) rfl (by decide)]
    rw [rfcMxSwitch_rpn _ _ _ _ rfl]
    simp only [rfcMxRpnCase, List.getD_cons_zero, addrOk, addrDlci, Bool.true_eq_false]
    rw [if_neg (by decide)]
    simp only [if_false, decide_true, if_true, Option.isNone_none, and_self]
  | some s =>
    obtain ⟨hb, hs, hp, ht⟩ := widths s rfl
    obtain ⟨fb, fs, fp, ft⟩ := rfcRpnFormat_fields hb hs hp ht
    have maskBytes := uint16_bytes mask
    simp only [p, r, rfcSendRpn]
    refine ⟨rfcSendMx_uih sender receiver frame _ _ _ _ (by rfl) (by decide), ?_⟩
    rw [rfcSendMx_processed sender receiver frame rx rfcommMxRpn isCommand rfcommMxRpnLen
      _ (by decide) rfl (by decide)]
    rw [rfcMxSwitch_rpn _ _ _ _ rfl]
    simp only [rfcMxRpnCase, List.getD_cons_zero, List.getD_cons_succ, addrOk, addrDlci,
      Bool.true_eq_false, fb, fs, fp, ft, maskBytes]
    have settingsLen : decide (rfcommMxRpnLen = rfcommMxRpnReqLen) = false := rfl
    rw [if_neg (by decide)]
    simp only [if_false, settingsLen, Bool.false_eq_true, Option.isNone_some, and_self]

/-- RPN settings on DLCI 2: 8 data bits, 1 stop bit, no parity, no flow control, and every
parameter in the mask. -/
theorem rfcSendRpn_processed_dlci2 :
    let s : PortSettings := ⟨3, 3, 0, 0, 0, 0, 0x11, 0x13⟩
    rfcommValidDlci 2 = true ∧ (2 : UInt8) ≠ rfcommMxDlci ∧
      (∀ s' ∈ some s, s'.byteSize.toNat < 4 ∧ s'.stopBits.toNat < 2 ∧ s'.parity.toNat < 2 ∧
        s'.parityType.toNat < 4) ∧
      let p := rfcParseData ⟨false, 0⟩ ⟨0, 0, 0, 0, 0⟩ (rfcSendRpn ⟨true, 0⟩ 2 true (some s) 0x3F7F)
      let r := rfcProcessMxMessage MxRxFrame.init p.2.2
      (p.1 = .uih ∧ p.2.1.dlci = rfcommMxDlci) ∧ r.2 = .processRpn true (some s).isNone ∧ r.1.dlci = 2 ∧
        r.1.rpn = ⟨false, s.baudRate, s.byteSize, s.stopBits, s.parity, s.parityType,
          s.fcType &&& rfcommFcMask, s.xonChar, s.xoffChar,
          (0x3F7F : UInt16).toNat &&& rfcommRpnPmMask⟩ :=
  ⟨by decide, by decide, by simp,
    rfcSendRpn_processed ⟨true, 0⟩ ⟨false, 0⟩ ⟨0, 0, 0, 0, 0⟩ MxRxFrame.init true _ _ (by decide)
      (by decide) (by simp)⟩

/-! ## RLS, FCON and FCOFF -/

/-- Setting the error bit and clearing it again leaves the other bits of the line status. -/
theorem rlsError_cleared (status : UInt8) :
    (rfcommRlsError ||| status) &&& ~~~0x01 = status &&& ~~~0x01 := by
  apply UInt8.toBitVec_inj.1
  simp only [rfcommRlsError, UInt8.toBitVec_and, UInt8.toBitVec_or, UInt8.toBitVec_not]
  -- the error bit is the one bit the mask clears
  have clear : UInt8.toBitVec 1 &&& ~~~UInt8.toBitVec 1 = 0#8 := by decide
  rw [BitVec.and_or_distrib_right, clear, BitVec.zero_or]

/-- **An RLS one side sends is handled by the other as an RLS** on its DLCI, with the line
status it was sent with, the error bit the sender sets cleared again. -/
theorem rfcSendRls_processed (sender receiver : RfcMcb) (frame : MxFrame) (rx : MxRxFrame)
    {dlci : UInt8} (isCommand : Bool) (status : UInt8)
    (valid : rfcommValidDlci dlci = true) (notMx : dlci ≠ rfcommMxDlci) :
    let p := rfcParseData receiver frame (rfcSendRls sender dlci isCommand status)
    let r := rfcProcessMxMessage rx p.2.2
    (p.1 = .uih ∧ p.2.1.dlci = rfcommMxDlci) ∧ r.2 = .processRls isCommand ∧ r.1.dlci = dlci ∧ r.1.rlsLineStatus = status &&& ~~~0x01 := by
  intro p r
  obtain ⟨addrOk, addrDlci⟩ := rfcMxDlciOk_addr valid notMx
  simp only [p, r, rfcSendRls]
  refine ⟨rfcSendMx_uih sender receiver frame _ _ _ _ (by rfl) (by decide), ?_⟩
  rw [rfcSendMx_processed sender receiver frame rx rfcommMxRls isCommand rfcommMxRlsLen
    _ (by decide) rfl (by decide)]
  rw [rfcMxSwitch_rls _ _ _ _ rfl]
  simp only [rfcMxRlsCase, List.getD_cons_zero, List.getD_cons_succ, addrOk, addrDlci,
    Bool.true_eq_false, rlsError_cleared]
  rw [if_neg (by decide)]
  simp only [if_false, and_self]

/-- An RLS command on DLCI 2 reporting an overrun error. -/
theorem rfcSendRls_processed_dlci2 :
    rfcommValidDlci 2 = true ∧ (2 : UInt8) ≠ rfcommMxDlci ∧
      let p := rfcParseData ⟨false, 0⟩ ⟨0, 0, 0, 0, 0⟩ (rfcSendRls ⟨true, 0⟩ 2 true 0x02)
      let r := rfcProcessMxMessage MxRxFrame.init p.2.2
      (p.1 = .uih ∧ p.2.1.dlci = rfcommMxDlci) ∧ r.2 = .processRls true ∧ r.1.dlci = 2 ∧
        r.1.rlsLineStatus = 0x02 &&& ~~~0x01 :=
  ⟨by decide, by decide,
    rfcSendRls_processed ⟨true, 0⟩ ⟨false, 0⟩ ⟨0, 0, 0, 0, 0⟩ MxRxFrame.init true _ (by decide)
      (by decide)⟩

/-- **FCON and FCOFF one side sends are handled by the other as FCON and FCOFF**, command or
response as they were sent. -/
theorem rfcSendFconFcoff_processed (sender receiver : RfcMcb) (frame : MxFrame) (rx : MxRxFrame)
    (isCommand : Bool) :
    let pOn := rfcParseData receiver frame (rfcSendFcon sender isCommand)
    let pOff := rfcParseData receiver frame (rfcSendFcoff sender isCommand)
    (pOn.1 = .uih ∧ pOn.2.1.dlci = rfcommMxDlci) ∧
      (rfcProcessMxMessage rx pOn.2.2).2 = .processFcon isCommand ∧
      (pOff.1 = .uih ∧ pOff.2.1.dlci = rfcommMxDlci) ∧
      (rfcProcessMxMessage rx pOff.2.2).2 = .processFcoff isCommand := by
  intro pOn pOff
  simp only [pOn, pOff, rfcSendFcon, rfcSendFcoff]
  refine ⟨rfcSendMx_uih sender receiver frame _ _ _ _ (by rfl) (by decide), ?_,
    rfcSendMx_uih sender receiver frame _ _ _ _ (by rfl) (by decide), ?_⟩
  · rw [rfcSendMx_processed sender receiver frame rx rfcommMxFcon isCommand rfcommMxFconLen
      _ (by decide) rfl (by decide), rfcMxSwitch_fcon _ _ _ _ rfl]
    simp only [ne_eq, not_true_eq_false, if_false]
  · rw [rfcSendMx_processed sender receiver frame rx rfcommMxFcoff isCommand rfcommMxFcoffLen
      _ (by decide) rfl (by decide), rfcMxSwitch_fcoff _ _ _ _ rfl]
    simp only [ne_eq, not_true_eq_false, if_false]

/-! ## NSC -/

/-- **An NSC this code sends is never handled by a peer running it.** `rfc_send_nsc` sends it as
a response, and `case RFCOMM_MX_NSC` takes only a command: the peer frees it, without an answer
and without calling `rfc_process_nsc`. -/
theorem rfcSendNsc_dropped (sender receiver : RfcMcb) (frame : MxFrame) (rx rxSender : MxRxFrame) :
    let p := rfcParseData receiver frame (rfcSendNsc sender rxSender)
    (p.1 = .uih ∧ p.2.1.dlci = rfcommMxDlci) ∧ (rfcProcessMxMessage rx p.2.2).2 = .freed := by
  intro p
  simp only [p, rfcSendNsc]
  refine ⟨rfcSendMx_uih sender receiver frame _ _ _ _ (by rfl) (by decide), ?_⟩
  rw [rfcSendMx_processed sender receiver frame rx rfcommMxNsc false rfcommMxNscLen
    _ (by decide) rfl (by decide), rfcMxSwitch_nsc _ _ _ _ rfl]
  simp only [rfcMxNscCase, rfcMxReject, or_true, if_true, Bool.false_eq_true, if_false]

end Rfcomm

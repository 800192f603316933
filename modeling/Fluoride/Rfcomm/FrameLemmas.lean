import Fluoride.Rfcomm.TsFrames
import Mathlib.Data.List.GetD
import Fluoride.Lib.AdjacentSwap

/-!
# RFCOMM — the FCS and what `rfc_parse_data` reads

`rfc_check_fcs` accepts exactly the FCS `rfc_calc_fcs` computes over the same bytes
(`rfcCheckFcs_iff`): the table is a permutation of the bytes, so the last lookup is injective,
and the complemented CRC lands on `0xFF`, whose entry is `0xCF`.

`rfc_parse_data` reads its buffer through a pointer, and nothing stops it from reading past the
frame but its length checks. They suffice: every byte it reads lies in the `len` bytes from the
offset (`rfcParseFrame_take`), so what it returns depends on the buffer's message alone
(`rfcParseData_msg`).

The rest are the pieces the round trips of `Rfcomm.RoundTrip` are made of: the fields of the
address byte and of the length field as the senders write them, and the paths of
`rfc_parse_data` that a well-formed frame takes.
-/

namespace Rfcomm

open Stack

/-! ## The FCS -/

set_option maxRecDepth 20000 in
theorem rfcCrctable_nodup : rfcCrctable.Nodup := by decide

set_option maxRecDepth 4000 in
theorem rfcCrctable_length : rfcCrctable.length = 256 := by decide

/-- Each step of the CRC is injective in the byte it takes: the table is a permutation. -/
theorem rfcCrcStep_inj {s a b : UInt8} (h : rfcCrcStep s a = rfcCrcStep s b) : a = b := by
  have inRange : ∀ x : UInt8, x.toNat < rfcCrctable.length := fun x => by
    rw [rfcCrctable_length]
    exact UInt8.toNat_lt_size x
  unfold rfcCrcStep at h
  rw [List.getD_eq_getElem _ 0 (inRange _), List.getD_eq_getElem _ 0 (inRange _)] at h
  have index := (List.getElem_inj rfcCrctable_nodup).1 h
  exact (UInt8.xor_right_inj s).1 (UInt8.toNat_inj.1 index)

/-- The complemented CRC taken into the CRC gives `0xCF`, the check's constant. -/
theorem rfcCrcStep_complement (s : UInt8) : rfcCrcStep s (0xFF - s) = 0xCF := by
  have ones : (0xFF : UInt8).toBitVec = BitVec.allOnes 8 := rfl
  have all : s ^^^ (0xFF - s) = 0xFF := by
    apply UInt8.toBitVec_inj.1
    rw [UInt8.toBitVec_xor, UInt8.toBitVec_sub, ones, BitVec.allOnes_sub_eq_not]
    ext i hi
    simp only [BitVec.getElem_xor, BitVec.getElem_not, Bool.xor_not_self, BitVec.getElem_allOnes]
  rw [rfcCrcStep, all]
  rfl

/-- The FCS `rfc_calc_fcs` computes over some bytes checks, under `rfc_check_fcs`, over them. -/
theorem rfcCheckFcs_calc (len : Nat) (p : List UInt8) :
    rfcCheckFcs len p (rfcCalcFcs len p) = true := by
  unfold rfcCheckFcs rfcCalcFcs
  rw [rfcCrcStep_complement]
  rfl

/-- **`rfc_check_fcs` accepts exactly the FCS `rfc_calc_fcs` computes** over the same bytes. -/
theorem rfcCheckFcs_iff (len : Nat) (p : List UInt8) (receivedFcs : UInt8) :
    rfcCheckFcs len p receivedFcs = true ↔ receivedFcs = rfcCalcFcs len p := by
  refine ⟨fun checks => ?_, fun sent => sent ▸ rfcCheckFcs_calc len p⟩
  -- both bytes take the CRC to `0xCF`, and its last step is injective
  have same := (beq_iff_eq.1 checks).trans (beq_iff_eq.1 (rfcCheckFcs_calc len p)).symm
  exact rfcCrcStep_inj same

/-! ## What `rfc_parse_data` reads -/

/-- The FCS check reads only the bytes it covers. -/
theorem rfcCheckFcs_take {k len : Nat} (le : k ≤ len) (p : List UInt8) (receivedFcs : UInt8) :
    rfcCheckFcs k (p.take len) receivedFcs = rfcCheckFcs k p receivedFcs := by
  rw [rfcCheckFcs, rfcCheckFcs, List.take_take, Nat.min_eq_left le]

theorem rfcFrameEvent_take (mcb : RfcMcb) (frame : MxFrame) (infoLen : Nat) {len : Nat}
    (header : rfcommCtrlFrameLen ≤ len) (p : List UInt8) (fcs : UInt8) :
    rfcFrameEvent mcb frame infoLen (p.take len) fcs = rfcFrameEvent mcb frame infoLen p fcs := by
  have two : 2 ≤ len := by unfold rfcommCtrlFrameLen at header; omega
  simp only [rfcFrameEvent, rfcCheckFcs_take header, rfcCheckFcs_take two]

/-- The end of `rfc_parse_data` reads the credit byte and the FCS inside the frame. -/
theorem rfcParseInfo_take (mcb : RfcMcb) (frame : MxFrame) (p : List UInt8) {len hdrLen : Nat}
    (infoLen : Nat) (header : rfcommCtrlFrameLen ≤ len) (fits : hdrLen + 1 ≤ len) :
    rfcParseInfo mcb frame (p.take len) len hdrLen infoLen =
      rfcParseInfo mcb frame p len hdrLen infoLen := by
  have read : ∀ i, i < len → (p.take len).getD i 0 = p.getD i 0 := fun i lt =>
    AdjacentSwap.getD_take lt 0
  unfold rfcParseInfo
  by_cases credited : mcb.flow = portFcCredit ∧ frame.type = rfcommUih ∧
    frame.dlci ≠ rfcommMxDlci ∧ frame.pf = 1
  · by_cases empty : len - (hdrLen + 1) < 1
    · simp only [credited, empty, ne_eq, not_false_eq_true, and_self, if_true]
    · -- the credit byte follows the header
      simp only [credited, empty, ne_eq, not_false_eq_true, and_self, and_false, if_false,
        if_true, read hdrLen (by omega)]
      split_ifs with same
      · rw [read _ (by omega), rfcFrameEvent_take mcb _ _ header]
      · rfl
  · simp only [credited, false_and, if_false]
    split_ifs with wrong
    · rfl
    · rw [read _ (by omega), rfcFrameEvent_take mcb _ _ header]

/-- `rfc_parse_data` reads nothing past the `p_buf->len` bytes of the frame: the bytes behind it
do not change what it returns. -/
theorem rfcParseFrame_take (mcb : RfcMcb) (frame : MxFrame) (p : List UInt8) (len : Nat) :
    rfcParseFrame mcb frame (p.take len) len = rfcParseFrame mcb frame p len := by
  have read : ∀ i, i < len → (p.take len).getD i 0 = p.getD i 0 := fun i lt =>
    AdjacentSwap.getD_take lt 0
  unfold rfcParseFrame
  dsimp only
  by_cases short : len < rfcommCtrlFrameLen
  · rw [if_pos short, if_pos short]
  rw [if_neg short, if_neg short]
  have header : rfcommCtrlFrameLen ≤ len := Nat.le_of_not_lt short
  have three : 3 ≤ len := header
  -- the address, control and first length byte lie inside every frame
  simp only [read 0 (by omega), read 1 (by omega), read 2 (by omega)]
  by_cases ead : p.getD 0 0 &&& rfcommEa = 0
  · simp only [if_pos ead]
  simp only [if_neg ead]
  by_cases eal : p.getD 2 0 &&& rfcommEa = 0
  · by_cases more : len > rfcommCtrlFrameLen
    · -- a second length byte is read only when the frame is long enough for it
      have four : 3 < len := more
      simp only [eal, more, not_true_eq_false, and_false, if_false, if_true, read 3 four]
      split_ifs
      · rfl
      · exact rfcParseInfo_take mcb _ p _ header (by omega)
    · simp only [eal, more, not_false_eq_true, and_self, if_true]
  · simp only [eal, false_and, if_false]
    split_ifs
    · rfl
    · exact rfcParseInfo_take mcb _ p _ header (by omega)

/-- `rfc_parse_data` on a buffer is `rfc_parse_data` on the message it holds. -/
theorem rfcParseData_eq (mcb : RfcMcb) (frame : MxFrame) (b : BtHdr) :
    rfcParseData mcb frame b =
      let r := rfcParseFrame mcb frame b.msg b.len
      (r.1, r.2.1, ⟨b.offset + r.2.2.1, r.2.2.2, b.data⟩) := by
  rw [rfcParseData, BtHdr.msg, rfcParseFrame_take]

/-- **`rfc_parse_data` reads the message and nothing else**: two buffers with the same length and
the same bytes from their offsets give the same event and the same frame fields, and move their
offsets as far. No byte before the offset or past `len` bytes from it is read. -/
theorem rfcParseData_msg (mcb : RfcMcb) (frame : MxFrame) {b b' : BtHdr} (hlen : b.len = b'.len)
    (hmsg : b.msg = b'.msg) :
    (rfcParseData mcb frame b).1 = (rfcParseData mcb frame b').1 ∧
      (rfcParseData mcb frame b).2.1 = (rfcParseData mcb frame b').2.1 ∧
      (rfcParseData mcb frame b).2.2.offset - b.offset =
        (rfcParseData mcb frame b').2.2.offset - b'.offset ∧
      (rfcParseData mcb frame b).2.2.len = (rfcParseData mcb frame b').2.2.len := by
  simp only [rfcParseData_eq, hlen, hmsg, Nat.add_sub_cancel_left, and_self]

/-- The same four bytes at the start of one buffer, and after two bytes of another with a byte
after them. -/
theorem rfcParseData_msg_shifted :
    let b : BtHdr := ⟨0, 4, [0x0B, 0x3F, 0x01, 0x59]⟩
    let b' : BtHdr := ⟨2, 4, [0xFF, 0xFF, 0x0B, 0x3F, 0x01, 0x59, 0x07]⟩
    b.len = b'.len ∧ b.msg = b'.msg ∧
      (rfcParseData ⟨false, 0⟩ ⟨0, 0, 0, 0, 0⟩ b).1 = (rfcParseData ⟨false, 0⟩ ⟨0, 0, 0, 0, 0⟩ b').1 ∧
      (rfcParseData ⟨false, 0⟩ ⟨0, 0, 0, 0, 0⟩ b).2.1 =
        (rfcParseData ⟨false, 0⟩ ⟨0, 0, 0, 0, 0⟩ b').2.1 ∧
      (rfcParseData ⟨false, 0⟩ ⟨0, 0, 0, 0, 0⟩ b).2.2.offset - b.offset =
        (rfcParseData ⟨false, 0⟩ ⟨0, 0, 0, 0, 0⟩ b').2.2.offset - b'.offset ∧
      (rfcParseData ⟨false, 0⟩ ⟨0, 0, 0, 0, 0⟩ b).2.2.len =
        (rfcParseData ⟨false, 0⟩ ⟨0, 0, 0, 0, 0⟩ b').2.2.len :=
  ⟨rfl, by decide, rfcParseData_msg ⟨false, 0⟩ ⟨0, 0, 0, 0, 0⟩ rfl (by decide)⟩

/-! ## The header fields -/

theorem rfcommCr_cases (initiator isCommand : Bool) :
    rfcommCr initiator isCommand = 0 ∨ rfcommCr initiator isCommand = 2 := by
  unfold rfcommCr
  split
  · exact Or.inr rfl
  · exact Or.inl rfl

set_option maxRecDepth 4000 in
/-- The address byte `RFCOMM_FORMAT_CTRL_FIELD` writes gives back, under
`RFCOMM_PARSE_CTRL_FIELD`, EA set, the C/R bit and a DLCI of six bits. -/
theorem rfcAddr_fields {cr dlci : UInt8} (hcr : cr = 0 ∨ cr = 2) (small : dlci.toNat < 64) :
    let a := rfcommEa ||| cr ||| (dlci <<< rfcommShiftDlci)
    a &&& rfcommEa ≠ 0 ∧ (a &&& rfcommCrMask) >>> rfcommShiftCr = cr >>> rfcommShiftCr ∧
      a >>> rfcommShiftDlci = dlci := by
  -- a DLCI is one of 64 values and the C/R bit one of two: all of them are checked
  have all : ∀ n < 64, ∀ c ∈ [(0 : UInt8), 2],
      let a := rfcommEa ||| c ||| (n.toUInt8 <<< rfcommShiftDlci)
      a &&& rfcommEa ≠ 0 ∧ (a &&& rfcommCrMask) >>> rfcommShiftCr = c >>> rfcommShiftCr ∧
        a >>> rfcommShiftDlci = n.toUInt8 := by decide
  have fields := all dlci.toNat small cr (by rcases hcr with rfl | rfl <;> simp)
  have back : dlci.toNat.toUInt8 = dlci := UInt8.ofNat_toNat
  rwa [back] at fields

/-- A length up to 127 takes one byte, with EA set. -/
theorem rfcLenField_short {n : Nat} (short : n ≤ 127) :
    let b := rfcommEa ||| (n <<< rfcommShiftLength1).toUInt8
    b &&& rfcommEa ≠ 0 ∧ b.toNat >>> rfcommShiftLength1 = n := by
  have all : ∀ n < 128,
      let b := rfcommEa ||| (n <<< rfcommShiftLength1).toUInt8
      b &&& rfcommEa ≠ 0 ∧ b.toNat >>> rfcommShiftLength1 = n := by decide
  exact all n (by omega)

/-- A length of any size written into one byte, as `RFCOMM_EA | (len << 1)` in a `uint8_t`,
keeps EA set and only the length's low seven bits. -/
theorem rfcLenField_mod (n : Nat) :
    let b := rfcommEa ||| (n <<< rfcommShiftLength1).toUInt8
    b &&& rfcommEa ≠ 0 ∧ b.toNat >>> rfcommShiftLength1 = n % 128 := by
  have low : (n <<< rfcommShiftLength1).toUInt8 = ((n % 128) <<< rfcommShiftLength1).toUInt8 := by
    apply UInt8.toNat_inj.1
    simp only [rfcommShiftLength1, Nat.toUInt8_eq, UInt8.toNat_ofNat', Nat.shiftLeft_eq]
    omega
  intro b
  simp only [b, low]
  exact rfcLenField_short (by omega)

/-- A longer length takes two bytes, EA clear in the first: the low seven bits and the next
eight, which hold every length below `2^15`. -/
theorem rfcLenField_long {n : Nat} (long : 127 < n) (fits : n < 32768) :
    let b2 := ((n &&& 0x7f) <<< 1).toUInt8
    let b3 := (n >>> rfcommShiftLength2).toUInt8
    b2 &&& rfcommEa = 0 ∧ b2.toNat >>> rfcommShiftLength1 + b3.toNat <<< rfcommShiftLength2 = n := by
  intro b2 b3
  have low : n &&& 0x7f = n % 128 := Nat.and_two_pow_sub_one_eq_mod n 7
  have hb2 : b2.toNat = n % 128 * 2 := by
    simp only [b2, UInt8.toNat_ofNat', low, Nat.shiftLeft_eq]
    omega
  have hb3 : b3.toNat = n / 128 := by
    simp only [b3, UInt8.toNat_ofNat', rfcommShiftLength2, Nat.shiftRight_eq_div_pow]
    omega
  constructor
  · apply UInt8.toNat_inj.1
    have one : rfcommEa.toNat = 1 := rfl
    rw [UInt8.toNat_and, hb2, one, Nat.and_one_is_mod]
    simp
  · rw [hb2, hb3, rfcommShiftLength1, rfcommShiftLength2, Nat.shiftRight_eq_div_pow,
      Nat.shiftLeft_eq]
    omega

/-! ## A well-formed frame

The paths of `rfc_parse_data` that get to the `switch`: the header read field by field, and the
information field checked against the length field. -/

section WellFormed

variable (mcb : RfcMcb) (frame : MxFrame) {p : List UInt8} {len : Nat}

/-- EA set in the address byte and in a one-byte length field: a header of three bytes. -/
theorem rfcParseFrame_eal (ea : p.getD 0 0 &&& rfcommEa ≠ 0) (eal : p.getD 2 0 &&& rfcommEa ≠ 0)
    (fits : 4 ≤ len) :
    rfcParseFrame mcb frame p len =
      rfcParseInfo mcb { frame with
        cr := (p.getD 0 0 &&& rfcommCrMask) >>> rfcommShiftCr
        dlci := p.getD 0 0 >>> rfcommShiftDlci
        type := p.getD 1 0 &&& ~~~rfcommPfMask
        pf := (p.getD 1 0 &&& rfcommPfMask) >>> rfcommPfOffset }
        p len 3 ((p.getD 2 0).toNat >>> rfcommShiftLength1) := by
  have long : ¬len < rfcommCtrlFrameLen := by unfold rfcommCtrlFrameLen; omega
  unfold rfcParseFrame
  simp only [if_neg long, if_neg ea, eal, false_and, if_false, Nat.add_zero]
  rw [if_neg (by omega)]

/-- EA set in the address byte and clear in the length field: a second length byte, and a
header of four bytes. -/
theorem rfcParseFrame_eal_zero (ea : p.getD 0 0 &&& rfcommEa ≠ 0)
    (eal : p.getD 2 0 &&& rfcommEa = 0) (fits : 5 ≤ len) :
    rfcParseFrame mcb frame p len =
      rfcParseInfo mcb { frame with
        cr := (p.getD 0 0 &&& rfcommCrMask) >>> rfcommShiftCr
        dlci := p.getD 0 0 >>> rfcommShiftDlci
        type := p.getD 1 0 &&& ~~~rfcommPfMask
        pf := (p.getD 1 0 &&& rfcommPfMask) >>> rfcommPfOffset }
        p len 4 ((p.getD 2 0).toNat >>> rfcommShiftLength1 +
          (p.getD 3 0).toNat <<< rfcommShiftLength2) := by
  have long : ¬len < rfcommCtrlFrameLen := by unfold rfcommCtrlFrameLen; omega
  have more : len > rfcommCtrlFrameLen := by unfold rfcommCtrlFrameLen; omega
  unfold rfcParseFrame
  simp only [if_neg long, if_neg ea, eal, more, not_true_eq_false, and_false, if_false, if_true]
  rw [if_neg (by omega)]

/-- Without credits, the information field fills the frame up to the FCS. -/
theorem rfcParseInfo_plain {hdrLen infoLen : Nat}
    (plain : ¬(mcb.flow = portFcCredit ∧ frame.type = rfcommUih ∧ frame.dlci ≠ rfcommMxDlci ∧
      frame.pf = 1))
    (fits : hdrLen + infoLen + 1 = len) :
    rfcParseInfo mcb frame p len hdrLen infoLen =
      (rfcFrameEvent mcb { frame with credit := 0 } infoLen p (p.getD (hdrLen + infoLen) 0),
        { frame with credit := 0 }, hdrLen, infoLen) := by
  unfold rfcParseInfo
  have rest : len - (hdrLen + 1) = infoLen := by omega
  simp only [plain, false_and, if_false, Nat.add_zero, Nat.sub_zero, rest]
  rw [if_neg (by omega)]

/-- Under credit-based flow control a UIH frame with P set carries a credit byte after the
header, and the information field fills the frame from there up to the FCS. -/
theorem rfcParseInfo_credited {hdrLen infoLen : Nat}
    (credited : mcb.flow = portFcCredit ∧ frame.type = rfcommUih ∧ frame.dlci ≠ rfcommMxDlci ∧
      frame.pf = 1)
    (fits : hdrLen + infoLen + 2 = len) :
    rfcParseInfo mcb frame p len hdrLen infoLen =
      (rfcFrameEvent mcb { frame with credit := p.getD hdrLen 0 } infoLen p
          (p.getD (hdrLen + 1 + infoLen) 0),
        { frame with credit := p.getD hdrLen 0 }, hdrLen + 1, infoLen) := by
  unfold rfcParseInfo
  have rest : len - (hdrLen + 1) - 1 = infoLen := by omega
  simp only [credited, ne_eq, not_false_eq_true, and_self, true_and, if_true, rest,
    not_true_eq_false, if_false]
  rw [if_neg (by omega)]

end WellFormed

end Rfcomm

import Fluoride.Avct.Fragments

/-!
# AVCTP — reassembly by `avct_lcb_msg_asmbl`

What `avct_lcb_msg_asmbl` does with one packet (`avctLcbMsgAsmbl_single`, `_start`,
`_contEnd`, `_oversized`), and what it makes of the packets `avct_lcb_send_msg` sends: the
START packet opens `p_rx_msg`, its header byte copied over NOSP (`avctLcbMsgAsmbl_startFragment`);
each CONT packet is copied after the bytes before it, and the END packet returns the header byte,
the PID and the message (`replay_sendsTail`, by induction on `SendsTail`), provided the bytes
gathered fit in `p_rx_msg` from the START packet's offset on, NOSP's byte included
(`replay_fragments`); otherwise every packet is dropped (`replay_fragments_of_overflow`).

The two ends put together: `avctLcbSendMsg_packets` says what the loop of `avct_lcb_send_msg`
sends, and `avctLcbSendMsg_reassembled` that the packets give the message back exactly when it
fits. Whatever packets arrive instead, `p_rx_msg` keeps `RxInv` and every message returned is
`Returned` (`avctLcbMsgAsmbl_runs`, from the one-packet `avctLcbMsgAsmbl_rxInv` by the invariant
and reply rules of `Lts.replay`).
-/

namespace Avct

open Stack

/-! ## What `avct_lcb_msg_asmbl` does with one packet -/

/-- A packet too big for a buffer of `BT_DEFAULT_BUFFER_SIZE` is dropped, and the reassembly
left as it was. -/
theorem avctLcbMsgAsmbl_oversized {p : BtHdr} (big : btDefaultBufferSize < btHdrSize + p.offset + p.len)
    (rxMsg : Option BtHdr) : avctLcbMsgAsmbl rxMsg p = (none, rxMsg) := by
  simp [avctLcbMsgAsmbl, big]

section Asmbl

variable {p : BtHdr} {t : UInt8} (pktType : avctPktType (p.data.getD p.offset 0) = t)
  (small : btHdrSize + p.offset + p.len ≤ btDefaultBufferSize)
include pktType small

/-- A SINGLE packet of at least its header is returned as it is, and any reassembly dropped. -/
theorem avctLcbMsgAsmbl_single (single : t = avctPktTypeSingle) (whole : avctHdrLenSingle ≤ p.len)
    (rxMsg : Option BtHdr) : avctLcbMsgAsmbl rxMsg p = (some p, none) := by
  subst single
  have typeLen : avctLcbPktTypeLen.getD avctPktTypeSingle.toNat 0 = avctHdrLenSingle := rfl
  have nonempty : ¬p.len < 1 := by unfold avctHdrLenSingle at whole; omega
  have whole' : ¬p.len < avctLcbPktTypeLen.getD avctPktTypeSingle.toNat 0 := by
    rw [typeLen]
    omega
  simp only [avctLcbMsgAsmbl, nonempty, pktType, whole', Nat.not_lt.2 small, or_false, if_false,
    if_true]

/-- A START packet of at least its header is copied into a new `p_rx_msg`, its header byte over
NOSP, and the offset moved past its data: the reassembly starts again from it. -/
theorem avctLcbMsgAsmbl_start (start : t = avctPktTypeStart) (whole : avctHdrLenStart ≤ p.len)
    (rxMsg : Option BtHdr) :
    avctLcbMsgAsmbl rxMsg p =
      (none, some ⟨p.offset + p.len, p.len - 1,
        (p.data.take (p.offset + p.len) ++ List.replicate (rxBufLen - (p.offset + p.len)) 0).set
          (p.offset + 1)
          ((p.data.take (p.offset + p.len) ++
            List.replicate (rxBufLen - (p.offset + p.len)) 0).getD p.offset 0)⟩) := by
  subst start
  have typeLen : avctLcbPktTypeLen.getD avctPktTypeStart.toNat 0 = avctHdrLenStart := rfl
  have nonempty : ¬p.len < 1 := by unfold avctHdrLenStart at whole; omega
  have whole' : ¬p.len < avctLcbPktTypeLen.getD avctPktTypeStart.toNat 0 := by
    rw [typeLen]
    omega
  have notSingle : avctPktTypeStart ≠ avctPktTypeSingle := by decide
  simp only [avctLcbMsgAsmbl, nonempty, pktType, whole', notSingle, Nat.not_lt.2 small, or_false,
    if_false, if_true]

variable (kind : t = avctPktTypeCont ∨ t = avctPktTypeEnd)
include kind

omit small in
/-- A CONT or END packet with no reassembly in progress is dropped. -/
theorem avctLcbMsgAsmbl_none : avctLcbMsgAsmbl none p = (none, none) := by
  have notSingle : t ≠ avctPktTypeSingle := by rcases kind with rfl | rfl <;> decide
  have notStart : t ≠ avctPktTypeStart := by rcases kind with rfl | rfl <;> decide
  simp only [avctLcbMsgAsmbl, pktType, notSingle, notStart, if_false]
  split_ifs <;> rfl

/-- A CONT or END packet of at least its header byte, with a reassembly in progress: its bytes
after the header byte are copied where the message ends so far, if they fit. A CONT packet moves
the end past them; an END packet returns the message, from the byte after the START packet's
offset, and ends the reassembly. -/
theorem avctLcbMsgAsmbl_contEnd (nonempty : 1 ≤ p.len) (rx : BtHdr) :
    avctLcbMsgAsmbl (some rx) p =
      if rx.offset + (p.len - 1) > rxBufLen then (none, none)
      else if t = avctPktTypeEnd then
        (some ⟨rx.offset - rx.len, rx.len + (p.len - 1),
          rx.data.take rx.offset ++ (p.data.drop (p.offset + 1)).take (p.len - 1) ++
            rx.data.drop (rx.offset + (p.len - 1))⟩, none)
      else
        (none, some ⟨rx.offset + (p.len - 1), rx.len + (p.len - 1),
          rx.data.take rx.offset ++ (p.data.drop (p.offset + 1)).take (p.len - 1) ++
            rx.data.drop (rx.offset + (p.len - 1))⟩) := by
  have notSingle : t ≠ avctPktTypeSingle := by rcases kind with rfl | rfl <;> decide
  have notStart : t ≠ avctPktTypeStart := by rcases kind with rfl | rfl <;> decide
  have typeLen : avctLcbPktTypeLen.getD t.toNat 0 = 1 := by rcases kind with rfl | rfl <;> rfl
  have whole : ¬p.len < avctLcbPktTypeLen.getD t.toNat 0 := by
    rw [typeLen]
    omega
  simp only [avctLcbMsgAsmbl, Nat.not_lt.2 nonempty, pktType, whole, Nat.not_lt.2 small, or_false,
    if_false, notSingle, notStart, avctHdrLenCont]

end Asmbl

/-! ## The CONT and END packets, reassembled -/

section Reassembly

variable {peerMtu : Nat} {label cr : UInt8} {d : List UInt8}

/-- A fragment's header byte stands at its offset, its data after it. -/
theorem fragmentPkt_header (b : UInt8) (rest : List UInt8) (q n : Nat) :
    (fragmentPkt (b :: rest) d q n).data.getD (fragmentPkt (b :: rest) d q n).offset 0 = b := by
  simp [fragmentPkt, List.getD_eq_getElem?_getD]

theorem fragmentPkt_bytes (b : UInt8) (q n : Nat) :
    ((fragmentPkt [b] d q n).data.drop ((fragmentPkt [b] d q n).offset + 1)).take
      ((fragmentPkt [b] d q n).len - 1) = (d.drop q).take n := by
  simp [fragmentPkt, List.drop_append]

section Prepend

variable {q R : Nat} (hq : 1 ≤ q) (held : q + R ≤ d.length)
include hq held

/-- The END packet's header byte stands in front of what is left of the message. -/
theorem prepend_header (b : UInt8) :
    ((⟨q, R, d⟩ : BtHdr).prepend [b]).data.getD ((⟨q, R, d⟩ : BtHdr).prepend [b]).offset 0 = b := by
  have prefix_len : (d.take (q - 1)).length = q - 1 := by
    rw [List.length_take]
    omega
  have atEnd : ∀ A B : List UInt8, (A ++ [b] ++ B).getD A.length 0 = b := fun A B => by
    simp [List.getD_eq_getElem?_getD]
  have header := atEnd (d.take (q - 1)) (d.drop q)
  rw [prefix_len] at header
  exact header

theorem prepend_bytes (b : UInt8) :
    (((⟨q, R, d⟩ : BtHdr).prepend [b]).data.drop (((⟨q, R, d⟩ : BtHdr).prepend [b]).offset + 1)).take
      (((⟨q, R, d⟩ : BtHdr).prepend [b]).len - 1) = (d.drop q).take R := by
  have prefix_len : (d.take (q - 1) ++ [b]).length = q := by
    simp only [List.length_append, List.length_take, List.length_singleton]
    omega
  simp only [BtHdr.prepend, List.length_singleton, Nat.add_sub_cancel,
    show q - 1 + 1 = q by omega]
  rw [List.drop_left' prefix_len]

end Prepend

/-- A `SendsTail` has a packet: the END packet at least. -/
theorem SendsTail.length_pos {q R : Nat} {tail : List BtHdr}
    (sends : SendsTail peerMtu label cr d q R tail) : 0 < tail.length := by
  cases sends <;> simp

variable (hcr : cr < 4)
include hcr

/-- The packets of a `SendsTail` read as CONT packets and then one END packet. -/
theorem SendsTail.map_pktType {q R : Nat} {tail : List BtHdr}
    (sends : SendsTail peerMtu label cr d q R tail) :
    1 ≤ q → q + R ≤ d.length →
      tail.map avctPktTypeOf = List.replicate (tail.length - 1) avctPktTypeCont ++ [avctPktTypeEnd] := by
  induction sends with
  | last nonempty fits =>
    intro hq held
    rw [List.map_singleton, avctPktTypeOf, prepend_header hq held,
      avctPktType_avctBuildHdr label (by decide) hcr]
    rfl
  | @cont q R tail long sends ih =>
    intro hq held
    have count := sends.length_pos
    rw [List.map_cons, ih (by omega) (by omega), avctPktTypeOf, fragmentPkt_header,
      avctPktType_avctBuildHdr label (by decide) hcr, List.length_cons, Nat.add_sub_cancel,
      ← List.cons_append, ← List.replicate_succ, Nat.sub_add_cancel count]

/-- Every packet of a `SendsTail` reads as a CONT or an END packet. -/
theorem SendsTail.pktType_mem {q R : Nat} {tail : List BtHdr}
    (sends : SendsTail peerMtu label cr d q R tail) (hq : 1 ≤ q) (held : q + R ≤ d.length) :
    ∀ p ∈ tail, avctPktType (p.data.getD p.offset 0) = avctPktTypeCont ∨
      avctPktType (p.data.getD p.offset 0) = avctPktTypeEnd := by
  intro p mem
  have read := List.mem_map_of_mem (f := avctPktTypeOf) mem
  rw [sends.map_pktType hcr hq held, List.mem_append, List.mem_replicate, List.mem_singleton] at read
  rcases read with ⟨-, cont⟩ | last
  · exact .inl cont
  · exact .inr last

omit hcr in
/-- With no reassembly in progress, CONT and END packets are all dropped. -/
theorem replay_none_of_contEnd {ps : List BtHdr}
    (kinds : ∀ p ∈ ps, avctPktType (p.data.getD p.offset 0) = avctPktTypeCont ∨
      avctPktType (p.data.getD p.offset 0) = avctPktTypeEnd) :
    Lts.replay avctLcbMsgAsmbl none ps = (List.replicate ps.length none, none) := by
  induction ps with
  | nil => rfl
  | cons p ps ih =>
    rw [Lts.replay_cons, avctLcbMsgAsmbl_none rfl (kinds p List.mem_cons_self),
      ih fun p' mem => kinds p' (List.mem_cons_of_mem _ mem)]
    rfl

variable (hm : 2 ≤ peerMtu) (mtu : btHdrSize + l2capMinOffset + peerMtu ≤ btDefaultBufferSize)
include hm mtu

/-- **The CONT and END packets, taken in order** by a reassembly whose message so far ends at
`w`, `ℓ` bytes after its first byte: each one's bytes are copied where the message ends, and the
END packet returns the message with all of them, when they fit in `p_rx_msg`. By induction on
the packets, one copy each, the copies adding up (`Overwrite.overwrite_append`). -/
theorem replay_sendsTail {q R : Nat} {tail : List BtHdr}
    (sends : SendsTail peerMtu label cr d q R tail) :
    1 ≤ q → q + R ≤ d.length → btHdrSize + q + R ≤ btDefaultBufferSize →
      ∀ {w ℓ : Nat} {D : List UInt8}, D.length = rxBufLen → ℓ ≤ w → w + R ≤ rxBufLen →
        Lts.replay avctLcbMsgAsmbl (some ⟨w, ℓ, D⟩) tail =
          (List.replicate (tail.length - 1) none ++
            [some ⟨w - ℓ, ℓ + R, D.take w ++ (d.drop q).take R ++ D.drop (w + R)⟩], none) := by
  induction sends with
  | @last q R nonempty fits =>
    intro hq held small w ℓ D hD hℓ room
    have type := (prepend_header hq held (avctBuildHdr label avctPktTypeEnd cr)).symm ▸
      avctPktType_avctBuildHdr label (show avctPktTypeEnd < 4 by decide) hcr
    have len : ((⟨q, R, d⟩ : BtHdr).prepend [avctBuildHdr label avctPktTypeEnd cr]).len - 1 = R :=
      by simp [BtHdr.prepend]
    rw [Lts.replay_cons, avctLcbMsgAsmbl_contEnd type (by simp [BtHdr.prepend]; omega) (.inr rfl)
      (by simp [BtHdr.prepend]), prepend_bytes hq held, len]
    dsimp only
    rw [if_neg (by omega), if_pos rfl]
    rfl
  | @cont q R tail long sends ih =>
    intro hq held small w ℓ D hD hℓ room
    have type := (fragmentPkt_header (d := d) (avctBuildHdr label avctPktTypeCont cr) [] q
      (peerMtu - 1)).symm ▸ avctPktType_avctBuildHdr label (show avctPktTypeCont < 4 by decide) hcr
    have len : (fragmentPkt [avctBuildHdr label avctPktTypeCont cr] d q (peerMtu - 1)).len - 1 =
        peerMtu - 1 := by
      simp [fragmentPkt]
    have fragLen : ((d.drop q).take (peerMtu - 1)).length = peerMtu - 1 := by
      simp only [List.length_take, List.length_drop]
      omega
    -- the fragment's bytes are copied where the message ends, and the rest follow them
    rw [Lts.replay_cons, avctLcbMsgAsmbl_contEnd type (by simp [fragmentPkt]; omega) (.inl rfl)
      (by simp [fragmentPkt]), fragmentPkt_bytes, len]
    dsimp only
    rw [if_neg (by omega), if_neg (by decide)]
    dsimp only
    rw [ih (by omega) (by omega) (by omega) ((Overwrite.length_eq (by omega) fragLen).trans hD) (by omega)
      (by omega), Overwrite.overwrite_append (by omega) fragLen]
    have count := sends.length_pos
    rw [Overwrite.take_drop_append d q (by omega), show w + (peerMtu - 1) - (ℓ + (peerMtu - 1)) = w - ℓ by omega,
      show ℓ + (peerMtu - 1) + (R - (peerMtu - 1)) = ℓ + R by omega,
      show w + (peerMtu - 1 + (R - (peerMtu - 1))) = w + R by omega, List.length_cons,
      Nat.add_sub_cancel, show tail.length = tail.length - 1 + 1 by omega, List.replicate_succ]
    rfl

/-- The same packets when their bytes do not fit in `p_rx_msg`: one of them is found too big,
the reassembly is dropped there, and nothing is returned. -/
theorem replay_sendsTail_of_overflow {q R : Nat} {tail : List BtHdr}
    (sends : SendsTail peerMtu label cr d q R tail) :
    1 ≤ q → q + R ≤ d.length → btHdrSize + q + R ≤ btDefaultBufferSize →
      ∀ {w ℓ : Nat} {D : List UInt8}, rxBufLen < w + R →
        Lts.replay avctLcbMsgAsmbl (some ⟨w, ℓ, D⟩) tail = (List.replicate tail.length none, none) := by
  induction sends with
  | @last q R nonempty fits =>
    intro hq held small w ℓ D exceeds
    have type := (prepend_header hq held (avctBuildHdr label avctPktTypeEnd cr)).symm ▸
      avctPktType_avctBuildHdr label (show avctPktTypeEnd < 4 by decide) hcr
    have len : ((⟨q, R, d⟩ : BtHdr).prepend [avctBuildHdr label avctPktTypeEnd cr]).len - 1 = R :=
      by simp [BtHdr.prepend]
    rw [Lts.replay_cons, avctLcbMsgAsmbl_contEnd type (by simp [BtHdr.prepend]; omega) (.inr rfl)
      (by simp [BtHdr.prepend]), len]
    dsimp only
    rw [if_pos (by omega)]
    rfl
  | @cont q R tail long sends ih =>
    intro hq held small w ℓ D exceeds
    have type := (fragmentPkt_header (d := d) (avctBuildHdr label avctPktTypeCont cr) [] q
      (peerMtu - 1)).symm ▸ avctPktType_avctBuildHdr label (show avctPktTypeCont < 4 by decide) hcr
    have len : (fragmentPkt [avctBuildHdr label avctPktTypeCont cr] d q (peerMtu - 1)).len - 1 =
        peerMtu - 1 := by
      simp [fragmentPkt]
    rw [Lts.replay_cons, avctLcbMsgAsmbl_contEnd type (by simp [fragmentPkt]; omega) (.inl rfl)
      (by simp [fragmentPkt]), len]
    dsimp only
    by_cases tooBig : w + (peerMtu - 1) > rxBufLen
    · -- this CONT packet is too big: the rest find no reassembly
      rw [if_pos tooBig]
      dsimp only
      rw [replay_none_of_contEnd (sends.pktType_mem hcr (by omega) (by omega)), List.length_cons,
        List.replicate_succ]
    · rw [if_neg tooBig, if_neg (by decide)]
      dsimp only
      rw [ih (by omega) (by omega) (by omega) (by omega), List.length_cons, List.replicate_succ]

end Reassembly


/-! ## A whole message, sent and reassembled -/

section Message

variable {label cr : UInt8} (pid : UInt16)

section Single

variable (hcr : cr < 4) {msg : BtHdr} (room : avctHdrLenSingle ≤ msg.offset)
  (held : msg.offset + msg.len ≤ msg.data.length)
include hcr room held

/-- The SINGLE packet of a message reads as one, and holds the header byte, the PID and the
message. -/
theorem prepend_single :
    avctPktTypeOf (msg.prepend (avctHdr label cr pid 0 avctPktTypeSingle)) = avctPktTypeSingle ∧
      (msg.prepend (avctHdr label cr pid 0 avctPktTypeSingle)).msg =
        avctBuildHdr label avctPktTypeSingle cr :: uint16ToBeStream pid ++ msg.msg := by
  have hdrLen : (avctHdr label cr pid 0 avctPktTypeSingle).length = avctHdrLenSingle := by
    simp [avctHdr_single, uint16ToBeStream, avctHdrLenSingle]
  have bytes : (msg.prepend (avctHdr label cr pid 0 avctPktTypeSingle)).msg =
      avctBuildHdr label avctPktTypeSingle cr :: uint16ToBeStream pid ++ msg.msg := by
    rw [BtHdr.msg_prepend (hdrLen ▸ room) held, avctHdr_single, List.cons_append]
  refine ⟨?_, bytes⟩
  rw [avctPktTypeOf,
    BtHdr.getD_offset (by simp only [BtHdr.prepend, hdrLen, avctHdrLenSingle]; omega),
    bytes, List.cons_append, List.headD_cons]
  exact avctPktType_avctBuildHdr label (by decide) hcr

/-- The SINGLE packet of a message is returned as it is, whatever was being reassembled. -/
theorem avctLcbMsgAsmbl_singlePkt (small : btHdrSize + msg.offset + msg.len ≤ btDefaultBufferSize)
    (rxMsg : Option BtHdr) :
    avctLcbMsgAsmbl rxMsg (msg.prepend (avctHdr label cr pid 0 avctPktTypeSingle)) =
      (some (msg.prepend (avctHdr label cr pid 0 avctPktTypeSingle)), none) := by
  have hdrLen : (avctHdr label cr pid 0 avctPktTypeSingle).length = avctHdrLenSingle := by
    simp [avctHdr_single, uint16ToBeStream, avctHdrLenSingle]
  exact avctLcbMsgAsmbl_single (prepend_single pid hcr room held).1
    (by simp only [BtHdr.prepend, hdrLen]; omega) rfl (by simp [BtHdr.prepend, hdrLen]) rxMsg

end Single

/-- The START packet of a message: `p_rx_msg` is made of it, its header byte over NOSP, and the
offset moved past its fragment. -/
theorem avctLcbMsgAsmbl_startFragment {d : List UInt8} {b x : UInt8} {P : List UInt8}
    (type : avctPktType b = avctPktTypeStart) (twoBytes : P.length = 2) {q n : Nat}
    (held : q + n ≤ d.length)
    (small : btHdrSize + l2capMinOffset + (n + avctHdrLenStart) ≤ btDefaultBufferSize)
    (rxMsg : Option BtHdr) :
    avctLcbMsgAsmbl rxMsg (fragmentPkt (b :: x :: P) d q n) =
      (none, some ⟨l2capMinOffset + (n + avctHdrLenStart), n + avctHdrLenStart - 1,
        List.replicate l2capMinOffset 0 ++ b :: b :: P ++ (d.drop q).take n ++
          List.replicate (rxBufLen - (l2capMinOffset + (n + avctHdrLenStart))) 0⟩) := by
  have len : (fragmentPkt (b :: x :: P) d q n).len = n + avctHdrLenStart := by
    simp [fragmentPkt, twoBytes, avctHdrLenStart]
  have dataLen : (fragmentPkt (b :: x :: P) d q n).data.length =
      l2capMinOffset + (n + avctHdrLenStart) := by
    simp [fragmentPkt, twoBytes, avctHdrLenStart]
    omega
  rw [avctLcbMsgAsmbl_start ((fragmentPkt_header b (x :: P) q n).symm ▸ type)
    (by rw [len]; exact small) rfl (by rw [len]; unfold avctHdrLenStart; omega) rxMsg, len,
    show (fragmentPkt (b :: x :: P) d q n).offset = l2capMinOffset from rfl,
    List.take_of_length_le dataLen.le]
  -- the header byte, at the offset, copied over NOSP after it
  have header : ∀ Z rest : List UInt8, Z.length = l2capMinOffset →
      (Z ++ b :: x :: rest).getD l2capMinOffset 0 = b ∧
        (Z ++ b :: x :: rest).set (l2capMinOffset + 1) b = Z ++ b :: b :: rest := by
    intro Z rest hZ
    rw [← hZ]
    simp [List.getD_eq_getElem?_getD]
  obtain ⟨atOffset, copied⟩ := header (List.replicate l2capMinOffset 0)
    (P ++ (d.drop q).take n ++ List.replicate (rxBufLen - (l2capMinOffset + (n + avctHdrLenStart))) 0)
    List.length_replicate
  simp only [fragmentPkt, List.append_assoc, List.cons_append] at atOffset copied ⊢
  rw [atOffset, copied]

/-- **A fragmented message reassembled.** The START packet and the packets of `SendsTail` after
it: every packet but the last returns nothing, the END packet returns the START header byte, the
PID and the message, and `p_rx_msg` is left empty, when the message fits in `p_rx_msg` after the
START packet's offset and its four header bytes. -/
theorem replay_fragments (hcr : cr < 4) {peerMtu : Nat} (hm : 5 ≤ peerMtu) {msg : BtHdr}
    (long : peerMtu - avctHdrLenSingle < msg.len) (held : msg.offset + msg.len ≤ msg.data.length)
    (small : btHdrSize + msg.offset + msg.len ≤ btDefaultBufferSize) (nosp : UInt8)
    {tail : List BtHdr}
    (sends : SendsTail peerMtu label cr msg.data (msg.offset + (peerMtu - avctHdrLenStart))
      (msg.len - (peerMtu - avctHdrLenStart)) tail)
    (fits : btHdrSize + msg.len + avctHdrLenStart + l2capMinOffset ≤ btDefaultBufferSize) :
    ∃ r, Lts.replay avctLcbMsgAsmbl none
        (fragmentPkt (avctHdr label cr pid nosp avctPktTypeStart) msg.data msg.offset
          (peerMtu - avctHdrLenStart) :: tail) = (List.replicate tail.length none ++ [some r], none) ∧
      r.msg = avctBuildHdr label avctPktTypeStart cr :: uint16ToBeStream pid ++ msg.msg := by
  have sizes := sizes_eq
  have twoBytes : (uint16ToBeStream pid).length = 2 := rfl
  have fragLen : ((msg.data.drop msg.offset).take (peerMtu - avctHdrLenStart)).length =
      peerMtu - avctHdrLenStart := by
    simp only [List.length_take, List.length_drop]
    omega
  rw [avctHdr_start, Lts.replay_cons, avctLcbMsgAsmbl_startFragment
    (avctPktType_avctBuildHdr label (by decide) hcr) twoBytes (by omega) (by omega) none]
  dsimp only
  have dataLen : (List.replicate l2capMinOffset 0 ++ avctBuildHdr label avctPktTypeStart cr ::
      avctBuildHdr label avctPktTypeStart cr :: uint16ToBeStream pid ++
      (msg.data.drop msg.offset).take (peerMtu - avctHdrLenStart) ++
      List.replicate (rxBufLen - (l2capMinOffset + (peerMtu - avctHdrLenStart + avctHdrLenStart)))
        0).length = rxBufLen := by
    simp only [List.length_append, List.length_replicate, List.length_cons, twoBytes, fragLen]
    omega
  rw [replay_sendsTail hcr (by omega) (by omega) sends (by omega) (by omega) (by omega) dataLen
    (by omega) (by omega)]
  obtain ⟨k, count⟩ : ∃ k, tail.length = k + 1 := ⟨tail.length - 1, by have := sends.length_pos; omega⟩
  rw [count, Nat.add_sub_cancel]
  refine ⟨_, rfl, ?_⟩
  -- the END packet returns the START header byte, the PID, the START fragment and the rest
  have whole := Overwrite.take_drop_append msg.data msg.offset
    (show peerMtu - avctHdrLenStart ≤ msg.len by omega)
  generalize (msg.data.drop msg.offset).take (peerMtu - avctHdrLenStart) = F at whole fragLen ⊢
  have restLen : ((msg.data.drop (msg.offset + (peerMtu - avctHdrLenStart))).take
      (msg.len - (peerMtu - avctHdrLenStart))).length = msg.len - (peerMtu - avctHdrLenStart) := by
    simp only [List.length_take, List.length_drop]
    omega
  generalize (msg.data.drop (msg.offset + (peerMtu - avctHdrLenStart))).take
    (msg.len - (peerMtu - avctHdrLenStart)) = X at whole restLen ⊢
  refine (BtHdr.msg_eq (List.replicate l2capMinOffset 0 ++ [avctBuildHdr label avctPktTypeStart cr])
    (avctBuildHdr label avctPktTypeStart cr :: uint16ToBeStream pid ++ (F ++ X)) ?_ ?_ ?_).trans ?_
  · rw [List.take_left' (by simp [twoBytes, fragLen]; omega)]
    simp
  · simp only [List.length_append, List.length_replicate, List.length_singleton]
    omega
  · simp only [List.length_cons, List.length_append, twoBytes, fragLen, restLen]
    omega
  · rw [whole]
    rfl

/-- A fragmented message whose bytes do not fit in `p_rx_msg` after the START packet's offset and
its four header bytes is dropped: no packet returns anything, and `p_rx_msg` is left empty. -/
theorem replay_fragments_of_overflow (hcr : cr < 4) {peerMtu : Nat} (hm : 5 ≤ peerMtu)
    {msg : BtHdr} (long : peerMtu - avctHdrLenSingle < msg.len)
    (held : msg.offset + msg.len ≤ msg.data.length)
    (small : btHdrSize + msg.offset + msg.len ≤ btDefaultBufferSize) (nosp : UInt8)
    {tail : List BtHdr}
    (sends : SendsTail peerMtu label cr msg.data (msg.offset + (peerMtu - avctHdrLenStart))
      (msg.len - (peerMtu - avctHdrLenStart)) tail)
    (exceeds : btDefaultBufferSize < btHdrSize + msg.len + avctHdrLenStart + l2capMinOffset) :
    Lts.replay avctLcbMsgAsmbl none
        (fragmentPkt (avctHdr label cr pid nosp avctPktTypeStart) msg.data msg.offset
          (peerMtu - avctHdrLenStart) :: tail) = (List.replicate (tail.length + 1) none, none) := by
  have sizes := sizes_eq
  rw [avctHdr_start, Lts.replay_cons]
  by_cases mtu : btHdrSize + l2capMinOffset + peerMtu ≤ btDefaultBufferSize
  · -- the START packet starts the reassembly, and the rest overflows `p_rx_msg`
    rw [avctLcbMsgAsmbl_startFragment (avctPktType_avctBuildHdr label (by decide) hcr) rfl
      (by omega) (by omega) none]
    dsimp only
    rw [replay_sendsTail_of_overflow hcr (by omega) mtu sends (by omega) (by omega) (by omega)
      (by omega)]
    rfl
  · -- the START packet itself is too big, and the rest find no reassembly
    have twoBytes : (uint16ToBeStream pid).length = 2 := rfl
    rw [avctLcbMsgAsmbl_oversized (by simp only [fragmentPkt, List.length_cons, twoBytes]; omega)
      none]
    dsimp only
    rw [replay_none_of_contEnd (sends.pktType_mem hcr (by omega) (by omega))]
    rfl

end Message


/-! ## `avct_lcb_send_msg`, then `avct_lcb_msg_asmbl` -/

section SendAsmbl

variable (peerMtu : Nat) (label cr : UInt8) (pid : UInt16) (msg : BtHdr)

/-- **The packets `avct_lcb_send_msg` sends.** The loop ends, having sent one SINGLE packet for a
message of at most `peer_mtu - 3` bytes, and for a longer one a START packet, CONT packets and
one END packet; each packet has at most `peer_mtu` bytes, and the START packet's NOSP byte is the
number of packets modulo 256. -/
theorem avctLcbSendMsg_packets (hcr : cr < 4) (hm : 5 ≤ peerMtu) (nonempty : 0 < msg.len)
    (room : avctHdrLenSingle ≤ msg.offset) (held : msg.offset + msg.len ≤ msg.data.length) :
    ∃ pkts, avctLcbSendMsg peerMtu label cr pid msg (msg.len + 1) = some pkts ∧
      (∀ p ∈ pkts, p.len ≤ peerMtu) ∧
      if msg.len ≤ peerMtu - avctHdrLenSingle then pkts.map avctPktTypeOf = [avctPktTypeSingle]
      else
        pkts.map avctPktTypeOf =
            avctPktTypeStart :: List.replicate (pkts.length - 2) avctPktTypeCont ++ [avctPktTypeEnd] ∧
          ∃ start rest, pkts = start :: rest ∧
            (start.data.getD (start.offset + 1) 0).toNat = pkts.length % 256 := by
  have sizes := sizes_eq
  by_cases single : msg.len ≤ peerMtu - avctHdrLenSingle
  · refine ⟨_, avctLcbSendMsg_single peerMtu label cr pid msg nonempty single (by omega), ?_, ?_⟩
    · intro p mem
      rw [List.mem_singleton.1 mem]
      simp [BtHdr.prepend, avctHdr_single, uint16ToBeStream]
      omega
    · rw [if_pos single, List.map_singleton, (prepend_single pid hcr room held).1]
  · obtain ⟨tail, send, sends⟩ := avctLcbSendMsg_fragments peerMtu label cr pid msg hm
      (Nat.lt_of_not_le single)
    have count := sends.length_eq (by omega)
    refine ⟨_, send, ?_, ?_⟩
    · -- the START packet is `peer_mtu` bytes, the others at most
      intro p mem
      rcases List.mem_cons.1 mem with rfl | later
      · simp [fragmentPkt, avctHdr_start, uint16ToBeStream]
        omega
      · exact sends.len_le (by omega) p later
    · rw [if_neg single, List.map_cons, sends.map_pktType hcr (by omega) (by omega), avctPktTypeOf,
        avctHdr_start, fragmentPkt_header, avctPktType_avctBuildHdr label (by decide) hcr]
      refine ⟨by simp, _, _, rfl, ?_⟩
      -- NOSP, the byte after the START header byte, counts the packets
      have nosp : (fragmentPkt (avctBuildHdr label avctPktTypeStart cr ::
          avctNosp peerMtu msg.len :: uint16ToBeStream pid) msg.data msg.offset
          (peerMtu - avctHdrLenStart)).data.getD (l2capMinOffset + 1) 0 = avctNosp peerMtu msg.len := by
        simp [fragmentPkt, List.getD_eq_getElem?_getD]
      rw [show (fragmentPkt _ msg.data msg.offset _).offset = l2capMinOffset from rfl, nosp,
        avctNosp_eq peerMtu hm (Nat.lt_of_not_le single), List.length_cons, count]
      simp

/-- A message of four bytes on a link of MTU 5: a START packet and an END packet. -/
theorem avctLcbSendMsg_packets_five :
    let msg : BtHdr := ⟨3, 4, [0, 0, 0, 1, 2, 3, 4]⟩
    (2 : UInt8) < 4 ∧ 5 ≤ 5 ∧ 0 < msg.len ∧ avctHdrLenSingle ≤ msg.offset ∧
      msg.offset + msg.len ≤ msg.data.length ∧
      ∃ pkts, avctLcbSendMsg 5 1 2 0x1234 msg (msg.len + 1) = some pkts ∧
        (∀ p ∈ pkts, p.len ≤ 5) ∧
        if msg.len ≤ 5 - avctHdrLenSingle then pkts.map avctPktTypeOf = [avctPktTypeSingle]
        else
          pkts.map avctPktTypeOf =
              avctPktTypeStart :: List.replicate (pkts.length - 2) avctPktTypeCont ++
                [avctPktTypeEnd] ∧
            ∃ start rest, pkts = start :: rest ∧
              (start.data.getD (start.offset + 1) 0).toNat = pkts.length % 256 :=
  ⟨by decide, by decide, by decide, by decide, by decide,
    avctLcbSendMsg_packets 5 1 2 0x1234 _ (by decide) (by decide) (by decide) (by decide)
      (by decide)⟩

/-- **A message through `avct_lcb_send_msg` and `avct_lcb_msg_asmbl`.** The packets sent for a
message, fed in order to an LCB reassembling nothing, give back the message after a header byte
that carries its label and C/R bits and after its PID: the last packet returns it, every other
nothing, and `p_rx_msg` is left empty. That happens exactly when the message fits in
`p_rx_msg`: always for a SINGLE packet, and for fragments when `sizeof(BT_HDR)`, the message, the
four bytes of the START header and `L2CAP_MIN_OFFSET` fit in `BT_DEFAULT_BUFFER_SIZE`; otherwise no
packet returns anything. -/
theorem avctLcbSendMsg_reassembled (hl : label < 16) (hcr : cr < 4) (hm : 5 ≤ peerMtu)
    (nonempty : 0 < msg.len) (room : avctHdrLenSingle ≤ msg.offset)
    (held : msg.offset + msg.len ≤ msg.data.length)
    (small : btHdrSize + msg.offset + msg.len ≤ btDefaultBufferSize) :
    ∃ pkts, avctLcbSendMsg peerMtu label cr pid msg (msg.len + 1) = some pkts ∧
      if msg.len ≤ peerMtu - avctHdrLenSingle ∨
          btHdrSize + msg.len + avctHdrLenStart + l2capMinOffset ≤ btDefaultBufferSize then
        ∃ r b, Lts.replay avctLcbMsgAsmbl none pkts =
            (List.replicate (pkts.length - 1) none ++ [some r], none) ∧
          r.msg = b :: uint16ToBeStream pid ++ msg.msg ∧ b >>> 4 = label ∧ b &&& 3 = cr
      else Lts.replay avctLcbMsgAsmbl none pkts = (List.replicate pkts.length none, none) := by
  by_cases single : msg.len ≤ peerMtu - avctHdrLenSingle
  · refine ⟨_, avctLcbSendMsg_single peerMtu label cr pid msg nonempty single (by omega), ?_⟩
    rw [if_pos (.inl single)]
    refine ⟨_, avctBuildHdr label avctPktTypeSingle cr, ?_, (prepend_single pid hcr room held).2,
      avctBuildHdr_shiftRight label (by decide) hcr hl, avctBuildHdr_and_three label (by decide) hcr⟩
    rw [Lts.replay_cons, avctLcbMsgAsmbl_singlePkt pid hcr room held small none]
    rfl
  · obtain ⟨tail, send, sends⟩ := avctLcbSendMsg_fragments peerMtu label cr pid msg hm
      (Nat.lt_of_not_le single)
    refine ⟨_, send, ?_⟩
    by_cases fits : btHdrSize + msg.len + avctHdrLenStart + l2capMinOffset ≤ btDefaultBufferSize
    · rw [if_pos (.inr fits)]
      obtain ⟨r, replay, bytes⟩ := replay_fragments pid hcr hm (Nat.lt_of_not_le single) held small
        (avctNosp peerMtu msg.len) sends fits
      refine ⟨r, _, ?_, bytes, avctBuildHdr_shiftRight label (by decide) hcr hl,
        avctBuildHdr_and_three label (by decide) hcr⟩
      rw [replay, List.length_cons, Nat.add_sub_cancel]
    · rw [if_neg (not_or.2 ⟨single, fits⟩), replay_fragments_of_overflow pid hcr hm
        (Nat.lt_of_not_le single) held small _ sends (Nat.lt_of_not_le fits), List.length_cons]

/-- The same message, reassembled. -/
theorem avctLcbSendMsg_reassembled_five :
    let msg : BtHdr := ⟨3, 4, [0, 0, 0, 1, 2, 3, 4]⟩
    (1 : UInt8) < 16 ∧ (2 : UInt8) < 4 ∧ 5 ≤ 5 ∧ 0 < msg.len ∧ avctHdrLenSingle ≤ msg.offset ∧
      msg.offset + msg.len ≤ msg.data.length ∧
      btHdrSize + msg.offset + msg.len ≤ btDefaultBufferSize ∧
      ∃ pkts, avctLcbSendMsg 5 1 2 0x1234 msg (msg.len + 1) = some pkts ∧
        if msg.len ≤ 5 - avctHdrLenSingle ∨
            btHdrSize + msg.len + avctHdrLenStart + l2capMinOffset ≤ btDefaultBufferSize then
          ∃ r b, Lts.replay avctLcbMsgAsmbl none pkts =
              (List.replicate (pkts.length - 1) none ++ [some r], none) ∧
            r.msg = b :: uint16ToBeStream 0x1234 ++ msg.msg ∧ b >>> 4 = 1 ∧ b &&& 3 = 2
        else Lts.replay avctLcbMsgAsmbl none pkts = (List.replicate pkts.length none, none) :=
  ⟨by decide, by decide, by decide, by decide, by decide, by decide, by decide,
    avctLcbSendMsg_reassembled 5 1 2 0x1234 _ (by decide) (by decide) (by decide) (by decide)
      (by decide) (by decide) (by decide)⟩

end SendAsmbl


/-! ## `p_rx_msg`, whatever packets arrive -/

section RxInv

/-- What `p_rx_msg` keeps while a message is reassembled in it: the offset, where the next
fragment is copied, lies within its data area, and the message gathered so far, at least the
three bytes of a header, stands before it after the buffer's first byte. -/
structure RxInv (rx : BtHdr) : Prop where
  offset_le : rx.offset ≤ rxBufLen
  len_ge : avctHdrLenSingle ≤ rx.len
  len_lt : rx.len < rx.offset

/-- A message `avct_lcb_msg_asmbl` returns: at least the three bytes of a SINGLE header, and
within a buffer of `BT_DEFAULT_BUFFER_SIZE`. -/
structure Returned (r : BtHdr) : Prop where
  len_ge : avctHdrLenSingle ≤ r.len
  fits : btHdrSize + r.offset + r.len ≤ btDefaultBufferSize

/-- One packet, whatever it holds, keeps `RxInv` and returns only a `Returned` message. -/
theorem avctLcbMsgAsmbl_rxInv {rxMsg : Option BtHdr} (inv : ∀ rx ∈ rxMsg, RxInv rx) (p : BtHdr) :
    (∀ rx ∈ (avctLcbMsgAsmbl rxMsg p).2, RxInv rx) ∧
      ∀ r ∈ (avctLcbMsgAsmbl rxMsg p).1, Returned r := by
  have sizes := sizes_eq
  have dropped : (∀ rx ∈ rxMsg, RxInv rx) ∧ ∀ r ∈ (none : Option BtHdr), Returned r :=
    ⟨inv, by simp⟩
  have nothing : (∀ rx ∈ (none : Option BtHdr), RxInv rx) ∧ ∀ r ∈ (none : Option BtHdr), Returned r :=
    ⟨by simp, by simp⟩
  simp only [avctLcbMsgAsmbl]
  split_ifs with short bad single start big isEnd
  · exact dropped
  · exact dropped
  · -- a SINGLE packet, returned as it is
    have typeLen : avctLcbPktTypeLen.getD avctPktTypeSingle.toNat 0 = avctHdrLenSingle := rfl
    rw [single, typeLen] at bad
    refine ⟨by simp, fun r mem => ?_⟩
    cases mem
    exact ⟨by omega, by omega⟩
  · exact nothing
  · -- a START packet: `p_rx_msg` starts again from it
    have typeLen : avctLcbPktTypeLen.getD avctPktTypeStart.toNat 0 = avctHdrLenStart := rfl
    rw [start, typeLen] at bad
    refine ⟨fun rx mem => ?_, by simp⟩
    cases mem
    exact ⟨by dsimp only; omega, by dsimp only; omega, by dsimp only; omega⟩
  · -- an END packet: the message is returned if its last fragment fits
    rcases rxMsg with _ | rx
    · exact nothing
    · have held := inv rx rfl
      dsimp only
      split_ifs with tooBig
      · exact nothing
      · refine ⟨by simp, fun r mem => ?_⟩
        cases mem
        have := held.len_ge
        have := held.len_lt
        exact ⟨by dsimp only; omega, by dsimp only; omega⟩
  · -- a CONT packet: the fragment is taken if it fits
    rcases rxMsg with _ | rx
    · exact nothing
    · have held := inv rx rfl
      dsimp only
      split_ifs with tooBig
      · exact nothing
      · refine ⟨fun rx' mem => ?_, by simp⟩
        cases mem
        have := held.len_ge
        have := held.len_lt
        exact ⟨by dsimp only; omega, by dsimp only; omega, by dsimp only; omega⟩

/-- **`p_rx_msg` over any sequence of packets.** From an LCB reassembling nothing, whatever
packets arrive and in whatever order, `p_rx_msg`, when there is one, keeps `RxInv`: its offset,
where the next fragment is copied, stays within its data area, past the message gathered so far,
so that the END packet's `offset -= len` never wraps. Every message returned has at least three
bytes and lies within its buffer. -/
theorem avctLcbMsgAsmbl_runs (ps : List BtHdr) :
    (∀ rx ∈ (Lts.replay avctLcbMsgAsmbl none ps).2, RxInv rx) ∧
      ∀ o ∈ (Lts.replay avctLcbMsgAsmbl none ps).1, ∀ r ∈ o, Returned r := by
  have preserved : ∀ (rxMsg : Option BtHdr) (p : BtHdr), (∀ rx ∈ rxMsg, RxInv rx) → True →
      ∀ rx ∈ (avctLcbMsgAsmbl rxMsg p).2, RxInv rx :=
    fun _ p inv _ => (avctLcbMsgAsmbl_rxInv inv p).1
  have allowed : Lts.Allowed (fun _ _ => True) avctLcbMsgAsmbl none ps :=
    Lts.allowed_of_forall _ (fun _ _ => trivial) none ps
  have empty : ∀ rx ∈ (none : Option BtHdr), RxInv rx := by simp
  exact ⟨Lts.replay_invariant _ _ preserved empty allowed,
    Lts.replay_replies _ _ _ preserved (fun _ p inv _ => (avctLcbMsgAsmbl_rxInv inv p).2) empty
      allowed⟩

end RxInv

end Avct

import Fluoride.Avct.LcbAct
import Fluoride.Lib.ByteOrder
import Fluoride.Lib.Overwrite

/-!
# AVCTP — the packets of a message

What `avct_lcb_send_msg` sends (`avctLcbSendMsg_single`, `avctLcbSendMsg_fragments`): a
message that fits goes out as one SINGLE packet, its own buffer with the header byte and the
PID in front; a longer one as a START packet and the CONT and END packets of `SendsTail`,
`(len + 3 - peer_mtu) / (peer_mtu - 1) + 1` of them, each of at most `peer_mtu` bytes. NOSP is
that count plus one, the number of packets, modulo 256 (`avctNosp_eq`).

The header byte `AVCT_BUILD_HDR` writes is read back by `AVCT_PKT_TYPE` and `AVCT_PARSE_HDR`
(`avctPktType_avctBuildHdr`, `avctBuildHdr_shiftRight`, `avctBuildHdr_and_three`).
-/

namespace Avct

open Stack

/-! ## The header byte -/

section Header

variable (label : UInt8) {t cr : UInt8}

theorem toNat_avctBuildHdr (ht : t < 4) (hcr : cr < 4) :
    (avctBuildHdr label t cr).toNat = label.toNat % 16 * 16 + t.toNat * 4 + cr.toNat := by
  have ht' : t.toNat < 4 := ht
  have hcr' : cr.toNat < 4 := hcr
  -- the three fields land on bits of their own, so the `|` are sums
  have low : t.toNat <<< 2 ||| cr.toNat = t.toNat * 4 + cr.toNat :=
    ByteOrder.shiftLeft_or_eq_add (k := 2) hcr'
  have top : (label.toNat <<< 4) % 2 ^ 8 = (label.toNat % 16) <<< 4 := by
    rw [Nat.shiftLeft_eq, Nat.shiftLeft_eq]
    omega
  rw [avctBuildHdr, UInt8.toNat_or, UInt8.toNat_or, UInt8.toNat_shiftLeft, UInt8.toNat_shiftLeft,
    show (4 : UInt8).toNat % 8 = 4 from rfl, show (2 : UInt8).toNat % 8 = 2 from rfl, top,
    Nat.mod_eq_of_lt (show t.toNat <<< 2 < 2 ^ 8 by rw [Nat.shiftLeft_eq]; omega), Nat.or_assoc,
    low, ByteOrder.shiftLeft_or_eq_add (k := 4) (by omega)]
  omega

variable (ht : t < 4) (hcr : cr < 4)
include ht hcr

/-- `AVCT_PKT_TYPE` reads back the packet type `AVCT_BUILD_HDR` wrote. -/
theorem avctPktType_avctBuildHdr : avctPktType (avctBuildHdr label t cr) = t := by
  have ht' : t.toNat < 4 := ht
  have hcr' : cr.toNat < 4 := hcr
  apply UInt8.toNat_inj.1
  rw [avctPktType, UInt8.toNat_and, UInt8.toNat_shiftRight, toNat_avctBuildHdr label ht hcr,
    show (2 : UInt8).toNat % 8 = 2 from rfl, show (3 : UInt8).toNat = 2 ^ 2 - 1 from rfl,
    Nat.and_two_pow_sub_one_eq_mod, Nat.shiftRight_eq_div_pow, show (2 : Nat) ^ 2 = 4 from rfl]
  omega

/-- `AVCT_PARSE_HDR` reads back the label, for a label of four bits. -/
theorem avctBuildHdr_shiftRight (hl : label < 16) : avctBuildHdr label t cr >>> 4 = label := by
  have hl' : label.toNat < 16 := hl
  have ht' : t.toNat < 4 := ht
  have hcr' : cr.toNat < 4 := hcr
  apply UInt8.toNat_inj.1
  rw [UInt8.toNat_shiftRight, toNat_avctBuildHdr label ht hcr,
    show (4 : UInt8).toNat % 8 = 4 from rfl, Nat.shiftRight_eq_div_pow,
    show (2 : Nat) ^ 4 = 16 from rfl]
  omega

/-- `AVCT_PARSE_HDR` reads back the C/R and IPID bits. -/
theorem avctBuildHdr_and_three : avctBuildHdr label t cr &&& 3 = cr := by
  have ht' : t.toNat < 4 := ht
  have hcr' : cr.toNat < 4 := hcr
  apply UInt8.toNat_inj.1
  rw [UInt8.toNat_and, toNat_avctBuildHdr label ht hcr, show (3 : UInt8).toNat = 2 ^ 2 - 1 from rfl,
    Nat.and_two_pow_sub_one_eq_mod, show (2 : Nat) ^ 2 = 4 from rfl]
  omega

end Header

/-! ## What one iteration of `avct_lcb_send_msg` sends -/

/-- The sizes `avct_lcb_send_msg` and `avct_lcb_msg_asmbl` compare, as numbers, for `omega`. -/
theorem sizes_eq : avctHdrLenSingle = 3 ∧ avctHdrLenStart = 4 ∧ avctHdrLenCont = 1 ∧
    avctHdrLenEnd = 1 ∧ l2capMinOffset = 13 ∧ btHdrSize = 8 ∧ btDefaultBufferSize = 4112 ∧
    rxBufLen = 4104 :=
  ⟨rfl, rfl, rfl, rfl, rfl, rfl, rfl, rfl⟩

/-- The packet type of a buffer, as `AVCT_PKT_TYPE` reads it from the byte at its offset. -/
def avctPktTypeOf (b : BtHdr) : UInt8 := avctPktType (b.data.getD b.offset 0)

/-- A fragment in a new buffer: the header, then `len` bytes of `data` from `offset`, at
`L2CAP_MIN_OFFSET`. -/
def fragmentPkt (hdr data : List UInt8) (offset len : Nat) : BtHdr :=
  ⟨l2capMinOffset, len + hdr.length,
    List.replicate l2capMinOffset 0 ++ hdr ++ (data.drop offset).take len⟩

section SendStep

variable (peerMtu : Nat) (label cr : UInt8) (pid : UInt16) (nosp : UInt8)

theorem avctHdr_single :
    avctHdr label cr pid nosp avctPktTypeSingle =
      avctBuildHdr label avctPktTypeSingle cr :: uint16ToBeStream pid := by
  simp [avctHdr, avctPktTypeSingle, avctPktTypeStart]

theorem avctHdr_start :
    avctHdr label cr pid nosp avctPktTypeStart =
      avctBuildHdr label avctPktTypeStart cr :: nosp :: uint16ToBeStream pid := by
  simp [avctHdr]

theorem avctHdr_cont :
    avctHdr label cr pid nosp avctPktTypeCont = [avctBuildHdr label avctPktTypeCont cr] := by
  simp [avctHdr, avctPktTypeCont, avctPktTypeStart, avctPktTypeSingle]

theorem avctHdr_end :
    avctHdr label cr pid nosp avctPktTypeEnd = [avctBuildHdr label avctPktTypeEnd cr] := by
  simp [avctHdr, avctPktTypeEnd, avctPktTypeStart, avctPktTypeSingle]

variable {t : UInt8} {hdr : List UInt8} (hdrEq : avctHdr label cr pid nosp t = hdr)
  (hdrLen : avctLcbPktTypeLen.getD t.toNat 0 = hdr.length)
include hdrEq hdrLen

/-- What is left does not fit after the header: the next `peer_mtu - hdr_len` bytes go out in a
new buffer, and the message moves past them. -/
theorem avctLcbSendStep_fragment (msg : BtHdr) (sent : List BtHdr)
    (long : peerMtu - hdr.length < msg.len) :
    avctLcbSendStep peerMtu label cr pid nosp ⟨msg.len, t, msg, sent⟩ =
      ⟨msg.len - (peerMtu - hdr.length),
        if msg.len - (peerMtu - hdr.length) > peerMtu - 1 then avctPktTypeCont else avctPktTypeEnd,
        ⟨msg.offset + (peerMtu - hdr.length), msg.len - (peerMtu - hdr.length), msg.data⟩,
        sent ++ [fragmentPkt hdr msg.data msg.offset (peerMtu - hdr.length)]⟩ := by
  subst hdrEq
  simp only [avctLcbSendStep, hdrLen]
  simp [long, fragmentPkt, avctHdrLenEnd, Nat.add_comm, List.take_append, List.take_replicate]

/-- What is left fits after the header: the message's own buffer goes out, the header in front,
and the loop ends. -/
theorem avctLcbSendStep_whole (msg : BtHdr) (sent : List BtHdr)
    (fits : msg.len ≤ peerMtu - hdr.length) :
    avctLcbSendStep peerMtu label cr pid nosp ⟨msg.len, t, msg, sent⟩ =
      ⟨0, avctPktTypeEnd, msg.prepend hdr, sent ++ [msg.prepend hdr]⟩ := by
  subst hdrEq
  simp only [avctLcbSendStep, hdrLen]
  simp [Nat.not_lt.2 fits, BtHdr.prepend, avctHdrLenEnd]

end SendStep

/-! ## The CONT and END packets -/

section Tail

variable (peerMtu : Nat) (label cr : UInt8) (data : List UInt8)

/-- The CONT and END packets that carry the `len` bytes of `data` from `offset` on: a CONT packet
with `peer_mtu - 1` of them while more are left, then the message's own buffer as the END
packet. -/
inductive SendsTail : Nat → Nat → List BtHdr → Prop
  | last {offset len : Nat} : 0 < len → len ≤ peerMtu - 1 →
      SendsTail offset len
        [(⟨offset, len, data⟩ : BtHdr).prepend [avctBuildHdr label avctPktTypeEnd cr]]
  | cont {offset len : Nat} {tail : List BtHdr} : peerMtu - 1 < len →
      SendsTail (offset + (peerMtu - 1)) (len - (peerMtu - 1)) tail →
      SendsTail offset len
        (fragmentPkt [avctBuildHdr label avctPktTypeCont cr] data offset (peerMtu - 1) :: tail)

/-- A packet of `d` bytes taken off `len`: one packet fewer to count. -/
theorem div_sub_add_one {len d : Nat} (pos : 0 < d) (long : d < len) :
    (len - d - 1) / d + 1 = (len - 1) / d := by
  rw [Nat.div_eq_sub_div pos (by omega : d ≤ len - 1), show len - 1 - d = len - d - 1 by omega]

/-- From a message being fragmented with `len` bytes left, the loop sends the packets of
`SendsTail`, one a round, and stops. By induction on the fuel. -/
theorem whileLoop_sendsTail (pid : UInt16) (nosp : UInt8) (hm : 2 ≤ peerMtu) :
    ∀ (fuel offset len : Nat) (sent : List BtHdr), 0 < len → (len - 1) / (peerMtu - 1) + 1 < fuel →
      ∃ tail, Loop.whileLoop SendState.sending (avctLcbSendStep peerMtu label cr pid nosp)
          (·.sent) fuel
          ⟨len, if len > peerMtu - 1 then avctPktTypeCont else avctPktTypeEnd, ⟨offset, len, data⟩,
            sent⟩ = some (sent ++ tail) ∧
        SendsTail peerMtu label cr data offset len tail
  | 0, _, _, _, _, enough => absurd enough (Nat.not_lt_zero _)
  | fuel + 1, offset, len, sent, nonempty, enough => by
    rw [Loop.whileLoop_succ_of_cont (show SendState.sending ⟨len, _, _, sent⟩ from
      Nat.pos_iff_ne_zero.1 nonempty)]
    by_cases long : len > peerMtu - 1
    · -- a CONT packet, and `peer_mtu - 1` bytes fewer left
      have fewer := div_sub_add_one (by omega : 0 < peerMtu - 1) long
      rw [if_pos long, avctLcbSendStep_fragment peerMtu label cr pid nosp
        (avctHdr_cont label cr pid nosp) rfl ⟨offset, len, data⟩ sent long]
      simp only [List.length_singleton]
      obtain ⟨tail, run, sends⟩ := whileLoop_sendsTail pid nosp hm fuel (offset + (peerMtu - 1))
        (len - (peerMtu - 1)) (sent ++ [fragmentPkt [avctBuildHdr label avctPktTypeCont cr] data
          offset (peerMtu - 1)]) (by omega) (by omega)
      refine ⟨_ :: tail, ?_, .cont long sends⟩
      rw [run, List.append_assoc, List.singleton_append]
    · -- the END packet, and the loop stops
      rw [if_neg long, avctLcbSendStep_whole peerMtu label cr pid nosp
        (avctHdr_end label cr pid nosp) rfl ⟨offset, len, data⟩ sent (by simpa using long)]
      cases fuel with
      | zero => exact absurd enough (Nat.not_lt.2 (Nat.succ_le_succ (Nat.zero_le _)))
      | succ fuel =>
        rw [Loop.whileLoop_succ_of_not_cont (by simp [SendState.sending])]
        exact ⟨_, rfl, .last nonempty (by omega)⟩

variable {peerMtu label cr data}

/-- `(len - 1) / (peer_mtu - 1) + 1` packets: the bytes left, `peer_mtu - 1` a packet, rounded
up. -/
theorem SendsTail.length_eq {offset len : Nat} {tail : List BtHdr}
    (sends : SendsTail peerMtu label cr data offset len tail) (hm : 2 ≤ peerMtu) :
    tail.length = (len - 1) / (peerMtu - 1) + 1 := by
  induction sends with
  | last nonempty fits => rw [Nat.div_eq_of_lt (by omega)]; rfl
  | cont long _ ih =>
    rw [List.length_cons, ih, div_sub_add_one (by omega) long]

/-- Every packet holds at most `peer_mtu` bytes. -/
theorem SendsTail.len_le {offset len : Nat} {tail : List BtHdr}
    (sends : SendsTail peerMtu label cr data offset len tail) (hm : 1 ≤ peerMtu) :
    ∀ p ∈ tail, p.len ≤ peerMtu := by
  induction sends with
  | last nonempty fits =>
    intro p mem
    rw [List.mem_singleton.1 mem]
    simp only [BtHdr.prepend, List.length_singleton]
    omega
  | cont long _ ih =>
    intro p mem
    rcases List.mem_cons.1 mem with rfl | later
    · simp only [fragmentPkt, List.length_singleton]
      omega
    · exact ih p later

end Tail

/-! ## The packets of a message -/

section Send

variable (peerMtu : Nat) (label cr : UInt8) (pid : UInt16) (msg : BtHdr)

/-- A message that fits in `peer_mtu - 3` bytes goes out as one SINGLE packet: its own buffer,
with the header byte and the PID in front. -/
theorem avctLcbSendMsg_single (nonempty : 0 < msg.len)
    (fits : msg.len ≤ peerMtu - avctHdrLenSingle) {fuel : Nat} (enough : 1 < fuel) :
    avctLcbSendMsg peerMtu label cr pid msg fuel =
      some [msg.prepend (avctHdr label cr pid 0 avctPktTypeSingle)] := by
  obtain ⟨fuel, rfl⟩ : ∃ f, fuel = f + 1 + 1 := ⟨fuel - 2, by omega⟩
  have sending : SendState.sending ⟨msg.len, avctPktTypeSingle, msg, []⟩ :=
    Nat.pos_iff_ne_zero.1 nonempty
  have hdrLen : (avctHdr label cr pid 0 avctPktTypeSingle).length = avctHdrLenSingle := by
    simp [avctHdr_single, uint16ToBeStream, avctHdrLenSingle]
  simp only [avctLcbSendMsg, decide_eq_true fits, if_true]
  rw [Loop.whileLoop_succ_of_cont sending, avctLcbSendStep_whole peerMtu label cr pid 0 rfl
    (by rw [hdrLen]; rfl) msg [] (by rw [hdrLen]; exact fits),
    Loop.whileLoop_succ_of_not_cont (by simp [SendState.sending])]
  rfl

/-- A longer message goes out as a START packet, `peer_mtu - 4` bytes of it after the header
byte, NOSP and the PID, then as the CONT and END packets of `SendsTail` for the rest. -/
theorem avctLcbSendMsg_fragments (hm : 5 ≤ peerMtu) (long : peerMtu - avctHdrLenSingle < msg.len) :
    ∃ tail, avctLcbSendMsg peerMtu label cr pid msg (msg.len + 1) =
        some (fragmentPkt (avctHdr label cr pid (avctNosp peerMtu msg.len) avctPktTypeStart)
          msg.data msg.offset (peerMtu - avctHdrLenStart) :: tail) ∧
      SendsTail peerMtu label cr msg.data (msg.offset + (peerMtu - avctHdrLenStart))
        (msg.len - (peerMtu - avctHdrLenStart)) tail := by
  have long' : peerMtu - 3 < msg.len := long
  have sending : SendState.sending ⟨msg.len, avctPktTypeStart, msg, []⟩ := by
    show msg.len ≠ 0
    omega
  have hdrLen : (avctHdr label cr pid (avctNosp peerMtu msg.len) avctPktTypeStart).length =
      avctHdrLenStart := by
    simp [avctHdr_start, uint16ToBeStream, avctHdrLenStart]
  -- the loop runs once per packet, and a packet carries at least one byte
  have count : (msg.len - (peerMtu - 4) - 1) / (peerMtu - 1) + 1 < msg.len := by
    have := Nat.div_le_self (msg.len - (peerMtu - 4) - 1) (peerMtu - 1)
    omega
  obtain ⟨tail, run, sends⟩ := whileLoop_sendsTail peerMtu label cr msg.data pid
    (avctNosp peerMtu msg.len) (by omega) msg.len (msg.offset + (peerMtu - 4))
    (msg.len - (peerMtu - 4)) [fragmentPkt (avctHdr label cr pid (avctNosp peerMtu msg.len)
      avctPktTypeStart) msg.data msg.offset (peerMtu - 4)] (by omega) count
  refine ⟨tail, ?_, sends⟩
  simp only [avctLcbSendMsg, decide_eq_false (Nat.not_le.2 long), Bool.false_eq_true, if_false]
  rw [Loop.whileLoop_succ_of_cont sending, avctLcbSendStep_fragment peerMtu label cr pid _ rfl
    (by rw [hdrLen]; rfl) msg [] (by rw [hdrLen]; unfold avctHdrLenStart; omega), hdrLen]
  exact run

/-- NOSP is the number of packets, the START packet and those of `SendsTail`, modulo 256. -/
theorem avctNosp_eq {len : Nat} (hm : 5 ≤ peerMtu) (long : peerMtu - avctHdrLenSingle < len) :
    avctNosp peerMtu len = ((len - (peerMtu - avctHdrLenStart) - 1) / (peerMtu - 1) + 2).toUInt8 := by
  have long' : peerMtu - 3 < len := long
  -- `temp`, the bytes after the START packet, is one more than the count's numerator
  have temp : len + avctHdrLenStart - peerMtu = (len - (peerMtu - 4) - 1) + 1 := by
    unfold avctHdrLenStart
    omega
  have succ : ∀ n : Nat, n.toUInt8 + 1 = (n + 1).toUInt8 := fun n => by simp [UInt8.ofNat_add]
  unfold avctNosp
  dsimp only
  rw [temp, Nat.succ_div]
  unfold avctHdrLenStart
  by_cases exact : peerMtu - 1 ∣ len - (peerMtu - 4) - 1 + 1
  · -- the bytes after the START packet fill their packets: the division counts the last one
    rw [if_pos exact, if_neg (not_not.2 (Nat.dvd_iff_mod_eq_zero.1 exact))]
  · rw [if_neg exact, if_pos (fun zero => exact (Nat.dvd_iff_mod_eq_zero.2 zero)), Nat.add_zero,
      succ]

end Send

end Avct

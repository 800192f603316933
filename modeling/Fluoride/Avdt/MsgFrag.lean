import Fluoride.Avdt.Msg

/-!
# AVDTP — fragmenting a signalling message (`avdt_msg_send`)

`avdt_msg_send` sends the message `p_curr_msg` over the signalling channel: in one SINGLE
packet (header byte and signal) when it fits in `peer_mtu - AVDT_LEN_TYPE_SINGLE`, otherwise
in a START packet (header, NOSP, signal), CONT packets and one END packet (header only),
each filling the MTU but the last. The offset of `p_curr_msg` past `AVDT_MSG_OFFSET` marks a
message being fragmented, and `curr_msg_len` counts what is left to send.

The message is the list `payload` of its `len` bytes, starting at `AVDT_MSG_OFFSET`; a
packet is the list of bytes handed to L2CAP. The loop runs uncongested, as a
`Loop.whileLoop`; the comparisons with `peer_mtu - hdr_len` are made in `int`, as in the
source. The sizes of the fragments, `peer_mtu - hdr_len`, are `uint16_t` in the source and
are modelled for `peer_mtu ≥ 3`, where they do not wrap.

NOSP, "number of signal packets", is computed once, from the length and the MTU, as
`(len + 3 - peer_mtu) / (peer_mtu - 1) + 2`. `avdtMsgSend_fragments` counts the packets the
loop really sends, `(len + 2 - peer_mtu) / (peer_mtu - 1) + 2`: the two agree except when
the bytes after the START packet fill the CONT and END packets exactly, where NOSP counts
one packet more (`avdtMsgSend_nosp_overcounts`).
-/

namespace Avdt

def avdtPktTypeSingle : UInt8 := 0
def avdtPktTypeStart : UInt8 := 1
def avdtPktTypeCont : UInt8 := 2
def avdtPktTypeEnd : UInt8 := 3

def avdtLenTypeSingle : Nat := 2
def avdtLenTypeStart : Nat := 3
def avdtLenTypeCont : Nat := 1
def avdtLenTypeEnd : Nat := 1

def l2capMinOffset : Nat := 13
def avdtNumSeps : Nat := 12

/-- `AVDT_MSG_OFFSET`: where a message to send starts in its buffer. -/
def avdtMsgOffset : Nat := l2capMinOffset + avdtNumSeps + avdtLenTypeStart

/-- `AVDT_MSG_BLD_HDR`: label, packet type and message type in one byte. -/
def avdtMsgBldHdr (lbl pkt msg : UInt8) : UInt8 := (lbl <<< 4) ||| (pkt <<< 2) ||| msg

/-- The state of the send loop: `p_curr_msg`'s offset and length while it is not all sent,
`curr_msg_len`, and the packets written so far. -/
structure SendState where
  currMsg : Option (Nat × Nat)
  currMsgLen : Nat
  packets : List (List UInt8)

/-- The loop's condition, uncongested: `p_curr_msg != NULL`. -/
def SendState.sending (st : SendState) : Prop := st.currMsg.isSome = true

instance : DecidablePred SendState.sending := fun st =>
  inferInstanceAs (Decidable (st.currMsg.isSome = true))

section Send

variable (peerMtu : Nat) (label msg sig : UInt8) (payload : List UInt8)

/-- The tail of an iteration: `bufLen` bytes of the message from `offset` sent after
`header`, `curr_msg_len` decreased, and the message finished or moved on. -/
def sendFragment (st : SendState) (offset len bufLen : Nat) (header : List UInt8) :
    SendState :=
  let currMsgLen := st.currMsgLen - bufLen
  { currMsg := if currMsgLen = 0 then none else some (offset + bufLen, len - bufLen)
    currMsgLen := currMsgLen
    packets := st.packets ++ [header ++ ((payload.drop (offset - avdtMsgOffset)).take bufLen)] }

/-- One iteration of the loop of `avdt_msg_send`: the packet type from the offset and the
length left, and the packet it sends. -/
def avdtMsgSendStep (st : SendState) : SendState :=
  match st.currMsg with
  | none => st
  | some (offset, len) =>
    if offset = avdtMsgOffset ∧ (len : Int) ≤ (peerMtu : Int) - avdtLenTypeSingle then
      sendFragment payload st offset len len [avdtMsgBldHdr label avdtPktTypeSingle msg, sig]
    else if offset = avdtMsgOffset then
      let nosp := ((len + avdtLenTypeStart - peerMtu) / (peerMtu - 1) + 2).toUInt8
      sendFragment payload st offset len (peerMtu - avdtLenTypeStart)
        [avdtMsgBldHdr label avdtPktTypeStart msg, nosp, sig]
    else if offset > avdtMsgOffset ∧ (len : Int) > (peerMtu : Int) - avdtLenTypeCont then
      sendFragment payload st offset len (peerMtu - avdtLenTypeCont)
        [avdtMsgBldHdr label avdtPktTypeCont msg]
    else sendFragment payload st offset len len [avdtMsgBldHdr label avdtPktTypeEnd msg]

/-- `avdt_msg_send` on a new message, uncongested, with at most `fuel` iterations: the
packets it sends. -/
def avdtMsgSend (fuel : Nat) : Option (List (List UInt8)) :=
  Loop.whileLoop SendState.sending (avdtMsgSendStep peerMtu label msg sig payload) (·.packets)
    fuel ⟨some (avdtMsgOffset, payload.length), payload.length, []⟩

/-! ## What one iteration sends -/

theorem avdtMsgSendStep_single {len : Nat} (fits : len + avdtLenTypeSingle ≤ peerMtu) :
    avdtMsgSendStep peerMtu label msg sig payload ⟨some (avdtMsgOffset, len), len, []⟩ =
      ⟨none, 0, [[avdtMsgBldHdr label avdtPktTypeSingle msg, sig] ++ payload.take len]⟩ := by
  unfold avdtMsgSendStep
  dsimp only
  rw [if_pos ⟨rfl, by omega⟩]
  simp [sendFragment]

theorem avdtMsgSendStep_start {len : Nat} (hm : 4 ≤ peerMtu)
    (long : peerMtu < len + avdtLenTypeSingle) :
    avdtMsgSendStep peerMtu label msg sig payload ⟨some (avdtMsgOffset, len), len, []⟩ =
      ⟨some (avdtMsgOffset + (peerMtu - 3), len - (peerMtu - 3)), len - (peerMtu - 3),
        [[avdtMsgBldHdr label avdtPktTypeStart msg,
          ((len + avdtLenTypeStart - peerMtu) / (peerMtu - 1) + 2).toUInt8, sig] ++
          payload.take (peerMtu - 3)]⟩ := by
  have notSingle : ¬(avdtMsgOffset = avdtMsgOffset ∧
      (len : Int) ≤ (peerMtu : Int) - avdtLenTypeSingle) := by
    unfold avdtLenTypeSingle at long ⊢
    omega
  unfold avdtMsgSendStep
  dsimp only
  rw [if_neg notSingle, if_pos rfl]
  have left : len - (peerMtu - 3) ≠ 0 := by unfold avdtLenTypeSingle at long; omega
  simp [sendFragment, avdtLenTypeStart, left]

/-- A CONT packet: `peer_mtu - 1` bytes of a message being fragmented that do not fit. -/
theorem avdtMsgSendStep_cont {offset len : Nat} (packets : List (List UInt8))
    (hm : 2 ≤ peerMtu) (fragmenting : avdtMsgOffset < offset) (long : peerMtu - 1 < len) :
    avdtMsgSendStep peerMtu label msg sig payload ⟨some (offset, len), len, packets⟩ =
      ⟨some (offset + (peerMtu - 1), len - (peerMtu - 1)), len - (peerMtu - 1),
        packets ++ [[avdtMsgBldHdr label avdtPktTypeCont msg] ++
          (payload.drop (offset - avdtMsgOffset)).take (peerMtu - 1)]⟩ := by
  unfold avdtMsgSendStep
  dsimp only
  rw [if_neg (by omega), if_neg (by omega),
    if_pos ⟨fragmenting, by unfold avdtLenTypeCont; omega⟩]
  have left : len - (peerMtu - 1) ≠ 0 := by omega
  simp [sendFragment, avdtLenTypeCont, left]

/-- The END packet: the rest of a message being fragmented, which fits. -/
theorem avdtMsgSendStep_end {offset len : Nat} (packets : List (List UInt8))
    (fragmenting : avdtMsgOffset < offset) (fits : len ≤ peerMtu - 1) (hm : 1 ≤ peerMtu) :
    avdtMsgSendStep peerMtu label msg sig payload ⟨some (offset, len), len, packets⟩ =
      ⟨none, 0, packets ++ [[avdtMsgBldHdr label avdtPktTypeEnd msg] ++
        (payload.drop (offset - avdtMsgOffset)).take len]⟩ := by
  unfold avdtMsgSendStep
  dsimp only
  rw [if_neg (by omega), if_neg (by omega), if_neg (by unfold avdtLenTypeCont; omega)]
  simp [sendFragment]

/-! ## The packets of a fragmented message -/

/-- From a message being fragmented with `len` bytes left, the loop sends
`(len - 1) / (peer_mtu - 1)` CONT packets and one END packet. By induction on the fuel, one
CONT packet a round. -/
theorem whileLoop_avdtMsgSendStep_fragments (hm : 2 ≤ peerMtu) :
    ∀ (fuel offset len : Nat) (packets : List (List UInt8)), avdtMsgOffset < offset →
      0 < len → (len - 1) / (peerMtu - 1) + 1 < fuel →
      ∃ tail, Loop.whileLoop SendState.sending (avdtMsgSendStep peerMtu label msg sig payload)
          (·.packets) fuel ⟨some (offset, len), len, packets⟩ = some (packets ++ tail) ∧
        tail.length = (len - 1) / (peerMtu - 1) + 1
  | 0, _, _, _, _, _, enough => absurd enough (Nat.not_lt_zero _)
  | fuel + 1, offset, len, packets, fragmenting, nonempty, enough => by
    rw [Loop.whileLoop_succ_of_cont (show SendState.sending ⟨some (offset, len), len, packets⟩
      from rfl)]
    by_cases long : peerMtu - 1 < len
    · -- a CONT packet, and `peer_mtu - 1` bytes fewer left
      have fewer : (len - 1) / (peerMtu - 1) = (len - (peerMtu - 1) - 1) / (peerMtu - 1) + 1 := by
        rw [Nat.div_eq_sub_div (by omega) (by omega)]
        congr 2
        omega
      rw [avdtMsgSendStep_cont peerMtu label msg sig payload packets hm fragmenting long]
      let cont := [avdtMsgBldHdr label avdtPktTypeCont msg] ++
        (payload.drop (offset - avdtMsgOffset)).take (peerMtu - 1)
      obtain ⟨tail, run, count⟩ := whileLoop_avdtMsgSendStep_fragments hm fuel
        (offset + (peerMtu - 1)) (len - (peerMtu - 1)) (packets ++ [cont]) (by omega) (by omega)
        (by omega)
      refine ⟨cont :: tail, ?_, ?_⟩
      · rw [run, List.append_assoc, List.singleton_append]
      · rw [List.length_cons, count, fewer]
    · -- the END packet, and the loop stops
      have last : (len - 1) / (peerMtu - 1) = 0 := Nat.div_eq_of_lt (by omega)
      rw [avdtMsgSendStep_end peerMtu label msg sig payload packets fragmenting (by omega)
        (by omega)]
      cases fuel with
      | zero => omega
      | succ fuel =>
        rw [Loop.whileLoop_succ_of_not_cont (by simp [SendState.sending])]
        exact ⟨_, rfl, by rw [last]; rfl⟩

/-- A message longer than `peer_mtu - 2` goes out as a START packet, whose second byte is
NOSP, then `(len + 2 - peer_mtu) / (peer_mtu - 1) + 1` CONT and END packets. -/
theorem avdtMsgSend_fragments (hm : 4 ≤ peerMtu)
    (long : peerMtu < payload.length + avdtLenTypeSingle) :
    ∃ packets, avdtMsgSend peerMtu label msg sig payload (payload.length + 2) = some packets ∧
      packets.length = (payload.length + 2 - peerMtu) / (peerMtu - 1) + 2 ∧
      (packets.headD []).getD 1 0 =
        ((payload.length + avdtLenTypeStart - peerMtu) / (peerMtu - 1) + 2).toUInt8 := by
  have long' : peerMtu < payload.length + 2 := long
  have bound : (payload.length + 2 - peerMtu) / (peerMtu - 1) ≤ payload.length + 2 - peerMtu :=
    Nat.div_le_self _ _
  let start := [avdtMsgBldHdr label avdtPktTypeStart msg,
    ((payload.length + avdtLenTypeStart - peerMtu) / (peerMtu - 1) + 2).toUInt8, sig] ++
    payload.take (peerMtu - 3)
  obtain ⟨tail, run, count⟩ := whileLoop_avdtMsgSendStep_fragments peerMtu label msg sig
    payload (by omega) (payload.length + 1) (avdtMsgOffset + (peerMtu - 3))
    (payload.length - (peerMtu - 3)) [start] (by omega) (by omega)
    (by rw [show payload.length - (peerMtu - 3) - 1 = payload.length + 2 - peerMtu by omega]
        omega)
  refine ⟨[start] ++ tail, ?_, ?_, rfl⟩
  · rw [avdtMsgSend, Loop.whileLoop_succ_of_cont (show SendState.sending
        ⟨some (avdtMsgOffset, payload.length), payload.length, []⟩ from rfl),
      avdtMsgSendStep_start peerMtu label msg sig payload hm long, run]
  · rw [List.length_append, count, List.length_singleton,
      show payload.length - (peerMtu - 3) - 1 = payload.length + 2 - peerMtu by omega]
    omega

/-- NOSP against the packets sent: one more exactly when the bytes after the START packet,
`len + 3 - peer_mtu`, are a multiple of `peer_mtu - 1`. -/
theorem avdtMsgSend_nosp_overcounts (hm : 4 ≤ peerMtu)
    (long : peerMtu < payload.length + avdtLenTypeSingle) :
    ∃ packets, avdtMsgSend peerMtu label msg sig payload (payload.length + 2) = some packets ∧
      (packets.headD []).getD 1 0 = (packets.length +
        if (peerMtu - 1) ∣ payload.length + avdtLenTypeStart - peerMtu then 1 else 0).toUInt8 := by
  obtain ⟨packets, run, count, nosp⟩ := avdtMsgSend_fragments peerMtu label msg sig payload hm long
  have long' : peerMtu < payload.length + 2 := long
  refine ⟨packets, run, ?_⟩
  -- `(x + 1) / d` is `x / d`, plus one when `d` divides `x + 1`
  have split := Nat.succ_div (a := payload.length + 2 - peerMtu) (b := peerMtu - 1)
  rw [show payload.length + 2 - peerMtu + 1 = payload.length + avdtLenTypeStart - peerMtu by
    unfold avdtLenTypeStart; omega] at split
  rw [nosp, count, split]
  congr 1
  omega

/-- A message of 92 bytes over an MTU of 48: the 47 bytes after the START packet fill the END
packet, and NOSP counts one packet more. -/
theorem avdtMsgSend_nosp_overcounts_exact_fill :
    ∃ packets, avdtMsgSend 48 0 0 0 (List.replicate 92 0) 94 = some packets ∧
      (packets.headD []).getD 1 0 = (packets.length + 1).toUInt8 := by
  obtain ⟨packets, run, nosp⟩ :=
    avdtMsgSend_nosp_overcounts 48 0 0 0 (List.replicate 92 0) (by decide) (by decide)
  refine ⟨packets, run, ?_⟩
  rw [nosp, if_pos (by decide)]

end Send

/-- A message of 92 bytes over an MTU of 48: a START packet with 45 bytes and an END packet
with the other 47, two packets, under a NOSP of 3. -/
theorem avdtMsgSend_exact_fill_nosp (label msg sig : UInt8) (payload : Vector UInt8 92) :
    ∃ packets, avdtMsgSend 48 label msg sig payload.toList 94 = some packets ∧
      packets.length = 2 ∧ (packets.headD []).getD 1 0 = 3 := by
  obtain ⟨packets, run, count, nosp⟩ :=
    avdtMsgSend_fragments 48 label msg sig payload.toList (by decide) (by simp [avdtLenTypeSingle])
  simp only [Vector.length_toList] at run count nosp
  exact ⟨packets, run, count, nosp⟩

end Avdt

import Fluoride.L2cap.Sar

/-!
# L2CAP LE credit-based channels — segmentation and reassembly (`l2c_fcr.cc`)

On an LE credit-based channel an SDU goes out as K-frames. `l2c_lcc_get_next_xmit_sdu_seg`
cuts the SDU at the head of the transmit hold queue: the first K-frame starts with the SDU
length in two bytes, and every K-frame carries at most `peer_conn_cfg.mps - 4` bytes of
information payload. `l2c_lcc_proc_pdu` rebuilds SDUs from the K-frames that arrive: a
first K-frame opens a reassembly buffer of the announced length, later ones are appended to
it, and a buffer that reaches that length goes up as the SDU.

Results: the K-frames an SDU is cut into are each within the MPS, and a receiver at a
first-segment boundary delivers exactly that SDU from them and is back at a boundary
(`lcc_segments_reassemble_within_mtu`); and whatever K-frames arrive, the reassembly buffer holds less than
the announced length, which is within the local MTU (`lccInv_l2cLccProcPdu`).
-/

namespace L2cap

/-- `tL2CAP_LE_CFG_INFO`: the two fields the segmentation reads. -/
structure LeCfgInfo where
  mtu : UInt16
  mps : UInt16
  deriving DecidableEq, Repr

/-! ## The sender -/

/-- A buffer of the transmit hold queue: the SDU bytes not sent yet, and `event`, which
`l2c_enqueue_peer_data` sets to 0 and `l2c_lcc_get_next_xmit_sdu_seg` to the local CID once
the first K-frame is cut. -/
structure LccSdu where
  data : List UInt8
  event : UInt16
  deriving DecidableEq, Repr

/-- The fields of `tL2C_CCB` the sender reads. A dynamic channel's local CID is
`L2CAP_BASE_APPL_CID` plus its index in the pool (`l2cu_allocate_ccb`). -/
structure LccTx where
  peerConnCfg : LeCfgInfo
  localCid : UInt16
  remoteCid : UInt16
  xmitHoldQ : List LccSdu
  dynamic : l2capBaseApplCid ≤ localCid.toNat

/-- The K-frame with its basic L2CAP header: the length of the information payload, then
the remote CID. -/
def kFrame (remoteCid : UInt16) (payload : List UInt8) : List UInt8 :=
  le16 payload.length ++ le16 remoteCid.toNat ++ payload

/-- `l2c_lcc_get_next_xmit_sdu_seg`: the next K-frame of the SDU at the head of the
transmit hold queue, and whether it is the SDU's last. An SDU whose last piece went out
leaves the queue. The caller only calls it on a nonempty queue. -/
def l2cLccGetNextXmitSduSeg (c : LccTx) : Option (LccTx × List UInt8 × Bool) :=
  match c.xmitHoldQ with
  | [] => none
  | buf :: rest =>
    -- "Length and CID": the basic header is taken off the peer's MPS, in 16 bits
    let maxPdu : UInt16 := c.peerConnCfg.mps - 4
    let firstPdu := buf.event == 0
    let noOfBytesToSend :=
      min buf.data.length (if firstPdu then (maxPdu - 2).toNat else maxPdu.toNat)
    let lastPdu := noOfBytesToSend == buf.data.length
    -- the first K-frame carries the SDU length, `UINT16_TO_STREAM(p, p_buf->len)`
    let sduLength := if firstPdu then le16 buf.data.length else []
    let payload := sduLength ++ buf.data.take noOfBytesToSend
    let buf' : LccSdu := ⟨buf.data.drop noOfBytesToSend, c.localCid⟩
    some ({ c with xmitHoldQ := if lastPdu then rest else buf' :: rest },
      kFrame c.remoteCid payload, lastPdu)

/-- `n` calls of `l2c_lcc_get_next_xmit_sdu_seg` by the link, and the K-frames they hand
it. -/
def lccXmitRun (c : LccTx) : Nat → LccTx × List (List UInt8)
  | 0 => (c, [])
  | n + 1 =>
    match l2cLccGetNextXmitSduSeg c with
    | none => (c, [])
    | some (c', pdu, _) => ((lccXmitRun c' n).1, pdu :: (lccXmitRun c' n).2)

/-! ### One call -/

section Sender

variable {c : LccTx}

theorem localCid_ne_zero (c : LccTx) : c.localCid ≠ 0 := by
  intro zero
  have dynamic := c.dynamic
  rw [zero] at dynamic
  exact absurd dynamic (by decide)

/-- What one K-frame may carry of the SDU: the peer's MPS less the basic header, and less
the SDU length too in the first K-frame. -/
def LccSdu.capacity (buf : LccSdu) (mps : Nat) : Nat := if buf.event = 0 then mps - 6 else mps - 4

/-- With an MPS of at least 7 the 16-bit subtractions of the sender do not wrap. -/
theorem toNat_maxPdu {mps : UInt16} (big : 7 ≤ mps.toNat) (first : Bool) :
    (if first then (mps - 4 - 2).toNat else (mps - 4).toNat) =
      if first then mps.toNat - 6 else mps.toNat - 4 := by
  have four : (mps - 4).toNat = mps.toNat - 4 :=
    UInt16.toNat_sub_of_le _ _ (UInt16.le_iff_toNat_le.mpr (by simp only [UInt16.reduceToNat]; omega))
  have six : (mps - 4 - 2).toNat = mps.toNat - 6 := by
    rw [UInt16.toNat_sub_of_le _ _ (UInt16.le_iff_toNat_le.mpr (by rw [four]; simp only [UInt16.reduceToNat]; omega)),
      four]
    rfl
  cases first
  · exact four
  · exact six

/-- **One call.** The buffer at the head gives its first `capacity` bytes, behind the SDU
length if nothing of it went out yet; it leaves the queue when that was all of it, and is
otherwise marked as started. -/
theorem l2cLccGetNextXmitSduSeg_of_head {buf : LccSdu} {rest : List LccSdu}
    (head : c.xmitHoldQ = buf :: rest) (big : 7 ≤ c.peerConnCfg.mps.toNat) :
    l2cLccGetNextXmitSduSeg c = some
      ({ c with xmitHoldQ :=
          if buf.data.length ≤ buf.capacity c.peerConnCfg.mps.toNat then rest
          else ⟨buf.data.drop (buf.capacity c.peerConnCfg.mps.toNat), c.localCid⟩ :: rest },
        kFrame c.remoteCid ((if buf.event = 0 then le16 buf.data.length else []) ++
          buf.data.take (buf.capacity c.peerConnCfg.mps.toNat)),
        decide (buf.data.length ≤ buf.capacity c.peerConnCfg.mps.toNat)) := by
  have cap := toNat_maxPdu big (buf.event == 0)
  simp only [beq_iff_eq] at cap
  simp only [l2cLccGetNextXmitSduSeg, head, beq_iff_eq, cap]
  rw [← LccSdu.capacity]
  -- the bytes sent are the whole buffer or its first `capacity` bytes
  by_cases fits : buf.data.length ≤ buf.capacity c.peerConnCfg.mps.toNat
  · simp [List.take_of_length_le fits, fits]
  · have more : buf.capacity c.peerConnCfg.mps.toNat < buf.data.length := by omega
    simp [Nat.min_eq_right more.le, fits, more.ne]

theorem lccXmitRun_succ {c c' : LccTx} {pdu : List UInt8} {last : Bool} (n : Nat)
    (h : l2cLccGetNextXmitSduSeg c = some (c', pdu, last)) :
    lccXmitRun c (n + 1) = ((lccXmitRun c' n).1, pdu :: (lccXmitRun c' n).2) := by
  simp only [lccXmitRun, h]

/-! ### A whole SDU -/

/-- **The rest of a started SDU** goes out, call after call, as K-frames whose payloads are
nonempty pieces of at most `mps - 4` bytes that make up the rest; then it leaves the queue.
The induction is on the bytes left. -/
theorem lccXmitRun_started {d : List UInt8} {rest : List LccSdu} {ev : UInt16}
    (big : 7 ≤ c.peerConnCfg.mps.toNat) (started : ev ≠ 0)
    (head : c.xmitHoldQ = ⟨d, ev⟩ :: rest) (nonempty : d ≠ []) :
    ∃ n ps, lccXmitRun c n = ({ c with xmitHoldQ := rest }, ps.map (kFrame c.remoteCid)) ∧
      ps.flatten = d ∧ ps ≠ [] ∧ ∀ p ∈ ps, p ≠ [] ∧ p.length ≤ c.peerConnCfg.mps.toNat - 4 := by
  induction h : d.length using Nat.strong_induction_on generalizing d c ev with
  | _ len ih =>
  have step := l2cLccGetNextXmitSduSeg_of_head head big
  have cap : (⟨d, ev⟩ : LccSdu).capacity c.peerConnCfg.mps.toNat =
      c.peerConnCfg.mps.toNat - 4 := if_neg started
  simp only [cap, if_neg started, List.nil_append] at step
  by_cases fits : d.length ≤ c.peerConnCfg.mps.toNat - 4
  · -- the last K-frame takes all that is left
    rw [if_pos fits, List.take_of_length_le fits] at step
    refine ⟨1, [d], ?_, by simp, by simp, ?_⟩
    · rw [lccXmitRun_succ 0 step]
      rfl
    · intro p mem
      rw [List.mem_singleton.mp mem]
      exact ⟨nonempty, fits⟩
  · -- a K-frame of `mps - 4` bytes, and the rest is started still
    rw [if_neg fits] at step
    have shorter : (d.drop (c.peerConnCfg.mps.toNat - 4)).length < len := by
      rw [List.length_drop]
      omega
    have left : d.drop (c.peerConnCfg.mps.toNat - 4) ≠ [] := by
      rw [← List.length_pos_iff, List.length_drop]
      omega
    obtain ⟨n, ps, run, flat, ne, each⟩ := ih _ shorter (c := { c with xmitHoldQ :=
      ⟨d.drop (c.peerConnCfg.mps.toNat - 4), c.localCid⟩ :: rest }) big
      (localCid_ne_zero c) rfl left rfl
    refine ⟨n + 1, d.take (c.peerConnCfg.mps.toNat - 4) :: ps, ?_, ?_, by simp, ?_⟩
    · rw [lccXmitRun_succ n step, run]
      rfl
    · rw [List.flatten_cons, flat, List.take_append_drop]
    · intro p mem
      rcases List.mem_cons.mp mem with rfl | later
      · refine ⟨?_, List.length_take_le _ _⟩
        rw [← List.length_pos_iff, List.length_take]
        omega
      · exact each p later

/-- **A whole SDU** at the head of the queue goes out, call after call, as K-frames: the first
carries the SDU length and the first `mps - 6` bytes, and when that is not all of it, the
others carry the rest in nonempty pieces of at most `mps - 4` bytes. Then the SDU leaves the
queue. -/
theorem lccXmitRun_sdu {d : List UInt8} {rest : List LccSdu} (big : 7 ≤ c.peerConnCfg.mps.toNat)
    (head : c.xmitHoldQ = ⟨d, 0⟩ :: rest) :
    ∃ n ps, lccXmitRun c n = ({ c with xmitHoldQ := rest },
        ((le16 d.length ++ d.take (c.peerConnCfg.mps.toNat - 6)) :: ps).map (kFrame c.remoteCid)) ∧
      d.take (c.peerConnCfg.mps.toNat - 6) ++ ps.flatten = d ∧
      (ps = [] ↔ d.length ≤ c.peerConnCfg.mps.toNat - 6) ∧
      ∀ p ∈ ps, p ≠ [] ∧ p.length ≤ c.peerConnCfg.mps.toNat - 4 := by
  have step := l2cLccGetNextXmitSduSeg_of_head head big
  have cap : (⟨d, 0⟩ : LccSdu).capacity c.peerConnCfg.mps.toNat =
      c.peerConnCfg.mps.toNat - 6 := if_pos rfl
  simp only [cap, if_pos] at step
  by_cases fits : d.length ≤ c.peerConnCfg.mps.toNat - 6
  · -- the SDU fits its first K-frame
    rw [if_pos fits] at step
    refine ⟨1, [], ?_, by simp [List.take_of_length_le fits], by simp [fits], by simp⟩
    rw [lccXmitRun_succ 0 step]
    rfl
  · rw [if_neg fits] at step
    have left : d.drop (c.peerConnCfg.mps.toNat - 6) ≠ [] := by
      rw [← List.length_pos_iff, List.length_drop]
      omega
    obtain ⟨n, ps, run, flat, ne, each⟩ := lccXmitRun_started (c := { c with xmitHoldQ :=
      ⟨d.drop (c.peerConnCfg.mps.toNat - 6), c.localCid⟩ :: rest }) big (localCid_ne_zero c) rfl left
    refine ⟨n + 1, ps, ?_, by rw [flat, List.take_append_drop], by simp [ne, fits], each⟩
    rw [lccXmitRun_succ n step, run]
    rfl

end Sender

/-! ## The receiver -/

/-- What `l2c_lcc_proc_pdu` hands on: an SDU to the channel state machine
(`L2CEVT_L2CAP_DATA`), or a disconnection (`l2cu_disconnect_chnl`). -/
inductive LccOutput where
  | data (sdu : List UInt8)
  | disconnect
  deriving DecidableEq, Repr

/-- The fields of `tL2C_CCB` the receiver reads and writes. `ble_sdu` is the reassembly
buffer's bytes, `none` for `NULL`. -/
structure LccRx where
  localConnCfg : LeCfgInfo
  isFirstSeg : Bool
  bleSdu : Option (List UInt8)
  bleSduLength : Nat
  out : List LccOutput
  deriving DecidableEq, Repr

def LccRx.send (r : LccRx) (o : LccOutput) : LccRx := { r with out := r.out ++ [o] }

/-- The end of `l2c_lcc_proc_pdu`: the payload is copied after the `acc` bytes of the
reassembly buffer, and a buffer that reaches `ble_sdu_length` goes up as the SDU. -/
def lccAppend (r : LccRx) (acc payload : List UInt8) : LccRx :=
  let acc := acc ++ payload
  let r := { r with bleSdu := some acc }
  if acc.length = r.bleSduLength then
    { r.send (.data acc) with isFirstSeg := true, bleSdu := none, bleSduLength := 0 }
  else if acc.length < r.bleSduLength then { r with isFirstSeg := false }
  else r

/-- `l2c_lcc_proc_pdu` on the information payload of a K-frame. `osi_malloc` never returns
`NULL`, so the branch that checks it is left out. -/
def l2cLccProcPdu (r : LccRx) (pdu : List UInt8) : LccRx :=
  -- "Buffer length should not exceed local mps"
  if r.localConnCfg.mps.toNat < pdu.length then r.send .disconnect
  else if r.isFirstSeg then
    if pdu.length < 2 then r
    else
      let sduLength := readLe16 pdu
      if r.localConnCfg.mtu.toNat < sduLength then r.send .disconnect
      -- "Invalid sdu_length": less than the bytes of the first K-frame
      else if sduLength < pdu.length - 2 then r
      else lccAppend { r with bleSdu := some [], bleSduLength := sduLength } [] (pdu.drop 2)
  else
    match r.bleSdu with
    | none => r
    | some acc =>
      -- the room left is computed in `int`
      if (r.bleSduLength : Int) - acc.length < pdu.length then
        { r with isFirstSeg := true, bleSdu := none, bleSduLength := 0 }.send .disconnect
      else lccAppend r acc pdu

section Receiver

variable {r : LccRx}

@[simp] theorem LccRx.send_localConnCfg (o : LccOutput) : (r.send o).localConnCfg = r.localConnCfg :=
  rfl
@[simp] theorem LccRx.send_bleSdu (o : LccOutput) : (r.send o).bleSdu = r.bleSdu := rfl
@[simp] theorem LccRx.send_bleSduLength (o : LccOutput) : (r.send o).bleSduLength = r.bleSduLength :=
  rfl

/-! ### What one K-frame does -/

theorem lccAppend_of_lt {acc p : List UInt8} (short : (acc ++ p).length < r.bleSduLength) :
    lccAppend r acc p = { r with isFirstSeg := false, bleSdu := some (acc ++ p) } := by
  simp only [lccAppend, if_neg (Nat.ne_of_lt short), if_pos short]

theorem lccAppend_of_eq {acc p : List UInt8} (full : (acc ++ p).length = r.bleSduLength) :
    lccAppend r acc p =
      { r with out := r.out ++ [.data (acc ++ p)], isFirstSeg := true, bleSdu := none,
               bleSduLength := 0 } := by
  simp only [lccAppend, if_pos full]
  rfl

/-- A first K-frame within the MPS, whose SDU length is within the MTU and covers the data it
carries, opens a reassembly buffer of that length. -/
theorem l2cLccProcPdu_first {len : Nat} {p : List UInt8} (first : r.isFirstSeg = true)
    (mps : (le16 len ++ p).length ≤ r.localConnCfg.mps.toNat) (mtu : len ≤ r.localConnCfg.mtu.toNat)
    (covers : p.length ≤ len) :
    l2cLccProcPdu r (le16 len ++ p) = lccAppend { r with bleSdu := some [], bleSduLength := len } [] p := by
  have small : len < 65536 := Nat.lt_of_le_of_lt mtu r.localConnCfg.mtu.toNat_lt
  rw [List.length_append, length_le16] at mps
  simp only [l2cLccProcPdu, first, readLe16_le16_append small, List.length_append, length_le16,
    List.drop_left' (length_le16 len), ↓reduceIte]
  rw [if_neg (by omega), if_neg (by omega), if_neg (by omega), if_neg (by omega)]

/-- A later K-frame within the MPS that fits the room left is appended to the reassembly
buffer. -/
theorem l2cLccProcPdu_started {acc p : List UInt8} (started : r.isFirstSeg = false)
    (buffer : r.bleSdu = some acc) (mps : p.length ≤ r.localConnCfg.mps.toNat)
    (room : acc.length + p.length ≤ r.bleSduLength) :
    l2cLccProcPdu r p = lccAppend r acc p := by
  simp only [l2cLccProcPdu, started, buffer, Bool.false_eq_true, ↓reduceIte]
  rw [if_neg (by omega), if_neg (by omega)]

/-! ### A run of K-frames -/

theorem length_flatten_pos {ps : List (List UInt8)} (some : ps ≠ []) (each : ∀ p ∈ ps, p ≠ []) :
    0 < ps.flatten.length := by
  obtain ⟨q, qs, rfl⟩ := List.exists_cons_of_ne_nil some
  rw [List.flatten_cons, List.length_append]
  have := List.length_pos_iff.mpr (each q List.mem_cons_self)
  omega

/-- **The rest of an SDU.** Nonempty K-frames within the MPS that make up the bytes the
reassembly buffer still lacks complete it: the SDU goes up, and the receiver is back at a
first-segment boundary. The induction is on the K-frames. -/
theorem foldl_l2cLccProcPdu_started : ∀ (ps : List (List UInt8)) (r : LccRx) (acc : List UInt8),
    r.isFirstSeg = false → r.bleSdu = some acc → ps ≠ [] →
    (∀ p ∈ ps, p ≠ [] ∧ p.length ≤ r.localConnCfg.mps.toNat) →
    acc.length + ps.flatten.length = r.bleSduLength →
    ps.foldl l2cLccProcPdu r =
      { r with out := r.out ++ [.data (acc ++ ps.flatten)], isFirstSeg := true, bleSdu := none,
               bleSduLength := 0 }
  | [], _, _, _, _, nonempty, _, _ => absurd rfl nonempty
  | p :: ps, r, acc, started, buffer, _, each, total => by
    rw [List.flatten_cons, List.length_append] at total
    have step := l2cLccProcPdu_started started buffer (each p List.mem_cons_self).2 (by omega)
    rw [List.foldl_cons, step]
    by_cases last : ps = []
    · -- the last K-frame fills the buffer
      subst last
      rw [lccAppend_of_eq (by simpa using total)]
      simp
    · have more := length_flatten_pos last fun q mem => (each q (List.mem_cons_of_mem p mem)).1
      rw [lccAppend_of_lt (by rw [List.length_append]; omega),
        foldl_l2cLccProcPdu_started ps { r with isFirstSeg := false, bleSdu := some (acc ++ p) }
          (acc ++ p) rfl rfl last
          (fun q mem => each q (List.mem_cons_of_mem p mem)) (by simp only [List.length_append]; omega)]
      simp

/-! ### The reassembly buffer over every run -/

/-- The reassembly buffer holds less than the announced SDU length, and that length is
within the local MTU. -/
def LccInv (r : LccRx) : Prop :=
  ∀ acc, r.bleSdu = some acc → acc.length < r.bleSduLength ∧ r.bleSduLength ≤ r.localConnCfg.mtu.toNat

theorem lccInv_of_none (idle : r.bleSdu = none) : LccInv r := by
  intro acc buffer
  rw [idle] at buffer
  cases buffer

theorem lccInv_send {o : LccOutput} (inv : LccInv r) : LccInv (r.send o) := inv

/-- Appending data that fits the announced length, itself within the MTU, keeps the
invariant: a buffer that reaches the length goes up and is gone. -/
theorem lccInv_lccAppend {acc p : List UInt8} (room : acc.length + p.length ≤ r.bleSduLength)
    (mtu : r.bleSduLength ≤ r.localConnCfg.mtu.toNat) : LccInv (lccAppend r acc p) := by
  by_cases full : (acc ++ p).length = r.bleSduLength
  · rw [lccAppend_of_eq full]
    exact lccInv_of_none rfl
  · have short : (acc ++ p).length < r.bleSduLength := by
      rw [List.length_append] at full ⊢
      omega
    rw [lccAppend_of_lt short]
    intro acc' buffer
    cases buffer
    exact ⟨short, mtu⟩

@[simp] theorem localConnCfg_lccAppend (acc p : List UInt8) :
    (lccAppend r acc p).localConnCfg = r.localConnCfg := by
  unfold lccAppend
  dsimp only
  split_ifs <;> rfl

@[simp] theorem localConnCfg_l2cLccProcPdu (pdu : List UInt8) :
    (l2cLccProcPdu r pdu).localConnCfg = r.localConnCfg := by
  unfold l2cLccProcPdu
  dsimp only
  split_ifs
  · rfl
  · rfl
  · rfl
  · rfl
  · exact localConnCfg_lccAppend _ _
  · split
    · rfl
    · split_ifs
      · rfl
      · exact localConnCfg_lccAppend _ _

/-- **The invariant is kept by every K-frame**, whatever it carries: each check that drops
the frame or disconnects leaves the buffer as it was or empties it, and an accepted frame
fits the announced length. -/
theorem lccInv_l2cLccProcPdu (inv : LccInv r) (pdu : List UInt8) :
    LccInv (l2cLccProcPdu r pdu) := by
  unfold l2cLccProcPdu
  dsimp only
  split_ifs with tooLong first tooShort tooBig invalid
  · exact lccInv_send inv
  · exact inv
  · exact lccInv_send inv
  · exact inv
  · -- a first K-frame opens a buffer of its announced length
    apply lccInv_lccAppend
    · simp only [List.length_nil, List.length_drop, Nat.zero_add]
      omega
    · simp only
      omega
  · -- a later K-frame: to the buffer if there is one and it fits
    split
    · exact inv
    · rename_i acc buffer
      split_ifs with overflow
      · exact lccInv_send (lccInv_of_none rfl)
      · exact lccInv_lccAppend (by omega) (inv acc buffer).2

theorem lccInv_foldl (inv : LccInv r) (kFrames : List (List UInt8)) :
    LccInv (kFrames.foldl l2cLccProcPdu r) := by
  induction kFrames generalizing r with
  | nil => exact inv
  | cons pdu kFrames ih => exact ih (lccInv_l2cLccProcPdu inv pdu)

@[simp] theorem localConnCfg_foldl (kFrames : List (List UInt8)) :
    (kFrames.foldl l2cLccProcPdu r).localConnCfg = r.localConnCfg := by
  induction kFrames generalizing r with
  | nil => rfl
  | cons pdu kFrames ih => rw [List.foldl_cons, ih, localConnCfg_l2cLccProcPdu]

end Receiver

/-! ## Sender and receiver -/

/-- The SDU at the head of the hold queue, not started yet, is cut by successive calls of
`l2c_lcc_get_next_xmit_sdu_seg` into K-frames of at most the MPS each, which a receiver at a
first-segment boundary, with that MPS and an MTU the SDU fits, delivers as exactly that SDU,
ending back at a boundary with no reassembly buffer. And from a channel with no reassembly
buffer, whatever K-frames arrive, the buffer holds at most the announced length, which is
within the local MTU. -/
theorem lcc_segments_reassemble_within_mtu :
    (∀ (c : LccTx) (data : List UInt8) (rest : List LccSdu) (r : LccRx),
      c.xmitHoldQ = ⟨data, 0⟩ :: rest → 7 ≤ c.peerConnCfg.mps.toNat →
      data.length ≤ r.localConnCfg.mtu.toNat → r.localConnCfg.mps = c.peerConnCfg.mps →
      r.isFirstSeg = true →
      ∃ (n : Nat) (kFrames : List (List UInt8)),
        lccXmitRun c n = ({ c with xmitHoldQ := rest }, kFrames.map (kFrame c.remoteCid)) ∧
        (∀ p ∈ kFrames, p.length ≤ c.peerConnCfg.mps.toNat) ∧
        kFrames.foldl l2cLccProcPdu r =
          { r with out := r.out ++ [.data data], isFirstSeg := true, bleSdu := none,
                   bleSduLength := 0 }) ∧
    ∀ (r : LccRx) (kFrames : List (List UInt8)) (acc : List UInt8), r.bleSdu = none →
      (kFrames.foldl l2cLccProcPdu r).bleSdu = some acc →
      acc.length ≤ (kFrames.foldl l2cLccProcPdu r).bleSduLength ∧
        (kFrames.foldl l2cLccProcPdu r).bleSduLength ≤ r.localConnCfg.mtu.toNat := by
  refine ⟨fun c data rest r head big mtu sameMps first => ?_,
    fun r kFrames acc idle buffer => ?_⟩
  · obtain ⟨n, ps, run, flat, last, each⟩ := lccXmitRun_sdu big head
    have lead : (le16 data.length ++ data.take (c.peerConnCfg.mps.toNat - 6)).length ≤
        c.peerConnCfg.mps.toNat - 4 := by
      rw [List.length_append, length_le16, List.length_take]
      omega
    have within : ∀ p ∈ ps, p ≠ [] ∧ p.length ≤ r.localConnCfg.mps.toNat := fun p mem =>
      ⟨(each p mem).1, by rw [sameMps]; exact (each p mem).2.trans (Nat.sub_le _ _)⟩
    refine ⟨n, _ :: ps, run, ?_, ?_⟩
    · intro p mem
      rcases List.mem_cons.mp mem with rfl | later
      · exact lead.trans (Nat.sub_le _ _)
      · exact (each p later).2.trans (Nat.sub_le _ _)
    -- the first K-frame opens a buffer of the SDU's length
    rw [List.foldl_cons, l2cLccProcPdu_first (p := data.take (c.peerConnCfg.mps.toNat - 6)) first
      (by rw [sameMps]; omega) mtu (List.length_take_le' _ _)]
    by_cases fits : data.length ≤ c.peerConnCfg.mps.toNat - 6
    · -- the SDU fits its first K-frame
      rw [last.mpr fits, List.take_of_length_le fits, lccAppend_of_eq (by simp)]
      simp
    · -- the later K-frames complete it
      have short : ([] ++ data.take (c.peerConnCfg.mps.toNat - 6)).length < data.length := by
        rw [List.nil_append, List.length_take]
        omega
      have more : ps ≠ [] := fun none => fits (last.mp none)
      rw [lccAppend_of_lt short, foldl_l2cLccProcPdu_started ps
        { r with isFirstSeg := false, bleSdu := some ([] ++ data.take (c.peerConnCfg.mps.toNat - 6)),
                 bleSduLength := data.length }
        _ rfl rfl more within (by rw [← List.length_append, List.nil_append, flat]), List.nil_append,
        flat]
  · have inv := lccInv_foldl (lccInv_of_none idle) kFrames acc buffer
    rw [localConnCfg_foldl] at inv
    exact ⟨inv.1.le, inv.2⟩

/-- Five bytes over an MPS of 7 go as three K-frames, of one byte behind the SDU length, then
three and one, and come back whole. -/
example :
    (((lccXmitRun ⟨⟨23, 7⟩, 0x40, 0x41, [⟨[1, 2, 3, 4, 5], 0⟩], by decide⟩ 3).2.map
        (List.drop 4)).foldl l2cLccProcPdu ⟨⟨23, 7⟩, true, none, 0, []⟩).out =
      [.data [1, 2, 3, 4, 5]] := by
  decide

end L2cap

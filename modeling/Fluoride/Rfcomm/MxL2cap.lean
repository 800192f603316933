import Fluoride.Rfcomm.MxFsm
import Fluoride.Lib.Machine

/-!
# RFCOMM — the multiplexer between L2CAP and the ports (`rfc_l2cap_if.cc`)

L2CAP reaches a multiplexer control block through `rfc_lcid_mcb`, the map from local channel
ids to blocks: `rfc_find_lcid_mcb(lcid)` returns the block the channel is mapped to, when that
block is still on the channel. Every L2CAP callback of `rfc_l2cap_if.cc` but
`RFCOMM_ConnectInd` finds its block this way and drops the event when there is none; the state
machine and `RFCOMM_ConnectInd` keep the map with `rfc_save_lcid_mcb`.

The model is one control block and the channels the map sends to it (`RfcMx`), driven by every
input the code has for it (`MxInput`): the L2CAP callbacks, each on the channel it names;
`rfc_on_l2cap_error`; the port layer's `rfc_alloc_multiplexer_channel`, `RFCOMM_StartReq`,
`RFCOMM_StartRsp` and `rfc_check_mcb_active`, and its writes into the block; and the timer.
`RFCOMM_BufDataInd` is modelled from what `rfc_parse_data` returned: the frames for
`rfc_process_mx_message` and for the ports leave the block to the port layer's writes.

The result: over every sequence of inputs from a zeroed block and an empty map, a block that is
not IDLE is found by `rfc_find_lcid_mcb` on its own channel, so that every L2CAP event on that
channel reaches it, but in one case: a restart whose `L2CA_ConnectReq` failed leaves the block
in DISC_WAIT_UA on channel 0 with `restart_required` still set (`rfcFindLcidMcb_reachable`).
The step lemma is `rfcMxInput_lcidMapped`. It rests on `rfcMxSmExecute_lcidMapped` for the
state machine, whose induction follows the calls back into it, and that on one lemma per state
function.
-/

namespace Rfcomm

open Stack

/-- `L2CAP_CONN_OK`. -/
def l2capConnOk : UInt16 := 0

/-! ## `rfc_lcid_mcb` -/

/-- `rfc_save_lcid_mcb(p_mcb, lcid)` seen from one control block: the channels the map sends to
it, once `lcid` is mapped to it (`mapped`) or to `NULL`. -/
def rfcSaveLcidMcb (table : List UInt16) (mapped : Bool) (lcid : UInt16) : List UInt16 :=
  if mapped then lcid :: table.filter (· != lcid) else table.filter (· != lcid)

/-- What an output does to the map: `rfc_save_lcid_mcb`, or nothing. -/
def MxOut.saveLcid (table : List UInt16) : MxOut → List UInt16
  | .l2caConnectReq => table
  | .l2caDisconnectReq _ => table
  | .saveLcidMcb mapped lcid => rfcSaveLcidMcb table mapped lcid
  | .send _ => table
  | .incPortDlci _ => table
  | .portStartCnf _ => table
  | .portCloseInd => table

/-- The map after a step's outputs, in order. -/
def saveLcids (table : List UInt16) (out : List MxOut) : List UInt16 :=
  out.foldl MxOut.saveLcid table

/-- A control block and the channels `rfc_lcid_mcb` maps to it. -/
structure RfcMx where
  mcb : MxMcb
  lcidMcb : List UInt16
  deriving DecidableEq, Repr

/-- A zeroed block that no channel is mapped to. -/
def RfcMx.init : RfcMx := ⟨MxMcb.zero, []⟩

/-- `rfc_find_lcid_mcb(lcid)` returns the block: the channel is mapped to it and the block is
still on it. -/
def rfcFindLcidMcb (s : RfcMx) (lcid : UInt16) : Bool :=
  s.lcidMcb.contains lcid && s.mcb.lcid == lcid

/-- The block after a run of the state machine, and the map after the run's outputs. -/
def RfcMx.apply (s : RfcMx) (r : MxMcb × List MxOut) : RfcMx × List MxOut :=
  (⟨r.1, saveLcids s.lcidMcb r.2⟩, r.2)

@[simp] theorem RfcMx.apply_fst (s : RfcMx) (r : MxMcb × List MxOut) :
    (s.apply r).1 = ⟨r.1, saveLcids s.lcidMcb r.2⟩ := rfl

/-- `rfc_mx_sm_execute(p_mcb, event, p_data)`. -/
def RfcMx.execute (env : MxEnv) (s : RfcMx) (event : RfcMxEvent) : RfcMx × List MxOut :=
  s.apply (rfcMxSmExecute env s.mcb event)

/-- One call after another, with their outputs in order. -/
def RfcMx.andThen (r : RfcMx × List MxOut) (f : RfcMx → RfcMx × List MxOut) :
    RfcMx × List MxOut :=
  ((f r.1).1, r.2 ++ (f r.1).2)

@[simp] theorem RfcMx.andThen_fst (r : RfcMx × List MxOut) (f : RfcMx → RfcMx × List MxOut) :
    (RfcMx.andThen r f).1 = (f r.1).1 := rfl

/-! ## The callers of the state machine -/

/-- `rfc_alloc_multiplexer_channel(bd_addr, is_initiator)` for the block of the peer: a busy
block is found, its inactivity timer stopped if it is CONNECTED; an IDLE one is taken afresh. -/
def rfcAllocMultiplexerChannel (mcb : MxMcb) (isInitiator : Bool) : MxMcb :=
  if mcb.state ≠ .idle then
    if mcb.state = .connected then rfcTimerStop mcb else mcb
  else rfcTimerStart { MxMcb.zero with isInitiator := isInitiator } rfcMcbInitInactTimer

/-- `RFCOMM_ConnectInd`: the peer opens channel `lcid`. A block waiting for its own channel keeps
the peer's as pending and arms the collision timer for 2 to 12 seconds; any other busy block
refuses it; an IDLE block takes it, as acceptor. -/
def rfcommConnectInd (env : MxEnv) (s : RfcMx) (lcid : UInt16) (bootMs : UInt64) :
    RfcMx × List MxOut :=
  let mcb := rfcAllocMultiplexerChannel s.mcb false
  if mcb.state ≠ .idle then
    if mcb.isInitiator = true ∧ mcb.state = .waitConnCnf then
      (⟨rfcTimerStart { mcb with pendingLcid := lcid } (bootMs % 10 + 2).toUInt16, s.lcidMcb⟩, [])
    else (⟨mcb, s.lcidMcb⟩, [.l2caDisconnectReq lcid])
  else
    RfcMx.andThen
      (⟨{ mcb with lcid := lcid }, rfcSaveLcidMcb s.lcidMcb true lcid⟩, [.saveLcidMcb true lcid])
      (·.execute env .connInd)

/-- `RFCOMM_ConnectCnf`: L2CAP's answer to the block's `L2CA_ConnectReq`. With the peer's channel
pending, a refusal is left to the collision timer, and an acceptance closes the peer's
channel. -/
def rfcommConnectCnf (env : MxEnv) (s : RfcMx) (lcid result : UInt16) : RfcMx × List MxOut :=
  if rfcFindLcidMcb s lcid then
    if s.mcb.pendingLcid ≠ 0 then
      if result ≠ l2capConnOk then (s, [])
      else
        RfcMx.andThen
          (⟨{ s.mcb with pendingLcid := 0, lcid := lcid }, s.lcidMcb⟩,
            [.l2caDisconnectReq s.mcb.pendingLcid])
          (·.execute env (.connCnf result))
    else RfcMx.execute env ⟨{ s.mcb with lcid := lcid }, s.lcidMcb⟩ (.connCnf result)
  else (s, [])

/-- `RFCOMM_ConfigInd`: the peer's configuration of channel `lcid`. On a channel no block is on,
it is kept by a block whose pending channel it is, to be replayed if that block retries as
acceptor. -/
def rfcommConfigInd (env : MxEnv) (s : RfcMx) (lcid : UInt16) (cfg : L2capCfgInfo) :
    RfcMx × List MxOut :=
  if rfcFindLcidMcb s lcid then s.execute env (.confInd cfg)
  -- the loop over `rfc_lcid_mcb` meets the block when some channel is mapped to it
  else if s.lcidMcb ≠ [] ∧ s.mcb.pendingLcid = lcid then
    (⟨{ s.mcb with pendingConfigureComplete := true, pendingCfgInfo := cfg }, s.lcidMcb⟩, [])
  else (s, [])

/-- `RFCOMM_ConfigCnf`: `RFCOMM_ConfigInd` first, then CONF_CNF to the block on the channel. -/
def rfcommConfigCnf (env : MxEnv) (s : RfcMx) (lcid : UInt16) (cfg : L2capCfgInfo) :
    RfcMx × List MxOut :=
  RfcMx.andThen (rfcommConfigInd env s lcid cfg) fun s =>
    if rfcFindLcidMcb s lcid then s.execute env .confCnf else (s, [])

/-- `RFCOMM_DisconnectInd`. -/
def rfcommDisconnectInd (env : MxEnv) (s : RfcMx) (lcid : UInt16) : RfcMx × List MxOut :=
  if rfcFindLcidMcb s lcid then s.execute env .discInd else (s, [])

/-- `static_cast<tRFC_MX_EVENT>(event)`: the frame events are the first six of the
multiplexer's, and BAD_FRAME none of them. -/
def RfcEvent.toMx : RfcEvent → Option RfcMxEvent
  | .sabme => some .sabme
  | .ua => some .ua
  | .dm => some .dm
  | .disc => some .disc
  | .uih => some .uih
  | .timeout => some .timeout
  | .badFrame => none

/-- `RFCOMM_BufDataInd` on channel `lcid`, for a frame that `rfc_parse_data` read as `event` on
`dlci`. A bad frame is dropped; on DLCI 0 a UIH frame goes to `rfc_process_mx_message` and any
other to the state machine; a frame on another DLCI goes to its port. -/
def rfcommBufDataInd (env : MxEnv) (s : RfcMx) (lcid : UInt16) (event : RfcEvent) (dlci : UInt8) :
    RfcMx × List MxOut :=
  if rfcFindLcidMcb s lcid then
    if event = .badFrame then (s, [])
    else if dlci = rfcommMxDlci then
      if event = .uih then (s, [])
      else
        match event.toMx with
        | some e => s.execute env e
        | none => (s, [])
    else (s, [])
  else (s, [])

/-- `rfc_on_l2cap_error`: L2CAP failed channel `lcid`. A connection L2CAP itself refused
(`L2CAP_CONN_INTERNAL_MASK`) is retried as acceptor on the peer's pending channel, with the
peer's configuration replayed if it came already, and is CONN_CNF when no channel is pending. A
failed configuration releases the block, the initiator telling its ports first. -/
def rfcOnL2capError (env : MxEnv) (s : RfcMx) (lcid result : UInt16) : RfcMx × List MxOut :=
  if rfcFindLcidMcb s lcid then
    if result &&& l2capConnInternalMask ≠ 0 then
      if s.mcb.pendingLcid ≠ 0 then
        RfcMx.andThen (s.apply ((rfcMxAcceptPending { s.mcb with state := .idle }).run env))
          fun s =>
            if s.mcb.pendingConfigureComplete then
              let s : RfcMx := ⟨{ s.mcb with pendingConfigureComplete := false }, s.lcidMcb⟩
              RfcMx.andThen (s.execute env (.confInd s.mcb.pendingCfgInfo))
                (·.execute env .confCnf)
            else (s, [])
      else RfcMx.execute env ⟨{ s.mcb with lcid := lcid }, s.lcidMcb⟩ (.connCnf result)
    else if result = l2capCfgFailedNoReason then
      RfcMx.andThen
        (if s.mcb.isInitiator then
          RfcMx.andThen (s.apply ((portStartCnf env s.mcb result).run env)) fun s =>
            (s, [.l2caDisconnectReq s.mcb.lcid])
        else (s, []))
        fun s => s.apply ((rfcReleaseMultiplexerChannel s.mcb).run env)
    else (s, [])
  else (s, [])

/-- What the port layer writes into a control block outside the state machine. -/
inductive MxPortWrite
  /-- `p_mcb->port_handles[dlci] = handle`: a port put on the block (`port_open_continue`, a
  SABME on a new DLCI) or taken off it. -/
  | portHandle (dlci : Nat) (handle : UInt8)
  /-- `p_port->rfc.p_mcb->is_disc_initiator = true`, by a port that closes first. -/
  | discInitiator
  /-- The flow control the first PN settles on. -/
  | flow (f : UInt8)
  /-- `p_mcb->peer_ready`, set by FCON and cleared by FCOFF. -/
  | peerReady (ready : Bool)
  deriving DecidableEq, Repr

/-- The port layer's write into the block. -/
def MxPortWrite.write (mcb : MxMcb) : MxPortWrite → MxMcb
  | .portHandle dlci handle => { mcb with portHandles := mcb.portHandles.set dlci handle }
  | .discInitiator => { mcb with isDiscInitiator := true }
  | .flow f => { mcb with flow := f }
  | .peerReady ready => { mcb with peerReady := ready }

/-- Everything that drives a control block. -/
inductive MxInput
  | allocate (isInitiator : Bool)
  | connectInd (lcid : UInt16) (bootMs : UInt64)
  | connectCnf (lcid result : UInt16)
  | configInd (lcid : UInt16) (cfg : L2capCfgInfo)
  | configCnf (lcid : UInt16) (cfg : L2capCfgInfo)
  | disconnectInd (lcid : UInt16)
  | bufDataInd (lcid : UInt16) (event : RfcEvent) (dlci : UInt8)
  | l2capError (lcid result : UInt16)
  | startReq
  | startRsp (result : UInt16)
  | closeReq
  | timeout
  | portWrite (w : MxPortWrite)
  deriving DecidableEq, Repr

/-- One input, with what L2CAP and the port layer answer while it is handled. -/
def rfcMxInput (env : MxEnv) (s : RfcMx) : MxInput → RfcMx × List MxOut
  | .allocate isInitiator => (⟨rfcAllocMultiplexerChannel s.mcb isInitiator, s.lcidMcb⟩, [])
  | .connectInd lcid bootMs => rfcommConnectInd env s lcid bootMs
  | .connectCnf lcid result => rfcommConnectCnf env s lcid result
  | .configInd lcid cfg => rfcommConfigInd env s lcid cfg
  | .configCnf lcid cfg => rfcommConfigCnf env s lcid cfg
  | .disconnectInd lcid => rfcommDisconnectInd env s lcid
  | .bufDataInd lcid event dlci => rfcommBufDataInd env s lcid event dlci
  | .l2capError lcid result => rfcOnL2capError env s lcid result
  -- `RFCOMM_StartReq`, `RFCOMM_StartRsp`, `rfc_check_mcb_active` and the timer's callback
  | .startReq => s.execute env .startReq
  | .startRsp result => s.execute env (.startRsp result)
  | .closeReq => s.execute env .closeReq
  | .timeout => s.execute env .timeout
  | .portWrite w => (⟨w.write s.mcb, s.lcidMcb⟩, [])

/-- The control block as a machine: any input may come in any state. -/
def rfcMxMachine : Lts.Machine RfcMx (MxEnv × MxInput) where
  guard _ _ := True
  exec s i := (rfcMxInput i.1 s i.2).1

/-! ## The map -/

theorem mem_rfcSaveLcidMcb {table : List UInt16} {mapped : Bool} {lcid x : UInt16} :
    x ∈ rfcSaveLcidMcb table mapped lcid ↔
      (x = lcid ∧ mapped = true) ∨ (x ≠ lcid ∧ x ∈ table) := by
  unfold rfcSaveLcidMcb
  cases mapped <;> simp [List.mem_filter, and_comm]

@[simp] theorem saveLcids_nil (table : List UInt16) : saveLcids table [] = table := rfl

@[simp] theorem saveLcids_cons (table : List UInt16) (o : MxOut) (out : List MxOut) :
    saveLcids table (o :: out) = saveLcids (o.saveLcid table) out := rfl

theorem saveLcids_append (table : List UInt16) (out out' : List MxOut) :
    saveLcids table (out ++ out') = saveLcids (saveLcids table out) out' :=
  List.foldl_append

/-- The "update direction bit" loop writes nothing into the map. -/
theorem saveLcids_foldl_rfcMoveToOddDlci (table : List UInt16) (is : List Nat)
    (acc : List UInt8 × List MxOut) :
    saveLcids table (is.foldl rfcMoveToOddDlci acc).2 = saveLcids table acc.2 := by
  induction is generalizing acc with
  | nil => rfl
  | cons i is ih =>
    rw [List.foldl_cons, ih, rfcMoveToOddDlci_snd]
    split
    · rw [saveLcids_append]
      rfl
    · rfl

theorem saveLcids_rfcUpdateDirectionBit (table : List UInt16) (portHandles : List UInt8) :
    saveLcids table (rfcUpdateDirectionBit portHandles).2 = table :=
  saveLcids_foldl_rfcMoveToOddDlci table _ _

/-! ## The invariant -/

/-- The block's channel leads back to it through the map, unless the block is IDLE or a restart
failed to open a channel: then it waits in DISC_WAIT_UA on channel 0, `restart_required` still
set. -/
def LcidMapped (mcb : MxMcb) (table : List UInt16) : Prop :=
  mcb.state = .idle ∨ mcb.lcid ∈ table ∨
    (mcb.state = .discWaitUa ∧ mcb.lcid = 0 ∧ mcb.restartRequired = true)

/-- A busy block in any state but DISC_WAIT_UA is on a mapped channel. -/
theorem LcidMapped.mem {mcb : MxMcb} {table : List UInt16} (h : LcidMapped mcb table)
    (busy : mcb.state ≠ .idle) (open' : mcb.state ≠ .discWaitUa) : mcb.lcid ∈ table := by
  rcases h with idle | mem | ⟨closing, -⟩
  · exact absurd idle busy
  · exact mem
  · exact absurd closing open'

/-- A state function's step keeps the map right: the block's channel is mapped after the step's
outputs, and a CONN_IND passed back comes on a mapped channel. -/
def MxStep.KeepsLcid (table : List UInt16) (s : MxStep) : Prop :=
  LcidMapped s.mcb (saveLcids table s.out) ∧
    (s.next = some .connInd → s.mcb.lcid ∈ saveLcids table s.out)

theorem MxStep.keepsLcid_prepend {table : List UInt16} {out : List MxOut} {s : MxStep} :
    (s.prepend out).KeepsLcid table ↔ s.KeepsLcid (saveLcids table out) := by
  simp only [MxStep.KeepsLcid, MxStep.prepend, saveLcids_append]

/-- A step that leaves the block IDLE and passes no CONN_IND back. -/
theorem keepsLcid_idle {table : List UInt16} {s : MxStep} (idle : s.mcb.state = .idle)
    (next : s.next ≠ some .connInd) : s.KeepsLcid table :=
  ⟨.inl idle, fun h => absurd h next⟩

/-- A step that leaves the block on a mapped channel, writes nothing into the map and passes no
CONN_IND back. -/
theorem keepsLcid_of_mem {table : List UInt16} {s : MxStep} (mem : s.mcb.lcid ∈ table)
    (noSave : saveLcids table s.out = table) (next : s.next ≠ some .connInd) :
    s.KeepsLcid table := by
  refine ⟨.inr (.inl ?_), fun h => absurd h next⟩
  rw [noSave]
  exact mem

theorem portCloseInd_keepsLcid (table : List UInt16) (mcb : MxMcb) :
    (portCloseInd mcb).KeepsLcid table :=
  keepsLcid_idle rfl (by simp [portCloseInd, rfcReleaseMultiplexerChannel, MxStep.prepend])

/-- Whatever a step sends before it tells the ports the multiplexer closed, the block ends
IDLE. -/
theorem portCloseInd_prepend_keepsLcid (table : List UInt16) (out : List MxOut) (mcb : MxMcb) :
    ((portCloseInd mcb).prepend out).KeepsLcid table := by
  rw [MxStep.keepsLcid_prepend]
  exact portCloseInd_keepsLcid _ _

theorem rfcCheckMcbActive_keepsLcid {table : List UInt16} {mcb : MxMcb}
    (h : LcidMapped mcb table) : (rfcCheckMcbActive mcb).KeepsLcid table := by
  unfold rfcCheckMcbActive
  -- each branch leaves the state, the channel and `restart_required` as they were
  split
  · exact ⟨h, by simp⟩
  · split <;> exact ⟨h, by simp⟩

/-- `PORT_StartCnf` keeps the block where it was, or releases it. -/
theorem portStartCnf_keepsLcid (env : MxEnv) {table : List UInt16} {mcb : MxMcb}
    (h : LcidMapped mcb table) (result : UInt16) :
    (portStartCnf env mcb result).KeepsLcid table := by
  unfold portStartCnf
  split
  · split
    · exact ⟨by simpa [MxOut.saveLcid] using h, by simp⟩
    · exact keepsLcid_idle rfl (by simp [rfcReleaseMultiplexerChannel])
  · exact rfcCheckMcbActive_keepsLcid h

theorem rfcMxStartFailed_keepsLcid (env : MxEnv) (table : List UInt16) (mcb : MxMcb) :
    (rfcMxStartFailed env mcb).KeepsLcid table := by
  rw [rfcMxStartFailed, MxStep.keepsLcid_prepend]
  exact portStartCnf_keepsLcid env (.inl rfl) _

/-- The retry as acceptor maps the peer's channel before it passes CONN_IND back. -/
theorem rfcMxAcceptPending_keepsLcid (table : List UInt16) {mcb : MxMcb}
    (idle : mcb.state = .idle) : (rfcMxAcceptPending mcb).KeepsLcid table := by
  refine ⟨.inl idle, fun _ => ?_⟩
  simp only [rfcMxAcceptPending, saveLcids_append, saveLcids_rfcUpdateDirectionBit, saveLcids_cons,
    saveLcids_nil, MxOut.saveLcid, mem_rfcSaveLcidMcb]
  simp

theorem rfcMxConfCnf_keepsLcid {table : List UInt16} {mcb : MxMcb} (mem : mcb.lcid ∈ table) :
    (rfcMxConfCnf mcb).KeepsLcid table := by
  unfold rfcMxConfCnf
  split
  · split
    · exact keepsLcid_of_mem mem (by simp [MxOut.saveLcid]) (by simp)
    · exact keepsLcid_of_mem mem rfl (by simp)
  · exact keepsLcid_of_mem mem rfl (by simp)

/-! ## The state functions

One lemma for each: IDLE's needs CONN_IND to come on a mapped channel, DISC_WAIT_UA's the whole
invariant, and the other five only that the block's channel is mapped. -/

theorem rfcMxSmStateIdle_keepsLcid (env : MxEnv) {table : List UInt16} {mcb : MxMcb}
    (idle : mcb.state = .idle) (event : RfcMxEvent)
    (connInd : event = .connInd → mcb.lcid ∈ table) :
    (rfcMxSmStateIdle env mcb event).KeepsLcid table := by
  cases event <;> simp only [rfcMxSmStateIdle.eq_def]
  case startReq =>
    split
    · rw [MxStep.keepsLcid_prepend]
      refine portStartCnf_keepsLcid env ?_ _
      exact .inl idle
    · exact ⟨.inr (.inl (by simp [MxOut.saveLcid, mem_rfcSaveLcidMcb])), by simp⟩
  case connInd => exact keepsLcid_of_mem (connInd rfl) rfl (by simp)
  all_goals exact keepsLcid_idle idle (by simp)

section Busy

variable (env : MxEnv) {table : List UInt16} {mcb : MxMcb}

theorem rfcMxSmStateWaitConnCnf_keepsLcid (mem : mcb.lcid ∈ table) (event : RfcMxEvent) :
    (rfcMxSmStateWaitConnCnf env mcb event).KeepsLcid table := by
  cases event <;> simp only [rfcMxSmStateWaitConnCnf.eq_def]
  case confInd cfg =>
    exact keepsLcid_of_mem (by simpa [rfcMxConfInd_lcid] using mem) rfl (by simp)
  case connCnf result =>
    split
    · refine portStartCnf_keepsLcid env ?_ _
      exact .inl rfl
    · exact keepsLcid_of_mem mem rfl (by simp)
  case discInd => exact portCloseInd_keepsLcid table _
  case timeout =>
    split
    · rw [MxStep.keepsLcid_prepend]
      exact rfcMxAcceptPending_keepsLcid _ rfl
    · exact portCloseInd_prepend_keepsLcid _ _ _
  all_goals exact keepsLcid_of_mem mem rfl (by simp)

theorem rfcMxSmStateConfigure_keepsLcid (mem : mcb.lcid ∈ table) (event : RfcMxEvent) :
    (rfcMxSmStateConfigure env mcb event).KeepsLcid table := by
  cases event <;> simp only [rfcMxSmStateConfigure.eq_def]
  case confInd cfg =>
    exact keepsLcid_of_mem (by simpa [rfcMxConfInd_lcid] using mem) rfl (by simp)
  case confCnf => exact rfcMxConfCnf_keepsLcid mem
  case discInd => exact portCloseInd_keepsLcid table _
  case timeout => exact rfcMxStartFailed_keepsLcid env table mcb
  all_goals exact keepsLcid_of_mem mem rfl (by simp)

theorem rfcMxSmSabmeWaitUa_keepsLcid (mem : mcb.lcid ∈ table) (event : RfcMxEvent) :
    (rfcMxSmSabmeWaitUa env mcb event).KeepsLcid table := by
  cases event <;> simp only [rfcMxSmSabmeWaitUa.eq_def]
  case discInd => exact portCloseInd_keepsLcid table _
  case ua =>
    refine portStartCnf_keepsLcid env ?_ _
    exact .inr (.inl mem)
  case dm => exact rfcMxStartFailed_keepsLcid env table _
  case confInd cfg => exact rfcMxStartFailed_keepsLcid env table _
  case confCnf => exact rfcMxStartFailed_keepsLcid env table _
  case timeout => exact rfcMxStartFailed_keepsLcid env table _
  all_goals exact keepsLcid_of_mem mem rfl (by simp)

theorem rfcMxSmStateWaitSabme_keepsLcid (mem : mcb.lcid ∈ table) (event : RfcMxEvent) :
    (rfcMxSmStateWaitSabme env mcb event).KeepsLcid table := by
  cases event <;> simp only [rfcMxSmStateWaitSabme.eq_def]
  case discInd => exact portCloseInd_keepsLcid table _
  case sabme =>
    split
    · rw [MxStep.keepsLcid_prepend]
      refine portStartCnf_keepsLcid env ?_ _
      exact .inr (.inl (by simpa [MxOut.saveLcid, rfcTimerStop] using mem))
    · exact keepsLcid_of_mem mem rfl (by simp [portStartInd])
  case startRsp result =>
    split
    · exact keepsLcid_of_mem mem (by simp [MxOut.saveLcid]) (by simp)
    · rw [MxStep.keepsLcid_prepend]
      refine portStartCnf_keepsLcid env ?_ _
      exact .inr (.inl (by simpa [MxOut.saveLcid] using mem))
  case confInd cfg => exact portCloseInd_prepend_keepsLcid _ _ _
  case confCnf => exact portCloseInd_prepend_keepsLcid _ _ _
  case timeout => exact portCloseInd_prepend_keepsLcid _ _ _
  all_goals exact keepsLcid_of_mem mem rfl (by simp)

theorem rfcMxSmStateConnected_keepsLcid (mem : mcb.lcid ∈ table) (event : RfcMxEvent) :
    (rfcMxSmStateConnected mcb event).KeepsLcid table := by
  cases event <;> simp only [rfcMxSmStateConnected.eq_def]
  case timeout => exact keepsLcid_of_mem mem (by simp [MxOut.saveLcid]) (by simp)
  case closeReq => exact keepsLcid_of_mem mem (by simp [MxOut.saveLcid]) (by simp)
  case discInd => exact portCloseInd_keepsLcid table _
  case disc => exact portCloseInd_prepend_keepsLcid _ _ _
  all_goals exact keepsLcid_of_mem mem rfl (by simp)

theorem rfcMxSmStateDiscWaitUa_keepsLcid (closing : mcb.state = .discWaitUa)
    (h : LcidMapped mcb table) (event : RfcMxEvent) :
    (rfcMxSmStateDiscWaitUa env mcb event).KeepsLcid table := by
  -- UA, DM and TIMEOUT share one branch: the restart, or the release
  have answered : (rfcMxSmStateDiscWaitUa env mcb .ua).KeepsLcid table := by
    simp only [rfcMxSmStateDiscWaitUa.eq_def]
    split
    case isTrue restart =>
      split
      case isTrue failed =>
        -- `L2CA_ConnectReq` failed: the block is left on channel 0, `restart_required` set
        rw [MxStep.keepsLcid_prepend]
        refine portStartCnf_keepsLcid env ?_ _
        exact .inr (.inr ⟨closing, rfl, restart⟩)
      case isFalse opened =>
        exact ⟨.inr (.inl (by simp [MxOut.saveLcid, mem_rfcSaveLcidMcb])), by simp⟩
    case isFalse =>
      exact keepsLcid_idle rfl (by simp [MxStep.prepend, rfcReleaseMultiplexerChannel])
  cases event
  case ua => exact answered
  case dm => exact answered
  case timeout => exact answered
  all_goals simp only [rfcMxSmStateDiscWaitUa.eq_def]
  case startReq =>
    refine ⟨?_, by simp⟩
    rcases h with idle | mem | ⟨closing, zero, -⟩
    · exact .inl idle
    · exact .inr (.inl mem)
    · exact .inr (.inr ⟨closing, zero, rfl⟩)
  case discInd => exact portCloseInd_keepsLcid table _
  all_goals exact ⟨by simpa [MxOut.saveLcid] using h, by simp⟩

end Busy

/-- Each state function keeps the map right, from a block whose channel is mapped and on a
CONN_IND only on a mapped channel. -/
theorem rfcMxSmDispatch_keepsLcid (env : MxEnv) {table : List UInt16} {mcb : MxMcb}
    (h : LcidMapped mcb table) (event : RfcMxEvent)
    (connInd : event = .connInd → mcb.lcid ∈ table) :
    (rfcMxSmDispatch env mcb event).KeepsLcid table := by
  unfold rfcMxSmDispatch
  cases hs : mcb.state
  case idle => exact rfcMxSmStateIdle_keepsLcid env hs event connInd
  case discWaitUa => exact rfcMxSmStateDiscWaitUa_keepsLcid env hs h event
  -- in the other five states the block's channel is mapped
  all_goals have mem := h.mem (by simp [hs]) (by simp [hs])
  case waitConnCnf => exact rfcMxSmStateWaitConnCnf_keepsLcid env mem event
  case configure => exact rfcMxSmStateConfigure_keepsLcid env mem event
  case sabmeWaitUa => exact rfcMxSmSabmeWaitUa_keepsLcid env mem event
  case waitSabme => exact rfcMxSmStateWaitSabme_keepsLcid env mem event
  case connected => exact rfcMxSmStateConnected_keepsLcid mem event

/-- `rfc_mx_sm_execute` keeps the map right, the calls back into it included. The induction
follows those calls: each is on a block the step before left on a mapped channel. -/
theorem rfcMxSmExecute_lcidMapped (env : MxEnv) (mcb : MxMcb) (event : RfcMxEvent) :
    ∀ table, LcidMapped mcb table → (event = .connInd → mcb.lcid ∈ table) →
      LcidMapped (rfcMxSmExecute env mcb event).1
        (saveLcids table (rfcMxSmExecute env mcb event).2) := by
  induction mcb, event using rfcMxSmExecute.induct env with
  | case1 mcb event done =>
    intro table h connInd
    rw [rfcMxSmExecute_eq, MxStep.run]
    simp only [done]
    exact (rfcMxSmDispatch_keepsLcid env h event connInd).1
  | case2 mcb event e next ih =>
    intro table h connInd
    obtain ⟨mapped, connIndMapped⟩ := rfcMxSmDispatch_keepsLcid env h event connInd
    rw [rfcMxSmExecute_eq, MxStep.run]
    simp only [next]
    rw [saveLcids_append]
    exact ih _ mapped fun he => connIndMapped (he ▸ next)

/-- A step run to its end keeps the map right. -/
theorem MxStep.run_lcidMapped (env : MxEnv) {table : List UInt16} {s : MxStep}
    (h : s.KeepsLcid table) : LcidMapped (s.run env).1 (saveLcids table (s.run env).2) := by
  unfold MxStep.run
  split
  case h_1 => exact h.1
  case h_2 e next =>
    rw [saveLcids_append]
    exact rfcMxSmExecute_lcidMapped env _ e _ h.1 fun he => h.2 (he ▸ next)

/-! ## The callers keep the map right -/

section Callers

variable (env : MxEnv) {s : RfcMx}

theorem rfcFindLcidMcb_lcid {lcid : UInt16} (found : rfcFindLcidMcb s lcid = true) :
    s.mcb.lcid = lcid := by
  simp only [rfcFindLcidMcb, Bool.and_eq_true, beq_iff_eq] at found
  exact found.2

theorem RfcMx.execute_lcidMapped (h : LcidMapped s.mcb s.lcidMcb) (event : RfcMxEvent)
    (connInd : event = .connInd → s.mcb.lcid ∈ s.lcidMcb) :
    LcidMapped (s.execute env event).1.mcb (s.execute env event).1.lcidMcb :=
  rfcMxSmExecute_lcidMapped env s.mcb event s.lcidMcb h connInd

theorem rfcAllocMultiplexerChannel_lcidMapped {table : List UInt16} {mcb : MxMcb}
    (h : LcidMapped mcb table) (isInitiator : Bool) :
    LcidMapped (rfcAllocMultiplexerChannel mcb isInitiator) table := by
  unfold rfcAllocMultiplexerChannel
  split
  · split
    · exact h
    · exact h
  · exact .inl rfl

theorem rfcommConnectInd_lcidMapped (h : LcidMapped s.mcb s.lcidMcb) (lcid : UInt16)
    (bootMs : UInt64) :
    LcidMapped (rfcommConnectInd env s lcid bootMs).1.mcb
      (rfcommConnectInd env s lcid bootMs).1.lcidMcb := by
  have alloc := rfcAllocMultiplexerChannel_lcidMapped h false
  unfold rfcommConnectInd
  dsimp only
  split
  · split
    · exact alloc
    · exact alloc
  case isFalse idle =>
    -- the channel is mapped to the block before CONN_IND
    rw [RfcMx.andThen_fst]
    exact RfcMx.execute_lcidMapped env (.inl (not_not.1 idle)) _
      fun _ => mem_rfcSaveLcidMcb.2 (.inl ⟨rfl, rfl⟩)

theorem rfcommConnectCnf_lcidMapped (h : LcidMapped s.mcb s.lcidMcb) (lcid result : UInt16) :
    LcidMapped (rfcommConnectCnf env s lcid result).1.mcb
      (rfcommConnectCnf env s lcid result).1.lcidMcb := by
  unfold rfcommConnectCnf
  split
  case isTrue found =>
    obtain rfl := rfcFindLcidMcb_lcid found
    -- the block is on the channel already: setting `lcid` again changes nothing
    split
    · split
      · exact h
      · rw [RfcMx.andThen_fst]
        refine RfcMx.execute_lcidMapped env ?_ _ (by simp)
        exact h
    · refine RfcMx.execute_lcidMapped env ?_ _ (by simp)
      exact h
  · exact h

theorem rfcommConfigInd_lcidMapped (h : LcidMapped s.mcb s.lcidMcb) (lcid : UInt16)
    (cfg : L2capCfgInfo) :
    LcidMapped (rfcommConfigInd env s lcid cfg).1.mcb (rfcommConfigInd env s lcid cfg).1.lcidMcb := by
  unfold rfcommConfigInd
  split
  · exact RfcMx.execute_lcidMapped env h _ (by simp)
  · split
    · exact h
    · exact h

theorem rfcommConfigCnf_lcidMapped (h : LcidMapped s.mcb s.lcidMcb) (lcid : UInt16)
    (cfg : L2capCfgInfo) :
    LcidMapped (rfcommConfigCnf env s lcid cfg).1.mcb (rfcommConfigCnf env s lcid cfg).1.lcidMcb := by
  have ind := rfcommConfigInd_lcidMapped env h lcid cfg
  unfold rfcommConfigCnf
  rw [RfcMx.andThen_fst]
  split
  · exact RfcMx.execute_lcidMapped env ind _ (by simp)
  · exact ind

theorem rfcommDisconnectInd_lcidMapped (h : LcidMapped s.mcb s.lcidMcb) (lcid : UInt16) :
    LcidMapped (rfcommDisconnectInd env s lcid).1.mcb (rfcommDisconnectInd env s lcid).1.lcidMcb := by
  unfold rfcommDisconnectInd
  split
  · exact RfcMx.execute_lcidMapped env h _ (by simp)
  · exact h

theorem RfcEvent.toMx_ne_connInd {event : RfcEvent} {e : RfcMxEvent} (h : event.toMx = some e) :
    e ≠ .connInd := by
  cases event <;> simp only [RfcEvent.toMx, Option.some.injEq, reduceCtorEq] at h <;> subst h <;>
    simp

theorem rfcommBufDataInd_lcidMapped (h : LcidMapped s.mcb s.lcidMcb) (lcid : UInt16)
    (event : RfcEvent) (dlci : UInt8) :
    LcidMapped (rfcommBufDataInd env s lcid event dlci).1.mcb
      (rfcommBufDataInd env s lcid event dlci).1.lcidMcb := by
  unfold rfcommBufDataInd
  repeat' split
  case h_1 e toMx =>
    exact RfcMx.execute_lcidMapped env h e fun he => absurd he (RfcEvent.toMx_ne_connInd toMx)
  all_goals exact h

theorem rfcOnL2capError_lcidMapped (h : LcidMapped s.mcb s.lcidMcb) (lcid result : UInt16) :
    LcidMapped (rfcOnL2capError env s lcid result).1.mcb
      (rfcOnL2capError env s lcid result).1.lcidMcb := by
  unfold rfcOnL2capError
  split
  case isTrue found =>
    obtain rfl := rfcFindLcidMcb_lcid found
    split
    · split
      · -- the retry as acceptor, then the peer's configuration if it came already
        have retried := @MxStep.run_lcidMapped env s.lcidMcb
          (rfcMxAcceptPending { s.mcb with state := .idle }) (rfcMxAcceptPending_keepsLcid _ rfl)
        rw [RfcMx.andThen_fst]
        generalize hr : s.apply ((rfcMxAcceptPending { s.mcb with state := .idle }).run env) = r
        replace retried : LcidMapped r.1.mcb r.1.lcidMcb := by
          rw [← hr, RfcMx.apply_fst]
          dsimp only
          exact retried
        split
        · rw [RfcMx.andThen_fst]
          refine RfcMx.execute_lcidMapped env ?_ _ (by simp)
          refine RfcMx.execute_lcidMapped env ?_ _ (by simp)
          exact retried
        · exact retried
      · refine RfcMx.execute_lcidMapped env ?_ _ (by simp)
        exact h
    · split
      · -- the block is released whatever the ports were told
        rw [RfcMx.andThen_fst]
        exact .inl rfl
      · exact h
  · exact h

theorem MxPortWrite.write_lcidMapped {table : List UInt16} {mcb : MxMcb}
    (h : LcidMapped mcb table) (w : MxPortWrite) : LcidMapped (w.write mcb) table := by
  cases w <;> exact h

/-- **The step lemma.** Every input keeps the map right. -/
theorem rfcMxInput_lcidMapped (h : LcidMapped s.mcb s.lcidMcb) (i : MxInput) :
    LcidMapped (rfcMxInput env s i).1.mcb (rfcMxInput env s i).1.lcidMcb := by
  cases i with
  | allocate isInitiator => exact rfcAllocMultiplexerChannel_lcidMapped h isInitiator
  | connectInd lcid bootMs => exact rfcommConnectInd_lcidMapped env h lcid bootMs
  | connectCnf lcid result => exact rfcommConnectCnf_lcidMapped env h lcid result
  | configInd lcid cfg => exact rfcommConfigInd_lcidMapped env h lcid cfg
  | configCnf lcid cfg => exact rfcommConfigCnf_lcidMapped env h lcid cfg
  | disconnectInd lcid => exact rfcommDisconnectInd_lcidMapped env h lcid
  | bufDataInd lcid event dlci => exact rfcommBufDataInd_lcidMapped env h lcid event dlci
  | l2capError lcid result => exact rfcOnL2capError_lcidMapped env h lcid result
  | startReq => exact RfcMx.execute_lcidMapped env h _ (by simp)
  | startRsp result => exact RfcMx.execute_lcidMapped env h _ (by simp)
  | closeReq => exact RfcMx.execute_lcidMapped env h _ (by simp)
  | timeout => exact RfcMx.execute_lcidMapped env h _ (by simp)
  | portWrite w => exact MxPortWrite.write_lcidMapped h w

end Callers

/-! ## Runs -/

/-- **The run lemma.** In every state a run reaches from a zeroed block and an empty map, the
block's channel leads back to it. -/
theorem lcidMapped_reachable {s : RfcMx} (h : rfcMxMachine.Reachable RfcMx.init s) :
    LcidMapped s.mcb s.lcidMcb :=
  @Lts.Machine.Reachable.invariant _ _ _ (fun s => LcidMapped s.mcb s.lcidMcb) _ _ h (.inl rfl)
    fun _ i hs _ => rfcMxInput_lcidMapped i.1 hs i.2


/-- **Every L2CAP event on a busy block's channel reaches the block.** In every state a run
reaches from a zeroed block and an empty map, `rfc_find_lcid_mcb` finds a block that is not
IDLE on its own channel, but after a restart whose `L2CA_ConnectReq` failed: that block waits in
DISC_WAIT_UA on channel 0 with `restart_required` set, for its timer to try again. -/
theorem rfcFindLcidMcb_reachable {s : RfcMx} (h : rfcMxMachine.Reachable RfcMx.init s)
    (busy : s.mcb.state ≠ .idle) :
    rfcFindLcidMcb s s.mcb.lcid = true ∨
      (s.mcb.state = .discWaitUa ∧ s.mcb.lcid = 0 ∧ s.mcb.restartRequired = true) := by
  rcases lcidMapped_reachable h with idle | mem | failed
  · exact absurd idle busy
  · left
    simp [rfcFindLcidMcb, mem]
  · exact .inr failed

/-- The port layer takes the block as initiator, starts the multiplexer on channel `0x40`, and
L2CAP confirms the channel: the block configures it, found on it. -/
theorem rfcFindLcidMcb_reachable_configure :
    let s := rfcMxMachine.exec (rfcMxMachine.exec (rfcMxMachine.exec RfcMx.init
      (⟨0x40, false, false⟩, .allocate true)) (⟨0x40, false, false⟩, .startReq))
      (⟨0x40, false, false⟩, .connectCnf 0x40 l2capConnOk)
    rfcMxMachine.Reachable RfcMx.init s ∧ s.mcb.state = .configure ∧
      (rfcFindLcidMcb s s.mcb.lcid = true ∨
        (s.mcb.state = .discWaitUa ∧ s.mcb.lcid = 0 ∧ s.mcb.restartRequired = true)) := by
  intro s
  have reach : rfcMxMachine.Reachable RfcMx.init s :=
    (((Lts.Machine.Reachable.refl _).step trivial).step trivial).step trivial
  -- the two calls of the state machine end without calling back into it
  have configure : s.mcb.state = .configure := by
    simp (disch := decide) only [s, rfcMxMachine, rfcMxInput, rfcommConnectCnf, RfcMx.execute,
      rfcMxSmExecute_of_next_none]
    decide
  exact ⟨reach, configure, rfcFindLcidMcb_reachable reach (by rw [configure]; decide)⟩

end Rfcomm

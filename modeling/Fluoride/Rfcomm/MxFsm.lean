import Fluoride.Rfcomm.MxFrames

/-!
# RFCOMM — the multiplexer state machine (`rfc_mx_fsm.cc`)

One multiplexer control block (`tRFC_MCB`) per peer runs the start-up and the shut-down of the
multiplexer channel, DLCI 0, over one L2CAP channel. `rfc_mx_sm_execute` hands an event to the
function of the block's state; there are seven states, from `RFC_MX_STATE_IDLE` through the
L2CAP connection and configuration to the SABME/UA exchange on DLCI 0, `CONNECTED`, and
`DISC_WAIT_UA` while a DISC is answered.

The model keeps every branch of the seven state functions and of `rfc_mx_conf_ind` and
`rfc_mx_conf_cnf`, with the layers they call:

* the frames they send (`rfc_send_sabme`, `rfc_send_ua`, `rfc_send_dm`, `rfc_send_disc`), the
  L2CAP requests they make, and the writes into `rfc_lcid_mcb` (`rfc_save_lcid_mcb`) are the
  outputs `MxOut` of a step, in order;
* what L2CAP and the port layer answer during a step is an environment `MxEnv`: the channel
  `L2CA_ConnectReq` opens (0 when it fails), whether a port is on this multiplexer
  (`PORT_StartCnf`'s loop) and whether a port can take a new one (`PORT_StartInd`'s);
* the timer is the timeout `rfc_timer_start` last armed, `none` once stopped;
* `PORT_StartCnf`, `PORT_StartInd`, `PORT_CloseInd` and `rfc_check_mcb_active` are modelled
  for what they do to the control block. Each ends its caller, and each can call back into
  `rfc_mx_sm_execute` as its last act: `rfc_check_mcb_active` with CLOSE_REQ, `PORT_StartInd`
  through `RFCOMM_StartRsp` with START_RSP, and the channel-collision retry of WAIT_CONN_CNF
  with CONN_IND. A state function returns that event as `MxStep.next`, and `rfcMxSmExecute`
  executes it. The chain is at most three deep (`RfcMxEvent.depth`).

Left out: the `cmd_q` of frames waiting for L2CAP (a frame sent is an output), the port
table (the environment stands for it), `bd_addr` and the log lines.

The results: a call back into the state machine is on an event of smaller depth
(`rfcMxSmDispatch_next_depth`), which is what makes `rfcMxSmExecute` terminate; and the
"update direction bit" loop of the collision retry moves every port of an even DLCI to the odd
one above it (`rfcUpdateDirectionBit_getD`). What the state machine does to `rfc_lcid_mcb` over
whole runs, with its callers, is the subject of `Rfcomm.MxL2cap`.
-/

namespace Rfcomm

open Stack

/-! ## Constants (`rfc_int.h`, `l2cdefs.h`, `port_int.h`) -/

/-- `RFC_T1_TIMEOUT`, in seconds: the wait for the UA to a SABME. -/
def rfcT1Timeout : UInt16 := 20
/-- `RFC_DISC_TIMEOUT`: the wait for the UA to a DISC. -/
def rfcDiscTimeout : UInt16 := 3
/-- `RFCOMM_CONN_TIMEOUT`: the acceptor's wait for the SABME. -/
def rfcommConnTimeout : UInt16 := 120
def rfcMcbInitInactTimer : UInt16 := 60
def rfcMcbReleaseInactTimer : UInt16 := 20

def l2capDefaultMtu : UInt16 := 672
def rfcommSuccess : UInt16 := 0
def rfcommError : UInt16 := 1
/-- `L2CAP_SUCCESS` as `rfc_mx_fsm.cc` defines it, the value of `L2CAP_CONN_OK`. -/
def l2capSuccess : UInt16 := 0
def l2capConnInternalMask : UInt16 := 0xF000
def l2capCfgFailedNoReason : UInt16 := 2
def portFcUndefined : UInt8 := 0

/-! ## States, events and the control block -/

/-- `tRFC_MX_STATE`. -/
inductive RfcMxState
  | idle | waitConnCnf | configure | sabmeWaitUa | waitSabme | connected | discWaitUa
  deriving DecidableEq, Repr

/-- The two fields of `tL2CAP_CFG_INFO` that `rfc_mx_conf_ind` reads. -/
structure L2capCfgInfo where
  mtuPresent : Bool
  mtu : UInt16
  deriving DecidableEq, Repr

/-- `tRFC_MX_EVENT`, each with what its `p_data` points to where a state function reads it. -/
inductive RfcMxEvent
  | sabme | ua | dm | disc | uih | timeout
  | startReq
  | startRsp (result : UInt16)
  | closeReq
  | connCnf (result : UInt16)
  | connInd
  /-- The result `p_data` carries is not read: `rfc_mx_conf_cnf` ignores it. -/
  | confCnf
  | confInd (cfg : L2capCfgInfo)
  | qosViolationInd
  | discInd
  deriving DecidableEq, Repr

/-- The fields of `tRFC_MCB` the state machine reads or writes. `portHandles` is
`port_handles[RFCOMM_MAX_DLCI + 1]`, and `mcbTimer` the timeout of the alarm `mcb_timer`, in
seconds, while it is set. -/
structure MxMcb extends RfcMcb where
  state : RfcMxState
  lcid : UInt16
  peerL2capMtu : UInt16
  restartRequired : Bool
  peerReady : Bool
  isDiscInitiator : Bool
  pendingLcid : UInt16
  pendingConfigureComplete : Bool
  pendingCfgInfo : L2capCfgInfo
  portHandles : List UInt8
  mcbTimer : Option UInt16
  deriving DecidableEq, Repr

/-- A control block after `memset(p_mcb, 0, sizeof(tRFC_MCB))`: in `RFC_MX_STATE_IDLE`, which is
0, with no timer set. -/
def MxMcb.zero : MxMcb where
  isInitiator := false
  flow := portFcUndefined
  state := .idle
  lcid := 0
  peerL2capMtu := 0
  restartRequired := false
  peerReady := false
  isDiscInitiator := false
  pendingLcid := 0
  pendingConfigureComplete := false
  pendingCfgInfo := ⟨false, 0⟩
  portHandles := List.replicate (rfcommMaxDlci.toNat + 1) 0
  mcbTimer := none

/-- What a step asks of the layers around the multiplexer. -/
inductive MxOut
  /-- `L2CA_ConnectReq(BT_PSM_RFCOMM, p_mcb->bd_addr)`. -/
  | l2caConnectReq
  | l2caDisconnectReq (lcid : UInt16)
  /-- `rfc_save_lcid_mcb(p_mcb, lcid)` when `mapped`, `rfc_save_lcid_mcb(NULL, lcid)` when not. -/
  | saveLcidMcb (mapped : Bool) (lcid : UInt16)
  /-- A frame handed on to L2CAP. -/
  | send (pBuf : BtHdr)
  /-- `rfc_cb.port.port[handle - 1].dlci += 1`. -/
  | incPortDlci (handle : UInt8)
  /-- `PORT_StartCnf` telling the ports on the multiplexer how the start went. -/
  | portStartCnf (result : UInt16)
  /-- `port_rfc_closed` for each port on the multiplexer. -/
  | portCloseInd
  deriving DecidableEq, Repr

/-- What became of the control block, what was asked of the other layers, and the event the
step passes back to `rfc_mx_sm_execute` as its last act. -/
structure MxStep where
  mcb : MxMcb
  out : List MxOut
  next : Option RfcMxEvent
  deriving DecidableEq, Repr

/-- Outputs made before the rest of a step. -/
def MxStep.prepend (out : List MxOut) (s : MxStep) : MxStep :=
  { s with out := out ++ s.out }

/-- What L2CAP and the port layer answer during a step. -/
structure MxEnv where
  /-- What `L2CA_ConnectReq` returns: the new channel, or 0 when it fails. -/
  connectLcid : UInt16
  /-- `PORT_StartCnf` finds a port whose `rfc.p_mcb` is this control block. -/
  portsUp : Bool
  /-- `PORT_StartInd` finds a port whose `rfc.p_mcb` is `NULL` or this control block. -/
  portFree : Bool
  deriving DecidableEq, Repr

/-! ## Helpers (`rfc_utils.cc`, `port_rfc.cc`) -/

/-- `rfc_timer_start`. -/
def rfcTimerStart (mcb : MxMcb) (timeout : UInt16) : MxMcb := { mcb with mcbTimer := some timeout }

/-- `rfc_timer_stop`. -/
def rfcTimerStop (mcb : MxMcb) : MxMcb := { mcb with mcbTimer := none }

/-- `rfc_release_multiplexer_channel`: the block leaves `rfc_lcid_mcb`, its timer is stopped and
it is zeroed. Unlinking the ports from it is the port table's part. -/
def rfcReleaseMultiplexerChannel (mcb : MxMcb) : MxStep :=
  ⟨MxMcb.zero, [.saveLcidMcb false mcb.lcid], none⟩

/-- `rfc_check_mcb_active`: with a port left the block stays; with none, the side that started
the disconnection closes the multiplexer and the other arms the release timer. -/
def rfcCheckMcbActive (mcb : MxMcb) : MxStep :=
  if (mcb.portHandles.take rfcommMaxDlci.toNat).any (· != 0) then
    ⟨{ mcb with isDiscInitiator := false }, [], none⟩
  else if mcb.isDiscInitiator then ⟨{ mcb with isDiscInitiator := false }, [], some .closeReq⟩
  else ⟨rfcTimerStart mcb rfcMcbReleaseInactTimer, [], none⟩

/-- `PORT_StartCnf`: with ports on the multiplexer, a failed start releases it; without, the
block is checked for ports (`rfc_check_mcb_active`). -/
def portStartCnf (env : MxEnv) (mcb : MxMcb) (result : UInt16) : MxStep :=
  if env.portsUp then
    if result = rfcommSuccess then ⟨mcb, [.portStartCnf result], none⟩
    else
      let r := rfcReleaseMultiplexerChannel mcb
      { r with out := r.out ++ [.portStartCnf result] }
  else rfcCheckMcbActive mcb

/-- `PORT_StartInd`, which answers at once with `RFCOMM_StartRsp`. -/
def portStartInd (env : MxEnv) (mcb : MxMcb) : MxStep :=
  ⟨mcb, [], some (.startRsp (if env.portFree then rfcommSuccess else rfcommError))⟩

/-- `PORT_CloseInd`: the ports are closed, and the multiplexer released. -/
def portCloseInd (mcb : MxMcb) : MxStep :=
  (rfcReleaseMultiplexerChannel mcb).prepend [.portCloseInd]

/-! ## Configuration and the channel-collision retry -/

/-- `rfc_mx_conf_ind`: the peer's L2CAP MTU less the RFCOMM header and FCS, or the default's.
The subtraction is in `uint16_t`. -/
def rfcMxConfInd (mcb : MxMcb) (cfg : L2capCfgInfo) : MxMcb :=
  if cfg.mtuPresent then { mcb with peerL2capMtu := cfg.mtu - rfcommMinOffset.toUInt16 - 1 }
  else { mcb with peerL2capMtu := l2capDefaultMtu - rfcommMinOffset.toUInt16 - 1 }

/-- `rfc_mx_conf_cnf`: once configured, the initiator sends SABME and waits T1 for the UA, the
acceptor waits for the SABME. -/
def rfcMxConfCnf (mcb : MxMcb) : MxStep :=
  if mcb.state = .configure then
    if mcb.isInitiator then
      let mcb := { mcb with state := .sabmeWaitUa }
      ⟨rfcTimerStart mcb rfcT1Timeout, [.send (rfcSendSabme mcb.toRfcMcb rfcommMxDlci)], none⟩
    else ⟨rfcTimerStart { mcb with state := .waitSabme } rfcommConnTimeout, [], none⟩
  else ⟨mcb, [], none⟩

/-- One turn of the "update direction bit" loop, at the even DLCI `i`: a port there moves to
`i + 1`, and its own `dlci` is incremented. -/
def rfcMoveToOddDlci (acc : List UInt8 × List MxOut) (i : Nat) : List UInt8 × List MxOut :=
  let handle := acc.1.getD i 0
  if handle ≠ 0 then ((acc.1.set i 0).set (i + 1) handle, acc.2 ++ [.incPortDlci handle])
  else acc

/-- `for (i = 0; i < RFCOMM_MAX_DLCI; i += 2)`: the DLCIs 0, 2, …, 60. -/
def rfcUpdateDirectionBit (portHandles : List UInt8) : List UInt8 × List MxOut :=
  (List.range' 0 ((rfcommMaxDlci.toNat + 1) / 2) 2).foldl rfcMoveToOddDlci (portHandles, [])

/-- The retry as acceptor after a channel collision, in the TIMEOUT of WAIT_CONN_CNF and in
`rfc_on_l2cap_error`: the block moves to the peer's pending channel, as acceptor, the ports to
the DLCIs of that direction, and CONN_IND is executed. -/
def rfcMxAcceptPending (mcb : MxMcb) : MxStep :=
  let moved := rfcUpdateDirectionBit mcb.portHandles
  ⟨{ mcb with lcid := mcb.pendingLcid, isInitiator := false, portHandles := moved.1 },
    [.saveLcidMcb false mcb.lcid, .saveLcidMcb true mcb.pendingLcid] ++ moved.2, some .connInd⟩

/-- The end of a failed start in CONFIGURE and SABME_WAIT_UA: back to IDLE, the L2CAP channel
closed, the ports told the start failed. -/
def rfcMxStartFailed (env : MxEnv) (mcb : MxMcb) : MxStep :=
  (portStartCnf env { mcb with state := .idle } rfcommError).prepend [.l2caDisconnectReq mcb.lcid]

/-! ## The state functions -/

/-- `rfc_mx_sm_state_idle`. -/
def rfcMxSmStateIdle (env : MxEnv) (mcb : MxMcb) : RfcMxEvent → MxStep
  | .startReq =>
    let mcb := { mcb with peerL2capMtu := l2capDefaultMtu - rfcommMinOffset.toUInt16 - 1 }
    if env.connectLcid = 0 then
      (portStartCnf env { mcb with lcid := 0 } rfcommError).prepend
        [.l2caConnectReq, .saveLcidMcb false mcb.lcid]
    else
      ⟨{ mcb with lcid := env.connectLcid, state := .waitConnCnf },
        [.l2caConnectReq, .saveLcidMcb true env.connectLcid], none⟩
  | .connInd => ⟨rfcTimerStart { mcb with state := .configure } rfcommConnTimeout, [], none⟩
  | .disc => ⟨mcb, [.send (rfcSendDm mcb.toRfcMcb rfcommMxDlci true)], none⟩
  | .uih => ⟨mcb, [.send (rfcSendDm mcb.toRfcMcb rfcommMxDlci false)], none⟩
  -- SABME, UA and DM are ignored, and any other event logged
  | _ => ⟨mcb, [], none⟩

/-- `rfc_mx_sm_state_wait_conn_cnf`. -/
def rfcMxSmStateWaitConnCnf (env : MxEnv) (mcb : MxMcb) : RfcMxEvent → MxStep
  | .confInd cfg => ⟨rfcMxConfInd mcb cfg, [], none⟩
  | .connCnf result =>
    if result != l2capSuccess then portStartCnf env { mcb with state := .idle } result
    else ⟨{ mcb with state := .configure }, [], none⟩
  | .discInd => portCloseInd { mcb with state := .idle }
  | .timeout =>
    let mcb := { mcb with state := .idle }
    -- the outgoing connection is given up; the peer's, if it asked for one, is tried instead
    if mcb.pendingLcid != 0 then (rfcMxAcceptPending mcb).prepend [.l2caDisconnectReq mcb.lcid]
    else (portCloseInd mcb).prepend [.l2caDisconnectReq mcb.lcid]
  | _ => ⟨mcb, [], none⟩

/-- `rfc_mx_sm_state_configure`. -/
def rfcMxSmStateConfigure (env : MxEnv) (mcb : MxMcb) : RfcMxEvent → MxStep
  | .confInd cfg => ⟨rfcMxConfInd mcb cfg, [], none⟩
  | .confCnf => rfcMxConfCnf mcb
  | .discInd => portCloseInd { mcb with state := .idle }
  | .timeout => rfcMxStartFailed env mcb
  | _ => ⟨mcb, [], none⟩

/-- `rfc_mx_sm_sabme_wait_ua`. A reconfiguration is not supported: CONF_IND and CONF_CNF end
the start as a timeout does. -/
def rfcMxSmSabmeWaitUa (env : MxEnv) (mcb : MxMcb) : RfcMxEvent → MxStep
  | .discInd => portCloseInd { mcb with state := .idle }
  | .ua =>
    portStartCnf env { rfcTimerStop mcb with state := .connected, peerReady := true } rfcommSuccess
  | .dm => rfcMxStartFailed env (rfcTimerStop mcb)
  | .confInd _ | .confCnf | .timeout => rfcMxStartFailed env mcb
  | _ => ⟨mcb, [], none⟩

/-- `rfc_mx_sm_state_wait_sabme`. -/
def rfcMxSmStateWaitSabme (env : MxEnv) (mcb : MxMcb) : RfcMxEvent → MxStep
  | .discInd => portCloseInd { mcb with state := .idle }
  | .sabme =>
    if mcb.pendingLcid != 0 then
      -- the collision is resolved: the retry as acceptor has its SABME
      let mcb := { mcb with pendingLcid := 0 }
      (portStartCnf env { rfcTimerStop mcb with state := .connected, peerReady := true }
          rfcommSuccess).prepend [.send (rfcSendUa mcb.toRfcMcb rfcommMxDlci)]
    else portStartInd env (rfcTimerStop mcb)
  | .startRsp result =>
    if result != rfcommSuccess then ⟨mcb, [.send (rfcSendDm mcb.toRfcMcb rfcommMxDlci true)], none⟩
    else
      (portStartCnf env { mcb with state := .connected, peerReady := true } rfcommSuccess).prepend
        [.send (rfcSendUa mcb.toRfcMcb rfcommMxDlci)]
  | .confInd _ | .confCnf | .timeout =>
    (portCloseInd { mcb with state := .idle }).prepend [.l2caDisconnectReq mcb.lcid]
  | _ => ⟨mcb, [], none⟩

/-- `rfc_mx_sm_state_connected`. A DISC is answered with UA; the initiator also closes the L2CAP
channel, the acceptor leaves that to the peer, which may start again. -/
def rfcMxSmStateConnected (mcb : MxMcb) : RfcMxEvent → MxStep
  | .timeout | .closeReq =>
    let mcb := { rfcTimerStart mcb rfcDiscTimeout with state := .discWaitUa }
    ⟨mcb, [.send (rfcSendDisc mcb.toRfcMcb rfcommMxDlci)], none⟩
  | .discInd => portCloseInd { mcb with state := .idle }
  | .disc =>
    (portCloseInd mcb).prepend (.send (rfcSendUa mcb.toRfcMcb rfcommMxDlci) ::
      if mcb.isInitiator then [.l2caDisconnectReq mcb.lcid] else [])
  | _ => ⟨mcb, [], none⟩

/-- `rfc_mx_sm_state_disc_wait_ua`. A START_REQ while disconnecting is remembered in
`restart_required`, and the connection is made again once the DISC is answered or timed out. -/
def rfcMxSmStateDiscWaitUa (env : MxEnv) (mcb : MxMcb) : RfcMxEvent → MxStep
  | .ua | .dm | .timeout =>
    if mcb.restartRequired then
      if env.connectLcid = 0 then
        (portStartCnf env { mcb with lcid := 0 } rfcommError).prepend
          [.l2caDisconnectReq mcb.lcid, .l2caConnectReq, .saveLcidMcb false mcb.lcid]
      else
        ⟨{ rfcTimerStart mcb rfcMcbInitInactTimer with
            lcid := env.connectLcid, isInitiator := true, restartRequired := false,
            state := .waitConnCnf },
          [.l2caDisconnectReq mcb.lcid, .l2caConnectReq, .saveLcidMcb true env.connectLcid], none⟩
    else (rfcReleaseMultiplexerChannel mcb).prepend [.l2caDisconnectReq mcb.lcid]
  | .disc => ⟨mcb, [.send (rfcSendUa mcb.toRfcMcb rfcommMxDlci)], none⟩
  | .uih => ⟨mcb, [.send (rfcSendDm mcb.toRfcMcb rfcommMxDlci false)], none⟩
  | .startReq => ⟨{ mcb with restartRequired := true }, [], none⟩
  | .discInd => portCloseInd { mcb with state := .idle }
  -- CLOSE_REQ and QOS_VIOLATION_IND are ignored, and any other event logged
  | _ => ⟨mcb, [], none⟩

/-- The `switch` of `rfc_mx_sm_execute` on the state. -/
def rfcMxSmDispatch (env : MxEnv) (mcb : MxMcb) (event : RfcMxEvent) : MxStep :=
  match mcb.state with
  | .idle => rfcMxSmStateIdle env mcb event
  | .waitConnCnf => rfcMxSmStateWaitConnCnf env mcb event
  | .configure => rfcMxSmStateConfigure env mcb event
  | .sabmeWaitUa => rfcMxSmSabmeWaitUa env mcb event
  | .waitSabme => rfcMxSmStateWaitSabme env mcb event
  | .connected => rfcMxSmStateConnected mcb event
  | .discWaitUa => rfcMxSmStateDiscWaitUa env mcb event

/-- How many calls back into the state machine an event can lead to: CLOSE_REQ and CONN_IND
none, START_RSP one (CLOSE_REQ through `PORT_StartCnf`), the others two (a SABME to START_RSP). -/
def RfcMxEvent.depth : RfcMxEvent → Nat
  | .closeReq | .connInd => 0
  | .startRsp _ => 1
  | _ => 2

theorem rfcCheckMcbActive_next (mcb : MxMcb) :
    (rfcCheckMcbActive mcb).next =
      if (mcb.portHandles.take rfcommMaxDlci.toNat).any (· != 0) then none
      else if mcb.isDiscInitiator then some .closeReq else none := by
  unfold rfcCheckMcbActive
  split
  · rfl
  · split <;> rfl

theorem portStartCnf_next (env : MxEnv) (mcb : MxMcb) (result : UInt16) :
    (portStartCnf env mcb result).next =
      if env.portsUp then none else (rfcCheckMcbActive mcb).next := by
  unfold portStartCnf
  split
  · split <;> rfl
  · rfl

theorem rfcMxConfInd_lcid (mcb : MxMcb) (cfg : L2capCfgInfo) :
    (rfcMxConfInd mcb cfg).lcid = mcb.lcid := by
  unfold rfcMxConfInd
  split <;> rfl

/-- A call back into the state machine is on an event of smaller depth. -/
theorem rfcMxSmDispatch_next_depth {env : MxEnv} {mcb : MxMcb} {event e : RfcMxEvent}
    (h : (rfcMxSmDispatch env mcb event).next = some e) : e.depth < event.depth := by
  -- every call back comes from `PORT_StartCnf` (CLOSE_REQ), `PORT_StartInd` (START_RSP) or the
  -- collision retry (CONN_IND): each branch is read down to the event it passes back
  unfold rfcMxSmDispatch at h
  split at h <;> cases event <;>
    simp only [rfcMxSmStateIdle.eq_def, rfcMxSmStateWaitConnCnf.eq_def,
      rfcMxSmStateConfigure.eq_def, rfcMxSmSabmeWaitUa.eq_def, rfcMxSmStateWaitSabme.eq_def,
      rfcMxSmStateConnected.eq_def, rfcMxSmStateDiscWaitUa.eq_def, rfcMxStartFailed, rfcMxConfCnf, rfcMxAcceptPending, portCloseInd, portStartInd,
      rfcReleaseMultiplexerChannel, MxStep.prepend, apply_ite MxStep.next, portStartCnf_next,
      rfcCheckMcbActive_next, reduceCtorEq] at h
  all_goals
    repeat' split at h
    all_goals cases h <;> simp only [RfcMxEvent.depth] <;> decide

/-- `rfc_mx_sm_execute`: the state function's step, then the event it passes back, if any. -/
def rfcMxSmExecute (env : MxEnv) (mcb : MxMcb) (event : RfcMxEvent) : MxMcb × List MxOut :=
  match _next : (rfcMxSmDispatch env mcb event).next with
  | none => ((rfcMxSmDispatch env mcb event).mcb, (rfcMxSmDispatch env mcb event).out)
  | some e =>
    let r := rfcMxSmExecute env (rfcMxSmDispatch env mcb event).mcb e
    (r.1, (rfcMxSmDispatch env mcb event).out ++ r.2)
termination_by event.depth
decreasing_by exact rfcMxSmDispatch_next_depth _next

/-- A step run to its end: the event it passes back executed after it. -/
def MxStep.run (env : MxEnv) (s : MxStep) : MxMcb × List MxOut :=
  match s.next with
  | none => (s.mcb, s.out)
  | some e => ((rfcMxSmExecute env s.mcb e).1, s.out ++ (rfcMxSmExecute env s.mcb e).2)

theorem rfcMxSmExecute_eq (env : MxEnv) (mcb : MxMcb) (event : RfcMxEvent) :
    rfcMxSmExecute env mcb event = (rfcMxSmDispatch env mcb event).run env := by
  rw [rfcMxSmExecute, MxStep.run]
  split <;> simp_all

/-- A step that passes nothing back is the whole of `rfc_mx_sm_execute`. -/
theorem rfcMxSmExecute_of_next_none {env : MxEnv} {mcb : MxMcb} {event : RfcMxEvent}
    (h : (rfcMxSmDispatch env mcb event).next = none) :
    rfcMxSmExecute env mcb event =
      ((rfcMxSmDispatch env mcb event).mcb, (rfcMxSmDispatch env mcb event).out) := by
  rw [rfcMxSmExecute_eq, MxStep.run]
  simp only [h]

/-! ## The "update direction bit" loop -/

/-- Where the loop leaves a port: none on an even DLCI, and on an odd one the port of the DLCI
below it if that had one, its own otherwise. -/
def movedHandle (portHandles : List UInt8) (dlci : Nat) : UInt8 :=
  if dlci % 2 = 0 then 0
  else if portHandles.getD (dlci - 1) 0 ≠ 0 then portHandles.getD (dlci - 1) 0
  else portHandles.getD dlci 0

theorem getD_set_eq_ite {α : Type} (l : List α) (i n : Nat) (v d : α) :
    (l.set i v).getD n d = if n = i ∧ i < l.length then v else l.getD n d := by
  simp only [List.getD_eq_getElem?_getD, List.getElem?_set]
  by_cases hn : i = n
  · subst hn
    by_cases hi : i < l.length
    · simp [hi]
    · simp [hi]
  · simp [hn, Ne.symm hn]

/-- One turn of the loop, on the table. -/
theorem rfcMoveToOddDlci_fst (acc : List UInt8 × List MxOut) (i : Nat) :
    (rfcMoveToOddDlci acc i).1 =
      if acc.1.getD i 0 ≠ 0 then (acc.1.set i 0).set (i + 1) (acc.1.getD i 0) else acc.1 := by
  dsimp only [rfcMoveToOddDlci]
  split <;> rfl

/-- One turn of the loop, on the outputs. -/
theorem rfcMoveToOddDlci_snd (acc : List UInt8 × List MxOut) (i : Nat) :
    (rfcMoveToOddDlci acc i).2 =
      if acc.1.getD i 0 ≠ 0 then acc.2 ++ [.incPortDlci (acc.1.getD i 0)] else acc.2 := by
  dsimp only [rfcMoveToOddDlci]
  split <;> rfl

theorem length_foldl_rfcMoveToOddDlci (is : List Nat) (acc : List UInt8 × List MxOut) :
    (is.foldl rfcMoveToOddDlci acc).1.length = acc.1.length := by
  induction is generalizing acc with
  | nil => rfl
  | cons i is ih =>
    rw [List.foldl_cons, ih, rfcMoveToOddDlci_fst]
    split <;> simp

/-- The loop over the first `k` even DLCIs: those pairs are moved, the rest is as it was. The
induction is on `k`, one turn of the loop at a time; each turn reads and writes only its own
pair of DLCIs. -/
theorem foldl_rfcMoveToOddDlci (h : List UInt8) (k : Nat) (room : 2 * k ≤ h.length) (n : Nat) :
    ((List.range' 0 k 2).foldl rfcMoveToOddDlci (h, [])).1.getD n 0 =
      if n < 2 * k then movedHandle h n else h.getD n 0 := by
  induction k generalizing n with
  | zero => simp
  | succ k ih =>
    have ih' := fun n => ih (by omega) n
    have len : ((List.range' 0 k 2).foldl rfcMoveToOddDlci (h, [])).1.length = h.length :=
      length_foldl_rfcMoveToOddDlci _ _
    rw [List.range'_concat, List.foldl_append, List.foldl_cons, List.foldl_nil, Nat.zero_add,
      rfcMoveToOddDlci_fst]
    generalize (List.range' 0 k 2).foldl rfcMoveToOddDlci (h, []) = acc at ih' len ⊢
    have here : acc.1.getD (2 * k) 0 = h.getD (2 * k) 0 := by rw [ih', if_neg (by omega)]
    have odd : movedHandle h (2 * k + 1) =
        if h.getD (2 * k) 0 ≠ 0 then h.getD (2 * k) 0 else h.getD (2 * k + 1) 0 := by
      rw [movedHandle, if_neg (by omega), Nat.add_sub_cancel]
    have even : movedHandle h (2 * k) = 0 := by rw [movedHandle, if_pos (by omega)]
    rw [here]
    -- the turn at `2 * k` settles the pair `2 * k`, `2 * k + 1`; below it the loop had done its
    -- work, above it nothing is touched yet
    by_cases atOdd : n = 2 * k + 1
    · subst atOdd
      rw [if_pos (show 2 * k + 1 < 2 * (k + 1) by omega), odd]
      split
      case isTrue moved =>
        rw [getD_set_eq_ite, if_pos ⟨rfl, by simp; omega⟩]
      case isFalse kept =>
        rw [ih', if_neg (by omega)]
    · by_cases atEven : n = 2 * k
      · subst atEven
        rw [if_pos (show 2 * k < 2 * (k + 1) by omega), even]
        split
        case isTrue moved =>
          rw [getD_set_eq_ite, if_neg (by omega), getD_set_eq_ite, if_pos ⟨rfl, by omega⟩]
        case isFalse kept =>
          rw [here]
          simpa using kept
      · have rest : acc.1.getD n 0 = if n < 2 * (k + 1) then movedHandle h n else h.getD n 0 := by
          rw [ih']
          by_cases lt : n < 2 * k
          · rw [if_pos lt, if_pos (by omega)]
          · rw [if_neg lt, if_neg (by omega)]
        split
        · rw [getD_set_eq_ite, if_neg (by omega), getD_set_eq_ite, if_neg (by omega), rest]
        · exact rest

/-- The "update direction bit" loop of the collision retry, over the whole table: afterwards no
port is on an even DLCI, each port of an even DLCI is on the odd DLCI above it, and a port that
was already there is dropped from the table. -/
theorem rfcUpdateDirectionBit_getD {portHandles : List UInt8}
    (len : portHandles.length = rfcommMaxDlci.toNat + 1) {dlci : Nat}
    (valid : dlci ≤ rfcommMaxDlci.toNat) :
    (rfcUpdateDirectionBit portHandles).1.getD dlci 0 = movedHandle portHandles dlci := by
  have max : rfcommMaxDlci.toNat = 61 := rfl
  have all : dlci < 2 * ((rfcommMaxDlci.toNat + 1) / 2) := by omega
  rw [rfcUpdateDirectionBit, foldl_rfcMoveToOddDlci _ _ (by rw [len]; omega), if_pos all]

/-- Ports on DLCIs 2 and 3: the one on 2 moves to 3, and the one that was on 3 is dropped. -/
theorem rfcUpdateDirectionBit_getD_three :
    (((List.replicate 62 0).set 2 7).set 3 9).length = rfcommMaxDlci.toNat + 1 ∧
      3 ≤ rfcommMaxDlci.toNat ∧
      (rfcUpdateDirectionBit (((List.replicate 62 0).set 2 7).set 3 9)).1.getD 3 0 =
        movedHandle (((List.replicate 62 0).set 2 7).set 3 9) 3 :=
  ⟨rfl, by decide, rfcUpdateDirectionBit_getD rfl (by decide)⟩

end Rfcomm

import Fluoride.L2cap.Fcr
import Fluoride.Lib.Machine

/-!
# L2CAP LE — enhanced credit-based connections (`l2c_ble.cc`, `l2c_api.cc`)

The bookkeeping an LE link keeps for an enhanced credit-based (ECOC) connection
request in flight, ours or the peer's: `pending_ecoc_conn_cnt`, the pending local CIDs,
`pending_l2cap_result` and the lead CID. The events are the signalling packets
`l2cble_process_sig_cmd` handles that read or write it (Command Reject, Credit Based
Connection Request and Response), `L2CA_ConnectCreditBasedReq`, and the upper layer's
answer to an indicated request (`L2CA_ConnectCreditBasedRsp`, which runs the channel
state machine's `L2CEVT_L2CA_CREDIT_BASED_CONNECT_RSP` or `_RSP_NEG`).

The channel state machine is not modelled beyond what these paths run: handing the
lead channel a `L2CEVT_L2CAP_CREDIT_BASED_CONNECT_REQ` or `L2CEVT_L2CA_CREDIT_BASED_CONNECT_REQ`
is an output, after which the security check and the upper layer answer later. The CCB
pool is the list of free local CIDs, taken from its front.
-/

namespace L2cap

def l2capCreditBasedMaxCids : Nat := 5
def l2capCreditBasedMinMtu : Nat := 64
def l2capCreditBasedMinMps : Nat := 64
def l2capLeMinMtu : Nat := 23
def l2capLeMinMps : Nat := 23
def l2capLeMaxMps : Nat := 65533
def btPsmEatt : Nat := 0x0027

def l2capCmdReject : UInt8 := 0x01
def l2capCmdBleCreditBasedConnReq : UInt8 := 0x14
def l2capCmdCreditBasedConnReq : UInt8 := 0x17
def l2capCmdCreditBasedConnRes : UInt8 := 0x18
def l2capCmdRejNotUnderstood : Nat := 0

/-- `tL2CAP_LE_RESULT_CODE`, the values these paths send or test. -/
def l2capLeResultConnOk : Nat := 0x0000
def l2capLeResultNoPsm : Nat := 0x0002
def l2capLeResultNoResources : Nat := 0x0004
def l2capLeResultInsufficientAuthentication : Nat := 0x0005
def l2capLeResultInsufficientAuthorization : Nat := 0x0006
def l2capLeResultInsufficientEncryp : Nat := 0x0008
def l2capLeResultSourceCidAlreadyAllocated : Nat := 0x000A
def l2capLeResultUnacceptableParameters : Nat := 0x000B
def l2capLeResultInvalidParameters : Nat := 0x000C

/-- `tL2C_RCB` as these paths read it: a registered LE PSM and which callbacks it set. -/
structure Rcb where
  psm : Nat
  hasConnectIndCb : Bool
  hasCreditBasedConnectIndCb : Bool
  hasCreditBasedCollisionIndCb : Bool
  deriving DecidableEq, Repr

/-- A channel of the link: its local and remote CID, the identifier of our request for
it (`local_id`) or of the peer's (`remote_id`), and whether it is open. -/
structure LeCcb where
  localCid : Nat
  remoteCid : Nat
  localId : Nat
  remoteId : Nat
  chnlOpen : Bool
  deriving DecidableEq, Repr

/-- What the link hands to its neighbours. -/
inductive LeOutput where
  /-- An L2CAP Credit Based Connection Response: identifier, result and the CIDs. -/
  | creditBasedConnRes (id result : Nat) (cids : List Nat)
  /-- Our Credit Based Connection Request, with its local CIDs. -/
  | creditBasedConnReq (id psm : Nat) (cids : List Nat)
  /-- `l2c_csm_execute(lead, L2CEVT_L2CAP_CREDIT_BASED_CONNECT_REQ)`: the peer's request
  goes on to the security check and the upper layer. -/
  | csmCreditBasedConnectReq (leadCid : Nat)
  /-- `l2cu_reject_ble_coc_connection`: an LE Credit Based Connection Response refusing. -/
  | bleCocConnRes (id result : Nat)
  /-- `l2c_csm_execute(ccb, L2CEVT_L2CAP_CONNECT_REQ)` for a peer's LE CoC request. -/
  | csmConnectReq (cid : Nat)
  /-- `pL2CA_CreditBasedCollisionInd_Cb`. -/
  | collisionInd
  /-- A Disconnection Request for the channel with this local CID. -/
  | peerDiscReq (cid : Nat)
  /-- A CCB dereferenced through a null pointer. -/
  | nullDeref
  deriving DecidableEq, Repr

/-- The fields of `tL2C_LCB` these paths read and write, the link's CCBs, the free CCB
pool, the last signalling identifier, and the output. -/
structure Lcb where
  pendingEcocConnCnt : Nat
  pendingEcocConnectionCids : List Nat
  pendingL2capResult : Nat
  pendingLeadCid : Nat
  signalId : Nat
  ccbs : List LeCcb
  freeCids : List Nat
  out : List LeOutput
  deriving DecidableEq, Repr

namespace Lcb

/-- `pending_ecoc_connection_cids[i] = cid` in the fixed array of
`L2CAP_CREDIT_BASED_MAX_CIDS` entries. -/
def setPendingCid (l : Lcb) (i cid : Nat) : Lcb :=
  { l with pendingEcocConnectionCids := l.pendingEcocConnectionCids.set i cid }

/-- `l2cu_find_ccb_by_cid`: CIDs below `L2CAP_BASE_APPL_CID` have no CCB. -/
def findCcbByCid (l : Lcb) (cid : Nat) : Option LeCcb :=
  if cid < l2capBaseApplCid then none else l.ccbs.find? (·.localCid = cid)

/-- `l2cu_find_ccb_by_remote_cid`. -/
def findCcbByRemoteCid (l : Lcb) (rcid : Nat) : Option LeCcb :=
  l.ccbs.find? (·.remoteCid = rcid)

/-- `l2cu_allocate_ccb`: the first free CCB joins the link, or `none` when the pool is
empty. -/
def allocateCcb (l : Lcb) : Option (Lcb × Nat) :=
  match l.freeCids with
  | [] => none
  | cid :: rest =>
    some ({ l with ccbs := l.ccbs ++ [⟨cid, 0, 0, 0, false⟩], freeCids := rest }, cid)

/-- `l2cu_release_ccb`: the CCB leaves the link and returns to the pool; releasing one
that is not in use does nothing. -/
def releaseCcb (l : Lcb) (cid : Nat) : Lcb :=
  if l.ccbs.any (·.localCid = cid) then
    { l with ccbs := l.ccbs.filter (·.localCid ≠ cid), freeCids := l.freeCids ++ [cid] }
  else l

/-- Update the CCB with local CID `cid`. -/
def modifyCcb (l : Lcb) (cid : Nat) (f : LeCcb → LeCcb) : Lcb :=
  { l with ccbs := l.ccbs.map fun c => if c.localCid = cid then f c else c }

def send (l : Lcb) (o : LeOutput) : Lcb := { l with out := l.out ++ [o] }

/-- `pending_ecoc_conn_cnt = 0` and
`memset(pending_ecoc_connection_cids, 0, L2CAP_CREDIT_BASED_MAX_CIDS)`. The count is in
bytes: the first two `uint16_t` entries and the low byte of the third are zeroed. -/
def clearPending (l : Lcb) : Lcb :=
  { l with pendingEcocConnCnt := 0,
           pendingEcocConnectionCids := l.pendingEcocConnectionCids.mapIdx fun i cid =>
             if i < 2 then 0 else if i = 2 then cid / 256 * 256 else cid }

end Lcb

/-- `l2cu_reject_credit_based_conn_req`: a response (with a dummy MTU, MPS and credit)
carrying `num_of_channels` zero CIDs. -/
def l2cuRejectCreditBasedConnReq (l : Lcb) (remId numOfChannels result : Nat) : Lcb :=
  l.send (.creditBasedConnRes remId result (List.replicate numOfChannels 0))

/-- `l2cu_find_ble_rcb_by_psm`. -/
def l2cuFindBleRcbByPsm (rcbs : List Rcb) (psm : Nat) : Option Rcb :=
  rcbs.find? (·.psm = psm)

/-- The channel loop of the Credit Based Connection Request branch: for each remote CID,
refuse a duplicate, or allocate a CCB; the first CCB allocated leads. -/
def allocateRequestedCcbs (id : Nat) (l : Lcb) : Nat → List Nat → Lcb × Option Nat
  | _, [] => (l, none)
  | i, rcid :: rest =>
    let (l, lead) :=
      if (l.findCcbByRemoteCid rcid).isSome then
        ({ l.setPendingCid i 0 with pendingL2capResult := l2capLeResultSourceCidAlreadyAllocated },
          none)
      else
        match l.allocateCcb with
        | none =>
          ({ l.setPendingCid i 0 with pendingL2capResult := l2capLeResultNoResources }, none)
        | some (l, cid) =>
          ((l.modifyCcb cid fun c => { c with remoteCid := rcid, remoteId := id }).setPendingCid
            i cid, some cid)
    let (l, lead') := allocateRequestedCcbs id l (i + 1) rest
    (l, lead.or lead')

/-- The `L2CAP_CMD_CREDIT_BASED_CONN_REQ` branch of `l2cble_process_sig_cmd`, from the
command's identifier and the bytes after its header to the end of the packet. -/
def processCreditBasedConnReq (rcbs : List Rcb) (l : Lcb) (id : Nat) (p : List UInt8) : Lcb :=
  if p.length < 10 then l
  else
    let psm := readLe16 p
    let mtu := readLe16 (p.drop 2)
    let mps := readLe16 (p.drop 4)
    -- the channel count is the rest of the packet in 16-bit units, as a `uint8_t`
    let numOfChannels := (p.length - 8) / 2 % 256
    if numOfChannels > l2capCreditBasedMaxCids then
      l2cuRejectCreditBasedConnReq l id l2capCreditBasedMaxCids l2capLeResultInvalidParameters
    else
      match l2cuFindBleRcbByPsm rcbs psm with
      | none => l2cuRejectCreditBasedConnReq l id numOfChannels l2capLeResultNoPsm
      | some rcb =>
        if l.pendingEcocConnCnt > 0 then
          let l := if rcb.hasCreditBasedCollisionIndCb ∧ psm = btPsmEatt then l.send .collisionInd
            else l
          l2cuRejectCreditBasedConnReq l id numOfChannels l2capLeResultNoResources
        else
          let l := { l with pendingEcocConnCnt := numOfChannels }
          if !rcb.hasCreditBasedConnectIndCb then
            l2cuRejectCreditBasedConnReq l id numOfChannels l2capLeResultNoPsm
          else if mtu < l2capCreditBasedMinMtu ∨ mps < l2capCreditBasedMinMps ∨
              mps > l2capLeMaxMps then
            l2cuRejectCreditBasedConnReq l id numOfChannels l2capLeResultInvalidParameters
          else
            let rcids := (List.range numOfChannels).map fun i => readLe16 (p.drop (8 + 2 * i))
            match allocateRequestedCcbs id l 0 rcids with
            | (l, none) => l2cuRejectCreditBasedConnReq l id numOfChannels l.pendingL2capResult
            | (l, some lead) =>
              ({ l with pendingLeadCid := lead }).send (.csmCreditBasedConnectReq lead)

/-- The `L2CAP_CMD_BLE_CREDIT_BASED_CONN_REQ` branch of `l2cble_process_sig_cmd`: a single
LE CoC channel. When no CCB can be allocated the null CCB is handed to
`l2cu_reject_ble_connection`, which reads `p_ccb->ecoc`. A freshly allocated CCB is not
ECOC, so a rejection of bad parameters is an LE CoC one, and the CCB stays allocated. -/
def processBleCreditBasedConnReq (rcbs : List Rcb) (l : Lcb) (id : Nat) (p : List UInt8) :
    Lcb :=
  if p.length < 10 then l
  else
    let psm := readLe16 p
    let rcid := readLe16 (p.drop 2)
    let mtu := readLe16 (p.drop 4)
    let mps := readLe16 (p.drop 6)
    if (l.findCcbByRemoteCid rcid).isSome then
      l.send (.bleCocConnRes id l2capLeResultSourceCidAlreadyAllocated)
    else
      match l2cuFindBleRcbByPsm rcbs psm with
      | none => l.send (.bleCocConnRes id l2capLeResultNoPsm)
      | some rcb =>
        if !rcb.hasConnectIndCb then l.send (.bleCocConnRes id l2capLeResultNoPsm)
        else
          match l.allocateCcb with
          | none => l.send .nullDeref
          | some (l, cid) =>
            if mtu < l2capLeMinMtu ∨ mps < l2capLeMinMps ∨ mps > l2capLeMaxMps then
              l.send (.bleCocConnRes id l2capLeResultNoResources)
            else
              (l.modifyCcb cid fun c => { c with remoteCid := rcid, remoteId := id }).send
                (.csmConnectReq cid)

/-- `l2cble_handle_connect_rsp_neg`: every pending channel gets
`L2CEVT_L2CAP_CREDIT_BASED_CONNECT_RSP_NEG`, which releases it; then the bookkeeping is
cleared. -/
def l2cbleHandleConnectRspNeg (l : Lcb) : Lcb :=
  let cids := l.pendingEcocConnectionCids.take l.pendingEcocConnCnt
  (cids.foldl Lcb.releaseCcb l).clearPending

/-- Whether a response result means every channel was refused. -/
def allChannelsRefused (result : Nat) : Bool :=
  result = l2capLeResultNoPsm ∨ result = l2capLeResultInsufficientAuthentication ∨
    result = l2capLeResultInsufficientEncryp ∨ result = l2capLeResultInsufficientAuthorization ∨
    result = l2capLeResultUnacceptableParameters ∨ result = l2capLeResultInvalidParameters

/-- The per-channel loop of a positive Credit Based Connection Response to our request:
a refused channel (remote CID 0) is released, an accepted one opens. A pending CID whose
CCB is gone is dereferenced through a null pointer. -/
def connectRspChannels (l : Lcb) : List (Nat × Nat) → Lcb
  | [] => l
  | (cid, rcid) :: rest =>
    let l :=
      match (if rcid ≠ 0 then l.findCcbByRemoteCid rcid else none) with
      | some dup =>
        -- a duplicated remote CID: the first channel is disconnected, this one refused
        (l.send (.peerDiscReq dup.localCid)).releaseCcb cid
      | none =>
        match l.findCcbByCid cid with
        | none => l.send .nullDeref
        | some _ =>
          if rcid = 0 then l.releaseCcb cid
          else l.modifyCcb cid fun c => { c with remoteCid := rcid, chnlOpen := true }
    connectRspChannels l rest

/-- The `L2CAP_CMD_CREDIT_BASED_CONN_RES` branch of `l2cble_process_sig_cmd`. -/
def processCreditBasedConnRes (l : Lcb) (id : Nat) (p : List UInt8) : Lcb :=
  if p.length < 8 then l
  else
    match l.ccbs.find? (·.localId = id) with
    -- no request of ours has this identifier (`l2c_csm_execute` ignores a null CCB)
    | none => l
    | some _ =>
      let mtu := readLe16 p
      let mps := readLe16 (p.drop 2)
      let result := readLe16 (p.drop 6)
      if allChannelsRefused result then l2cbleHandleConnectRspNeg l
      else if mtu < l2capCreditBasedMinMtu ∨ mps < l2capCreditBasedMinMps ∨
          mps > l2capLeMaxMps then l2cbleHandleConnectRspNeg l
      else
        let numOfChannels := (p.length - 8) / 2 % 256
        if numOfChannels ≠ l.pendingEcocConnCnt then l
        else
          let cids := l.pendingEcocConnectionCids.take numOfChannels
          let rcids := (List.range numOfChannels).map fun i => readLe16 (p.drop (8 + 2 * i))
          -- `std::fill_n` over all the entries
          let l := { l with pendingEcocConnCnt := 0,
                            pendingEcocConnectionCids := List.replicate l2capCreditBasedMaxCids 0 }
          connectRspChannels l (cids.zip rcids)

/-- `l2cble_process_sig_cmd` for the commands that touch the pending request: the
header checks, then Command Reject, the LE and the enhanced Credit Based Connection
Requests, and the enhanced Response. The other commands (reconfiguration, credits,
disconnection, parameter updates) are not modelled. -/
def l2cbleProcessSigCmd (rcbs : List Rcb) (l : Lcb) (pkt : List UInt8) : Lcb :=
  match pkt with
  | cmdCode :: id :: p =>
    if pkt.length < 4 then l
    else
      let cmdLen := readLe16 p
      let p := p.drop 2
      if cmdLen > p.length then l
      else if cmdCode = l2capCmdReject then
        if p.length < 2 then l
        else if readLe16 p = l2capCmdRejNotUnderstood ∧ l.pendingEcocConnCnt > 0 then
          l2cbleHandleConnectRspNeg l
        else l
      else if cmdCode = l2capCmdBleCreditBasedConnReq then
        processBleCreditBasedConnReq rcbs l id.toNat p
      else if cmdCode = l2capCmdCreditBasedConnReq then
        processCreditBasedConnReq rcbs l id.toNat p
      else if cmdCode = l2capCmdCreditBasedConnRes then
        processCreditBasedConnRes l id.toNat p
      else l
  | _ => l

/-- The allocation loop of `L2CA_ConnectCreditBasedReq`: up to `n` CCBs, stopping at the
first that cannot be had. -/
def allocateOwnCcbs (l : Lcb) : Nat → Lcb × List Nat
  | 0 => (l, [])
  | n + 1 =>
    match l.allocateCcb with
    | none => (l, [])
    | some (l, cid) =>
      let (l, cids) := allocateOwnCcbs l n
      (l, cid :: cids)

/-- `L2CA_ConnectCreditBasedReq` on a connected LE link, with `number_of_channels`
asked: the local CIDs allocated (none when it refuses), and the request sent through the
state machine of the first. -/
def l2caConnectCreditBasedReq (rcbs : List Rcb) (l : Lcb) (psm numberOfChannels : Nat) :
    Lcb × List Nat :=
  match l2cuFindBleRcbByPsm rcbs psm with
  | none => (l, [])
  | some _ =>
    -- there is an ongoing connection request
    if l.pendingEcocConnCnt > 0 then (l, [])
    else
      let n := if numberOfChannels > l2capCreditBasedMaxCids ∨ numberOfChannels = 0 then
          l2capCreditBasedMaxCids else numberOfChannels
      match allocateOwnCcbs l n with
      | (_, []) => (l, [])
      | (l, cids) =>
        let id := l.signalId + 1
        let l := { l with
          pendingEcocConnectionCids :=
            cids ++ l.pendingEcocConnectionCids.drop cids.length,
          pendingEcocConnCnt := cids.length,
          signalId := id }
        let l := match cids with
          | [] => l
          | lead :: _ => l.modifyCcb lead fun c => { c with localId := id }
        (l.send (.creditBasedConnReq id psm cids), cids)

/-- `L2CA_ConnectCreditBasedRsp` from the upper layer for the indicated request whose
remote identifier is `id`. With some channel accepted the lead channel runs
`L2CEVT_L2CA_CREDIT_BASED_CONNECT_RSP`: the response goes out, accepted channels open and
the others are released. With none it runs `_RSP_NEG`: the response goes out and every
pending channel is released, a zero CID through a null CCB. Both clear the bookkeeping. -/
def l2caConnectCreditBasedRsp (l : Lcb) (id : Nat) (acceptedLcids : List Nat) (result : Nat) :
    Lcb :=
  match l.findCcbByCid l.pendingLeadCid with
  | none => l
  | some lead =>
    if acceptedLcids.any (fun cid => (l.findCcbByCid cid).isNone) then l
    -- the identifiers must match
    else if lead.remoteId ≠ id then l
    else
      let pending := l.pendingEcocConnectionCids.take l.pendingEcocConnCnt
      -- `l2cu_send_peer_credit_based_conn_res`: a success reports the stored result
      let result := if result = l2capLeResultConnOk then l.pendingL2capResult else result
      let cids := pending.map fun cid => if cid ≠ 0 ∧ cid ∈ acceptedLcids then cid else 0
      let l := l.send (.creditBasedConnRes id result cids)
      let l := if acceptedLcids ≠ [] then
          pending.foldl (fun l cid =>
            if cid = 0 then l
            else match l.findCcbByCid cid with
              | none => l
              | some _ =>
                if cid ∈ acceptedLcids then l.modifyCcb cid fun c => { c with chnlOpen := true }
                else l.releaseCcb cid) l
        else
          pending.foldl (fun l cid =>
            match l.findCcbByCid cid with
            | none => l.send .nullDeref
            | some _ => l.releaseCcb cid) l
      l.clearPending

/-! ## The link as a machine -/

/-- What happens to an LE link. -/
inductive LeEvent where
  | sigCmd (pkt : List UInt8)
  | connectCreditBasedReq (psm numberOfChannels : Nat)
  | connectCreditBasedRsp (id : Nat) (acceptedLcids : List Nat) (result : Nat)
  deriving DecidableEq, Repr

def leExec (rcbs : List Rcb) (l : Lcb) : LeEvent → Lcb
  | .sigCmd pkt => l2cbleProcessSigCmd rcbs l pkt
  | .connectCreditBasedReq psm n => (l2caConnectCreditBasedReq rcbs l psm n).1
  | .connectCreditBasedRsp id acc result => l2caConnectCreditBasedRsp l id acc result

/-- The LE link, for the registered PSMs `rcbs`. Every event may happen at any time. -/
def leLink (rcbs : List Rcb) : Lts.Machine Lcb LeEvent where
  guard _ _ := True
  exec := leExec rcbs

/-- A link just connected, with the free CCBs `freeCids`. -/
def Lcb.initial (freeCids : List Nat) : Lcb :=
  ⟨0, List.replicate l2capCreditBasedMaxCids 0, 0, 0, 0, [], freeCids, []⟩

end L2cap

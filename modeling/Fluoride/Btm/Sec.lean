import Mathlib.Data.UInt

/-!
# BTM security: the BR/EDR access check (`btm_sec.cc`)

`btm_sec_l2cap_access_req_by_requirement` decides whether an L2CAP channel to or from a
peer may be opened now, given the security the service requires. It grants access on one
of two paths: while another security procedure is busy (a callback pending on the record,
or a pairing in progress anywhere), a legacy check of the flags already established; and
otherwise through `btm_sec_execute_procedure`, after the requirement has been strengthened
for Simple Pairing peers and a link key upgrade has been considered
(`btm_sec_check_upgrade`).

The device record keeps the fields the check reads and writes. What comes from outside
the record is `Env`: the ACL handle `BTM_GetHCIConnHandle` reports, whether the local
controller supports Secure Connections and the device is up, the two feature flags, and
whether the collision timer is running for this peer. The callback `p_callback` is never
null here (L2CAP always passes one); the calls it receives, the remote name request, the
start of authentication and the HCI encryption command are the `Action`s returned, in
order. `p_ref_data` and the logging are left out.
-/

namespace Btm

/-! ## Constants -/

-- `security_required` bits (`btm_sec_api_types.h`)
def btmSecInAuthenticate : UInt16 := 0x0002
def btmSecInEncrypt : UInt16 := 0x0004
def btmSecOutAuthenticate : UInt16 := 0x0010
def btmSecOutEncrypt : UInt16 := 0x0020
def btmSecMode4Level4 : UInt16 := 0x0040
def btmSecInMitm : UInt16 := 0x1000
def btmSecOutMitm : UInt16 := 0x2000
def btmSecInMin16DigitPin : UInt16 := 0x4000
def btmSecOutFlags : UInt16 := btmSecOutAuthenticate ||| btmSecOutEncrypt
def btmSecInFlags : UInt16 := btmSecInAuthenticate ||| btmSecInEncrypt

-- `sec_flags` bits (`security_device_record.h`)
def btmSecAuthenticated : UInt16 := 0x0002
def btmSecEncrypted : UInt16 := 0x0004
def btmSecNameKnown : UInt16 := 0x0008
def btmSecLinkKeyKnown : UInt16 := 0x0010
def btmSecLinkKeyAuthed : UInt16 := 0x0020
def btmSec16DigitPinAuthed : UInt16 := 0x4000

-- `sm4`
def btmSm4Known : UInt8 := 0x10
def btmSm4True : UInt8 := 0x11
def btmSm4ReqPend : UInt8 := 0x08
def btmSm4Upgrade : UInt8 := 0x04

/-- `BTM_SEC_IS_SM4(sm)`: the peer supports Simple Pairing. -/
def btmSecIsSm4 (sm : UInt8) : Bool := sm &&& btmSm4True == btmSm4True

-- link key types (`hcidefs.h`)
def btmLkeyTypeUnauthComb : UInt8 := 0x04
def btmLkeyTypeUnauthCombP256 : UInt8 := 0x07
def btmLkeyTypeAuthCombP256 : UInt8 := 0x08

-- security modes
def btmSecModeService : UInt8 := 2
def btmSecModeSp : UInt8 := 4
def btmSecModeSc : UInt8 := 6

def hciInvalidHandle : UInt16 := 0xFFFF

def btmIoCapMax : UInt8 := 4

/-- `btm_sec_io_map[peer][local]`: an authenticated link key is possible between these IO
capabilities (display only, display yes/no, keyboard only, no input no output). -/
def btmSecIoMap : List (List Bool) :=
  [[false, false, true, false],
   [false, true, true, false],
   [true, true, true, false],
   [false, false, false, false]]

/-! ## Status, state and effects -/

/-- The `tBTM_STATUS` values these functions return. -/
inductive TBtmStatus
  | btmSuccess
  | btmCmdStarted
  | btmNoResources
  | btmDelayCheck
  | btmFailedOnSecurity
  | btmMode4Level4NotSupported
  deriving DecidableEq, Repr

/-- `tSECURITY_STATE`, the record's `classic_link`. -/
inductive TSecurityState
  | idle
  | authenticating
  | encrypting
  | gettingName
  | authorizing
  | switchingRole
  | disconnecting
  | delayForEnc
  deriving DecidableEq, Repr

/-- The fields of `sec_rec` the check reads and writes; `hasCallback` is
`p_callback != NULL` and `bondTypeTemporary` is `bond_type == BOND_TYPE_TEMPORARY`. -/
structure SecRec where
  secFlags : UInt16
  securityRequired : UInt16
  requiredSecurityFlagsForPairing : UInt16
  linkKeyType : UInt8
  rmtIoCaps : UInt8
  classicLink : TSecurityState
  bondTypeTemporary : Bool
  hasCallback : Bool
  deriving DecidableEq, Repr

/-- `tBTM_SEC_DEV_REC`. -/
structure DevRec where
  secRec : SecRec
  sm4 : UInt8
  hciHandle : UInt16
  isOriginator : Bool
  remoteSupportsSecureConnections : Bool
  deriving DecidableEq, Repr

/-- The fields of `btm_sec_cb` the check reads and writes. -/
structure SecCb where
  securityMode : UInt8
  pairingStateIdle : Bool
  locIoCaps : UInt8
  secReqPending : Bool
  deriving DecidableEq, Repr

/-- What the check reads from outside the record and `btm_sec_cb`. -/
structure Env where
  /-- `BTM_GetHCIConnHandle(bd_addr, BT_TRANSPORT_BR_EDR)`. -/
  hciHandle : UInt16
  /-- The controller's `SupportsSecureConnections()`. -/
  localSupportsSc : Bool
  /-- `BTM_IsDeviceUp()`, which `btm_sec_start_get_name` needs. -/
  deviceUp : Bool
  /-- The flag `trigger_sec_proc_on_inc_access_req`. -/
  triggerSecProcOnIncAccessReq : Bool
  /-- The flag `ignore_auth_req_when_collision_timer_active`. -/
  ignoreAuthReqWhenCollisionTimerActive : Bool
  /-- The collision timer is scheduled and its record is this peer's. -/
  collisionTimerForPeer : Bool
  deriving DecidableEq, Repr

/-- What the check does outside the record: a call of `p_callback` with a status, a
remote name request, the (delayed) start of authentication, `HCI_Set_Connection_Encryption`. -/
inductive Action
  | callback (status : TBtmStatus)
  | remoteNameRequest
  | startAuthentication
  | setConnEncrypt
  deriving DecidableEq, Repr

/-! ## The helpers -/

/-- `btm_dev_authenticated`. -/
def btmDevAuthenticated (r : DevRec) : Bool := r.secRec.secFlags &&& btmSecAuthenticated != 0

/-- `btm_dev_encrypted`. -/
def btmDevEncrypted (r : DevRec) : Bool := r.secRec.secFlags &&& btmSecEncrypted != 0

/-- `btm_dev_16_digit_authenticated`. -/
def btmDev16DigitAuthenticated (r : DevRec) : Bool :=
  r.secRec.secFlags &&& btmSec16DigitPinAuthed != 0

/-- `access_secure_service_from_temp_bond`: an incoming request for authentication over a
temporary bond. -/
def accessSecureServiceFromTempBond (r : DevRec) (locallyInitiated : Bool)
    (securityReq : UInt16) : Bool :=
  !locallyInitiated && (securityReq &&& btmSecInAuthenticate != 0) && r.secRec.bondTypeTemporary

/-- `btm_sec_io_map[peer][local]`. -/
def ioMap (peer loc : UInt8) : Bool := (btmSecIoMap.getD peer.toNat []).getD loc.toNat false

/-- `btm_sec_is_upgrade_possible`: no link key yet, or the record's stored requirement asks
for MITM, the key is unauthenticated and the IO capabilities allow an authenticated one. -/
def btmSecIsUpgradePossible (cb : SecCb) (r : DevRec) (isOriginator : Bool) : Bool :=
  let mtmCheck := if isOriginator then btmSecOutMitm else btmSecInMitm
  if r.secRec.secFlags &&& btmSecLinkKeyKnown != 0 then
    (r.secRec.securityRequired &&& mtmCheck != 0) &&
      (r.secRec.linkKeyType == btmLkeyTypeUnauthComb ||
        r.secRec.linkKeyType == btmLkeyTypeUnauthCombP256) &&
      r.secRec.rmtIoCaps < btmIoCapMax && ioMap r.secRec.rmtIoCaps cb.locIoCaps
  else true

/-- `btm_sec_check_upgrade`: with a link key that can be upgraded, mark the upgrade and
forget the key and the authentication, so that pairing runs again. -/
def btmSecCheckUpgrade (cb : SecCb) (r : DevRec) (isOriginator : Bool) : DevRec :=
  if r.secRec.secFlags &&& btmSecLinkKeyKnown = 0 then r
  else if btmSecIsUpgradePossible cb r isOriginator then
    { r with
      sm4 := r.sm4 ||| btmSm4Upgrade,
      secRec := { r.secRec with
        secFlags := r.secRec.secFlags &&& ~~~(btmSecLinkKeyKnown ||| btmSecLinkKeyAuthed) &&&
          ~~~btmSecAuthenticated } }
  else r

/-! ## `btm_sec_execute_procedure` -/

/-- Authentication is needed: the link is not authenticated and the role's requirement asks
for authentication or encryption, or an acceptor's requirement asks for a 16-digit PIN the
link was not authenticated with. -/
def needsAuthentication (r : DevRec) : Bool :=
  (r.secRec.secFlags &&& btmSecAuthenticated == 0 &&
    (if r.isOriginator then
      r.secRec.securityRequired &&& (btmSecOutAuthenticate ||| btmSecOutEncrypt) != 0
    else r.secRec.securityRequired &&& (btmSecInAuthenticate ||| btmSecInEncrypt) != 0)) ||
  (r.secRec.secFlags &&& btmSec16DigitPinAuthed == 0 && !r.isOriginator &&
    r.secRec.securityRequired &&& btmSecInMin16DigitPin != 0)

/-- Encryption is needed: the link is not encrypted and the role's requirement asks for it. -/
def needsEncryption (r : DevRec) : Bool :=
  r.secRec.secFlags &&& btmSecEncrypted == 0 &&
    (if r.isOriginator then r.secRec.securityRequired &&& btmSecOutEncrypt != 0
    else r.secRec.securityRequired &&& btmSecInEncrypt != 0)

/-- `btm_sec_execute_procedure`: get the name, authenticate, encrypt, in that order, each
started only on a live link; grant once nothing is missing and the key and bond are good
enough. -/
def btmSecExecuteProcedure (env : Env) (r : DevRec) : TBtmStatus × DevRec × List Action :=
  if r.secRec.classicLink ≠ .idle then (.btmCmdStarted, r, [])
  else if r.secRec.secFlags &&& btmSecNameKnown = 0 ∧ r.hciHandle ≠ hciInvalidHandle then
    -- `btm_sec_start_get_name`
    if env.deviceUp then
      (.btmCmdStarted, { r with secRec := { r.secRec with classicLink := .gettingName } },
        [.remoteNameRequest])
    else (.btmNoResources, r, [])
  else if r.hciHandle ≠ hciInvalidHandle ∧ needsAuthentication r then
    if env.ignoreAuthReqWhenCollisionTimerActive ∧ env.collisionTimerForPeer then
      (.btmCmdStarted, r, [])
    else
      -- a known key that needs the 16-digit upgrade is forgotten first
      let r :=
        if r.secRec.secFlags &&& btmSecLinkKeyKnown ≠ 0 ∧
            r.secRec.secFlags &&& btmSec16DigitPinAuthed = 0 ∧ !r.isOriginator ∧
            r.secRec.securityRequired &&& btmSecInMin16DigitPin ≠ 0 then
          { r with secRec := { r.secRec with
            secFlags := r.secRec.secFlags &&&
              ~~~(btmSecLinkKeyKnown ||| btmSecLinkKeyAuthed ||| btmSecAuthenticated) } }
        else r
      (.btmCmdStarted, r, [.startAuthentication])
  else if needsEncryption r ∧ r.hciHandle ≠ hciInvalidHandle then
    (.btmCmdStarted, { r with secRec := { r.secRec with classicLink := .encrypting } },
      [.setConnEncrypt])
  else if r.secRec.securityRequired &&& btmSecMode4Level4 ≠ 0 ∧
      r.secRec.linkKeyType ≠ btmLkeyTypeAuthCombP256 then
    (.btmFailedOnSecurity, r, [])
  else if accessSecureServiceFromTempBond r r.isOriginator r.secRec.securityRequired then
    (.btmFailedOnSecurity, r, [])
  else
    (.btmSuccess, { r with secRec := { r.secRec with
      securityRequired := r.secRec.securityRequired &&&
        ~~~(btmSecOutAuthenticate ||| btmSecInAuthenticate ||| btmSecOutEncrypt |||
          btmSecInEncrypt) } }, [])

/-! ## `btm_sec_l2cap_access_req_by_requirement` -/

/-- The legacy check of the busy path: the role's authentication and encryption bits must be
exactly none, authentication with an authenticated link, or both with an encrypted link;
an acceptor's 16-digit PIN requirement must have been met. -/
def legacyGranted (r : DevRec) (securityRequired : UInt16) (isOriginator : Bool) : Bool :=
  if isOriginator then
    securityRequired &&& btmSecOutFlags == 0 ||
      (securityRequired &&& btmSecOutFlags == btmSecOutAuthenticate && btmDevAuthenticated r) ||
      (securityRequired &&& btmSecOutFlags == btmSecOutAuthenticate ||| btmSecOutEncrypt &&
        btmDevEncrypted r)
  else
    (securityRequired &&& btmSecInFlags == 0 ||
      (securityRequired &&& btmSecInFlags == btmSecInAuthenticate && btmDevAuthenticated r) ||
      (securityRequired &&& btmSecInFlags == btmSecInAuthenticate ||| btmSecInEncrypt &&
        btmDevEncrypted r)) &&
    (securityRequired &&& btmSecInMin16DigitPin == 0 ||
      (securityRequired &&& btmSecInMin16DigitPin == btmSecInMin16DigitPin &&
        btmDev16DigitAuthenticated r))

/-- The link key check before the procedure, for a Simple Pairing peer: a Secure
Connections only service forgets any key but an authenticated P-256 one, marking a known
one for upgrade; any other service asks `btm_sec_check_upgrade`. -/
def btmSecCheckLinkKey (cb : SecCb) (r : DevRec) (isOriginator : Bool) : DevRec :=
  if btmSecIsSm4 r.sm4 then
    if r.secRec.securityRequired &&& btmSecMode4Level4 ≠ 0 ∧
        r.secRec.linkKeyType ≠ btmLkeyTypeAuthCombP256 then
      let sm4 := if r.secRec.secFlags &&& btmSecLinkKeyKnown ≠ 0 then
        r.sm4 ||| btmSm4Upgrade else r.sm4
      { r with sm4, secRec := { r.secRec with
        secFlags := r.secRec.secFlags &&&
          ~~~(btmSecLinkKeyKnown ||| btmSecLinkKeyAuthed ||| btmSecAuthenticated) } }
    else btmSecCheckUpgrade cb r isOriginator
  else r

/-- The busy path: another security procedure is running. The legacy check grants at once
for a legacy local or peer, or a Simple Pairing peer whose key cannot be upgraded;
anything else waits (`sec_req_pending`). -/
def busyAccess (cb : SecCb) (r : DevRec) (securityRequired : UInt16) (isOriginator : Bool) :
    TBtmStatus × DevRec × SecCb × List Action :=
  if cb.securityMode = btmSecModeService ∨ r.sm4 = btmSm4Known ∨
      (btmSecIsSm4 r.sm4 ∧ !btmSecIsUpgradePossible cb r isOriginator) then
    let rc : TBtmStatus := if legacyGranted r securityRequired isOriginator then .btmSuccess
      else .btmCmdStarted
    let rc : TBtmStatus :=
      if rc = .btmSuccess ∧ securityRequired &&& btmSecMode4Level4 ≠ 0 ∧
          r.secRec.linkKeyType ≠ btmLkeyTypeAuthCombP256 then .btmCmdStarted
      else rc
    if rc = .btmSuccess then
      let rc : TBtmStatus :=
        if accessSecureServiceFromTempBond r isOriginator securityRequired then
          .btmFailedOnSecurity
        else rc
      (rc, r, cb, [.callback rc])
    else (.btmCmdStarted, r, { cb with secReqPending := true }, [])
  else (.btmCmdStarted, r, { cb with secReqPending := true }, [])

/-- `security_required` as the procedure path stores it: Simple Pairing to a Simple
Pairing peer always encrypts. -/
def sm4Requirement (cb : SecCb) (r : DevRec) (securityRequired : UInt16)
    (isOriginator : Bool) : UInt16 :=
  if (cb.securityMode = btmSecModeSp ∨ cb.securityMode = btmSecModeSc) ∧ btmSecIsSm4 r.sm4 then
    securityRequired ||| (if isOriginator then btmSecOutEncrypt else btmSecInEncrypt)
  else securityRequired

/-- The procedure path, when no other security procedure is busy: wait for the peer's
features, let a Simple Pairing acceptor wait for the peer to secure the link, and
otherwise check the link key and run `btm_sec_execute_procedure`, calling back at once
unless it started something. -/
def procedureAccess (env : Env) (cb : SecCb) (r : DevRec) (securityRequired : UInt16)
    (isOriginator : Bool) : TBtmStatus × DevRec × SecCb × List Action :=
  let r := { r with secRec := { r.secRec with
    requiredSecurityFlagsForPairing := securityRequired } }
  let simplePairing := cb.securityMode = btmSecModeSp ∨ cb.securityMode = btmSecModeSc
  if simplePairing ∧ !btmSecIsSm4 r.sm4 ∧ r.sm4 &&& btmSm4Known = 0 then
    -- the peer's features are not known yet
    (.btmCmdStarted, { r with sm4 := r.sm4 ||| btmSm4ReqPend }, cb, [])
  else
    -- a Simple Pairing acceptor checks that the peer authenticated and encrypted
    let chkAcpAuthDone := simplePairing ∧ btmSecIsSm4 r.sm4 ∧ !isOriginator
    let r := { r with
      secRec := { r.secRec with
        securityRequired := sm4Requirement cb r securityRequired isOriginator },
      isOriginator }
    if chkAcpAuthDone ∧ !env.triggerSecProcOnIncAccessReq ∧
        (r.secRec.secFlags &&& btmSecAuthenticated = 0 ∨
          r.secRec.secFlags &&& btmSecEncrypted = 0) then
      -- the peer should have started security by now: check again after a delay
      (.btmSuccess, { r with secRec := { r.secRec with
        hasCallback := true, classicLink := .delayForEnc } }, cb,
        [.callback .btmDelayCheck])
    else
      let r := { r with secRec := { r.secRec with hasCallback := true } }
      let (rc, r, acts) := btmSecExecuteProcedure env (btmSecCheckLinkKey cb r isOriginator)
      if rc ≠ .btmCmdStarted then
        (rc, { r with secRec := { r.secRec with hasCallback := false } }, cb,
          acts ++ [.callback rc])
      else (rc, r, cb, acts)

/-- `btm_sec_l2cap_access_req_by_requirement(bd_addr, security_required, is_originator,
p_callback, p_ref_data)`: the status returned, the record and `btm_sec_cb` after, and what
was done outside them. -/
def btmSecL2capAccessReqByRequirement (env : Env) (cb : SecCb) (r : DevRec)
    (securityRequired : UInt16) (isOriginator : Bool) :
    TBtmStatus × DevRec × SecCb × List Action :=
  let r := { r with hciHandle := env.hciHandle }
  -- an acceptor of a Secure Connections only service needs both sides to support it
  if !isOriginator ∧ securityRequired &&& btmSecMode4Level4 ≠ 0 ∧
      (!env.localSupportsSc ∨ !r.remoteSupportsSecureConnections) then
    (.btmMode4Level4NotSupported, r, cb, [.callback .btmMode4Level4NotSupported])
  else if r.secRec.hasCallback ∨ !cb.pairingStateIdle then
    busyAccess cb r securityRequired isOriginator
  else procedureAccess env cb r securityRequired isOriginator

end Btm

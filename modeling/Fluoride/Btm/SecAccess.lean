import Fluoride.Btm.Sec

/-!
# What a grant of the BR/EDR access check establishes

L2CAP learns the outcome of `btm_sec_l2cap_access_req_by_requirement` through its
callback: a call with `BTM_SUCCESS` before the check returns opens the channel at once.
`Meets` lists what such a grant should establish about the record, for the request and
the role: authentication, encryption, an authenticated P-256 key for a Secure Connections
only service, a 16-digit PIN for an acceptor that asks for one, and no temporary bond for
a service that asks for authentication. `MitmMet` is the MITM requirement: over an
unauthenticated combination key, MITM is met only when the IO capabilities of the two
sides allow no authenticated key.

* `btmSecExecuteProcedure_meets`: a grant of the procedure on a live link meets the
  requirement stored in the record.
* `busyAccess_meets`: a grant of the busy path's legacy check meets the request, given
  that an encrypted link is authenticated.
* `btmSecL2capAccessReqByRequirement_meets`: so every grant meets the request.
* `btmSecL2capAccessReqByRequirement_mitmMet`: a grant through the procedure to a Simple
  Pairing peer meets MITM, given that an authenticated link has a known key.
* `busyAccess_or_mitm`: the busy path never reads the request's MITM bits; it decides on
  the upgrade from the requirement stored by an earlier request, and so grants a MITM
  request over a key that could be upgraded.
-/

namespace Btm

/-! ## Masks -/

section Masks

variable {s a b c e m : UInt16}

theorem or_and_self_left (a b : UInt16) : (a ||| b) &&& a = a :=
  UInt16.toBitVec_inj.1 (by ext i hi; simp +contextual)

theorem or_and_self_right (a b : UInt16) : (a ||| b) &&& b = b :=
  UInt16.toBitVec_inj.1 (by ext i hi; simp +contextual)

/-- Under a wider mask `s` shows its part under each of the two. -/
theorem and_eq_of_and_or_eq_left (h : s &&& (a ||| b) = c) : s &&& a = c &&& a := by
  rw [← h, UInt16.and_assoc, or_and_self_left]

theorem and_eq_of_and_or_eq_right (h : s &&& (a ||| b) = c) : s &&& b = c &&& b := by
  rw [← h, UInt16.and_assoc, or_and_self_right]

theorem and_or_ne_zero_left (h : s &&& a ≠ 0) : s &&& (a ||| b) ≠ 0 := fun zero =>
  h (by rw [and_eq_of_and_or_eq_left zero, UInt16.zero_and])

theorem and_or_ne_zero_right (h : s &&& b ≠ 0) : s &&& (a ||| b) ≠ 0 := fun zero =>
  h (by rw [and_eq_of_and_or_eq_right zero, UInt16.zero_and])

/-- Bits outside the mask do not change what it shows. -/
theorem or_and_of_and_eq_zero (h : e &&& m = 0) : (s ||| e) &&& m = s &&& m := by
  apply UInt16.toBitVec_inj.1
  have bits := congrArg UInt16.toBitVec h
  simp only [UInt16.toBitVec_and, UInt16.toBitVec_or, UInt16.toBitVec_zero,
    BitVec.and_or_distrib_right] at bits ⊢
  rw [bits, BitVec.or_zero]

/-- Setting bits keeps those already set. -/
theorem or_and_ne_zero (e : UInt16) (h : s &&& m ≠ 0) : (s ||| e) &&& m ≠ 0 := by
  intro zero
  apply h
  apply UInt16.toBitVec_inj.1
  have bits := congrArg UInt16.toBitVec zero
  simp only [UInt16.toBitVec_and, UInt16.toBitVec_or, UInt16.toBitVec_zero,
    BitVec.and_or_distrib_right, BitVec.or_eq_zero_iff] at bits ⊢
  exact bits.1

/-- Clearing the bits of `m` clears those of any `a` inside it. -/
theorem and_not_and_eq_zero (h : a &&& m = a) (s : UInt16) : s &&& ~~~m &&& a = 0 := by
  apply UInt16.toBitVec_inj.1
  have bits := congrArg UInt16.toBitVec h
  ext i hi
  have bit := congrArg (·[i]) bits
  simp only [UInt16.toBitVec_and, BitVec.getElem_and] at bit
  simp only [UInt16.toBitVec_and, UInt16.toBitVec_not, UInt16.toBitVec_zero,
    BitVec.getElem_and, BitVec.getElem_not, BitVec.getElem_zero]
  cases ha : a.toBitVec[i] <;> simp_all

end Masks

/-! ## What a grant should establish -/

/-- The request's authentication bit for the role. -/
def authenticateBit (isOriginator : Bool) : UInt16 :=
  if isOriginator then btmSecOutAuthenticate else btmSecInAuthenticate

/-- The request's encryption bit for the role. -/
def encryptBit (isOriginator : Bool) : UInt16 :=
  if isOriginator then btmSecOutEncrypt else btmSecInEncrypt

/-- The request's MITM bit for the role. -/
def mitmBit (isOriginator : Bool) : UInt16 :=
  if isOriginator then btmSecOutMitm else btmSecInMitm

/-- The record meets the request `s` in the given role. -/
structure Meets (r : DevRec) (s : UInt16) (isOriginator : Bool) : Prop where
  authenticated : s &&& authenticateBit isOriginator ≠ 0 → btmDevAuthenticated r = true
  encrypted : s &&& encryptBit isOriginator ≠ 0 → btmDevEncrypted r = true
  level4 : s &&& btmSecMode4Level4 ≠ 0 → r.secRec.linkKeyType = btmLkeyTypeAuthCombP256
  pin16 : isOriginator = false → s &&& btmSecInMin16DigitPin ≠ 0 →
    btmDev16DigitAuthenticated r = true
  notTempBond : accessSecureServiceFromTempBond r isOriginator s = false

/-- MITM is met: a request for it over an unauthenticated combination key is granted only
when `btm_sec_io_map` allows no authenticated key between the two IO capabilities. -/
def MitmMet (cb : SecCb) (r : DevRec) (s : UInt16) (isOriginator : Bool) : Prop :=
  s &&& mitmBit isOriginator ≠ 0 →
    (r.secRec.linkKeyType = btmLkeyTypeUnauthComb ∨
      r.secRec.linkKeyType = btmLkeyTypeUnauthCombP256) →
    ¬(r.secRec.rmtIoCaps < btmIoCapMax ∧ ioMap r.secRec.rmtIoCaps cb.locIoCaps = true)

section Requirements

variable {cb : SecCb} {r r' : DevRec} {s e : UInt16} {o : Bool}

theorem accessSecureServiceFromTempBond_or (e : UInt16)
    (h : accessSecureServiceFromTempBond r o s = true) :
    accessSecureServiceFromTempBond r o (s ||| e) = true := by
  simp only [accessSecureServiceFromTempBond, Bool.and_eq_true, bne_iff_ne, ne_eq] at h ⊢
  obtain ⟨⟨acceptor, inAuth⟩, temporary⟩ := h
  exact ⟨⟨acceptor, or_and_ne_zero e inAuth⟩, temporary⟩

/-- `Meets` reads only the flags, the key type and the bond type of the record. -/
theorem Meets.of_secRec (h : Meets r s o) (flags : r'.secRec.secFlags = r.secRec.secFlags)
    (key : r'.secRec.linkKeyType = r.secRec.linkKeyType)
    (bond : r'.secRec.bondTypeTemporary = r.secRec.bondTypeTemporary) : Meets r' s o where
  authenticated hs := by simpa only [btmDevAuthenticated, flags] using h.authenticated hs
  encrypted hs := by simpa only [btmDevEncrypted, flags] using h.encrypted hs
  level4 hs := key ▸ h.level4 hs
  pin16 ho hs := by simpa only [btmDev16DigitAuthenticated, flags] using h.pin16 ho hs
  notTempBond := by simpa only [accessSecureServiceFromTempBond, bond] using h.notTempBond

/-- A record that meets a request meets any request with fewer bits. -/
theorem Meets.of_or (h : Meets r (s ||| e) o) : Meets r s o where
  authenticated hs := h.authenticated (or_and_ne_zero e hs)
  encrypted hs := h.encrypted (or_and_ne_zero e hs)
  level4 hs := h.level4 (or_and_ne_zero e hs)
  pin16 ho hs := h.pin16 ho (or_and_ne_zero e hs)
  notTempBond := by
    cases temp : accessSecureServiceFromTempBond r o s
    · rfl
    · have stronger := accessSecureServiceFromTempBond_or e temp
      rw [h.notTempBond] at stronger
      exact absurd stronger Bool.false_ne_true

/-- `MitmMet` reads only the key type and the peer's IO capabilities. -/
theorem MitmMet.of_secRec (h : MitmMet cb r s o)
    (key : r'.secRec.linkKeyType = r.secRec.linkKeyType)
    (io : r'.secRec.rmtIoCaps = r.secRec.rmtIoCaps) : MitmMet cb r' s o := by
  unfold MitmMet at h ⊢
  rw [key, io]
  exact h

theorem MitmMet.of_or (h : MitmMet cb r (s ||| e) o) : MitmMet cb r s o :=
  fun hs => h (or_and_ne_zero e hs)

/-- With a known key that cannot be upgraded, MITM is met for the stored requirement. -/
theorem mitmMet_of_upgrade_impossible (known : r.secRec.secFlags &&& btmSecLinkKeyKnown ≠ 0)
    (impossible : btmSecIsUpgradePossible cb r o = false) :
    MitmMet cb r r.secRec.securityRequired o := by
  intro mitm unauthenticated ⟨validCaps, allowed⟩
  have possible : btmSecIsUpgradePossible cb r o = true := by
    cases o <;>
      simp_all [btmSecIsUpgradePossible, mitmBit, btmLkeyTypeUnauthComb, btmLkeyTypeUnauthCombP256]
  rw [impossible] at possible
  exact Bool.false_ne_true possible

end Requirements

/-! ## `btm_sec_execute_procedure` -/

section Execute

variable {env : Env} {r : DevRec}

/-- No authentication is needed: each role bit that asks for it finds an authenticated
link, and an acceptor's 16-digit PIN requirement was met. -/
theorem needsAuthentication_eq_false (h : needsAuthentication r = false) :
    (r.secRec.securityRequired &&& authenticateBit r.isOriginator ≠ 0 →
      btmDevAuthenticated r = true) ∧
    (r.secRec.securityRequired &&& encryptBit r.isOriginator ≠ 0 →
      btmDevAuthenticated r = true) ∧
    (r.isOriginator = false → r.secRec.securityRequired &&& btmSecInMin16DigitPin ≠ 0 →
      btmDev16DigitAuthenticated r = true) := by
  simp only [needsAuthentication, Bool.or_eq_false_iff, Bool.and_eq_false_iff,
    beq_eq_false_iff_ne, bne_eq_false_iff_eq, ne_eq] at h
  obtain ⟨auth, pin⟩ := h
  simp only [btmDevAuthenticated, btmDev16DigitAuthenticated, bne_iff_ne, ne_eq]
  cases ho : r.isOriginator <;>
    simp only [ho, authenticateBit, encryptBit, Bool.not_false, Bool.not_true, ↓reduceIte,
      bne_eq_false_iff_eq, Bool.true_eq_false, Bool.false_eq_true, or_false, false_implies,
      true_implies, and_true] at auth pin ⊢
  case false =>
    exact ⟨fun hs => auth.resolve_right (and_or_ne_zero_left hs),
      fun hs => auth.resolve_right (and_or_ne_zero_right hs), fun hs => pin.resolve_right hs⟩
  case true =>
    exact ⟨fun hs => auth.resolve_right (and_or_ne_zero_left hs),
      fun hs => auth.resolve_right (and_or_ne_zero_right hs)⟩

/-- No encryption is needed: the role's encryption bit finds an encrypted link. -/
theorem needsEncryption_eq_false (h : needsEncryption r = false)
    (hs : r.secRec.securityRequired &&& encryptBit r.isOriginator ≠ 0) :
    btmDevEncrypted r = true := by
  cases ho : r.isOriginator <;>
    simp_all [needsEncryption, encryptBit, btmDevEncrypted]

/-- The procedure emits no callback of its own. -/
theorem callback_not_mem_btmSecExecuteProcedure (status : TBtmStatus) :
    Action.callback status ∉ (btmSecExecuteProcedure env r).2.2 := by
  unfold btmSecExecuteProcedure
  split_ifs <;> simp

/-- A grant of the procedure on a live link: nothing needed authentication or encryption,
the key was good enough for the service, and no temporary bond was used; only the
authentication and encryption bits of the stored requirement are cleared. -/
theorem btmSecExecuteProcedure_granted (live : r.hciHandle ≠ hciInvalidHandle)
    (granted : (btmSecExecuteProcedure env r).1 = .btmSuccess) :
    needsAuthentication r = false ∧ needsEncryption r = false ∧
      (r.secRec.securityRequired &&& btmSecMode4Level4 ≠ 0 →
        r.secRec.linkKeyType = btmLkeyTypeAuthCombP256) ∧
      accessSecureServiceFromTempBond r r.isOriginator r.secRec.securityRequired = false ∧
      (btmSecExecuteProcedure env r).2.1 = { r with secRec := { r.secRec with
        securityRequired := r.secRec.securityRequired &&&
          ~~~(btmSecOutAuthenticate ||| btmSecInAuthenticate ||| btmSecOutEncrypt |||
            btmSecInEncrypt) } } := by
  unfold btmSecExecuteProcedure at granted ⊢
  split_ifs at granted with busy name up auth collision encrypt level4 temp
  refine ⟨?_, ?_, fun hs => ?_, Bool.eq_false_iff.2 temp, ?_⟩
  · exact Bool.eq_false_iff.2 fun needed => auth ⟨live, needed⟩
  · exact Bool.eq_false_iff.2 fun needed => encrypt ⟨needed, live⟩
  · exact Decidable.byContradiction fun other => level4 ⟨hs, other⟩
  · rw [if_neg busy, if_neg name, if_neg auth, if_neg encrypt, if_neg level4, if_neg temp]

/-- A grant of the procedure on a live link meets the requirement stored in the record. -/
theorem btmSecExecuteProcedure_meets (live : r.hciHandle ≠ hciInvalidHandle)
    (granted : (btmSecExecuteProcedure env r).1 = .btmSuccess) :
    Meets r r.secRec.securityRequired r.isOriginator := by
  obtain ⟨auth, encrypt, level4, temp, -⟩ := btmSecExecuteProcedure_granted live granted
  obtain ⟨authenticated, _, pin16⟩ := needsAuthentication_eq_false auth
  exact ⟨authenticated, needsEncryption_eq_false encrypt, level4, pin16, temp⟩

end Execute

/-! ## The busy path -/

section Busy

variable {cb : SecCb} {r : DevRec} {s : UInt16} {o : Bool}

/-- The legacy check of one role, with `a` its authentication bit and `e` its encryption
bit: exactly none, authentication with an authenticated link, or both with an encrypted
one. An encrypted link that is authenticated meets the bits asked. -/
theorem legacyCheck_meets {a e : UInt16} {authenticated encrypted : Bool}
    (disjoint : a &&& e = 0)
    (encAuth : encrypted = true → authenticated = true)
    (h : (s &&& (a ||| e) == 0 || (s &&& (a ||| e) == a && authenticated) ||
      (s &&& (a ||| e) == a ||| e && encrypted)) = true) :
    (s &&& a ≠ 0 → authenticated = true) ∧ (s &&& e ≠ 0 → encrypted = true) := by
  simp only [Bool.or_eq_true, Bool.and_eq_true, beq_iff_eq] at h
  rcases h with (none | ⟨onlyAuth, auth⟩) | ⟨both, enc⟩
  · -- nothing asked
    refine ⟨fun hs => absurd ?_ hs, fun hs => absurd ?_ hs⟩
    · rw [and_eq_of_and_or_eq_left none, UInt16.zero_and]
    · rw [and_eq_of_and_or_eq_right none, UInt16.zero_and]
  · -- authentication alone
    refine ⟨fun _ => auth, fun hs => absurd ?_ hs⟩
    rw [and_eq_of_and_or_eq_right onlyAuth, disjoint]
  · -- both, on an encrypted link
    exact ⟨fun _ => encAuth enc, fun _ => enc⟩

/-- The busy path reports to the record it was given. -/
theorem busyAccess_record : (busyAccess cb r s o).2.1 = r := by
  unfold busyAccess
  dsimp only
  split_ifs <;> rfl

/-- A grant of the busy path: the legacy check passed, a Secure Connections only request
found an authenticated P-256 key, and no temporary bond was used. -/
theorem busyAccess_granted
    (granted : Action.callback .btmSuccess ∈ (busyAccess cb r s o).2.2.2) :
    legacyGranted r s o = true ∧
      (s &&& btmSecMode4Level4 ≠ 0 → r.secRec.linkKeyType = btmLkeyTypeAuthCombP256) ∧
      accessSecureServiceFromTempBond r o s = false := by
  unfold busyAccess at granted
  dsimp only at granted
  split_ifs at granted with mode legacy level4 success temp <;>
    simp only [List.mem_singleton, List.not_mem_nil, Action.callback.injEq,
      reduceCtorEq] at granted
  rename_i temp
  · exact ⟨legacy, fun hs => Decidable.byContradiction fun other => level4 ⟨rfl, hs, other⟩,
      Bool.eq_false_iff.2 temp⟩

/-- A grant of the busy path meets the request, given that an encrypted link is
authenticated. -/
theorem busyAccess_meets (encAuth : btmDevEncrypted r = true → btmDevAuthenticated r = true)
    (granted : Action.callback .btmSuccess ∈ (busyAccess cb r s o).2.2.2) :
    Meets (busyAccess cb r s o).2.1 s o := by
  obtain ⟨legacy, level4, temp⟩ := busyAccess_granted granted
  rw [busyAccess_record]
  cases o
  · -- acceptor: the flags, then the 16-digit PIN
    simp only [legacyGranted, Bool.false_eq_true, if_false, Bool.and_eq_true] at legacy
    obtain ⟨flags, pin⟩ := legacy
    obtain ⟨authenticated, encrypted⟩ := legacyCheck_meets (by decide) encAuth flags
    refine ⟨authenticated, encrypted, level4, fun _ hs => ?_, temp⟩
    simp only [Bool.or_eq_true, Bool.and_eq_true, beq_iff_eq] at pin
    exact pin.resolve_left hs |>.2
  · simp only [legacyGranted, if_true, btmSecOutFlags] at legacy
    obtain ⟨authenticated, encrypted⟩ := legacyCheck_meets (by decide) encAuth legacy
    exact ⟨authenticated, encrypted, level4, nofun, temp⟩

section Mitm

variable (r : DevRec) (s : UInt16) (o : Bool)

theorem legacyGranted_or_mitm :
    legacyGranted r (s ||| btmSecOutMitm ||| btmSecInMitm) o = legacyGranted r s o := by
  simp (disch := decide) only [legacyGranted, btmSecOutFlags, btmSecInFlags,
    or_and_of_and_eq_zero]

theorem accessSecureServiceFromTempBond_or_mitm :
    accessSecureServiceFromTempBond r o (s ||| btmSecOutMitm ||| btmSecInMitm) =
      accessSecureServiceFromTempBond r o s := by
  simp (disch := decide) only [accessSecureServiceFromTempBond, or_and_of_and_eq_zero]

/-- The busy path never reads the request's MITM bits. -/
theorem busyAccess_or_mitm (cb : SecCb) :
    busyAccess cb r (s ||| btmSecOutMitm ||| btmSecInMitm) o = busyAccess cb r s o := by
  have level4 : (s ||| btmSecOutMitm ||| btmSecInMitm) &&& btmSecMode4Level4 =
      s &&& btmSecMode4Level4 := by
    simp (disch := decide) only [or_and_of_and_eq_zero]
  simp only [busyAccess, legacyGranted_or_mitm, accessSecureServiceFromTempBond_or_mitm, level4]

/-- While a pairing runs, a Simple Pairing peer whose stored requirement asked for nothing
is granted a request for authentication, encryption and MITM over an unauthenticated key
that its IO capabilities could upgrade; with no pairing running, the same request starts
authentication instead. -/
theorem busy_mitm_request_granted_over_upgradable_key :
    let cb : SecCb := ⟨btmSecModeSp, false, 1, false⟩
    let r : DevRec :=
      ⟨⟨btmSecAuthenticated ||| btmSecEncrypted ||| btmSecNameKnown ||| btmSecLinkKeyKnown,
        0, 0, btmLkeyTypeUnauthComb, 1, .idle, false, false⟩, btmSm4True, 1, true, true⟩
    let env : Env := ⟨1, true, true, false, false, false⟩
    let s := btmSecOutAuthenticate ||| btmSecOutEncrypt ||| btmSecOutMitm
    btmSecL2capAccessReqByRequirement env cb r s true =
        (.btmSuccess, r, cb, [.callback .btmSuccess]) ∧
      ¬MitmMet cb r s true ∧
      (btmSecL2capAccessReqByRequirement env { cb with pairingStateIdle := true } r s
        true).2.2.2 = [.startAuthentication] := by
  intro cb r env s
  refine ⟨by decide, fun mitm => mitm (by decide) (Or.inl rfl) ⟨by decide, by decide⟩, by decide⟩

end Mitm

end Busy

/-! ## The access check -/

section Access

variable {env : Env} {cb : SecCb} {r r' : DevRec} {s : UInt16} {o : Bool}
  {acts : List Action}

/-- The link key check changes only `sm4` and the flags. -/
theorem btmSecCheckLinkKey_frame (cb : SecCb) (r : DevRec) (o : Bool) :
    ∃ sm4 flags, btmSecCheckLinkKey cb r o =
      { r with sm4, secRec := { r.secRec with secFlags := flags } } := by
  unfold btmSecCheckLinkKey btmSecCheckUpgrade
  split_ifs <;> exact ⟨_, _, rfl⟩

/-- A grant of the procedure after the link key check meets the requirement stored before
it. -/
theorem procedure_meets (live : r.hciHandle ≠ hciInvalidHandle)
    (granted : (btmSecExecuteProcedure env (btmSecCheckLinkKey cb r o)).1 = .btmSuccess) :
    Meets (btmSecExecuteProcedure env (btmSecCheckLinkKey cb r o)).2.1
      r.secRec.securityRequired r.isOriginator := by
  obtain ⟨sm4, flags, checked⟩ := btmSecCheckLinkKey_frame cb r o
  rw [checked] at granted ⊢
  have meets := btmSecExecuteProcedure_meets (by exact live) granted
  obtain ⟨-, -, -, -, after⟩ := btmSecExecuteProcedure_granted (by exact live) granted
  rw [after]
  exact meets.of_secRec rfl rfl rfl

theorem sm4Requirement_meets (h : Meets r (sm4Requirement cb r' s o) o) : Meets r s o := by
  unfold sm4Requirement at h
  split at h
  · exact h.of_or
  · exact h

/-- A grant of the procedure path on a live link meets the request. -/
theorem procedureAccess_meets (live : r.hciHandle ≠ hciInvalidHandle)
    (granted : Action.callback .btmSuccess ∈ (procedureAccess env cb r s o).2.2.2) :
    Meets (procedureAccess env cb r s o).2.1 s o := by
  unfold procedureAccess at granted ⊢
  dsimp only at granted ⊢
  split_ifs at granted ⊢ with features delay started
  · simp at granted
  · simp at granted
  · -- the procedure's verdict, reported through the callback
    simp only [List.mem_append, List.mem_singleton, Action.callback.injEq] at granted
    rcases granted with inner | success
    · exact absurd inner (callback_not_mem_btmSecExecuteProcedure _)
    · exact (sm4Requirement_meets (procedure_meets (by exact live) success.symm)).of_secRec rfl rfl rfl
  · exact absurd granted (callback_not_mem_btmSecExecuteProcedure _)

/-- Every grant of the access check on a live link meets the request, given that an
encrypted link is authenticated. -/
theorem btmSecL2capAccessReqByRequirement_meets (live : env.hciHandle ≠ hciInvalidHandle)
    (encAuth : btmDevEncrypted r = true → btmDevAuthenticated r = true)
    (granted : Action.callback .btmSuccess ∈
      (btmSecL2capAccessReqByRequirement env cb r s o).2.2.2) :
    Meets (btmSecL2capAccessReqByRequirement env cb r s o).2.1 s o := by
  unfold btmSecL2capAccessReqByRequirement at granted ⊢
  dsimp only at granted ⊢
  split_ifs at granted ⊢ with level4 busy
  · simp at granted
  · exact busyAccess_meets encAuth granted
  · exact procedureAccess_meets live granted

/-! ## MITM on the procedure path -/

theorem sm4Requirement_of_sm4
    (sp : cb.securityMode = btmSecModeSp ∨ cb.securityMode = btmSecModeSc)
    (sm4 : btmSecIsSm4 r.sm4 = true) : sm4Requirement cb r s o = s ||| encryptBit o := by
  unfold sm4Requirement encryptBit
  rw [if_pos ⟨sp, sm4⟩]

/-- A grant of the procedure after the link key check of a Simple Pairing peer, for a
requirement that encrypts, meets MITM: a key that could be upgraded was forgotten together
with the authentication, which the procedure would then have started. -/
theorem procedure_mitmMet (live : r.hciHandle ≠ hciInvalidHandle)
    (sm4 : btmSecIsSm4 r.sm4 = true)
    (encrypt : r.secRec.securityRequired &&& encryptBit r.isOriginator ≠ 0)
    (keyKnown : btmDevAuthenticated r = true → r.secRec.secFlags &&& btmSecLinkKeyKnown ≠ 0)
    (granted : (btmSecExecuteProcedure env (btmSecCheckLinkKey cb r r.isOriginator)).1 =
      .btmSuccess) :
    MitmMet cb (btmSecExecuteProcedure env (btmSecCheckLinkKey cb r r.isOriginator)).2.1
      r.secRec.securityRequired r.isOriginator := by
  obtain ⟨sm4', flags, checked⟩ := btmSecCheckLinkKey_frame cb r r.isOriginator
  rw [checked] at granted ⊢
  obtain ⟨auth, -, -, -, after⟩ := btmSecExecuteProcedure_granted (by exact live) granted
  rw [after]
  -- the procedure found the link authenticated
  have authenticated : flags &&& btmSecAuthenticated ≠ 0 := by
    simpa only [btmDevAuthenticated, bne_iff_ne] using
      (needsAuthentication_eq_false auth).2.1 encrypt
  refine MitmMet.of_secRec (r := r) ?_ rfl rfl
  unfold btmSecCheckLinkKey at checked
  rw [if_pos sm4] at checked
  have cleared := congrArg (fun x => x.secRec.secFlags) checked
  split at cleared
  next level4 =>
    -- a Secure Connections only service forgot the key and the authentication
    dsimp only at cleared
    rw [← cleared] at authenticated
    exact absurd (and_not_and_eq_zero (by decide) _) authenticated
  next =>
    unfold btmSecCheckUpgrade at cleared
    split at cleared
    next unknown =>
      -- without a known key the link was not authenticated
      dsimp only at cleared
      exact absurd unknown (keyKnown (by simpa only [btmDevAuthenticated, bne_iff_ne, cleared]))
    next known =>
      split at cleared
      next possible =>
        -- the key was forgotten for an upgrade, and the authentication with it
        dsimp only at cleared
        rw [← cleared] at authenticated
        exact absurd (and_not_and_eq_zero (by decide) _) authenticated
      next impossible =>
        exact mitmMet_of_upgrade_impossible known (Bool.eq_false_iff.2 impossible)

/-- A grant of the procedure path to a Simple Pairing peer meets MITM, given that an
authenticated link has a known key. -/
theorem procedureAccess_mitmMet (live : r.hciHandle ≠ hciInvalidHandle)
    (sp : cb.securityMode = btmSecModeSp ∨ cb.securityMode = btmSecModeSc)
    (sm4 : btmSecIsSm4 r.sm4 = true)
    (keyKnown : btmDevAuthenticated r = true → r.secRec.secFlags &&& btmSecLinkKeyKnown ≠ 0)
    (granted : Action.callback .btmSuccess ∈ (procedureAccess env cb r s o).2.2.2) :
    MitmMet cb (procedureAccess env cb r s o).2.1 s o := by
  have stored : sm4Requirement cb { r with secRec := { r.secRec with
      requiredSecurityFlagsForPairing := s } } s o = s ||| encryptBit o :=
    sm4Requirement_of_sm4 sp sm4
  have encrypt : (s ||| encryptBit o) &&& encryptBit o ≠ 0 := by
    rw [or_and_self_right]
    cases o <;> decide
  unfold procedureAccess at granted ⊢
  dsimp only at granted ⊢
  split_ifs at granted ⊢ with features delay started
  · simp at granted
  · simp at granted
  · simp only [List.mem_append, List.mem_singleton, Action.callback.injEq] at granted
    rcases granted with inner | success
    · exact absurd inner (callback_not_mem_btmSecExecuteProcedure _)
    · have mitm := procedure_mitmMet (by exact live) (by exact sm4) (by exact stored ▸ encrypt)
        (by exact keyKnown) success.symm
      refine MitmMet.of_secRec (fun hs => mitm ?_) rfl rfl
      rw [stored]
      exact or_and_ne_zero _ hs
  · exact absurd granted (callback_not_mem_btmSecExecuteProcedure _)

/-- A grant of the access check through the procedure, to a Simple Pairing peer on a live
link, meets MITM, given that an authenticated link has a known key. -/
theorem btmSecL2capAccessReqByRequirement_mitmMet (live : env.hciHandle ≠ hciInvalidHandle)
    (noCallback : r.secRec.hasCallback = false) (pairingIdle : cb.pairingStateIdle = true)
    (sp : cb.securityMode = btmSecModeSp ∨ cb.securityMode = btmSecModeSc)
    (sm4 : btmSecIsSm4 r.sm4 = true)
    (keyKnown : btmDevAuthenticated r = true → r.secRec.secFlags &&& btmSecLinkKeyKnown ≠ 0)
    (granted : Action.callback .btmSuccess ∈
      (btmSecL2capAccessReqByRequirement env cb r s o).2.2.2) :
    MitmMet cb (btmSecL2capAccessReqByRequirement env cb r s o).2.1 s o := by
  unfold btmSecL2capAccessReqByRequirement at granted ⊢
  dsimp only at granted ⊢
  split_ifs at granted ⊢ with level4 busy
  · simp at granted
  · simp [noCallback, pairingIdle] at busy
  · exact procedureAccess_mitmMet live sp sm4 keyKnown granted

end Access

end Btm

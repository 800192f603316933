import Fluoride.Lib.Loop
import Mathlib.Data.UInt

/-!
# AVDTP — configuration parameters on the wire (`avdt_msg.cc`)

`avdt_msg_bld_cfg` writes the service categories of an `AvdtpSepConfig` (media
transport, reporting, codec, content protection, delay reporting) as category, length
and value; `avdt_msg_prs_cfg` walks such bytes back into a configuration, checking each
element's length against `avdt_msg_ie_len_min` and `_max`.

The message is a list of bytes and `len` the parser's length argument; the pointer `p`
is an offset into the list. A byte past the end of the list reads as zero, so that what
the parser would read outside `[p, p + len)` is visible in the model
(`avdtMsgPrsCfg_congr_take` shows that it reads nothing there). `memcpy` into the
configuration's arrays grows the list when it writes past the end, so that a write out of
bounds is visible too. The parse loop is `Loop.whileLoop` with fuel `len + 2`, enough by
`avdtMsgPrsCfg_isSome`. A null `p_cfg` (`AVDT_ERR_BAD_STATE`) is not modelled.
-/

namespace Avdt

/-! ## Constants (`avdt_defs.h`, `avdt_api.h`, `bt_target.h`) -/

def avdtCatTrans : UInt8 := 1
def avdtCatReport : UInt8 := 2
def avdtCatRecov : UInt8 := 3
def avdtCatProtect : UInt8 := 4
def avdtCatHdrcmp : UInt8 := 5
def avdtCatMux : UInt8 := 6
def avdtCatCodec : UInt8 := 7
def avdtCatDelayRpt : UInt8 := 8
def avdtCatMaxCur : UInt8 := avdtCatDelayRpt

def avdtLenCfgMin : Nat := 2
def avdtCodecSize : Nat := 20
def avdtProtectSize : Nat := 90

def avdtPscTrans : UInt16 := (1 : UInt16) <<< 1
def avdtPscReport : UInt16 := (1 : UInt16) <<< 2
def avdtPscProtect : UInt16 := (1 : UInt16) <<< 4
def avdtPscCodec : UInt16 := (1 : UInt16) <<< 7
def avdtPscDelayRpt : UInt16 := (1 : UInt16) <<< 8

def avdtSigSetconfig : UInt8 := 3
def avdtSigGetconfig : UInt8 := 4
def avdtSigReconfig : UInt8 := 5

def avdtErrLength : UInt8 := 0x11
def avdtErrCategory : UInt8 := 0x17
def avdtErrPayload : UInt8 := 0x18
def avdtErrRecovType : UInt8 := 0x22
def avdtErrMediaTrans : UInt8 := 0x23
def avdtErrRecovFmt : UInt8 := 0x25
def avdtErrRohcFmt : UInt8 := 0x26
def avdtErrCpFmt : UInt8 := 0x27
def avdtErrMuxFmt : UInt8 := 0x28
def avdtErrService : UInt8 := 0x80

def avdtRecovRfc2733 : UInt8 := 1
def avdtRecovMrwsMin : UInt8 := 0x01
def avdtRecovMrwsMax : UInt8 := 0x18
def avdtRecovMnmpMin : UInt8 := 0x01
def avdtRecovMnmpMax : UInt8 := 0x18

/-- `avdt_msg_ie_len_min`, by category: `AVDT_LEN_TRANS_MIN`, `_REPORT_MIN`,
`_RECOV_MIN`, `_PROTECT_MIN`, `_HDRCMP_MIN`, `_MUX_MIN`, `_CODEC_MIN`,
`_DELAY_RPT_MIN`. -/
def avdtMsgIeLenMin : List Nat := [0, 0, 0, 3, 2, 1, 3, 2, 0]

/-- `avdt_msg_ie_len_max`, by category. -/
def avdtMsgIeLenMax : List Nat := [0, 0, 0, 3, 255, 1, 7, 255, 0]

/-- `avdt_msg_ie_err`, by category. -/
def avdtMsgIeErr : List UInt8 :=
  [0, avdtErrMediaTrans, avdtErrLength, avdtErrRecovFmt, avdtErrCpFmt, avdtErrRohcFmt,
    avdtErrMuxFmt, avdtErrService, avdtErrService]

/-! ## The configuration and the byte helpers -/

/-- `AvdtpSepConfig`: `codec_info` has `AVDT_CODEC_SIZE` bytes and `protect_info`
`AVDT_PROTECT_SIZE`. -/
structure AvdtpSepConfig where
  codecInfo : List UInt8
  protectInfo : List UInt8
  numCodec : UInt8
  numProtect : UInt8
  pscMask : UInt16
  recovType : UInt8
  recovMrws : UInt8
  recovMnmp : UInt8
  hdrcmpMask : UInt8
  deriving DecidableEq, Repr

/-- A value-initialised configuration, `AvdtpSepConfig cfg{}` in `avdt_msg_ind`. -/
def AvdtpSepConfig.empty : AvdtpSepConfig :=
  ⟨List.replicate avdtCodecSize 0, List.replicate avdtProtectSize 0, 0, 0, 0, 0, 0, 0, 0⟩

/-- `memcpy(&dst[off], src, n)` with `n` the length of `src`. -/
def memcpy (dst : List UInt8) (off : Nat) (src : List UInt8) : List UInt8 :=
  dst.take off ++ src ++ dst.drop (off + src.length)

/-- The `n` bytes at offset `off` of a buffer, as `memcpy` reads them. -/
def readBytes (buf : List UInt8) (off n : Nat) : List UInt8 :=
  (buf.drop off).take n

/-! ## `avdt_msg_bld_cfg` -/

/-- `avdt_msg_bld_cfg`: the bytes it writes. The codec and protection lengths are
`uint8_t`, so a first byte of 255 gives a length of 0. -/
def avdtMsgBldCfg (cfg : AvdtpSepConfig) : List UInt8 :=
  (if cfg.pscMask &&& avdtPscTrans ≠ 0 then [avdtCatTrans, 0] else []) ++
  (if cfg.pscMask &&& avdtPscReport ≠ 0 then [avdtCatReport, 0] else []) ++
  (if cfg.numCodec ≠ 0 then
    let len := cfg.codecInfo.getD 0 0 + 1
    let len := if len.toNat > avdtCodecSize then avdtCodecSize else len.toNat
    avdtCatCodec :: cfg.codecInfo.take len
  else []) ++
  (if cfg.numProtect ≠ 0 then
    let len := cfg.protectInfo.getD 0 0 + 1
    let len := if len.toNat > avdtProtectSize then avdtProtectSize else len.toNat
    avdtCatProtect :: cfg.protectInfo.take len
  else []) ++
  (if cfg.pscMask &&& avdtPscDelayRpt ≠ 0 then [avdtCatDelayRpt, 0] else [])

/-! ## `avdt_msg_prs_cfg` -/

/-- The locals of the parse loop: `p` as an offset, `err`, the last `elem` read, the
configuration, and `protect_offset`. -/
structure PrsCfgState where
  pos : Nat
  err : UInt8
  elem : UInt8
  cfg : AvdtpSepConfig
  protectOffset : Nat
  deriving DecidableEq, Repr

/-- The `AVDT_CAT_RECOV` case: three bytes, of type RFC 2733 with window size and packet
count in range. -/
def prsCfgRecov (buf : List UInt8) (pEnd : Nat) (st : PrsCfgState) : PrsCfgState :=
  if pEnd - st.pos < 3 then { st with err := avdtErrPayload }
  else
    let recovType := buf.getD st.pos 0
    let recovMrws := buf.getD (st.pos + 1) 0
    let recovMnmp := buf.getD (st.pos + 2) 0
    let err :=
      if recovType ≠ avdtRecovRfc2733 then avdtErrRecovType
      else if recovMrws < avdtRecovMrwsMin ∨ recovMrws > avdtRecovMrwsMax ∨
          recovMnmp < avdtRecovMnmpMin ∨ recovMnmp > avdtRecovMnmpMax then avdtErrRecovFmt
      else 0
    { st with pos := st.pos + 3, err, cfg := { st.cfg with recovType, recovMrws, recovMnmp } }

/-- The `AVDT_CAT_PROTECT` case: the element must lie inside the buffer; it is stored,
length first, only while it fits before `AVDT_PROTECT_SIZE`. -/
def prsCfgProtect (buf : List UInt8) (pEnd : Nat) (elemLen : UInt8) (st : PrsCfgState) :
    PrsCfgState :=
  let st := { st with cfg := { st.cfg with pscMask := st.cfg.pscMask &&& ~~~avdtPscProtect } }
  if st.pos + elemLen.toNat > pEnd then { st with err := avdtErrLength }
  else
    let st :=
      if elemLen.toNat + st.protectOffset < avdtProtectSize then
        { st with
          cfg := { st.cfg with
            numProtect := st.cfg.numProtect + 1,
            protectInfo := memcpy (st.cfg.protectInfo.set st.protectOffset elemLen)
              (st.protectOffset + 1) (readBytes buf st.pos elemLen.toNat) },
          protectOffset := st.protectOffset + 1 + elemLen.toNat }
      else st
    { st with pos := st.pos + elemLen.toNat }

/-- The `AVDT_CAT_HDRCMP` case: one byte. -/
def prsCfgHdrcmp (buf : List UInt8) (pEnd : Nat) (st : PrsCfgState) : PrsCfgState :=
  if pEnd - st.pos < 1 then { st with err := avdtErrPayload }
  else { st with pos := st.pos + 1, cfg := { st.cfg with hdrcmpMask := buf.getD st.pos 0 } }

/-- The `AVDT_CAT_CODEC` case: the copy is capped at `AVDT_CODEC_SIZE - 1` bytes and only
that many are checked against the end, but the element's own length is stored as the
first byte and skipped. -/
def prsCfgCodec (buf : List UInt8) (pEnd : Nat) (elemLen : UInt8) (st : PrsCfgState) :
    PrsCfgState :=
  let st := { st with cfg := { st.cfg with pscMask := st.cfg.pscMask &&& ~~~avdtPscCodec } }
  let tmp := if elemLen.toNat ≥ avdtCodecSize then avdtCodecSize - 1 else elemLen.toNat
  if st.pos + tmp > pEnd then { st with err := avdtErrLength }
  else
    { st with
      pos := st.pos + elemLen.toNat,
      cfg := { st.cfg with
        numCodec := st.cfg.numCodec + 1,
        codecInfo := memcpy (st.cfg.codecInfo.set 0 elemLen) 1 (readBytes buf st.pos tmp) } }

/-- One round of the `while ((p < p_end) && (err == 0))` loop of `avdt_msg_prs_cfg`:
the element header, the category and length checks, then the `switch`. -/
def avdtMsgPrsCfgBody (buf : List UInt8) (pEnd : Nat) (sigId : UInt8) (st : PrsCfgState) :
    PrsCfgState :=
  if pEnd - st.pos < avdtLenCfgMin then { st with err := avdtErrPayload }
  else
    let elem := buf.getD st.pos 0
    let elemLen := buf.getD (st.pos + 1) 0
    let st := { st with pos := st.pos + 2, elem }
    if elem = 0 ∨ elem > avdtCatMaxCur then
      if sigId = avdtSigSetconfig ∨ sigId = avdtSigReconfig then { st with err := avdtErrCategory }
      -- a category too new for us: skipped, its length unchecked
      else { st with pos := st.pos + elemLen.toNat }
    else if elemLen.toNat > avdtMsgIeLenMax.getD elem.toNat 0 ∨
        elemLen.toNat < avdtMsgIeLenMin.getD elem.toNat 0 then
      { st with err := avdtMsgIeErr.getD elem.toNat 0 }
    else
      let st := { st with cfg := { st.cfg with pscMask := st.cfg.pscMask ||| 1 <<< elem.toUInt16 } }
      if elem = avdtCatRecov then prsCfgRecov buf pEnd st
      else if elem = avdtCatProtect then prsCfgProtect buf pEnd elemLen st
      else if elem = avdtCatHdrcmp then prsCfgHdrcmp buf pEnd st
      else if elem = avdtCatCodec then prsCfgCodec buf pEnd elemLen st
      else if elem = avdtCatDelayRpt then st
      -- media transport, reporting and multiplexing: skipped
      else { st with pos := st.pos + elemLen.toNat }

/-- The loop condition `(p < p_end) && (err == 0)`. -/
def PrsCfgCont (pEnd : Nat) (st : PrsCfgState) : Prop := st.pos < pEnd ∧ st.err = 0

instance (pEnd : Nat) : DecidablePred (PrsCfgCont pEnd) :=
  fun st => inferInstanceAs (Decidable (st.pos < pEnd ∧ st.err = 0))

/-- `avdt_msg_prs_cfg p_cfg p len p_elem sig_id`: the error code, the element reported in
`*p_elem`, and the configuration. The masks and counts are cleared first; the arrays keep
what they held. -/
def avdtMsgPrsCfg (cfg : AvdtpSepConfig) (buf : List UInt8) (len : Nat) (sigId : UInt8) :
    Option (UInt8 × UInt8 × AvdtpSepConfig) :=
  Loop.whileLoop (PrsCfgCont len) (avdtMsgPrsCfgBody buf len sigId)
    (fun st => (st.err, st.elem, st.cfg)) (len + 2)
    ⟨0, 0, 0, { cfg with pscMask := 0, numCodec := 0, numProtect := 0 }, 0⟩

end Avdt

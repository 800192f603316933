import Mathlib.Data.UInt

/-!
# A2DP SBC codec negotiation (`a2dp_sbc.cc`)

`A2dpCodecConfigSbcBase::setCodecConfig` negotiates an SBC configuration from the peer's
codec information (a capability, or a configuration the peer chose) and the local
capabilities of the role (`a2dp_sbc_source_caps` or `a2dp_sbc_sink_caps`). Each parameter
is chosen in turn: the user's preference if the common capability has it, then the audio
configuration, then the default configuration, then the best common value. The chosen
configuration is written to `p_result_codec_config` with `A2DP_BuildInfoSbc` and kept in
`ota_codec_config_`. On entry the function saves the eight fields it may change; every
failure jumps to `fail`, which restores them and returns `status`.

A codec information element is a byte list read from its `LOSC` octet; `A2DP_ParseInfoSbc`
reads its first seven bytes, past the end of the list as 0 (the callers pass
`AVDT_CODEC_SIZE` byte buffers). A parse that fails is `.error`: the fields a failed parse
has already written are never read afterwards. The `btav_a2dp_codec_config_t` fields this
function does not touch (`codec_type`, `codec_priority`), the lock and the logging are left
out.
-/

namespace A2dp

/-! ## Constants -/

-- `a2dp_sbc_constants.h`
def a2dpSbcInfoLen : UInt8 := 6

def a2dpSbcIeSampFreqMsk : UInt8 := 0xF0
def a2dpSbcIeSampFreq16 : UInt8 := 0x80
def a2dpSbcIeSampFreq32 : UInt8 := 0x40
def a2dpSbcIeSampFreq44 : UInt8 := 0x20
def a2dpSbcIeSampFreq48 : UInt8 := 0x10

def a2dpSbcIeChMdMsk : UInt8 := 0x0F
def a2dpSbcIeChMdMono : UInt8 := 0x08
def a2dpSbcIeChMdDual : UInt8 := 0x04
def a2dpSbcIeChMdStereo : UInt8 := 0x02
def a2dpSbcIeChMdJoint : UInt8 := 0x01

def a2dpSbcIeBlocksMsk : UInt8 := 0xF0
def a2dpSbcIeBlocks4 : UInt8 := 0x80
def a2dpSbcIeBlocks8 : UInt8 := 0x40
def a2dpSbcIeBlocks12 : UInt8 := 0x20
def a2dpSbcIeBlocks16 : UInt8 := 0x10

def a2dpSbcIeSubbandMsk : UInt8 := 0x0C
def a2dpSbcIeSubband4 : UInt8 := 0x08
def a2dpSbcIeSubband8 : UInt8 := 0x04

def a2dpSbcIeAllocMdMsk : UInt8 := 0x03
def a2dpSbcIeAllocMdS : UInt8 := 0x02
def a2dpSbcIeAllocMdL : UInt8 := 0x01

def a2dpSbcIeMinBitpool : UInt8 := 2
def a2dpSbcIeMaxBitpool : UInt8 := 250
def a2dpSbcMaxBitpool : UInt8 := 53

def avdtMediaTypeAudio : UInt8 := 0
def a2dpMediaCtSbc : UInt8 := 0

-- `A2DP_BitsSet` results (`a2dp_api.h`)
def a2dpSetZeroBit : UInt8 := 0
def a2dpSetOneBit : UInt8 := 1
def a2dpSetMultlBit : UInt8 := 2

-- `btav_a2dp_codec_sample_rate_t`, `_bits_per_sample_t` and `_channel_mode_t` (`bt_av.h`)
def btavA2dpCodecSampleRateNone : UInt32 := 0x0
def btavA2dpCodecSampleRate44100 : UInt32 := 0x1
def btavA2dpCodecSampleRate48000 : UInt32 := 0x2
def btavA2dpCodecSampleRate88200 : UInt32 := 0x4
def btavA2dpCodecSampleRate96000 : UInt32 := 0x8
def btavA2dpCodecSampleRate176400 : UInt32 := 0x10
def btavA2dpCodecSampleRate192000 : UInt32 := 0x20
def btavA2dpCodecSampleRate16000 : UInt32 := 0x40
def btavA2dpCodecSampleRate24000 : UInt32 := 0x80

def btavA2dpCodecBitsPerSampleNone : UInt32 := 0x0
def btavA2dpCodecBitsPerSample16 : UInt32 := 0x1
def btavA2dpCodecBitsPerSample24 : UInt32 := 0x2
def btavA2dpCodecBitsPerSample32 : UInt32 := 0x4

def btavA2dpCodecChannelModeNone : UInt32 := 0x0
def btavA2dpCodecChannelModeMono : UInt32 := 0x1
def btavA2dpCodecChannelModeStereo : UInt32 := 0x2

/-- The `tA2DP_STATUS` values the SBC functions return. -/
inductive TA2dpStatus
  | a2dpSuccess
  | avdtpUnsupportedConfiguration
  | a2dpInvalidSamplingFrequency
  | a2dpInvalidChannelMode
  | a2dpInvalidSubbands
  | a2dpInvalidAllocationMethod
  | a2dpInvalidMinimumBitpoolValue
  | a2dpInvalidMaximumBitpoolValue
  | a2dpInvalidBlockLength
  deriving DecidableEq, Repr

/-! ## The codec information element -/

/-- `tA2DP_SBC_CIE`. -/
structure TA2dpSbcCie where
  sampFreq : UInt8
  chMode : UInt8
  blockLen : UInt8
  numSubbands : UInt8
  allocMethod : UInt8
  minBitpool : UInt8
  maxBitpool : UInt8
  bitsPerSample : UInt32
  deriving DecidableEq, Repr

/-- `memset(&result_config_cie, 0, ...)`. -/
def TA2dpSbcCie.zero : TA2dpSbcCie := ⟨0, 0, 0, 0, 0, 0, 0, 0⟩

def a2dpSbcSourceCaps : TA2dpSbcCie :=
  ⟨a2dpSbcIeSampFreq44, a2dpSbcIeChMdMono ||| a2dpSbcIeChMdJoint,
    a2dpSbcIeBlocks16 ||| a2dpSbcIeBlocks12 ||| a2dpSbcIeBlocks8 ||| a2dpSbcIeBlocks4,
    a2dpSbcIeSubband8, a2dpSbcIeAllocMdL, a2dpSbcIeMinBitpool, a2dpSbcMaxBitpool,
    btavA2dpCodecBitsPerSample16⟩

def a2dpSbcSinkCaps : TA2dpSbcCie :=
  ⟨a2dpSbcIeSampFreq48 ||| a2dpSbcIeSampFreq44,
    a2dpSbcIeChMdMono ||| a2dpSbcIeChMdStereo ||| a2dpSbcIeChMdJoint ||| a2dpSbcIeChMdDual,
    a2dpSbcIeBlocks16 ||| a2dpSbcIeBlocks12 ||| a2dpSbcIeBlocks8 ||| a2dpSbcIeBlocks4,
    a2dpSbcIeSubband4 ||| a2dpSbcIeSubband8, a2dpSbcIeAllocMdL ||| a2dpSbcIeAllocMdS,
    a2dpSbcIeMinBitpool, a2dpSbcMaxBitpool, btavA2dpCodecBitsPerSample16⟩

def a2dpSbcDefaultConfig : TA2dpSbcCie :=
  ⟨a2dpSbcIeSampFreq44, a2dpSbcIeChMdJoint, a2dpSbcIeBlocks16, a2dpSbcIeSubband8,
    a2dpSbcIeAllocMdL, a2dpSbcIeMinBitpool, a2dpSbcMaxBitpool, btavA2dpCodecBitsPerSample16⟩

/-- `A2DP_BitsSet(num)`. -/
def a2dpBitsSet (num : UInt64) : UInt8 :=
  if num = 0 then a2dpSetZeroBit
  else if num &&& (num - 1) = 0 then a2dpSetOneBit
  else a2dpSetMultlBit

/-- `A2DP_BuildInfoSbc(media_type, p_ie, p_result)`: the seven bytes written, or `none` when
a field has a bit outside its mask or a bitpool is out of range. -/
def a2dpBuildInfoSbc (mediaType : UInt8) (ie : TA2dpSbcCie) : Option (List UInt8) :=
  if ie.sampFreq &&& ~~~a2dpSbcIeSampFreqMsk ≠ 0 ∨ ie.chMode &&& ~~~a2dpSbcIeChMdMsk ≠ 0 ∨
      ie.blockLen &&& ~~~a2dpSbcIeBlocksMsk ≠ 0 ∨
      ie.numSubbands &&& ~~~a2dpSbcIeSubbandMsk ≠ 0 ∨
      ie.allocMethod &&& ~~~a2dpSbcIeAllocMdMsk ≠ 0 ∨ ie.minBitpool > ie.maxBitpool ∨
      ie.minBitpool < a2dpSbcIeMinBitpool ∨ ie.minBitpool > a2dpSbcIeMaxBitpool ∨
      ie.maxBitpool < a2dpSbcIeMinBitpool ∨ ie.maxBitpool > a2dpSbcIeMaxBitpool then
    none
  else
    some [a2dpSbcInfoLen, mediaType <<< 4, a2dpMediaCtSbc, ie.sampFreq ||| ie.chMode,
      ie.blockLen ||| ie.numSubbands ||| ie.allocMethod, ie.minBitpool, ie.maxBitpool]

/-- A field of the element that fails the bit count `A2DP_ParseInfoSbc` asks of it: none
for a capability, other than one for a configuration. -/
def badBitCount (isCapability : Bool) (v : UInt8) : Bool :=
  if isCapability then a2dpBitsSet v.toUInt64 = a2dpSetZeroBit
  else a2dpBitsSet v.toUInt64 ≠ a2dpSetOneBit

/-- The bit counts that end `A2DP_ParseInfoSbc`, field by field in the source's order, each
with the status it returns. -/
def checkBitCounts (ie : TA2dpSbcCie) (isCapability : Bool) : Except TA2dpStatus TA2dpSbcCie :=
  match [(ie.sampFreq, TA2dpStatus.a2dpInvalidSamplingFrequency),
      (ie.chMode, .a2dpInvalidChannelMode), (ie.blockLen, .a2dpInvalidBlockLength),
      (ie.numSubbands, .a2dpInvalidSubbands), (ie.allocMethod, .a2dpInvalidAllocationMethod)].find?
      (fun field => badBitCount isCapability field.1) with
  | some (_, status) => .error status
  | none => .ok ie

/-- `A2DP_ParseInfoSbc(p_ie, p_codec_info, is_capability)`. A capability must have at least
one bit in each field (the checks here are very liberal), a configuration exactly one.
`bits_per_sample` is not in the element and is left 0. -/
def a2dpParseInfoSbc (pCodecInfo : List UInt8) (isCapability : Bool) :
    Except TA2dpStatus TA2dpSbcCie :=
  let losc := pCodecInfo.getD 0 0
  if losc ≠ a2dpSbcInfoLen then .error .avdtpUnsupportedConfiguration
  else
    let mediaType := pCodecInfo.getD 1 0 >>> 4
    let codecType := pCodecInfo.getD 2 0
    if mediaType ≠ avdtMediaTypeAudio ∨ codecType ≠ a2dpMediaCtSbc then
      .error .avdtpUnsupportedConfiguration
    else
      let ie : TA2dpSbcCie :=
        { sampFreq := pCodecInfo.getD 3 0 &&& a2dpSbcIeSampFreqMsk
          chMode := pCodecInfo.getD 3 0 &&& a2dpSbcIeChMdMsk
          blockLen := pCodecInfo.getD 4 0 &&& a2dpSbcIeBlocksMsk
          numSubbands := pCodecInfo.getD 4 0 &&& a2dpSbcIeSubbandMsk
          allocMethod := pCodecInfo.getD 4 0 &&& a2dpSbcIeAllocMdMsk
          minBitpool := pCodecInfo.getD 5 0
          maxBitpool := pCodecInfo.getD 6 0
          bitsPerSample := 0 }
      if ie.minBitpool < a2dpSbcIeMinBitpool ∨ ie.minBitpool > a2dpSbcIeMaxBitpool then
        .error .a2dpInvalidMinimumBitpoolValue
      else if ie.maxBitpool < a2dpSbcIeMinBitpool ∨ ie.maxBitpool > a2dpSbcIeMaxBitpool ∨
          ie.maxBitpool < ie.minBitpool then
        .error .a2dpInvalidMaximumBitpoolValue
      else checkBitCounts ie isCapability

/-- `A2DP_IsCodecValidSbc(p_codec_info)`: a liberal check, as a configuration or as a
capability. -/
def a2dpIsCodecValidSbc (pCodecInfo : List UInt8) : Bool :=
  (a2dpParseInfoSbc pCodecInfo false).isOk || (a2dpParseInfoSbc pCodecInfo true).isOk

/-- `A2DP_BuildInfoSbc` into one of the `AVDT_CODEC_SIZE` byte arrays: its first seven bytes
are overwritten. A build that fails leaves the array as it was (the callers assert that it
does not fail). -/
def buildInto (buf : List UInt8) (mediaType : UInt8) (ie : TA2dpSbcCie) : List UInt8 :=
  match a2dpBuildInfoSbc mediaType ie with
  | some bytes => bytes ++ buf.drop bytes.length
  | none => buf

/-! ## The codec state -/

/-- `btav_a2dp_codec_config_t`, without the codec type and priority. -/
structure BtavA2dpCodecConfig where
  sampleRate : UInt32
  bitsPerSample : UInt32
  channelMode : UInt32
  codecSpecific1 : Int64
  codecSpecific2 : Int64
  codecSpecific3 : Int64
  codecSpecific4 : Int64
  deriving DecidableEq, Repr

/-- The fields of `A2dpCodecConfigSbcBase` that `setCodecConfig` reads or writes: the role,
and the eight fields it saves on entry. -/
structure A2dpCodecConfigSbcBase where
  isSource : Bool
  codecConfig : BtavA2dpCodecConfig
  codecCapability : BtavA2dpCodecConfig
  codecSelectableCapability : BtavA2dpCodecConfig
  codecUserConfig : BtavA2dpCodecConfig
  codecAudioConfig : BtavA2dpCodecConfig
  otaCodecConfig : List UInt8
  otaCodecPeerCapability : List UInt8
  otaCodecPeerConfig : List UInt8
  deriving DecidableEq, Repr

/-- `p_a2dp_sbc_caps`: the local capabilities of the role. -/
def A2dpCodecConfigSbcBase.caps (self : A2dpCodecConfigSbcBase) : TA2dpSbcCie :=
  if self.isSource then a2dpSbcSourceCaps else a2dpSbcSinkCaps

/-- The `fail:` label: the eight saved fields are written back. -/
def A2dpCodecConfigSbcBase.restore (saved cur : A2dpCodecConfigSbcBase) :
    A2dpCodecConfigSbcBase :=
  { cur with
    codecConfig := saved.codecConfig
    codecCapability := saved.codecCapability
    codecSelectableCapability := saved.codecSelectableCapability
    codecUserConfig := saved.codecUserConfig
    codecAudioConfig := saved.codecAudioConfig
    otaCodecConfig := saved.otaCodecConfig
    otaCodecPeerCapability := saved.otaCodecPeerCapability
    otaCodecPeerConfig := saved.otaCodecPeerConfig }

/-! ## The selection helpers

Each writes `p_result` and `p_codec_config` and returns `true` when it makes a selection,
and writes nothing otherwise: here it returns the two written, or `none`. -/

/-- `select_best_sample_rate`. -/
def selectBestSampleRate (sampFreq : UInt8) (pResult : TA2dpSbcCie)
    (pCodecConfig : BtavA2dpCodecConfig) : Option (TA2dpSbcCie × BtavA2dpCodecConfig) :=
  if sampFreq &&& a2dpSbcIeSampFreq48 ≠ 0 then
    some ({ pResult with sampFreq := a2dpSbcIeSampFreq48 },
      { pCodecConfig with sampleRate := btavA2dpCodecSampleRate48000 })
  else if sampFreq &&& a2dpSbcIeSampFreq44 ≠ 0 then
    some ({ pResult with sampFreq := a2dpSbcIeSampFreq44 },
      { pCodecConfig with sampleRate := btavA2dpCodecSampleRate44100 })
  else none

/-- `select_audio_sample_rate`. -/
def selectAudioSampleRate (pCodecAudioConfig : BtavA2dpCodecConfig) (sampFreq : UInt8)
    (pResult : TA2dpSbcCie) (pCodecConfig : BtavA2dpCodecConfig) :
    Option (TA2dpSbcCie × BtavA2dpCodecConfig) :=
  if pCodecAudioConfig.sampleRate = btavA2dpCodecSampleRate44100 then
    if sampFreq &&& a2dpSbcIeSampFreq44 ≠ 0 then
      some ({ pResult with sampFreq := a2dpSbcIeSampFreq44 },
        { pCodecConfig with sampleRate := btavA2dpCodecSampleRate44100 })
    else none
  else if pCodecAudioConfig.sampleRate = btavA2dpCodecSampleRate48000 then
    if sampFreq &&& a2dpSbcIeSampFreq48 ≠ 0 then
      some ({ pResult with sampFreq := a2dpSbcIeSampFreq48 },
        { pCodecConfig with sampleRate := btavA2dpCodecSampleRate48000 })
    else none
  else none

/-- `select_best_bits_per_sample`. -/
def selectBestBitsPerSample (pCodecConfig : BtavA2dpCodecConfig) :
    Option BtavA2dpCodecConfig :=
  some { pCodecConfig with bitsPerSample := btavA2dpCodecBitsPerSample16 }

/-- `select_audio_bits_per_sample`. -/
def selectAudioBitsPerSample (pCodecAudioConfig pCodecConfig : BtavA2dpCodecConfig) :
    Option BtavA2dpCodecConfig :=
  if pCodecAudioConfig.bitsPerSample = btavA2dpCodecBitsPerSample16 then
    some { pCodecConfig with bitsPerSample := btavA2dpCodecBitsPerSample16 }
  else none

/-- `select_best_channel_mode`. -/
def selectBestChannelMode (chMode : UInt8) (pResult : TA2dpSbcCie)
    (pCodecConfig : BtavA2dpCodecConfig) : Option (TA2dpSbcCie × BtavA2dpCodecConfig) :=
  if chMode &&& a2dpSbcIeChMdJoint ≠ 0 then
    some ({ pResult with chMode := a2dpSbcIeChMdJoint },
      { pCodecConfig with channelMode := btavA2dpCodecChannelModeStereo })
  else if chMode &&& a2dpSbcIeChMdStereo ≠ 0 then
    some ({ pResult with chMode := a2dpSbcIeChMdStereo },
      { pCodecConfig with channelMode := btavA2dpCodecChannelModeStereo })
  else if chMode &&& a2dpSbcIeChMdDual ≠ 0 then
    some ({ pResult with chMode := a2dpSbcIeChMdDual },
      { pCodecConfig with channelMode := btavA2dpCodecChannelModeStereo })
  else if chMode &&& a2dpSbcIeChMdMono ≠ 0 then
    some ({ pResult with chMode := a2dpSbcIeChMdMono },
      { pCodecConfig with channelMode := btavA2dpCodecChannelModeMono })
  else none

/-- The stereo modes in the order `select_audio_channel_mode` and the user preference try
them: joint stereo, stereo, dual channel. -/
def selectStereoChannelMode (chMode : UInt8) (pResult : TA2dpSbcCie) :
    Option TA2dpSbcCie :=
  if chMode &&& a2dpSbcIeChMdJoint ≠ 0 then some { pResult with chMode := a2dpSbcIeChMdJoint }
  else if chMode &&& a2dpSbcIeChMdStereo ≠ 0 then
    some { pResult with chMode := a2dpSbcIeChMdStereo }
  else if chMode &&& a2dpSbcIeChMdDual ≠ 0 then some { pResult with chMode := a2dpSbcIeChMdDual }
  else none

/-- `select_audio_channel_mode`. -/
def selectAudioChannelMode (pCodecAudioConfig : BtavA2dpCodecConfig) (chMode : UInt8)
    (pResult : TA2dpSbcCie) (pCodecConfig : BtavA2dpCodecConfig) :
    Option (TA2dpSbcCie × BtavA2dpCodecConfig) :=
  if pCodecAudioConfig.channelMode = btavA2dpCodecChannelModeMono then
    if chMode &&& a2dpSbcIeChMdMono ≠ 0 then
      some ({ pResult with chMode := a2dpSbcIeChMdMono },
        { pCodecConfig with channelMode := btavA2dpCodecChannelModeMono })
    else none
  else if pCodecAudioConfig.channelMode = btavA2dpCodecChannelModeStereo then
    (selectStereoChannelMode chMode pResult).map
      fun r => (r, { pCodecConfig with channelMode := btavA2dpCodecChannelModeStereo })
  else none

/-! ## `setCodecConfig`, parameter by parameter

Each step returns the state and `result_config_cie` it leaves, or, on a `goto fail`, the
state at that point in `.error`. -/

/-- What a step of `setCodecConfig` leaves: the state and the result so far, or the state
at a `goto fail`. -/
abbrev Step := Except A2dpCodecConfigSbcBase (A2dpCodecConfigSbcBase × TA2dpSbcCie)

/-- The peer information negotiated against: the parsed `p_peer_codec_info`, or for a
capability the peer's preferred configuration `ota_codec_peer_config_` if that is valid
and parses as a configuration. -/
def peerInfo (self : A2dpCodecConfigSbcBase) (pPeerCodecInfo : List UInt8)
    (isCapability : Bool) : Except TA2dpStatus TA2dpSbcCie :=
  match a2dpParseInfoSbc pPeerCodecInfo isCapability with
  | .error status => .error status
  | .ok peer =>
    if isCapability ∧ a2dpIsCodecValidSbc self.otaCodecPeerConfig then
      match a2dpParseInfoSbc self.otaCodecPeerConfig false with
      | .ok preferred => .ok preferred
      -- use the peer codec capability: the same parse again
      | .error _ => .ok peer
    else .ok peer

/-- `codec_config_.sample_rate = BTAV_A2DP_CODEC_SAMPLE_RATE_NONE`, then the
`switch (codec_user_config_.sample_rate)`. -/
def userSampleRate (sampFreq : UInt8) (st : A2dpCodecConfigSbcBase)
    (result : TA2dpSbcCie) : A2dpCodecConfigSbcBase × TA2dpSbcCie :=
  let st := { st with codecConfig.sampleRate := btavA2dpCodecSampleRateNone }
  let user := st.codecUserConfig.sampleRate
  if user = btavA2dpCodecSampleRate44100 then
    if sampFreq &&& a2dpSbcIeSampFreq44 ≠ 0 then
      ({ st with codecCapability.sampleRate := user, codecConfig.sampleRate := user },
        { result with sampFreq := a2dpSbcIeSampFreq44 })
    else (st, result)
  else if user = btavA2dpCodecSampleRate48000 then
    if sampFreq &&& a2dpSbcIeSampFreq48 ≠ 0 then
      ({ st with codecCapability.sampleRate := user, codecConfig.sampleRate := user },
        { result with sampFreq := a2dpSbcIeSampFreq48 })
    else (st, result)
  else if user ∈ [btavA2dpCodecSampleRate88200, btavA2dpCodecSampleRate96000,
      btavA2dpCodecSampleRate176400, btavA2dpCodecSampleRate192000,
      btavA2dpCodecSampleRate16000, btavA2dpCodecSampleRate24000,
      btavA2dpCodecSampleRateNone] then
    ({ st with
        codecCapability.sampleRate := btavA2dpCodecSampleRateNone,
        codecConfig.sampleRate := btavA2dpCodecSampleRateNone }, result)
  else (st, result)

/-- `if (bits & mask) v |= flag`: how the selectable and the common capabilities are
computed. -/
def orIf (bits mask : UInt8) (flag v : UInt32) : UInt32 :=
  if bits &&& mask ≠ 0 then v ||| flag else v

/-- A selection made by one of the helpers, written to the state; none keeps both. -/
def applySelection (st : A2dpCodecConfigSbcBase) (result : TA2dpSbcCie) :
    Option (TA2dpSbcCie × BtavA2dpCodecConfig) → A2dpCodecConfigSbcBase × TA2dpSbcCie
  | some (result, config) => ({ st with codecConfig := config }, result)
  | none => (st, result)

/-- Without a user preference: the common capability, then the first selection of the
audio configuration, the default configuration and the best match. -/
def fallbackSampleRate (peer : TA2dpSbcCie) (sampFreq : UInt8) (st : A2dpCodecConfigSbcBase)
    (result : TA2dpSbcCie) : A2dpCodecConfigSbcBase × TA2dpSbcCie :=
  let st := { st with
    codecCapability.sampleRate :=
      orIf sampFreq a2dpSbcIeSampFreq48 btavA2dpCodecSampleRate48000
        (orIf sampFreq a2dpSbcIeSampFreq44 btavA2dpCodecSampleRate44100
          st.codecCapability.sampleRate) }
  applySelection st result <|
    (selectAudioSampleRate st.codecAudioConfig sampFreq result st.codecConfig).or <|
      (selectBestSampleRate (a2dpSbcDefaultConfig.sampFreq &&& peer.sampFreq) result
        st.codecConfig).or (selectBestSampleRate sampFreq result st.codecConfig)

/-- The `do { } while (false)` after the user preference: the selectable capability, and
without a preference the fallback. -/
def sampleRateLoop (peer : TA2dpSbcCie) (sampFreq : UInt8) (st : A2dpCodecConfigSbcBase)
    (result : TA2dpSbcCie) : A2dpCodecConfigSbcBase × TA2dpSbcCie :=
  let st := { st with
    codecSelectableCapability.sampleRate :=
      orIf sampFreq a2dpSbcIeSampFreq48 btavA2dpCodecSampleRate48000
        (orIf sampFreq a2dpSbcIeSampFreq44 btavA2dpCodecSampleRate44100
          st.codecSelectableCapability.sampleRate) }
  if st.codecConfig.sampleRate ≠ btavA2dpCodecSampleRateNone then (st, result)
  else fallbackSampleRate peer sampFreq st result

/-- The sample frequency, from the frequencies the local capability and the peer share. -/
def setSampleRate (peer : TA2dpSbcCie) (st : A2dpCodecConfigSbcBase)
    (result : TA2dpSbcCie) : Step :=
  let sampFreq := st.caps.sampFreq &&& peer.sampFreq
  let user := userSampleRate sampFreq st result
  let chosen := sampleRateLoop peer sampFreq user.1 user.2
  if chosen.1.codecConfig.sampleRate = btavA2dpCodecSampleRateNone then .error chosen.1
  else .ok chosen

/-- `codec_config_.bits_per_sample = BTAV_A2DP_CODEC_BITS_PER_SAMPLE_NONE`, then the
`switch (codec_user_config_.bits_per_sample)`. -/
def userBitsPerSample (st : A2dpCodecConfigSbcBase) : A2dpCodecConfigSbcBase :=
  let st := { st with codecConfig.bitsPerSample := btavA2dpCodecBitsPerSampleNone }
  let user := st.codecUserConfig.bitsPerSample
  if user = btavA2dpCodecBitsPerSample16 then
    { st with codecCapability.bitsPerSample := user, codecConfig.bitsPerSample := user }
  else if user ∈ [btavA2dpCodecBitsPerSample24, btavA2dpCodecBitsPerSample32,
      btavA2dpCodecBitsPerSampleNone] then
    { st with
      codecCapability.bitsPerSample := btavA2dpCodecBitsPerSampleNone,
      codecConfig.bitsPerSample := btavA2dpCodecBitsPerSampleNone }
  else st

/-- The `do { } while (false)` after the user preference: the selectable capability is the
local one, and without a preference the audio configuration, the default and the best
match (the same call, kept in the source for consistency). -/
def bitsPerSampleLoop (st : A2dpCodecConfigSbcBase) : A2dpCodecConfigSbcBase :=
  let st := { st with codecSelectableCapability.bitsPerSample := st.caps.bitsPerSample }
  if st.codecConfig.bitsPerSample ≠ btavA2dpCodecBitsPerSampleNone then st
  else
    -- compute the common capability
    let st := { st with codecCapability.bitsPerSample := btavA2dpCodecBitsPerSample16 }
    match (selectAudioBitsPerSample st.codecAudioConfig st.codecConfig).or <|
        (selectBestBitsPerSample st.codecConfig).or (selectBestBitsPerSample st.codecConfig) with
    | some config => { st with codecConfig := config }
    | none => st

/-- The bits per sample, which are not in the element sent over the air. -/
def setBitsPerSample (st : A2dpCodecConfigSbcBase) (result : TA2dpSbcCie) : Step :=
  let chosen := bitsPerSampleLoop (userBitsPerSample st)
  if chosen.codecConfig.bitsPerSample = btavA2dpCodecBitsPerSampleNone then .error chosen
  else .ok (chosen, result)

/-- `codec_config_.channel_mode = BTAV_A2DP_CODEC_CHANNEL_MODE_NONE`, then the
`switch (codec_user_config_.channel_mode)`. -/
def userChannelMode (chMode : UInt8) (st : A2dpCodecConfigSbcBase)
    (result : TA2dpSbcCie) : A2dpCodecConfigSbcBase × TA2dpSbcCie :=
  let st := { st with codecConfig.channelMode := btavA2dpCodecChannelModeNone }
  let user := st.codecUserConfig.channelMode
  if user = btavA2dpCodecChannelModeMono then
    if chMode &&& a2dpSbcIeChMdMono ≠ 0 then
      ({ st with codecCapability.channelMode := user, codecConfig.channelMode := user },
        { result with chMode := a2dpSbcIeChMdMono })
    else (st, result)
  else if user = btavA2dpCodecChannelModeStereo then
    match selectStereoChannelMode chMode result with
    | some result =>
      ({ st with codecCapability.channelMode := user, codecConfig.channelMode := user }, result)
    | none => (st, result)
  else if user = btavA2dpCodecChannelModeNone then
    ({ st with
        codecCapability.channelMode := btavA2dpCodecChannelModeNone,
        codecConfig.channelMode := btavA2dpCodecChannelModeNone }, result)
  else (st, result)

/-- Without a user preference: the common capability, then the first selection of the
audio configuration, the default configuration and the best match. -/
def fallbackChannelMode (peer : TA2dpSbcCie) (chMode : UInt8) (st : A2dpCodecConfigSbcBase)
    (result : TA2dpSbcCie) : A2dpCodecConfigSbcBase × TA2dpSbcCie :=
  let st := { st with
    codecCapability.channelMode :=
      orIf chMode (a2dpSbcIeChMdJoint ||| a2dpSbcIeChMdStereo ||| a2dpSbcIeChMdDual)
        btavA2dpCodecChannelModeStereo
        (orIf chMode a2dpSbcIeChMdMono btavA2dpCodecChannelModeMono
          st.codecCapability.channelMode) }
  applySelection st result <|
    (selectAudioChannelMode st.codecAudioConfig chMode result st.codecConfig).or <|
      (selectBestChannelMode (a2dpSbcDefaultConfig.chMode &&& peer.chMode) result
        st.codecConfig).or (selectBestChannelMode chMode result st.codecConfig)

/-- The `do { } while (false)` after the user preference. -/
def channelModeLoop (peer : TA2dpSbcCie) (chMode : UInt8) (st : A2dpCodecConfigSbcBase)
    (result : TA2dpSbcCie) : A2dpCodecConfigSbcBase × TA2dpSbcCie :=
  let st := { st with
    codecSelectableCapability.channelMode :=
      orIf chMode a2dpSbcIeChMdDual btavA2dpCodecChannelModeStereo
        (orIf chMode a2dpSbcIeChMdStereo btavA2dpCodecChannelModeStereo
          (orIf chMode a2dpSbcIeChMdJoint btavA2dpCodecChannelModeStereo
            (orIf chMode a2dpSbcIeChMdMono btavA2dpCodecChannelModeMono
              st.codecSelectableCapability.channelMode))) }
  if st.codecConfig.channelMode ≠ btavA2dpCodecChannelModeNone then (st, result)
  else fallbackChannelMode peer chMode st result

/-- The channel mode, as the sample frequency. -/
def setChannelMode (peer : TA2dpSbcCie) (st : A2dpCodecConfigSbcBase)
    (result : TA2dpSbcCie) : Step :=
  let chMode := st.caps.chMode &&& peer.chMode
  let user := userChannelMode chMode st result
  let chosen := channelModeLoop peer chMode user.1 user.2
  if chosen.1.codecConfig.channelMode = btavA2dpCodecChannelModeNone then .error chosen.1
  else .ok chosen

/-- The first bit of `bits`, in the order `masks` lists them. -/
def selectFirstBit (bits : UInt8) : List UInt8 → Option UInt8
  | [] => none
  | m :: masks => if bits &&& m ≠ 0 then some m else selectFirstBit bits masks

/-- The block length, the number of subbands and the allocation method: the first common
bit, in the order the source tests them. -/
def setBlockFields (peer : TA2dpSbcCie) (st : A2dpCodecConfigSbcBase)
    (result : TA2dpSbcCie) : Step :=
  match selectFirstBit (st.caps.blockLen &&& peer.blockLen)
      [a2dpSbcIeBlocks16, a2dpSbcIeBlocks12, a2dpSbcIeBlocks8, a2dpSbcIeBlocks4] with
  | none => .error st
  | some blockLen =>
    match selectFirstBit (st.caps.numSubbands &&& peer.numSubbands)
        [a2dpSbcIeSubband8, a2dpSbcIeSubband4] with
    | none => .error st
    | some numSubbands =>
      match selectFirstBit (st.caps.allocMethod &&& peer.allocMethod)
          [a2dpSbcIeAllocMdL, a2dpSbcIeAllocMdS] with
      | none => .error st
      | some allocMethod =>
        .ok (st, { result with
          blockLen := blockLen, numSubbands := numSubbands, allocMethod := allocMethod })

/-- The bitpool range: the intersection of the local and the peer's. -/
def setBitpool (peer : TA2dpSbcCie) (st : A2dpCodecConfigSbcBase)
    (result : TA2dpSbcCie) : Step :=
  let minBitpool := if st.caps.minBitpool < peer.minBitpool then peer.minBitpool
    else st.caps.minBitpool
  let maxBitpool := if st.caps.maxBitpool > peer.maxBitpool then peer.maxBitpool
    else st.caps.maxBitpool
  if minBitpool > maxBitpool then .error st
  else .ok (st, { result with minBitpool := minBitpool, maxBitpool := maxBitpool })

/-- `if (user != 0) codec_config_.codec_specific_n = user`. -/
def copyIfNonzero (user cur : Int64) : Int64 := if user ≠ 0 then user else cur

/-- The end of the success path: the codec-specific fields of the user configuration, and
the local copies of the peer's element and of the result. -/
def finishSuccess (peer : TA2dpSbcCie) (isCapability : Bool) (st : A2dpCodecConfigSbcBase)
    (result : TA2dpSbcCie) : A2dpCodecConfigSbcBase :=
  let user := st.codecUserConfig
  let st := { st with
    codecConfig.codecSpecific1 := copyIfNonzero user.codecSpecific1 st.codecConfig.codecSpecific1
    codecConfig.codecSpecific2 := copyIfNonzero user.codecSpecific2 st.codecConfig.codecSpecific2
    codecConfig.codecSpecific3 := copyIfNonzero user.codecSpecific3 st.codecConfig.codecSpecific3
    codecConfig.codecSpecific4 :=
      copyIfNonzero user.codecSpecific4 st.codecConfig.codecSpecific4 }
  let st :=
    if isCapability then
      { st with
        otaCodecPeerCapability := buildInto st.otaCodecPeerCapability avdtMediaTypeAudio peer }
    else
      { st with otaCodecPeerConfig := buildInto st.otaCodecPeerConfig avdtMediaTypeAudio peer }
  { st with otaCodecConfig := buildInto st.otaCodecConfig avdtMediaTypeAudio result }

/-- The negotiation against `peer`: the state it leaves and the bytes written to
`p_result_codec_config`, or the state at a `goto fail`. -/
def negotiate (self : A2dpCodecConfigSbcBase) (peer : TA2dpSbcCie) (isCapability : Bool) :
    Except A2dpCodecConfigSbcBase (A2dpCodecConfigSbcBase × List UInt8) := do
  let (st, result) ← setSampleRate peer self .zero
  let (st, result) ← setBitsPerSample st result
  let (st, result) ← setChannelMode peer st result
  let (st, result) ← setBlockFields peer st result
  let (st, result) ← setBitpool peer st result
  match a2dpBuildInfoSbc avdtMediaTypeAudio result with
  | none => .error st
  | some bytes => .ok (finishSuccess peer isCapability st result, bytes)

/-- `A2dpCodecConfigSbcBase::setCodecConfig(p_peer_codec_info, is_capability,
p_result_codec_config)`: the status, the state, and the bytes written to
`p_result_codec_config` (`none` if it is not written). A `goto fail` returns `status`, which
after a successful parse still holds `A2DP_SUCCESS`. -/
def A2dpCodecConfigSbcBase.setCodecConfig (self : A2dpCodecConfigSbcBase)
    (pPeerCodecInfo : List UInt8) (isCapability : Bool) :
    TA2dpStatus × A2dpCodecConfigSbcBase × Option (List UInt8) :=
  match peerInfo self pPeerCodecInfo isCapability with
  | .error status => (status, self.restore self, none)
  | .ok peer =>
    match negotiate self peer isCapability with
    | .error cur => (.a2dpSuccess, self.restore cur, none)
    | .ok (st, bytes) => (.a2dpSuccess, st, some bytes)

end A2dp

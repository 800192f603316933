import Fluoride.A2dp.Sbc
import Fluoride.Lib.Bits

/-!
# What `setCodecConfig` negotiates

* `setCodecConfig_negotiated`: when `setCodecConfig` writes `p_result_codec_config`, the
  bytes parse as a configuration, each of whose five fields is one bit of the local
  capability and the peer's, and whose bitpool range is the intersection of the two.
* `setCodecConfig_restores`: when it does not, the state is the one it started from.
* `setCodecConfig_status`: the status is `A2DP_SUCCESS` exactly when the peer's codec
  information parses, whether a configuration was negotiated or not.

The proof follows the steps: each parameter's step writes one field of
`result_config_cie`, with a bit of the common capability (`SampFreqPick`, `ChModePick`,
...), and no step changes the role.
-/

namespace A2dp

open Bits

variable {peer r r' : TA2dpSbcCie} {st st' cur : A2dpCodecConfigSbcBase}

/-! ## Steps that keep the role -/

/-- The state a step leaves, at its end or at its `goto fail`. -/
def stepState : Step → A2dpCodecConfigSbcBase
  | .ok (st, _) => st
  | .error st => st

theorem restore_of_isSource (h : cur.isSource = st.isSource) : st.restore cur = st := by
  cases st
  cases cur
  cases h
  rfl

/-- A selection keeps the role, and either writes nothing or writes what the helpers
promise of it. -/
theorem applySelection_spec {P : TA2dpSbcCie → Prop}
    {o : Option (TA2dpSbcCie × BtavA2dpCodecConfig)} (st : A2dpCodecConfigSbcBase)
    (r : TA2dpSbcCie) (hP : ∀ r₁ c, o = some (r₁, c) → P r₁) :
    (applySelection st r o).1.isSource = st.isSource ∧
      ((applySelection st r o).1.codecConfig = st.codecConfig ∧ (applySelection st r o).2 = r ∨
        P (applySelection st r o).2) := by
  cases o with
  | none => exact ⟨rfl, .inl ⟨rfl, rfl⟩⟩
  | some p => exact ⟨rfl, .inr (hP p.1 p.2 rfl)⟩

/-! ## Picks

Each parameter's step sets one field of `result_config_cie` to one of a few one-bit values,
one that the common capability has. -/

/-- `r'` is `r` with one field set, by `set`, to one of `choices` that `bits` has. -/
def Pick (set : UInt8 → TA2dpSbcCie → TA2dpSbcCie) (choices : List UInt8) (bits : UInt8)
    (r r' : TA2dpSbcCie) : Prop :=
  ∃ v ∈ choices, bits &&& v ≠ 0 ∧ r' = set v r

/-- A pick made on top of an earlier one of the same field replaces it. -/
theorem Pick.of_pick {set : UInt8 → TA2dpSbcCie → TA2dpSbcCie} {choices : List UInt8}
    {bits : UInt8} {r₀ : TA2dpSbcCie} (hset : ∀ v w r, set v (set w r) = set v r)
    (h : Pick set choices bits r r') (before : r = r₀ ∨ Pick set choices bits r₀ r) :
    Pick set choices bits r₀ r' := by
  obtain ⟨v, hv, has, rfl⟩ := h
  rcases before with rfl | ⟨w, -, -, rfl⟩
  · exact ⟨v, hv, has, rfl⟩
  · exact ⟨v, hv, has, hset v w r₀⟩

/-! ## The sample frequency -/

/-- `r'` is `r` with a sampling frequency that is one of the bits of `bits`. -/
def SampFreqPick : UInt8 → TA2dpSbcCie → TA2dpSbcCie → Prop :=
  Pick (fun v r => { r with sampFreq := v }) [a2dpSbcIeSampFreq48, a2dpSbcIeSampFreq44]

theorem selectBestSampleRate_pick {bits : UInt8} {c c' : BtavA2dpCodecConfig}
    (h : selectBestSampleRate bits r c = some (r', c')) : SampFreqPick bits r r' := by
  unfold selectBestSampleRate at h
  split_ifs at h with h48 h44
  · cases h
    exact ⟨_, by simp, h48, rfl⟩
  · cases h
    exact ⟨_, by simp, h44, rfl⟩

theorem selectAudioSampleRate_pick {bits : UInt8} {a c c' : BtavA2dpCodecConfig}
    (h : selectAudioSampleRate a bits r c = some (r', c')) : SampFreqPick bits r r' := by
  unfold selectAudioSampleRate at h
  split_ifs at h with h44 set44 h48 set48
  · cases h
    exact ⟨_, by simp, set44, rfl⟩
  · cases h
    exact ⟨_, by simp, set48, rfl⟩

theorem userSampleRate_spec (bits : UInt8) (st : A2dpCodecConfigSbcBase) (r : TA2dpSbcCie) :
    (userSampleRate bits st r).1.isSource = st.isSource ∧
      ((userSampleRate bits st r).1.codecConfig.sampleRate = btavA2dpCodecSampleRateNone ∧
        (userSampleRate bits st r).2 = r ∨ SampFreqPick bits r (userSampleRate bits st r).2) := by
  dsimp only [userSampleRate]
  split_ifs with h44 set44 h48 set48 other
  · exact ⟨rfl, .inr ⟨_, by simp, set44, rfl⟩⟩
  · exact ⟨rfl, .inl ⟨rfl, rfl⟩⟩
  · exact ⟨rfl, .inr ⟨_, by simp, set48, rfl⟩⟩
  · exact ⟨rfl, .inl ⟨rfl, rfl⟩⟩
  · exact ⟨rfl, .inl ⟨rfl, rfl⟩⟩
  · exact ⟨rfl, .inl ⟨rfl, rfl⟩⟩

/-- The default configuration's frequency is one the local capability has, in both roles. -/
theorem default_sampFreq_pick (st : A2dpCodecConfigSbcBase) (peer : TA2dpSbcCie) {sf : UInt8}
    (hsf : sf ∈ [a2dpSbcIeSampFreq48, a2dpSbcIeSampFreq44])
    (h : a2dpSbcDefaultConfig.sampFreq &&& peer.sampFreq &&& sf ≠ 0) :
    st.caps.sampFreq &&& peer.sampFreq &&& sf ≠ 0 := by
  simp only [List.mem_cons, List.not_mem_nil, or_false] at hsf
  rcases hsf with rfl | rfl
  · -- the default has no 48 kHz
    rw [and_and_ne_zero_iff (k := 4) rfl] at h
    exact absurd h.1 (by decide)
  · rw [and_and_ne_zero_iff (k := 5) rfl] at h ⊢
    refine ⟨?_, h.2⟩
    unfold A2dpCodecConfigSbcBase.caps
    split <;> decide

theorem fallbackSampleRate_spec {bits : UInt8} (st : A2dpCodecConfigSbcBase) (r : TA2dpSbcCie)
    (hdef : ∀ sf ∈ [a2dpSbcIeSampFreq48, a2dpSbcIeSampFreq44],
      a2dpSbcDefaultConfig.sampFreq &&& peer.sampFreq &&& sf ≠ 0 → bits &&& sf ≠ 0) :
    (fallbackSampleRate peer bits st r).1.isSource = st.isSource ∧
      ((fallbackSampleRate peer bits st r).1.codecConfig = st.codecConfig ∧
          (fallbackSampleRate peer bits st r).2 = r ∨
        SampFreqPick bits r (fallbackSampleRate peer bits st r).2) := by
  apply applySelection_spec
  intro r₁ c h
  rcases Option.or_eq_some_iff.1 h with audio | ⟨-, rest⟩
  · exact selectAudioSampleRate_pick audio
  rcases Option.or_eq_some_iff.1 rest with default | ⟨-, best⟩
  · obtain ⟨sf, hsf, set, rfl⟩ := selectBestSampleRate_pick default
    exact ⟨sf, hsf, hdef sf hsf set, rfl⟩
  · exact selectBestSampleRate_pick best

/-- The loop keeps the role and a sample rate that is still none goes with a result
that is still `r₀`; otherwise the result is a pick. -/
theorem sampleRateLoop_spec {bits : UInt8} {r₀ : TA2dpSbcCie}
    (hdef : ∀ sf ∈ [a2dpSbcIeSampFreq48, a2dpSbcIeSampFreq44],
      a2dpSbcDefaultConfig.sampFreq &&& peer.sampFreq &&& sf ≠ 0 → bits &&& sf ≠ 0)
    (before : st.codecConfig.sampleRate = btavA2dpCodecSampleRateNone ∧ r = r₀ ∨
      SampFreqPick bits r₀ r) :
    (sampleRateLoop peer bits st r).1.isSource = st.isSource ∧
      ((sampleRateLoop peer bits st r).1.codecConfig.sampleRate = btavA2dpCodecSampleRateNone ∧
          (sampleRateLoop peer bits st r).2 = r₀ ∨
        SampFreqPick bits r₀ (sampleRateLoop peer bits st r).2) := by
  unfold sampleRateLoop
  simp only []
  split
  next chosen =>
    -- a preference was taken: `before` already names the pick
    refine ⟨rfl, .inr ?_⟩
    rcases before with ⟨none, -⟩ | pick
    · exact absurd none chosen
    · exact pick
  next none =>
    obtain ⟨role, kept | pick⟩ := fallbackSampleRate_spec { st with
      codecSelectableCapability.sampleRate :=
        orIf bits a2dpSbcIeSampFreq48 btavA2dpCodecSampleRate48000
          (orIf bits a2dpSbcIeSampFreq44 btavA2dpCodecSampleRate44100
            st.codecSelectableCapability.sampleRate) } r hdef
    · refine ⟨role, ?_⟩
      rw [kept.1, kept.2]
      rcases before with ⟨-, rfl⟩ | pick
      · exact .inl ⟨not_not.1 none, rfl⟩
      · exact .inr pick
    · exact ⟨role, .inr (pick.of_pick (fun _ _ _ => rfl) (before.imp And.right id))⟩

theorem setSampleRate_spec (peer : TA2dpSbcCie) (st : A2dpCodecConfigSbcBase)
    (r : TA2dpSbcCie) :
    (stepState (setSampleRate peer st r)).isSource = st.isSource ∧
      ∀ st' r', setSampleRate peer st r = .ok (st', r') →
        SampFreqPick (st.caps.sampFreq &&& peer.sampFreq) r r' := by
  obtain ⟨role₁, user⟩ := userSampleRate_spec (st.caps.sampFreq &&& peer.sampFreq) st r
  obtain ⟨role₂, loop⟩ := sampleRateLoop_spec
    (fun sf hsf h => default_sampFreq_pick st peer hsf h) user
  unfold setSampleRate
  simp only []
  split
  next none => exact ⟨role₂.trans role₁, fun _ _ h => nomatch h⟩
  next chosen =>
    refine ⟨role₂.trans role₁, fun st' r' h => ?_⟩
    have same : _ = r' := congrArg Prod.snd (Except.ok.inj h)
    rw [← same]
    rcases loop with ⟨none, -⟩ | pick
    · exact absurd none chosen
    · exact pick

/-! ## The channel mode -/

/-- `r'` is `r` with a channel mode that is one of the bits of `bits`. -/
def ChModePick : UInt8 → TA2dpSbcCie → TA2dpSbcCie → Prop :=
  Pick (fun v r => { r with chMode := v })
    [a2dpSbcIeChMdJoint, a2dpSbcIeChMdStereo, a2dpSbcIeChMdDual, a2dpSbcIeChMdMono]

theorem selectStereoChannelMode_pick {bits : UInt8}
    (h : selectStereoChannelMode bits r = some r') : ChModePick bits r r' := by
  unfold selectStereoChannelMode at h
  split_ifs at h with joint stereo dual
  · cases h
    exact ⟨_, by simp, joint, rfl⟩
  · cases h
    exact ⟨_, by simp, stereo, rfl⟩
  · cases h
    exact ⟨_, by simp, dual, rfl⟩

theorem selectBestChannelMode_pick {bits : UInt8} {c c' : BtavA2dpCodecConfig}
    (h : selectBestChannelMode bits r c = some (r', c')) : ChModePick bits r r' := by
  unfold selectBestChannelMode at h
  split_ifs at h with joint stereo dual mono
  · cases h
    exact ⟨_, by simp, joint, rfl⟩
  · cases h
    exact ⟨_, by simp, stereo, rfl⟩
  · cases h
    exact ⟨_, by simp, dual, rfl⟩
  · cases h
    exact ⟨_, by simp, mono, rfl⟩

theorem selectAudioChannelMode_pick {bits : UInt8} {a c c' : BtavA2dpCodecConfig}
    (h : selectAudioChannelMode a bits r c = some (r', c')) : ChModePick bits r r' := by
  unfold selectAudioChannelMode at h
  split_ifs at h with mono has stereo
  · cases h
    exact ⟨_, by simp, has, rfl⟩
  · obtain ⟨r₁, pick, same⟩ := Option.map_eq_some_iff.1 h
    cases same
    exact selectStereoChannelMode_pick pick

theorem userChannelMode_spec (bits : UInt8) (st : A2dpCodecConfigSbcBase) (r : TA2dpSbcCie) :
    (userChannelMode bits st r).1.isSource = st.isSource ∧
      ((userChannelMode bits st r).1.codecConfig.channelMode = btavA2dpCodecChannelModeNone ∧
        (userChannelMode bits st r).2 = r ∨ ChModePick bits r (userChannelMode bits st r).2) := by
  dsimp only [userChannelMode]
  split_ifs with mono has stereo none
  · exact ⟨rfl, .inr ⟨_, by simp, has, rfl⟩⟩
  · exact ⟨rfl, .inl ⟨rfl, rfl⟩⟩
  · -- stereo: joint stereo, stereo or dual channel, whichever is common first
    split
    next r₁ pick => exact ⟨rfl, .inr (selectStereoChannelMode_pick pick)⟩
    next => exact ⟨rfl, .inl ⟨rfl, rfl⟩⟩
  · exact ⟨rfl, .inl ⟨rfl, rfl⟩⟩
  · exact ⟨rfl, .inl ⟨rfl, rfl⟩⟩

/-- The default configuration's channel mode, joint stereo, is one the local capability
has, in both roles. -/
theorem default_chMode_pick (st : A2dpCodecConfigSbcBase) (peer : TA2dpSbcCie) {cm : UInt8}
    (hcm : cm ∈ [a2dpSbcIeChMdJoint, a2dpSbcIeChMdStereo, a2dpSbcIeChMdDual, a2dpSbcIeChMdMono])
    (h : a2dpSbcDefaultConfig.chMode &&& peer.chMode &&& cm ≠ 0) :
    st.caps.chMode &&& peer.chMode &&& cm ≠ 0 := by
  simp only [List.mem_cons, List.not_mem_nil, or_false] at hcm
  rcases hcm with rfl | rfl | rfl | rfl
  · rw [and_and_ne_zero_iff (k := 0) rfl] at h ⊢
    refine ⟨?_, h.2⟩
    unfold A2dpCodecConfigSbcBase.caps
    split <;> decide
  -- the default has only joint stereo
  · rw [and_and_ne_zero_iff (k := 1) rfl] at h
    exact absurd h.1 (by decide)
  · rw [and_and_ne_zero_iff (k := 2) rfl] at h
    exact absurd h.1 (by decide)
  · rw [and_and_ne_zero_iff (k := 3) rfl] at h
    exact absurd h.1 (by decide)

theorem fallbackChannelMode_spec {bits : UInt8} (st : A2dpCodecConfigSbcBase) (r : TA2dpSbcCie)
    (hdef : ∀ cm ∈ [a2dpSbcIeChMdJoint, a2dpSbcIeChMdStereo, a2dpSbcIeChMdDual,
      a2dpSbcIeChMdMono], a2dpSbcDefaultConfig.chMode &&& peer.chMode &&& cm ≠ 0 →
        bits &&& cm ≠ 0) :
    (fallbackChannelMode peer bits st r).1.isSource = st.isSource ∧
      ((fallbackChannelMode peer bits st r).1.codecConfig = st.codecConfig ∧
          (fallbackChannelMode peer bits st r).2 = r ∨
        ChModePick bits r (fallbackChannelMode peer bits st r).2) := by
  apply applySelection_spec
  intro r₁ c h
  rcases Option.or_eq_some_iff.1 h with audio | ⟨-, rest⟩
  · exact selectAudioChannelMode_pick audio
  rcases Option.or_eq_some_iff.1 rest with default | ⟨-, best⟩
  · obtain ⟨cm, hcm, has, rfl⟩ := selectBestChannelMode_pick default
    exact ⟨cm, hcm, hdef cm hcm has, rfl⟩
  · exact selectBestChannelMode_pick best

theorem channelModeLoop_spec {bits : UInt8} {r₀ : TA2dpSbcCie}
    (hdef : ∀ cm ∈ [a2dpSbcIeChMdJoint, a2dpSbcIeChMdStereo, a2dpSbcIeChMdDual,
      a2dpSbcIeChMdMono], a2dpSbcDefaultConfig.chMode &&& peer.chMode &&& cm ≠ 0 →
        bits &&& cm ≠ 0)
    (before : st.codecConfig.channelMode = btavA2dpCodecChannelModeNone ∧ r = r₀ ∨
      ChModePick bits r₀ r) :
    (channelModeLoop peer bits st r).1.isSource = st.isSource ∧
      ((channelModeLoop peer bits st r).1.codecConfig.channelMode =
          btavA2dpCodecChannelModeNone ∧ (channelModeLoop peer bits st r).2 = r₀ ∨
        ChModePick bits r₀ (channelModeLoop peer bits st r).2) := by
  unfold channelModeLoop
  simp only []
  split
  next chosen =>
    -- a preference was taken: `before` already names the pick
    refine ⟨rfl, .inr ?_⟩
    rcases before with ⟨none, -⟩ | pick
    · exact absurd none chosen
    · exact pick
  next none =>
    obtain ⟨role, kept | pick⟩ := fallbackChannelMode_spec { st with
      codecSelectableCapability.channelMode :=
        orIf bits a2dpSbcIeChMdDual btavA2dpCodecChannelModeStereo
          (orIf bits a2dpSbcIeChMdStereo btavA2dpCodecChannelModeStereo
            (orIf bits a2dpSbcIeChMdJoint btavA2dpCodecChannelModeStereo
              (orIf bits a2dpSbcIeChMdMono btavA2dpCodecChannelModeMono
                st.codecSelectableCapability.channelMode))) } r hdef
    · refine ⟨role, ?_⟩
      rw [kept.1, kept.2]
      rcases before with ⟨-, rfl⟩ | pick
      · exact .inl ⟨not_not.1 none, rfl⟩
      · exact .inr pick
    · exact ⟨role, .inr (pick.of_pick (fun _ _ _ => rfl) (before.imp And.right id))⟩

theorem setChannelMode_spec (peer : TA2dpSbcCie) (st : A2dpCodecConfigSbcBase)
    (r : TA2dpSbcCie) :
    (stepState (setChannelMode peer st r)).isSource = st.isSource ∧
      ∀ st' r', setChannelMode peer st r = .ok (st', r') →
        ChModePick (st.caps.chMode &&& peer.chMode) r r' := by
  obtain ⟨role₁, user⟩ := userChannelMode_spec (st.caps.chMode &&& peer.chMode) st r
  obtain ⟨role₂, loop⟩ := channelModeLoop_spec
    (fun cm hcm h => default_chMode_pick st peer hcm h) user
  unfold setChannelMode
  simp only []
  split
  next none => exact ⟨role₂.trans role₁, fun _ _ h => nomatch h⟩
  next chosen =>
    refine ⟨role₂.trans role₁, fun st' r' h => ?_⟩
    have same : _ = r' := congrArg Prod.snd (Except.ok.inj h)
    rw [← same]
    rcases loop with ⟨none, -⟩ | pick
    · exact absurd none chosen
    · exact pick

/-! ## The other parameters -/

/-- The bits per sample are always set: the best match always selects 16 bits. -/
theorem bitsPerSampleLoop_spec (st : A2dpCodecConfigSbcBase) :
    (bitsPerSampleLoop st).isSource = st.isSource ∧
      (bitsPerSampleLoop st).codecConfig.bitsPerSample ≠ btavA2dpCodecBitsPerSampleNone := by
  unfold bitsPerSampleLoop
  simp only []
  split
  next chosen => exact ⟨rfl, chosen⟩
  next =>
    split
    next config selected =>
      refine ⟨rfl, ?_⟩
      -- every selection is 16 bits
      have sixteen : config.bitsPerSample = btavA2dpCodecBitsPerSample16 := by
        rcases Option.or_eq_some_iff.1 selected with audio | ⟨-, best⟩
        · unfold selectAudioBitsPerSample at audio
          split_ifs at audio
          cases audio
          rfl
        · rcases Option.or_eq_some_iff.1 best with best | ⟨none, -⟩
          · cases best
            rfl
          · exact absurd none (by simp [selectBestBitsPerSample])
      rw [sixteen]
      decide
    next none =>
      -- the best match never refuses
      have best := (Option.or_eq_none_iff.1 (Option.or_eq_none_iff.1 none).2).1
      exact absurd best (by simp [selectBestBitsPerSample])

theorem setBitsPerSample_spec (st : A2dpCodecConfigSbcBase) (r : TA2dpSbcCie) :
    ∃ st', setBitsPerSample st r = .ok (st', r) ∧ st'.isSource = st.isSource := by
  have role : (userBitsPerSample st).isSource = st.isSource := by
    dsimp only [userBitsPerSample]
    split_ifs <;> rfl
  obtain ⟨role', set⟩ := bitsPerSampleLoop_spec (userBitsPerSample st)
  exact ⟨_, if_neg set, role'.trans role⟩

/-- The first bit `selectFirstBit` finds is one of the masks, and set. -/
theorem selectFirstBit_spec {bits m : UInt8} {masks : List UInt8}
    (h : selectFirstBit bits masks = some m) : m ∈ masks ∧ bits &&& m ≠ 0 := by
  induction masks with
  | nil => exact absurd h nofun
  | cons m' masks ih =>
    unfold selectFirstBit at h
    split at h
    next has =>
      cases h
      exact ⟨List.mem_cons_self, has⟩
    next => exact (ih h).imp (List.mem_cons_of_mem m') id

theorem setBlockFields_spec (peer : TA2dpSbcCie) (st : A2dpCodecConfigSbcBase)
    (r : TA2dpSbcCie) :
    stepState (setBlockFields peer st r) = st ∧
      ∀ st' r', setBlockFields peer st r = .ok (st', r') →
        ∃ blockLen numSubbands allocMethod,
          r' = { r with
            blockLen := blockLen, numSubbands := numSubbands, allocMethod := allocMethod } ∧
          (blockLen ∈ [a2dpSbcIeBlocks16, a2dpSbcIeBlocks12, a2dpSbcIeBlocks8, a2dpSbcIeBlocks4] ∧
            st.caps.blockLen &&& peer.blockLen &&& blockLen ≠ 0) ∧
          (numSubbands ∈ [a2dpSbcIeSubband8, a2dpSbcIeSubband4] ∧
            st.caps.numSubbands &&& peer.numSubbands &&& numSubbands ≠ 0) ∧
          (allocMethod ∈ [a2dpSbcIeAllocMdL, a2dpSbcIeAllocMdS] ∧
            st.caps.allocMethod &&& peer.allocMethod &&& allocMethod ≠ 0) := by
  unfold setBlockFields
  split
  next => exact ⟨rfl, fun _ _ h => nomatch h⟩
  next blockLen hbl =>
    split
    next => exact ⟨rfl, fun _ _ h => nomatch h⟩
    next numSubbands hns =>
      split
      next => exact ⟨rfl, fun _ _ h => nomatch h⟩
      next allocMethod ham =>
        refine ⟨rfl, fun st' r' h => ?_⟩
        cases h
        exact ⟨blockLen, numSubbands, allocMethod, rfl, selectFirstBit_spec hbl,
          selectFirstBit_spec hns, selectFirstBit_spec ham⟩

theorem setBitpool_spec (peer : TA2dpSbcCie) (st : A2dpCodecConfigSbcBase) (r : TA2dpSbcCie) :
    stepState (setBitpool peer st r) = st ∧
      ∀ st' r', setBitpool peer st r = .ok (st', r') →
        r' = { r with minBitpool := r'.minBitpool, maxBitpool := r'.maxBitpool } ∧
          r'.minBitpool.toNat = max st.caps.minBitpool.toNat peer.minBitpool.toNat ∧
          r'.maxBitpool.toNat = min st.caps.maxBitpool.toNat peer.maxBitpool.toNat ∧
          r'.minBitpool ≤ r'.maxBitpool := by
  unfold setBitpool
  simp only []
  generalize hmin : (if st.caps.minBitpool < peer.minBitpool then peer.minBitpool
    else st.caps.minBitpool) = minBitpool
  generalize hmax : (if st.caps.maxBitpool > peer.maxBitpool then peer.maxBitpool
    else st.caps.maxBitpool) = maxBitpool
  have atLeast : minBitpool.toNat = max st.caps.minBitpool.toNat peer.minBitpool.toNat := by
    rw [← hmin]
    split_ifs with lt <;> rw [UInt8.lt_iff_toNat_lt] at lt <;> omega
  have atMost : maxBitpool.toNat = min st.caps.maxBitpool.toNat peer.maxBitpool.toNat := by
    rw [← hmax]
    split_ifs with gt <;> rw [gt_iff_lt, UInt8.lt_iff_toNat_lt] at gt <;> omega
  split
  next => exact ⟨rfl, fun _ _ h => nomatch h⟩
  next within =>
    refine ⟨rfl, fun st' r' h => ?_⟩
    cases h
    exact ⟨rfl, atLeast, atMost, UInt8.not_lt.1 within⟩

/-! ## The negotiation -/

theorem bind_eq_ok {ε α β : Type} {x : Except ε α} {f : α → Except ε β} {b : β} :
    x >>= f = .ok b ↔ ∃ a, x = .ok a ∧ f a = .ok b := by
  cases x <;> simp [bind, Except.bind]

theorem bind_eq_error {ε α β : Type} {x : Except ε α} {f : α → Except ε β} {e : ε} :
    x >>= f = .error e ↔ x = .error e ∨ ∃ a, x = .ok a ∧ f a = .error e := by
  cases x <;> simp [bind, Except.bind]

theorem caps_of_isSource (h : st'.isSource = st.isSource) : st'.caps = st.caps := by
  unfold A2dpCodecConfigSbcBase.caps
  rw [h]

theorem isSource_of_ok {s : Step} (h : s = .ok (st', r')) : (stepState s).isSource = st'.isSource := by
  rw [h]
  rfl

/-- What the negotiation chose against the capabilities `caps` and the peer's `peer`: each
field one bit that both have, the bitpool range the intersection of theirs. -/
structure Negotiated (caps peer r : TA2dpSbcCie) : Prop where
  sampFreq : r.sampFreq ∈ [a2dpSbcIeSampFreq48, a2dpSbcIeSampFreq44] ∧
    caps.sampFreq &&& peer.sampFreq &&& r.sampFreq ≠ 0
  chMode : r.chMode ∈ [a2dpSbcIeChMdJoint, a2dpSbcIeChMdStereo, a2dpSbcIeChMdDual,
      a2dpSbcIeChMdMono] ∧
    caps.chMode &&& peer.chMode &&& r.chMode ≠ 0
  blockLen : r.blockLen ∈ [a2dpSbcIeBlocks16, a2dpSbcIeBlocks12, a2dpSbcIeBlocks8,
      a2dpSbcIeBlocks4] ∧
    caps.blockLen &&& peer.blockLen &&& r.blockLen ≠ 0
  numSubbands : r.numSubbands ∈ [a2dpSbcIeSubband8, a2dpSbcIeSubband4] ∧
    caps.numSubbands &&& peer.numSubbands &&& r.numSubbands ≠ 0
  allocMethod : r.allocMethod ∈ [a2dpSbcIeAllocMdL, a2dpSbcIeAllocMdS] ∧
    caps.allocMethod &&& peer.allocMethod &&& r.allocMethod ≠ 0
  minBitpool : r.minBitpool.toNat = max caps.minBitpool.toNat peer.minBitpool.toNat
  maxBitpool : r.maxBitpool.toNat = min caps.maxBitpool.toNat peer.maxBitpool.toNat
  bitpool_le : r.minBitpool ≤ r.maxBitpool
  bitsPerSample : r.bitsPerSample = 0

/-- **The negotiation.** A `goto fail` leaves the role as it was; a negotiation that gets
through builds the result, which is `Negotiated`. -/
theorem negotiate_spec (self : A2dpCodecConfigSbcBase) (peer : TA2dpSbcCie)
    (isCapability : Bool) :
    (∀ cur, negotiate self peer isCapability = .error cur → cur.isSource = self.isSource) ∧
      ∀ st bytes, negotiate self peer isCapability = .ok (st, bytes) →
        ∃ r, Negotiated self.caps peer r ∧ a2dpBuildInfoSbc avdtMediaTypeAudio r = some bytes := by
  unfold negotiate
  refine ⟨fun cur h => ?_, fun st bytes h => ?_⟩
  · -- a `goto fail` in any step: each step keeps the role
    rcases bind_eq_error.1 h with e | ⟨⟨st₁, r₁⟩, h₁, h⟩
    · have role := (setSampleRate_spec peer self .zero).1
      rwa [e] at role
    have role₁ := (isSource_of_ok h₁).symm.trans (setSampleRate_spec peer self .zero).1
    obtain ⟨st₂, bits, role₂⟩ := setBitsPerSample_spec st₁ r₁
    rcases bind_eq_error.1 h with e | ⟨⟨st₂', r₂⟩, h₂, h⟩
    · exact absurd (bits.symm.trans e) nofun
    rw [bits] at h₂
    cases h₂
    rcases bind_eq_error.1 h with e | ⟨⟨st₃, r₃⟩, h₃, h⟩
    · have role := (setChannelMode_spec peer st₂ r₁).1
      rw [e] at role
      exact role.trans (role₂.trans role₁)
    have role₃ := (isSource_of_ok h₃).symm.trans (setChannelMode_spec peer st₂ r₁).1
    rcases bind_eq_error.1 h with e | ⟨⟨st₄, r₄⟩, h₄, h⟩
    · have same := (setBlockFields_spec peer st₃ r₃).1
      rw [e] at same
      rw [show cur = st₃ from same, role₃, role₂, role₁]
    have same₄ : st₄ = st₃ := by
      have same := (setBlockFields_spec peer st₃ r₃).1
      rwa [h₄] at same
    rcases bind_eq_error.1 h with e | ⟨⟨st₅, r₅⟩, h₅, h⟩
    · have same := (setBitpool_spec peer st₄ r₄).1
      rw [e] at same
      rw [show cur = st₄ from same, same₄, role₃, role₂, role₁]
    have same₅ : st₅ = st₄ := by
      have same := (setBitpool_spec peer st₄ r₄).1
      rwa [h₅] at same
    -- the build of the result fails
    dsimp only at h
    split at h
    next => 
      cases h
      rw [same₅, same₄, role₃, role₂, role₁]
    next => exact absurd h nofun
  · -- every step gets through, and the build
    obtain ⟨⟨st₁, r₁⟩, h₁, rest₁⟩ := bind_eq_ok.1 h
    obtain ⟨⟨st₂, r₂⟩, h₂, rest₂⟩ := bind_eq_ok.1 rest₁
    obtain ⟨⟨st₃, r₃⟩, h₃, rest₃⟩ := bind_eq_ok.1 rest₂
    obtain ⟨⟨st₄, r₄⟩, h₄, rest₄⟩ := bind_eq_ok.1 rest₃
    obtain ⟨⟨st₅, r₅⟩, h₅, built⟩ := bind_eq_ok.1 rest₄
    have same₄ : st₄ = st₃ := by
      have same := (setBlockFields_spec peer st₃ r₃).1
      rwa [h₄] at same
    subst same₄
    have role₁ := (isSource_of_ok h₁).symm.trans (setSampleRate_spec peer self .zero).1
    obtain ⟨sf, hsf, hasSf, rfl⟩ := (setSampleRate_spec peer self .zero).2 _ _ h₁
    obtain ⟨st₂', bits, role₂⟩ := setBitsPerSample_spec st₁ { TA2dpSbcCie.zero with sampFreq := sf }
    rw [bits] at h₂
    cases h₂
    have caps₂ : st₂.caps = self.caps := caps_of_isSource (role₂.trans role₁)
    obtain ⟨cm, hcm, hasCm, rfl⟩ := (setChannelMode_spec peer st₂ _).2 _ _ h₃
    have role₃ := (isSource_of_ok h₃).symm.trans (setChannelMode_spec peer st₂ _).1
    have caps₃ : st₄.caps = self.caps := caps_of_isSource (role₃.trans (role₂.trans role₁))
    obtain ⟨bl, ns, am, rfl, hbl, hns, ham⟩ := (setBlockFields_spec peer st₄ _).2 _ _ h₄
    obtain ⟨shape, hmin, hmax, hle⟩ := (setBitpool_spec peer st₄ _).2 _ _ h₅
    dsimp only at built
    split at built
    next => exact absurd built nofun
    next written =>
      cases built
      rw [caps₂] at hasCm
      rw [caps₃] at hbl hns ham hmin hmax
      -- each field is the one its step picked
      refine ⟨r₅, ⟨?_, ?_, ?_, ?_, ?_, hmin, hmax, hle, ?_⟩, written⟩ <;> rw [shape]
      · exact ⟨hsf, hasSf⟩
      · exact ⟨hcm, hasCm⟩
      · exact hbl
      · exact hns
      · exact ham
      · rfl

/-! ## The bytes written -/

/-- `x` is one bit, and a bit of `s`: `A2DP_BitsSet` counts one bit, and `x` lies within
`s`. -/
def IsOneBitOf (x s : UInt8) : Prop := a2dpBitsSet x.toUInt64 = a2dpSetOneBit ∧ x &&& s = x

/-- Every value of `choices` is one bit. -/
def OneBits (choices : List UInt8) : Prop :=
  ∀ v ∈ choices, v.toNat = 2 ^ v.toNat.log2 ∧ a2dpBitsSet v.toUInt64 = a2dpSetOneBit

instance (choices : List UInt8) : Decidable (OneBits choices) :=
  inferInstanceAs (Decidable (∀ v ∈ choices, _ ∧ _))

theorem isOneBitOf_of_mem {choices : List UInt8} {v s : UInt8} (one : OneBits choices)
    (hv : v ∈ choices) (h : s &&& v ≠ 0) : IsOneBitOf v s :=
  ⟨(one v hv).2, and_eq_self_of_and_ne_zero (one v hv).1 h⟩

theorem oneBits_nil : OneBits [] := fun _ none => nomatch none

/-- A value `2 ^ k` that `A2DP_BitsSet` counts as one bit, put in front of one-bit values. -/
theorem oneBits_cons {v : UInt8} {vs : List UInt8} (k : Nat) (hv : v.toNat = 2 ^ k)
    (bits : a2dpBitsSet v.toUInt64 = a2dpSetOneBit) (rest : OneBits vs) : OneBits (v :: vs) := by
  intro w mem
  rcases List.mem_cons.1 mem with rfl | later
  · exact ⟨by rw [hv, Nat.log2_two_pow], bits⟩
  · exact rest w later

theorem checkBitCounts_ok {ie ie' : TA2dpSbcCie} {isCapability : Bool}
    (h : checkBitCounts ie isCapability = .ok ie') : ie' = ie := by
  unfold checkBitCounts at h
  split at h
  next => nomatch h
  next => exact (Except.ok.inj h).symm

/-- A parsed element has its bitpools in range. -/
theorem a2dpParseInfoSbc_bitpool {q : List UInt8} {isCapability : Bool} {ie : TA2dpSbcCie}
    (h : a2dpParseInfoSbc q isCapability = .ok ie) :
    2 ≤ ie.minBitpool.toNat ∧ ie.minBitpool.toNat ≤ 250 ∧ 2 ≤ ie.maxBitpool.toNat ∧
      ie.maxBitpool.toNat ≤ 250 := by
  unfold a2dpParseInfoSbc at h
  simp only [] at h
  -- the failed checks return errors; what is left is the element with both checks passed
  split_ifs at h with losc header minOut maxOut
  rw [checkBitCounts_ok h]
  simp only [not_or, gt_iff_lt, UInt8.not_lt, UInt8.le_iff_toNat_le] at minOut maxOut
  have lo : a2dpSbcIeMinBitpool.toNat = 2 := rfl
  have hi : a2dpSbcIeMaxBitpool.toNat = 250 := rfl
  dsimp only
  omega

theorem a2dpBuildInfoSbc_eq_some {mediaType : UInt8} {ie : TA2dpSbcCie} {bytes : List UInt8}
    (h : a2dpBuildInfoSbc mediaType ie = some bytes) :
    bytes = [a2dpSbcInfoLen, mediaType <<< 4, a2dpMediaCtSbc, ie.sampFreq ||| ie.chMode,
      ie.blockLen ||| ie.numSubbands ||| ie.allocMethod, ie.minBitpool, ie.maxBitpool] := by
  unfold a2dpBuildInfoSbc at h
  split_ifs at h
  cases h
  rfl

/-- The octet of the sampling frequency and the channel mode, read back. -/
theorem byte3_fields {sf cm : UInt8} (hsf : sf ∈ [a2dpSbcIeSampFreq48, a2dpSbcIeSampFreq44])
    (hcm : cm ∈ [a2dpSbcIeChMdJoint, a2dpSbcIeChMdStereo, a2dpSbcIeChMdDual, a2dpSbcIeChMdMono]) :
    (sf ||| cm) &&& a2dpSbcIeSampFreqMsk = sf ∧ (sf ||| cm) &&& a2dpSbcIeChMdMsk = cm := by
  simp only [List.mem_cons, List.not_mem_nil, or_false] at hsf hcm
  rcases hsf with rfl | rfl <;> rcases hcm with rfl | rfl | rfl | rfl <;> decide

/-- The octet of the block length, the subbands and the allocation method, read back. -/
theorem byte4_fields {bl ns am : UInt8}
    (hbl : bl ∈ [a2dpSbcIeBlocks16, a2dpSbcIeBlocks12, a2dpSbcIeBlocks8, a2dpSbcIeBlocks4])
    (hns : ns ∈ [a2dpSbcIeSubband8, a2dpSbcIeSubband4])
    (ham : am ∈ [a2dpSbcIeAllocMdL, a2dpSbcIeAllocMdS]) :
    (bl ||| ns ||| am) &&& a2dpSbcIeBlocksMsk = bl ∧
      (bl ||| ns ||| am) &&& a2dpSbcIeSubbandMsk = ns ∧
      (bl ||| ns ||| am) &&& a2dpSbcIeAllocMdMsk = am := by
  simp only [List.mem_cons, List.not_mem_nil, or_false] at hbl hns ham
  rcases hbl with rfl | rfl | rfl | rfl <;> rcases hns with rfl | rfl <;>
    rcases ham with rfl | rfl <;> decide

theorem checkBitCounts_config {ie : TA2dpSbcCie}
    (one : ∀ v ∈ [ie.sampFreq, ie.chMode, ie.blockLen, ie.numSubbands, ie.allocMethod],
      a2dpBitsSet v.toUInt64 = a2dpSetOneBit) :
    checkBitCounts ie false = .ok ie := by
  unfold checkBitCounts
  rw [List.find?_eq_none.2]
  intro field hfield
  have hv : field.1 ∈ [ie.sampFreq, ie.chMode, ie.blockLen, ie.numSubbands, ie.allocMethod] := by
    simp only [List.mem_cons, List.not_mem_nil, or_false] at hfield ⊢
    rcases hfield with rfl | rfl | rfl | rfl | rfl <;> simp
  simp [badBitCount, one _ hv]

theorem oneBits_sampFreq : OneBits [a2dpSbcIeSampFreq48, a2dpSbcIeSampFreq44] :=
  oneBits_cons 4 rfl (by decide) <| oneBits_cons 5 rfl (by decide) oneBits_nil

theorem oneBits_chMode :
    OneBits [a2dpSbcIeChMdJoint, a2dpSbcIeChMdStereo, a2dpSbcIeChMdDual, a2dpSbcIeChMdMono] :=
  oneBits_cons 0 rfl (by decide) <| oneBits_cons 1 rfl (by decide) <|
    oneBits_cons 2 rfl (by decide) <| oneBits_cons 3 rfl (by decide) oneBits_nil

theorem oneBits_blockLen :
    OneBits [a2dpSbcIeBlocks16, a2dpSbcIeBlocks12, a2dpSbcIeBlocks8, a2dpSbcIeBlocks4] :=
  oneBits_cons 4 rfl (by decide) <| oneBits_cons 5 rfl (by decide) <|
    oneBits_cons 6 rfl (by decide) <| oneBits_cons 7 rfl (by decide) oneBits_nil

theorem oneBits_numSubbands : OneBits [a2dpSbcIeSubband8, a2dpSbcIeSubband4] :=
  oneBits_cons 2 rfl (by decide) <| oneBits_cons 3 rfl (by decide) oneBits_nil

theorem oneBits_allocMethod : OneBits [a2dpSbcIeAllocMdL, a2dpSbcIeAllocMdS] :=
  oneBits_cons 0 rfl (by decide) <| oneBits_cons 1 rfl (by decide) oneBits_nil

/-- **The bytes written parse back.** A negotiated configuration with its bitpools in range,
built, parses as a configuration to itself. -/
theorem a2dpParseInfoSbc_build {caps peer r : TA2dpSbcCie} (neg : Negotiated caps peer r)
    (hmin : 2 ≤ r.minBitpool.toNat ∧ r.minBitpool.toNat ≤ 250)
    (hmax : 2 ≤ r.maxBitpool.toNat ∧ r.maxBitpool.toNat ≤ 250) :
    a2dpParseInfoSbc [a2dpSbcInfoLen, avdtMediaTypeAudio <<< 4, a2dpMediaCtSbc,
      r.sampFreq ||| r.chMode, r.blockLen ||| r.numSubbands ||| r.allocMethod, r.minBitpool,
      r.maxBitpool] false = .ok r := by
  obtain ⟨sf, cm⟩ := byte3_fields neg.sampFreq.1 neg.chMode.1
  obtain ⟨bl, ns, am⟩ := byte4_fields neg.blockLen.1 neg.numSubbands.1 neg.allocMethod.1
  have lo : a2dpSbcIeMinBitpool.toNat = 2 := rfl
  have hi : a2dpSbcIeMaxBitpool.toNat = 250 := rfl
  have le := UInt8.le_iff_toNat_le.1 neg.bitpool_le
  unfold a2dpParseInfoSbc
  simp only [List.getD_cons_zero, List.getD_cons_succ, sf, cm, bl, ns, am]
  rw [if_neg (by decide), if_neg (by decide), if_neg, if_neg]
  · -- the element read back is `r`
    have same : { r with bitsPerSample := 0 } = r := by rw [← neg.bitsPerSample]
    rw [same]
    apply checkBitCounts_config
    simp only [List.mem_cons, List.not_mem_nil, or_false]
    rintro v (rfl | rfl | rfl | rfl | rfl)
    · exact (oneBits_sampFreq _ neg.sampFreq.1).2
    · exact (oneBits_chMode _ neg.chMode.1).2
    · exact (oneBits_blockLen _ neg.blockLen.1).2
    · exact (oneBits_numSubbands _ neg.numSubbands.1).2
    · exact (oneBits_allocMethod _ neg.allocMethod.1).2
  · simp only [not_or, gt_iff_lt, UInt8.lt_iff_toNat_lt, lo, hi]
    omega
  · simp only [not_or, gt_iff_lt, UInt8.lt_iff_toNat_lt, lo, hi]
    omega

/-! ## `setCodecConfig` -/

theorem checkBitCounts_error {ie : TA2dpSbcCie} {isCapability : Bool} {status : TA2dpStatus}
    (h : checkBitCounts ie isCapability = .error status) : status ≠ .a2dpSuccess := by
  unfold checkBitCounts at h
  split at h
  next field found =>
    cases h
    have mem := List.mem_of_find?_eq_some found
    simp only [List.mem_cons, List.not_mem_nil, or_false] at mem
    rcases mem with h | h | h | h | h <;> rw [(Prod.mk.inj h).2] <;> decide
  next => nomatch h

/-- A parse that fails never says `A2DP_SUCCESS`. -/
theorem a2dpParseInfoSbc_error {q : List UInt8} {isCapability : Bool} {status : TA2dpStatus}
    (h : a2dpParseInfoSbc q isCapability = .error status) : status ≠ .a2dpSuccess := by
  unfold a2dpParseInfoSbc at h
  simp only [] at h
  split_ifs at h <;> first | (cases h; decide) | exact checkBitCounts_error h

theorem peerInfo_of_error {self : A2dpCodecConfigSbcBase} {p : List UInt8} {isCapability : Bool}
    {status : TA2dpStatus} (h : a2dpParseInfoSbc p isCapability = .error status) :
    peerInfo self p isCapability = .error status := by
  unfold peerInfo
  rw [h]

theorem peerInfo_of_ok {self : A2dpCodecConfigSbcBase} {p : List UInt8} {isCapability : Bool}
    {ie : TA2dpSbcCie} (h : a2dpParseInfoSbc p isCapability = .ok ie) :
    ∃ peer, peerInfo self p isCapability = .ok peer := by
  unfold peerInfo
  rw [h]
  dsimp only
  split
  next =>
    split
    next preferred _ => exact ⟨preferred, rfl⟩
    next => exact ⟨ie, rfl⟩
  next => exact ⟨ie, rfl⟩

/-- The peer information negotiated against is an element that parses: the peer's, or its
preferred configuration. -/
theorem peerInfo_parsed {self : A2dpCodecConfigSbcBase} {p : List UInt8} {isCapability : Bool}
    {peer : TA2dpSbcCie} (h : peerInfo self p isCapability = .ok peer) :
    ∃ q c, a2dpParseInfoSbc q c = .ok peer := by
  unfold peerInfo at h
  split at h
  next => nomatch h
  next ie parsed =>
    split at h
    next =>
      split at h
      next preferred parsedPreferred =>
        cases h
        exact ⟨_, _, parsedPreferred⟩
      next =>
        cases h
        exact ⟨_, _, parsed⟩
    next =>
      cases h
      exact ⟨_, _, parsed⟩

section SetCodecConfig

variable {self : A2dpCodecConfigSbcBase} {p : List UInt8} {isCapability : Bool}

theorem setCodecConfig_of_peerInfo_error {status : TA2dpStatus}
    (h : peerInfo self p isCapability = .error status) :
    self.setCodecConfig p isCapability = (status, self.restore self, none) := by
  unfold A2dpCodecConfigSbcBase.setCodecConfig
  rw [h]

theorem setCodecConfig_of_negotiate_error {peer : TA2dpSbcCie} {cur : A2dpCodecConfigSbcBase}
    (info : peerInfo self p isCapability = .ok peer)
    (failed : negotiate self peer isCapability = .error cur) :
    self.setCodecConfig p isCapability = (.a2dpSuccess, self.restore cur, none) := by
  unfold A2dpCodecConfigSbcBase.setCodecConfig
  simp only [info, failed]

theorem setCodecConfig_of_negotiate_ok {peer : TA2dpSbcCie} {st : A2dpCodecConfigSbcBase}
    {bytes : List UInt8} (info : peerInfo self p isCapability = .ok peer)
    (done : negotiate self peer isCapability = .ok (st, bytes)) :
    self.setCodecConfig p isCapability = (.a2dpSuccess, st, some bytes) := by
  unfold A2dpCodecConfigSbcBase.setCodecConfig
  simp only [info, done]

end SetCodecConfig

/-- **The status.** `setCodecConfig` returns `A2DP_SUCCESS` exactly when the peer's codec
information parses, whatever the negotiation that follows does. -/
theorem setCodecConfig_status (self : A2dpCodecConfigSbcBase) (p : List UInt8)
    (isCapability : Bool) :
    (self.setCodecConfig p isCapability).1 = .a2dpSuccess ↔
      ∃ ie, a2dpParseInfoSbc p isCapability = .ok ie := by
  cases parsed : a2dpParseInfoSbc p isCapability with
  | error status =>
    rw [setCodecConfig_of_peerInfo_error (peerInfo_of_error parsed)]
    exact ⟨fun success => absurd success (a2dpParseInfoSbc_error parsed), fun ⟨_, h⟩ => nomatch h⟩
  | ok ie =>
    obtain ⟨peer, info⟩ : ∃ peer, peerInfo self p isCapability = .ok peer :=
      peerInfo_of_ok parsed
    refine ⟨fun _ => ⟨ie, rfl⟩, fun _ => ?_⟩
    -- the status is `A2DP_SUCCESS` whether the negotiation gets through or not
    cases done : negotiate self peer isCapability with
    | error cur => rw [setCodecConfig_of_negotiate_error info done]
    | ok result => rw [setCodecConfig_of_negotiate_ok info done]

/-- **A failure restores the state.** When `p_result_codec_config` is not written, the state is
the one `setCodecConfig` started from. -/
theorem setCodecConfig_restores (self : A2dpCodecConfigSbcBase) (p : List UInt8)
    (isCapability : Bool) (h : (self.setCodecConfig p isCapability).2.2 = none) :
    (self.setCodecConfig p isCapability).2.1 = self := by
  cases info : peerInfo self p isCapability with
  | error status =>
    rw [setCodecConfig_of_peerInfo_error info]
    exact restore_of_isSource rfl
  | ok peer =>
    cases done : negotiate self peer isCapability with
    | error cur =>
      rw [setCodecConfig_of_negotiate_error info done]
      exact restore_of_isSource ((negotiate_spec self peer isCapability).1 cur done)
    | ok result =>
      rw [setCodecConfig_of_negotiate_ok info done] at h
      nomatch h

theorem caps_bitpool (self : A2dpCodecConfigSbcBase) :
    self.caps.minBitpool.toNat = 2 ∧ self.caps.maxBitpool.toNat = 53 := by
  unfold A2dpCodecConfigSbcBase.caps
  split <;> exact ⟨rfl, rfl⟩

/-- **What is negotiated.** When `setCodecConfig` writes `p_result_codec_config`, it returns
`A2DP_SUCCESS`, and the bytes parse as a configuration whose five fields are each one bit of
the local capability and the peer information, and whose bitpool range is the non-empty
intersection of theirs. -/
theorem setCodecConfig_negotiated (self : A2dpCodecConfigSbcBase) (p : List UInt8)
    (isCapability : Bool) {bytes : List UInt8}
    (h : (self.setCodecConfig p isCapability).2.2 = some bytes) :
    (self.setCodecConfig p isCapability).1 = .a2dpSuccess ∧
      ∃ peer cfg, peerInfo self p isCapability = .ok peer ∧
        a2dpParseInfoSbc bytes false = .ok cfg ∧
        IsOneBitOf cfg.sampFreq (self.caps.sampFreq &&& peer.sampFreq) ∧
        IsOneBitOf cfg.chMode (self.caps.chMode &&& peer.chMode) ∧
        IsOneBitOf cfg.blockLen (self.caps.blockLen &&& peer.blockLen) ∧
        IsOneBitOf cfg.numSubbands (self.caps.numSubbands &&& peer.numSubbands) ∧
        IsOneBitOf cfg.allocMethod (self.caps.allocMethod &&& peer.allocMethod) ∧
        cfg.minBitpool.toNat = max self.caps.minBitpool.toNat peer.minBitpool.toNat ∧
        cfg.maxBitpool.toNat = min self.caps.maxBitpool.toNat peer.maxBitpool.toNat ∧
        cfg.minBitpool ≤ cfg.maxBitpool := by
  cases info : peerInfo self p isCapability with
  | error status =>
    rw [setCodecConfig_of_peerInfo_error info] at h
    nomatch h
  | ok peer =>
    cases done : negotiate self peer isCapability with
    | error cur =>
      rw [setCodecConfig_of_negotiate_error info done] at h
      nomatch h
    | ok result =>
      obtain ⟨st, bytes'⟩ := result
      rw [setCodecConfig_of_negotiate_ok info done] at h ⊢
      cases h
      obtain ⟨r, neg, built⟩ := (negotiate_spec self peer isCapability).2 _ _ done
      rw [a2dpBuildInfoSbc_eq_some built]
      -- the peer's bitpools are in range, since it parsed
      obtain ⟨q, c, parsed⟩ := peerInfo_parsed info
      have peerRange := a2dpParseInfoSbc_bitpool parsed
      have capsRange := caps_bitpool self
      have hmin := neg.minBitpool
      have hmax := neg.maxBitpool
      refine ⟨rfl, peer, r, rfl, a2dpParseInfoSbc_build neg (by omega) (by omega),
        isOneBitOf_of_mem oneBits_sampFreq neg.sampFreq.1 neg.sampFreq.2,
        isOneBitOf_of_mem oneBits_chMode neg.chMode.1 neg.chMode.2,
        isOneBitOf_of_mem oneBits_blockLen neg.blockLen.1 neg.blockLen.2,
        isOneBitOf_of_mem oneBits_numSubbands neg.numSubbands.1 neg.numSubbands.2,
        isOneBitOf_of_mem oneBits_allocMethod neg.allocMethod.1 neg.allocMethod.2,
        neg.minBitpool, neg.maxBitpool, neg.bitpool_le⟩

/-- A source whose peer supports only 48 kHz, which the source's capability lacks: the parse
succeeds, the sample-rate selection finds nothing and jumps to `fail` with `status` still
holding the parse's `A2DP_SUCCESS`, and nothing is negotiated or written. -/
theorem sbc_mismatch_returns_success :
    let unset : BtavA2dpCodecConfig := ⟨0, 0, 0, 0, 0, 0, 0⟩
    let st : A2dpCodecConfigSbcBase := ⟨true, unset, unset, unset, unset, unset,
      List.replicate 20 0, List.replicate 20 0, List.replicate 20 0⟩
    let p : List UInt8 := [6, 0, 0, 0x11, 0xFF, 2, 53]
    a2dpParseInfoSbc p true = .ok ⟨0x10, 0x01, 0xF0, 0x0C, 0x03, 2, 53, 0⟩ ∧
      st.caps.sampFreq &&& 0x10 = 0 ∧
      st.setCodecConfig p true = (.a2dpSuccess, st, none) := by
  intro unset st p
  exact ⟨by decide, by decide, by decide⟩

end A2dp

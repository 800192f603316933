import Fluoride.LeAudio.LtvMap
import Fluoride.Lib.VectorWrite

/-!
# LE Audio — the broadcaster's BASE (`broadcaster_types.cc`)

The broadcaster writes the Broadcast Audio Source Endpoint structure of its periodic
advertising with `ToRawPacket`: the presentation delay, the number of subgroups, and per
subgroup its number of BISes, codec id, codec configuration and metadata, then per BIS its
index and configuration. `baseBytes` is that layout as the Basic Audio Profile gives it.

Each emitter grows the vector and writes behind its old end (`Lib.VectorWrite`); a write past
the end is `none`.

Results: `ToRawPacket` appends exactly the layout when every codec configuration is shorter
than 250 bytes (`toRawPacket_eq_some`), and writes past the vector as soon as one is not,
since `EmitCodecConfiguration` sums its length in a `uint8_t` (`toRawPacket_eq_none_iff`).
-/

namespace LeAudio

open VectorWrite LeAudioLtvMap

/-- `UINT16_TO_STREAM`: least significant octet first. -/
def uint16ToStream (v : UInt16) : List UInt8 := [v.toUInt8, (v >>> 8).toUInt8]

/-- `UINT24_TO_STREAM`: the low three octets, least significant first. -/
def uint24ToStream (v : UInt32) : List UInt8 := [v.toUInt8, (v >>> 8).toUInt8, (v >>> 16).toUInt8]

/-- `BasicAudioAnnouncementCodecConfig`. The `std::map` of codec parameters is the LTV map
`EmitCodecConfiguration` builds from it. -/
structure BasicAudioAnnouncementCodecConfig where
  codecId : UInt8
  vendorCompanyId : UInt16
  vendorCodecId : UInt16
  codecSpecificParams : LeAudioLtvMap
  vendorCodecSpecificParams : Option (List UInt8)

/-- `BasicAudioAnnouncementBisConfig`, the fields `EmitBisConfigs` reads. -/
structure BasicAudioAnnouncementBisConfig where
  codecSpecificParams : LeAudioLtvMap
  bisIndex : UInt8

structure BasicAudioAnnouncementSubgroup where
  codecConfig : BasicAudioAnnouncementCodecConfig
  metadata : LeAudioLtvMap
  bisConfigs : List BasicAudioAnnouncementBisConfig

structure BasicAudioAnnouncementData where
  presentationDelayUs : UInt32
  subgroupConfigs : List BasicAudioAnnouncementSubgroup

/-! ## The broadcaster (`broadcaster_types.cc`) -/

/-- The codec specific configuration of a subgroup: the vendor's bytes when there are any,
else the LTVs of the codec parameters. -/
def BasicAudioAnnouncementCodecConfig.codecSpecRaw (config : BasicAudioAnnouncementCodecConfig) :
    List UInt8 :=
  match config.vendorCodecSpecificParams with
  | some v => v
  | none => config.codecSpecificParams.rawPacket

def emitHeader (announcementData : BasicAudioAnnouncementData) (data : List UInt8) :
    Option (List UInt8) :=
  emit data 3 0 (uint24ToStream announcementData.presentationDelayUs)

def emitCodecConfiguration (config : BasicAudioAnnouncementCodecConfig) (data : List UInt8) :
    Option (List UInt8) :=
  let ltv := config.codecSpecificParams
  let codecSpecRawSz := match config.vendorCodecSpecificParams with
    | some v => v.length
    | none => ltv.rawPacketSize
  -- "Add 5 for full, or 1 for short Codec ID", then "Add 1 for the codec spec. config length
  -- + config spec. data itself": the sum is a `uint8_t`
  let codecConfigLength : UInt8 := 5 + (1 + codecSpecRawSz).toUInt8
  emit data codecConfigLength.toNat 0
    (config.codecId :: uint16ToStream config.vendorCompanyId ++
      uint16ToStream config.vendorCodecId ++ codecSpecRawSz.toUInt8 ::
      match config.vendorCodecSpecificParams with
      | some v => v
      | none => ltv.rawPacket)

def emitMetadata (metadata : LeAudioLtvMap) (data : List UInt8) : Option (List UInt8) :=
  let ltvRawSz := metadata.rawPacketSize
  emit data (ltvRawSz + 1) 0
    (ltvRawSz.toUInt8 :: if ltvRawSz > 0 then metadata.rawPacket else [])

/-- One BIS of `EmitBisConfigs`: its index and its length-prefixed configuration. -/
def emitBisConfig (data : List UInt8) (bisConfig : BasicAudioAnnouncementBisConfig) :
    Option (List UInt8) :=
  let ltv := bisConfig.codecSpecificParams
  let ltvRawSz := ltv.rawPacketSize
  emit data (ltvRawSz + 2) 0
    (bisConfig.bisIndex :: ltvRawSz.toUInt8 :: if ltvRawSz > 0 then ltv.rawPacket else [])

def emitBisConfigs (bisConfigs : List BasicAudioAnnouncementBisConfig) (data : List UInt8) :
    Option (List UInt8) :=
  bisConfigs.foldlM emitBisConfig data

def emitSubgroup (subgroupConfig : BasicAudioAnnouncementSubgroup) (data : List UInt8) :
    Option (List UInt8) := do
  -- the level 2 `Num_BIS[i]`
  let data ← emit data 1 0 [subgroupConfig.bisConfigs.length.toUInt8]
  let data ← emitCodecConfiguration subgroupConfig.codecConfig data
  let data ← emitMetadata subgroupConfig.metadata data
  emitBisConfigs subgroupConfig.bisConfigs data

/-- `ToRawPacket(in, data)`: the vector after the BASE is appended to it, or `none` when a
write runs past it. -/
def toRawPacket (announcement : BasicAudioAnnouncementData) (data : List UInt8) :
    Option (List UInt8) := do
  let data ← emitHeader announcement data
  -- the level 1 `Num_Subgroups`
  let data ← emit data 1 0 [announcement.subgroupConfigs.length.toUInt8]
  announcement.subgroupConfigs.foldlM (fun data subgroupConfig => emitSubgroup subgroupConfig data)
    data

/-! ## The BASE layout -/

/-- A field behind its one-octet length. -/
def lengthPrefixed (b : List UInt8) : List UInt8 := b.length.toUInt8 :: b

/-- The five octets of the codec id, then the codec specific configuration. -/
def codecConfigurationBytes (config : BasicAudioAnnouncementCodecConfig) : List UInt8 :=
  config.codecId :: uint16ToStream config.vendorCompanyId ++ uint16ToStream config.vendorCodecId ++
    lengthPrefixed config.codecSpecRaw

def bisConfigBytes (bisConfig : BasicAudioAnnouncementBisConfig) : List UInt8 :=
  bisConfig.bisIndex :: lengthPrefixed bisConfig.codecSpecificParams.rawPacket

def subgroupBytes (subgroup : BasicAudioAnnouncementSubgroup) : List UInt8 :=
  subgroup.bisConfigs.length.toUInt8 :: codecConfigurationBytes subgroup.codecConfig ++
    lengthPrefixed subgroup.metadata.rawPacket ++ subgroup.bisConfigs.flatMap bisConfigBytes

/-- The BASE of an announcement as the Basic Audio Profile lays it out. -/
def baseBytes (announcement : BasicAudioAnnouncementData) : List UInt8 :=
  uint24ToStream announcement.presentationDelayUs ++
    announcement.subgroupConfigs.length.toUInt8 :: announcement.subgroupConfigs.flatMap subgroupBytes

/-! ## What `ToRawPacket` writes -/

section Emitters

variable {data : List UInt8}

/-- An LTV field is written only when it is not empty, which writes the same bytes. -/
theorem ite_length_pos (b : List UInt8) : (if b.length > 0 then b else []) = b := by
  split_ifs with pos
  · rfl
  · exact (List.eq_nil_of_length_eq_zero (by omega)).symm

/-- `EmitCodecConfiguration` writes the codec configuration bytes after growing the vector by
the `uint8_t` sum of their length. -/
theorem emitCodecConfiguration_eq (config : BasicAudioAnnouncementCodecConfig) (data : List UInt8) :
    emitCodecConfiguration config data =
      emit data (5 + (1 + config.codecSpecRaw.length).toUInt8 : UInt8).toNat 0
        (codecConfigurationBytes config) := by
  obtain ⟨codecId, company, codec, params, vendor⟩ := config
  cases vendor with
  | some v => rfl
  | none =>
    simp only [emitCodecConfiguration, codecConfigurationBytes, lengthPrefixed,
      BasicAudioAnnouncementCodecConfig.codecSpecRaw, rawPacketSize_eq_length]

theorem length_codecConfigurationBytes (config : BasicAudioAnnouncementCodecConfig) :
    (codecConfigurationBytes config).length = 6 + config.codecSpecRaw.length := by
  simp only [codecConfigurationBytes, lengthPrefixed, uint16ToStream, List.cons_append,
    List.length_cons, List.length_append, List.length_nil]
  omega

/-- The length `EmitCodecConfiguration` grows the vector by, modulo `2^8`. -/
theorem toNat_codecConfigLength (n : Nat) : (5 + (1 + n).toUInt8 : UInt8).toNat = (6 + n) % 256 := by
  simp [UInt8.toNat_add, Nat.toUInt8]
  omega

theorem emitCodecConfiguration_eq_some {config : BasicAudioAnnouncementCodecConfig}
    (short : config.codecSpecRaw.length < 250) :
    emitCodecConfiguration config data = some (data ++ codecConfigurationBytes config) := by
  rw [emitCodecConfiguration_eq, toNat_codecConfigLength]
  apply emit_of_length
  rw [length_codecConfigurationBytes]
  omega

/-- **A codec configuration of 250 bytes or more** wraps the `uint8_t` length: the vector
grows by less than is written into it. -/
theorem emitCodecConfiguration_eq_none {config : BasicAudioAnnouncementCodecConfig}
    (long : 250 ≤ config.codecSpecRaw.length) : emitCodecConfiguration config data = none := by
  rw [emitCodecConfiguration_eq, toNat_codecConfigLength, emit_eq_none_iff,
    length_codecConfigurationBytes]
  omega

theorem emitMetadata_eq (metadata : LeAudioLtvMap) (data : List UInt8) :
    emitMetadata metadata data = some (data ++ lengthPrefixed metadata.rawPacket) := by
  simp only [emitMetadata, rawPacketSize_eq_length, ite_length_pos]
  exact emit_of_length (by simp)

theorem emitBisConfig_eq (data : List UInt8) (bisConfig : BasicAudioAnnouncementBisConfig) :
    emitBisConfig data bisConfig = some (data ++ bisConfigBytes bisConfig) := by
  simp only [emitBisConfig, rawPacketSize_eq_length, ite_length_pos]
  exact emit_of_length (by simp)

theorem emitBisConfigs_eq (bisConfigs : List BasicAudioAnnouncementBisConfig) (data : List UInt8) :
    emitBisConfigs bisConfigs data = some (data ++ bisConfigs.flatMap bisConfigBytes) := by
  induction bisConfigs generalizing data with
  | nil => simp [emitBisConfigs]
  | cons bisConfig bisConfigs ih =>
    unfold emitBisConfigs at ih ⊢
    rw [List.foldlM_cons, emitBisConfig_eq, Option.bind_eq_bind, Option.bind_some, ih,
      List.flatMap_cons, List.append_assoc]

theorem emitSubgroup_eq_some {subgroup : BasicAudioAnnouncementSubgroup}
    (short : subgroup.codecConfig.codecSpecRaw.length < 250) :
    emitSubgroup subgroup data = some (data ++ subgroupBytes subgroup) := by
  simp only [emitSubgroup, emit_singleton,
    emitCodecConfiguration_eq_some short, emitMetadata_eq, emitBisConfigs_eq, Option.bind_eq_bind,
    Option.bind_some, subgroupBytes, List.append_assoc, List.cons_append, List.nil_append]

theorem emitSubgroup_eq_none {subgroup : BasicAudioAnnouncementSubgroup}
    (long : 250 ≤ subgroup.codecConfig.codecSpecRaw.length) : emitSubgroup subgroup data = none := by
  simp only [emitSubgroup, emit_singleton,
    emitCodecConfiguration_eq_none long, Option.bind_eq_bind, Option.bind_some, Option.bind_none]

/-- The subgroups one after the other: their layouts when every codec configuration is short,
and a write past the vector as soon as one is not. The induction is on the subgroups. -/
theorem foldlM_emitSubgroup (subgroups : List BasicAudioAnnouncementSubgroup) (data : List UInt8) :
    subgroups.foldlM (fun data subgroupConfig => emitSubgroup subgroupConfig data) data =
      if ∀ s ∈ subgroups, s.codecConfig.codecSpecRaw.length < 250 then
        some (data ++ subgroups.flatMap subgroupBytes)
      else none := by
  induction subgroups generalizing data with
  | nil => simp
  | cons subgroup subgroups ih =>
    rw [List.foldlM_cons]
    by_cases short : subgroup.codecConfig.codecSpecRaw.length < 250
    · rw [emitSubgroup_eq_some short, Option.bind_eq_bind, Option.bind_some, ih]
      simp [short, List.append_assoc]
    · rw [emitSubgroup_eq_none (by omega), Option.bind_eq_bind, Option.bind_none]
      simp [short]

end Emitters

/-- **`ToRawPacket` appends the BASE** when every codec configuration is shorter than 250
bytes, writing only inside the vector it resizes. -/
theorem toRawPacket_eq_some {announcement : BasicAudioAnnouncementData} (data : List UInt8)
    (short : ∀ s ∈ announcement.subgroupConfigs, s.codecConfig.codecSpecRaw.length < 250) :
    toRawPacket announcement data = some (data ++ baseBytes announcement) := by
  simp only [toRawPacket, emitHeader, emit_of_length (show (uint24ToStream _).length = 3 from rfl),
    emit_singleton, Option.bind_eq_bind, Option.bind_some,
    foldlM_emitSubgroup, if_pos short, baseBytes, List.append_assoc, List.singleton_append]

/-- **`ToRawPacket` writes past the vector** exactly when a codec configuration has 250 bytes
or more. -/
theorem toRawPacket_eq_none_iff (announcement : BasicAudioAnnouncementData) (data : List UInt8) :
    toRawPacket announcement data = none ↔
      ∃ s ∈ announcement.subgroupConfigs, 250 ≤ s.codecConfig.codecSpecRaw.length := by
  simp only [toRawPacket, emitHeader, emit_of_length (show (uint24ToStream _).length = 3 from rfl),
    emit_singleton, Option.bind_eq_bind, Option.bind_some,
    foldlM_emitSubgroup]
  split_ifs with short
  · simp only [false_iff, not_exists, not_and, Nat.not_le]
    exact short
  · push Not at short
    simpa using short

end LeAudio

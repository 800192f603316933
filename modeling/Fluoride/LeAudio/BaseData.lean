import Mathlib
import Fluoride.LeAudio.Base
import Fluoride.Lib.Suffix

/-!
# LE Audio — the broadcast assistant's BASE parser (`BaseData.java`)

The broadcast assistant reads a BASE with `BaseData.parseBaseData` into three levels of
`BaseInformation`: the presentation delay and subgroup count, one node per subgroup and one
per BIS. `consolidateBaseofLevelTwo` then tags each level-3 node with the subgroup it was
read under. Java's exceptions are the `.error` of the result, `null` is `.ok none`.

Results: on the layout the broadcaster writes, the levels read are the announcement's, node by
node (`parseLevelTwos_of_drop`); the consolidation then tags them right for one or two
subgroups (`parseBaseData_baseBytes`), but for three subgroups whose first and third have a
BIS it runs past the level-3 list and throws (`parseBaseData_baseBytes_three`), since it
advances its start index by the running total of BIS counts instead of the last count.
-/

namespace LeAudio

open LeAudioLtvMap Suffix

/-! ## The broadcast assistant (`BaseData.java`) -/

/-- The exceptions `parseBaseData` can end in: `serviceData[i]` or `System.arraycopy` past the
array, and `List.get(i)` past the list. -/
inductive JavaException where
  | arrayIndexOutOfBounds
  | indexOutOfBounds
  deriving DecidableEq, Repr

/-- `BaseInformation`, with the values its constructor gives. Java's `byte` fields are `Int8`. -/
structure BaseInformation where
  presentationDelay : List UInt8 := [0, 0, 0]
  codecId : List UInt8 := [0, 0, 0, 0, 0]
  codecConfigLength : Int := 0
  codecConfigInfo : List UInt8 := []
  metaDataLength : Int := 0
  metaData : List UInt8 := []
  numSubGroups : Int8 := 0
  index : Int8 := -1
  subGroupId : Int := 0
  level : Int := 0
  deriving DecidableEq, Repr

structure BaseData where
  levelOne : BaseInformation
  levelTwo : List BaseInformation
  levelThree : List BaseInformation
  numBISIndices : Int
  deriving DecidableEq, Repr

def metadataPresentationDelayLength : Nat := 3
def metadataCodecLength : Nat := 5

/-- A length-prefixed field of `parseLevelTwo` and `parseLevelThree` from its length octet at
`offset`: its length and bytes (`0` and none for a declared length of 0) and the offset behind
it, or `null` when the declared length runs past the array. -/
def parseLengthPrefixed (serviceData : List UInt8) (offset : Nat) :
    Option (Int × List UInt8 × Nat) :=
  let declaredLength := (serviceData.getD offset 0).toNat
  let offset := offset + 1
  let bufferLengthLeft : Int := serviceData.length - offset
  if declaredLength > bufferLengthLeft then none
  else if declaredLength ≠ 0 then
    some (declaredLength, (serviceData.drop offset).take declaredLength, offset + declaredLength)
  else some (0, [], offset)

/-- `parseLevelTwo(serviceData, groupIndex, offset)`. -/
def parseLevelTwo (serviceData : List UInt8) (groupIndex : Nat) (offset : Nat) :
    Option (BaseInformation × Nat) :=
  -- "Min. length expected is: codecID (5) + numBis (1) + codecSpecCfgLen (1) + metadataLen (1)"
  if (serviceData.length : Int) - offset < metadataCodecLength + 3 then none
  else
    let numSubGroups := (serviceData.getD offset 0).toInt8
    let codecId := (serviceData.drop (offset + 1)).take metadataCodecLength
    match parseLengthPrefixed serviceData (offset + 1 + metadataCodecLength) with
    | none => none
    | some (codecConfigLength, codecConfigInfo, offset) =>
      -- "Verify the buffer size left"
      if (serviceData.length : Int) - offset < 1 then none
      else
        match parseLengthPrefixed serviceData offset with
        | none => none
        | some (metaDataLength, metaData, offset) =>
          some ({ level := 2, subGroupId := groupIndex, numSubGroups, codecId, codecConfigLength,
                  codecConfigInfo, metaDataLength, metaData }, offset)

/-- `parseLevelThree(serviceData, offset)`. -/
def parseLevelThree (serviceData : List UInt8) (offset : Nat) : Option (BaseInformation × Nat) :=
  -- "Min. length expected is: bisIdx (1) + codecSpecCfgLen (1)"
  if (serviceData.length : Int) - offset < 2 then none
  else
    match parseLengthPrefixed serviceData (offset + 1) with
    | none => none
    | some (codecConfigLength, codecConfigInfo, offset') =>
      some ({ level := 3, index := (serviceData.getD offset 0).toInt8, codecConfigLength,
              codecConfigInfo }, offset')

/-- The inner loop of `parseBaseData`: `count` level-3 nodes from `offset`, or `null`. -/
def parseLevelThrees (serviceData : List UInt8) :
    Nat → Nat → List BaseInformation → Option (List BaseInformation × Nat)
  | 0, offset, levelThree => some (levelThree, offset)
  | count + 1, offset, levelThree =>
    if serviceData.length ≤ offset then none
    else
      match parseLevelThree serviceData offset with
      | none => none
      | some (node3, offset) => parseLevelThrees serviceData count offset (levelThree ++ [node3])

/-- What the outer loop of `parseBaseData` has read so far. -/
structure BaseParse where
  levelTwo : List BaseInformation
  levelThree : List BaseInformation
  numOfBISIndices : Int
  offset : Nat

/-- The outer loop of `parseBaseData`: subgroups `i` to `i + count - 1`, each with its BISes,
or `null`. -/
def parseLevelTwos (serviceData : List UInt8) : Nat → Nat → BaseParse → Option BaseParse
  | _, 0, st => some st
  | i, count + 1, st =>
    if serviceData.length ≤ st.offset then none
    else
      match parseLevelTwo serviceData i st.offset with
      | none => none
      | some (node2, offset) =>
        -- `for (int k = 0; k < node2.numSubGroups; k++)`, over a `byte`
        match parseLevelThrees serviceData node2.numSubGroups.toInt.toNat offset st.levelThree with
        | none => none
        | some (levelThree, offset) =>
          parseLevelTwos serviceData (i + 1) count
            ⟨st.levelTwo ++ [node2], levelThree, st.numOfBISIndices + node2.numSubGroups.toInt,
              offset⟩

/-- `levelThree.get(i).subGroupId = subGroupId`. -/
def setSubGroupId (levelThree : List BaseInformation) (i subGroupId : Int) :
    Except JavaException (List BaseInformation) :=
  if 0 ≤ i ∧ i < levelThree.length then
    .ok (levelThree.modify i.toNat fun node => { node with subGroupId })
  else .error .indexOutOfBounds

/-- `consolidateBaseofLevelThree`. Its loop runs from `startIdx` while
`i < startIdx + numNodes || i < levelThree.size()`. `levelTwo.get(parentSubgroup)` is always
in range. -/
def consolidateBaseofLevelThree (levelTwo levelThree : List BaseInformation)
    (parentSubgroup : Nat) (startIdx numNodes : Int) : Except JavaException (List BaseInformation) :=
  let stop := max (startIdx + numNodes) levelThree.length
  (List.range (stop - startIdx).toNat).foldlM
    (fun levelThree (j : Nat) =>
      setSubGroupId levelThree (startIdx + j) (levelTwo.getD parentSubgroup {}).subGroupId)
    levelThree

/-- The loop of `consolidateBaseofLevelTwo` from subgroup `i` on. -/
def consolidateLoop (levelTwo : List BaseInformation) :
    List BaseInformation → Nat → Int → Int → List BaseInformation →
      Except JavaException (List BaseInformation)
  | [], _, _, _, levelThree => .ok levelThree
  | node :: rest, i, startIdx, children, levelThree => do
    let startIdx := startIdx + children
    let children := children + node.numSubGroups.toInt
    let levelThree ← consolidateBaseofLevelThree levelTwo levelThree i startIdx node.numSubGroups.toInt
    consolidateLoop levelTwo rest (i + 1) startIdx children levelThree

def consolidateBaseofLevelTwo (levelTwo levelThree : List BaseInformation) :
    Except JavaException (List BaseInformation) :=
  consolidateLoop levelTwo levelTwo 0 0 0 levelThree

/-- `BaseData.parseBaseData(serviceData)`: `.ok none` for `null`, `.error` for a thrown
exception. -/
def parseBaseData (serviceData : List UInt8) : Except JavaException (Option BaseData) :=
  -- `System.arraycopy` of the presentation delay, then `serviceData[3]`
  if serviceData.length < metadataPresentationDelayLength + 1 then .error .arrayIndexOutOfBounds
  else
    let levelOne : BaseInformation :=
      { level := 1, presentationDelay := serviceData.take metadataPresentationDelayLength,
        numSubGroups := (serviceData.getD metadataPresentationDelayLength 0).toInt8 }
    match parseLevelTwos serviceData 0 levelOne.numSubGroups.toInt.toNat
        ⟨[], [], 0, metadataPresentationDelayLength + 1⟩ with
    | none => .ok none
    | some st => do
      let levelThree ← consolidateBaseofLevelTwo st.levelTwo st.levelThree
      pure (some ⟨levelOne, st.levelTwo, levelThree, st.numOfBISIndices⟩)

/-! ## What the assistant should read of a BASE -/

/-- The level-3 node of a BIS under subgroup `subGroupId`. -/
def BasicAudioAnnouncementBisConfig.toBaseInformation (bisConfig : BasicAudioAnnouncementBisConfig)
    (subGroupId : Int) : BaseInformation :=
  { level := 3, index := bisConfig.bisIndex.toInt8,
    codecConfigLength := bisConfig.codecSpecificParams.rawPacket.length,
    codecConfigInfo := bisConfig.codecSpecificParams.rawPacket, subGroupId }

/-- The level-2 node of subgroup `i`. -/
def BasicAudioAnnouncementSubgroup.toBaseInformation (subgroup : BasicAudioAnnouncementSubgroup)
    (i : Nat) : BaseInformation :=
  { level := 2, subGroupId := i, numSubGroups := subgroup.bisConfigs.length.toUInt8.toInt8,
    codecId := subgroup.codecConfig.codecId :: uint16ToStream subgroup.codecConfig.vendorCompanyId ++
      uint16ToStream subgroup.codecConfig.vendorCodecId,
    codecConfigLength := subgroup.codecConfig.codecSpecRaw.length,
    codecConfigInfo := subgroup.codecConfig.codecSpecRaw,
    metaDataLength := subgroup.metadata.rawPacket.length, metaData := subgroup.metadata.rawPacket }

/-- The level-2 nodes of subgroups `i`, `i + 1`, .... -/
def levelTwoOf : Nat → List BasicAudioAnnouncementSubgroup → List BaseInformation
  | _, [] => []
  | i, subgroup :: subgroups => subgroup.toBaseInformation i :: levelTwoOf (i + 1) subgroups

/-- The level-3 nodes of subgroups `i`, `i + 1`, ..., each tagged with its subgroup. -/
def levelThreeOf : Nat → List BasicAudioAnnouncementSubgroup → List BaseInformation
  | _, [] => []
  | i, subgroup :: subgroups =>
    subgroup.bisConfigs.map (·.toBaseInformation i) ++ levelThreeOf (i + 1) subgroups

/-- The level-3 nodes as the parse reads them, before the consolidation tags them. -/
def untaggedLevelThree (subgroups : List BasicAudioAnnouncementSubgroup) : List BaseInformation :=
  subgroups.flatMap fun subgroup => subgroup.bisConfigs.map (·.toBaseInformation 0)

/-- The number of BIS indices, `numOfBISIndices`. -/
def numBisOf (subgroups : List BasicAudioAnnouncementSubgroup) : Int :=
  (subgroups.map fun subgroup => (subgroup.bisConfigs.length : Int)).sum

/-- The level-1 node of an announcement. -/
def BasicAudioAnnouncementData.levelOne (announcement : BasicAudioAnnouncementData) :
    BaseInformation :=
  { level := 1, presentationDelay := uint24ToStream announcement.presentationDelayUs,
    numSubGroups := announcement.subgroupConfigs.length.toUInt8.toInt8 }

/-- The `BaseData` whose levels are the announcement's. -/
def BasicAudioAnnouncementData.toBaseData (announcement : BasicAudioAnnouncementData) : BaseData :=
  ⟨announcement.levelOne, levelTwoOf 0 announcement.subgroupConfigs,
    levelThreeOf 0 announcement.subgroupConfigs, numBisOf announcement.subgroupConfigs⟩

/-- Every count of a subgroup fits a Java `byte` and every field its length octet. -/
structure BasicAudioAnnouncementSubgroup.Fits (subgroup : BasicAudioAnnouncementSubgroup) : Prop where
  bisCount : subgroup.bisConfigs.length < 128
  codecSpec : subgroup.codecConfig.codecSpecRaw.length ≤ 255
  metadata : subgroup.metadata.rawPacket.length ≤ 255
  bisSpec : ∀ b ∈ subgroup.bisConfigs, b.codecSpecificParams.rawPacket.length ≤ 255

/-! ## The levels read back -/

section Reads

variable {serviceData rest : List UInt8} {offset : Nat}

/-- A count below 128 is the same number as a Java `byte`. -/
theorem toInt_toInt8_of_lt {n : Nat} (small : n < 128) : n.toUInt8.toInt8.toInt = n := by
  have bits : n.toUInt8.toInt8.toBitVec.toNat = n := by
    show (UInt8.ofNat n).toNat = n
    rw [UInt8.toNat_ofNat']
    omega
  rw [Int8.toInt, BitVec.toInt, bits, if_pos (by omega)]

theorem parseLengthPrefixed_of_drop {b : List UInt8} (short : b.length ≤ 255)
    (h : serviceData.drop offset = lengthPrefixed b ++ rest) :
    parseLengthPrefixed serviceData offset = some ((b.length : Int), b, offset + 1 + b.length) := by
  rw [lengthPrefixed, List.cons_append] at h
  have after := drop_succ_of_drop_eq_cons h
  have room := le_length_of_drop_eq (S := b.length.toUInt8 :: b) h (List.cons_ne_nil _ _)
  rw [List.length_cons] at room
  simp only [parseLengthPrefixed, getD_of_drop_eq_cons h, toNat_length_toUInt8 short, after,
    List.take_left' rfl]
  rw [if_neg (show ¬ ((b.length : Int) > serviceData.length - ((offset + 1 : Nat) : Int)) by omega)]
  -- an empty field is read as the constructor's empty one
  split_ifs with nonempty
  · rfl
  · obtain rfl := List.eq_nil_of_length_eq_zero (not_not.mp nonempty)
    rfl

theorem parseLevelThree_of_drop {bisConfig : BasicAudioAnnouncementBisConfig}
    (short : bisConfig.codecSpecificParams.rawPacket.length ≤ 255)
    (h : serviceData.drop offset = bisConfigBytes bisConfig ++ rest) :
    parseLevelThree serviceData offset =
      some (bisConfig.toBaseInformation 0, offset + (bisConfigBytes bisConfig).length) := by
  rw [bisConfigBytes, List.cons_append] at h
  have prefixed := drop_succ_of_drop_eq_cons h
  have room : offset + 2 ≤ serviceData.length := by
    rw [lengthPrefixed, List.cons_append] at prefixed
    exact add_two_le_of_drop_eq_cons (h.trans (congrArg _ (by rw [lengthPrefixed, List.cons_append])))
  unfold parseLevelThree
  rw [if_neg (show ¬ ((serviceData.length : Int) - offset < 2) by omega),
    parseLengthPrefixed_of_drop short prefixed, getD_of_drop_eq_cons h]
  simp only [bisConfigBytes, lengthPrefixed, List.length_cons, Option.some.injEq, Prod.mk.injEq]
  exact ⟨rfl, by omega⟩

/-- The BISes of a subgroup are read back in order, one level-3 node each. The induction is on
the BISes. -/
theorem parseLevelThrees_of_drop (bisConfigs : List BasicAudioAnnouncementBisConfig)
    (short : ∀ b ∈ bisConfigs, b.codecSpecificParams.rawPacket.length ≤ 255) :
    ∀ (offset : Nat) (levelThree : List BaseInformation),
      serviceData.drop offset = bisConfigs.flatMap bisConfigBytes ++ rest →
      parseLevelThrees serviceData bisConfigs.length offset levelThree =
        some (levelThree ++ bisConfigs.map (·.toBaseInformation 0),
          offset + (bisConfigs.flatMap bisConfigBytes).length) := by
  induction bisConfigs with
  | nil =>
    intro offset levelThree _
    simp [parseLevelThrees]
  | cons bisConfig bisConfigs ih =>
    intro offset levelThree h
    rw [List.flatMap_cons, List.append_assoc] at h
    have inside := le_length_of_drop_eq h (List.cons_ne_nil _ _)
    have first := parseLevelThree_of_drop (short bisConfig List.mem_cons_self) h
    rw [List.length_cons, parseLevelThrees, if_neg (by rw [bisConfigBytes, List.length_cons] at inside; omega),
      first]
    dsimp only
    rw [ih (fun b mem => short b (List.mem_cons_of_mem _ mem)) _ _ (drop_add_of_drop_eq h)]
    simp only [List.map_cons, List.append_assoc, List.singleton_append, List.flatMap_cons,
      List.length_append, Nat.add_assoc]

/-- A subgroup's bytes: its header, then its BISes. -/
theorem subgroupBytes_eq (subgroup : BasicAudioAnnouncementSubgroup) :
    subgroupBytes subgroup =
      ((subgroup.bisConfigs.length.toUInt8 :: subgroup.codecConfig.codecId ::
          uint16ToStream subgroup.codecConfig.vendorCompanyId ++
          uint16ToStream subgroup.codecConfig.vendorCodecId) ++
        (lengthPrefixed subgroup.codecConfig.codecSpecRaw ++
          lengthPrefixed subgroup.metadata.rawPacket)) ++
      subgroup.bisConfigs.flatMap bisConfigBytes := by
  simp [subgroupBytes, codecConfigurationBytes]

theorem parseLevelTwo_of_drop {subgroup : BasicAudioAnnouncementSubgroup} (fits : subgroup.Fits)
    (i : Nat) (h : serviceData.drop offset = subgroupBytes subgroup ++ rest) :
    parseLevelTwo serviceData i offset =
      some (subgroup.toBaseInformation i, offset + 8 + subgroup.codecConfig.codecSpecRaw.length +
        subgroup.metadata.rawPacket.length) := by
  rw [subgroupBytes_eq, List.append_assoc, List.append_assoc] at h
  -- the count and the codec id are six bytes
  have six : (subgroup.bisConfigs.length.toUInt8 :: subgroup.codecConfig.codecId ::
      uint16ToStream subgroup.codecConfig.vendorCompanyId ++
      uint16ToStream subgroup.codecConfig.vendorCodecId).length = 6 := rfl
  have codec := drop_add_of_drop_eq h
  rw [six, List.append_assoc] at codec
  have metaBytes := drop_add_of_drop_eq codec
  rw [lengthPrefixed, List.length_cons] at metaBytes
  have room := le_length_of_drop_eq metaBytes (by simp [lengthPrefixed])
  rw [lengthPrefixed, List.length_cons] at room
  have count : serviceData.getD offset 0 = subgroup.bisConfigs.length.toUInt8 :=
    getD_of_drop_eq_cons (by rw [h]; rfl)
  have codecId : (serviceData.drop (offset + 1)).take metadataCodecLength =
      subgroup.codecConfig.codecId :: uint16ToStream subgroup.codecConfig.vendorCompanyId ++
        uint16ToStream subgroup.codecConfig.vendorCodecId := by
    rw [drop_succ_of_drop_eq_cons (by rw [h]; rfl)]
    simp [uint16ToStream, metadataCodecLength]
  have codecField : parseLengthPrefixed serviceData (offset + 1 + metadataCodecLength) =
      some ((subgroup.codecConfig.codecSpecRaw.length : Int), subgroup.codecConfig.codecSpecRaw,
        offset + 1 + metadataCodecLength + 1 + subgroup.codecConfig.codecSpecRaw.length) :=
    parseLengthPrefixed_of_drop fits.codecSpec codec
  have metaField : parseLengthPrefixed serviceData
      (offset + 1 + metadataCodecLength + 1 + subgroup.codecConfig.codecSpecRaw.length) =
      some ((subgroup.metadata.rawPacket.length : Int), subgroup.metadata.rawPacket,
        offset + 1 + metadataCodecLength + 1 + subgroup.codecConfig.codecSpecRaw.length + 1 +
          subgroup.metadata.rawPacket.length) := by
    apply parseLengthPrefixed_of_drop fits.metadata
    rw [show offset + 1 + metadataCodecLength + 1 + subgroup.codecConfig.codecSpecRaw.length =
      offset + 6 + (subgroup.codecConfig.codecSpecRaw.length + 1) by
        simp only [metadataCodecLength]; omega]
    exact metaBytes
  unfold parseLevelTwo
  rw [if_neg (show ¬ ((serviceData.length : Int) - offset < metadataCodecLength + 3) by
    simp only [metadataCodecLength]; omega)]
  simp only [count, codecId, codecField]
  rw [if_neg (show ¬ ((serviceData.length : Int) -
      ((offset + 1 + metadataCodecLength + 1 + subgroup.codecConfig.codecSpecRaw.length : Nat) : Int) < 1) by
    simp only [metadataCodecLength]; omega), metaField]
  simp only [Option.some.injEq, Prod.mk.injEq]
  exact ⟨rfl, by simp only [metadataCodecLength]; omega⟩

/-- **The subgroups are read back in order**, each as its level-2 node followed by its BISes'
level-3 nodes, untagged. The induction is on the subgroups. -/
theorem parseLevelTwos_of_drop (subgroups : List BasicAudioAnnouncementSubgroup)
    (fits : ∀ s ∈ subgroups, s.Fits) :
    ∀ (i : Nat) (st : BaseParse), serviceData.drop st.offset = subgroups.flatMap subgroupBytes ++ rest →
      parseLevelTwos serviceData i subgroups.length st =
        some ⟨st.levelTwo ++ levelTwoOf i subgroups, st.levelThree ++ untaggedLevelThree subgroups,
          st.numOfBISIndices + numBisOf subgroups,
          st.offset + (subgroups.flatMap subgroupBytes).length⟩ := by
  induction subgroups with
  | nil =>
    intro i st _
    simp [parseLevelTwos, levelTwoOf, untaggedLevelThree, numBisOf]
  | cons subgroup subgroups ih =>
    intro i st h
    have fit := fits subgroup List.mem_cons_self
    rw [List.flatMap_cons, List.append_assoc] at h
    have inside : ¬ serviceData.length ≤ st.offset := by
      have within := le_length_of_drop_eq h (by simp [subgroupBytes])
      have nonempty : 0 < (subgroupBytes subgroup).length := by simp [subgroupBytes]
      omega
    -- the header read, the BISes follow it
    have header := parseLevelTwo_of_drop fit i h
    rw [subgroupBytes_eq, List.append_assoc] at h
    have bises := drop_add_of_drop_eq h
    have headerLength : (subgroup.bisConfigs.length.toUInt8 :: subgroup.codecConfig.codecId ::
        uint16ToStream subgroup.codecConfig.vendorCompanyId ++
        uint16ToStream subgroup.codecConfig.vendorCodecId ++
        (lengthPrefixed subgroup.codecConfig.codecSpecRaw ++
          lengthPrefixed subgroup.metadata.rawPacket)).length =
        8 + subgroup.codecConfig.codecSpecRaw.length + subgroup.metadata.rawPacket.length := by
      simp only [uint16ToStream, lengthPrefixed, List.cons_append, List.length_cons,
        List.length_append, List.length_nil]
      omega
    rw [headerLength, ← Nat.add_assoc, ← Nat.add_assoc] at bises
    have countInt : (subgroup.toBaseInformation i).numSubGroups.toInt = subgroup.bisConfigs.length :=
      toInt_toInt8_of_lt fit.bisCount
    have count : (subgroup.toBaseInformation i).numSubGroups.toInt.toNat = subgroup.bisConfigs.length := by
      rw [countInt, Int.toNat_natCast]
    rw [List.length_cons, parseLevelTwos, if_neg inside, header]
    dsimp only
    rw [count, parseLevelThrees_of_drop subgroup.bisConfigs fit.bisSpec _ _ bises]
    dsimp only
    rw [ih (fun s mem => fits s (List.mem_cons_of_mem _ mem)) _ _ (drop_add_of_drop_eq bises)]
    simp only [levelTwoOf, untaggedLevelThree, numBisOf, List.flatMap_cons, List.map_cons,
      List.sum_cons, List.append_assoc, List.singleton_append, List.length_append, subgroupBytes_eq,
      BaseParse.mk.injEq, Option.some.injEq, true_and]
    constructor
    · rw [countInt]
      omega
    · simp only [uint16ToStream, lengthPrefixed, List.length_cons, List.length_nil]
      omega

end Reads

/-! ## The consolidation -/

section Consolidation

@[simp] theorem ok_bind {ε α β : Type} (a : α) (f : α → Except ε β) : (Except.ok a >>= f) = f a :=
  rfl

@[simp] theorem error_bind {ε α β : Type} (e : ε) (f : α → Except ε β) :
    (Except.error e >>= f) = .error e :=
  rfl

theorem modify_append_cons {α : Type} (f : α → α) (x : α) (post : List α) :
    ∀ pre : List α, (pre ++ x :: post).modify pre.length f = pre ++ f x :: post
  | [] => List.modify_zero_cons f x post
  | y :: pre => by
    rw [List.cons_append, List.length_cons, List.modify_succ_cons, modify_append_cons f x post pre,
      List.cons_append]

theorem setSubGroupId_of_eq (pre post : List BaseInformation) (x : BaseInformation) {i : Int}
    (at_x : i = pre.length) (tag : Int) :
    setSubGroupId (pre ++ x :: post) i tag = .ok (pre ++ { x with subGroupId := tag } :: post) := by
  have inside : 0 ≤ i ∧ i < (pre ++ x :: post).length := by
    simp only [List.length_append, List.length_cons]
    omega
  rw [setSubGroupId, if_pos inside, at_x, Int.toNat_natCast, modify_append_cons]

/-- **A run of the tagging loop inside the list** tags the nodes it passes. The induction is on
those nodes, from the last. -/
theorem foldlM_setSubGroupId_ok (tag : Int) (pre : List BaseInformation) (start : Int)
    (at_pre : start = pre.length) :
    ∀ (mid post : List BaseInformation),
      (List.range mid.length).foldlM (fun l (j : Nat) => setSubGroupId l (start + j) tag)
          (pre ++ mid ++ post) =
        .ok (pre ++ mid.map (fun node => { node with subGroupId := tag }) ++ post) := by
  intro mid
  induction mid using List.reverseRecOn with
  | nil =>
    intro post
    rfl
  | append_singleton mid x ih =>
    intro post
    have regroup : pre ++ (mid ++ [x]) ++ post = pre ++ mid ++ x :: post := by simp
    rw [List.length_append, List.length_singleton, List.range_succ, List.foldlM_append, regroup,
      ih (x :: post)]
    -- the last step tags `x`, right behind the nodes tagged so far
    have last := setSubGroupId_of_eq (pre ++ mid.map fun node => { node with subGroupId := tag }) post
      x (i := start + mid.length) (by simp [at_pre]) tag
    simp only [List.foldlM_cons, List.foldlM_nil, ok_bind]
    rw [last]
    simp

/-- **A run of the tagging loop past the end of the list** throws. -/
theorem foldlM_setSubGroupId_error (tag : Int) (levelThree : List BaseInformation) {start : Int}
    (nonneg : 0 ≤ start) {m : Nat} (pos : 0 < m) (past : levelThree.length < start + m) :
    (List.range m).foldlM (fun l (j : Nat) => setSubGroupId l (start + j) tag) levelThree =
      .error .indexOutOfBounds := by
  by_cases within : start ≤ levelThree.length
  · -- the loop tags up to the end, then reads the element at the end
    obtain ⟨k, hk⟩ : ∃ k, m = (levelThree.length - start.toNat) + (k + 1) :=
      ⟨m - (levelThree.length - start.toNat) - 1, by omega⟩
    have tagged := foldlM_setSubGroupId_ok tag (levelThree.take start.toNat) start
      (by simp; omega) (levelThree.drop start.toNat) []
    rw [List.take_append_drop, List.append_nil, List.length_drop] at tagged
    rw [hk, List.range_add, List.foldlM_append, tagged, ok_bind, List.range_succ_eq_map]
    simp only [List.map_cons, List.foldlM_cons]
    rw [setSubGroupId, if_neg (by simp; omega), error_bind]
  · -- the first index is already past the end
    obtain ⟨k, rfl⟩ : ∃ k, m = k + 1 := ⟨m - 1, by omega⟩
    rw [List.range_succ_eq_map, List.foldlM_cons, setSubGroupId, if_neg (by omega), error_bind]

theorem consolidateBaseofLevelThree_ok {levelTwo levelThree : List BaseInformation}
    {parentSubgroup : Nat} {startIdx numNodes : Int} (pre mid : List BaseInformation)
    (split : levelThree = pre ++ mid) (at_pre : startIdx = pre.length)
    (within : startIdx + numNodes ≤ pre.length + mid.length) :
    consolidateBaseofLevelThree levelTwo levelThree parentSubgroup startIdx numNodes =
      .ok (pre ++ mid.map fun node =>
        { node with subGroupId := (levelTwo.getD parentSubgroup {}).subGroupId }) := by
  have count : (max (startIdx + numNodes) ((pre ++ mid).length : Int) - startIdx).toNat =
      mid.length := by
    simp only [List.length_append]
    omega
  subst split
  unfold consolidateBaseofLevelThree
  dsimp only
  rw [count]
  simpa using foldlM_setSubGroupId_ok _ pre _ at_pre mid []

theorem consolidateBaseofLevelThree_error {levelTwo levelThree : List BaseInformation}
    {parentSubgroup : Nat} {startIdx numNodes : Int} (nonneg : 0 ≤ startIdx) (pos : 0 < numNodes)
    (past : levelThree.length < startIdx + numNodes) :
    consolidateBaseofLevelThree levelTwo levelThree parentSubgroup startIdx numNodes =
      .error .indexOutOfBounds := by
  have count : (max (startIdx + numNodes) (levelThree.length : Int) - startIdx).toNat =
      numNodes.toNat := by
    rw [max_eq_left (by omega), add_sub_cancel_left]
  unfold consolidateBaseofLevelThree
  dsimp only
  rw [count]
  exact foldlM_setSubGroupId_error _ _ nonneg (by omega) (by omega)

theorem map_tag_toBaseInformation (bisConfigs : List BasicAudioAnnouncementBisConfig) (i j : Int) :
    (bisConfigs.map (·.toBaseInformation j)).map (fun node => { node with subGroupId := i }) =
      bisConfigs.map (·.toBaseInformation i) := by
  rw [List.map_map]
  rfl

@[simp] theorem subGroupId_toBaseInformation (subgroup : BasicAudioAnnouncementSubgroup) (i : Nat) :
    (subgroup.toBaseInformation i).subGroupId = i :=
  rfl

theorem numSubGroups_toBaseInformation {subgroup : BasicAudioAnnouncementSubgroup} (i : Nat)
    (small : subgroup.bisConfigs.length < 128) :
    (subgroup.toBaseInformation i).numSubGroups.toInt = subgroup.bisConfigs.length :=
  toInt_toInt8_of_lt small

/-- **One or two subgroups are consolidated right**: the first pass tags every level-3 node
with subgroup 0, the second those from the first subgroup's count on with subgroup 1. -/
theorem consolidateBaseofLevelTwo_of_le_two {subgroups : List BasicAudioAnnouncementSubgroup}
    (few : subgroups.length ≤ 2) (counts : ∀ s ∈ subgroups, s.bisConfigs.length < 128) :
    consolidateBaseofLevelTwo (levelTwoOf 0 subgroups) (untaggedLevelThree subgroups) =
      .ok (levelThreeOf 0 subgroups) := by
  match subgroups, few, counts with
  | [], _, _ => rfl
  | [s0], _, counts =>
    have n0 := numSubGroups_toBaseInformation 0 (counts s0 List.mem_cons_self)
    simp only [consolidateBaseofLevelTwo, levelTwoOf, consolidateLoop, untaggedLevelThree,
      List.flatMap_cons, List.flatMap_nil, List.append_nil]
    rw [consolidateBaseofLevelThree_ok [] _ (List.nil_append _).symm (by simp)
      (by simp only [List.length_nil, List.length_map, n0]; omega), ok_bind]
    simp only [List.getD_cons_zero, subGroupId_toBaseInformation, map_tag_toBaseInformation,
      List.nil_append, levelThreeOf, List.append_nil]
  | [s0, s1], _, counts =>
    have n0 := numSubGroups_toBaseInformation 0 (counts s0 List.mem_cons_self)
    have n1 := numSubGroups_toBaseInformation 1 (counts s1 (by simp))
    simp only [consolidateBaseofLevelTwo, levelTwoOf, consolidateLoop, untaggedLevelThree,
      List.flatMap_cons, List.flatMap_nil, List.append_nil]
    -- the first subgroup's pass tags all, the second's from its start on
    rw [consolidateBaseofLevelThree_ok [] _ (List.nil_append _).symm (by simp)
      (by simp only [List.length_nil, List.length_append, List.length_map, n0]; omega), ok_bind,
      List.nil_append, List.map_append,
      consolidateBaseofLevelThree_ok _ _ rfl (by simp only [List.length_map, n0]; omega)
        (by simp only [List.length_map, n0, n1]; omega), ok_bind]
    simp only [List.getD_cons_zero, List.getD_cons_succ, subGroupId_toBaseInformation,
      map_tag_toBaseInformation, levelThreeOf, List.append_nil]

/-- **Three subgroups whose first and third have a BIS make the consolidation throw**: the
third pass starts at the first count plus the first two counts, past the end once the third
count is added. -/
theorem consolidateBaseofLevelTwo_three {s0 s1 s2 : BasicAudioAnnouncementSubgroup}
    (counts : ∀ s ∈ [s0, s1, s2], s.bisConfigs.length < 128) (first : 0 < s0.bisConfigs.length)
    (third : 0 < s2.bisConfigs.length) :
    consolidateBaseofLevelTwo (levelTwoOf 0 [s0, s1, s2]) (untaggedLevelThree [s0, s1, s2]) =
      .error .indexOutOfBounds := by
  have n0 := numSubGroups_toBaseInformation 0 (counts s0 List.mem_cons_self)
  have n1 := numSubGroups_toBaseInformation 1 (counts s1 (by simp))
  have n2 := numSubGroups_toBaseInformation 2 (counts s2 (by simp))
  simp only [consolidateBaseofLevelTwo, levelTwoOf, consolidateLoop, untaggedLevelThree,
    List.flatMap_cons, List.flatMap_nil, List.append_nil]
  rw [consolidateBaseofLevelThree_ok [] _ (List.nil_append _).symm (by simp)
    (by simp only [List.length_nil, List.length_append, List.length_map, n0]; omega),
    ok_bind, List.nil_append, List.map_append,
    consolidateBaseofLevelThree_ok _ _ rfl (by simp only [List.length_map, n0]; omega)
      (by simp only [List.length_append, List.length_map, n0, n1]; omega), ok_bind]
  -- the third pass starts at `n0 + (n0 + n1)`, and `n0 + (n0 + n1) + n2 > n0 + n1 + n2`
  rw [consolidateBaseofLevelThree_error (by simp only [n0, n1]; omega) (by simp only [n2]; omega)
      (by simp only [List.length_append, List.length_map, n0, n1, n2]; omega), error_bind]

end Consolidation

/-! ## The parse of the broadcaster's BASE -/

/-- **The parse of the layout is the consolidation of the levels it reads**, for fewer than 128
subgroups that each fit. -/
theorem parseBaseData_baseBytes_eq {announcement : BasicAudioAnnouncementData}
    (few : announcement.subgroupConfigs.length < 128)
    (fits : ∀ s ∈ announcement.subgroupConfigs, s.Fits) :
    parseBaseData (baseBytes announcement) =
      (fun levelThree => some ⟨announcement.levelOne, levelTwoOf 0 announcement.subgroupConfigs,
          levelThree, numBisOf announcement.subgroupConfigs⟩) <$>
        consolidateBaseofLevelTwo (levelTwoOf 0 announcement.subgroupConfigs)
          (untaggedLevelThree announcement.subgroupConfigs) := by
  have body : (baseBytes announcement).drop (metadataPresentationDelayLength + 1) =
      announcement.subgroupConfigs.flatMap subgroupBytes ++ [] := by
    simp [baseBytes, uint24ToStream, metadataPresentationDelayLength]
  have long : ¬ (baseBytes announcement).length < metadataPresentationDelayLength + 1 := by
    simp [baseBytes, uint24ToStream, metadataPresentationDelayLength]
  have delay : (baseBytes announcement).take metadataPresentationDelayLength =
      uint24ToStream announcement.presentationDelayUs := by
    simp [baseBytes, uint24ToStream, metadataPresentationDelayLength]
  have count : (baseBytes announcement).getD metadataPresentationDelayLength 0 =
      announcement.subgroupConfigs.length.toUInt8 := by
    simp [baseBytes, uint24ToStream, metadataPresentationDelayLength]
  unfold parseBaseData
  rw [if_neg long]
  dsimp only
  rw [delay, count, toInt_toInt8_of_lt few, Int.toNat_natCast,
    parseLevelTwos_of_drop announcement.subgroupConfigs fits 0 _ body]
  simp only [List.nil_append, zero_add]
  rfl

/-- **One or two subgroups read back whole**: on the broadcaster's layout of an announcement
of at most two subgroups that fit, `parseBaseData` returns its presentation delay, its
subgroups' codec ids, configurations, metadata and BIS counts, and its BISes' indices and
configurations, each BIS tagged with the subgroup it was written under. -/
theorem parseBaseData_baseBytes {announcement : BasicAudioAnnouncementData}
    (few : announcement.subgroupConfigs.length ≤ 2)
    (fits : ∀ s ∈ announcement.subgroupConfigs, s.Fits) :
    parseBaseData (baseBytes announcement) = .ok (some announcement.toBaseData) := by
  rw [parseBaseData_baseBytes_eq (by omega) fits,
    consolidateBaseofLevelTwo_of_le_two few fun s mem => (fits s mem).bisCount]
  rfl

/-- **Three subgroups whose first and third have a BIS make `parseBaseData` throw**, whatever
else they hold. -/
theorem parseBaseData_baseBytes_three {announcement : BasicAudioAnnouncementData}
    {s0 s1 s2 : BasicAudioAnnouncementSubgroup} (three : announcement.subgroupConfigs = [s0, s1, s2])
    (fits : ∀ s ∈ announcement.subgroupConfigs, s.Fits) (first : 0 < s0.bisConfigs.length)
    (third : 0 < s2.bisConfigs.length) :
    parseBaseData (baseBytes announcement) = .error .indexOutOfBounds := by
  rw [parseBaseData_baseBytes_eq (by simp [three]) fits, three,
    consolidateBaseofLevelTwo_three (fun s mem => (fits s (three ▸ mem)).bisCount) first third]
  rfl

/-! ## A BASE of three subgroups -/

/-- An LC3 subgroup without parameters or metadata, of one BIS. -/
def lc3Subgroup (bisIndex : UInt8) : BasicAudioAnnouncementSubgroup :=
  ⟨⟨6, 0, 0, LeAudioLtvMap.empty, none⟩, LeAudioLtvMap.empty, [⟨LeAudioLtvMap.empty, bisIndex⟩]⟩

theorem lc3Subgroup_fits (bisIndex : UInt8) : (lc3Subgroup bisIndex).Fits where
  bisCount := by simp [lc3Subgroup]
  codecSpec := by dsimp only [lc3Subgroup]; decide
  metadata := by dsimp only [lc3Subgroup]; decide
  bisSpec := by simp only [lc3Subgroup, List.mem_singleton, forall_eq]; decide

/-- Two subgroups of one BIS each, as a broadcast in two languages has. -/
def twoSubgroups : BasicAudioAnnouncementData :=
  ⟨40000, [lc3Subgroup 1, lc3Subgroup 2]⟩

/-- The BASE of two one-BIS subgroups reads back. -/
theorem parseBaseData_baseBytes_two_subgroups :
    parseBaseData (baseBytes twoSubgroups) = .ok (some twoSubgroups.toBaseData) :=
  parseBaseData_baseBytes (by decide) fun s mem => by
    simp only [twoSubgroups, List.mem_cons, List.not_mem_nil, or_false] at mem
    rcases mem with rfl | rfl <;> exact lc3Subgroup_fits _

/-- Three subgroups of one BIS each, as a broadcast in three languages has. -/
def threeSubgroups : BasicAudioAnnouncementData :=
  ⟨40000, [lc3Subgroup 1, lc3Subgroup 2, lc3Subgroup 3]⟩

/-- The broadcaster writes the BASE of three one-BIS subgroups, and the assistant's parser
throws on it: the third subgroup's level-3 entries are looked for from index
`startIdx = 3`, past the three there are. A vendor codec configuration of 250 bytes makes
`ToRawPacket` write past its vector; and an array of fewer than four bytes makes
`parseBaseData` throw. -/
theorem base_three_subgroups_parse_throws :
    toRawPacket threeSubgroups [] = some (baseBytes threeSubgroups) ∧
    parseBaseData (baseBytes threeSubgroups) = .error .indexOutOfBounds ∧
    toRawPacket ⟨40000, [⟨⟨0xFF, 0, 0, LeAudioLtvMap.empty, some (List.replicate 250 0)⟩,
      LeAudioLtvMap.empty, []⟩]⟩ [] = none ∧
    parseBaseData [] = .error .arrayIndexOutOfBounds := by
  have fits : ∀ s ∈ threeSubgroups.subgroupConfigs, s.Fits := fun s mem => by
    simp only [threeSubgroups, List.mem_cons, List.not_mem_nil, or_false] at mem
    rcases mem with rfl | rfl | rfl <;> exact lc3Subgroup_fits _
  refine ⟨toRawPacket_eq_some [] (by decide),
    parseBaseData_baseBytes_three rfl fits (by decide) (by decide), ?_, rfl⟩
  rw [toRawPacket_eq_none_iff]
  refine ⟨_, List.mem_singleton_self _, ?_⟩
  show 250 ≤ (List.replicate 250 (0 : UInt8)).length
  rw [List.length_replicate]

end LeAudio

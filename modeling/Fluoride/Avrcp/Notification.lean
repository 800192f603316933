import Fluoride.Avrcp.FolderItemsRequest

/-!
# AVRCP — notification responses (`register_notification_packet.cc`)

`RegisterNotificationResponseBuilder` keeps the data of its event in a union, `data_union_`,
which each `Make*Builder` fills and `Serialize` writes after the event byte. Its `size()` is
the vendor header, the event byte and the event's data; `Serialize` writes that many bytes
and a parameter length of what follows the vendor header, for every event whose notification
is implemented (`serialize_spec`).

The union is kept as its bytes, since its members overlap. Its largest member,
`player_settings`, is a count, `attributes[4]` and `values[4]`, nine bytes, and the union is
aligned to 8 by `track_uid`, so it has 16 bytes. `MakePlayerSettingChangedBuilder` copies as
many pairs as it is given into those arrays without a bound: up to four pairs are written back
as given (`playerSettingChanged_payload`), but `attributes[4]` is `values[0]`, so a fifth pair
overwrites the value of the first. A write past the union's 16 bytes leaves the object, which
the model drops; reading there gives `0`. The union is not initialised by the constructor; the
model starts it at zeros.
-/

namespace Avrcp

/-- `enum class Event`. -/
inductive Event
  | playbackStatusChanged | trackChanged | playbackPosChanged
  | playerApplicationSettingChanged | nowPlayingContentChanged | availablePlayersChanged
  | addressedPlayerChanged | uidsChanged | volumeChanged
  deriving DecidableEq, Repr

def Event.toUInt8 : Event → UInt8
  | playbackStatusChanged => 0x01 | trackChanged => 0x02 | playbackPosChanged => 0x05
  | playerApplicationSettingChanged => 0x08 | nowPlayingContentChanged => 0x09
  | availablePlayersChanged => 0x0a | addressedPlayerChanged => 0x0b | uidsChanged => 0x0c
  | volumeChanged => 0x0d

/-- `enum class PlayerAttribute`. -/
inductive PlayerAttribute
  | equalizer | «repeat» | shuffle | scan
  deriving DecidableEq, Repr

def PlayerAttribute.toUInt8 : PlayerAttribute → UInt8
  | equalizer => 0x01 | «repeat» => 0x02 | shuffle => 0x03 | scan => 0x04

def cTypeChanged : UInt8 := 0x0d
def cTypeInterim : UInt8 := 0x0f
def commandPduRegisterNotification : UInt8 := 0x31

/-- `VendorPacket::GetParameterLength`, after the AV/C header, company id, PDU and packet
type. -/
def vendorPacketGetParameterLength (pkt : List UInt8) : UInt16 := extractBE16 pkt 8

/-- The bytes of `data_union_`. -/
abbrev DataUnion := Vector UInt8 16

/-- A byte of the union; past its end, `0`. -/
def DataUnion.byte (u : DataUnion) (i : Nat) : UInt8 := u.toList.getD i 0

/-- A member of `n` bytes at `offset` as it lies in memory, least significant byte first. -/
def DataUnion.member (u : DataUnion) (offset n : Nat) : List UInt8 :=
  (List.range n).map fun i => u.byte (offset + i)

/-- Storing a member: its bytes from `offset` on. -/
def DataUnion.store (u : DataUnion) (offset : Nat) : List UInt8 → DataUnion
  | [] => u
  | b :: bs => DataUnion.store (u.setIfInBounds offset b) (offset + 1) bs

structure RegisterNotificationResponseBuilder where
  interim : Bool
  event : Event
  dataUnion : DataUnion

namespace RegisterNotificationResponseBuilder

def make (interim : Bool) (event : Event) : RegisterNotificationResponseBuilder :=
  ⟨interim, event, Vector.replicate 16 0⟩

def makePlaybackStatusBuilder (interim : Bool) (playStatus : UInt8) :
    RegisterNotificationResponseBuilder :=
  let b := make interim .playbackStatusChanged
  { b with dataUnion := b.dataUnion.store 0 [playStatus] }

def makeTrackChangedBuilder (interim : Bool) (trackUid : UInt64) :
    RegisterNotificationResponseBuilder :=
  let b := make interim .trackChanged
  { b with dataUnion := b.dataUnion.store 0 (addPayloadOctets 8 trackUid.toNat) }

def makePlaybackPositionBuilder (interim : Bool) (playbackPos : UInt32) :
    RegisterNotificationResponseBuilder :=
  let b := make interim .playbackPosChanged
  { b with dataUnion := b.dataUnion.store 0 (addPayloadOctets 4 playbackPos.toNat) }

/-- The loop of `MakePlayerSettingChangedBuilder`: pair `i` goes to `attributes[i]`, at byte
`1 + i`, and `values[i]`, at byte `5 + i`, with `std::vector::at`, which throws past the end. -/
def playerSettingsLoop (attributes : List PlayerAttribute) (values : List UInt8) (u : DataUnion) :
    List Nat → Option DataUnion
  | [] => some u
  | i :: is => do
    let attr ← attributes[i]?
    let value ← values[i]?
    playerSettingsLoop attributes values
      ((u.setIfInBounds (1 + i) attr.toUInt8).setIfInBounds (5 + i) value) is

/-- `MakePlayerSettingChangedBuilder`; `none` when `values.at(i)` throws. -/
def makePlayerSettingChangedBuilder (interim : Bool) (attributes : List PlayerAttribute)
    (values : List UInt8) : Option RegisterNotificationResponseBuilder :=
  let b := make interim .playerApplicationSettingChanged
  let numberOfAttributes := UInt8.ofNat attributes.length
  let u := b.dataUnion.setIfInBounds 0 numberOfAttributes
  (playerSettingsLoop attributes values u (List.range numberOfAttributes.toNat)).map
    fun u => { b with dataUnion := u }

def makeNowPlayingBuilder (interim : Bool) : RegisterNotificationResponseBuilder :=
  make interim .nowPlayingContentChanged

def makeAvailablePlayersBuilder (interim : Bool) : RegisterNotificationResponseBuilder :=
  make interim .availablePlayersChanged

def makeAddressedPlayerBuilder (interim : Bool) (playerId uidCounter : UInt16) :
    RegisterNotificationResponseBuilder :=
  let b := make interim .addressedPlayerChanged
  let u := b.dataUnion.store 0 (addPayloadOctets 2 playerId.toNat)
  { b with dataUnion := DataUnion.store u 2 (addPayloadOctets 2 uidCounter.toNat) }

def makeUidsChangedBuilder (interim : Bool) (uidCounter : UInt16) :
    RegisterNotificationResponseBuilder :=
  let b := make interim .uidsChanged
  { b with dataUnion := b.dataUnion.store 0 (addPayloadOctets 2 uidCounter.toNat) }

/-- The data `size()` counts for the event; `none` where it calls `log::fatal`. -/
def dataSize (b : RegisterNotificationResponseBuilder) : Option Nat :=
  match b.event with
  | .playbackStatusChanged => some 1
  | .trackChanged => some 8
  | .playbackPosChanged => some 4
  | .playerApplicationSettingChanged => some (1 + 2 * (b.dataUnion.byte 0).toNat)
  | .nowPlayingContentChanged => some 0
  | .availablePlayersChanged => some 0
  | .addressedPlayerChanged => some 4
  | .uidsChanged => some 2
  | .volumeChanged => none

def size (b : RegisterNotificationResponseBuilder) : Option Nat :=
  b.dataSize.map fun dataSize => vendorPacketKMinSize + 1 + dataSize

/-- The bytes `Serialize` writes after the event byte: a member written with
`AddPayloadOctetsN(pkt, base::ByteSwap(..))` goes most significant byte first, its bytes in
memory reversed. -/
def data (b : RegisterNotificationResponseBuilder) : Option (List UInt8) :=
  let u := b.dataUnion
  match b.event with
  | .playbackStatusChanged => some [u.byte 0]
  | .trackChanged => some (u.member 0 8).reverse
  | .playbackPosChanged => some (u.member 0 4).reverse
  | .playerApplicationSettingChanged =>
    some (u.byte 0 :: (List.range (u.byte 0).toNat).flatMap fun i => [u.byte (1 + i), u.byte (5 + i)])
  | .nowPlayingContentChanged => some []
  | .availablePlayersChanged => some []
  | .addressedPlayerChanged => some ((u.member 0 2).reverse ++ (u.member 2 2).reverse)
  | .uidsChanged => some (u.member 0 2).reverse
  | .volumeChanged => none

def serialize (b : RegisterNotificationResponseBuilder) : Option (List UInt8) := do
  let size ← b.size
  let data ← b.data
  pure (pushHeader (if b.interim then cTypeInterim else cTypeChanged) 0x09 0x00 opcodeVendor ++
    vendorPushHeader commandPduRegisterNotification packetTypeSingle
      (UInt16.ofNat (size - vendorPacketKMinSize)) ++
    [b.event.toUInt8] ++ data)

/-! ## `size()` is what `Serialize` writes -/

theorem length_member (u : DataUnion) (offset n : Nat) : (u.member offset n).length = n := by
  simp [DataUnion.member]

theorem length_pairs (u : DataUnion) (n : Nat) :
    ((List.range n).flatMap fun i => [u.byte (1 + i), u.byte (5 + i)]).length = 2 * n := by
  simp [List.length_flatMap, Nat.mul_comm]

theorem length_data {b : RegisterNotificationResponseBuilder} {count : Nat} {bytes : List UInt8}
    (size : b.dataSize = some count) (written : b.data = some bytes) : bytes.length = count := by
  -- one case per event; a reversed member keeps its length
  cases event : b.event <;> simp only [dataSize, data, event, Option.some.injEq,
    reduceCtorEq] at size written
  all_goals
    subst size written
    simp only [List.length_cons, List.length_nil, List.length_reverse, List.length_append,
      length_member, length_pairs]
  all_goals omega

/-- **`Serialize` writes `size()` bytes**, with the parameter length of what follows the vendor
header, for every event whose notification is implemented and whatever the union holds. -/
theorem serialize_spec (b : RegisterNotificationResponseBuilder)
    (implemented : b.event ≠ .volumeChanged) :
    ∃ size pkt, b.size = some size ∧ b.serialize = some pkt ∧ pkt.length = size ∧
      (vendorPacketGetParameterLength pkt).toNat = size - vendorPacketKMinSize := by
  obtain ⟨count, hsize⟩ : ∃ count, b.dataSize = some count := by
    cases event : b.event <;> simp [dataSize, event] at implemented ⊢
  obtain ⟨bytes, hdata⟩ : ∃ bytes, b.data = some bytes := by
    cases event : b.event <;> simp [data, event] at implemented ⊢
  have length := length_data hsize hdata
  -- the data is at most `1 + 2 * 255` bytes, so the parameter length fits its 16 bits
  have small : count ≤ 511 := by
    have := (b.dataUnion.byte 0).toNat_lt
    cases event : b.event <;> simp only [dataSize, event, Option.some.injEq, reduceCtorEq] at hsize <;>
      omega
  have vendor : vendorPacketKMinSize + 1 + count - vendorPacketKMinSize = 1 + count := by omega
  let pre := pushHeader (if b.interim then cTypeInterim else cTypeChanged) 0x09 0x00 opcodeVendor ++
    pushCompanyId bluetoothCompanyId ++ [commandPduRegisterNotification, packetTypeSingle]
  have written : b.serialize = some (pre ++ addPayloadOctetsSwapped 2 (UInt16.ofNat (1 + count)).toNat ++
      ([b.event.toUInt8] ++ bytes)) := by
    simp [serialize, size, hsize, hdata, vendorPushHeader, vendor, pre]
  have preLength : pre.length = 8 := by
    simp [pre, pushCompanyId, packetKMinSize]
  refine ⟨vendorPacketKMinSize + 1 + count, _, by simp [size, hsize], written, ?_, ?_⟩
  · simp [length, preLength, vendorPacketKMinSize, packetKMinSize]
    omega
  · have header := extractBE16_swapped pre ([b.event.toUInt8] ++ bytes) (UInt16.ofNat (1 + count))
    rw [preLength] at header
    rw [vendorPacketGetParameterLength, header, UInt16.toNat_ofNat', vendor,
      Nat.mod_eq_of_lt (by omega)]

/-! ## The player settings -/

theorem byte_setIfInBounds (u : DataUnion) {j k : Nat} (hk : k < 16) (x : UInt8) :
    DataUnion.byte (u.setIfInBounds j x) k = if j = k then x else u.byte k := by
  simp only [DataUnion.byte, List.getD_eq_getElem?_getD, Vector.getElem?_toList]
  rw [Vector.getElem?_setIfInBounds]
  split_ifs <;> simp_all

theorem playerSettingsLoop_append (attributes : List PlayerAttribute) (values : List UInt8) :
    ∀ (u : DataUnion) (l₁ l₂ : List Nat), playerSettingsLoop attributes values u (l₁ ++ l₂) =
      (playerSettingsLoop attributes values u l₁).bind fun u' => playerSettingsLoop attributes values u' l₂
  | _, [], _ => rfl
  | u, i :: l₁, l₂ => by
    simp only [List.cons_append, playerSettingsLoop]
    cases attributes[i]? <;> cases values[i]? <;> simp [playerSettingsLoop_append]

/-- **The first four pairs land in their own bytes.** After pairs `0 .. k - 1`, with `k ≤ 4`,
byte `1 + i` holds attribute `i` and byte `5 + i` value `i`, and byte 0 the count. The
induction is on `k`; pair `k` writes bytes `1 + k` and `5 + k`, which no earlier pair owns. -/
theorem playerSettingsLoop_range (attributes : List PlayerAttribute) (values : List UInt8)
    (u : DataUnion) : ∀ k, k ≤ 4 → k ≤ attributes.length → k ≤ values.length →
      ∃ u', playerSettingsLoop attributes values u (List.range k) = some u' ∧
        u'.byte 0 = u.byte 0 ∧ ∀ i < k, u'.byte (1 + i) = (attributes.getD i .equalizer).toUInt8 ∧
          u'.byte (5 + i) = values.getD i 0
  | 0, _, _, _ => ⟨u, rfl, rfl, fun i h => absurd h (Nat.not_lt_zero i)⟩
  | k + 1, four, hattr, hvalue => by
    obtain ⟨u', loop, zero, pairs⟩ :=
      playerSettingsLoop_range attributes values u k (by omega) (by omega) (by omega)
    have attr : attributes[k]? = some (attributes.getD k .equalizer) := by
      simp [List.getD_eq_getElem?_getD, List.getElem?_eq_getElem (show k < attributes.length by omega)]
    have value : values[k]? = some (values.getD k 0) := by
      simp [List.getD_eq_getElem?_getD, List.getElem?_eq_getElem (show k < values.length by omega)]
    refine ⟨(u'.setIfInBounds (1 + k) (attributes.getD k .equalizer).toUInt8).setIfInBounds (5 + k)
      (values.getD k 0), ?_, ?_, ?_⟩
    · rw [List.range_succ, playerSettingsLoop_append, loop, Option.bind_some, playerSettingsLoop,
        attr, value]
      rfl
    · simp (disch := omega) only [byte_setIfInBounds]
      rw [if_neg (by omega), if_neg (by omega), zero]
    · intro i hi
      simp (disch := omega) only [byte_setIfInBounds]
      by_cases last : i = k
      · subst last
        simp
      · -- an earlier pair: neither of the new bytes is one of its own
        rw [if_neg (by omega), if_neg (by omega), if_neg (by omega), if_neg (by omega)]
        exact pairs i (by omega)

/-- Up to four pairs are written as given: the count, then each attribute with its value. -/
theorem playerSettingChanged_payload (interim : Bool) {attributes : List PlayerAttribute}
    {values : List UInt8} (few : attributes.length ≤ 4) (enough : attributes.length ≤ values.length) :
    ∃ b, makePlayerSettingChangedBuilder interim attributes values = some b ∧
      b.data = some (UInt8.ofNat attributes.length :: (List.range attributes.length).flatMap
        fun i => [(attributes.getD i .equalizer).toUInt8, values.getD i 0]) := by
  have count : (UInt8.ofNat attributes.length).toNat = attributes.length := by
    rw [UInt8.toNat_ofNat', Nat.mod_eq_of_lt (by omega)]
  obtain ⟨u', loop, zero, pairs⟩ := playerSettingsLoop_range attributes values
    ((make interim .playerApplicationSettingChanged).dataUnion.setIfInBounds 0
      (UInt8.ofNat attributes.length)) attributes.length few (Nat.le_refl _) enough
  refine ⟨{ make interim .playerApplicationSettingChanged with dataUnion := u' }, ?_, ?_⟩
  · simp only [makePlayerSettingChangedBuilder, count, loop, Option.map_some]
  · have byteZero : u'.byte 0 = UInt8.ofNat attributes.length := by
      rw [zero, byte_setIfInBounds _ (show 0 < 16 by decide), if_pos rfl]
    simp only [data, make, byteZero, count, Option.some.injEq, List.cons.injEq, true_and]
    apply List.flatMap_congr
    intro i mem
    rw [List.mem_range] at mem
    rw [(pairs i mem).1, (pairs i mem).2]

end RegisterNotificationResponseBuilder

/-! ## Two requests the builders do not write as given -/

/-- The attributes `0 .. 254`, a `std::set` of 255 attributes. -/
def manyAttributes : KeyedSet (fun attr : UInt32 => attr.toNat) :=
  ⟨(List.range 255).map Nat.toUInt32, by
    rw [List.pairwise_map]
    refine List.pairwise_lt_range.imp_of_mem fun {a b} ha hb lt => ?_
    rw [List.mem_range] at ha hb
    simp only [Nat.toUInt32, UInt32.toNat_ofNat', Nat.mod_eq_of_lt (show a < 2 ^ 32 by omega),
      Nat.mod_eq_of_lt (show b < 2 ^ 32 by omega), lt]⟩

/-- A GetFolderItems request for 255 attributes is read back as a valid request for none, and
a player-setting notification of five pairs writes the fifth attribute over the first value:
its first pair goes out as `(EQUALIZER, 0x01)` for `(EQUALIZER, 0x10)`. -/
theorem attribute_count_sentinel_and_fifth_setting :
    (GetFolderItemsRequestBuilder.mk .vfs 0 0xFFFFFFFF manyAttributes).requestedAttrs.toList.length =
        255 ∧
      GetFolderItemsRequest.isValid
        (GetFolderItemsRequestBuilder.mk .vfs 0 0xFFFFFFFF manyAttributes).serialize = true ∧
      GetFolderItemsRequest.getAttributesRequested
        (GetFolderItemsRequestBuilder.mk .vfs 0 0xFFFFFFFF manyAttributes).serialize = [] ∧
      (RegisterNotificationResponseBuilder.makePlayerSettingChangedBuilder false
          [.equalizer, .repeat, .shuffle, .scan, .equalizer] [0x10, 0x20, 0x30, 0x40, 0x50]).bind
        RegisterNotificationResponseBuilder.data =
        some [5, 0x01, 0x01, 0x02, 0x20, 0x03, 0x30, 0x04, 0x40, 0x01, 0x50] := by
  have full : (GetFolderItemsRequestBuilder.mk .vfs 0 0xFFFFFFFF manyAttributes).requestedAttrs.toList.length =
      255 := by
    simp [manyAttributes]
  obtain ⟨valid, none⟩ := GetFolderItemsRequestBuilder.getAttributesRequested_of_255 _ full
  exact ⟨full, valid, none, by decide⟩

end Avrcp

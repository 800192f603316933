import Mathlib.Data.UInt
import Fluoride.Lib.KeyedSet

/-!
# AVRCP packets: byte output and the items of a response

The parts of `packet/base/packet_builder.cc`, `packet/avrcp/avrcp_packet.cc`,
`vendor_packet.cc` and `avrcp_browse_packet.cc` that the response builders use, and the item
types of `avrcp_common.h` with their `size()`. A packet is the list of bytes pushed so far; each
`push*` is the list of bytes it appends.
-/

namespace Avrcp

/-! ## Byte output -/

/-- `PacketBuilder::AddPayloadOctets`: the low `octets` bytes of `value`, least significant
first. -/
def addPayloadOctets (octets value : Nat) : List UInt8 :=
  (List.range octets).map fun i => UInt8.ofNat (value >>> (8 * i))

/-- `AddPayloadOctetsN(pkt, base::ByteSwap(value))` on a little-endian host: the same bytes,
most significant first. -/
def addPayloadOctetsSwapped (octets value : Nat) : List UInt8 :=
  (addPayloadOctets octets value).reverse

@[simp] theorem length_addPayloadOctets (octets value : Nat) :
    (addPayloadOctets octets value).length = octets := by
  simp [addPayloadOctets]

@[simp] theorem length_addPayloadOctetsSwapped (octets value : Nat) :
    (addPayloadOctetsSwapped octets value).length = octets := by
  simp [addPayloadOctetsSwapped]

/-- `Iterator::extractBE<uint16_t>` at index `i`. -/
def extractBE16 (pkt : List UInt8) (i : Nat) : UInt16 :=
  (pkt.getD i 0).toUInt16 <<< 8 ||| (pkt.getD (i + 1) 0).toUInt16

theorem extractBE16_bytes (v : UInt16) :
    (UInt8.ofNat (v.toNat >>> 8)).toUInt16 <<< 8 ||| (UInt8.ofNat v.toNat).toUInt16 = v := by
  have bound := v.toNat_lt
  rw [← UInt16.toNat_inj, UInt16.toNat_or, UInt16.toNat_shiftLeft]
  have hi : (UInt8.ofNat (v.toNat >>> 8)).toUInt16.toNat = v.toNat / 2 ^ 8 := by
    simp only [UInt8.toNat_toUInt16, UInt8.toNat_ofNat', Nat.shiftRight_eq_div_pow]
    omega
  have lo : (UInt8.ofNat v.toNat).toUInt16.toNat = v.toNat % 2 ^ 8 := by
    simp only [UInt8.toNat_toUInt16, UInt8.toNat_ofNat']
  have fits : (v.toNat / 2 ^ 8) <<< 8 % 2 ^ 16 = (v.toNat / 2 ^ 8) <<< 8 :=
    Nat.mod_eq_of_lt (by rw [Nat.shiftLeft_eq]; omega)
  -- the two bytes occupy disjoint bits, so the `|||` is a sum
  rw [hi, lo, show (8 : UInt16).toNat % 16 = 8 from rfl, fits,
    ← Nat.shiftLeft_add_eq_or_of_lt (Nat.mod_lt _ (by decide)), Nat.shiftLeft_eq]
  omega

/-- A 16-bit field written most significant byte first reads back as its value. -/
theorem extractBE16_swapped (pre rest : List UInt8) (v : UInt16) :
    extractBE16 (pre ++ addPayloadOctetsSwapped 2 v.toNat ++ rest) pre.length = v := by
  have hi : (pre ++ addPayloadOctetsSwapped 2 v.toNat ++ rest).getD pre.length 0 =
      UInt8.ofNat (v.toNat >>> 8) := by
    simp [addPayloadOctetsSwapped, addPayloadOctets, List.range_succ]
  have lo : (pre ++ addPayloadOctetsSwapped 2 v.toNat ++ rest).getD (pre.length + 1) 0 =
      UInt8.ofNat v.toNat := by
    simp [addPayloadOctetsSwapped, addPayloadOctets, List.range_succ]
  rw [extractBE16, hi, lo, extractBE16_bytes]

/-! ## Enumerations -/

/-- `enum class Status`. -/
inductive Status
  | invalidCommand | invalidParameter | parameterContentError | internalError | noError
  | uidsChanged | reserved | invalidDirection | notADirectory | doesNotExist | invalidScope
  | rangeOutOfBounds | folderItemNotPlayable | mediaInUse | nowPlayingListFull
  | searchNotSupported | searchInProgress | invalidPlayerId | playerNotBrowsable
  | playerNotAddressed | noValidSearchResults | noAvailablePlayers | addressedPlayerChanged
  deriving DecidableEq, Repr

def Status.toUInt8 : Status → UInt8
  | invalidCommand => 0x00 | invalidParameter => 0x01 | parameterContentError => 0x02
  | internalError => 0x03 | noError => 0x04 | uidsChanged => 0x05 | reserved => 0x06
  | invalidDirection => 0x07 | notADirectory => 0x08 | doesNotExist => 0x09
  | invalidScope => 0x0a | rangeOutOfBounds => 0x0b | folderItemNotPlayable => 0x0c
  | mediaInUse => 0x0d | nowPlayingListFull => 0x0e | searchNotSupported => 0x0f
  | searchInProgress => 0x10 | invalidPlayerId => 0x11 | playerNotBrowsable => 0x12
  | playerNotAddressed => 0x13 | noValidSearchResults => 0x14 | noAvailablePlayers => 0x15
  | addressedPlayerChanged => 0x16

/-- `enum class Scope`. -/
inductive Scope
  | mediaPlayerList | vfs | search | nowPlaying
  deriving DecidableEq, Repr

/-- The enumerators the response builders write. -/
def cTypeStable : UInt8 := 0x0c
def opcodeVendor : UInt8 := 0x00
def commandPduGetElementAttributes : UInt8 := 0x20
def packetTypeSingle : UInt8 := 0x00
def browsePduGetFolderItems : UInt8 := 0x71
def bluetoothCompanyId : UInt32 := 0x001958

/-! ## Packet headers -/

/-- `Packet::kMinSize()`: c-type, subunit and opcode. -/
def packetKMinSize : Nat := 3

/-- `VendorPacket::kMinSize()`: the AV/C header, company id, PDU, packet type and parameter
length. -/
def vendorPacketKMinSize : Nat := packetKMinSize + 7

/-- `BrowsePacket::kMinSize()`: PDU and length. -/
def browsePacketKMinSize : Nat := 3

/-- `avrcp::PacketBuilder::PushHeader`; the subunit type and id are 5- and 3-bit fields. -/
def pushHeader (cType subunitType subunitId opcode : UInt8) : List UInt8 :=
  [cType, (subunitType &&& 0x1F) <<< 3 ||| (subunitId &&& 0x07), opcode]

/-- `PacketBuilder::PushCompanyId`: after the byte swap, three shifts by 8 push the low three
bytes of `company_id`, most significant first. -/
def pushCompanyId (companyId : UInt32) : List UInt8 :=
  addPayloadOctetsSwapped 3 companyId.toNat

/-- `VendorPacketBuilder::PushHeader`. -/
def vendorPushHeader (pdu packetType : UInt8) (parameterLength : UInt16) : List UInt8 :=
  pushCompanyId bluetoothCompanyId ++ [pdu, packetType] ++
    addPayloadOctetsSwapped 2 parameterLength.toNat

/-- `BrowsePacketBuilder::PushHeader`. -/
def browsePushHeader (pdu : UInt8) (length : UInt16) : List UInt8 :=
  pdu :: addPayloadOctetsSwapped 2 length.toNat

@[simp] theorem length_pushHeader (cType subunitType subunitId opcode : UInt8) :
    (pushHeader cType subunitType subunitId opcode).length = packetKMinSize := rfl

@[simp] theorem length_vendorPushHeader (pdu packetType : UInt8) (parameterLength : UInt16) :
    (vendorPushHeader pdu packetType parameterLength).length = 7 := by
  simp [vendorPushHeader, pushCompanyId]

@[simp] theorem length_browsePushHeader (pdu : UInt8) (length : UInt16) :
    (browsePushHeader pdu length).length = browsePacketKMinSize := by
  simp [browsePushHeader, browsePacketKMinSize]

/-- `BrowsePacket::GetLength`. -/
def browsePacketGetLength (pkt : List UInt8) : UInt16 := extractBE16 pkt 1

/-- `BrowsePacket::IsValid`. -/
def browsePacketIsValid (pkt : List UInt8) : Bool :=
  if pkt.length < browsePacketKMinSize then false
  else pkt.length = (browsePacketGetLength pkt).toNat + browsePacketKMinSize

/-! ## Attribute entries and list items (`avrcp_common.h`) -/

/-- `class AttributeEntry`; the attribute is the `uint32_t` of `enum class Attribute`. -/
structure AttributeEntry where
  attr : UInt32
  value : List UInt8
  deriving DecidableEq, Repr

namespace AttributeEntry

/-- Attribute, length and character-set fields. -/
def kHeaderSize : Nat := 4 + 2 + 2

def size (e : AttributeEntry) : Nat := kHeaderSize + e.value.length

/-- `AttributeEntry::resize`: keep at most `newSize` bytes for the whole entry. -/
def resize (e : AttributeEntry) (newSize : Nat) : AttributeEntry :=
  let newSize := if newSize < kHeaderSize then 0 else newSize - kHeaderSize
  if e.value.length > newSize then { e with value := e.value.take newSize } else e

def empty (e : AttributeEntry) : Bool := e.value.isEmpty

/-- `operator<` compares the attributes. -/
def key (e : AttributeEntry) : Nat := e.attr.toNat

/-- What `resize` keeps: the value cut to the space left after the header (none when the
size is below the header's). -/
theorem resize_eq (e : AttributeEntry) (n : Nat) :
    e.resize n = ⟨e.attr, e.value.take (n - kHeaderSize)⟩ := by
  unfold resize
  dsimp only
  split_ifs with small longer longer
  · rw [Nat.sub_eq_zero_of_le (Nat.le_of_lt small)]
  · rw [List.take_of_length_le (by omega)]
  · rfl
  · rw [List.take_of_length_le (by omega)]

@[simp] theorem key_resize (e : AttributeEntry) (n : Nat) : (e.resize n).key = e.key := by
  rw [resize_eq]
  rfl

theorem size_resize (e : AttributeEntry) (n : Nat) :
    (e.resize n).size = kHeaderSize + min e.value.length (n - kHeaderSize) := by
  rw [resize_eq, size, List.length_take, Nat.min_comm]

theorem size_resize_le (e : AttributeEntry) (n : Nat) : (e.resize n).size ≤ e.size := by
  rw [size_resize, size]
  omega

/-- A resized entry that is not empty fits in the size it was resized to. -/
theorem size_resize_of_ne_nil (e : AttributeEntry) (n : Nat)
    (h : (e.resize n).value ≠ []) : (e.resize n).size ≤ n := by
  have kept : 0 < min e.value.length (n - kHeaderSize) := by
    rw [resize_eq] at h
    simpa [List.length_take, Nat.min_comm] using List.length_pos_iff.2 h
  rw [size_resize]
  omega

end AttributeEntry

/-- `MAX_FIELD_LEN`. -/
def maxFieldLen : Nat := 100

/-- The constructors' `if (name_.size() > MAX_FIELD_LEN) name_.resize(MAX_FIELD_LEN)`. -/
def truncateField (name : List UInt8) : List UInt8 :=
  if name.length > maxFieldLen then name.take maxFieldLen else name

structure MediaPlayerItem where
  id : UInt16
  name : List UInt8
  browsable : Bool
  deriving DecidableEq, Repr

def MediaPlayerItem.make (id : UInt16) (name : List UInt8) (browsable : Bool) :
    MediaPlayerItem :=
  ⟨id, truncateField name, browsable⟩

/-- Type, length, id, player type, subtype, play status, features, character set and name
length. -/
def MediaPlayerItem.kHeaderSize : Nat := 1 + 2 + 2 + 1 + 4 + 1 + 16 + 2 + 2

def MediaPlayerItem.size (item : MediaPlayerItem) : Nat :=
  MediaPlayerItem.kHeaderSize + item.name.length

structure FolderItem where
  uid : UInt64
  folderType : UInt8
  isPlayable : Bool
  name : List UInt8
  deriving DecidableEq, Repr

def FolderItem.make (uid : UInt64) (folderType : UInt8) (isPlayable : Bool)
    (name : List UInt8) : FolderItem :=
  ⟨uid, folderType, isPlayable, truncateField name⟩

/-- Type, length, UID, folder type, playable byte, character set and name length. -/
def FolderItem.kHeaderSize : Nat := 1 + 2 + 8 + 1 + 1 + 2 + 2

def FolderItem.size (item : FolderItem) : Nat := FolderItem.kHeaderSize + item.name.length

structure MediaElementItem where
  uid : UInt64
  name : List UInt8
  attributes : KeyedSet AttributeEntry.key

/-- The constructor truncates the name and resizes every attribute to `MAX_FIELD_LEN`. -/
def MediaElementItem.make (uid : UInt64) (name : List UInt8)
    (attributes : KeyedSet AttributeEntry.key) : MediaElementItem :=
  ⟨uid, truncateField name,
    attributes.toList.foldl (fun s val => s.insert (val.resize maxFieldLen)) KeyedSet.empty⟩

def MediaElementItem.size (item : MediaElementItem) : Nat :=
  1 + 2 + 8 + 1 + 2 + 2 + item.name.length + 1 +
    (item.attributes.toList.map AttributeEntry.size).sum

/-- `struct MediaListItem`, the tagged union of the three items. -/
inductive MediaListItem
  | player (item : MediaPlayerItem)
  | folder (item : FolderItem)
  | song (item : MediaElementItem)

def MediaListItem.size : MediaListItem → Nat
  | player item => item.size
  | folder item => item.size
  | song item => item.size

/-! ## Writing an attribute value -/

/-- `VendorPacketBuilder::PushAttributeValue`: the loop pushes `value_length` bytes, the
`uint16_t` of the value's length. -/
def pushAttributeValue (entry : AttributeEntry) : List UInt8 :=
  let valueLength := entry.value.length % 2 ^ 16
  addPayloadOctetsSwapped 4 entry.attr.toNat ++ addPayloadOctetsSwapped 2 0x006a ++
    addPayloadOctetsSwapped 2 valueLength ++ entry.value.take valueLength

theorem length_pushAttributeValue (entry : AttributeEntry) (h : entry.value.length < 2 ^ 16) :
    (pushAttributeValue entry).length = entry.size := by
  simp only [pushAttributeValue, List.length_append, length_addPayloadOctetsSwapped,
    List.length_take, Nat.mod_eq_of_lt h, AttributeEntry.size, AttributeEntry.kHeaderSize]
  omega

end Avrcp

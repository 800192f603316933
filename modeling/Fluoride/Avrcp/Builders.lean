import Fluoride.Avrcp.Packet

/-!
# AVRCP response builders

`GetFolderItemsResponseBuilder` (`get_folder_items.cc`) and
`GetElementAttributesResponseBuilder` (`get_element_attributes_packet.cc`): each collects items
under an MTU, reports its `size()`, and serializes to bytes. A `log::assert_that` that fails
aborts, so a call guarded by one returns `Option`, with `none` for the abort.
-/

namespace Avrcp

/-! ## Writing list items -/

/-- The character set written before every name and value: UTF-8. -/
def utf8CharacterSet : Nat := 0x006a

/-- `PushMediaPlayerItem`. -/
def pushMediaPlayerItem (item : MediaPlayerItem) : List UInt8 :=
  let itemLen := (item.size - 3) % 2 ^ 16
  let nameLen := item.name.length % 2 ^ 16
  [0x01] ++ addPayloadOctetsSwapped 2 itemLen ++ addPayloadOctetsSwapped 2 item.id.toNat ++
    [0x01] ++ addPayloadOctets 4 0x00000000 ++ [0x02] ++
    -- the 16 feature bytes
    [0x00, 0x00, 0x00, 0x00, 0x00, 0xb7, 0x01] ++
    (if item.browsable then [0x0C, 0x0a] else [0x04, 0x00]) ++
    [0x00, 0x00, 0x00, 0x00, 0x00, 0x00, 0x00] ++
    addPayloadOctetsSwapped 2 utf8CharacterSet ++ addPayloadOctetsSwapped 2 nameLen ++ item.name

/-- `PushFolderItem`. -/
def pushFolderItem (item : FolderItem) : List UInt8 :=
  let itemLen := (item.size - 3) % 2 ^ 16
  let nameLen := item.name.length % 2 ^ 16
  [0x02] ++ addPayloadOctetsSwapped 2 itemLen ++ addPayloadOctetsSwapped 8 item.uid.toNat ++
    [item.folderType] ++ [if item.isPlayable then 0x01 else 0x00] ++
    addPayloadOctetsSwapped 2 utf8CharacterSet ++ addPayloadOctetsSwapped 2 nameLen ++ item.name

/-- One attribute of `PushMediaElementItem`: unlike `PushAttributeValue`, every byte of the
value is written. -/
def pushElementAttribute (entry : AttributeEntry) : List UInt8 :=
  let attrLen := entry.value.length % 2 ^ 16
  addPayloadOctetsSwapped 4 entry.attr.toNat ++ addPayloadOctetsSwapped 2 utf8CharacterSet ++
    addPayloadOctetsSwapped 2 attrLen ++ entry.value

/-- `PushMediaElementItem`. -/
def pushMediaElementItem (item : MediaElementItem) : List UInt8 :=
  let itemLen := (item.size - 3) % 2 ^ 16
  let nameLen := item.name.length % 2 ^ 16
  [0x03] ++ addPayloadOctetsSwapped 2 itemLen ++ addPayloadOctetsSwapped 8 item.uid.toNat ++
    [0x00] ++ addPayloadOctetsSwapped 2 utf8CharacterSet ++ addPayloadOctetsSwapped 2 nameLen ++
    item.name ++ [UInt8.ofNat item.attributes.toList.length] ++
    item.attributes.toList.flatMap pushElementAttribute

/-- `PushMediaListItem`. -/
def pushMediaListItem : MediaListItem → List UInt8
  | .player item => pushMediaPlayerItem item
  | .folder item => pushFolderItem item
  | .song item => pushMediaElementItem item

/-! ## `GetFolderItemsResponseBuilder` -/

structure GetFolderItemsResponseBuilder where
  scope : Scope
  items : List MediaListItem
  status : Status
  uidCounter : UInt16
  mtu : UInt64

namespace GetFolderItemsResponseBuilder

def makePlayerListBuilder (status : Status) (uidCounter : UInt16) (mtu : UInt64) :
    GetFolderItemsResponseBuilder :=
  ⟨.mediaPlayerList, [], status, uidCounter, mtu⟩

def makeVFSBuilder (status : Status) (uidCounter : UInt16) (mtu : UInt64) :
    GetFolderItemsResponseBuilder :=
  ⟨.vfs, [], status, uidCounter, mtu⟩

def makeNowPlayingBuilder (status : Status) (uidCounter : UInt16) (mtu : UInt64) :
    GetFolderItemsResponseBuilder :=
  ⟨.nowPlaying, [], status, uidCounter, mtu⟩

/-- `size()`: the UID counter and the item count are only counted once there is an item. -/
def size (b : GetFolderItemsResponseBuilder) : Nat :=
  let len := browsePacketKMinSize + 1
  if b.status ≠ .noError ∨ b.items.length = 0 then len
  else len + 2 + 2 + (b.items.map MediaListItem.size).sum

/-- The body shared by `AddMediaPlayer`, `AddSong` and `AddFolder`: the scope assertion, then
the MTU check against `size()`. -/
def addChecked (b : GetFolderItemsResponseBuilder) (allowed : Scope → Bool)
    (item : MediaListItem) : Option (Bool × GetFolderItemsResponseBuilder) :=
  if allowed b.scope then
    if b.size + item.size > b.mtu.toNat then some (false, b)
    else some (true, { b with items := b.items ++ [item] })
  else none

def addMediaPlayer (b : GetFolderItemsResponseBuilder) (item : MediaPlayerItem) :
    Option (Bool × GetFolderItemsResponseBuilder) :=
  b.addChecked (· = .mediaPlayerList) (.player item)

def addSong (b : GetFolderItemsResponseBuilder) (item : MediaElementItem) :
    Option (Bool × GetFolderItemsResponseBuilder) :=
  b.addChecked (fun scope => scope = .vfs ∨ scope = .nowPlaying) (.song item)

def addFolder (b : GetFolderItemsResponseBuilder) (item : FolderItem) :
    Option (Bool × GetFolderItemsResponseBuilder) :=
  b.addChecked (· = .vfs) (.folder item)

/-- `Serialize`: the bytes appended and the builder after it (an empty folder turns the status
into `RANGE_OUT_OF_BOUNDS`). -/
def serialize (b : GetFolderItemsResponseBuilder) :
    List UInt8 × GetFolderItemsResponseBuilder :=
  let header := browsePushHeader browsePduGetFolderItems
    (UInt16.ofNat (b.size - browsePacketKMinSize))
  let b := if b.status = .noError ∧ b.items.length = 0 then
    { b with status := .rangeOutOfBounds } else b
  if b.status ≠ .noError then (header ++ [b.status.toUInt8], b)
  else
    let numItems := b.items.length % 2 ^ 16
    (header ++ [b.status.toUInt8] ++ addPayloadOctetsSwapped 2 b.uidCounter.toNat ++
      addPayloadOctetsSwapped 2 numItems ++ b.items.flatMap pushMediaListItem, b)

end GetFolderItemsResponseBuilder

/-! ## `GetElementAttributesResponseBuilder` -/

structure GetElementAttributesResponseBuilder where
  entries : KeyedSet AttributeEntry.key
  mtu : UInt64

namespace GetElementAttributesResponseBuilder

def makeBuilder (mtu : UInt64) : GetElementAttributesResponseBuilder := ⟨KeyedSet.empty, mtu⟩

/-- The vendor header and the attribute count. -/
def kHeaderSize : Nat := vendorPacketKMinSize + 1

def size (b : GetElementAttributesResponseBuilder) : Nat :=
  kHeaderSize + (b.entries.toList.map AttributeEntry.size).sum

/-- `AddAttributeEntry`: the entry is cut to the space left under the MTU (a `size_t`
difference), and an entry left empty is not added. The value returned is the size of the
entry, inserted or not. -/
def addAttributeEntry (b : GetElementAttributesResponseBuilder) (entry : AttributeEntry) :
    Option (Nat × GetElementAttributesResponseBuilder) :=
  if b.entries.toList.length < 0xFF then
    let remainingSpace := b.mtu - UInt64.ofNat b.size
    let entry := if entry.size > remainingSpace.toNat then entry.resize remainingSpace.toNat
      else entry
    if entry.empty then some (0, b)
    else some (entry.size, { b with entries := b.entries.insert entry })
  else none

/-- `Serialize`. -/
def serialize (b : GetElementAttributesResponseBuilder) : List UInt8 :=
  pushHeader cTypeStable 0x09 0x00 opcodeVendor ++
    vendorPushHeader commandPduGetElementAttributes packetTypeSingle
      (UInt16.ofNat (b.size - vendorPacketKMinSize)) ++
    [UInt8.ofNat b.entries.toList.length] ++ b.entries.toList.flatMap pushAttributeValue

end GetElementAttributesResponseBuilder

end Avrcp

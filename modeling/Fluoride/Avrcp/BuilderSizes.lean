import Fluoride.Lib.Machine
import Fluoride.Avrcp.Builders

/-!
# Sizes of the AVRCP response builders

What `size()` promises about the bytes `Serialize` writes, and what the MTU checks keep over
every sequence of calls.

* Every `push*` writes exactly its item's `size()` bytes, and the item's 16-bit length field
  reads back as the number of bytes after it (`extractBE16_pushMediaListItem`). `Serialize` of
  `GetFolderItemsResponseBuilder` writes `size()` bytes whose browse length field is
  `size() - 3` (`length_serialize`, `browsePacketGetLength_serialize`).
* `GetFolderItemsResponseBuilder` compares `size() + item.size()` with the MTU, but `size()`
  leaves out the UID counter and the item count while there is no item, so the first item
  accepted may take the packet four bytes past the MTU; every later state is within it
  (`withinMtu_reachable`).
* `GetElementAttributesResponseBuilder` stays within its MTU (`sizeLeMtu_reachable`), and a call
  returns the growth of `size()` unless its attribute is already in the set, where the entry's
  size is returned and nothing is added (`addAttributeEntry_returns_growth_iff`).
-/

namespace Avrcp

/-! ## The bytes of each item -/

@[simp] theorem length_pushMediaPlayerItem (item : MediaPlayerItem) :
    (pushMediaPlayerItem item).length = item.size := by
  unfold pushMediaPlayerItem
  cases item.browsable <;>
    simp [MediaPlayerItem.size, MediaPlayerItem.kHeaderSize] <;> omega

@[simp] theorem length_pushFolderItem (item : FolderItem) :
    (pushFolderItem item).length = item.size := by
  simp [pushFolderItem, FolderItem.size, FolderItem.kHeaderSize]
  omega

@[simp] theorem length_pushElementAttribute (entry : AttributeEntry) :
    (pushElementAttribute entry).length = entry.size := by
  simp [pushElementAttribute, AttributeEntry.size, AttributeEntry.kHeaderSize]
  omega

@[simp] theorem length_pushMediaElementItem (item : MediaElementItem) :
    (pushMediaElementItem item).length = item.size := by
  have attrs : (item.attributes.toList.flatMap pushElementAttribute).length =
      (item.attributes.toList.map AttributeEntry.size).sum := by
    rw [List.length_flatMap]
    simp only [length_pushElementAttribute]
  simp only [pushMediaElementItem, List.length_append, length_addPayloadOctetsSwapped,
    List.length_singleton, attrs, MediaElementItem.size]

@[simp] theorem length_pushMediaListItem (item : MediaListItem) :
    (pushMediaListItem item).length = item.size := by
  cases item with
  | player item => exact length_pushMediaPlayerItem item
  | folder item => exact length_pushFolderItem item
  | song item => exact length_pushMediaElementItem item

/-- Each item starts with its type byte and its 16-bit length. -/
theorem pushMediaListItem_eq (item : MediaListItem) :
    ∃ type body, pushMediaListItem item =
      type :: (addPayloadOctetsSwapped 2 ((item.size - 3) % 2 ^ 16) ++ body) := by
  -- reassociate the appends so that the length field stands second
  cases item with
  | player item =>
    exact ⟨0x01, _, by
      simp only [pushMediaListItem, pushMediaPlayerItem, MediaListItem.size, List.append_assoc,
        List.cons_append, List.nil_append]
      rfl⟩
  | folder item =>
    exact ⟨0x02, _, by
      simp only [pushMediaListItem, pushFolderItem, MediaListItem.size, List.append_assoc,
        List.cons_append, List.nil_append]
      rfl⟩
  | song item =>
    exact ⟨0x03, _, by
      simp only [pushMediaListItem, pushMediaElementItem, MediaListItem.size, List.append_assoc,
        List.cons_append, List.nil_append]
      rfl⟩

/-- **Item length.** The 16-bit length of an item, as a reader extracts it, is the number of
bytes written after the length field. -/
theorem extractBE16_pushMediaListItem (item : MediaListItem) :
    extractBE16 (pushMediaListItem item) 1 = UInt16.ofNat ((pushMediaListItem item).length - 3) := by
  obtain ⟨type, body, pushed⟩ := pushMediaListItem_eq item
  have field : (item.size - 3) % 2 ^ 16 = (UInt16.ofNat (item.size - 3)).toNat := by
    rw [UInt16.toNat_ofNat']
  rw [length_pushMediaListItem, pushed, field]
  exact extractBE16_swapped [type] body _

namespace GetFolderItemsResponseBuilder

variable {b b' : GetFolderItemsResponseBuilder}

/-! ## `GetFolderItemsResponseBuilder::size` and `Serialize` -/

theorem size_of_noError (hs : b.status = .noError) (hi : b.items ≠ []) :
    b.size = browsePacketKMinSize + 1 + 2 + 2 + (b.items.map MediaListItem.size).sum := by
  unfold size
  rw [if_neg (by simp [hs, hi])]

theorem size_of_not_noError (h : b.status ≠ .noError ∨ b.items = []) :
    b.size = browsePacketKMinSize + 1 := by
  unfold size
  rw [if_pos (by simpa using h)]

/-- The browse header, with the length `size() - 3`, comes first. -/
theorem serialize_eq_header (b : GetFolderItemsResponseBuilder) :
    ∃ rest, b.serialize.1 = browsePushHeader browsePduGetFolderItems
      (UInt16.ofNat (b.size - browsePacketKMinSize)) ++ rest := by
  unfold serialize
  dsimp only
  split
  · -- an empty folder
    rw [if_pos (by simp)]
    exact ⟨_, rfl⟩
  · split
    · exact ⟨_, rfl⟩
    · exact ⟨_, by simp only [List.append_assoc]; rfl⟩

/-- **`Serialize` writes `size()` bytes.** -/
theorem length_serialize (b : GetFolderItemsResponseBuilder) :
    b.serialize.1.length = b.size := by
  unfold serialize
  dsimp only
  by_cases empty : b.status = .noError ∧ b.items.length = 0
  · -- an empty folder: only the header and `RANGE_OUT_OF_BOUNDS`
    rw [if_pos empty, if_pos (by simp), size_of_not_noError (.inr (List.length_eq_zero_iff.1
      empty.2))]
    simp
  · rw [if_neg empty]
    by_cases hs : b.status = .noError
    · have hi : b.items ≠ [] := fun h => empty ⟨hs, by simp [h]⟩
      have items : (b.items.flatMap pushMediaListItem).length =
          (b.items.map MediaListItem.size).sum := by
        rw [List.length_flatMap]
        simp only [length_pushMediaListItem]
      rw [if_neg (by simpa using hs), size_of_noError hs hi]
      simp only [List.length_append, length_browsePushHeader, List.length_singleton,
        length_addPayloadOctetsSwapped, items]
    · rw [if_pos hs, size_of_not_noError (.inl hs)]
      simp

/-- **The browse length field.** As `BrowsePacket::GetLength` reads it, the length of the
serialized packet is `size() - 3`, as a `uint16_t`. -/
theorem browsePacketGetLength_serialize (b : GetFolderItemsResponseBuilder) :
    browsePacketGetLength b.serialize.1 = UInt16.ofNat (b.size - browsePacketKMinSize) := by
  obtain ⟨rest, header⟩ := serialize_eq_header b
  rw [browsePacketGetLength, header, browsePushHeader, ← List.singleton_append]
  exact extractBE16_swapped [browsePduGetFolderItems] rest _

/-- The serialized packet passes `BrowsePacket::IsValid` exactly when its length field does
not wrap. -/
theorem browsePacketIsValid_serialize (b : GetFolderItemsResponseBuilder) :
    browsePacketIsValid b.serialize.1 = decide (b.size < 2 ^ 16 + browsePacketKMinSize) := by
  have four : browsePacketKMinSize + 1 ≤ b.size := by
    unfold size
    dsimp only
    split <;> omega
  rw [browsePacketIsValid, browsePacketGetLength_serialize, length_serialize,
    UInt16.toNat_ofNat', if_neg (by omega)]
  simp only [decide_eq_decide]
  omega

/-! ## The MTU check -/

/-- What an add does: the scope assertion passes, the result says whether `size()` and the
item's size fit the MTU, and only an item that fits is appended. -/
theorem addChecked_eq_some {allowed : Scope → Bool} {item : MediaListItem} {r : Bool}
    (h : b.addChecked allowed item = some (r, b')) :
    allowed b.scope = true ∧ (r = true ↔ b.size + item.size ≤ b.mtu.toNat) ∧
      b' = if r then { b with items := b.items ++ [item] } else b := by
  unfold addChecked at h
  split_ifs at h with scope tooBig
  · cases h
    exact ⟨scope, by simpa using tooBig, rfl⟩
  · cases h
    exact ⟨scope, by simpa using tooBig, rfl⟩

/-- Appending an item adds its size, and the four bytes of the UID counter and the item count
when it is the first; with an error status the size stays that of the status alone. -/
theorem size_append (b : GetFolderItemsResponseBuilder) (item : MediaListItem) :
    ({ b with items := b.items ++ [item] } : GetFolderItemsResponseBuilder).size =
      if b.status ≠ .noError then b.size
      else if b.items = [] then b.size + item.size + 2 + 2
      else b.size + item.size := by
  by_cases hs : b.status = .noError
  · have appended : ({ b with items := b.items ++ [item] } : GetFolderItemsResponseBuilder).size =
        browsePacketKMinSize + 1 + 2 + 2 + (b.items.map MediaListItem.size).sum + item.size := by
      rw [size_of_noError (b := { b with items := b.items ++ [item] }) hs (by simp)]
      simp only [List.map_append, List.map_cons, List.map_nil, List.sum_append, List.sum_cons,
        List.sum_nil, Nat.add_zero, Nat.add_assoc]
    rw [if_neg (not_not.2 hs), appended]
    split
    · next empty => rw [size_of_not_noError (.inr empty), empty]; simp; omega
    · next nonempty => rw [size_of_noError hs nonempty]
  · rw [if_pos hs, size_of_not_noError (.inl hs),
      size_of_not_noError (b := { b with items := b.items ++ [item] }) (.inl hs)]

/-- **What the MTU check keeps.** The size is within the MTU, except right after the first
item, which may pass it by the four bytes `size()` did not count. -/
structure WithinMtu (b : GetFolderItemsResponseBuilder) : Prop where
  size_le : b.size ≤ b.mtu.toNat + 2 + 2
  size_le_of_ne_one : b.items.length ≠ 1 → b.size ≤ b.mtu.toNat

theorem withinMtu_of_empty (empty : b.items = []) (mtu : browsePacketKMinSize + 1 ≤ b.mtu.toNat) :
    WithinMtu b := by
  have four := size_of_not_noError (b := b) (.inr empty)
  exact ⟨by omega, fun _ => by omega⟩

theorem withinMtu_addChecked (inv : WithinMtu b) {allowed : Scope → Bool}
    {item : MediaListItem} {r : Bool} (h : b.addChecked allowed item = some (r, b')) :
    WithinMtu b' := by
  obtain ⟨-, fits, rfl⟩ := addChecked_eq_some h
  cases r with
  | false => exact inv
  | true =>
    show WithinMtu { b with items := b.items ++ [item] }
    have fit := fits.1 rfl
    have grown := size_append b item
    refine ⟨?_, fun notOne => ?_⟩
    · show _ ≤ b.mtu.toNat + 2 + 2
      split_ifs at grown <;> omega
    · show _ ≤ b.mtu.toNat
      split_ifs at grown with hs empty
      · omega
      · -- the first item: the new list has one element
        simp [empty] at notOne
      · omega

/-! ## Runs of calls -/

/-- The calls that add an item. -/
inductive Call
  | addMediaPlayer (item : MediaPlayerItem)
  | addSong (item : MediaElementItem)
  | addFolder (item : FolderItem)

def Call.run : Call → GetFolderItemsResponseBuilder →
    Option (Bool × GetFolderItemsResponseBuilder)
  | .addMediaPlayer item, b => b.addMediaPlayer item
  | .addSong item, b => b.addSong item
  | .addFolder item, b => b.addFolder item

/-- Every call is the MTU check on its own item. -/
theorem Call.run_eq (c : Call) (b : GetFolderItemsResponseBuilder) :
    ∃ allowed item, c.run b = b.addChecked allowed item := by
  cases c with
  | addMediaPlayer item => exact ⟨(· = .mediaPlayerList), .player item, rfl⟩
  | addSong item => exact ⟨fun scope => scope = .vfs ∨ scope = .nowPlaying, .song item, rfl⟩
  | addFolder item => exact ⟨(· = .vfs), .folder item, rfl⟩

/-- The builder under the calls whose assertion holds. -/
def machine : Lts.Machine GetFolderItemsResponseBuilder Call where
  guard b c := (c.run b).isSome
  exec b c := ((c.run b).map Prod.snd).getD b

theorem withinMtu_exec (inv : WithinMtu b) {c : Call} (ok : (c.run b).isSome) :
    WithinMtu (machine.exec b c) := by
  obtain ⟨⟨r, b'⟩, ran⟩ := Option.isSome_iff_exists.1 ok
  obtain ⟨allowed, item, checked⟩ := c.run_eq b
  show WithinMtu (((c.run b).map Prod.snd).getD b)
  rw [ran]
  exact withinMtu_addChecked inv (checked ▸ ran)

/-- **Every builder reached by `AddMediaPlayer`, `AddSong` and `AddFolder` calls** from an
empty one whose MTU holds the status is within the MTU, but for the four bytes of the
first item. -/
theorem withinMtu_reachable {b₀ : GetFolderItemsResponseBuilder} (empty : b₀.items = [])
    (mtu : browsePacketKMinSize + 1 ≤ b₀.mtu.toNat) (h : machine.Reachable b₀ b) :
    WithinMtu b :=
  h.invariant (withinMtu_of_empty empty mtu) fun _ _ inv ok => withinMtu_exec inv ok

/-- A folder item of 17 bytes on a builder with an MTU of 21: the packet of 25 bytes passes
the MTU by the four bytes the bound allows for a first item. -/
theorem withinMtu_reachable_folder :
    let b₀ := makeVFSBuilder .noError 0 21
    let b := machine.exec b₀ (.addFolder (FolderItem.make 1 0 false []))
    b₀.items = [] ∧ machine.Reachable b₀ b ∧ b.size = 25 ∧ WithinMtu b := by
  intro b₀ b
  have run : machine.Reachable b₀ b := (Lts.Machine.Reachable.refl b₀).step
    (show ((Call.addFolder (FolderItem.make 1 0 false [])).run b₀).isSome by decide)
  exact ⟨rfl, run, by decide, withinMtu_reachable rfl (by decide) run⟩

end GetFolderItemsResponseBuilder

/-! ## `GetElementAttributesResponseBuilder` -/

namespace GetElementAttributesResponseBuilder

variable {b b' : GetElementAttributesResponseBuilder} {entry e : AttributeEntry} {n : Nat}

/-- Within the MTU, the `size_t` difference `mtu_ - size()` does not wrap. -/
theorem remainingSpace_eq (within : b.size ≤ b.mtu.toNat) :
    (b.mtu - UInt64.ofNat b.size).toNat = b.mtu.toNat - b.size := by
  have small : b.size < UInt64.size := lt_of_le_of_lt within b.mtu.toNat_lt
  have size64 : (UInt64.ofNat b.size).toNat = b.size := UInt64.toNat_ofNat_of_lt' small
  rw [UInt64.toNat_sub_of_le _ _ (UInt64.le_iff_toNat_le.2 (by rw [size64]; exact within)),
    size64]

/-- The entry cut to the space left fits in it, when it is not empty. -/
theorem size_cut_le (within : b.size ≤ b.mtu.toNat) {remaining : Nat}
    (hr : remaining = (b.mtu - UInt64.ofNat b.size).toNat)
    (nonempty : (if entry.size > remaining then entry.resize remaining else entry).value ≠ []) :
    b.size + (if entry.size > remaining then entry.resize remaining else entry).size ≤
      b.mtu.toNat := by
  rw [remainingSpace_eq within] at hr
  by_cases cut : entry.size > remaining
  · rw [if_pos cut] at nonempty ⊢
    have := entry.size_resize_of_ne_nil remaining nonempty
    omega
  · rw [if_neg cut]
    omega

/-- What `AddAttributeEntry` does once its assertion holds: with `e` the entry cut to the space
left, an empty `e` returns 0 and adds nothing; otherwise `e` is inserted and its size
returned. -/
theorem addAttributeEntry_eq_some (h : b.addAttributeEntry entry = some (n, b')) :
    ∃ e : AttributeEntry, e.key = entry.key ∧
      (b.size ≤ b.mtu.toNat → e.value ≠ [] → b.size + e.size ≤ b.mtu.toNat) ∧
      (e.value = [] ∧ n = 0 ∧ b' = b ∨
        e.value ≠ [] ∧ n = e.size ∧ b' = { b with entries := b.entries.insert e }) := by
  unfold addAttributeEntry at h
  by_cases room : b.entries.toList.length < 0xFF
  · rw [if_pos room] at h
    dsimp only at h
    generalize cut : (if entry.size > (b.mtu - UInt64.ofNat b.size).toNat then
      entry.resize (b.mtu - UInt64.ofNat b.size).toNat else entry) = e at h
    refine ⟨e, ?_, fun within => cut ▸ size_cut_le within rfl, ?_⟩
    · rw [← cut]
      split <;> simp
    · split at h
      · next empty =>
        cases h
        exact .inl ⟨by simpa [AttributeEntry.empty] using empty, rfl, rfl⟩
      · next nonempty =>
        cases h
        exact .inr ⟨by simpa [AttributeEntry.empty] using nonempty, rfl, rfl⟩
  · -- the assertion fails
    rw [if_neg room] at h
    nomatch h

theorem size_insert_of_absent (absent : ¬b.entries.HasKey e.key) :
    ({ b with entries := b.entries.insert e } : GetElementAttributesResponseBuilder).size =
      b.size + e.size := by
  unfold size
  rw [KeyedSet.sum_insert _ absent]
  omega

theorem insert_of_present (present : b.entries.HasKey e.key) :
    ({ b with entries := b.entries.insert e } : GetElementAttributesResponseBuilder) = b := by
  rw [KeyedSet.insert_of_mem_key present]

/-- **`AddAttributeEntry` keeps the packet within the MTU.** -/
theorem size_le_addAttributeEntry (within : b.size ≤ b.mtu.toNat)
    (h : b.addAttributeEntry entry = some (n, b')) : b'.size ≤ b'.mtu.toNat := by
  obtain ⟨e, -, fits, ⟨-, -, rfl⟩ | ⟨nonempty, -, rfl⟩⟩ := addAttributeEntry_eq_some h
  · exact within
  · show _ ≤ b.mtu.toNat
    by_cases present : b.entries.HasKey e.key
    · rw [insert_of_present present]
      exact within
    · rw [size_insert_of_absent present]
      exact fits within nonempty

/-- **What `AddAttributeEntry` returns.** Within the MTU, the value returned is the growth of
`size()` exactly when the entry was left empty or its attribute is new: an entry whose
attribute is already in the set is not inserted, and its size is returned all the same. -/
theorem addAttributeEntry_returns_growth_iff (within : b.size ≤ b.mtu.toNat)
    (h : b.addAttributeEntry entry = some (n, b')) :
    n = b'.size - b.size ↔ n = 0 ∨ ¬b.entries.HasKey entry.key := by
  obtain ⟨e, key, -, ⟨-, rfl, rfl⟩ | ⟨-, rfl, rfl⟩⟩ := addAttributeEntry_eq_some h
  · simp
  · rw [← key]
    by_cases present : b.entries.HasKey e.key
    · rw [insert_of_present present]
      simp only [Nat.sub_self, present, not_true_eq_false, or_false]
    · rw [size_insert_of_absent present]
      simp only [Nat.add_sub_cancel_left, present, not_false_eq_true, or_true]

/-- The builder under the calls whose assertion holds. -/
def machine : Lts.Machine GetElementAttributesResponseBuilder AttributeEntry where
  guard b entry := (b.addAttributeEntry entry).isSome
  exec b entry := ((b.addAttributeEntry entry).map Prod.snd).getD b

/-- **Every builder reached by `AddAttributeEntry` calls from `MakeBuilder(mtu)`, with the MTU
at least the header, is within the MTU.** -/
theorem size_le_reachable {mtu : UInt64} (header : kHeaderSize ≤ mtu.toNat)
    (h : machine.Reachable (makeBuilder mtu) b) : b.size ≤ b.mtu.toNat := by
  refine h.invariant (P := fun b => b.size ≤ b.mtu.toNat) header fun b entry within ok => ?_
  obtain ⟨⟨n, b'⟩, added⟩ := Option.isSome_iff_exists.1 ok
  show (((b.addAttributeEntry entry).map Prod.snd).getD b).size ≤
    (((b.addAttributeEntry entry).map Prod.snd).getD b).mtu.toNat
  rw [added]
  exact size_le_addAttributeEntry within added

/-- A title of one byte on a builder with an MTU of 100. -/
theorem size_le_reachable_title :
    let b := machine.exec (makeBuilder 100) ⟨0x01, [0x61]⟩
    kHeaderSize ≤ (100 : UInt64).toNat ∧ machine.Reachable (makeBuilder 100) b ∧ b.size = 20 ∧
      b.size ≤ b.mtu.toNat := by
  intro b
  have run : machine.Reachable (makeBuilder 100) b := (Lts.Machine.Reachable.refl _).step
    (show ((makeBuilder 100).addAttributeEntry ⟨0x01, [0x61]⟩).isSome by decide)
  exact ⟨by decide, run, by decide, size_le_reachable (by decide) run⟩

end GetElementAttributesResponseBuilder

/-! ## Two calls that break the size contract

A VFS builder with an MTU of 21 accepts a folder item of 17 bytes, since `size()` is 4 while
the list is empty; the packet is then 25 bytes long. An element-attributes builder accepts a
title of one byte and reports 9; a second title is returned with its 9 bytes although the set
keeps the first and `size()` does not change. -/
theorem folder_item_past_mtu_and_duplicate_attribute :
    let b : GetFolderItemsResponseBuilder :=
      GetFolderItemsResponseBuilder.makeVFSBuilder .noError 0 21
    let folder : FolderItem := FolderItem.make 1 0 false []
    let e : GetElementAttributesResponseBuilder :=
      GetElementAttributesResponseBuilder.makeBuilder 100
    let title : AttributeEntry := ⟨0x01, [0x61]⟩
    let again : AttributeEntry := ⟨0x01, [0x62]⟩
    4 ≤ b.mtu.toNat ∧
      (b.addFolder folder).map (fun r => (r.1, r.2.size, r.2.serialize.1.length)) =
        some (true, 25, 25) ∧
      GetElementAttributesResponseBuilder.kHeaderSize ≤ e.mtu.toNat ∧
      ((e.addAttributeEntry title).bind fun r₁ =>
        (r₁.2.addAttributeEntry again).map fun r₂ => (r₁.1, r₁.2.size, r₂.1, r₂.2.size)) =
        some (9, 20, 9, 20) := by
  intro b folder e title again
  exact ⟨by decide, by decide, by decide, by decide⟩

end Avrcp

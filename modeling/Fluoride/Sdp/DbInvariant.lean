import Fluoride.Sdp.Db
import Fluoride.Lib.Regions
import Fluoride.Lib.Machine
import Mathlib.Data.List.InsertIdx

/-!
# The record invariant of the SDP database

`RecordInv` is what the database API should keep of a record: its slot array has its
size, the slots in use are at most `SDP_MAX_REC_ATTR` and in strictly increasing id order,
and the values of those with a non-empty value are `Regions.Packed` in the first
`free_pad_ptr` bytes of the pad, which are at most `SDP_MAX_PAD_LEN`.

* `recordInv_sdpDeleteAttributeFromRecord`: deleting keeps the invariant; the values above
  the deleted one are moved down over its gap (`Regions.Packed.closeGap`).
* `recordInv_sdpAddAttributeToRecord`: an add that returns `true`, of a value whose length
  cannot wrap `free_pad_ptr`, keeps it; the value is stored at `free_pad_ptr`
  (`Regions.Packed.cons_fresh`), in the sorted slot.
* `recordInv_reachable`: so every record reached from `SDP_CreateRecord` by calls that
  succeed keeps it.

An add that fails after the slots were moved up does not move them back: the section on
failures ends with a record whose attribute is lost and whose ids are out of order.
-/

namespace Sdp

open Regions

/-! ## The loops -/

section Loops

variable {slots : List AttrSlot}

theorem length_shiftUp (slots : List AttrSlot) (xx yy : Nat) :
    (shiftUp slots xx yy).length = slots.length := by
  induction yy generalizing slots with
  | zero => rfl
  | succ yy ih =>
    unfold shiftUp
    split
    · rw [ih, List.length_set]
    · rfl

/-- The slots `xx + 1 .. yy` hold what `xx .. yy - 1` held. -/
theorem getElem?_shiftUp {xx yy : Nat} (h : yy < slots.length) (i : Nat) :
    (shiftUp slots xx yy)[i]? = if xx < i ∧ i ≤ yy then slots[i - 1]? else slots[i]? := by
  induction yy generalizing slots with
  | zero =>
    unfold shiftUp
    rw [if_neg (by omega)]
  | succ yy ih =>
    unfold shiftUp
    split
    next moved =>
      rw [ih (by rw [List.length_set]; omega)]
      by_cases top : i = yy + 1
      · -- the slot this step writes
        subst top
        rw [if_neg (by omega), if_pos ⟨moved, Nat.le_refl _⟩, Nat.add_sub_cancel,
          List.getElem?_set_self (by omega), List.getD_eq_getElem?_getD,
          List.getElem?_eq_getElem (by omega), Option.getD_some]
      · -- the others are read below the slot this step writes
        have same : (xx < i ∧ i ≤ yy) ↔ (xx < i ∧ i ≤ yy + 1) := by omega
        simp only [same]
        split_ifs
        · rw [List.getElem?_set_ne (by omega)]
        · rw [List.getElem?_set_ne (by omega)]
    · rw [if_neg (by omega)]

theorem shiftUp_self (slots : List AttrSlot) (xx : Nat) : shiftUp slots xx xx = slots := by
  cases xx with
  | zero => rfl
  | succ xx =>
    unfold shiftUp
    rw [if_neg (Nat.lt_irrefl _)]

theorem length_shiftDown (slots : List AttrSlot) (zz count : Nat) :
    (shiftDown slots zz count).length = slots.length := by
  induction count generalizing slots zz with
  | zero => rfl
  | succ count ih => rw [shiftDown, ih, List.length_set]

/-- The slots `zz .. zz + count - 1` hold what `zz + 1 .. zz + count` held. -/
theorem getElem?_shiftDown {zz count : Nat} (h : zz + count < slots.length) (i : Nat) :
    (shiftDown slots zz count)[i]? =
      if zz ≤ i ∧ i < zz + count then slots[i + 1]? else slots[i]? := by
  induction count generalizing slots zz with
  | zero => rw [shiftDown, if_neg (by omega)]
  | succ count ih =>
    rw [shiftDown, ih (by rw [List.length_set]; omega)]
    by_cases first : i = zz
    · -- the slot this step writes
      subst first
      rw [if_neg (by omega), if_pos ⟨Nat.le_refl _, by omega⟩, List.getElem?_set_self (by omega),
        List.getD_eq_getElem?_getD, List.getElem?_eq_getElem (by omega), Option.getD_some]
    · -- the others are read above it
      have same : (zz + 1 ≤ i ∧ i < zz + 1 + count) ↔ (zz ≤ i ∧ i < zz + (count + 1)) := by
        omega
      simp only [same]
      split_ifs
      · rw [List.getElem?_set_ne (by omega)]
      · rw [List.getElem?_set_ne (by omega)]

/-- A delete at `idx` of the first `n` slots, seen on the first `n - 1`. -/
theorem take_shiftDown {l : List AttrSlot} {idx n : Nat} (hidx : idx < n) (hn : n ≤ l.length) :
    (shiftDown l idx (n - 1 - idx)).take (n - 1) = (l.take n).eraseIdx idx := by
  apply List.ext_getElem?
  intro i
  rw [List.getElem?_take, getElem?_shiftDown (by omega), List.getElem?_eraseIdx,
    List.getElem?_take, List.getElem?_take]
  split_ifs <;> first | rfl | omega

/-- An insertion at `xx` into the first `n` slots, seen on the first `n + 1`. -/
theorem take_set_shiftUp {l : List AttrSlot} {xx n : Nat} (hxx : xx ≤ n) (hn : n < l.length)
    (a : AttrSlot) :
    ((shiftUp l xx n).set xx a).take (n + 1) = (l.take n).insertIdx xx a := by
  apply List.ext_getElem?
  intro i
  rw [List.getElem?_take, List.getElem?_set, length_shiftUp, getElem?_shiftUp hn,
    List.getElem?_insertIdx, List.getElem?_take, List.getElem?_take, List.length_take]
  split_ifs <;> first | rfl | omega

end Loops

/-! ## The values of the slots in use -/

/-- The region of a slot's value, if it has one. -/
def AttrSlot.region (a : AttrSlot) : Option Region :=
  if a.len = 0 then none else some ⟨a.valuePtr, a.len.toNat⟩

theorem AttrSlot.region_of_len_eq_zero {a : AttrSlot} (h : a.len = 0) : a.region = none :=
  if_pos h

theorem AttrSlot.region_of_len_ne_zero {a : AttrSlot} (h : a.len ≠ 0) :
    a.region = some ⟨a.valuePtr, a.len.toNat⟩ :=
  if_neg h

/-- The regions of the values of a list of slots. -/
def regions (attrs : List AttrSlot) : List Region := attrs.filterMap AttrSlot.region

/-- A slot once the gap that a deleted value of `len` bytes at `padPtr` leaves is closed:
`p_rec->attribute[zz].value_ptr -= len` when it is above `pad_ptr`. -/
def AttrSlot.closeGap (padPtr len : Nat) (a : AttrSlot) : AttrSlot :=
  if padPtr < a.valuePtr then { a with valuePtr := a.valuePtr - len } else a

theorem AttrSlot.closeGap_zero (padPtr : Nat) (a : AttrSlot) : a.closeGap padPtr 0 = a := by
  unfold closeGap
  split <;> rfl

@[simp] theorem AttrSlot.len_closeGap (padPtr len : Nat) (a : AttrSlot) :
    (a.closeGap padPtr len).len = a.len := by
  unfold closeGap
  split <;> rfl

@[simp] theorem AttrSlot.id_closeGap (padPtr len : Nat) (a : AttrSlot) :
    (a.closeGap padPtr len).id = a.id := by
  unfold closeGap
  split <;> rfl

theorem AttrSlot.region_closeGap (padPtr len : Nat) (a : AttrSlot) :
    (a.closeGap padPtr len).region = a.region.map (Region.closeGap ⟨padPtr, len⟩) := by
  unfold region
  rw [len_closeGap]
  split
  · rfl
  · unfold closeGap Region.closeGap
    rw [Option.map_some]
    dsimp only
    split_ifs <;> rfl

theorem regions_map_closeGap (padPtr len : Nat) (attrs : List AttrSlot) :
    regions (attrs.map (AttrSlot.closeGap padPtr len)) =
      (regions attrs).map (Region.closeGap ⟨padPtr, len⟩) := by
  unfold regions
  rw [List.filterMap_map, List.map_filterMap]
  exact congrArg (List.filterMap · attrs) (funext (AttrSlot.region_closeGap padPtr len))

theorem regions_cons (a : AttrSlot) (attrs : List AttrSlot) :
    regions (a :: attrs) = a.region.toList ++ regions attrs := by
  unfold regions
  rw [List.filterMap_cons]
  cases a.region <;> rfl

/-- The regions of the slots are those of the rest and of the one at `idx`. -/
theorem regions_perm_eraseIdx {attrs : List AttrSlot} {idx : Nat} (h : idx < attrs.length) :
    (regions attrs).Perm (attrs[idx].region.toList ++ regions (attrs.eraseIdx idx)) := by
  have split : attrs = attrs.take idx ++ attrs[idx] :: attrs.drop (idx + 1) := by
    rw [← List.drop_eq_getElem_cons h, List.take_append_drop]
  conv => lhs; rw [split]
  rw [List.eraseIdx_eq_take_drop_succ]
  unfold regions
  rw [List.filterMap_append, List.filterMap_cons, List.filterMap_append]
  cases attrs[idx].region with
  | none => exact List.Perm.refl _
  | some r => exact List.perm_middle

/-- The regions of the slots are those of the rest and of the one inserted. -/
theorem regions_perm_insertIdx {attrs : List AttrSlot} {xx : Nat} (h : xx ≤ attrs.length)
    (a : AttrSlot) : (regions (attrs.insertIdx xx a)).Perm (regions (a :: attrs)) :=
  (List.perm_insertIdx a attrs h).filterMap _

/-! ## The invariant -/

/-- What the database API should keep of a record. -/
structure RecordInv (pRec : RecordStore) : Prop where
  length_slots : pRec.slots.length = sdpMaxRecAttr
  num_le : pRec.numAttributes ≤ sdpMaxRecAttr
  sorted : pRec.attrs.Pairwise (fun a b => a.id < b.id)
  packed : Packed (regions pRec.attrs) pRec.freePadPtr.toNat
  free_le : pRec.freePadPtr.toNat ≤ sdpMaxPadLen

/-- A slot in use, read as the code reads it. -/
theorem RecordStore.getD_slots {pRec : RecordStore} {i : Nat} (h : i < pRec.attrs.length) :
    pRec.slots.getD i .zero = pRec.attrs[i] := by
  dsimp only [RecordStore.attrs] at h ⊢
  rw [List.getElem_take, List.getD_eq_getElem?_getD, List.getElem?_eq_getElem, Option.getD_some]

theorem RecordInv.length_attrs {pRec : RecordStore} (inv : RecordInv pRec) :
    pRec.attrs.length = pRec.numAttributes := by
  rw [RecordStore.attrs, List.length_take, inv.length_slots]
  exact Nat.min_eq_left inv.num_le

/-- A value in use lies below `free_pad_ptr`. -/
theorem RecordInv.len_le_free {pRec : RecordStore} (inv : RecordInv pRec) {a : AttrSlot}
    (ha : a ∈ pRec.attrs) : a.len ≤ pRec.freePadPtr := by
  rw [UInt32.le_iff_toNat_le]
  by_cases empty : a.len = 0
  · rw [empty, UInt32.toNat_zero]
    exact Nat.zero_le _
  · have mem : (⟨a.valuePtr, a.len.toNat⟩ : Region) ∈ regions pRec.attrs :=
      List.mem_filterMap.2 ⟨a, ha, if_neg empty⟩
    exact (Nat.le_add_left _ _).trans (inv.packed.inside _ mem)

/-! ## `SDP_DeleteAttributeFromRecord` -/

section Delete

variable {pRec : RecordStore} {attrId : UInt16}

/-- The rebase loop, seen on the slots in use. -/
theorem take_mapIdx_rebase (l : List AttrSlot) (n padPtr len : Nat) :
    (l.mapIdx fun zz a =>
        if zz < n ∧ a.valuePtr > padPtr then { a with valuePtr := a.valuePtr - len } else a).take n =
      (l.take n).map (AttrSlot.closeGap padPtr len) := by
  apply List.ext_getElem?
  intro i
  rw [List.getElem?_take, List.getElem?_mapIdx, List.getElem?_map, List.getElem?_take]
  split_ifs with hi
  · cases l[i]? with
    | none => rfl
    | some a =>
      simp only [Option.map_some, AttrSlot.closeGap, hi, true_and, gt_iff_lt]
  · rfl

/-- A delete that finds the id at `idx`, in the slot `d`: the slot is removed from those in
use, the values above its own move down by its length, and `free_pad_ptr` with them. -/
theorem sdpDeleteAttributeFromRecord_found {idx : Nat} {d : AttrSlot}
    (hnum : pRec.numAttributes ≤ pRec.slots.length)
    (hidx : pRec.attrs.findIdx (·.id == attrId) = idx) (found : idx < pRec.numAttributes)
    (hd : pRec.slots.getD idx .zero = d) :
    (sdpDeleteAttributeFromRecord pRec attrId).1 = true ∧
      (sdpDeleteAttributeFromRecord pRec attrId).2.attrs =
        (pRec.attrs.map (AttrSlot.closeGap d.valuePtr d.len.toNat)).eraseIdx idx ∧
      (sdpDeleteAttributeFromRecord pRec attrId).2.numAttributes = pRec.numAttributes - 1 ∧
      (sdpDeleteAttributeFromRecord pRec attrId).2.slots.length = pRec.slots.length ∧
      (sdpDeleteAttributeFromRecord pRec attrId).2.freePadPtr = pRec.freePadPtr - d.len := by
  unfold sdpDeleteAttributeFromRecord
  dsimp only
  rw [hidx, if_pos found, hd]
  by_cases empty : d.len = 0
  · -- an empty value: only the slots move
    rw [if_neg (not_not.2 empty), if_neg (not_not.2 empty)]
    refine ⟨rfl, ?_, rfl, length_shiftDown _ _ _, by rw [empty, UInt32.sub_zero]⟩
    have keep : AttrSlot.closeGap d.valuePtr 0 = id := funext (AttrSlot.closeGap_zero _)
    rw [empty, UInt32.toNat_zero, keep, List.map_id, RecordStore.attrs, RecordStore.attrs]
    exact take_shiftDown found hnum
  · rw [if_pos empty, if_pos empty]
    refine ⟨rfl, ?_, rfl, by rw [length_shiftDown, List.length_mapIdx], rfl⟩
    rw [RecordStore.attrs, take_shiftDown found (by rwa [List.length_mapIdx]), take_mapIdx_rebase]
    rfl

theorem sdpDeleteAttributeFromRecord_not_found
    (missing : ¬pRec.attrs.findIdx (·.id == attrId) < pRec.numAttributes) :
    sdpDeleteAttributeFromRecord pRec attrId = (false, pRec) := by
  unfold sdpDeleteAttributeFromRecord
  rw [if_neg missing]

/-- Deleting the slot at `idx` and closing the gap of its value keeps the values packed,
in `free` less the value's length. -/
theorem packed_eraseIdx_closeGap {attrs : List AttrSlot} {idx free : Nat}
    (h : idx < attrs.length) (packed : Packed (regions attrs) free) :
    Packed (regions ((attrs.map (AttrSlot.closeGap attrs[idx].valuePtr attrs[idx].len.toNat)).eraseIdx
      idx)) (free - attrs[idx].len.toNat) := by
  have perm := regions_perm_eraseIdx h
  by_cases empty : attrs[idx].len = 0
  · -- an empty value: nothing moves in the pad
    have keep : AttrSlot.closeGap attrs[idx].valuePtr attrs[idx].len.toNat = id := by
      rw [empty, UInt32.toNat_zero]
      exact funext (AttrSlot.closeGap_zero _)
    rw [keep, List.map_id, empty, UInt32.toNat_zero, Nat.sub_zero]
    rw [show attrs[idx].region = none from if_pos empty, Option.toList_none,
      List.nil_append] at perm
    exact packed.perm perm
  · rw [show attrs[idx].region = some ⟨attrs[idx].valuePtr, attrs[idx].len.toNat⟩ from
      if_neg empty, Option.toList_some, List.singleton_append] at perm
    rw [List.eraseIdx_map, regions_map_closeGap]
    exact (packed.perm perm).closeGap

/-- **Deleting keeps the invariant.** -/
theorem recordInv_sdpDeleteAttributeFromRecord (inv : RecordInv pRec) (attrId : UInt16) :
    RecordInv (sdpDeleteAttributeFromRecord pRec attrId).2 := by
  by_cases found : pRec.attrs.findIdx (·.id == attrId) < pRec.numAttributes
  · have hlen : pRec.attrs.findIdx (·.id == attrId) < pRec.attrs.length := by
      rwa [inv.length_attrs]
    obtain ⟨-, attrs, num, slots, free⟩ := sdpDeleteAttributeFromRecord_found
      (inv.num_le.trans inv.length_slots.ge) rfl found (RecordStore.getD_slots hlen)
    have packed := packed_eraseIdx_closeGap hlen inv.packed
    have within := inv.len_le_free (List.getElem_mem hlen)
    refine ⟨by rw [slots, inv.length_slots], by rw [num]; exact (Nat.sub_le _ _).trans inv.num_le,
      ?_, ?_, ?_⟩
    · -- the ids do not change, and one slot goes
      rw [attrs]
      exact (List.pairwise_map.2 (inv.sorted.imp fun lt => by simpa using lt)).eraseIdx _
    · rw [attrs, free, UInt32.toNat_sub_of_le _ _ within]
      exact packed
    · rw [free, UInt32.toNat_sub_of_le _ _ within]
      exact (Nat.sub_le _ _).trans inv.free_le
  · rw [sdpDeleteAttributeFromRecord_not_found found]
    exact inv

end Delete

/-! ## `SDP_AddAttributeToRecord` -/

section Add

variable {pRec : RecordStore} {attrId : UInt16}

/-- Inserting at `i`, after the elements below and before those above, keeps a list sorted. -/
theorem pairwise_insertIdx {α : Type} {R : α → α → Prop} {l : List α} {i : Nat} {x : α}
    (hi : i ≤ l.length) (sorted : l.Pairwise R)
    (below : ∀ j (hj : j < l.length), j < i → R l[j] x)
    (above : ∀ j (hj : j < l.length), i ≤ j → R x l[j]) : (l.insertIdx i x).Pairwise R := by
  rw [List.pairwise_iff_getElem] at sorted ⊢
  have len := List.length_insertIdx_of_le_length hi x
  intro a b ha hb hab
  rw [len] at ha hb
  rw [List.getElem_insertIdx, List.getElem_insertIdx]
  split_ifs <;>
    first
    | omega
    | exact sorted _ _ _ _ (by omega)
    | exact below _ _ (by omega)
    | exact above _ _ (by omega)

/-- What the search of `SDP_AddAttributeToRecord` leaves for the insertion at slot `xx`: the
ids in use below `xx` are below `attrId`, those from `xx` on above it. -/
structure SlotReady (pRec : RecordStore) (xx : Nat) (attrId : UInt16) : Prop where
  inv : RecordInv pRec
  pos_le : xx ≤ pRec.numAttributes
  below : ∀ j (hj : j < pRec.attrs.length), j < xx → pRec.attrs[j].id < attrId
  above : ∀ j (hj : j < pRec.attrs.length), xx ≤ j → attrId < pRec.attrs[j].id

/-- The ids before the first one not below `attrId` are below it. -/
theorem id_lt_of_lt_findIdx {attrs : List AttrSlot} {j : Nat} (hj : j < attrs.length)
    (before : j < attrs.findIdx fun a => a.id == attrId || a.id > attrId) :
    attrs[j].id < attrId := by
  have miss := List.not_of_lt_findIdx before
  simp only [Bool.or_eq_false_iff, beq_eq_false_iff_ne, gt_iff_lt, decide_eq_false_iff_not,
    ne_eq, UInt16.not_lt] at miss
  obtain ⟨other, notAbove⟩ := miss
  have differ : attrs[j].id.toNat ≠ attrId.toNat := fun same => other (UInt16.toNat_inj.1 same)
  rw [UInt16.le_iff_toNat_le] at notAbove
  rw [UInt16.lt_iff_toNat_lt]
  omega

/-- **The search.** -/
theorem slotReady_addAttributeSlot (inv : RecordInv pRec) (attrId : UInt16) :
    SlotReady (addAttributeSlot pRec attrId).2 (addAttributeSlot pRec attrId).1 attrId := by
  have hlen := inv.length_attrs
  have hxx : pRec.attrs.findIdx (fun a => a.id == attrId || a.id > attrId) ≤ pRec.attrs.length :=
    List.findIdx_le_length
  unfold addAttributeSlot
  dsimp only
  split
  next existing =>
    -- the attribute at the slot has the id: it is deleted, and the slot holds the next one
    dsimp only
    obtain ⟨found, same⟩ := existing
    have hfound : pRec.attrs.findIdx (fun a => a.id == attrId || a.id > attrId) <
        pRec.attrs.length := by omega
    rw [RecordStore.getD_slots hfound] at same
    have hidx : pRec.attrs.findIdx (·.id == attrId) =
        pRec.attrs.findIdx (fun a => a.id == attrId || a.id > attrId) := by
      rw [List.findIdx_eq hfound]
      refine ⟨by simpa using same, fun j hj => ?_⟩
      simpa using UInt16.ne_of_lt (id_lt_of_lt_findIdx _ hj)
    obtain ⟨-, attrs, num, -, -⟩ := sdpDeleteAttributeFromRecord_found
      (inv.num_le.trans inv.length_slots.ge) hidx found (RecordStore.getD_slots hfound)
    have len : (sdpDeleteAttributeFromRecord pRec attrId).2.attrs.length =
        pRec.attrs.length - 1 := by
      rw [attrs, List.length_eraseIdx_of_lt (by rwa [List.length_map]), List.length_map]
    refine ⟨recordInv_sdpDeleteAttributeFromRecord inv attrId, by rw [num]; omega, ?_, ?_⟩
    · intro j hj before
      simp only [attrs, List.getElem_eraseIdx, before, dif_pos, List.getElem_map,
        AttrSlot.id_closeGap]
      exact id_lt_of_lt_findIdx _ before
    · -- the slot now holds what was above the deleted attribute
      intro j hj after
      rw [len] at hj
      simp only [attrs, List.getElem_eraseIdx, not_lt.2 after, dif_neg, not_false_eq_true,
        List.getElem_map, AttrSlot.id_closeGap]
      have above := List.pairwise_iff_getElem.1 inv.sorted _ (j + 1) hfound (by omega)
        (by omega : pRec.attrs.findIdx (fun a => a.id == attrId || a.id > attrId) < j + 1)
      rwa [same] at above
  next fresh =>
    -- no attribute with the id: the one at the slot, if any, is above it
    dsimp only
    refine ⟨inv, by omega, fun j hj before => id_lt_of_lt_findIdx hj before, ?_⟩
    intro j hj after
    have hfound : pRec.attrs.findIdx (fun a => a.id == attrId || a.id > attrId) <
        pRec.attrs.length := by omega
    have hit := List.findIdx_getElem (w := hfound)
    have other : pRec.attrs[pRec.attrs.findIdx (fun a => a.id == attrId || a.id > attrId)].id ≠
        attrId := fun same =>
      fresh ⟨by omega, by rw [RecordStore.getD_slots hfound]; exact same⟩
    simp only [Bool.or_eq_true, beq_iff_eq, gt_iff_lt, decide_eq_true_eq, other,
      false_or] at hit
    rcases Nat.lt_or_eq_of_le after with later | rfl
    · exact UInt16.lt_trans hit (List.pairwise_iff_getElem.1 inv.sorted _ _ _ _ later)
    · exact hit

/-- The slots `SDP_AddAttributeToRecord` opens at `xx`: the move up is empty when `xx` is the
first free one. -/
theorem openSlot_eq (slots : List AttrSlot) (xx n : Nat) :
    (if xx = n then slots else shiftUp slots xx n) = shiftUp slots xx n := by
  split
  next same => rw [same, shiftUp_self]
  next => rfl

variable {xx : Nat}

/-- **Insertion.** A slot written at the sorted position, whose value is `Packed` with the
others, keeps the invariant. -/
theorem recordInv_insert (ready : SlotReady pRec xx attrId)
    (hnum : pRec.numAttributes < sdpMaxRecAttr) {a : AttrSlot} (hid : a.id = attrId)
    {r : RecordStore} (slots : r.slots = (shiftUp pRec.slots xx pRec.numAttributes).set xx a)
    (num : r.numAttributes = pRec.numAttributes + 1)
    (packed : Packed (regions (a :: pRec.attrs)) r.freePadPtr.toNat)
    (free_le : r.freePadPtr.toNat ≤ sdpMaxPadLen) : RecordInv r := by
  have inv := ready.inv
  have hn : pRec.numAttributes < pRec.slots.length := by rw [inv.length_slots]; exact hnum
  have hxx : xx ≤ pRec.attrs.length := inv.length_attrs ▸ ready.pos_le
  have attrs : r.attrs = pRec.attrs.insertIdx xx a := by
    rw [RecordStore.attrs, slots, num, take_set_shiftUp ready.pos_le hn]
    rfl
  refine ⟨by rw [slots, List.length_set, length_shiftUp, inv.length_slots],
    by rw [num]; exact hnum, ?_, ?_, free_le⟩
  · rw [attrs]
    exact pairwise_insertIdx hxx inv.sorted (fun j hj before => hid ▸ ready.below j hj before)
      (fun j hj after => hid ▸ ready.above j hj after)
  · rw [attrs]
    exact packed.perm (regions_perm_insertIdx hxx a).symm

/-- The length `SDP_AddAttributeToRecord` stores, when `free_pad_ptr + attr_len` cannot wrap:
the value ends at most at `SDP_MAX_PAD_LEN`. -/
theorem storedLen_fits {free attrLen : UInt32} (text : Prop) [Decidable text]
    (free_le : free.toNat ≤ sdpMaxPadLen) (short : attrLen.toNat + sdpMaxPadLen < UInt32.size) :
    let len := if free + attrLen ≥ sdpMaxPadLen.toUInt32 then
      (if free + attrLen ≥ sdpMaxPadLen.toUInt32 ∧ text then sdpMaxPadLen.toUInt32 - free else 0)
      else attrLen
    (free + len).toNat = free.toNat + len.toNat ∧ free.toNat + len.toNat ≤ sdpMaxPadLen := by
  intro len
  have max : sdpMaxPadLen.toUInt32.toNat = sdpMaxPadLen := rfl
  have pad : sdpMaxPadLen = 600 := rfl
  have size : UInt32.size = 4294967296 := rfl
  have sum : (free + attrLen).toNat = free.toNat + attrLen.toNat := by
    rw [UInt32.toNat_add]
    exact Nat.mod_eq_of_lt (by omega)
  dsimp only [len]
  split_ifs with tooLong truncated
  · -- a text string cut to the room left ends at the end of the pad
    have room : free ≤ sdpMaxPadLen.toUInt32 := by rw [UInt32.le_iff_toNat_le, max]; exact free_le
    rw [UInt32.toNat_add, UInt32.toNat_sub_of_le _ _ room, max]
    omega
  · -- any other value that does not fit is dropped
    rw [UInt32.add_zero, UInt32.toNat_zero]
    omega
  · -- the value fits
    rw [ge_iff_le, UInt32.le_iff_toNat_le, max, sum] at tooLong
    omega
/-- **An add at the sorted slot that succeeds keeps the invariant.** -/
theorem recordInv_addAttributeAt {attrType : UInt8} {attrLen : UInt32} {pVal : List UInt8}
    (ready : SlotReady pRec xx attrId)
    (short : attrLen.toNat + sdpMaxPadLen < UInt32.size)
    (added : (addAttributeAt pRec xx attrId attrType attrLen pVal).1 = true) :
    RecordInv (addAttributeAt pRec xx attrId attrType attrLen pVal).2 := by
  have inv := ready.inv
  unfold addAttributeAt at added ⊢
  split at added
  · exact absurd added Bool.false_ne_true
  next full =>
  rw [if_neg full]
  dsimp only at added ⊢
  rw [openSlot_eq] at added ⊢
  split at added
  · exact absurd added Bool.false_ne_true
  next noRoom =>
  rw [if_neg noRoom]
  obtain ⟨sum, fits⟩ := storedLen_fits (attrType = textStrDescType) inv.free_le short
  set len : UInt32 := if pRec.freePadPtr + attrLen ≥ sdpMaxPadLen.toUInt32 then
      (if pRec.freePadPtr + attrLen ≥ sdpMaxPadLen.toUInt32 ∧ attrType = textStrDescType then
        sdpMaxPadLen.toUInt32 - pRec.freePadPtr else 0)
    else attrLen with hlen
  by_cases stored : len > 0
  · -- the value is stored at `free_pad_ptr`
    have nonzero : len ≠ 0 := UInt32.pos_iff_ne_zero.1 stored
    have pos : 0 < len.toNat := by
      rwa [gt_iff_lt, UInt32.lt_iff_toNat_lt, UInt32.toNat_zero] at stored
    rw [if_pos stored]
    refine recordInv_insert ready (Nat.lt_of_not_le full) rfl (List.set_set ..) rfl ?_ ?_
    · rw [regions_cons, AttrSlot.region_of_len_ne_zero nonzero, Option.toList_some,
        List.singleton_append, sum]
      exact inv.packed.cons_fresh pos
    · rw [sum]
      exact fits
  · rw [if_neg stored] at added ⊢
    by_cases dropped : attrLen ≠ 0
    · rw [if_pos dropped] at added
      exact absurd added Bool.false_ne_true
    · -- an empty value takes no room in the pad
      rw [if_neg dropped]
      refine recordInv_insert ready (Nat.lt_of_not_le full) rfl rfl rfl ?_ inv.free_le
      rw [regions_cons, AttrSlot.region_of_len_eq_zero (not_not.1 dropped), Option.toList_none,
        List.nil_append]
      exact inv.packed
theorem sdpAddAttributeToRecord_eq (pRec : RecordStore) (attrId : UInt16) (attrType : UInt8)
    (attrLen : UInt32) (pVal : List UInt8) :
    sdpAddAttributeToRecord pRec attrId attrType attrLen pVal =
      addAttributeAt (addAttributeSlot pRec attrId).2 (addAttributeSlot pRec attrId).1 attrId
        attrType attrLen pVal := rfl

variable {attrType : UInt8} {attrLen : UInt32} {pVal : List UInt8}

/-- **Adding keeps the invariant**, when it returns `true` and `free_pad_ptr + attr_len`
cannot wrap. -/
theorem recordInv_sdpAddAttributeToRecord (inv : RecordInv pRec)
    (short : attrLen.toNat + sdpMaxPadLen < UInt32.size)
    (added : (sdpAddAttributeToRecord pRec attrId attrType attrLen pVal).1 = true) :
    RecordInv (sdpAddAttributeToRecord pRec attrId attrType attrLen pVal).2 := by
  rw [sdpAddAttributeToRecord_eq] at added ⊢
  exact recordInv_addAttributeAt (slotReady_addAttributeSlot inv attrId) short added

theorem recordInv_sdpAddAttributeToFound (inv : RecordInv pRec)
    (short : attrLen.toNat + sdpMaxPadLen < UInt32.size)
    (added : (sdpAddAttributeToFound pRec attrId attrType attrLen pVal).1 = true) :
    RecordInv (sdpAddAttributeToFound pRec attrId attrType attrLen pVal).2 := by
  unfold sdpAddAttributeToFound at added ⊢
  split at added
  · exact absurd added Bool.false_ne_true
  next space =>
    rw [if_neg space]
    exact recordInv_sdpAddAttributeToRecord inv short added

end Add

/-! ## Runs of calls that succeed -/

section Runs

/-- The length of the value a call adds; 0 for a delete. -/
def RecordOp.valueLen : RecordOp → UInt32
  | .addAttribute _ _ attrLen _ | .addAttributeToRecord _ _ attrLen _ => attrLen
  | .deleteAttributeFromRecord _ => 0

/-- One record under the calls that return `true`, of values whose length cannot wrap
`free_pad_ptr`. -/
def recordMachine : Lts.Machine RecordStore RecordOp where
  guard pRec op := op.valueLen.toNat + sdpMaxPadLen < UInt32.size ∧ (op.exec pRec).1 = true
  exec pRec op := (op.exec pRec).2

variable {pRec : RecordStore}

theorem recordInv_exec (inv : RecordInv pRec) {op : RecordOp}
    (short : op.valueLen.toNat + sdpMaxPadLen < UInt32.size) (ok : (op.exec pRec).1 = true) :
    RecordInv (op.exec pRec).2 := by
  cases op with
  | addAttribute attrId attrType attrLen pVal =>
    exact recordInv_sdpAddAttributeToFound inv short ok
  | addAttributeToRecord attrId attrType attrLen pVal =>
    exact recordInv_sdpAddAttributeToRecord inv short ok
  | deleteAttributeFromRecord attrId => exact recordInv_sdpDeleteAttributeFromRecord inv attrId

theorem recordInv_zeroed (handle : UInt32) : RecordInv (.zeroed handle) where
  length_slots := List.length_replicate
  num_le := Nat.zero_le _
  sorted := List.Pairwise.nil
  packed := Packed.nil
  free_le := Nat.zero_le _

/-- `SDP_CreateRecord` adds the handle attribute to a zeroed record, which always succeeds. -/
theorem recordInv_createdRecord (handle : UInt32) : RecordInv (createdRecord handle) :=
  recordInv_sdpAddAttributeToFound (recordInv_zeroed handle) (by decide) rfl

/-- **Every record reached from `SDP_CreateRecord` by calls that succeed keeps the
invariant.** -/
theorem recordInv_reachable {handle : UInt32}
    (h : recordMachine.Reachable (createdRecord handle) pRec) : RecordInv pRec :=
  h.invariant (recordInv_createdRecord handle) fun _ _ inv ⟨short, ok⟩ =>
    recordInv_exec inv short ok

end Runs

/-! ## An add that fails after moving the slots up

`SDP_AddAttributeToRecord` opens the slot, and deletes an attribute of the same id, before
it checks that the value fits; on the checks that fail it returns `false` without moving
the slots back. Below, a record made by `SDP_CreateRecord`, with one text attribute added,
keeps the invariant; adding a `UINT` value of `SDP_MAX_PAD_LEN` bytes under a smaller id then
fails, and the record has lost the text attribute (it sits in the first slot not in use)
and holds a zeroed slot of id 0 after the handle attribute. -/

theorem failed_add_drops_attribute :
    let r1 : RecordStore :=
      ((RecordOp.addAttribute 0x0100 textStrDescType 3 [0x61, 0x62, 0x63]).exec
        (createdRecord 0x10000)).2
    let res : Bool × RecordStore := (RecordOp.addAttribute 0x0001 uintDescType 600 []).exec r1
    RecordInv r1 ∧ r1.attrs.map (·.id) = [0, 0x0100] ∧
      res.1 = false ∧ res.2.attrs.map (·.id) = [0, 0] ∧
      ¬res.2.attrs.Pairwise (fun a b => a.id < b.id) := by
  intro r1 res
  have reach : recordMachine.Reachable (createdRecord 0x10000) r1 :=
    Lts.Machine.Reachable.step (M := recordMachine)
      (e := .addAttribute 0x0100 textStrDescType 3 [0x61, 0x62, 0x63]) (.refl _)
      ⟨by decide, by decide⟩
  exact ⟨recordInv_reachable reach, by decide, by decide, by decide,
    by decide⟩

end Sdp

import Fluoride.Lib.Machine
import Fluoride.Storage.ConfigCache

/-!
# What every reachable configuration cache satisfies

`CacheInv` holds of the empty cache and is kept by `SetProperty`, `RemoveProperty`,
`RemoveSection`, `RemoveSectionWithProperty` and `Commit` (`cacheInv_reachable`):

* information sections are not addresses, device sections are, and no name is in two maps;
* no section is empty;
* the temporary devices stay within their capacity;
* a persistent device holds a persistent property.

The converse of the last, that a temporary device holds no persistent property, fails: when a
device holding two link keys loses one, `RemoveProperty` moves it to the temporary devices
with the other (`remove_link_key_keeps_le_key_temporary`).

Each operation is first described case by case by an equation (`setDeviceProperty_of_moved`
and the rest), from which each clause of the invariant follows with `InsertionMap.All`.
-/

namespace Storage

namespace ConfigCache

/-! ## The operations, case by case -/

variable {c : ConfigCache} {sectionName property value : List Char}

theorem mem_keys_of_find? {m : InsertionMap (List Char) Properties} {k : List Char}
    {v : Properties} (found : m.find? k = some v) : k ∈ m.keys :=
  InsertionMap.mem_keys_iff_isSome.2 (by rw [found]; rfl)

/-- A persistent device takes the property in place. -/
theorem setDeviceProperty_of_persistent {props : Properties}
    (found : c.persistentDevices.find? sectionName = some props) :
    c.setDeviceProperty sectionName property value =
      { c with persistentDevices := c.persistentDevices.modify sectionName fun props =>
          props.insertOrAssign property value } := by
  have stays : ¬(c.persistentDevices.find? sectionName = none ∧
      c.isPersistentProperty property = true) := by simp [found]
  rw [setDeviceProperty, if_neg stays]
  dsimp only
  rw [if_pos (mem_keys_of_find? found)]

/-- A temporary device that gets a persistent property moves to the back of the persistent
devices, with its properties. -/
theorem setDeviceProperty_of_moved {props : Properties}
    (absent : c.persistentDevices.find? sectionName = none)
    (persistentProperty : c.isPersistentProperty property = true)
    (found : c.temporaryDevices.listMap.find? sectionName = some props) :
    c.setDeviceProperty sectionName property value =
      { c with
        temporaryDevices := c.temporaryDevices.erase sectionName
        persistentDevices := (c.persistentDevices.tryEmplaceBack sectionName props).modify
          sectionName fun props => props.insertOrAssign property value } := by
  have added : sectionName ∈ (c.persistentDevices.tryEmplaceBack sectionName props).keys :=
    mem_keys_of_find? (by rw [InsertionMap.find?_tryEmplaceBack, if_pos rfl])
  have moves : c.persistentDevices.find? sectionName = none ∧
      c.isPersistentProperty property = true := ⟨absent, persistentProperty⟩
  rw [setDeviceProperty, if_pos moves]
  simp only [LruCache.extract, InsertionMap.extract, found]
  rw [if_pos added]
  rfl

/-- A new device that gets a persistent property goes to the back of the persistent devices. -/
theorem setDeviceProperty_of_new (absent : c.persistentDevices.find? sectionName = none)
    (persistentProperty : c.isPersistentProperty property = true)
    (notTemporary : c.temporaryDevices.listMap.find? sectionName = none) :
    c.setDeviceProperty sectionName property value =
      { c with
        persistentDevices := (c.persistentDevices.tryEmplaceBack sectionName .empty).modify
          sectionName fun props => props.insertOrAssign property value } := by
  have added : sectionName ∈ (c.persistentDevices.tryEmplaceBack sectionName .empty).keys :=
    mem_keys_of_find? (by rw [InsertionMap.find?_tryEmplaceBack, if_pos rfl])
  have moves : c.persistentDevices.find? sectionName = none ∧
      c.isPersistentProperty property = true := ⟨absent, persistentProperty⟩
  rw [setDeviceProperty, if_pos moves]
  simp only [LruCache.extract, InsertionMap.extract, notTemporary]
  rw [if_pos added]

/-- Otherwise the property goes to the temporary device, found or added. -/
theorem setDeviceProperty_of_temporary (absent : c.persistentDevices.find? sectionName = none)
    (notPersistentProperty : c.isPersistentProperty property = false) :
    c.setDeviceProperty sectionName property value =
      { c with temporaryDevices :=
          let touched := (c.temporaryDevices.find sectionName).2
          let temporaryDevices :=
            if (c.temporaryDevices.listMap.find? sectionName).isSome then touched
            else touched.tryEmplace sectionName .empty
          { temporaryDevices with
            listMap := temporaryDevices.listMap.modify sectionName
              fun props => props.insertOrAssign property value } } := by
  have notKey : sectionName ∉ c.persistentDevices.keys := fun present => by
    rw [InsertionMap.mem_keys_iff_isSome, absent] at present
    cases present
  have stays : ¬(c.persistentDevices.find? sectionName = none ∧
      c.isPersistentProperty property = true) := by simp [notPersistentProperty]
  rw [setDeviceProperty, if_neg stays]
  dsimp only
  rw [if_neg notKey]
  rfl

theorem removeProperty_of_information {props : Properties}
    (found : c.informationSections.find? sectionName = some props) :
    (c.removeProperty sectionName property).2 =
      { c with informationSections :=
          if (props.erase property).size = 0 then c.informationSections.erase sectionName
          else c.informationSections.modify sectionName fun _ => props.erase property } := by
  simp only [removeProperty, found, InsertionMap.extract]
  rfl

theorem removeProperty_of_persistent {props : Properties}
    (notInformation : c.informationSections.find? sectionName = none)
    (found : c.persistentDevices.find? sectionName = some props) :
    (c.removeProperty sectionName property).2 =
      if (props.erase property).size = 0 then
        { c with persistentDevices := c.persistentDevices.erase sectionName }
      else if (props.find? property).isSome ∧ c.isPersistentProperty property then
        { c with
          persistentDevices := c.persistentDevices.erase sectionName
          temporaryDevices := c.temporaryDevices.insertOrAssign sectionName
            (props.erase property) }
      else
        { c with
          persistentDevices := c.persistentDevices.modify sectionName
            fun _ => props.erase property } := by
  simp only [removeProperty, notInformation, found, InsertionMap.extract]
  by_cases empty : (props.erase property).size = 0
  · simp only [empty, if_true]
  · by_cases moves : (props.find? property).isSome ∧ c.isPersistentProperty property
    · simp only [empty, moves, if_false, if_true, and_self]
    · simp only [empty, moves, if_false]

theorem removeProperty_of_temporary {props : Properties}
    (notInformation : c.informationSections.find? sectionName = none)
    (notPersistent : c.persistentDevices.find? sectionName = none)
    (found : c.temporaryDevices.listMap.find? sectionName = some props) :
    (c.removeProperty sectionName property).2 =
      { c with temporaryDevices :=
          let touched := (c.temporaryDevices.find sectionName).2
          if (props.erase property).size = 0 then touched.erase sectionName
          else { touched with
            listMap := touched.listMap.modify sectionName fun _ => props.erase property } } := by
  simp only [removeProperty, notInformation, notPersistent, LruCache.find, found,
    InsertionMap.extract]

theorem removeProperty_of_absent
    (notInformation : c.informationSections.find? sectionName = none)
    (notPersistent : c.persistentDevices.find? sectionName = none)
    (notTemporary : c.temporaryDevices.listMap.find? sectionName = none) :
    (c.removeProperty sectionName property).2 =
      { c with temporaryDevices := (c.temporaryDevices.find sectionName).2 } := by
  simp only [removeProperty, notInformation, notPersistent, LruCache.find, notTemporary]

/-- `RemoveSection` erases the name from the first map that has it; erasing an absent name
changes nothing, so it erases it from all three. -/
theorem removeSection_eq (c : ConfigCache) (sectionName : List Char) :
    (c.removeSection sectionName).2 =
      if (c.informationSections.find? sectionName).isSome then
        { c with informationSections := c.informationSections.erase sectionName }
      else if (c.persistentDevices.find? sectionName).isSome then
        { c with persistentDevices := c.persistentDevices.erase sectionName }
      else { c with temporaryDevices := c.temporaryDevices.erase sectionName } := by
  unfold removeSection
  simp only [InsertionMap.extract, LruCache.extract]
  cases (c.informationSections.find? sectionName) <;>
    cases (c.persistentDevices.find? sectionName) <;> rfl

/-! ## The invariant -/

/-- Clauses (a) to (c) of the cache's design, and that a persistent device holds a persistent
property. -/
structure CacheInv (c : ConfigCache) : Prop where
  information : c.informationSections.All fun s props =>
    isDeviceSection s = false ∧ 0 < props.size
  persistent : c.persistentDevices.All fun s props =>
    isDeviceSection s = true ∧ 0 < props.size ∧ ∃ p ∈ props.keys, c.isPersistentProperty p = true
  temporary : c.temporaryDevices.listMap.All fun s props =>
    isDeviceSection s = true ∧ 0 < props.size ∧ c.persistentDevices.find? s = none
  capacity : c.temporaryDevices.listMap.size ≤ c.temporaryDevices.capacity

theorem cacheInv_new (tempDeviceCapacity : Nat) (capacity_pos : 0 < tempDeviceCapacity)
    (persistentPropertyNames : List (List Char)) :
    CacheInv (new tempDeviceCapacity capacity_pos persistentPropertyNames) :=
  ⟨.empty _, .empty _, .empty _, Nat.zero_le _⟩

namespace CacheInv

variable (inv : CacheInv c)
include inv

/-- A temporary entry's name is not a persistent device, also after the persistent devices
change at a name that is persistent, or that is not temporary. -/
theorem temporary_of_persistent_modify {f : Properties → Properties}
    (changed : (c.persistentDevices.find? sectionName).isSome ∨
      c.temporaryDevices.listMap.find? sectionName = none) :
    c.temporaryDevices.listMap.All fun s props => isDeviceSection s = true ∧ 0 < props.size ∧
      (c.persistentDevices.modify sectionName f).find? s = none := by
  refine inv.temporary.imp fun s props found ⟨device, sized, notPersistent⟩ =>
    ⟨device, sized, ?_⟩
  rw [InsertionMap.find?_modify]
  split
  · next same =>
    subst same
    rcases changed with persistent | notTemporary
    · rw [notPersistent] at persistent
      cases persistent
    · rw [notTemporary] at found
      cases found
  · exact notPersistent

theorem setInformation (notDevice : isDeviceSection sectionName = false) :
    CacheInv { c with
      informationSections := (c.informationSections.tryEmplaceBack sectionName .empty).modify
        sectionName fun props => props.insertOrAssign property value } :=
  ⟨inv.information.tryEmplaceBack_modify ⟨notDevice, InsertionMap.size_insertOrAssign_pos _ _ _⟩,
    inv.persistent, inv.temporary, inv.capacity⟩

/-- The property of a persistent device, set in place. -/
theorem setPersistent (device : isDeviceSection sectionName = true) {props : Properties}
    (found : c.persistentDevices.find? sectionName = some props) :
    CacheInv { c with
      persistentDevices := c.persistentDevices.modify sectionName fun props =>
        props.insertOrAssign property value } := by
  refine ⟨inv.information, inv.persistent.modify fun old oldFound => ?_,
    inv.temporary_of_persistent_modify (.inl (by rw [found]; rfl)), inv.capacity⟩
  obtain ⟨-, -, key, keyMem, keyPersistent⟩ := inv.persistent _ _ oldFound
  exact ⟨device, InsertionMap.size_insertOrAssign_pos _ _ _, key,
    InsertionMap.mem_keys_insertOrAssign_iff.2 (.inr keyMem), keyPersistent⟩

/-- A device that gets a persistent property, moved from the temporary devices or new. -/
theorem setPromoted (device : isDeviceSection sectionName = true)
    (persistentProperty : c.isPersistentProperty property = true)
    {temporaryDevices : LruCache (List Char) Properties} {props : Properties}
    (temporary : temporaryDevices.listMap.All fun s props =>
      isDeviceSection s = true ∧ 0 < props.size ∧ s ≠ sectionName ∧
        c.persistentDevices.find? s = none)
    (capacity : temporaryDevices.listMap.size ≤ temporaryDevices.capacity) :
    CacheInv { c with
      temporaryDevices := temporaryDevices
      persistentDevices := (c.persistentDevices.tryEmplaceBack sectionName props).modify
        sectionName fun props => props.insertOrAssign property value } := by
  refine ⟨inv.information, inv.persistent.tryEmplaceBack_modify ⟨device,
    InsertionMap.size_insertOrAssign_pos _ _ _, property,
    InsertionMap.mem_keys_insertOrAssign_iff.2 (.inl rfl), persistentProperty⟩,
    temporary.imp fun s props _ ⟨device, sized, other, notPersistent⟩ => ⟨device, sized, ?_⟩,
    capacity⟩
  rw [InsertionMap.find?_tryEmplaceBack_modify, if_neg other]
  exact notPersistent

/-- The property of a temporary device, found or added. -/
theorem setTemporary (device : isDeviceSection sectionName = true)
    (absent : c.persistentDevices.find? sectionName = none)
    {t : LruCache (List Char) Properties}
    (self : t.listMap.find? sectionName =
      some ((c.temporaryDevices.listMap.find? sectionName).getD .empty))
    (other : ∀ j w, t.listMap.find? j = some w →
      j = sectionName ∨ c.temporaryDevices.listMap.find? j = some w)
    (capacity : t.listMap.size ≤ t.capacity) :
    CacheInv { c with
      temporaryDevices := { t with
        listMap := t.listMap.modify sectionName fun props =>
          props.insertOrAssign property value } } := by
  refine ⟨inv.information, inv.persistent, fun j w found => ?_, ?_⟩
  · rw [InsertionMap.find?_modify] at found
    split at found
    · next same =>
      subst same
      rw [self, Option.map_some, Option.some.injEq] at found
      rw [← found]
      exact ⟨device, InsertionMap.size_insertOrAssign_pos _ _ _, absent⟩
    · next notSame =>
      rcases other j w found with same | old
      · exact absurd same notSame
      · exact inv.temporary j w old
  · rw [InsertionMap.size_modify]
    exact capacity

theorem setDeviceProperty (device : isDeviceSection sectionName = true) :
    CacheInv (c.setDeviceProperty sectionName property value) := by
  cases persistent : c.persistentDevices.find? sectionName with
  | some props =>
    rw [setDeviceProperty_of_persistent persistent]
    exact inv.setPersistent device persistent
  | none =>
    cases persistentProperty : c.isPersistentProperty property with
    | false =>
      -- the property goes to the temporary device
      have spec := LruCache.findOrEmplace (c := c.temporaryDevices) sectionName .empty
        inv.capacity
      rw [setDeviceProperty_of_temporary persistent persistentProperty]
      exact inv.setTemporary device persistent spec.1 spec.2.1
        (spec.2.2.2.trans (le_of_eq spec.2.2.1.symm))
    | true =>
      cases temporary : c.temporaryDevices.listMap.find? sectionName with
      | some props =>
        rw [setDeviceProperty_of_moved persistent persistentProperty temporary]
        refine inv.setPromoted device persistentProperty
          (inv.temporary.erase sectionName |>.imp fun s props found
            ⟨device, sized, notPersistent⟩ => ⟨device, sized, ?_, notPersistent⟩) ?_
        · intro same
          rw [same, InsertionMap.find?_erase, if_pos rfl] at found
          cases found
        · exact (InsertionMap.size_erase_le _ _).trans inv.capacity
      | none =>
        rw [setDeviceProperty_of_new persistent persistentProperty temporary]
        refine inv.setPromoted device persistentProperty
          (inv.temporary.imp fun s props found
            ⟨device, sized, notPersistent⟩ => ⟨device, sized, ?_, notPersistent⟩) inv.capacity
        rintro rfl
        rw [temporary] at found
        cases found

theorem setProperty {c' : ConfigCache} (h : c.setProperty sectionName property value = some c') :
    CacheInv c' := by
  unfold ConfigCache.setProperty at h
  dsimp only at h
  split at h
  · cases h
  · split at h
    · next notDevice =>
      cases h
      exact inv.setInformation (by simpa using notDevice)
    · next device =>
      cases h
      exact inv.setDeviceProperty (by simpa using device)

/-- The temporary devices after a lookup, as before. -/
theorem touched :
    (c.temporaryDevices.find sectionName).2.listMap.All fun s props =>
      isDeviceSection s = true ∧ 0 < props.size ∧ c.persistentDevices.find? s = none :=
  fun j w found => inv.temporary j w (by rwa [LruCache.find?_find] at found)

theorem removeProperty : CacheInv (c.removeProperty sectionName property).2 := by
  cases information : c.informationSections.find? sectionName with
  | some props =>
    rw [removeProperty_of_information information]
    refine ⟨?_, inv.persistent, inv.temporary, inv.capacity⟩
    split
    · exact inv.information.erase sectionName
    · next nonEmpty =>
      exact inv.information.modify fun _ old =>
        ⟨(inv.information _ _ old).1, Nat.pos_of_ne_zero nonEmpty⟩
  | none =>
    cases persistent : c.persistentDevices.find? sectionName with
    | some props =>
      obtain ⟨device, -, key, keyMem, keyPersistent⟩ := inv.persistent _ _ persistent
      -- the persistent devices lose at most this one; a temporary name stays unpaired
      have erased : c.temporaryDevices.listMap.All fun s props => isDeviceSection s = true ∧
          0 < props.size ∧ (c.persistentDevices.erase sectionName).find? s = none :=
        inv.temporary.imp fun s props _ ⟨device, sized, notPersistent⟩ => ⟨device, sized, by
          rw [InsertionMap.find?_erase]
          split
          · rfl
          · exact notPersistent⟩
      rw [removeProperty_of_persistent information persistent]
      split
      · exact ⟨inv.information, inv.persistent.erase sectionName, erased, inv.capacity⟩
      · next nonEmpty =>
        split
        · -- move unpaired device
          refine ⟨inv.information, inv.persistent.erase sectionName, fun j w found => ?_,
            (LruCache.size_insertOrAssign_le _ _ inv.capacity).trans
              (LruCache.capacity_insertOrAssign _ _ _).ge⟩
          rcases LruCache.find?_insertOrAssign found with ⟨rfl, rfl⟩ | ⟨-, old⟩
          · refine ⟨device, Nat.pos_of_ne_zero nonEmpty, ?_⟩
            rw [InsertionMap.find?_erase, if_pos rfl]
          · exact erased j w old
        · next stays =>
          -- the property removed is not the persistent one the device holds
          have kept : key ∈ (props.erase property).keys := by
            refine InsertionMap.mem_keys_erase_iff.2 ⟨keyMem, fun same => stays ⟨?_, ?_⟩⟩
            · rw [← InsertionMap.mem_keys_iff_isSome, ← same]
              exact keyMem
            · rw [← same]
              exact keyPersistent
          exact ⟨inv.information, inv.persistent.modify fun _ _ =>
            ⟨device, Nat.pos_of_ne_zero nonEmpty, key, kept, keyPersistent⟩,
            inv.temporary_of_persistent_modify (.inl (by rw [persistent]; rfl)), inv.capacity⟩
    | none =>
      cases temporary : c.temporaryDevices.listMap.find? sectionName with
      | some props =>
        obtain ⟨device, -, notPersistent⟩ := inv.temporary _ _ temporary
        rw [removeProperty_of_temporary information persistent temporary]
        dsimp only
        refine ⟨inv.information, inv.persistent, ?_, ?_⟩
        · split
          · exact inv.touched.erase sectionName
          · next nonEmpty =>
            exact inv.touched.modify fun _ _ =>
              ⟨device, Nat.pos_of_ne_zero nonEmpty, notPersistent⟩
        · split
          · exact (InsertionMap.size_erase_le _ _).trans
              ((LruCache.size_find _ _).trans_le inv.capacity)
          · rw [InsertionMap.size_modify, LruCache.size_find]
            exact inv.capacity
      | none =>
        rw [removeProperty_of_absent information persistent temporary]
        exact ⟨inv.information, inv.persistent, inv.touched,
          (LruCache.size_find _ _).trans_le inv.capacity⟩

theorem removeSection : CacheInv (c.removeSection sectionName).2 := by
  rw [removeSection_eq]
  split
  · exact ⟨inv.information.erase sectionName, inv.persistent, inv.temporary, inv.capacity⟩
  · split
    · refine ⟨inv.information, inv.persistent.erase sectionName,
        inv.temporary.imp fun s props _ held => ⟨held.1, held.2.1, ?_⟩, inv.capacity⟩
      rw [InsertionMap.find?_erase]
      split
      · rfl
      · exact held.2.2
    · exact ⟨inv.information, inv.persistent, inv.temporary.erase sectionName,
        (InsertionMap.size_erase_le _ _).trans inv.capacity⟩

theorem removeSectionWithProperty : CacheInv (c.removeSectionWithProperty property) := by
  refine ⟨inv.information.filter _, inv.persistent.filter _,
    (inv.temporary.filter _).imp fun s props _ ⟨device, sized, notPersistent⟩ =>
      ⟨device, sized, ?_⟩, (InsertionMap.size_filter_le _ _).trans inv.capacity⟩
  show (c.persistentDevices.filter _).find? s = none
  rw [InsertionMap.find?_filter, notPersistent]
  rfl

end CacheInv

theorem CacheInv.commit {c c' : ConfigCache} (inv : CacheInv c) {entries : List MutationEntry}
    (h : c.commit entries = some c') : CacheInv c' := by
  induction entries generalizing c with
  | nil =>
    cases h
    exact inv
  | cons entry rest ih =>
    obtain ⟨c₁, applied, h⟩ := Option.bind_eq_some_iff.1 h
    -- each entry is one of the three calls
    have inv₁ : CacheInv c₁ := by
      unfold applyEntry at applied
      split at applied
      · exact inv.setProperty applied
      · cases applied
        exact inv.removeProperty
      · cases applied
        exact inv.removeSection
    exact ih inv₁ h

/-! ## Runs -/

/-- The cache driven by its calls; a call whose assertion fails is not delivered. -/
def machine : Lts.Machine ConfigCache Event where
  guard c e := (c.step e).isSome
  exec c e := (c.step e).getD c

theorem CacheInv.step {c : ConfigCache} (inv : CacheInv c) {e : Event}
    (guard : machine.guard c e) : CacheInv (machine.exec c e) := by
  obtain ⟨c', stepped⟩ := Option.isSome_iff_exists.1 guard
  show CacheInv ((c.step e).getD c)
  rw [stepped, Option.getD_some]
  cases e with
  | setProperty sectionName property value => exact inv.setProperty stepped
  | removeProperty sectionName property =>
    cases stepped
    exact inv.removeProperty
  | removeSection sectionName =>
    cases stepped
    exact inv.removeSection
  | removeSectionWithProperty property =>
    cases stepped
    exact inv.removeSectionWithProperty
  | commit entries => exact inv.commit stepped

/-- **Every cache reachable from an empty one satisfies `CacheInv`.** -/
theorem cacheInv_reachable (tempDeviceCapacity : Nat) (capacity_pos : 0 < tempDeviceCapacity)
    (persistentPropertyNames : List (List Char)) {c : ConfigCache}
    (reachable : machine.Reachable (new tempDeviceCapacity capacity_pos persistentPropertyNames) c) :
    CacheInv c :=
  reachable.invariant (cacheInv_new _ _ _) fun _ _ inv guard => inv.step guard

/-- A device paired over both transports holds `LinkKey` and `LE_KEY_PENC`; removing the
first moves it to the temporary devices, where it still holds the second, a persistent
property. -/
theorem remove_link_key_keeps_le_key_temporary :
    let c₀ : ConfigCache := new 1 Nat.one_pos linkKeyProperties
    let device := "00:11:22:33:44:55".toList
    let events : List Event :=
      [.setProperty device "LinkKey".toList "0".toList,
        .setProperty device "LE_KEY_PENC".toList "0".toList,
        .removeProperty device "LinkKey".toList]
    ∃ c, machine.Run c₀ events c ∧
      c.persistentDevices.find? device = none ∧
      (c.temporaryDevices.listMap.find? device).map InsertionMap.keys =
        some ["LE_KEY_PENC".toList] ∧
      "LE_KEY_PENC".toList ∈ linkKeyProperties := by
  intro c₀ device events
  -- each call's assertions hold: the names are not empty
  have delivered : ∀ c e, (c.step e).isSome = true → machine.guard c e := fun _ _ h => h
  refine ⟨_, .cons (delivered _ _ (by decide)) (.cons (delivered _ _ (by decide))
    (.cons (delivered _ _ (by decide)) (.nil _))), by decide, by decide, by decide⟩

/-! ## Names and values are single lines -/

/-- A name `SetProperty` accepts: not empty, and cut at its first newline. -/
def SaneName (name : List Char) : Prop := name ≠ [] ∧ '\n' ∉ name

/-- A section of sane name whose properties have sane names and one-line values. -/
def SaneSection (sectionName : List Char) (props : Properties) : Prop :=
  SaneName sectionName ∧ props.All fun property value => SaneName property ∧ '\n' ∉ value

theorem newline_not_mem_trimAfterNewLine (s : List Char) : '\n' ∉ trimAfterNewLine s := by
  intro mem
  have := List.mem_takeWhile_imp mem
  simp at this

/-- Every section name, property name and value the cache holds is one line, and names are
not empty. -/
structure Sanitized (c : ConfigCache) : Prop where
  information : c.informationSections.All SaneSection
  persistent : c.persistentDevices.All SaneSection
  temporary : c.temporaryDevices.listMap.All SaneSection

theorem sanitized_new (tempDeviceCapacity : Nat) (capacity_pos : 0 < tempDeviceCapacity)
    (persistentPropertyNames : List (List Char)) :
    Sanitized (new tempDeviceCapacity capacity_pos persistentPropertyNames) :=
  ⟨.empty _, .empty _, .empty _⟩

namespace Sanitized

/-- A section with one more sane property. -/
theorem saneSection_insertOrAssign {props : Properties} (old : SaneSection sectionName props)
    (saneProperty : SaneName property) (oneLine : '\n' ∉ value) :
    SaneSection sectionName (props.insertOrAssign property value) :=
  ⟨old.1, old.2.insertOrAssign ⟨saneProperty, oneLine⟩⟩

theorem saneSection_empty (saneSection : SaneName sectionName) :
    SaneSection sectionName .empty :=
  ⟨saneSection, .empty _⟩

/-- A section keeps its sanity when a property goes. -/
theorem saneSection_erase {props : Properties} (old : SaneSection sectionName props) :
    SaneSection sectionName (props.erase property) :=
  ⟨old.1, old.2.erase property⟩

variable (sane : Sanitized c)
include sane

theorem setDeviceProperty (saneSection : SaneName sectionName) (saneProperty : SaneName property)
    (oneLine : '\n' ∉ value) : Sanitized (c.setDeviceProperty sectionName property value) := by
  -- the old section, or an empty one, with the property set
  have set : ∀ {m : InsertionMap (List Char) Properties}, m.All SaneSection →
      SaneSection sectionName (((m.find? sectionName).getD .empty).insertOrAssign property value) :=
    fun {m} all => by
      cases found : m.find? sectionName with
      | none => exact saneSection_insertOrAssign (saneSection_empty saneSection) saneProperty oneLine
      | some props =>
        exact saneSection_insertOrAssign (all _ _ found) saneProperty oneLine
  cases persistent : c.persistentDevices.find? sectionName with
  | some props =>
    rw [setDeviceProperty_of_persistent persistent]
    exact ⟨sane.information, sane.persistent.modify fun old found =>
      saneSection_insertOrAssign (sane.persistent _ _ found) saneProperty oneLine, sane.temporary⟩
  | none =>
    cases persistentProperty : c.isPersistentProperty property with
    | false =>
      have spec := LruCache.find?_findOrEmplace (c := c.temporaryDevices) sectionName .empty
      rw [setDeviceProperty_of_temporary persistent persistentProperty]
      refine ⟨sane.information, sane.persistent, fun j w found => ?_⟩
      rw [InsertionMap.find?_modify] at found
      split at found
      · next same =>
        subst same
        rw [spec.1, Option.map_some, Option.some.injEq] at found
        rw [← found]
        exact set sane.temporary
      · next notSame =>
        rcases spec.2 j w found with same | old
        · exact absurd same notSame
        · exact sane.temporary j w old
    | true =>
      cases temporary : c.temporaryDevices.listMap.find? sectionName with
      | some props =>
        rw [setDeviceProperty_of_moved persistent persistentProperty temporary]
        refine ⟨sane.information, sane.persistent.tryEmplaceBack_modify ?_,
          sane.temporary.erase sectionName⟩
        rw [persistent]
        exact saneSection_insertOrAssign (sane.temporary _ _ temporary) saneProperty oneLine
      | none =>
        rw [setDeviceProperty_of_new persistent persistentProperty temporary]
        exact ⟨sane.information, sane.persistent.tryEmplaceBack_modify (set sane.persistent),
          sane.temporary⟩

theorem setProperty {c' : ConfigCache} (h : c.setProperty sectionName property value = some c') :
    Sanitized c' := by
  unfold ConfigCache.setProperty at h
  dsimp only at h
  split at h
  · cases h
  · next named =>
    have saneSection : SaneName (trimAfterNewLine sectionName) :=
      ⟨fun empty => named (.inl empty), newline_not_mem_trimAfterNewLine _⟩
    have saneProperty : SaneName (trimAfterNewLine property) :=
      ⟨fun empty => named (.inr empty), newline_not_mem_trimAfterNewLine _⟩
    split at h
    · cases h
      refine ⟨sane.information.tryEmplaceBack_modify ?_, sane.persistent, sane.temporary⟩
      cases found : c.informationSections.find? (trimAfterNewLine sectionName) with
      | none =>
        exact saneSection_insertOrAssign (saneSection_empty saneSection) saneProperty
          (newline_not_mem_trimAfterNewLine _)
      | some props =>
        exact saneSection_insertOrAssign (sane.information _ _ found) saneProperty
          (newline_not_mem_trimAfterNewLine _)
    · cases h
      exact sane.setDeviceProperty saneSection saneProperty (newline_not_mem_trimAfterNewLine _)

theorem removeProperty : Sanitized (c.removeProperty sectionName property).2 := by
  cases information : c.informationSections.find? sectionName with
  | some props =>
    rw [removeProperty_of_information information]
    refine ⟨?_, sane.persistent, sane.temporary⟩
    split
    · exact sane.information.erase sectionName
    · exact sane.information.modify fun _ found =>
        saneSection_erase (sane.information _ _ information)
  | none =>
    cases persistent : c.persistentDevices.find? sectionName with
    | some props =>
      rw [removeProperty_of_persistent information persistent]
      split
      · exact ⟨sane.information, sane.persistent.erase sectionName, sane.temporary⟩
      · split
        · refine ⟨sane.information, sane.persistent.erase sectionName, fun j w found => ?_⟩
          rcases LruCache.find?_insertOrAssign found with ⟨rfl, rfl⟩ | ⟨-, old⟩
          · exact saneSection_erase (sane.persistent _ _ persistent)
          · exact sane.temporary j w old
        · exact ⟨sane.information, sane.persistent.modify fun _ found =>
            saneSection_erase (sane.persistent _ _ persistent), sane.temporary⟩
    | none =>
      -- the temporary devices after the lookup have what they had
      have touched : (c.temporaryDevices.find sectionName).2.listMap.All SaneSection :=
        fun j w found => sane.temporary j w (by rwa [LruCache.find?_find] at found)
      cases temporary : c.temporaryDevices.listMap.find? sectionName with
      | some props =>
        rw [removeProperty_of_temporary information persistent temporary]
        refine ⟨sane.information, sane.persistent, ?_⟩
        dsimp only
        split
        · exact touched.erase sectionName
        · exact touched.modify fun _ _ => saneSection_erase (sane.temporary _ _ temporary)
      | none =>
        rw [removeProperty_of_absent information persistent temporary]
        exact ⟨sane.information, sane.persistent, touched⟩

theorem removeSection : Sanitized (c.removeSection sectionName).2 := by
  rw [removeSection_eq]
  split
  · exact ⟨sane.information.erase sectionName, sane.persistent, sane.temporary⟩
  · split
    · exact ⟨sane.information, sane.persistent.erase sectionName, sane.temporary⟩
    · exact ⟨sane.information, sane.persistent, sane.temporary.erase sectionName⟩

theorem removeSectionWithProperty : Sanitized (c.removeSectionWithProperty property) :=
  ⟨sane.information.filter _, sane.persistent.filter _, sane.temporary.filter _⟩

end Sanitized

theorem Sanitized.commit {c c' : ConfigCache} (sane : Sanitized c) {entries : List MutationEntry}
    (h : c.commit entries = some c') : Sanitized c' := by
  induction entries generalizing c with
  | nil =>
    cases h
    exact sane
  | cons entry rest ih =>
    obtain ⟨c₁, applied, h⟩ := Option.bind_eq_some_iff.1 h
    have sane₁ : Sanitized c₁ := by
      unfold applyEntry at applied
      split at applied
      · exact sane.setProperty applied
      · cases applied
        exact sane.removeProperty
      · cases applied
        exact sane.removeSection
    exact ih sane₁ h

theorem Sanitized.step {c : ConfigCache} (sane : Sanitized c) {e : Event}
    (guard : machine.guard c e) : Sanitized (machine.exec c e) := by
  obtain ⟨c', stepped⟩ := Option.isSome_iff_exists.1 guard
  show Sanitized ((c.step e).getD c)
  rw [stepped, Option.getD_some]
  cases e with
  | setProperty sectionName property value => exact sane.setProperty stepped
  | removeProperty sectionName property =>
    cases stepped
    exact sane.removeProperty
  | removeSection sectionName =>
    cases stepped
    exact sane.removeSection
  | removeSectionWithProperty property =>
    cases stepped
    exact sane.removeSectionWithProperty
  | commit entries => exact sane.commit stepped

theorem sanitized_reachable (tempDeviceCapacity : Nat) (capacity_pos : 0 < tempDeviceCapacity)
    (persistentPropertyNames : List (List Char)) {c : ConfigCache}
    (reachable : machine.Reachable (new tempDeviceCapacity capacity_pos persistentPropertyNames) c) :
    Sanitized c :=
  reachable.invariant (sanitized_new _ _ _) fun _ _ sane guard => sane.step guard

/-! ## The persistent set never changes -/

theorem persistentPropertyNames_setDeviceProperty (c : ConfigCache)
    (sectionName property value : List Char) :
    (c.setDeviceProperty sectionName property value).persistentPropertyNames =
      c.persistentPropertyNames := by
  unfold setDeviceProperty
  -- the persistent move, if any, then the property set: no branch writes the persistent set
  split
  · split <;> (dsimp only; split <;> rfl)
  · dsimp only
    split <;> rfl

theorem persistentPropertyNames_setProperty {c c' : ConfigCache}
    (h : c.setProperty sectionName property value = some c') :
    c'.persistentPropertyNames = c.persistentPropertyNames := by
  unfold ConfigCache.setProperty at h
  dsimp only at h
  split at h
  · cases h
  · split at h
    · cases h
      rfl
    · cases h
      exact persistentPropertyNames_setDeviceProperty _ _ _ _

theorem persistentPropertyNames_removeProperty (c : ConfigCache) (sectionName property : List Char) :
    (c.removeProperty sectionName property).2.persistentPropertyNames =
      c.persistentPropertyNames := by
  unfold ConfigCache.removeProperty
  repeat' split
  all_goals rfl

theorem persistentPropertyNames_removeSection (c : ConfigCache) (sectionName : List Char) :
    (c.removeSection sectionName).2.persistentPropertyNames = c.persistentPropertyNames := by
  unfold ConfigCache.removeSection
  repeat' split
  all_goals rfl

theorem persistentPropertyNames_commit {c c' : ConfigCache} {entries : List MutationEntry}
    (h : c.commit entries = some c') : c'.persistentPropertyNames = c.persistentPropertyNames := by
  induction entries generalizing c with
  | nil =>
    cases h
    rfl
  | cons entry rest ih =>
    obtain ⟨c₁, applied, h⟩ := Option.bind_eq_some_iff.1 h
    have same : c₁.persistentPropertyNames = c.persistentPropertyNames := by
      unfold applyEntry at applied
      split at applied
      · exact persistentPropertyNames_setProperty applied
      · cases applied
        exact persistentPropertyNames_removeProperty _ _ _
      · cases applied
        exact persistentPropertyNames_removeSection _ _
    exact (ih h).trans same

theorem persistentPropertyNames_step {c : ConfigCache} {e : Event} (guard : machine.guard c e) :
    (machine.exec c e).persistentPropertyNames = c.persistentPropertyNames := by
  obtain ⟨c', stepped⟩ := Option.isSome_iff_exists.1 guard
  show ((c.step e).getD c).persistentPropertyNames = _
  rw [stepped, Option.getD_some]
  cases e with
  | setProperty sectionName property value => exact persistentPropertyNames_setProperty stepped
  | removeProperty sectionName property =>
    cases stepped
    exact persistentPropertyNames_removeProperty _ _ _
  | removeSection sectionName =>
    cases stepped
    exact persistentPropertyNames_removeSection _ _
  | removeSectionWithProperty property =>
    cases stepped
    rfl
  | commit entries => exact persistentPropertyNames_commit stepped

theorem persistentPropertyNames_reachable (tempDeviceCapacity : Nat)
    (capacity_pos : 0 < tempDeviceCapacity) (persistentPropertyNames : List (List Char))
    {c : ConfigCache}
    (reachable : machine.Reachable (new tempDeviceCapacity capacity_pos persistentPropertyNames) c) :
    c.persistentPropertyNames = persistentPropertyNames :=
  reachable.invariant (P := fun c => c.persistentPropertyNames = persistentPropertyNames) rfl
    fun _ _ same guard => (persistentPropertyNames_step guard).trans same

end ConfigCache

end Storage

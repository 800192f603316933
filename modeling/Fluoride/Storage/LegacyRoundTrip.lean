import Fluoride.Storage.ConfigCacheInv
import Fluoride.Storage.LegacyConfigFile

/-!
# Writing the cache out and reading it back

`LegacyConfigFile::Read` of the text that `SerializeToLegacyFormat` writes makes, section by
section, the `SetProperty` calls that give each written section its properties in their order
(`foldlM_readLine_sections`). Those calls rebuild the two written maps:

* an information section is added at the back with its properties in order
  (`setProperties_information`);
* a device section is built in the temporary devices by the properties before its first link
  key, moved to the back of the persistent devices by that link key, and completed there
  (`setProperties_device`), so it too comes out as it was written, and the temporary devices are
  empty again after it.

Every reachable cache of the stack's persistent set has what this needs (`CacheInv`: sections
are not empty and a persistent device holds a link key; `Sanitized`: names and values are single
lines), so the round trip holds for each of them whose property lines are plain
(`read_serializeToLegacyFormat`). A property whose name starts with a NUL character is not read
back: `Read` skips its line as a comment.
-/

namespace Storage

open LegacyConfigFile

namespace ConfigCache

/-- The `SetProperty` calls `Read` makes for the property lines of one section. -/
def setProperties (c : ConfigCache) (sectionName : List Char)
    (props : List (List Char × List Char)) : Option ConfigCache :=
  props.foldlM (fun c e => c.setProperty sectionName e.1 e.2) c

/-- Those it makes for a list of sections. -/
def setSections (c : ConfigCache) (sections : List (List Char × Properties)) :
    Option ConfigCache :=
  sections.foldlM (fun c e => c.setProperties e.1 e.2.entries) c

theorem setProperties_cons (c : ConfigCache) (sectionName : List Char)
    (e : List Char × List Char) (props : List (List Char × List Char)) :
    c.setProperties sectionName (e :: props) =
      (c.setProperty sectionName e.1 e.2).bind fun c => c.setProperties sectionName props :=
  rfl

theorem setProperties_append (c : ConfigCache) (sectionName : List Char)
    (props props' : List (List Char × List Char)) :
    c.setProperties sectionName (props ++ props') =
      (c.setProperties sectionName props).bind fun c => c.setProperties sectionName props' :=
  List.foldlM_append

theorem setSections_cons (c : ConfigCache) (e : List Char × Properties)
    (sections : List (List Char × Properties)) :
    c.setSections (e :: sections) =
      (c.setProperties e.1 e.2.entries).bind fun c => c.setSections sections :=
  rfl

end ConfigCache

/-! ## The lines of written sections -/

namespace LegacyConfigFile

/-- A property line that `Read` gives back: a plain one whose name does not start with a NUL
character, which `Read` takes for a comment. -/
def ReadableProperty (property value : List Char) : Prop :=
  PlainProperty property value ∧ property.head? ≠ some '\x00'

instance (property value : List Char) : Decidable (ReadableProperty property value) :=
  inferInstanceAs (Decidable (_ ∧ _))

theorem readLine_ok_bind {st st' : ReadState} {line : List Char}
    (read : readLine st line = .ok st') (lines : List (List Char)) :
    (line :: lines).foldlM readLine st = lines.foldlM readLine st' := by
  rw [List.foldlM_cons, read]
  rfl

/-- The property lines of a section make its `SetProperty` calls. -/
theorem foldlM_readLine_properties {props : List (List Char × List Char)}
    (readable : ∀ e ∈ props, ReadableProperty e.1 e.2) (st : ReadState) {cache : ConfigCache}
    (set : st.cache.setProperties st.sectionName props = some cache) :
    (props.map fun e => e.1 ++ " = ".toList ++ e.2).foldlM readLine st =
      .ok { st with cache := cache, lineNum := st.lineNum + props.length } := by
  induction props generalizing st with
  | nil =>
    cases set
    rfl
  | cons e props ih =>
    obtain ⟨c₁, first, rest⟩ := Option.bind_eq_some_iff.1 set
    have line := readLine_property (readable e List.mem_cons_self).1
      (readable e List.mem_cons_self).2 first
    rw [List.map_cons, readLine_ok_bind line,
      ih (fun e mem => readable e (List.mem_cons_of_mem _ mem))
        { st with cache := c₁, lineNum := st.lineNum + 1 } rest, List.length_cons]
    congr 2
    dsimp only
    omega

/-- A written section is read as its header, its property lines and a blank line. -/
theorem foldlM_readLine_section {sectionName : List Char} {props : Properties}
    (readable : ∀ e ∈ props.entries, ReadableProperty e.1 e.2) (st : ReadState)
    {cache : ConfigCache} (set : st.cache.setProperties sectionName props.entries = some cache) :
    ∃ lineNum, (ConfigCache.legacySectionLines sectionName props).foldlM readLine st =
      .ok ⟨cache, sectionName, lineNum⟩ := by
  let st₁ : ReadState := { st with lineNum := st.lineNum + 1, sectionName := sectionName }
  have properties := foldlM_readLine_properties readable st₁ set
  refine ⟨st₁.lineNum + props.entries.length + 1, ?_⟩
  rw [ConfigCache.legacySectionLines, List.foldlM_append,
    readLine_ok_bind (readLine_header st sectionName)]
  show (do let st ← _; [[]].foldlM readLine st) = _
  rw [properties]
  rfl

/-- The sections written one after the other make their `SetProperty` calls in turn. -/
theorem foldlM_readLine_sections {sections : List (List Char × Properties)}
    (readable : ∀ e ∈ sections, ∀ x ∈ e.2.entries, ReadableProperty x.1 x.2) (st : ReadState)
    {cache : ConfigCache} (set : st.cache.setSections sections = some cache) :
    ∃ sectionName lineNum,
      (sections.flatMap fun e => ConfigCache.legacySectionLines e.1 e.2).foldlM readLine st =
        .ok ⟨cache, sectionName, lineNum⟩ := by
  induction sections generalizing st with
  | nil =>
    cases set
    exact ⟨st.sectionName, st.lineNum, rfl⟩
  | cons e sections ih =>
    obtain ⟨c₁, first, rest⟩ := Option.bind_eq_some_iff.1 set
    obtain ⟨lineNum, read⟩ := foldlM_readLine_section (readable e List.mem_cons_self) st first
    rw [List.flatMap_cons, List.foldlM_append, read]
    exact ih (fun e' mem => readable e' (List.mem_cons_of_mem _ mem)) ⟨c₁, e.1, lineNum⟩ rest

end LegacyConfigFile

/-! ## The calls, on the cache -/

namespace ConfigCache

variable {c : ConfigCache} {sectionName property value : List Char}

theorem trimAfterNewLine_of_not_mem {s : List Char} (oneLine : '\n' ∉ s) :
    trimAfterNewLine s = s :=
  List.takeWhile_eq_self_iff.2 fun x mem => by
    rw [decide_eq_true_eq]
    rintro rfl
    exact oneLine mem

/-- What `SetProperty` does with single-line names and value: no assertion fails and nothing is
cut. -/
theorem setProperty_of_sane (saneSection : SaneName sectionName)
    (saneProperty : SaneName property) (oneLine : '\n' ∉ value) :
    c.setProperty sectionName property value =
      if !isDeviceSection sectionName then
        some
          { c with
            informationSections :=
              (c.informationSections.tryEmplaceBack sectionName .empty).modify sectionName
                fun props => props.insertOrAssign property value }
      else some (c.setDeviceProperty sectionName property value) := by
  have named : ¬(sectionName = [] ∨ property = []) := by
    rintro (empty | empty)
    · exact saneSection.1 empty
    · exact saneProperty.1 empty
  unfold setProperty
  rw [trimAfterNewLine_of_not_mem saneSection.2, trimAfterNewLine_of_not_mem saneProperty.2,
    trimAfterNewLine_of_not_mem oneLine]
  exact if_neg named

theorem setProperty_information (information : isDeviceSection sectionName = false)
    (saneSection : SaneName sectionName) (saneProperty : SaneName property)
    (oneLine : '\n' ∉ value) :
    c.setProperty sectionName property value = some
      { c with
        informationSections :=
          (c.informationSections.tryEmplaceBack sectionName .empty).modify sectionName
            fun p => p.insertOrAssign property value } := by
  rw [setProperty_of_sane saneSection saneProperty oneLine, information]
  rfl

/-- The properties of an information section, set one after the other: the section is added at
the back if new, and takes them in order. -/
theorem setProperties_information (information : isDeviceSection sectionName = false)
    (saneSection : SaneName sectionName) (e : List Char × List Char)
    (props : List (List Char × List Char)) (sane : ∀ x ∈ e :: props, SaneName x.1 ∧ '\n' ∉ x.2)
    (c : ConfigCache) :
    c.setProperties sectionName (e :: props) = some
      { c with
        informationSections :=
          (c.informationSections.tryEmplaceBack sectionName .empty).modify sectionName
            fun p => p.insertOrAssignAll (e :: props) } := by
  induction props generalizing e c with
  | nil =>
    rw [setProperties_cons, setProperty_information information saneSection
      (sane e List.mem_cons_self).1 (sane e List.mem_cons_self).2]
    rfl
  | cons e' props ih =>
    rw [setProperties_cons, setProperty_information information saneSection
      (sane e List.mem_cons_self).1 (sane e List.mem_cons_self).2, Option.bind_some,
      ih e' (fun x mem => sane x (List.mem_cons_of_mem e mem)) _]
    -- the section is there now: the next property changes it in place
    have present : sectionName ∈ ((c.informationSections.tryEmplaceBack sectionName .empty).modify
        sectionName fun p => p.insertOrAssign e.1 e.2).keys :=
      mem_keys_of_find? (by rw [InsertionMap.find?_tryEmplaceBack_modify, if_pos rfl])
    rw [InsertionMap.tryEmplaceBack_of_mem present, InsertionMap.modify_modify]
    rfl

/-- The properties of a persistent device, set one after the other in place. -/
theorem setProperties_persistent (device : isDeviceSection sectionName = true)
    (saneSection : SaneName sectionName) (props : List (List Char × List Char))
    (sane : ∀ x ∈ props, SaneName x.1 ∧ '\n' ∉ x.2) (c : ConfigCache)
    (present : sectionName ∈ c.persistentDevices.keys) :
    c.setProperties sectionName props = some
      { c with
        persistentDevices :=
          c.persistentDevices.modify sectionName fun p => p.insertOrAssignAll props } := by
  induction props generalizing c with
  | nil =>
    show some c = some
      { c with
        persistentDevices := c.persistentDevices.modify sectionName fun p => p }
    rw [InsertionMap.modify_id]
  | cons e props ih =>
    obtain ⟨old, found⟩ := Option.isSome_iff_exists.1 (InsertionMap.mem_keys_iff_isSome.1 present)
    have first : c.setProperty sectionName e.1 e.2 = some
        { c with
          persistentDevices :=
            c.persistentDevices.modify sectionName fun p => p.insertOrAssign e.1 e.2 } := by
      rw [setProperty_of_sane saneSection (sane e List.mem_cons_self).1
        (sane e List.mem_cons_self).2, device, setDeviceProperty_of_persistent found]
      rfl
    rw [setProperties_cons, first, Option.bind_some,
      ih (fun x mem => sane x (List.mem_cons_of_mem e mem)) _
        (by rw [InsertionMap.keys_modify]; exact present), InsertionMap.modify_modify]
    rfl

/-- A temporary-device cache that holds at most the one section. -/
def HoldsOnly (t : LruCache (List Char) Properties) (sectionName : List Char) : Prop :=
  t.listMap.entries = (t.listMap.find? sectionName).toList.map ((sectionName, ·))

theorem holdsOnly_of_entries {t : LruCache (List Char) Properties} {props : Properties}
    (entries : t.listMap.entries = [(sectionName, props)]) :
    HoldsOnly t sectionName ∧ t.listMap.find? sectionName = some props := by
  have found : t.listMap.find? sectionName = some props := by
    simp [InsertionMap.find?, entries]
  refine ⟨?_, found⟩
  rw [HoldsOnly, found, entries]
  rfl

/-- A property that is not persistent, set on a device that is not persistent while it is the
only temporary one: the device stays the only temporary one, with the property added. -/
theorem setProperty_temporary (device : isDeviceSection sectionName = true)
    (saneSection : SaneName sectionName) (saneProperty : SaneName property)
    (oneLine : '\n' ∉ value) (absent : c.persistentDevices.find? sectionName = none)
    (only : HoldsOnly c.temporaryDevices sectionName)
    (notLinkKey : c.isPersistentProperty property = false) :
    ∃ t, c.setProperty sectionName property value = some { c with temporaryDevices := t } ∧
      t.capacity = c.temporaryDevices.capacity ∧
      t.listMap.entries = [(sectionName,
        ((c.temporaryDevices.listMap.find? sectionName).getD .empty).insertOrAssign property value)] := by
  have alone := LruCache.entries_findOrEmplace (c := c.temporaryDevices) (k := sectionName)
    InsertionMap.empty only
  rw [setProperty_of_sane saneSection saneProperty oneLine, device,
    setDeviceProperty_of_temporary absent notLinkKey]
  refine ⟨_, rfl, ?_, ?_⟩
  · dsimp only
    split <;> simp
  · dsimp only at alone ⊢
    simp only [InsertionMap.modify, alone, List.map_cons, List.map_nil, if_true]

/-- The properties of a device that is not persistent, none of them persistent, set one after
the other: the device stays the only temporary one, and takes them in order. -/
theorem setProperties_temporary (device : isDeviceSection sectionName = true)
    (saneSection : SaneName sectionName) (props : List (List Char × List Char))
    (sane : ∀ x ∈ props, SaneName x.1 ∧ '\n' ∉ x.2) (c : ConfigCache)
    (absent : c.persistentDevices.find? sectionName = none)
    (only : HoldsOnly c.temporaryDevices sectionName)
    (notLinkKeys : ∀ x ∈ props, c.isPersistentProperty x.1 = false) :
    ∃ t, c.setProperties sectionName props = some { c with temporaryDevices := t } ∧
      t.capacity = c.temporaryDevices.capacity ∧ HoldsOnly t sectionName ∧
      (t.listMap.find? sectionName).getD .empty =
        ((c.temporaryDevices.listMap.find? sectionName).getD .empty).insertOrAssignAll props := by
  induction props generalizing c with
  | nil => exact ⟨c.temporaryDevices, rfl, rfl, only, rfl⟩
  | cons e props ih =>
    obtain ⟨t₁, first, capacity, entries⟩ := setProperty_temporary device saneSection
      (sane e List.mem_cons_self).1 (sane e List.mem_cons_self).2 absent only
      (notLinkKeys e List.mem_cons_self)
    obtain ⟨only₁, found₁⟩ := holdsOnly_of_entries entries
    obtain ⟨t', set, capacity', only', props'⟩ := ih
      (fun x mem => sane x (List.mem_cons_of_mem e mem)) { c with temporaryDevices := t₁ }
      absent only₁ (fun x mem => notLinkKeys x (List.mem_cons_of_mem e mem))
    refine ⟨t', ?_, capacity'.trans capacity, only', ?_⟩
    · rw [setProperties_cons, first, Option.bind_some, set]
    · rw [props']
      show ((t₁.listMap.find? sectionName).getD .empty).insertOrAssignAll props = _
      rw [found₁]
      rfl

/-- The properties of a device that is not persistent and not yet temporary, with a link key
among them: those before the first link key make it temporary, the link key moves it to the back
of the persistent devices, and the rest are set there. In the end it is a persistent device with
all its properties in order, and the temporary devices are as they were. -/
theorem setProperties_device (device : isDeviceSection sectionName = true)
    (saneSection : SaneName sectionName) (c : ConfigCache)
    (absent : c.persistentDevices.find? sectionName = none)
    (emptyTemporary : c.temporaryDevices.listMap.entries = [])
    {pre post : List (List Char × List Char)} {linkKey : List Char × List Char}
    (notLinkKeys : ∀ x ∈ pre, c.isPersistentProperty x.1 = false)
    (isLinkKey : c.isPersistentProperty linkKey.1 = true)
    (sane : ∀ x ∈ pre ++ linkKey :: post, SaneName x.1 ∧ '\n' ∉ x.2) :
    c.setProperties sectionName (pre ++ linkKey :: post) = some
      { c with
        persistentDevices :=
          (c.persistentDevices.tryEmplaceBack sectionName .empty).modify sectionName
            fun p => p.insertOrAssignAll (pre ++ linkKey :: post) } := by
  have notTemporary : c.temporaryDevices.listMap.find? sectionName = none := by
    simp [InsertionMap.find?, emptyTemporary]
  have only : HoldsOnly c.temporaryDevices sectionName := by
    rw [HoldsOnly, notTemporary, emptyTemporary]
    rfl
  -- the properties before the link key: the device is the only temporary one
  obtain ⟨t, temporary, capacity, holding, built⟩ := setProperties_temporary device saneSection
    pre (fun x mem => sane x (List.mem_append_left _ mem)) c absent only notLinkKeys
  rw [notTemporary, Option.getD_none] at built
  -- the link key: the device, with what it has, moves to the persistent devices, and the
  -- temporary devices are empty again
  have moved : ({ c with temporaryDevices := t } : ConfigCache).setProperty sectionName
      linkKey.1 linkKey.2 = some
      { c with
        persistentDevices :=
          ((c.persistentDevices.tryEmplaceBack sectionName ((t.listMap.find? sectionName).getD
            .empty)).modify sectionName fun p => p.insertOrAssign linkKey.1 linkKey.2) } := by
    have saneLinkKey := sane linkKey (List.mem_append_right _ List.mem_cons_self)
    rw [setProperty_of_sane saneSection saneLinkKey.1 saneLinkKey.2, device]
    cases found : t.listMap.find? sectionName with
    | some props =>
      have emptied : t.erase sectionName = c.temporaryDevices :=
        LruCache.ext (c := t.erase sectionName) capacity
          (InsertionMap.ext ((InsertionMap.entries_erase_of_only holding).trans
            emptyTemporary.symm))
      rw [setDeviceProperty_of_moved (c := { c with temporaryDevices := t }) absent isLinkKey
        found, emptied]
      rfl
    | none =>
      have same : t = c.temporaryDevices := by
        have emptyT : t.listMap.entries = [] := by
          rw [holding, found]
          rfl
        exact LruCache.ext capacity (InsertionMap.ext (emptyT.trans emptyTemporary.symm))
      rw [setDeviceProperty_of_new (c := { c with temporaryDevices := t }) absent isLinkKey found,
        same]
      rfl
  have present : sectionName ∈ ((c.persistentDevices.tryEmplaceBack sectionName
      ((t.listMap.find? sectionName).getD .empty)).modify sectionName
        fun p => p.insertOrAssign linkKey.1 linkKey.2).keys :=
    mem_keys_of_find? (by rw [InsertionMap.find?_tryEmplaceBack_modify, if_pos rfl])
  -- the properties after it: set in place
  have completed := setProperties_persistent device saneSection post
    (fun x mem => sane x (List.mem_append_right _ (List.mem_cons_of_mem _ mem)))
    { c with
      persistentDevices :=
        ((c.persistentDevices.tryEmplaceBack sectionName ((t.listMap.find? sectionName).getD
          .empty)).modify sectionName fun p => p.insertOrAssign linkKey.1 linkKey.2) } present
  rw [setProperties_append, temporary, Option.bind_some, setProperties_cons, moved,
    Option.bind_some, completed, InsertionMap.modify_modify]
  -- both sides add the section at the back with the same properties
  congr 2
  apply InsertionMap.ext
  have notKey : sectionName ∉ c.persistentDevices.keys := by
    rw [InsertionMap.mem_keys_iff_isSome, absent]
    exact Bool.false_ne_true
  rw [InsertionMap.entries_tryEmplaceBack_modify notKey,
    InsertionMap.entries_tryEmplaceBack_modify notKey, built]
  simp only [InsertionMap.insertOrAssignAll, List.foldl_append, List.foldl_cons,
    Function.comp_apply]

/-! ## All the sections -/

/-- The information sections, set one after the other on a cache without them: each is added at
the back with its properties in order. -/
theorem setSections_information (sections : List (List Char × Properties)) (c : ConfigCache)
    (fresh : (c.informationSections.keys ++ sections.map Prod.fst).Nodup)
    (valid : ∀ e ∈ sections, isDeviceSection e.1 = false ∧ SaneSection e.1 e.2 ∧ 0 < e.2.size) :
    ∃ informationSections : InsertionMap (List Char) Properties,
      informationSections.entries = c.informationSections.entries ++ sections ∧
      c.setSections sections = some { c with informationSections := informationSections } := by
  induction sections generalizing c with
  | nil => exact ⟨c.informationSections, (List.append_nil _).symm, rfl⟩
  | cons e sections ih =>
    obtain ⟨information, saneSection, nonempty⟩ := valid e List.mem_cons_self
    obtain ⟨x, l, entries⟩ := List.exists_cons_of_ne_nil
      (List.ne_nil_of_length_pos (l := e.2.entries) nonempty)
    have set := setProperties_information information saneSection.1 x l
      (fun y mem => saneSection.2.mem (entries ▸ mem)) c
    rw [← entries] at set
    have added : ((c.informationSections.tryEmplaceBack e.1 .empty).modify e.1
        fun p => p.insertOrAssignAll e.2.entries).entries = c.informationSections.entries ++ [e] := by
      rw [InsertionMap.entries_tryEmplaceBack_modify
        (InsertionMap.not_mem_keys_of_nodup_append fresh),
        InsertionMap.empty_insertOrAssignAll_entries]
    obtain ⟨informationSections, rest, setRest⟩ :=
      ih { c with
          informationSections := (c.informationSections.tryEmplaceBack e.1 .empty).modify e.1
            fun p => p.insertOrAssignAll e.2.entries }
        (InsertionMap.nodup_keys_append_of_entries fresh added)
        (fun e' mem => valid e' (List.mem_cons_of_mem e mem))
    refine ⟨informationSections, ?_, ?_⟩
    · rw [rest, added, List.append_assoc, List.singleton_append]
    · rw [setSections_cons, set, Option.bind_some, setRest]

/-- The persistent devices, set one after the other on a cache without them and with no
temporary device: each, holding a link key, is added at the back with its properties in order,
and the temporary devices stay empty. -/
theorem setSections_devices (sections : List (List Char × Properties)) (c : ConfigCache)
    (fresh : (c.persistentDevices.keys ++ sections.map Prod.fst).Nodup)
    (emptyTemporary : c.temporaryDevices.listMap.entries = [])
    (valid : ∀ e ∈ sections, isDeviceSection e.1 = true ∧ SaneSection e.1 e.2 ∧
      ∃ p ∈ e.2.keys, c.isPersistentProperty p = true) :
    ∃ persistentDevices : InsertionMap (List Char) Properties,
      persistentDevices.entries = c.persistentDevices.entries ++ sections ∧
      c.setSections sections = some { c with persistentDevices := persistentDevices } := by
  induction sections generalizing c with
  | nil => exact ⟨c.persistentDevices, (List.append_nil _).symm, rfl⟩
  | cons e sections ih =>
    obtain ⟨device, saneSection, p, key, isLinkKey⟩ := valid e List.mem_cons_self
    -- cut the properties at the first link key
    have hasLinkKey : (e.2.entries.find? fun x => c.isPersistentProperty x.1).isSome := by
      obtain ⟨x, mem, rfl⟩ := List.mem_map.1 key
      exact List.find?_isSome.2 ⟨x, mem, isLinkKey⟩
    obtain ⟨linkKey, found⟩ := Option.isSome_iff_exists.1 hasLinkKey
    obtain ⟨isLinkKey', pre, post, cut, before⟩ := List.find?_eq_some_iff_append.1 found
    have absent : c.persistentDevices.find? e.1 = none :=
      InsertionMap.find?_eq_none_of_not_mem (InsertionMap.not_mem_keys_of_nodup_append fresh)
    have set := setProperties_device device saneSection.1 c absent emptyTemporary
      (fun x mem => by simpa using before x mem) isLinkKey'
      (fun y mem => saneSection.2.mem (cut ▸ mem))
    rw [← cut] at set
    have added : ((c.persistentDevices.tryEmplaceBack e.1 .empty).modify e.1
        fun p => p.insertOrAssignAll e.2.entries).entries = c.persistentDevices.entries ++ [e] := by
      rw [InsertionMap.entries_tryEmplaceBack_modify
        (InsertionMap.not_mem_keys_of_nodup_append fresh),
        InsertionMap.empty_insertOrAssignAll_entries]
    obtain ⟨persistentDevices, rest, setRest⟩ :=
      ih { c with
          persistentDevices := (c.persistentDevices.tryEmplaceBack e.1 .empty).modify e.1
            fun p => p.insertOrAssignAll e.2.entries }
        (InsertionMap.nodup_keys_append_of_entries fresh added) emptyTemporary
        (fun e' mem => valid e' (List.mem_cons_of_mem e mem))
    refine ⟨persistentDevices, ?_, ?_⟩
    · rw [rest, added, List.append_assoc, List.singleton_append]
    · rw [setSections_cons, set, Option.bind_some, setRest]

/-! ## The round trip -/

/-- The lines written for a section of single-line names and values are single lines. -/
theorem newline_not_mem_legacySectionLines {sectionName : List Char} {props : Properties}
    (sane : SaneSection sectionName props) :
    ∀ line ∈ legacySectionLines sectionName props, '\n' ∉ line := by
  intro line mem
  simp only [legacySectionLines, List.cons_append, List.mem_cons, List.mem_append, List.mem_map,
    List.not_mem_nil, or_false] at mem
  rcases mem with rfl | ⟨x, mem, rfl⟩ | rfl
  · simpa using sane.1.2
  · have property := sane.2.mem mem
    rw [separator_toList]
    simpa using ⟨property.1.2, property.2⟩
  · exact List.not_mem_nil

/-- The text `SerializeToLegacyFormat` writes: the lines of each information section and then
those of each persistent device. -/
theorem serializeToLegacyFormat_eq (c : ConfigCache) :
    c.serializeToLegacyFormat =
      ((c.informationSections.entries ++ c.persistentDevices.entries).flatMap fun e =>
        legacySectionLines e.1 e.2).flatMap fun line => line ++ ['\n'] := by
  simp [serializeToLegacyFormat, List.flatMap_append]

end ConfigCache

open ConfigCache in
theorem read_serializeToLegacyFormat (tempDeviceCapacity : Nat)
    (capacity_pos : 0 < tempDeviceCapacity) {c : ConfigCache}
    (reachable : machine.Reachable (new tempDeviceCapacity capacity_pos linkKeyProperties) c)
    (readable : ∀ e ∈ c.informationSections.entries ++ c.persistentDevices.entries,
      ∀ x ∈ e.2.entries, ReadableProperty x.1 x.2)
    (tempDevicesCapacity : Nat) (capacity_pos' : 0 < tempDevicesCapacity) :
    ∃ c', LegacyConfigFile.read c.serializeToLegacyFormat tempDevicesCapacity capacity_pos' =
        .ok c' ∧
      c'.informationSections = c.informationSections ∧
      c'.persistentDevices = c.persistentDevices ∧ c'.temporaryDevices.listMap = .empty := by
  have inv := cacheInv_reachable _ _ _ reachable
  have sane := sanitized_reachable _ _ _ reachable
  have names := persistentPropertyNames_reachable _ _ _ reachable
  let c₀ : ConfigCache := new tempDevicesCapacity capacity_pos' linkKeyProperties
  -- the information sections come back first, in order
  obtain ⟨informationSections, infoEntries, infoSet⟩ :=
    setSections_information c.informationSections.entries c₀
      (by
        show (List.map Prod.fst [] ++ _).Nodup
        exact c.informationSections.nodup)
      fun e mem => ⟨(inv.information.mem mem).1, sane.information.mem mem,
        (inv.information.mem mem).2⟩
  let c₁ : ConfigCache := { c₀ with informationSections := informationSections }
  -- then the persistent devices, each with its link key
  obtain ⟨persistentDevices, persistentEntries, persistentSet⟩ :=
    setSections_devices c.persistentDevices.entries c₁
      (by
        show (List.map Prod.fst [] ++ _).Nodup
        exact c.persistentDevices.nodup) rfl
      fun e mem => by
        obtain ⟨device, _, p, key, isLinkKey⟩ := inv.persistent.mem mem
        refine ⟨device, sane.persistent.mem mem, p, key, ?_⟩
        rw [isPersistentProperty, names] at isLinkKey
        exact isLinkKey
  have oneLine : ∀ line ∈ (c.informationSections.entries ++ c.persistentDevices.entries).flatMap
      (fun e => legacySectionLines e.1 e.2), '\n' ∉ line := by
    intro line mem
    obtain ⟨e, written, mem⟩ := List.mem_flatMap.1 mem
    rcases List.mem_append.1 written with information | persistent
    · exact newline_not_mem_legacySectionLines (sane.information.mem information) line mem
    · exact newline_not_mem_legacySectionLines (sane.persistent.mem persistent) line mem
  -- the text, read line by line
  obtain ⟨s₁, n₁, readInformation⟩ := foldlM_readLine_sections
    (fun e mem => readable e (List.mem_append_left _ mem))
    ⟨c₀, defaultSectionName, 0⟩ infoSet
  obtain ⟨s₂, n₂, readPersistent⟩ := foldlM_readLine_sections
    (fun e mem => readable e (List.mem_append_right _ mem))
    ⟨c₁, s₁, n₁⟩ persistentSet
  refine ⟨{ c₁ with persistentDevices := persistentDevices }, ?_,
    InsertionMap.ext infoEntries, InsertionMap.ext persistentEntries, rfl⟩
  rw [LegacyConfigFile.read, serializeToLegacyFormat_eq, getLines_flatMap oneLine,
    List.flatMap_append,
    List.foldlM_append]
  rw [readInformation]
  show (do let st ← List.foldlM readLine (⟨c₁, s₁, n₁⟩ : ReadState) _; pure st.cache) = _
  rw [readPersistent]
  rfl

/-- The loop-back of the legacy config file's own test: an information section, a device that
stays temporary and is not written, and a paired device. -/
theorem read_serializeToLegacyFormat_loop_back :
    let c₀ : ConfigCache := ConfigCache.new 100 (by decide) linkKeyProperties
    let events : List ConfigCache.Event :=
      [.setProperty "A".toList "B".toList "C".toList,
        .setProperty "AA:BB:CC:DD:EE:FF".toList "B".toList "C".toList,
        .setProperty "AA:BB:CC:DD:EE:FF".toList "C".toList "D".toList,
        .setProperty "CC:DD:EE:FF:00:11".toList "LinkKey".toList "AABBAABBCCDDEE".toList]
    ∃ c, ConfigCache.machine.Run c₀ events c ∧
      ∃ c', LegacyConfigFile.read c.serializeToLegacyFormat 100 (by decide) = .ok c' ∧
        c'.informationSections = c.informationSections ∧
        c'.persistentDevices = c.persistentDevices ∧ c'.temporaryDevices.listMap = .empty := by
  intro c₀ events
  have delivered : ∀ c e, (c.step e).isSome = true → ConfigCache.machine.guard c e :=
    fun _ _ h => h
  have run : ConfigCache.machine.Run c₀ events _ :=
    .cons (delivered _ _ (by decide)) (.cons (delivered _ _ (by decide))
      (.cons (delivered _ _ (by decide)) (.cons (delivered _ _ (by decide)) (.nil _))))
  exact ⟨_, run, read_serializeToLegacyFormat 100 (by decide) ⟨events, run⟩ (by decide) 100
    (by decide)⟩

/-- A property whose name starts with a NUL character is written, and its line read back as a
comment: the information section it made is lost. -/
theorem read_serializeToLegacyFormat_skips_nul_property :
    let c₀ : ConfigCache := ConfigCache.new 1 Nat.one_pos linkKeyProperties
    let events : List ConfigCache.Event :=
      [.setProperty "Adapter".toList "\x00x".toList "1".toList]
    ∃ c, ConfigCache.machine.Run c₀ events c ∧
      Trimmed "Adapter".toList ∧ PlainProperty "\x00x".toList "1".toList ∧
      c.informationSections.keys = ["Adapter".toList] ∧
      ∃ c', LegacyConfigFile.read c.serializeToLegacyFormat 1 Nat.one_pos = .ok c' ∧
        c'.informationSections.size = 0 := by
  intro c₀ events
  have delivered : ∀ c e, (c.step e).isSome = true → ConfigCache.machine.guard c e :=
    fun _ _ h => h
  -- every line is skipped or a header: the cache read is the new one
  exact ⟨_, .cons (delivered _ _ (by decide)) (.nil _), by decide, by decide, by decide,
    ConfigCache.new 1 Nat.one_pos linkKeyProperties, rfl, rfl⟩

end Storage

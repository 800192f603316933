import Fluoride.Osi.Config

/-!
# What `config_set_string` and the removals keep, and how a config is rebuilt

Every config built from `config_new_empty()` by `config_set_string`, `config_remove_key` and
`config_remove_section` is `Sane`:
* no two sections have one name;
* no section has two entries of one key;
* no value has a newline.

`sane_replay` proves it, from one step lemma per call. A sane config is what
`config_set_string` rebuilds when it is called, from an empty config, with each entry of each
section in order (`setSections_sections`). A section's first entry adds it at the back. Every
later entry finds it there and adds itself at its back.
-/

namespace Osi

/-- The entries of a section: distinct keys, one-line values. -/
def SaneEntries (entries : List Entry) : Prop :=
  (entries.map Entry.key).Nodup ∧ ∀ entry ∈ entries, '\n' ∉ entry.value

/-- A config whose section names are distinct and whose sections have sane entries. -/
structure Sane (config : Config) : Prop where
  names : (config.sections.map Section.name).Nodup
  entries : ∀ sec ∈ config.sections, SaneEntries sec.entries

/-! ## Setting -/

theorem takeWhile_ne_newline {value : List Char} (oneLine : '\n' ∉ value) :
    value.takeWhile (· ≠ '\n') = value :=
  List.takeWhile_eq_self_iff.2 fun c mem => by
    have : c ≠ '\n' := fun same => oneLine (same ▸ mem)
    simpa using this

theorem newline_not_mem_takeWhile (value : List Char) : '\n' ∉ value.takeWhile (· ≠ '\n') :=
  fun mem => by simpa using List.mem_takeWhile_imp mem

theorem key_mem_setEntry {entries : List Entry} {key value x : List Char}
    (mem : x ∈ (setEntry entries key value).map Entry.key) : x ∈ entries.map Entry.key ∨ x = key := by
  induction entries with
  | nil => simpa [setEntry] using mem
  | cons entry entries ih =>
    simp only [setEntry] at mem
    split_ifs at mem with same
    · simp only [List.map_cons, List.mem_cons] at mem ⊢
      tauto
    · simp only [List.map_cons, List.mem_cons] at mem ⊢
      rcases mem with first | rest
      · exact .inl (.inl first)
      · rcases ih rest with old | new
        · exact .inl (.inr old)
        · exact .inr new

/-- **Step, on a section.** Setting a one-line value keeps a section's entries sane. -/
theorem saneEntries_setEntry {entries : List Entry} (sane : SaneEntries entries) (key : List Char)
    {value : List Char} (oneLine : '\n' ∉ value) : SaneEntries (setEntry entries key value) := by
  induction entries with
  | nil => exact ⟨by simp [setEntry], by simp [setEntry, oneLine]⟩
  | cons entry entries ih =>
    obtain ⟨keys, values⟩ := sane
    simp only [List.map_cons, List.nodup_cons] at keys
    have rest : SaneEntries entries := ⟨keys.2, fun e mem => values e (List.mem_cons_of_mem _ mem)⟩
    rw [setEntry]
    split_ifs with same
    · -- the entry of `key` takes the value
      refine ⟨by simpa using keys, ?_⟩
      intro e mem
      rcases List.mem_cons.1 mem with rfl | later
      · exact oneLine
      · exact values e (List.mem_cons_of_mem _ later)
    · -- the key is looked for further on
      refine ⟨?_, ?_⟩
      · simp only [List.map_cons, List.nodup_cons]
        refine ⟨fun mem => ?_, (ih rest).1⟩
        rcases key_mem_setEntry mem with old | new
        · exact keys.1 old
        · exact same new
      · intro e mem
        rcases List.mem_cons.1 mem with rfl | later
        · exact values _ List.mem_cons_self
        · exact (ih rest).2 e later

theorem name_mem_setInSections {sections : List Section} {sectionName key value x : List Char}
    (mem : x ∈ (setInSections sections sectionName key value).map Section.name) :
    x ∈ sections.map Section.name ∨ x = sectionName := by
  induction sections with
  | nil => simpa [setInSections] using mem
  | cons sec sections ih =>
    simp only [setInSections] at mem
    split_ifs at mem with same
    · simp only [List.map_cons, List.mem_cons] at mem ⊢
      tauto
    · simp only [List.map_cons, List.mem_cons] at mem ⊢
      rcases mem with first | rest
      · exact .inl (.inl first)
      · rcases ih rest with old | new
        · exact .inl (.inr old)
        · exact .inr new

/-- **Step.** `config_set_string` keeps a config sane. -/
theorem sane_configSetString {config : Config} (sane : Sane config) (sectionName key value : List Char) :
    Sane (configSetString config sectionName key value) := by
  have oneLine := newline_not_mem_takeWhile value
  -- the induction is on the sections `section_find` passes
  suffices ∀ sections : List Section, (sections.map Section.name).Nodup →
      (∀ sec ∈ sections, SaneEntries sec.entries) →
      Sane ⟨setInSections sections sectionName key (value.takeWhile (· ≠ '\n'))⟩ from
    this config.sections sane.names sane.entries
  intro sections
  induction sections with
  | nil =>
    intro _ _
    exact ⟨by simp [setInSections], by simpa [setInSections] using saneEntries_setEntry ⟨by simp, by simp⟩ key oneLine⟩
  | cons sec sections ih =>
    intro names entries
    simp only [List.map_cons, List.nodup_cons] at names
    have rest := ih names.2 fun s mem => entries s (List.mem_cons_of_mem _ mem)
    rw [setInSections]
    split_ifs with same
    · refine ⟨by simpa using names, ?_⟩
      intro s mem
      rcases List.mem_cons.1 mem with rfl | later
      · exact saneEntries_setEntry (entries sec List.mem_cons_self) key oneLine
      · exact entries s (List.mem_cons_of_mem _ later)
    · refine ⟨?_, ?_⟩
      · simp only [List.map_cons, List.nodup_cons]
        refine ⟨fun mem => ?_, rest.names⟩
        rcases name_mem_setInSections mem with old | new
        · exact names.1 old
        · exact same new
      · intro s mem
        rcases List.mem_cons.1 mem with rfl | later
        · exact entries _ List.mem_cons_self
        · exact rest.entries s later

/-! ## Removing -/

theorem removeEntry_sublist {entries entries' : List Entry} {key : List Char}
    (removed : removeEntry entries key = some entries') : entries'.Sublist entries := by
  induction entries generalizing entries' with
  | nil => simp [removeEntry] at removed
  | cons entry entries ih =>
    simp only [removeEntry] at removed
    split_ifs at removed
    · cases removed
      exact List.sublist_cons_self _ _
    · obtain ⟨rest, found, rfl⟩ := Option.map_eq_some_iff.1 removed
      exact (ih found).cons_cons entry

theorem SaneEntries.sublist {entries entries' : List Entry} (sane : SaneEntries entries)
    (sub : entries'.Sublist entries) : SaneEntries entries' :=
  ⟨sane.1.sublist (sub.map _), fun e mem => sane.2 e (sub.subset mem)⟩

/-- Removing a key leaves the section names, and each section's entries a sublist of what they
were. -/
theorem removeKeyInSections_spec {sections sections' : List Section} {sectionName key : List Char}
    (removed : removeKeyInSections sections sectionName key = some sections') :
    sections'.map Section.name = sections.map Section.name ∧
      ∀ sec' ∈ sections', ∃ sec ∈ sections, sec'.entries.Sublist sec.entries := by
  induction sections generalizing sections' with
  | nil => simp [removeKeyInSections] at removed
  | cons sec sections ih =>
    simp only [removeKeyInSections] at removed
    split_ifs at removed with same
    · obtain ⟨entries, found, rfl⟩ := Option.map_eq_some_iff.1 removed
      refine ⟨by simp, ?_⟩
      intro s mem
      rcases List.mem_cons.1 mem with rfl | later
      · exact ⟨sec, List.mem_cons_self, removeEntry_sublist found⟩
      · exact ⟨s, List.mem_cons_of_mem _ later, List.Sublist.refl _⟩
    · obtain ⟨rest, found, rfl⟩ := Option.map_eq_some_iff.1 removed
      obtain ⟨names, subs⟩ := ih found
      refine ⟨by simp [names], ?_⟩
      intro s mem
      rcases List.mem_cons.1 mem with rfl | later
      · exact ⟨s, List.mem_cons_self, List.Sublist.refl _⟩
      · obtain ⟨t, tmem, sub⟩ := subs s later
        exact ⟨t, List.mem_cons_of_mem _ tmem, sub⟩

/-- **Step.** `config_remove_key` keeps a config sane. -/
theorem sane_configRemoveKey {config : Config} (sane : Sane config) (sectionName key : List Char) :
    Sane (configRemoveKey config sectionName key).2 := by
  unfold configRemoveKey
  split
  · exact sane
  · rename_i sections removed
    obtain ⟨names, subs⟩ := removeKeyInSections_spec removed
    refine ⟨by simpa [names] using sane.names, fun s mem => ?_⟩
    obtain ⟨t, tmem, sub⟩ := subs s mem
    exact (sane.entries t tmem).sublist sub

/-- **Step.** `config_remove_section` keeps a config sane. -/
theorem sane_configRemoveSection {config : Config} (sane : Sane config) (sectionName : List Char) :
    Sane (configRemoveSection config sectionName).2 := by
  unfold configRemoveSection
  split_ifs
  · exact ⟨sane.names.sublist (List.eraseP_sublist.map _),
      fun s mem => sane.entries s (List.mem_of_mem_eraseP mem)⟩
  · exact sane

/-- **Run.** Every config built from `config_new_empty()` is sane. -/
theorem sane_replay (ops : List ConfigOp) : Sane (Lts.replay configStep configNewEmpty ops).2 := by
  have empty : Sane configNewEmpty := ⟨by simp [configNewEmpty], by simp [configNewEmpty]⟩
  refine Lts.replay_invariant (fun _ _ => True) Sane ?_ empty
    (Lts.allowed_of_forall _ (fun _ _ => trivial) _ ops)
  intro config op sane _
  cases op with
  | setString sectionName key value => exact sane_configSetString sane sectionName key value
  | removeKey sectionName key => exact sane_configRemoveKey sane sectionName key
  | removeSection sectionName => exact sane_configRemoveSection sane sectionName

/-! ## Rebuilding -/

/-- The `config_set_string` calls for the entries of a section, in order. -/
def setEntries (config : Config) (sectionName : List Char) (entries : List Entry) : Config :=
  entries.foldl (fun config entry => configSetString config sectionName entry.key entry.value) config

/-- Those for each section in order. -/
def setSections (config : Config) (sections : List Section) : Config :=
  sections.foldl (fun config sec => setEntries config sec.name sec.entries) config

theorem setEntry_of_not_mem {entries : List Entry} {key : List Char}
    (fresh : key ∉ entries.map Entry.key) (value : List Char) :
    setEntry entries key value = entries ++ [⟨key, value⟩] := by
  induction entries with
  | nil => rfl
  | cons entry entries ih =>
    simp only [List.map_cons, List.mem_cons, not_or] at fresh
    rw [setEntry, if_neg (Ne.symm fresh.1), ih fresh.2, List.cons_append]

theorem setInSections_of_not_mem {sections : List Section} {sectionName : List Char}
    (fresh : sectionName ∉ sections.map Section.name) (key value : List Char) :
    setInSections sections sectionName key value = sections ++ [⟨sectionName, [⟨key, value⟩]⟩] := by
  induction sections with
  | nil => rfl
  | cons sec sections ih =>
    simp only [List.map_cons, List.mem_cons, not_or] at fresh
    rw [setInSections, if_neg (Ne.symm fresh.1), ih fresh.2, List.cons_append]

theorem setInSections_last {pre : List Section} {sectionName : List Char}
    (fresh : sectionName ∉ pre.map Section.name) (entries : List Entry) (key value : List Char) :
    setInSections (pre ++ [⟨sectionName, entries⟩]) sectionName key value =
      pre ++ [⟨sectionName, setEntry entries key value⟩] := by
  induction pre with
  | nil => simp [setInSections]
  | cons sec pre ih =>
    simp only [List.map_cons, List.mem_cons, not_or] at fresh
    rw [List.cons_append, setInSections, if_neg (Ne.symm fresh.1), ih fresh.2, List.cons_append]

/-- Entries with new keys and one-line values go, in order, at the back of the last section. -/
theorem setEntries_last {pre : List Section} {sectionName : List Char}
    (fresh : sectionName ∉ pre.map Section.name) :
    ∀ (more entries : List Entry), SaneEntries (entries ++ more) →
      setEntries ⟨pre ++ [⟨sectionName, entries⟩]⟩ sectionName more =
        ⟨pre ++ [⟨sectionName, entries ++ more⟩]⟩ := by
  intro more
  induction more with
  | nil => intro entries _; simp [setEntries]
  | cons entry more ih =>
    intro entries sane
    have newKey : entry.key ∉ entries.map Entry.key := by
      have keys := sane.1
      simp only [List.map_append, List.map_cons, List.nodup_append, List.nodup_cons] at keys
      exact fun mem => keys.2.2 _ mem _ List.mem_cons_self rfl
    have oneLine : '\n' ∉ entry.value := sane.2 entry (by simp)
    have next : configSetString ⟨pre ++ [⟨sectionName, entries⟩]⟩ sectionName entry.key entry.value =
        ⟨pre ++ [⟨sectionName, entries ++ [entry]⟩]⟩ := by
      rw [configSetString, takeWhile_ne_newline oneLine, setInSections_last fresh,
        setEntry_of_not_mem newKey]
    rw [setEntries, List.foldl_cons, next]
    have rest := ih (entries ++ [entry]) (by simpa using sane)
    rw [setEntries] at rest
    rw [rest, List.append_assoc, List.singleton_append]

/-- The entries of a new section, in order, add it at the back. -/
theorem setEntries_new {pre : List Section} {sec : Section}
    (fresh : sec.name ∉ pre.map Section.name) (nonempty : sec.entries ≠ [])
    (sane : SaneEntries sec.entries) : setEntries ⟨pre⟩ sec.name sec.entries = ⟨pre ++ [sec]⟩ := by
  obtain ⟨name, entries⟩ := sec
  obtain ⟨first, more, rfl⟩ := List.exists_cons_of_ne_nil nonempty
  have oneLine : '\n' ∉ first.value := sane.2 first List.mem_cons_self
  -- the first entry adds the section, the others find it at the back
  have added : configSetString ⟨pre⟩ name first.key first.value = ⟨pre ++ [⟨name, [first]⟩]⟩ := by
    rw [configSetString, takeWhile_ne_newline oneLine, setInSections_of_not_mem fresh]
  rw [setEntries, List.foldl_cons, added]
  exact setEntries_last fresh more [first] sane

/-- **Rebuilding.** The `config_set_string` calls for every entry of a sane config whose
sections have entries rebuild it from an empty config. The induction is on the sections: those
before are rebuilt, and the next one is new. -/
theorem setSections_sections {config : Config} (sane : Sane config)
    (nonempty : ∀ sec ∈ config.sections, sec.entries ≠ []) :
    setSections configNewEmpty config.sections = config := by
  suffices ∀ (sections pre : List Section), ((pre ++ sections).map Section.name).Nodup →
      (∀ sec ∈ sections, sec.entries ≠ [] ∧ SaneEntries sec.entries) →
      setSections ⟨pre⟩ sections = ⟨pre ++ sections⟩ from
    this config.sections [] (by simpa using sane.names)
      (fun sec mem => ⟨nonempty sec mem, sane.entries sec mem⟩)
  intro sections
  induction sections with
  | nil => intro pre _ _; simp [setSections]
  | cons sec sections ih =>
    intro pre names good
    have fresh : sec.name ∉ pre.map Section.name := by
      simp only [List.map_append, List.map_cons, List.nodup_append, List.nodup_cons] at names
      exact fun mem => names.2.2 _ mem _ List.mem_cons_self rfl
    have first := setEntries_new fresh (good sec List.mem_cons_self).1 (good sec List.mem_cons_self).2
    rw [setSections, List.foldl_cons, first]
    have rest := ih (pre ++ [sec]) (by simpa using names)
      (fun s mem => good s (List.mem_cons_of_mem _ mem))
    rw [setSections] at rest
    rw [rest, List.append_assoc, List.singleton_append]

end Osi

import Fluoride.Osi.ConfigInv

/-!
# Saving a config and reading it back

`config_new` of the text `config_save` writes reads one line per `fgets` call when every line
fits in the 4096-character buffer (`CStr.fgetsLines_line`). Each line kind then does what it was
written for:
* a `[name]` line names the section (`configParseLine_header`);
* a `key = value` line calls `config_set_string` with the key and value
  (`configParseLine_entry`), when the key is plain and neither has a NUL character;
* the empty line is skipped (`configParseLine_blank`).
The calls are those that rebuild a sane config (`setSections_sections`), so the round trip holds
for every config built by the API whose sections have entries and whose lines are plain and fit
(`config_save_new_round_trip`).

A longer line is read in two pieces. The second piece is parsed as a line of its own: a value of
4092 characters makes `config_new` fail (`config_save_new_long_value`). A NUL character ends the
text `fprintf` writes.
-/

namespace Osi

open Storage Storage.LegacyConfigFile
open CStr (isSpace)

/-! ## Trimming -/

theorem takeWhile_ne_nul {s : List Char} (noNul : '\x00' ∉ s) : s.takeWhile (· ≠ '\x00') = s :=
  List.takeWhile_eq_self_iff.2 fun c mem => by
    have : c ≠ '\x00' := fun same => noNul (same ▸ mem)
    simpa using this

theorem trim_of_no_nul {s : List Char} (noNul : '\x00' ∉ s) : trim s = stringTrim s := by
  rw [trim, takeWhile_ne_nul noNul]

/-- A space at the end does not change what trimming keeps. -/
theorem stringTrim_append_space (s : List Char) {c : Char} (space : isSpace c) :
    stringTrim (s ++ [c]) = stringTrim s := by
  rw [stringTrim, stringTrim, List.dropWhile_append]
  split_ifs with allSpaces
  · -- `s` is spaces only: both sides trim to nothing
    have gone : s.dropWhile isSpace = [] := List.isEmpty_iff.1 allSpaces
    rw [gone, List.dropWhile_cons_of_pos space]
    rfl
  · rw [List.reverse_append, List.reverse_singleton, List.singleton_append,
      List.dropWhile_cons_of_pos space]

theorem stringTrim_append_spaces (s : List Char) {t : List Char} (spaces : ∀ c ∈ t, isSpace c) :
    stringTrim (s ++ t) = stringTrim s := by
  induction t generalizing s with
  | nil => rw [List.append_nil]
  | cons c t ih =>
    rw [← List.singleton_append, ← List.append_assoc,
      ih _ fun d mem => spaces d (List.mem_cons_of_mem c mem),
      stringTrim_append_space s (spaces c List.mem_cons_self)]

theorem mem_of_mem_stringTrim {s : List Char} {c : Char} (mem : c ∈ stringTrim s) : c ∈ s := by
  rw [stringTrim, List.mem_reverse] at mem
  exact (List.dropWhile_sublist _).subset
    (List.mem_reverse.1 ((List.dropWhile_sublist _).subset mem))

theorem newline_isSpace : isSpace '\n' := by decide

/-! ## The lines of a saved config -/

section Lines

variable (st : ParseState)

theorem configParseLine_blank : configParseLine st ['\n'] = some st := by
  have empty : trim ['\n'] = [] := by decide
  simp only [configParseLine, empty, List.head?_nil]

/-- A `[name]` line names the section of the lines after it. -/
theorem configParseLine_header {name : List Char} (noNul : '\x00' ∉ name) :
    configParseLine st (('[' :: name ++ [']']) ++ ['\n']) = some { st with sectionName := name } := by
  have lineNoNul : '\x00' ∉ ('[' :: name ++ [']']) ++ ['\n'] := by simp [noNul]
  have trimmed : Trimmed ('[' :: name ++ [']']) := by
    refine ⟨rfl, ?_⟩
    rw [List.getLast?_append, List.getLast?_singleton]
    rfl
  have line : trim (('[' :: name ++ [']']) ++ ['\n']) = '[' :: name ++ [']'] := by
    rw [trim_of_no_nul lineNoNul, stringTrim_append_space _ newline_isSpace,
      stringTrim_of_trimmed trimmed]
  have last : ('[' :: name ++ [']']).getLast? = some ']' := by
    rw [List.getLast?_append, List.getLast?_singleton]
    rfl
  have named : (('[' :: name ++ [']']).drop 1).take (('[' :: name ++ [']']).length - 2) = name := by
    simp
  simp only [configParseLine, line, last, named]
  simp

/-- A `key = value` line, the spaces after it included, sets the key in the current section,
when the key is plain and neither has a NUL character. -/
theorem configParseLine_entry {key value t : List Char} (plain : PlainProperty key value)
    (keyNoNul : '\x00' ∉ key) (valueNoNul : '\x00' ∉ value) (spaces : ∀ c ∈ t, isSpace c)
    (spacesNoNul : '\x00' ∉ t) :
    configParseLine st (key ++ " = ".toList ++ value ++ t) =
      some { st with config := configSetString st.config st.sectionName key value } := by
  have lineNoNul : '\x00' ∉ key ++ " = ".toList ++ value ++ t := by
    simp [keyNoNul, valueNoNul, spacesNoNul]
  obtain ⟨r, trimmedLine, trimmedValue⟩ := stringTrim_propertyLine plain
  have line : trim (key ++ " = ".toList ++ value ++ t) = key ++ ' ' :: '=' :: r := by
    rw [trim_of_no_nul lineNoNul, stringTrim_append_spaces _ spaces, trimmedLine]
  -- what follows the `=` has no NUL either
  have restNoNul : '\x00' ∉ r := fun mem => lineNoNul (by
    have inLine : '\x00' ∈ key ++ ' ' :: '=' :: r := by simp [mem]
    rw [← trimmedLine] at inLine
    exact List.mem_append_left t (mem_of_mem_stringTrim inLine))
  have split : (key ++ ' ' :: '=' :: r).span (· ≠ '=') = (key ++ [' '], '=' :: r) := by
    have before : ∀ c ∈ key ++ [' '], decide (c ≠ '=') = true := by
      intro c mem
      rcases List.mem_append.1 mem with inKey | space
      · have : c ≠ '=' := fun same => plain.noSeparator (same ▸ inKey)
        simpa using this
      · simp at space
        simp [space]
    rw [List.span_eq_takeWhile_dropWhile, ← List.singleton_append, ← List.append_assoc,
      List.takeWhile_append_of_pos before, List.dropWhile_append_of_pos before]
    simp
  have trimmedKey : trim (key ++ [' ']) = key := by
    rw [trim_of_no_nul (by simp [keyNoNul]), stringTrim_append_space _ (by decide),
      stringTrim_of_trimmed plain.trimmed]
  obtain ⟨front, rest, named⟩ := List.exists_cons_of_ne_nil plain.nonempty
  have notComment : front ≠ '#' := by simpa [named] using plain.notComment
  have notHeader : front ≠ '[' := by simpa [named] using plain.notHeader
  have head : (key ++ ' ' :: '=' :: r).head? = some front := by simp [named]
  simp only [configParseLine, line, head, if_neg notComment, if_neg notHeader, split, trimmedKey,
    trim_of_no_nul restNoNul, trimmedValue]

/-- A line that is not blank, a comment or a header, and has no `=`, makes the parse fail. -/
theorem configParseLine_of_no_separator {line : List Char} {front : Char}
    (head : (trim line).head? = some front) (notComment : front ≠ '#') (notHeader : front ≠ '[')
    (noSeparator : '=' ∉ trim line) : configParseLine st line = none := by
  have split : (trim line).span (· ≠ '=') = (trim line, []) := by
    have all : ∀ c ∈ trim line, decide (c ≠ '=') = true := by
      intro c mem
      have : c ≠ '=' := fun same => noSeparator (same ▸ mem)
      simpa using this
    rw [List.span_eq_takeWhile_dropWhile, List.takeWhile_eq_self_iff.2 all,
      List.dropWhile_eq_nil_iff.2 all]
  simp only [configParseLine, head, if_neg notComment, if_neg notHeader, split]

end Lines

/-! ## Reading the saved text -/

/-- An entry whose line reads back as it is: its key is plain and a single line, neither has a
NUL character, and the line fits in the buffer with its newline. -/
structure SaveableEntry (entry : Entry) : Prop where
  plain : PlainProperty entry.key entry.value
  keyOneLine : '\n' ∉ entry.key
  keyNoNul : '\x00' ∉ entry.key
  valueNoNul : '\x00' ∉ entry.value
  fits : entry.key.length + entry.value.length + 4 ≤ 4095

instance (entry : Entry) : Decidable (SaveableEntry entry) :=
  decidable_of_iff (PlainProperty entry.key entry.value ∧ '\n' ∉ entry.key ∧ '\x00' ∉ entry.key ∧
      '\x00' ∉ entry.value ∧ entry.key.length + entry.value.length + 4 ≤ 4095)
    ⟨fun h => ⟨h.1, h.2.1, h.2.2.1, h.2.2.2.1, h.2.2.2.2⟩, fun h => ⟨h.1, h.2, h.3, h.4, h.5⟩⟩

/-- A section whose lines read back as they are, with at least one entry. -/
structure SaveableSection (sec : Section) : Prop where
  nonempty : sec.entries ≠ []
  nameOneLine : '\n' ∉ sec.name
  nameNoNul : '\x00' ∉ sec.name
  nameFits : sec.name.length + 3 ≤ 4095
  entries : ∀ entry ∈ sec.entries, SaveableEntry entry

instance (sec : Section) : Decidable (SaveableSection sec) :=
  decidable_of_iff (sec.entries ≠ [] ∧ '\n' ∉ sec.name ∧ '\x00' ∉ sec.name ∧
      sec.name.length + 3 ≤ 4095 ∧ ∀ entry ∈ sec.entries, SaveableEntry entry)
    ⟨fun h => ⟨h.1, h.2.1, h.2.2.1, h.2.2.2.1, h.2.2.2.2⟩, fun h => ⟨h.1, h.2, h.3, h.4, h.5⟩⟩

/-- Every line of such a section, with one-line values, is one line without a NUL character
that fits in the buffer with its newline. -/
theorem sectionLines_fit {sec : Section} (saveable : SaveableSection sec)
    (values : ∀ entry ∈ sec.entries, '\n' ∉ entry.value) :
    ∀ line ∈ sectionLines sec, '\n' ∉ line ∧ '\x00' ∉ line ∧ line.length + 1 ≤ 4095 := by
  intro line mem
  simp only [sectionLines, List.mem_cons, List.mem_append, List.mem_map, List.not_mem_nil,
    or_false] at mem
  rcases mem with (rfl | ⟨entry, inSection, rfl⟩) | rfl
  · -- the header
    refine ⟨by simp [saveable.nameOneLine], by simp [saveable.nameNoNul], ?_⟩
    have := saveable.nameFits
    simp
    omega
  · -- an entry
    have good := saveable.entries entry inSection
    refine ⟨by simp [good.keyOneLine, values entry inSection], by simp [good.keyNoNul, good.valueNoNul], ?_⟩
    have := good.fits
    simp
    omega
  · -- the empty line after the section
    simp

/-- The reads of text written line by line, each line fitting in the buffer, are the lines. -/
theorem fgetsLines_lines :
    ∀ lines : List (List Char), (∀ line ∈ lines, '\n' ∉ line ∧ line.length + 1 ≤ 4095) →
      CStr.fgetsLines 4096 [] (lines.flatMap fun line => line ++ ['\n']) =
        lines.map fun line => line ++ ['\n']
  | [], _ => rfl
  | line :: lines, fit => by
    rw [List.flatMap_cons, List.append_assoc, List.singleton_append,
      CStr.fgetsLines_line (fit line List.mem_cons_self).1 _ (by simpa using (fit line List.mem_cons_self).2),
      fgetsLines_lines lines fun l mem => fit l (List.mem_cons_of_mem line mem)]
    simp

theorem foldlM_configParseLine_cons {st st' : ParseState} {line : List Char}
    (parsed : configParseLine st line = some st') (lines : List (List Char)) :
    (line :: lines).foldlM configParseLine st = lines.foldlM configParseLine st' := by
  simp [List.foldlM_cons, parsed]

/-- The entry lines of a section set their keys in the current section, in order. -/
theorem foldlM_entryLines (sectionName : List Char) :
    ∀ (entries : List Entry) (config : Config), (∀ entry ∈ entries, SaveableEntry entry) →
      ((entries.map fun entry => entry.key ++ " = ".toList ++ entry.value).map
        fun line => line ++ ['\n']).foldlM configParseLine ⟨config, sectionName⟩ =
        some ⟨setEntries config sectionName entries, sectionName⟩
  | [], _, _ => rfl
  | entry :: entries, config, good => by
    have first := good entry List.mem_cons_self
    rw [List.map_cons, List.map_cons, foldlM_configParseLine_cons
      (configParseLine_entry ⟨config, sectionName⟩ first.plain first.keyNoNul first.valueNoNul
        (by simp [newline_isSpace]) (by decide)),
      foldlM_entryLines sectionName entries _ fun e mem => good e (List.mem_cons_of_mem entry mem)]
    rfl

/-- The lines of a section name it and set its entries, in order. -/
theorem foldlM_sectionLines (st : ParseState) {sec : Section} (saveable : SaveableSection sec) :
    ((sectionLines sec).map fun line => line ++ ['\n']).foldlM configParseLine st =
      some ⟨setEntries st.config sec.name sec.entries, sec.name⟩ := by
  rw [sectionLines, List.map_append, List.foldlM_append, List.map_cons, foldlM_configParseLine_cons
    (configParseLine_header st saveable.nameNoNul)]
  simp only [foldlM_entryLines sec.name sec.entries st.config saveable.entries]
  simp [configParseLine_blank]

/-- The lines of sections rebuild them, in order. -/
theorem foldlM_sections :
    ∀ (sections : List Section) (st : ParseState), (∀ sec ∈ sections, SaveableSection sec) →
      ∃ sectionName, (((sections.flatMap sectionLines).map fun line => line ++ ['\n']).foldlM
        configParseLine st) = some ⟨setSections st.config sections, sectionName⟩
  | [], st, _ => ⟨st.sectionName, rfl⟩
  | sec :: sections, st, saveable => by
    obtain ⟨sectionName, rest⟩ := foldlM_sections sections
      ⟨setEntries st.config sec.name sec.entries, sec.name⟩
      fun s mem => saveable s (List.mem_cons_of_mem sec mem)
    refine ⟨sectionName, ?_⟩
    rw [List.flatMap_cons, List.map_append, List.foldlM_append,
      foldlM_sectionLines st (saveable sec List.mem_cons_self)]
    exact rest

/-- Without a NUL character, `fprintf` writes the whole text. -/
theorem configSave_of_no_nul {config : Config}
    (noNul : ∀ line ∈ config.sections.flatMap sectionLines, '\x00' ∉ line) :
    configSave config = serialized config := by
  refine takeWhile_ne_nul fun mem => ?_
  obtain ⟨line, inConfig, inLine⟩ := List.mem_flatMap.1 mem
  rcases List.mem_append.1 inLine with old | newline
  · exact noNul line inConfig old
  · simp at newline

/-! ## The round trip -/

/-- **`config_new` reads back what `config_save` writes.** Take a config built from
`config_new_empty()` by `config_set_string`, `config_remove_key` and `config_remove_section`.
Suppose its sections have entries and its lines read back as they are (`SaveableSection`). Then
`config_new` of the text `config_save` writes gives the same sections, in the same order, each
with the same entries in the same order. -/
theorem config_save_new_round_trip (ops : List ConfigOp)
    (saveable : ∀ sec ∈ (Lts.replay configStep configNewEmpty ops).2.sections, SaveableSection sec) :
    configNew (configSave (Lts.replay configStep configNewEmpty ops).2) =
      some (Lts.replay configStep configNewEmpty ops).2 := by
  have sane := sane_replay ops
  generalize (Lts.replay configStep configNewEmpty ops).2 = config at sane saveable ⊢
  have fit : ∀ line ∈ config.sections.flatMap sectionLines,
      '\n' ∉ line ∧ '\x00' ∉ line ∧ line.length + 1 ≤ 4095 := by
    intro line mem
    obtain ⟨sec, inConfig, inSection⟩ := List.mem_flatMap.1 mem
    exact sectionLines_fit (saveable sec inConfig) (sane.entries sec inConfig).2 line inSection
  -- the reads are the lines written, and their parse makes the calls that rebuild the config
  obtain ⟨sectionName, parsed⟩ :=
    foldlM_sections config.sections ⟨configNewEmpty, configDefaultSection⟩ saveable
  rw [configNew, configParse, configSave_of_no_nul fun line mem => (fit line mem).2.1, serialized,
    fgetsLines_lines _ fun line mem => ⟨(fit line mem).1, (fit line mem).2.2⟩, parsed,
    Option.map_some, setSections_sections sane fun sec mem => (saveable sec mem).nonempty]

/-- Two sections, a key set twice, and a key removed and set again. -/
theorem config_save_new_round_trip_two_sections :
    let ops : List ConfigOp :=
      [.setString "Adapter".toList "Address".toList "00:11:22:33:44:55".toList,
        .setString "Metrics".toList "Salt".toList "ab".toList,
        .setString "Adapter".toList "Name".toList "phone".toList,
        .setString "Adapter".toList "Address".toList "66:77:88:99:aa:bb".toList,
        .removeKey "Metrics".toList "Salt".toList,
        .setString "Metrics".toList "Salt".toList "cd".toList]
    (∀ sec ∈ (Lts.replay configStep configNewEmpty ops).2.sections, SaveableSection sec) ∧
      configNew (configSave (Lts.replay configStep configNewEmpty ops).2) =
        some (Lts.replay configStep configNewEmpty ops).2 := by
  intro ops
  have saveable : ∀ sec ∈ (Lts.replay configStep configNewEmpty ops).2.sections,
      SaveableSection sec := by decide
  exact ⟨saveable, config_save_new_round_trip ops saveable⟩

theorem trimmed_replicate (n : Nat) {c : Char} (notSpace : isSpace c = false) :
    Trimmed (List.replicate n c) := by
  constructor <;> cases n <;> simp [List.head?_replicate, List.getLast?_replicate, notSpace]

theorem foldlM_configParseLine_of_none {st : ParseState} {line : List Char}
    (failed : configParseLine st line = none) (lines : List (List Char)) :
    (line :: lines).foldlM configParseLine st = none := by
  simp [List.foldlM_cons, failed]

/-- A value of 4092 characters, in a config that meets every condition on names, keys and values
but the line length. Its line does not fit in the buffer: `fgets` reads its first 4095
characters, then its last character and the newline. That is a line without `=`, and the parse
fails. -/
theorem config_save_new_long_value :
    let c := (Lts.replay configStep configNewEmpty
      [.setString "A".toList "k".toList (List.replicate 4092 'a')]).2
    (∀ sec ∈ c.sections, sec.entries ≠ [] ∧ '\n' ∉ sec.name ∧
      ∀ entry ∈ sec.entries, PlainProperty entry.key entry.value ∧ '\n' ∉ entry.key) ∧
    configNew (configSave c) = none := by
  intro c
  -- the first 4091 characters of the value, kept apart so that no `simp` unfolds them
  obtain ⟨k, hk⟩ : ∃ k, k = 4091 := ⟨_, rfl⟩
  have split : List.replicate 4092 'a' = List.replicate k 'a' ++ ['a'] := by
    rw [hk]
    exact List.replicate_succ'
  have built : c = ⟨[⟨"A".toList, [⟨"k".toList, List.replicate k 'a' ++ ['a']⟩]⟩]⟩ := by
    show (Lts.replay configStep configNewEmpty _).2 = _
    rw [split]
    simp [configStep, configSetString, setInSections, setEntry, configNewEmpty]
  have notSpace : isSpace 'a' = false := by decide
  have plain : PlainProperty "k".toList (List.replicate k 'a' ++ ['a']) := by
    refine ⟨by decide, by decide, by decide, by decide, by decide, ?_⟩
    rw [← List.replicate_succ']
    exact trimmed_replicate _ notSpace
  refine ⟨?_, ?_⟩
  · rw [built]
    intro sec mem
    rw [List.mem_singleton] at mem
    subst mem
    refine ⟨List.cons_ne_nil _ _, by simp, fun entry mem => ?_⟩
    rw [List.mem_singleton] at mem
    subst mem
    exact ⟨plain, by simp⟩
  have noNul : '\x00' ∉ List.replicate k 'a' := by simp [List.mem_replicate]
  have text : configSave c = ('[' :: "A".toList ++ [']']) ++
      '\n' :: (("k".toList ++ " = ".toList ++ List.replicate k 'a') ++ ['a', '\n', '\n']) := by
    rw [built]
    rw [configSave_of_no_nul (by simp [sectionLines, noNul])]
    simp [serialized, sectionLines]
  -- the reads: the header, the first 4095 characters of the entry, the rest of it, the empty line
  have reads : CStr.fgetsLines 4096 [] (configSave c) =
      [('[' :: "A".toList ++ [']']) ++ ['\n'], "k".toList ++ " = ".toList ++ List.replicate k 'a',
        ['a', '\n'], ['\n']] := by
    rw [text, CStr.fgetsLines_line (by decide) _ (by decide),
      CStr.fgetsLines_full (by simp [List.mem_replicate]) (by simp) _ (by simp; omega)]
    rfl
  -- the first read of the entry sets the key to the first 4091 characters of the value
  have plainCut : PlainProperty "k".toList (List.replicate k 'a') := by
    exact ⟨by decide, by decide, by decide, by decide, by decide, trimmed_replicate _ notSpace⟩
  have entry := configParseLine_entry ⟨configNewEmpty, "A".toList⟩ (t := []) plainCut
    (by decide) noNul (by simp) (by simp)
  have cut : configParseLine
      ⟨configSetString configNewEmpty "A".toList "k".toList (List.replicate k 'a'), "A".toList⟩
      ['a', '\n'] = none :=
    configParseLine_of_no_separator _ (show (trim ['a', '\n']).head? = some 'a' by decide)
      (by decide) (by decide) (by decide)
  rw [List.append_nil] at entry
  rw [configNew, configParse, reads, foldlM_configParseLine_cons
    (configParseLine_header ⟨configNewEmpty, configDefaultSection⟩
      (show '\x00' ∉ "A".toList by decide))]
  dsimp only at entry ⊢
  rw [foldlM_configParseLine_cons entry, foldlM_configParseLine_of_none cut]
  rfl

end Osi

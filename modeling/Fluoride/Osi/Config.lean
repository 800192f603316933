import Fluoride.Lib.CStr
import Fluoride.Lib.Replay
import Fluoride.Storage.LegacyConfigFile

/-!
# The osi config file (`osi/src/config.cc`)

A `config_t` is a list of sections, each a name and a list of entries, each a key and a value.
`config_set_string` sets a key of a section. It adds the section at the back if the config has
no section of that name, and adds the key at the back of the section if the section has no such
key. It keeps a value up to its first newline. `config_remove_key` and `config_remove_section`
erase the first match.

`config_save` writes a `[name]` line per section, a `key = value` line per entry and an empty
line after each section, into a `std::stringstream`. It hands the stream to
`fprintf(fp, "%s", ...)`, which writes the text up to its first NUL character. `config_new`
reads a file with `config_parse`:
* `fgets` reads it into a buffer of 4096 characters (`CStr.fgetsLines`);
* `trim` cuts each read at its first NUL and strips the spaces at both ends;
* blank lines and lines starting with `#` are skipped;
* a line starting with `[` names the section of the lines after it;
* any other line is split at its first `=` and the trimmed halves go to `config_set_string`.
A parse that fails makes `config_new` return `nullptr` (`none`).

A character of the model is a `char` of the file. The file operations of `config_save` (the
temporary file, `fsync`, `rename`) are not modelled: the model is the text it writes.
-/

namespace Osi

/-- `entry_t`. -/
structure Entry where
  key : List Char
  value : List Char
  deriving DecidableEq, Repr

/-- `section_t`. -/
structure Section where
  name : List Char
  entries : List Entry
  deriving DecidableEq, Repr

/-- `config_t`. -/
structure Config where
  sections : List Section
  deriving DecidableEq, Repr

/-- `config_new_empty()`. -/
def configNewEmpty : Config := ⟨[]⟩

/-- `CONFIG_DEFAULT_SECTION`. -/
def configDefaultSection : List Char := "Global".toList

/-! ## Setting and removing -/

/-- The loop of `config_set_string` over a section's entries: the first entry of `key` gets
`value`, or an entry is added at the back. -/
def setEntry : List Entry → List Char → List Char → List Entry
  | [], key, value => [⟨key, value⟩]
  | entry :: entries, key, value =>
    if entry.key = key then ⟨entry.key, value⟩ :: entries else entry :: setEntry entries key value

/-- `section_find` and the section it finds, or a new one at the back, set. -/
def setInSections : List Section → List Char → List Char → List Char → List Section
  | [], sectionName, key, value => [⟨sectionName, setEntry [] key value⟩]
  | sec :: sections, sectionName, key, value =>
    if sec.name = sectionName then ⟨sec.name, setEntry sec.entries key value⟩ :: sections
    else sec :: setInSections sections sectionName key value

/-- `config_set_string(config, section, key, value)`. -/
def configSetString (config : Config) (sectionName key value : List Char) : Config :=
  -- `value.substr(0, newline_position)`
  let valueNoNewline := value.takeWhile (· ≠ '\n')
  ⟨setInSections config.sections sectionName key valueNoNewline⟩

/-- `config_remove_section(config, section)`. -/
def configRemoveSection (config : Config) (sectionName : List Char) : Bool × Config :=
  if config.sections.any (·.name = sectionName) then
    (true, ⟨config.sections.eraseP (·.name = sectionName)⟩)
  else (false, config)

/-- The loop of `config_remove_key` over a section's entries: the entries without the first
one of `key`, `none` when there is none. -/
def removeEntry : List Entry → List Char → Option (List Entry)
  | [], _ => none
  | entry :: entries, key =>
    if entry.key = key then some entries else (removeEntry entries key).map (entry :: ·)

/-- `section_find` and the key erased from the section it finds. -/
def removeKeyInSections : List Section → List Char → List Char → Option (List Section)
  | [], _, _ => none
  | sec :: sections, sectionName, key =>
    if sec.name = sectionName then
      (removeEntry sec.entries key).map fun entries => ⟨sec.name, entries⟩ :: sections
    else (removeKeyInSections sections sectionName key).map (sec :: ·)

/-- `config_remove_key(config, section, key)`. -/
def configRemoveKey (config : Config) (sectionName key : List Char) : Bool × Config :=
  match removeKeyInSections config.sections sectionName key with
  | none => (false, config)
  | some sections => (true, ⟨sections⟩)

/-- The calls that build a config. -/
inductive ConfigOp
  | setString (sectionName key value : List Char)
  | removeKey (sectionName key : List Char)
  | removeSection (sectionName : List Char)
  deriving DecidableEq, Repr

/-- A call and what it returns; `config_set_string` returns nothing, here `true`. -/
def configStep (config : Config) : ConfigOp → Bool × Config
  | .setString sectionName key value => (true, configSetString config sectionName key value)
  | .removeKey sectionName key => configRemoveKey config sectionName key
  | .removeSection sectionName => configRemoveSection config sectionName

/-! ## Writing -/

/-- The lines `config_save` writes for a section, each ended by `std::endl`. -/
def sectionLines (sec : Section) : List (List Char) :=
  ('[' :: sec.name ++ [']']) :: sec.entries.map (fun entry => entry.key ++ " = ".toList ++ entry.value) ++ [[]]

/-- `serialized.str()`. -/
def serialized (config : Config) : List Char :=
  (config.sections.flatMap sectionLines).flatMap fun line => line ++ ['\n']

/-- `config_save(config, filename)`: the text of the file, what `fprintf` writes of `%s`. -/
def configSave (config : Config) : List Char := (serialized config).takeWhile (· ≠ '\x00')

/-! ## Reading -/

/-- `trim(str)` on the C string of a buffer: up to its first NUL, spaces stripped from both
ends. -/
def trim (line : List Char) : List Char := Storage.stringTrim (line.takeWhile (· ≠ '\x00'))

/-- What `config_parse` carries from line to line. -/
structure ParseState where
  config : Config
  sectionName : List Char

/-- One turn of the loop of `config_parse`; `none` where it returns `false`. -/
def configParseLine (st : ParseState) (line : List Char) : Option ParseState :=
  let line := trim line
  match line.head? with
  | none => some st
  | some front =>
    if front = '#' then some st
    else if front = '[' then
      -- "unterminated section name"
      if line.getLast? ≠ some ']' then none
      else some { st with sectionName := (line.drop 1).take (line.length - 2) }
    else
      -- `strchr(line_ptr, '=')`
      match line.span (· ≠ '=') with
      | (_, []) => none
      | (key, _ :: value) =>
        some { st with config := configSetString st.config st.sectionName (trim key) (trim value) }

/-- `config_parse(fp, config)` on a file holding `text`. -/
def configParse (config : Config) (text : List Char) : Option Config :=
  ((CStr.fgetsLines 4096 [] text).foldlM configParseLine ⟨config, configDefaultSection⟩).map
    (·.config)

/-- `config_new(filename)` of a file holding `text`. -/
def configNew (text : List Char) : Option Config := configParse configNewEmpty text

end Osi

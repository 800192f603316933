import Fluoride.Storage.ConfigCache
import Mathlib.Data.List.TakeWhile

/-!
# The legacy config file (`storage/legacy_config_file.cc`, `common/strings.cc`)

`ConfigCache::SerializeToLegacyFormat` writes the information sections and then the persistent
devices as text: a `[section]` header, a `property = value` line per property and a blank
line. `LegacyConfigFile::Read` reads a text back, line by line, into a new cache whose
persistent set is `Device::kLinkKeyProperties`: each line is trimmed, blank lines and lines
starting with `#` or a NUL character are skipped, a header names the section of the lines after
it, and any other line is split at its first `=` and given to `SetProperty`.

The file is its text: `std::getline` cuts it at the newlines. A `std::nullopt` of `Read` is an
error naming the line its warning names; an assertion that fails (of `SetProperty`, or of
`StringSplit` on an empty delimiter) aborts the process, an error of its own.

The bricks, in the order the round trip uses them: `getLines_flatMap` (the lines written are the
lines read), `stringTrim_pad` (trimming strips spaces around a trimmed text), `stringSplit_first`
(a split in two at the first separator), and the three line kinds of a written section:
`readLine_header`, `readLine_property`, `readLine_blank`.
-/

namespace Storage

open CStr (isSpace)

/-! ## `common/strings.cc` -/

/-- `StringTrim`: the spaces at the front erased, then those at the back. -/
def stringTrim (str : List Char) : List Char :=
  ((str.dropWhile isSpace).reverse.dropWhile isSpace).reverse

/-- The loop of `StringSplit` as one pass over the text. `token` is the token being read and
`skip` the characters of a delimiter still to pass over; a delimiter found at the front ends the
token while fewer than `maxToken - 1` tokens are out (or always, for a `maxToken` of zero), and
what is left at the end is the last token. -/
def stringSplitAux (delim : List Char) (maxToken : Nat) (tokens : List (List Char))
    (token : List Char) (skip : Nat) : List Char → List (List Char)
  | [] => tokens ++ [token]
  | c :: rest =>
    if 0 < skip then stringSplitAux delim maxToken tokens token (skip - 1) rest
    else if (maxToken = 0 ∨ tokens.length < maxToken - 1) ∧ delim.isPrefixOf (c :: rest) then
      stringSplitAux delim maxToken (tokens ++ [token]) [] (delim.length - 1) rest
    else stringSplitAux delim maxToken tokens (token ++ [c]) 0 rest

/-- `StringSplit`; `none` where its assertion fails, on an empty delimiter. -/
def stringSplit (str delim : List Char) (maxToken : Nat) : Option (List (List Char)) :=
  if delim = [] then none else some (stringSplitAux delim maxToken [] [] 0 str)

/-- `std::getline` read to the end of a text: each line ends at a newline, which is dropped,
and a last line without one is read too. -/
def getLinesAux (line : List Char) : List Char → List (List Char)
  | [] => if line = [] then [] else [line]
  | c :: rest => if c = '\n' then line :: getLinesAux [] rest else getLinesAux (line ++ [c]) rest

def getLines (text : List Char) : List (List Char) := getLinesAux [] text

/-! ## Writing -/

namespace ConfigCache

/-- `ConfigCache::kDefaultSectionName`. -/
def defaultSectionName : List Char := "Global".toList

/-- The lines `SerializeToLegacyFormat` writes for one section. -/
def legacySectionLines (sectionName : List Char) (props : Properties) : List (List Char) :=
  ('[' :: sectionName ++ [']']) ::
    (props.entries.map fun e => e.1 ++ " = ".toList ++ e.2) ++ [[]]

/-- `SerializeToLegacyFormat`: the information sections, then the persistent devices, each line
ended by `std::endl`. The temporary devices are not written. -/
def serializeToLegacyFormat (c : ConfigCache) : List Char :=
  (([c.informationSections, c.persistentDevices].flatMap fun sections =>
      sections.entries.flatMap fun e => legacySectionLines e.1 e.2).flatMap
    fun line => line ++ ['\n'])

end ConfigCache

/-! ## Reading -/

inductive ReadError
  /-- "unterminated section name on line": a header without its closing bracket. -/
  | unterminatedSectionName (lineNum : Nat)
  /-- "no key/value separator found on line". -/
  | noKeyValueSeparator (lineNum : Nat)
  /-- An assertion fails and the process aborts. -/
  | assertionFailed
  deriving DecidableEq, Repr

/-- What `Read` carries from line to line. -/
structure ReadState where
  cache : ConfigCache
  sectionName : List Char
  lineNum : Nat

namespace LegacyConfigFile

/-- One turn of the loop of `Read`. -/
def readLine (st : ReadState) (line : List Char) : Except ReadError ReadState :=
  let lineNum := st.lineNum + 1
  let line := stringTrim line
  match line.head? with
  | none => .ok { st with lineNum := lineNum }
  | some front =>
    if front = '\x00' ∨ front = '#' then .ok { st with lineNum := lineNum }
    else if front = '[' then
      if line.getLast? ≠ some ']' then .error (.unterminatedSectionName lineNum)
      -- the name between the brackets
      else .ok { st with lineNum := lineNum, sectionName := (line.drop 1).take (line.length - 2) }
    else
      match stringSplit line "=".toList 2 with
      | none => .error .assertionFailed
      | some [property, value] =>
        match st.cache.setProperty st.sectionName (stringTrim property) (stringTrim value) with
        | some cache => .ok { st with cache := cache, lineNum := lineNum }
        | none => .error .assertionFailed
      | some _ => .error (.noKeyValueSeparator lineNum)

/-- `LegacyConfigFile::Read` of a file holding `text`. -/
def read (text : List Char) (tempDevicesCapacity : Nat) (capacity_pos : 0 < tempDevicesCapacity) :
    Except ReadError ConfigCache := do
  let st ← (getLines text).foldlM readLine
    ⟨.new tempDevicesCapacity capacity_pos linkKeyProperties, ConfigCache.defaultSectionName, 0⟩
  return st.cache

end LegacyConfigFile

/-! ## Lines -/

theorem getLinesAux_append {line l : List Char} (oneLine : '\n' ∉ l) (rest : List Char) :
    getLinesAux line (l ++ '\n' :: rest) = (line ++ l) :: getLinesAux [] rest := by
  induction l generalizing line with
  | nil => simp [getLinesAux]
  | cons c l ih =>
    have notNewline : c ≠ '\n' := fun same => oneLine (same ▸ List.mem_cons_self)
    rw [List.cons_append, getLinesAux, if_neg notNewline, ih (fun mem => oneLine
      (List.mem_cons_of_mem c mem)), List.append_assoc, List.singleton_append]

/-- The lines of a text written line by line are the lines written. -/
theorem getLines_flatMap {lines : List (List Char)} (oneLine : ∀ l ∈ lines, '\n' ∉ l) :
    getLines (lines.flatMap fun line => line ++ ['\n']) = lines := by
  induction lines with
  | nil => rfl
  | cons l lines ih =>
    have rest := ih fun l' mem => oneLine l' (List.mem_cons_of_mem l mem)
    rw [List.flatMap_cons, List.append_assoc, List.singleton_append, getLines,
      getLinesAux_append (oneLine l List.mem_cons_self), List.nil_append]
    exact congrArg (l :: ·) rest

/-! ## Trimming -/

/-- No space at either end: what `StringTrim` keeps as it is. -/
def Trimmed (s : List Char) : Prop :=
  s.head?.all (fun c => !isSpace c) ∧ s.getLast?.all (fun c => !isSpace c)

instance (s : List Char) : Decidable (Trimmed s) := inferInstanceAs (Decidable (_ ∧ _))

theorem dropWhile_isSpace_of_head {s : List Char} (h : s.head?.all (fun c => !isSpace c)) :
    s.dropWhile isSpace = s := by
  cases s with
  | nil => rfl
  | cons c s =>
    apply List.dropWhile_cons_of_neg
    simpa using h

/-- Trimming strips spaces, and only spaces, from around a trimmed text. -/
theorem stringTrim_pad (t s t' : List Char) (spaces : ∀ c ∈ t, isSpace c)
    (spaces' : ∀ c ∈ t', isSpace c) (trimmed : Trimmed s) : stringTrim (t ++ s ++ t') = s := by
  rw [stringTrim, List.append_assoc, List.dropWhile_append_of_pos spaces]
  cases s with
  | nil =>
    rw [List.nil_append, List.dropWhile_eq_nil_iff.2 spaces']
    rfl
  | cons c s =>
    have front : ((c :: s) ++ t').dropWhile isSpace = (c :: s) ++ t' :=
      dropWhile_isSpace_of_head (by simpa using trimmed.1)
    have back : (c :: s).reverse.head?.all (fun c => !isSpace c) := by
      rw [List.head?_reverse]
      exact trimmed.2
    rw [front, List.reverse_append, List.dropWhile_append_of_pos (by simpa using spaces'),
      dropWhile_isSpace_of_head back, List.reverse_reverse]

theorem stringTrim_of_trimmed {s : List Char} (trimmed : Trimmed s) : stringTrim s = s := by
  simpa using stringTrim_pad [] s [] (by simp) (by simp) trimmed

/-! ## Splitting -/

/-- Once no more tokens may be cut, the rest of the text is the last token. -/
theorem stringSplitAux_full {delim : List Char} {maxToken : Nat} {tokens : List (List Char)}
    (full : ¬(maxToken = 0 ∨ tokens.length < maxToken - 1)) (token rest : List Char) :
    stringSplitAux delim maxToken tokens token 0 rest = tokens ++ [token ++ rest] := by
  induction rest generalizing token with
  | nil => simp [stringSplitAux]
  | cons c rest ih =>
    rw [stringSplitAux, if_neg (Nat.lt_irrefl 0), if_neg fun cut => full cut.1, ih,
      List.append_assoc, List.singleton_append]

/-- A split in two at a one-character separator cuts at its first occurrence. -/
theorem stringSplit_first {d : Char} {a : List Char} (notSeparator : d ∉ a) (b : List Char) :
    stringSplit (a ++ d :: b) [d] 2 = some [a, b] := by
  -- the first token is read up to the separator, the second is all that follows
  have reading : ∀ token, stringSplitAux [d] 2 [] token 0 (a ++ d :: b) = [token ++ a, b] := by
    induction a with
    | nil =>
      intro token
      have cut : (2 = 0 ∨ ([] : List (List Char)).length < 2 - 1) ∧
          [d].isPrefixOf (d :: b) = true := ⟨.inr (by decide), by simp⟩
      rw [List.nil_append, stringSplitAux, if_neg (Nat.lt_irrefl 0), if_pos cut]
      show stringSplitAux [d] 2 [token] [] 0 b = [token ++ [], b]
      rw [stringSplitAux_full (by simp)]
      simp
    | cons c a ih =>
      intro token
      have other : c ≠ d := fun same => notSeparator (same ▸ List.mem_cons_self)
      have noCut : ¬((2 = 0 ∨ ([] : List (List Char)).length < 2 - 1) ∧
          [d].isPrefixOf (c :: (a ++ d :: b)) = true) := by
        simp [Ne.symm other]
      rw [List.cons_append, stringSplitAux, if_neg (Nat.lt_irrefl 0), if_neg noCut,
        ih fun mem => notSeparator (List.mem_cons_of_mem c mem), List.append_assoc,
        List.singleton_append]
  rw [stringSplit, if_neg (List.cons_ne_nil d []), reading, List.nil_append]

/-! ## The lines of a written section -/

namespace LegacyConfigFile

theorem readLine_blank (st : ReadState) :
    readLine st [] = .ok { st with lineNum := st.lineNum + 1 } := rfl

theorem readLine_header (st : ReadState) (sectionName : List Char) :
    readLine st ('[' :: sectionName ++ [']']) =
      .ok { st with lineNum := st.lineNum + 1, sectionName := sectionName } := by
  have trimmed : Trimmed ('[' :: sectionName ++ [']']) := by
    refine ⟨rfl, ?_⟩
    rw [List.getLast?_append, List.getLast?_singleton]
    rfl
  have name : (('[' :: sectionName ++ [']']).drop 1).take
      (('[' :: sectionName ++ [']']).length - 2) = sectionName := by
    simp
  unfold readLine
  simp only [stringTrim_of_trimmed trimmed, List.getLast?_append,
    List.getLast?_singleton, Option.some_or, ne_eq, not_true_eq_false, if_false, name]
  rfl

/-- A property line whose property and value `Read` gives back as they are: the property is
not empty, has no `=` and no space at either end, and does not start like a comment or a header;
the value has no space at either end. -/
structure PlainProperty (property value : List Char) : Prop where
  trimmed : Trimmed property
  nonempty : property ≠ []
  noSeparator : '=' ∉ property
  notComment : property.head? ≠ some '#'
  notHeader : property.head? ≠ some '['
  valueTrimmed : Trimmed value

instance (property value : List Char) : Decidable (PlainProperty property value) :=
  decidable_of_iff (Trimmed property ∧ property ≠ [] ∧ '=' ∉ property ∧
      property.head? ≠ some '#' ∧ property.head? ≠ some '[' ∧ Trimmed value)
    ⟨fun h => ⟨h.1, h.2.1, h.2.2.1, h.2.2.2.1, h.2.2.2.2.1, h.2.2.2.2.2⟩,
      fun h => ⟨h.1, h.2, h.3, h.4, h.5, h.6⟩⟩

theorem separator_toList : " = ".toList = [' ', '=', ' '] := by decide

theorem equals_toList : "=".toList = ['='] := by decide

/-- A written property line, trimmed, is the property, a space, `=`, and a text that trims to
the value: the line itself, or its last space gone with an empty value. -/
theorem stringTrim_propertyLine {property value : List Char}
    (plain : PlainProperty property value) :
    ∃ r, stringTrim (property ++ " = ".toList ++ value) = property ++ ' ' :: '=' :: r ∧
      stringTrim r = value := by
  have space : ∀ c ∈ [' '], isSpace c := by simp [isSpace]
  cases value with
  | nil =>
    refine ⟨[], ?_, rfl⟩
    have trimmed : Trimmed (property ++ [' ', '=']) := by
      refine ⟨?_, by simp [isSpace]⟩
      obtain ⟨c, rest, rfl⟩ := List.exists_cons_of_ne_nil plain.nonempty
      exact plain.trimmed.1
    have padded := stringTrim_pad [] _ [' '] (by simp) space trimmed
    simpa [separator_toList] using padded
  | cons c value =>
    refine ⟨' ' :: c :: value, ?_, ?_⟩
    · have trimmed : Trimmed (property ++ " = ".toList ++ c :: value) := by
        obtain ⟨d, rest, rfl⟩ := List.exists_cons_of_ne_nil plain.nonempty
        refine ⟨plain.trimmed.1, ?_⟩
        rw [List.getLast?_append_of_ne_nil _ (List.cons_ne_nil c value)]
        exact plain.valueTrimmed.2
      rw [stringTrim_of_trimmed trimmed, separator_toList]
      simp
    · simpa using stringTrim_pad [' '] _ [] space (by simp) plain.valueTrimmed

/-- A plain property line sets its property in the current section. -/
theorem readLine_property {st : ReadState} {property value : List Char}
    (plain : PlainProperty property value) (notNul : property.head? ≠ some '\x00')
    {cache : ConfigCache} (set : st.cache.setProperty st.sectionName property value = some cache) :
    readLine st (property ++ " = ".toList ++ value) =
      .ok { st with cache := cache, lineNum := st.lineNum + 1 } := by
  obtain ⟨r, trimmedLine, trimmedValue⟩ := stringTrim_propertyLine plain
  obtain ⟨front, rest, named⟩ := List.exists_cons_of_ne_nil plain.nonempty
  have split : stringSplit (property ++ ' ' :: '=' :: r) "=".toList 2 =
      some [property ++ [' '], r] := by
    have first := stringSplit_first (d := '=') (a := property ++ [' '])
      (by simpa [List.mem_append] using plain.noSeparator) r
    simpa [equals_toList] using first
  have trimmedProperty : stringTrim (property ++ [' ']) = property := by
    simpa using stringTrim_pad [] _ [' '] (by simp) (by simp [isSpace]) plain.trimmed
  have notNul' : front ≠ '\x00' := by simpa [named] using notNul
  have notComment : front ≠ '#' := by simpa [named] using plain.notComment
  have notHeader : front ≠ '[' := by simpa [named] using plain.notHeader
  unfold readLine
  simp only [trimmedLine, split, trimmedProperty, trimmedValue, set]
  rw [named]
  simp [notNul', notComment, notHeader]

end LegacyConfigFile

end Storage

import Mathlib.Data.UInt
import Mathlib.Data.List.GetD
import Fluoride.Lib.KeyedSet
import Fluoride.Lib.Cursor
import Fluoride.Lib.Suffix

/-!
# LE Audio — LTV maps (`bta/le_audio/le_audio_types.cc`)

A `LeAudioLtvMap` is a `std::map` from an LTV type octet to its value bytes. `RawPacket`
writes each entry as a length octet (the value's size plus one for the type octet), the type
and the value; `Parse` reads such a buffer back, skipping zero length octets and keeping the
first value of a type (`std::map::emplace`); `GetIntersection` keeps the entries of one map
that the other has with the same value.

The value hash and the lazily parsed views are caches of the map and are not modelled. The
`std::map` is a `KeyedSet` ordered by the type's value; `Parse`'s pointer walk is a
`Cursor.cursorLoop` over offsets into the buffer.

Results: the grammar `Parse` accepts (`parse_succeeds_iff`), what it maps each type to
(`find_parse`), that it reads nothing past the buffer (`parse_append`), the round trip of
`RawPacket` (`parse_rawPacket`), and that `GetIntersection` dereferences an empty
`std::optional` exactly when the other map lacks one of the types (`getIntersection_eq_none_iff`).
-/

namespace LeAudio

/-- An entry of the map: the type and its value. -/
abbrev LtvEntry := UInt8 × List UInt8

/-- The key `std::map<uint8_t, ...>` orders its entries by. -/
def ltvKey (entry : LtvEntry) : Nat := entry.1.toNat

/-- `LeAudioLtvMap`: its `values`. -/
structure LeAudioLtvMap where
  values : KeyedSet ltvKey

namespace LeAudioLtvMap

def empty : LeAudioLtvMap := ⟨KeyedSet.empty⟩

/-- `Find`: the value of the type, `std::nullopt` when it has none. -/
def find (m : LeAudioLtvMap) (type : UInt8) : Option (List UInt8) :=
  (m.values.find? type.toNat).map Prod.snd

/-- `Add(type, value)`: `insert_or_assign`. -/
def add (m : LeAudioLtvMap) (type : UInt8) (value : List UInt8) : LeAudioLtvMap :=
  ⟨m.values.insertOrAssign (type, value)⟩

/-- `values.emplace(type, value)`: a type already present keeps its value. -/
def emplace (m : LeAudioLtvMap) (entry : LtvEntry) : LeAudioLtvMap :=
  ⟨m.values.insert entry⟩

/-- `RawPacket`: each entry as its length octet, its type and its value. -/
def rawPacket (m : LeAudioLtvMap) : List UInt8 :=
  m.values.toList.flatMap fun entry => (entry.2.length + 1).toUInt8 :: entry.1 :: entry.2

/-- `RawPacketSize`. -/
def rawPacketSize (m : LeAudioLtvMap) : Nat :=
  (m.values.toList.map fun entry => 2 + entry.2.length).sum

/-- One entry of `Parse`'s loop, from its length octet at offset `p`. -/
def parseEntry (pValue : List UInt8) (pValueEnd : Nat) (p : Nat) (m : LeAudioLtvMap) :
    Cursor.Advance LeAudioLtvMap p :=
  let ltvLen := (pValue.getD p 0).toNat
  -- "Unusual, but possible case"
  if ltvLen = 0 then (m, some ⟨p + 1, Nat.lt_succ_self p⟩)
  -- "Invalid ltv_len"
  else if pValueEnd < p + 1 + ltvLen then (m, none)
  else
    let ltvType := pValue.getD (p + 1) 0
    let ltvValue := (pValue.drop (p + 2)).take (ltvLen - 1)
    (m.emplace (ltvType, ltvValue), some ⟨p + 1 + ltvLen, by omega⟩)

/-- `LeAudioLtvMap::Parse(p_value, len, success)`: the map and `success`. -/
def parse (pValue : List UInt8) (len : UInt8) : LeAudioLtvMap × Bool :=
  if len.toNat > 0 then
    let loop := Cursor.cursorLoop (parseEntry pValue len.toNat) len.toNat 0 empty
    (loop.1, loop.2.isSome)
  else (empty, true)

/-- One entry of `GetIntersection`'s loop; `none` where `entry->size()` dereferences the
`std::nullopt` that `Find` returns for a type the other map lacks. -/
def intersectEntry (other result : LeAudioLtvMap) (entry : LtvEntry) :
    Option LeAudioLtvMap :=
  match other.find entry.1 with
  | none => none
  | some found =>
    if found.length ≠ entry.2.length then some result
    -- `memcmp` over the value's bytes
    else if found = entry.2 then some (result.add entry.1 entry.2)
    else some result

/-- `GetIntersection`. -/
def getIntersection (m other : LeAudioLtvMap) : Option LeAudioLtvMap :=
  m.values.toList.foldlM (intersectEntry other) empty

/-! ## Lookup -/

theorem find_eq (m : LeAudioLtvMap) (type : UInt8) :
    m.find type = (m.values.toList.find? fun entry => entry.1 = type).map Prod.snd := by
  unfold find KeyedSet.find?
  congr 2
  funext entry
  simp [ltvKey, UInt8.toNat_inj]

/-- The entry of a type is determined by its value. -/
theorem values_find?_eq (m : LeAudioLtvMap) (type : UInt8) :
    m.values.find? type.toNat = (m.find type).map fun value => (type, value) := by
  unfold find
  cases found : m.values.find? type.toNat with
  | none => rfl
  | some entry =>
    obtain ⟨-, key⟩ := KeyedSet.find?_eq_some_iff.mp found
    have same : entry.1 = type := UInt8.toNat_inj.mp key
    rw [Option.map_some, Option.map_some, ← same]

/-- No entry has a key past the octet's range. -/
theorem values_find?_of_le (m : LeAudioLtvMap) {k : Nat} (large : 256 ≤ k) :
    m.values.find? k = none := by
  cases found : m.values.find? k with
  | none => rfl
  | some entry =>
    obtain ⟨-, key⟩ := KeyedSet.find?_eq_some_iff.mp found
    have := entry.1.toNat_lt
    simp only [ltvKey] at key
    omega

/-- Two maps that report the same value for every type are equal. -/
theorem ext_find {m m' : LeAudioLtvMap} (h : ∀ type, m.find type = m'.find type) :
    m = m' := by
  have values : m.values = m'.values := KeyedSet.ext_find? fun k => by
    by_cases small : k < 256
    · obtain ⟨type, rfl⟩ : ∃ type : UInt8, type.toNat = k := ⟨k.toUInt8, by simp; omega⟩
      rw [values_find?_eq, values_find?_eq, h]
    · rw [values_find?_of_le m (by omega), values_find?_of_le m' (by omega)]
  cases m
  cases m'
  congr

theorem find_empty (type : UInt8) : empty.find type = none := rfl

theorem values_foldl_emplace (es : List LtvEntry) (m : LeAudioLtvMap) :
    (es.foldl emplace m).values = es.foldl KeyedSet.insert m.values := by
  induction es generalizing m with
  | nil => rfl
  | cons e es ih => exact ih (m.emplace e)

/-- After a run of `emplace`s a type reports its value before, or else its first value in
the run. -/
theorem find_foldl_emplace (es : List LtvEntry) (m : LeAudioLtvMap) (type : UInt8) :
    (es.foldl emplace m).find type =
      (m.find type).or ((es.find? fun entry => entry.1 = type).map Prod.snd) := by
  have byType : (es.find? fun entry => ltvKey entry = type.toNat) =
      es.find? fun entry => entry.1 = type := by
    congr 1
    funext entry
    simp [ltvKey, UInt8.toNat_inj]
  unfold find
  rw [values_foldl_emplace, KeyedSet.find?_foldl_insert, Option.map_or, byType]

/-! ## The buffers `Parse` accepts -/

/-- A buffer made of LTV entries, with the entries it holds in order: a zero length octet is
skipped, and a length octet `L ≥ 1` is followed by the type and `L - 1` value octets. -/
inductive LtvEntries : List UInt8 → List LtvEntry → Prop
  | nil : LtvEntries [] []
  | skip {rest : List UInt8} {es : List LtvEntry} : LtvEntries rest es → LtvEntries (0 :: rest) es
  | entry {rest : List UInt8} {es : List LtvEntry} (type : UInt8) (value : List UInt8)
      (short : value.length < 255) (tail : LtvEntries rest es) :
      LtvEntries ((value.length + 1).toUInt8 :: type :: value ++ rest) ((type, value) :: es)

theorem ltvEntries_nil_iff {es : List LtvEntry} : LtvEntries [] es ↔ es = [] := by
  constructor
  · rintro ⟨⟩
    rfl
  · rintro rfl
    exact .nil

section Loop

variable (b : List UInt8)

/-- `Parse`'s steps only read octets before the end they are given. -/
theorem parseEntry_append (junk : List UInt8) {pEnd : Nat} (within : pEnd ≤ b.length)
    (p : Nat) (m : LeAudioLtvMap) (h : p < pEnd) :
    parseEntry (b ++ junk) pEnd p m = parseEntry b pEnd p m := by
  have first : (b ++ junk).getD p 0 = b.getD p 0 := List.getD_append _ _ _ _ (by omega)
  unfold parseEntry
  simp only [first]
  split_ifs with zero long
  · rfl
  · rfl
  -- the type and the value lie before `pEnd`
  have type : (b ++ junk).getD (p + 1) 0 = b.getD (p + 1) 0 :=
    List.getD_append _ _ _ _ (by omega)
  have value : ((b ++ junk).drop (p + 2)).take ((b.getD p 0).toNat - 1) =
      (b.drop (p + 2)).take ((b.getD p 0).toNat - 1) := by
    have inside : (b.getD p 0).toNat - 1 ≤ (b.drop (p + 2)).length := by
      rw [List.length_drop]
      omega
    rw [List.drop_append_of_le_length (by omega), List.take_append_of_le_length inside]
  rw [type, value]

/-- The offset of an entry: its length octet, then its type and value, then the rest. -/
theorem drop_eq_entry (p : Nat) (pos : 0 < (b.getD p 0).toNat)
    (within : p + 1 + (b.getD p 0).toNat ≤ b.length) :
    let value := (b.drop (p + 2)).take ((b.getD p 0).toNat - 1)
    value.length < 255 ∧ b.drop p =
      (value.length + 1).toUInt8 :: b.getD (p + 1) 0 :: value ++
        b.drop (p + 1 + (b.getD p 0).toNat) := by
  intro value
  have len : value.length = (b.getD p 0).toNat - 1 := by
    simp only [value, List.length_take, List.length_drop]
    omega
  have lenByte : (value.length + 1).toUInt8 = b.getD p 0 := by
    rw [len, Nat.sub_add_cancel pos, Nat.toUInt8_eq, UInt8.ofNat_toNat]
  have bound := (b.getD p 0).toNat_lt
  refine ⟨by omega, ?_⟩
  have whole : value ++ b.drop (p + 1 + (b.getD p 0).toNat) = b.drop (p + 2) := by
    have rest : (b.drop (p + 2)).drop ((b.getD p 0).toNat - 1) =
        b.drop (p + 1 + (b.getD p 0).toNat) := by
      rw [List.drop_drop]
      congr 1
      omega
    rw [← rest]
    exact List.take_append_drop _ _
  rw [lenByte, List.cons_append, List.cons_append, whole, List.getD_eq_getElem b 0 (by omega),
    List.getD_eq_getElem b 0 (by omega), List.drop_eq_getElem_cons (by omega),
    List.drop_eq_getElem_cons (by omega)]

/-- A loop that succeeds has read a buffer of entries from where it started. -/
theorem ltvEntries_of_cursorLoop :
    ∀ p m, (Cursor.cursorLoop (parseEntry b b.length) b.length p m).2.isSome = true →
      ∃ es, LtvEntries (b.drop p) es := by
  intro p m
  induction p, m using Cursor.cursorLoop.induct (parseEntry b b.length) b.length with
  | case1 p m h m' fail =>
    rw [Cursor.cursorLoop_of_fail h fail]
    intro failed
    cases failed
  | case2 p m h m' q hq next ih =>
    intro ok
    rw [← Option.isSome_map (f := Subtype.val), (Cursor.cursorLoop_of_next h next).2,
      Option.isSome_map] at ok
    obtain ⟨es, tail⟩ := ih ok
    unfold parseEntry at next
    dsimp only at next
    split_ifs at next with zero long
    · -- a zero length octet, skipped
      simp only [Prod.mk.injEq, Option.some.injEq, Subtype.mk.injEq] at next
      obtain ⟨-, rfl⟩ := next
      have byte : b.getD p 0 = 0 := UInt8.toNat_inj.mp zero
      refine ⟨es, ?_⟩
      rw [List.drop_eq_getElem_cons h, ← List.getD_eq_getElem b 0 h, byte]
      exact .skip tail
    · cases next
    · -- an entry, up to the offset the loop went on from
      simp only [Prod.mk.injEq, Option.some.injEq, Subtype.mk.injEq] at next
      obtain ⟨-, rfl⟩ := next
      obtain ⟨short, bytes⟩ := drop_eq_entry b p (by omega) (by omega)
      rw [bytes]
      exact ⟨_, .entry _ _ short tail⟩
  | case3 p m h =>
    intro _
    refine ⟨[], ?_⟩
    rw [List.drop_eq_nil_of_le (by omega)]
    exact .nil

/-- A loop started at a buffer of entries reads them all, `emplace`s each and succeeds. -/
theorem cursorLoop_of_ltvEntries {bytes : List UInt8} {es : List LtvEntry}
    (entries : LtvEntries bytes es) :
    ∀ p m, b.drop p = bytes →
      (Cursor.cursorLoop (parseEntry b b.length) b.length p m).1 = es.foldl emplace m ∧
        (Cursor.cursorLoop (parseEntry b b.length) b.length p m).2.isSome = true := by
  induction entries with
  | nil =>
    intro p m atEnd
    rw [Cursor.cursorLoop_of_le (List.drop_eq_nil_iff.mp atEnd)]
    exact ⟨rfl, rfl⟩
  | @skip rest es tail ih =>
    intro p m atZero
    have inside : p < b.length := by
      have := Suffix.le_length_of_drop_eq (S := [0]) atZero (List.cons_ne_nil _ _)
      rw [List.length_singleton] at this
      omega
    have next : parseEntry b b.length p m = (m, some ⟨p + 1, Nat.lt_succ_self p⟩) := by
      unfold parseEntry
      simp only [Suffix.getD_of_drop_eq_cons atZero]
      rfl
    have step := Cursor.cursorLoop_of_next inside next
    obtain ⟨map, ok⟩ := ih (p + 1) m (Suffix.drop_succ_of_drop_eq_cons atZero)
    refine ⟨step.1.trans map, ?_⟩
    rw [← Option.isSome_map (f := Subtype.val), step.2, Option.isSome_map]
    exact ok
  | @entry rest es type value short tail ih =>
    intro p m atEntry
    rw [List.cons_append, List.cons_append] at atEntry
    have lenByte : ((value.length + 1).toUInt8).toNat = value.length + 1 := by
      simp only [Nat.toUInt8_eq, UInt8.toNat_ofNat']
      omega
    have first : b.getD p 0 = (value.length + 1).toUInt8 := Suffix.getD_of_drop_eq_cons atEntry
    have atType := Suffix.drop_succ_of_drop_eq_cons atEntry
    have second : b.getD (p + 1) 0 = type := Suffix.getD_of_drop_eq_cons atType
    have atValue := Suffix.drop_succ_of_drop_eq_cons atType
    have atRest : b.drop (p + 1 + (value.length + 1)) = rest := by
      rw [show p + 1 + (value.length + 1) = p + 1 + 1 + value.length by omega]
      exact Suffix.drop_add_of_drop_eq atValue
    have within : p + 1 + (value.length + 1) ≤ b.length := by
      have := congrArg List.length atValue
      have := Suffix.add_two_le_of_drop_eq_cons atEntry
      simp only [List.length_drop, List.length_append] at *
      omega
    have next : parseEntry b b.length p m =
        (m.emplace (type, value), some ⟨p + 1 + (value.length + 1), by omega⟩) := by
      unfold parseEntry
      simp only [first, lenByte, second, atValue, Nat.add_sub_cancel, List.take_left']
      rw [if_neg (by omega), if_neg (by omega)]
    have step := Cursor.cursorLoop_of_next (show p < b.length by omega) next
    obtain ⟨map, ok⟩ := ih _ (m.emplace (type, value)) atRest
    refine ⟨step.1.trans map, ?_⟩
    rw [← Option.isSome_map (f := Subtype.val), step.2, Option.isSome_map]
    exact ok

end Loop

/-! ## `Parse` and `RawPacket` -/

theorem toNat_length_toUInt8 {b : List UInt8} (short : b.length ≤ 255) :
    b.length.toUInt8.toNat = b.length := by
  simp only [Nat.toUInt8_eq, UInt8.toNat_ofNat']
  omega

/-- **What `Parse` accepts**: a buffer of entries, read to its end. -/
theorem parse_succeeds_iff (b : List UInt8) (short : b.length ≤ 255) :
    (parse b b.length.toUInt8).2 = true ↔ ∃ es, LtvEntries b es := by
  unfold parse
  rw [toNat_length_toUInt8 short]
  by_cases nonempty : b.length > 0
  · rw [if_pos nonempty]
    constructor
    · intro ok
      simpa using ltvEntries_of_cursorLoop b 0 empty ok
    · rintro ⟨es, entries⟩
      exact (cursorLoop_of_ltvEntries b entries 0 empty List.drop_zero).2
  · rw [if_neg nonempty]
    obtain rfl : b = [] := List.eq_nil_of_length_eq_zero (by omega)
    exact ⟨fun _ => ⟨[], .nil⟩, fun _ => rfl⟩

/-- The map `Parse` reads from a buffer of entries: they are `emplace`d in order. -/
theorem parse_of_ltvEntries {b : List UInt8} (short : b.length ≤ 255) {es : List LtvEntry}
    (entries : LtvEntries b es) : parse b b.length.toUInt8 = (es.foldl emplace empty, true) := by
  unfold parse
  rw [toNat_length_toUInt8 short]
  by_cases nonempty : b.length > 0
  · rw [if_pos nonempty]
    obtain ⟨map, ok⟩ := cursorLoop_of_ltvEntries b entries 0 empty List.drop_zero
    dsimp only
    rw [map, ok]
  · rw [if_neg nonempty]
    obtain rfl : b = [] := List.eq_nil_of_length_eq_zero (by omega)
    rw [ltvEntries_nil_iff.mp entries]
    rfl

/-- On a buffer of entries `Parse` maps each type to the value of its first entry. -/
theorem find_parse {b : List UInt8} (short : b.length ≤ 255) {es : List LtvEntry}
    (entries : LtvEntries b es) (type : UInt8) :
    (parse b b.length.toUInt8).1.find type =
      (es.find? fun entry => entry.1 = type).map Prod.snd := by
  rw [parse_of_ltvEntries short entries, find_foldl_emplace, find_empty, Option.none_or]

/-- `Parse` reads nothing past its `len` octets. -/
theorem parse_append (b junk : List UInt8) (len : UInt8) (within : len.toNat ≤ b.length) :
    parse (b ++ junk) len = parse b len := by
  unfold parse
  rw [Cursor.cursorLoop_congr (parseEntry_append b junk within)]

/-- `RawPacket` writes the map's entries in order, each as the grammar has it. -/
theorem ltvEntries_rawPacket (m : LeAudioLtvMap)
    (short : ∀ entry ∈ m.values.toList, entry.2.length ≤ 254) :
    LtvEntries m.rawPacket m.values.toList := by
  unfold rawPacket
  revert short
  induction m.values.toList with
  | nil =>
    intro _
    exact .nil
  | cons entry es ih =>
    intro short
    have head : entry.2.length < 255 := Nat.lt_succ_of_le (short entry List.mem_cons_self)
    rw [List.flatMap_cons]
    exact .entry entry.1 entry.2 head (ih fun e mem => short e (List.mem_cons_of_mem entry mem))

theorem rawPacketSize_eq_length (m : LeAudioLtvMap) : m.rawPacketSize = m.rawPacket.length := by
  unfold rawPacketSize rawPacket
  rw [List.length_flatMap]
  congr 1
  apply List.map_congr_left
  intro entry _
  rw [List.length_cons, List.length_cons]
  omega

/-- **Round trip**: `Parse` reads back the map `RawPacket` wrote, when the buffer's size fits
its `uint8_t` length and every value its length octet. -/
theorem parse_rawPacket (m : LeAudioLtvMap)
    (short : ∀ entry ∈ m.values.toList, entry.2.length ≤ 254) (fits : m.rawPacketSize ≤ 255) :
    parse m.rawPacket m.rawPacketSize.toUInt8 = (m, true) := by
  rw [rawPacketSize_eq_length] at fits ⊢
  rw [parse_of_ltvEntries fits (ltvEntries_rawPacket m short)]
  congr 1
  apply ext_find
  intro type
  rw [find_foldl_emplace, find_empty, Option.none_or, find_eq]

theorem ltvMap_parse_spec :
    (∀ m : LeAudioLtvMap, (∀ entry ∈ m.values.toList, entry.2.length ≤ 254) →
        m.rawPacketSize ≤ 255 →
        parse m.rawPacket m.rawPacketSize.toUInt8 = (m, true) ∧
          m.rawPacketSize = m.rawPacket.length) ∧
      ∀ b : List UInt8, b.length ≤ 255 →
        (∀ junk, parse (b ++ junk) b.length.toUInt8 = parse b b.length.toUInt8) ∧
          ((parse b b.length.toUInt8).2 = true ↔ ∃ es, LtvEntries b es) ∧
          ∀ es, LtvEntries b es → ∀ type,
            (parse b b.length.toUInt8).1.find type =
              (es.find? fun entry => entry.1 = type).map Prod.snd := by
  refine ⟨fun m short fits => ⟨parse_rawPacket m short fits, rawPacketSize_eq_length m⟩,
    fun b short => ⟨fun junk => ?_, parse_succeeds_iff b short, fun es => find_parse short⟩⟩
  exact parse_append b junk _ (toNat_length_toUInt8 short).le

/-! ## `GetIntersection` -/

/-- `GetIntersection`'s loop reaches a type the other map lacks, where `entry->size()` reads an
empty `std::optional`, exactly when one of its entries has such a type. -/
theorem foldlM_intersectEntry_eq_none_iff (other : LeAudioLtvMap) (es : List LtvEntry)
    (result : LeAudioLtvMap) :
    es.foldlM (intersectEntry other) result = none ↔
      ∃ entry ∈ es, other.find entry.1 = none := by
  induction es generalizing result with
  | nil =>
    show some result = none ↔ _
    simp
  | cons entry es ih =>
    rw [List.foldlM_cons]
    cases found : other.find entry.1 with
    | none =>
      have undefined : intersectEntry other result entry = none := by
        unfold intersectEntry
        rw [found]
      rw [undefined]
      exact ⟨fun _ => ⟨entry, List.mem_cons_self, found⟩, fun _ => rfl⟩
    | some value =>
      obtain ⟨result', step⟩ : ∃ result', intersectEntry other result entry = some result' := by
        unfold intersectEntry
        rw [found]
        dsimp only
        split_ifs <;> exact ⟨_, rfl⟩
      rw [step]
      show es.foldlM (intersectEntry other) result' = none ↔ _
      rw [ih]
      constructor
      · rintro ⟨e, mem, absent⟩
        exact ⟨e, List.mem_cons_of_mem entry mem, absent⟩
      · rintro ⟨e, mem, absent⟩
        rcases List.mem_cons.1 mem with rfl | mem'
        · rw [found] at absent
          cases absent
        · exact ⟨e, mem', absent⟩

theorem getIntersection_eq_none_iff (m other : LeAudioLtvMap) :
    m.getIntersection other = none ↔ ∃ entry ∈ m.values.toList, other.find entry.1 = none :=
  foldlM_intersectEntry_eq_none_iff other m.values.toList empty

/-- The maps of the intersection unit test: the first has type 3, which the second lacks. -/
theorem getIntersection_reads_missing_type :
    (((empty.add 1 [0xFF, 0x7F]).add 3 [1, 2, 3, 4, 5, 6, 7, 8, 9]).add 2
        [0xFF, 0xFF, 0x00, 0x00]).getIntersection
      (((empty.add 0 [0x7F]).add 1 [0xFE, 0x7F]).add 2 [0xFF, 0xFF, 0x00, 0x00]) = none := by
  rw [getIntersection_eq_none_iff]
  exact ⟨(3, [1, 2, 3, 4, 5, 6, 7, 8, 9]), by decide, by decide⟩

end LeAudioLtvMap

end LeAudio

import Fluoride.Btm.AdvertiseDataParser

/-!
# What `AdvertiseDataParser` accepts, finds and cuts

A field is a length-prefixed record (`LengthPrefixed.Record`) whose first byte is its type. Data
splits into the fields the walk reads and a rest where it stops (`LengthPrefixed.Stop`): the end,
a zero length byte, or a field that does not fit. Over those fields the three walkers act one
field at a time, and at the rest they do what its shape says (`walkFields_records`,
`walkFields_stop_*`).

So `IsValid` accepts exactly three kinds of data: a field sequence; one followed by zero
padding; and one followed by a truncated field in which the Traxxas quirk is recognised.
`GetFieldByType` finds the first field of the type among the fields read. `RemoveTrailingZeros`
cuts the data at the zero length byte, if the walk stops at one
(`advertise_data_parser_fields`).
-/

namespace Btm

open LengthPrefixed

/-- The type of a field: the first byte its length counts. -/
def fieldType (r : Record) : UInt8 := r.body.getD 0 0

/-- The data of a field: the `L - 1` bytes after its type. -/
def fieldData (r : Record) : List UInt8 := r.body.tail

/-- A field sequence: fields, each a length byte `L ≥ 1`, a type and `L - 1` data bytes. -/
def IsFieldSequence (ad : List UInt8) : Prop := ∃ fields, ad = recordsBytes fields

/-- Fields, then a zero byte and nothing but zero bytes. -/
def ZeroPadded (ad : List UInt8) : Prop :=
  ∃ fields zeros, ad = recordsBytes fields ++ 0 :: zeros ∧ ∀ z ∈ zeros, z = 0

/-- A field whose length byte counts more bytes than follow it. -/
def Truncated (rest : List UInt8) : Prop :=
  ∃ len tail, rest = len :: tail ∧ len ≠ 0 ∧ tail.length < len.toNat

/-- The offsets of the Traxxas data that `MalformedPacketQuirk` compares. -/
def QuirkChecked (i : Nat) : Prop := i < 3 ∨ (5 ≤ i ∧ i < 11) ∨ (12 ≤ i ∧ i < 18)

/-- At least 18 bytes, agreeing with `trx_quirk` at every offset the quirk check compares. -/
def MatchesTrxQuirk (rest : List UInt8) : Prop :=
  18 ≤ rest.length ∧ ∀ i, QuirkChecked i → rest[i]? = trxQuirk[i]?

/-- Fields, then a truncated field in which the Traxxas quirk is recognised. -/
def QuirkTail (ad : List UInt8) : Prop :=
  ∃ fields rest, ad = recordsBytes fields ++ rest ∧ Truncated rest ∧ MatchesTrxQuirk rest

/-- The offset of the data of the first field of type `type`, with the fields starting at
`offset`, and its length `L - 1`; `(none, 0)` when no field has the type. -/
def fieldByType (type : UInt8) : List Record → Nat → Option Nat × UInt8
  | [], _ => (none, 0)
  | r :: rs, offset =>
    if fieldType r = type then (some (offset + 2), (fieldData r).length.toUInt8)
    else fieldByType type rs (offset + r.bytes.length)

/-! ## The quirk check -/

/-- Two lists agree on a window when they agree at each of its offsets. -/
theorem take_drop_eq_iff (l t : List UInt8) (k n : Nat) :
    (l.drop k).take n = (t.drop k).take n ↔ ∀ i < n, l[k + i]? = t[k + i]? := by
  constructor
  · intro same i below
    have := congrArg (·[i]?) same
    simpa [List.getElem?_take, below, List.getElem?_drop] using this
  · intro agree
    apply List.ext_getElem?
    intro i
    by_cases below : i < n
    · simp only [List.getElem?_take, below, if_true, List.getElem?_drop, agree i below]
    · simp only [List.getElem?_take, below, if_false]

/-- `MalformedPacketQuirk` compares the three windows of `trx_quirk` that `QuirkChecked`
names. -/
theorem malformedPacketQuirk_iff (ad : List UInt8) (position : Nat) :
    malformedPacketQuirk ad position = true ↔ MatchesTrxQuirk (ad.drop position) := by
  rw [MatchesTrxQuirk, List.length_drop]
  by_cases long : 18 ≤ ad.length - position
  · have windows : malformedPacketQuirk ad position = true ↔
        ((ad.drop position).drop 0).take 3 = (trxQuirk.drop 0).take 3 ∧
        ((ad.drop position).drop 5).take 6 = (trxQuirk.drop 5).take 6 ∧
        ((ad.drop position).drop 12).take 6 = (trxQuirk.drop 12).take 6 := by
      simp [malformedPacketQuirk, long, List.drop_drop, and_assoc]
    rw [windows, take_drop_eq_iff, take_drop_eq_iff, take_drop_eq_iff]
    -- the three windows are the offsets `QuirkChecked` names
    constructor
    · rintro ⟨low, middle, high⟩
      refine ⟨long, fun i checked => ?_⟩
      rcases checked with below | ⟨from5, below11⟩ | ⟨from12, below18⟩
      · simpa using low i below
      · simpa [Nat.add_sub_cancel' from5] using middle (i - 5) (by omega)
      · simpa [Nat.add_sub_cancel' from12] using high (i - 12) (by omega)
    · rintro ⟨-, agree⟩
      refine ⟨fun i below => ?_, fun i below => ?_, fun i below => ?_⟩
      · simpa using agree i (.inl below)
      · exact agree (5 + i) (.inr (.inl ⟨by omega, by omega⟩))
      · exact agree (12 + i) (.inr (.inr ⟨by omega, by omega⟩))
  · have short : malformedPacketQuirk ad position = false := by
      simp [malformedPacketQuirk, long]
    rw [short]
    constructor
    · intro never
      cases never
    · rintro ⟨enough, -⟩
      exact absurd enough long

/-! ## The walk over fields -/

section Walk

variable {α : Type} {ad : List UInt8} {atEnd : α} {atZero atOverrun : Nat → α}
  {atField : Nat → UInt8 → Option (Option α)}

/-- A field at `pre.length`: its length byte is read, is not zero, and the field fits. -/
theorem field_at {pre more : List UInt8} {r : Record} (split : ad = pre ++ r.bytes ++ more) :
    pre.length ≠ ad.length ∧ ad[pre.length]? = some r.body.length.toUInt8 ∧
      r.body.length.toUInt8 ≠ 0 ∧ pre.length + r.body.length.toUInt8.toNat < ad.length := by
  subst split
  refine ⟨by simp, by simp [Record.bytes], r.lengthByte_ne_zero, ?_⟩
  rw [r.toNat_lengthByte]
  simp only [List.length_append, Record.length_bytes]
  omega

/-- Moving on past a field. -/
theorem walkFields_field_next {pre more : List UInt8} {r : Record}
    (split : ad = pre ++ r.bytes ++ more)
    (next : atField pre.length r.body.length.toUInt8 = some none) :
    walkFields ad ad.length atEnd atZero atOverrun atField pre.length =
      walkFields ad ad.length atEnd atZero atOverrun atField (pre ++ r.bytes).length := by
  obtain ⟨ne, read, nz, fits⟩ := field_at split
  rw [walkFields_of_next ne read nz fits next, r.toNat_lengthByte, List.length_append,
    Record.length_bytes, Nat.add_assoc]

/-- **Run over fields.** When no field ends the walk, it goes past all of them. The induction is
on the fields, the ones already passed joining `pre`. -/
theorem walkFields_records (next : ∀ p len, atField p len = some none) :
    ∀ (rs : List Record) (pre rest : List UInt8), ad = pre ++ recordsBytes rs ++ rest →
      walkFields ad ad.length atEnd atZero atOverrun atField pre.length =
        walkFields ad ad.length atEnd atZero atOverrun atField (pre ++ recordsBytes rs).length
  | [], pre, rest, _ => by simp
  | r :: rs, pre, rest, split => by
    have split' : ad = pre ++ r.bytes ++ (recordsBytes rs ++ rest) := by
      simp [split, List.append_assoc]
    rw [walkFields_field_next split' (next _ _),
      walkFields_records next rs (pre ++ r.bytes) rest (by simp [split, List.append_assoc])]
    simp [List.append_assoc]

theorem walkFields_stop_end {pre : List UInt8} (split : ad = pre) :
    walkFields ad ad.length atEnd atZero atOverrun atField pre.length = some atEnd :=
  walkFields_of_end (by rw [split])

theorem walkFields_stop_zero {pre tail : List UInt8} (split : ad = pre ++ 0 :: tail) :
    walkFields ad ad.length atEnd atZero atOverrun atField pre.length =
      some (atZero pre.length) := by
  subst split
  exact walkFields_of_zero (by simp) (by simp)

theorem walkFields_stop_truncated {pre tail : List UInt8} {len : UInt8}
    (split : ad = pre ++ len :: tail) (nz : len ≠ 0) (few : tail.length < len.toNat) :
    walkFields ad ad.length atEnd atZero atOverrun atField pre.length =
      some (atOverrun pre.length) := by
  subst split
  exact walkFields_of_overrun (by simp) (by simp) nz (by simp; omega)

/-! From offset `0`, when no field ends the walk: what it does at the rest. -/

section FromStart

variable (next : ∀ p len, atField p len = some none) {fields : List Record}
include next

theorem walkFields_fields_end (split : ad = recordsBytes fields) :
    walkFields ad ad.length atEnd atZero atOverrun atField 0 = some atEnd := by
  have past := @walkFields_records α ad atEnd atZero atOverrun atField next fields [] []
    (by simp [split])
  rw [List.length_nil, List.nil_append] at past
  rw [past, walkFields_stop_end split]

theorem walkFields_fields_zero {tail : List UInt8} (split : ad = recordsBytes fields ++ 0 :: tail) :
    walkFields ad ad.length atEnd atZero atOverrun atField 0 =
      some (atZero (recordsBytes fields).length) := by
  have past := @walkFields_records α ad atEnd atZero atOverrun atField next fields [] (0 :: tail)
    (by simp [split])
  rw [List.length_nil, List.nil_append] at past
  rw [past, walkFields_stop_zero split]

theorem walkFields_fields_truncated {tail : List UInt8} {len : UInt8}
    (split : ad = recordsBytes fields ++ len :: tail) (nz : len ≠ 0) (few : tail.length < len.toNat) :
    walkFields ad ad.length atEnd atZero atOverrun atField 0 =
      some (atOverrun (recordsBytes fields).length) := by
  have past := @walkFields_records α ad atEnd atZero atOverrun atField next fields [] (len :: tail)
    (by simp [split])
  rw [List.length_nil, List.nil_append] at past
  rw [past, walkFields_stop_truncated split nz few]

end FromStart

end Walk

/-! ## The three walkers -/

section Walkers

variable {ad : List UInt8} {fields : List Record} {rest : List UInt8}

/-- `len - 1` of a field's length byte is the length of its data. -/
theorem lengthByte_sub_one (r : Record) : r.body.length.toUInt8 - 1 = (fieldData r).length.toUInt8 := by
  have pos := r.pos
  have short := r.short
  apply UInt8.toNat_inj.1
  rw [UInt8.toNat_sub_of_le _ _ (by rw [UInt8.le_iff_toNat_le, r.toNat_lengthByte]; exact pos)]
  simp only [fieldData, List.length_tail, Nat.toUInt8_eq, UInt8.toNat_ofNat', UInt8.toNat_one]
  omega

/-- `GetFieldByType` over fields: the first field of the type, reading the type byte of each
field before it. The induction is on the fields, the ones already passed joining `pre`. -/
theorem getFieldByType_records (type : UInt8) (stop : Stop rest) :
    ∀ (rs : List Record) (pre : List UInt8), ad = pre ++ recordsBytes rs ++ rest →
      walkFields ad ad.length (none, 0) (fun _ => (none, 0)) (fun _ => (none, 0))
        (fun position len => ad[position + 1]?.map fun advType =>
          if advType = type then some (some (position + 2), len - 1) else none) pre.length =
        some (fieldByType type rs pre.length)
  | [], pre, split => by
    rw [recordsBytes_nil, List.append_nil] at split
    cases rest with
    | nil => exact walkFields_stop_end (by simpa using split)
    | cons len tail =>
      rcases stop with zero | few
      · subst zero
        exact walkFields_stop_zero split
      · by_cases nz : len = 0
        · subst nz
          exact walkFields_stop_zero split
        · exact walkFields_stop_truncated split nz few
  | r :: rs, pre, split => by
    have split' : ad = pre ++ r.bytes ++ (recordsBytes rs ++ rest) := by
      simp [split, List.append_assoc]
    obtain ⟨ne, read, nz, fits⟩ := field_at split'
    -- the type byte follows the length byte
    have typeByte : ad[pre.length + 1]? = some (fieldType r) := by
      obtain ⟨b, body, eq⟩ := List.exists_cons_of_length_pos r.pos
      simp [split', Record.bytes, fieldType, eq]
    by_cases hit : fieldType r = type
    · have found : (ad[pre.length + 1]?.map fun advType => if advType = type then
            some (some (pre.length + 2), r.body.length.toUInt8 - 1) else none) =
          some (some (some (pre.length + 2), r.body.length.toUInt8 - 1)) := by
        rw [typeByte, Option.map_some, if_pos hit]
      rw [walkFields_of_hit ne read nz fits found, fieldByType, if_pos hit, lengthByte_sub_one]
    · have passed : (ad[pre.length + 1]?.map fun advType => if advType = type then
            some (some (pre.length + 2), r.body.length.toUInt8 - 1) else none) = some none := by
        rw [typeByte, Option.map_some, if_neg hit]
      rw [walkFields_field_next split' passed,
        getFieldByType_records type stop rs (pre ++ r.bytes) (by simp [split, List.append_assoc]),
        fieldByType, if_neg hit, List.length_append]

theorem getFieldByTypeVector_eq (type : UInt8) (split : ad = recordsBytes fields ++ rest)
    (stop : Stop rest) : getFieldByTypeVector ad type = some (fieldByType type fields 0) :=
  getFieldByType_records type stop fields [] (by simp [split])

theorem isValid_of_end (split : ad = recordsBytes fields) : isValid ad = some true :=
  walkFields_fields_end (fun _ _ => rfl) split

theorem isValid_of_zero {tail : List UInt8} (split : ad = recordsBytes fields ++ 0 :: tail) :
    isValid ad = some (tail.all (· == 0)) := by
  have after : ad.drop ((recordsBytes fields).length + 1) = tail := by simp [split]
  rw [isValid, walkFields_fields_zero (fun _ _ => rfl) split, after]

theorem isValid_of_truncated {tail : List UInt8} {len : UInt8}
    (split : ad = recordsBytes fields ++ len :: tail) (nz : len ≠ 0) (few : tail.length < len.toNat) :
    isValid ad = some (malformedPacketQuirk ad (recordsBytes fields).length) :=
  walkFields_fields_truncated (fun _ _ => rfl) split nz few

theorem removeTrailingZeros_of_end (split : ad = recordsBytes fields) :
    removeTrailingZeros ad = some ad :=
  walkFields_fields_end (fun _ _ => rfl) split

theorem removeTrailingZeros_of_zero {tail : List UInt8}
    (split : ad = recordsBytes fields ++ 0 :: tail) :
    removeTrailingZeros ad = some (recordsBytes fields) := by
  rw [removeTrailingZeros, walkFields_fields_zero (fun _ _ => rfl) split, split, List.take_left']
  rfl

theorem removeTrailingZeros_of_truncated {tail : List UInt8} {len : UInt8}
    (split : ad = recordsBytes fields ++ len :: tail) (nz : len ≠ 0) (few : tail.length < len.toNat) :
    removeTrailingZeros ad = some ad :=
  walkFields_fields_truncated (fun _ _ => rfl) split nz few

end Walkers

/-! ## The three walkers on any data -/

/-- The three kinds of data `IsValid` accepts. -/
theorem isValid_of_accepted {ad : List UInt8}
    (accepted : IsFieldSequence ad ∨ ZeroPadded ad ∨ QuirkTail ad) : isValid ad = some true := by
  rcases accepted with ⟨fields, split⟩ | ⟨fields, zeros, split, allZero⟩ |
    ⟨fields, rest, split, ⟨len, tail, rfl, nz, few⟩, quirk⟩
  · exact isValid_of_end split
  · rw [isValid_of_zero split]
    simpa using allZero
  · have at_rest : ad.drop (recordsBytes fields).length = len :: tail := by
      rw [split, List.drop_left]
    rw [isValid_of_truncated split nz few]
    exact congrArg some ((malformedPacketQuirk_iff _ _).2 (at_rest ▸ quirk))

section Split

variable {ad : List UInt8} {fields : List Record} {rest : List UInt8}
  (split : ad = recordsBytes fields ++ rest) (stop : Stop rest)

/-- A truncated field where the walk stops, in which the quirk check succeeds. -/
theorem quirkTail_of_truncated {len : UInt8} {tail : List UInt8}
    (split : ad = recordsBytes fields ++ len :: tail) (nz : len ≠ 0) (few : tail.length < len.toNat)
    (quirk : malformedPacketQuirk ad (recordsBytes fields).length = true) : QuirkTail ad := by
  have at_rest : ad.drop (recordsBytes fields).length = len :: tail := by
    rw [split, List.drop_left]
  exact ⟨fields, len :: tail, split, ⟨len, tail, rfl, nz, few⟩,
    at_rest ▸ (malformedPacketQuirk_iff _ _).1 quirk⟩

include split stop

/-- `IsValid` answers, and accepts only the three kinds of data. -/
theorem isValid_of_split :
    ∃ valid, isValid ad = some valid ∧
      (valid = true → IsFieldSequence ad ∨ ZeroPadded ad ∨ QuirkTail ad) := by
  cases rest with
  | nil =>
    rw [List.append_nil] at split
    exact ⟨true, isValid_of_end split, fun _ => .inl ⟨fields, split⟩⟩
  | cons len tail =>
    by_cases nz : len = 0
    · subst nz
      refine ⟨_, isValid_of_zero split, fun allZero => .inr (.inl ⟨fields, tail, split, ?_⟩)⟩
      simpa using allZero
    · have few : tail.length < len.toNat := stop.resolve_left nz
      exact ⟨_, isValid_of_truncated split nz few,
        fun quirk => .inr (.inr (quirkTail_of_truncated split nz few quirk))⟩

/-- `RemoveTrailingZeros` cuts the data at the zero length byte the walk stops at, if it does. -/
theorem removeTrailingZeros_of_split :
    removeTrailingZeros ad = some (if rest.head? = some 0 then recordsBytes fields else ad) := by
  cases rest with
  | nil =>
    rw [List.append_nil] at split
    simp [removeTrailingZeros_of_end split]
  | cons len tail =>
    by_cases nz : len = 0
    · subst nz
      simp [removeTrailingZeros_of_zero split]
    · simp [removeTrailingZeros_of_truncated split nz (stop.resolve_left nz), nz]

/-- What `RemoveTrailingZeros` leaves is a field sequence when `IsValid` held without the
quirk. -/
theorem isFieldSequence_of_removeTrailingZeros (valid : isValid ad = some true)
    (noQuirk : ¬ QuirkTail ad) :
    IsFieldSequence (if rest.head? = some 0 then recordsBytes fields else ad) := by
  cases rest with
  | nil =>
    rw [List.append_nil] at split
    exact ⟨fields, by simpa using split⟩
  | cons len tail =>
    by_cases nz : len = 0
    · subst nz
      exact ⟨fields, by simp⟩
    · -- the walk stopped at a truncated field: `IsValid` held through the quirk
      have few : tail.length < len.toNat := stop.resolve_left nz
      rw [isValid_of_truncated split nz few, Option.some.injEq] at valid
      exact absurd (quirkTail_of_truncated split nz few valid) noQuirk

end Split

/-- **What the three walkers do with any advertising data.**
* `IsValid` returns, and holds exactly for a field sequence, for one followed by a zero byte and
  only zero bytes, and for one followed by a truncated field in which the Traxxas quirk is
  recognised.
* Data splits into the fields the walk reads (the longest field-sequence prefix) and a rest
  where it stops.
* For every such split, `GetFieldByType` reads nothing past the data. It returns the offset of
  the data of the first field of the type and its length `L - 1`, and `(NULL, 0)` when no field
  has the type.
* `RemoveTrailingZeros` erases the rest exactly when it starts with a zero length byte.
* After it, `GetFieldByType` returns the same for every type, and the data is a field sequence
  when `IsValid` held without the quirk. -/
theorem advertise_data_parser_fields (ad : List UInt8) :
    (∃ valid, isValid ad = some valid ∧
      (valid = true ↔ IsFieldSequence ad ∨ ZeroPadded ad ∨ QuirkTail ad)) ∧
    (∃ fields rest, ad = recordsBytes fields ++ rest ∧ Stop rest) ∧
    ∀ fields rest, ad = recordsBytes fields ++ rest → Stop rest →
      (∀ type, getFieldByTypeVector ad type = some (fieldByType type fields 0)) ∧
      removeTrailingZeros ad = some (if rest.head? = some 0 then recordsBytes fields else ad) ∧
      ∀ ad', removeTrailingZeros ad = some ad' →
        (∀ type, getFieldByTypeVector ad' type = getFieldByTypeVector ad type) ∧
        (isValid ad = some true → ¬ QuirkTail ad → IsFieldSequence ad') := by
  obtain ⟨whole, stop⟩ := split_spec ad
  refine ⟨?_, ⟨_, _, whole, stop⟩, fun fields rest split stop => ?_⟩
  · -- `IsValid` from the walk's own split; the converse from the split each kind gives
    obtain ⟨valid, answer, only⟩ := isValid_of_split whole stop
    refine ⟨valid, answer, ⟨only, fun accepted => ?_⟩⟩
    rw [isValid_of_accepted accepted, Option.some.injEq] at answer
    exact answer.symm
  · have cut := removeTrailingZeros_of_split split stop
    refine ⟨fun type => getFieldByTypeVector_eq type split stop, cut, fun ad' cut' => ?_⟩
    rw [cut, Option.some.injEq] at cut'
    subst cut'
    refine ⟨fun type => ?_, isFieldSequence_of_removeTrailingZeros split stop⟩
    split_ifs
    · rw [getFieldByTypeVector_eq type (List.append_nil _).symm trivial,
        getFieldByTypeVector_eq type split stop]
    · rfl

end Btm

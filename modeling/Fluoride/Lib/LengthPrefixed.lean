import Mathlib.Data.UInt

/-!
# Length-prefixed records

A record is a length byte `L ≥ 1` followed by the `L` bytes it counts. A byte list starts with
some records, and a walk that reads them one by one stops at what follows them (`Stop`). That
can be the end of the list. It can be a zero length byte, which no record has. It can also be a
length byte counting more bytes than there are.

`split` reads the records at the front of a list, as many as there are. The list is those
records and then a rest where the walk stops (`split_spec`).
-/

namespace LengthPrefixed

/-- A record: a length byte and the `1` to `255` bytes it counts. -/
structure Record where
  body : List UInt8
  pos : 0 < body.length
  short : body.length < 256

namespace Record

/-- The length byte and the body. -/
def bytes (r : Record) : List UInt8 := r.body.length.toUInt8 :: r.body

theorem toNat_lengthByte (r : Record) : r.body.length.toUInt8.toNat = r.body.length := by
  simp only [Nat.toUInt8_eq, UInt8.toNat_ofNat']
  have := r.short
  omega

theorem lengthByte_ne_zero (r : Record) : r.body.length.toUInt8 ≠ 0 := fun zero => by
  have := congrArg UInt8.toNat zero
  rw [toNat_lengthByte] at this
  exact absurd this (Nat.pos_iff_ne_zero.1 r.pos)

@[simp] theorem length_bytes (r : Record) : r.bytes.length = r.body.length + 1 := rfl

end Record

/-- The bytes of records, one after the other. -/
def recordsBytes (rs : List Record) : List UInt8 := rs.flatMap Record.bytes

@[simp] theorem recordsBytes_nil : recordsBytes [] = [] := rfl

@[simp] theorem recordsBytes_cons (r : Record) (rs : List Record) :
    recordsBytes (r :: rs) = r.bytes ++ recordsBytes rs := rfl

/-- Where a walk over records stops: at the end, at a zero length byte, or at a length byte
counting more bytes than follow it. -/
def Stop : List UInt8 → Prop
  | [] => True
  | len :: rest => len = 0 ∨ rest.length < len.toNat

instance : DecidablePred Stop
  | [] => inferInstanceAs (Decidable True)
  | len :: rest => inferInstanceAs (Decidable (len = 0 ∨ rest.length < len.toNat))

/-- A walk does not stop at a record. -/
theorem not_stop_bytes (r : Record) (more : List UInt8) : ¬ Stop (r.bytes ++ more) := by
  rintro (zero | few)
  · exact r.lengthByte_ne_zero zero
  · have : (r.body ++ more).length < r.body.length.toUInt8.toNat := few
    rw [r.toNat_lengthByte, List.length_append] at this
    omega

theorem toNat_pos_of_ne_zero {len : UInt8} (h : len ≠ 0) : 0 < len.toNat :=
  Nat.pos_of_ne_zero fun zero => h (UInt8.toNat_inj.1 zero)

/-- The record at the front of `len :: rest`, when `len` counts `1` to `rest.length` bytes. -/
def takeRecord (len : UInt8) (rest : List UInt8) (pos : 0 < len.toNat)
    (fits : len.toNat ≤ rest.length) : Record :=
  ⟨rest.take len.toNat, by simp only [List.length_take]; omega, by
    have := len.toNat_lt
    simp only [List.length_take]
    omega⟩

theorem bytes_takeRecord {len : UInt8} {rest : List UInt8} (pos : 0 < len.toNat)
    (fits : len.toNat ≤ rest.length) :
    (takeRecord len rest pos fits).bytes = len :: rest.take len.toNat := by
  simp only [Record.bytes, takeRecord, List.length_take, Nat.min_eq_left fits, Nat.toUInt8_eq,
    UInt8.ofNat_toNat]

/-- The records at the front of a list, as many as there are, and what follows them. -/
def split : List UInt8 → List Record × List UInt8
  | [] => ([], [])
  | len :: rest =>
    if h : len = 0 ∨ rest.length < len.toNat then ([], len :: rest)
    else
      let r := takeRecord len rest (toNat_pos_of_ne_zero (not_or.1 h).1)
        (Nat.le_of_not_lt (not_or.1 h).2)
      let tail := split (rest.drop len.toNat)
      (r :: tail.1, tail.2)
termination_by l => l.length
decreasing_by
  have := toNat_pos_of_ne_zero (not_or.1 h).1
  simp only [List.length_drop, List.length_cons]
  omega

/-- A list is the records `split` reads and then a rest where the walk stops. The induction
follows `split`'s recursion: each record read shortens the list. -/
theorem split_spec (l : List UInt8) :
    l = recordsBytes (split l).1 ++ (split l).2 ∧ Stop (split l).2 := by
  induction l using split.induct with
  | case1 =>
    rw [split]
    exact ⟨rfl, trivial⟩
  | case2 len rest h =>
    rw [split, dif_pos h]
    exact ⟨rfl, h⟩
  | case3 len rest h ih =>
    rw [split, dif_neg h]
    refine ⟨?_, ih.2⟩
    dsimp only
    rw [recordsBytes_cons, bytes_takeRecord, List.cons_append, List.cons_append, List.append_assoc,
      ← ih.1, List.take_append_drop]

end LengthPrefixed

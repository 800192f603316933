import Mathlib
import Fluoride.Lib.Replay

/-!
# The byte ring buffer of `osi/src/ringbuffer.cc`

A `ringbuffer_t` holds `total` bytes at `base`, with a `head` pointer at the oldest byte, a
`tail` pointer where the next byte goes, and the count `available` of free bytes; both
pointers wrap to `base` when they reach `base + total`. The model keeps the bytes as a list
and the two pointers as offsets from `base`; `size_t` is 64 bits wide.

What the buffer is for is a bounded FIFO of bytes (`ByteFifo`). Reading the buffer from
`head` for `ringbuffer_size` bytes, wrapping once, gives the FIFO's contents
(`Ringbuffer.toFifo`). Every call, from every well-formed buffer, returns what the FIFO
returns and leaves the buffer reading as the FIFO after the call (`step_simulates`), so
every sequence of calls on a buffer made by `ringbuffer_init` does (`ringbuffer_refines_fifo`).

One call does not: `ringbuffer_peek` computes `offset + length` in `size_t`, and a length
within `SIZE_MAX` of the offset wraps the sum past the size check, so that the copy runs for
`length` bytes (`ringbufferPeek_length_overflow`). The refinement holds for peeks whose
`offset + length` does not wrap.
-/

namespace Osi

/-- `ringbuffer_t`, the pointers as offsets from `base`. -/
structure Ringbuffer where
  total : Nat
  available : Nat
  base : List UInt8
  head : Nat
  tail : Nat
  deriving DecidableEq, Repr

namespace Ringbuffer

/-- `ringbuffer_init(size)`: `size` zeroed bytes, both pointers at `base`, all free. -/
def ringbufferInit (size : Nat) : Ringbuffer := ⟨size, size, List.replicate size 0, 0, 0⟩

def ringbufferAvailable (rb : Ringbuffer) : Nat := rb.available

def ringbufferSize (rb : Ringbuffer) : Nat := rb.total - rb.available

/-- The loop of `ringbuffer_insert`: `*rb->tail++ = *p++`, the tail wrapping at the end. -/
def insertBytes (rb : Ringbuffer) : List UInt8 → Ringbuffer
  | [] => rb
  | b :: bs =>
    insertBytes { rb with base := rb.base.set rb.tail b,
                          tail := if rb.tail + 1 ≥ rb.total then 0 else rb.tail + 1 } bs

/-- `ringbuffer_insert(rb, p, length)`, `p` pointing at the `length` bytes given: at most
`available` of them are copied, and their count returned. -/
def ringbufferInsert (rb : Ringbuffer) (p : List UInt8) : Ringbuffer × Nat :=
  let length := if p.length > ringbufferAvailable rb then ringbufferAvailable rb else p.length
  let rb' := insertBytes rb (p.take length)
  ({ rb' with available := rb'.available - length }, length)

/-- `ringbuffer_delete(rb, length)`: at most `size` bytes dropped from the head. -/
def ringbufferDelete (rb : Ringbuffer) (length : Nat) : Ringbuffer × Nat :=
  let length := if length > ringbufferSize rb then ringbufferSize rb else length
  let head := rb.head + length
  let head := if head ≥ rb.total then head - rb.total else head
  ({ rb with head := head, available := rb.available + length }, length)

/-- The loop of `ringbuffer_peek`: `count` bytes read from offset `b`, wrapping at the end. -/
def peekBytes (rb : Ringbuffer) (b : Nat) : Nat → List UInt8
  | 0 => []
  | count + 1 => rb.base.getD b 0 :: peekBytes rb (if b + 1 ≥ rb.total then 0 else b + 1) count

/-- `ringbuffer_peek(rb, offset, p, length)`: the bytes copied to `p`, or `none` when an
assertion fails (`offset` beyond the size). `offset + length` is computed in `size_t`. -/
def ringbufferPeek (rb : Ringbuffer) (offset length : Nat) : Option (List UInt8) :=
  if offset ≤ ringbufferSize rb then
    let b := (rb.head + offset) % rb.total
    let bytesToCopy :=
      if (offset + length) % 2 ^ 64 > ringbufferSize rb then ringbufferSize rb - offset else length
    some (peekBytes rb b bytesToCopy)
  else none

/-- `ringbuffer_pop(rb, p, length)`: a peek from offset zero, then the head moved past the
bytes copied. -/
def ringbufferPop (rb : Ringbuffer) (length : Nat) : Option (Ringbuffer × List UInt8) := do
  let copied ← ringbufferPeek rb 0 length
  let head := rb.head + copied.length
  let head := if head ≥ rb.total then head - rb.total else head
  return ({ rb with head := head, available := rb.available + copied.length }, copied)

end Ringbuffer

/-! ## §1 — the calls, and the FIFO they implement -/

/-- A call on a ring buffer. -/
inductive RingOp where
  | insert (p : List UInt8)
  | delete (length : Nat)
  | pop (length : Nat)
  | peek (offset length : Nat)
  deriving DecidableEq, Repr

/-- What a call returns: a count, the bytes copied out, or an assertion that failed. -/
inductive RingReply where
  | count (n : Nat)
  | bytes (b : List UInt8)
  | aborted
  deriving DecidableEq, Repr

/-- A FIFO of bytes holding at most `capacity` of them. -/
structure ByteFifo where
  capacity : Nat
  contents : List UInt8
  length_le : contents.length ≤ capacity
  deriving DecidableEq

namespace ByteFifo

/-- The bytes a FIFO has room for. -/
def room (q : ByteFifo) : Nat := q.capacity - q.contents.length

theorem append_take_fits (q : ByteFifo) (p : List UInt8) :
    (q.contents ++ p.take (min p.length q.room)).length ≤ q.capacity := by
  have := q.length_le
  simp only [List.length_append, List.length_take, room]
  omega

theorem drop_fits (q : ByteFifo) (n : Nat) : (q.contents.drop n).length ≤ q.capacity := by
  have := q.length_le
  rw [List.length_drop]
  omega

/-- One call on the FIFO: an insert appends what fits and counts it, a delete or a pop takes
what it can from the front, a peek copies from an offset up to the end. -/
def step (q : ByteFifo) : RingOp → RingReply × ByteFifo
  | .insert p =>
    (.count (min p.length q.room),
      ⟨q.capacity, q.contents ++ p.take (min p.length q.room), q.append_take_fits p⟩)
  | .delete length =>
    (.count (min length q.contents.length), ⟨q.capacity, q.contents.drop length, q.drop_fits length⟩)
  | .pop length =>
    (.bytes (q.contents.take length), ⟨q.capacity, q.contents.drop length, q.drop_fits length⟩)
  | .peek offset length =>
    if offset ≤ q.contents.length then (.bytes ((q.contents.drop offset).take length), q)
    else (.aborted, q)

end ByteFifo

namespace Ringbuffer

/-- One call on the buffer. -/
def step (rb : Ringbuffer) : RingOp → RingReply × Ringbuffer
  | .insert p => (.count (ringbufferInsert rb p).2, (ringbufferInsert rb p).1)
  | .delete length => (.count (ringbufferDelete rb length).2, (ringbufferDelete rb length).1)
  | .pop length =>
    match ringbufferPop rb length with
    | some (rb', copied) => (.bytes copied, rb')
    | none => (.aborted, rb)
  | .peek offset length =>
    match ringbufferPeek rb offset length with
    | some copied => (.bytes copied, rb)
    | none => (.aborted, rb)

/-- What callers may pass in `size_t`: a pop length below `2 ^ 64`, and a peek whose
`offset + length` does not wrap. -/
def NoWrap : RingOp → Prop
  | .pop length => length < 2 ^ 64
  | .peek offset length => offset + length < 2 ^ 64
  | _ => True

instance instDecidablePredNoWrap : DecidablePred NoWrap
  | .insert _ => isTrue trivial
  | .delete _ => isTrue trivial
  | .pop length => inferInstanceAs (Decidable (length < 2 ^ 64))
  | .peek offset length => inferInstanceAs (Decidable (offset + length < 2 ^ 64))

/-! ## §2 — positions that wrap once

Every pointer the code moves stays within one wrap of `base`, so a position `i` bytes after
`b` is `b + i`, less `total` once it passes the end (`wrapAdd`); the `%` of `ringbuffer_peek`
and the subtraction of `ringbuffer_delete` are that. -/

/-- The offset `i` bytes after `b`, wrapping at most once. -/
def wrapAdd (b i total : Nat) : Nat := if b + i < total then b + i else b + i - total

section WrapAdd

variable {b i j total : Nat}

theorem wrapAdd_zero (hb : b < total) : wrapAdd b 0 total = b := by
  simp [wrapAdd, hb]

theorem wrapAdd_lt (hb : b < total) (hi : i ≤ total) : wrapAdd b i total < total := by
  unfold wrapAdd
  split <;> omega

theorem wrapAdd_wrapAdd (hb : b < total) (hij : i + j ≤ total) :
    wrapAdd (wrapAdd b i total) j total = wrapAdd b (i + j) total := by
  unfold wrapAdd
  split_ifs <;> omega

theorem wrapAdd_inj (hi : i < total) (hj : j < total)
    (same : wrapAdd b i total = wrapAdd b j total) : i = j := by
  unfold wrapAdd at same
  split_ifs at same <;> omega

theorem wrapAdd_one (hb : b < total) :
    (if b + 1 ≥ total then 0 else b + 1) = wrapAdd b 1 total := by
  unfold wrapAdd
  split_ifs <;> omega

/-- The pointer update of `ringbuffer_delete` and `ringbuffer_pop`. -/
theorem wrap_eq_wrapAdd : (if b + i ≥ total then b + i - total else b + i) = wrapAdd b i total := by
  unfold wrapAdd
  split_ifs <;> omega

theorem mod_eq_wrapAdd (hb : b < total) (hi : i ≤ total) : (b + i) % total = wrapAdd b i total := by
  unfold wrapAdd
  split
  · exact Nat.mod_eq_of_lt ‹_›
  · rw [Nat.mod_eq_sub_mod (by omega), Nat.mod_eq_of_lt (by omega)]

end WrapAdd

/-! ## §3 — what the buffer holds -/

/-- The byte `i` places after the head. -/
def read (rb : Ringbuffer) (i : Nat) : UInt8 := rb.base.getD (wrapAdd rb.head i rb.total) 0

/-- The bytes from the head, `ringbuffer_size` of them. -/
def contents (rb : Ringbuffer) : List UInt8 := (List.range (ringbufferSize rb)).map rb.read


/-- A buffer as the calls leave it: `total` bytes at `base`, the head within them, and the
tail `ringbuffer_size` bytes after the head. -/
structure Wf (rb : Ringbuffer) : Prop where
  length_base : rb.base.length = rb.total
  head_lt : rb.head < rb.total
  available_le : rb.available ≤ rb.total
  tail_eq : rb.tail = wrapAdd rb.head (ringbufferSize rb) rb.total

theorem wf_ringbufferInit {n : Nat} (pos : 0 < n) : (ringbufferInit n).Wf where
  length_base := List.length_replicate
  head_lt := pos
  available_le := Nat.le_refl _
  tail_eq := by simp [ringbufferInit, ringbufferSize, wrapAdd_zero pos]

theorem contents_ringbufferInit (n : Nat) : (ringbufferInit n).contents = [] := by
  simp [contents, ringbufferInit, ringbufferSize]

@[simp] theorem length_contents (rb : Ringbuffer) : rb.contents.length = ringbufferSize rb := by
  simp [contents]

theorem size_le_total (rb : Ringbuffer) : ringbufferSize rb ≤ rb.total := Nat.sub_le _ _

/-- The FIFO a buffer implements. -/
def toFifo (rb : Ringbuffer) : ByteFifo :=
  ⟨rb.total, rb.contents, by rw [length_contents]; exact size_le_total rb⟩

/-- The end of a mapped range. -/
theorem drop_map_range (f : Nat → UInt8) (s o : Nat) :
    ((List.range s).map f).drop o = (List.range (s - o)).map fun i => f (o + i) := by
  apply List.ext_getElem (by simp)
  intro i h₁ h₂
  simp

/-- A window of a mapped range. -/
theorem take_drop_map_range (f : Nat → UInt8) (s o m : Nat) :
    (((List.range s).map f).drop o).take m = (List.range (min m (s - o))).map fun i => f (o + i) := by
  apply List.ext_getElem (by simp)
  intro i h₁ h₂
  simp

/-! ## §4 — the loops -/

theorem length_peekBytes (rb : Ringbuffer) (b n : Nat) : (rb.peekBytes b n).length = n := by
  induction n generalizing b with
  | zero => rfl
  | succ n ih => simp [peekBytes, ih]

/-- The peek loop reads `n` bytes from `b` on, wrapping once. -/
theorem peekBytes_eq (rb : Ringbuffer) {b n : Nat} (hb : b < rb.total) (hn : n ≤ rb.total) :
    rb.peekBytes b n = (List.range n).map fun i => rb.base.getD (wrapAdd b i rb.total) 0 := by
  induction n generalizing b with
  | zero => rfl
  | succ n ih =>
    have next : wrapAdd b 1 rb.total < rb.total := wrapAdd_lt hb (by omega)
    rw [peekBytes, wrapAdd_one hb, ih next (by omega), List.range_succ_eq_map, List.map_cons,
      List.map_map, wrapAdd_zero hb]
    congr 1
    apply List.map_congr_left
    intro i mem
    have small : i < n := List.mem_range.1 mem
    simp only [Function.comp, wrapAdd_wrapAdd hb (by omega : 1 + i ≤ rb.total), Nat.add_comm 1 i]

section Insert

variable {rb : Ringbuffer} {bs : List UInt8}

@[simp] theorem total_insertBytes : (rb.insertBytes bs).total = rb.total := by
  induction bs generalizing rb with
  | nil => rfl
  | cons b bs ih => exact ih

@[simp] theorem available_insertBytes : (rb.insertBytes bs).available = rb.available := by
  induction bs generalizing rb with
  | nil => rfl
  | cons b bs ih => exact ih

@[simp] theorem head_insertBytes : (rb.insertBytes bs).head = rb.head := by
  induction bs generalizing rb with
  | nil => rfl
  | cons b bs ih => exact ih

@[simp] theorem length_base_insertBytes : (rb.insertBytes bs).base.length = rb.base.length := by
  induction bs generalizing rb with
  | nil => rfl
  | cons b bs ih => exact ih.trans (List.length_set ..)

theorem tail_insertBytes (ht : rb.tail < rb.total) (hn : bs.length ≤ rb.total) :
    (rb.insertBytes bs).tail = wrapAdd rb.tail bs.length rb.total := by
  induction bs generalizing rb with
  | nil => exact (wrapAdd_zero ht).symm
  | cons b bs ih =>
    rw [insertBytes, ih (wrapAdd_one ht ▸ wrapAdd_lt ht (by omega)) (by simp at hn ⊢; omega)]
    simp only [wrapAdd_one ht, List.length_cons]
    rw [wrapAdd_wrapAdd ht (by simp at hn; omega), Nat.add_comm]

/-- The buffer after the first byte of the insert loop. -/
theorem insertBytes_cons (rb : Ringbuffer) (b : UInt8) (bs : List UInt8) :
    rb.insertBytes (b :: bs) =
      insertBytes { rb with base := rb.base.set rb.tail b,
                            tail := if rb.tail + 1 ≥ rb.total then 0 else rb.tail + 1 } bs :=
  rfl

/-- The insert loop leaves the bytes it does not reach as they were. -/
theorem getD_insertBytes_other (ht : rb.tail < rb.total) (hn : bs.length ≤ rb.total) {i : Nat}
    (other : ∀ j < bs.length, wrapAdd rb.tail j rb.total ≠ i) :
    (rb.insertBytes bs).base.getD i 0 = rb.base.getD i 0 := by
  induction bs generalizing rb with
  | nil => rfl
  | cons b bs ih =>
    simp only [List.length_cons] at hn other
    set rb1 : Ringbuffer := { rb with base := rb.base.set rb.tail b,
                                      tail := if rb.tail + 1 ≥ rb.total then 0 else rb.tail + 1 }
    have tail1 : rb1.tail = wrapAdd rb.tail 1 rb.total := wrapAdd_one ht
    have total1 : rb1.total = rb.total := rfl
    -- the first byte goes to the tail, which is not `i`
    have notTail : rb.tail ≠ i := by simpa [wrapAdd_zero ht] using other 0 (by omega)
    rw [insertBytes_cons, ih (by rw [tail1, total1]; exact wrapAdd_lt ht (by omega))
      (by rw [total1]; omega)]
    · simp only [List.getD_eq_getElem?_getD, List.getElem?_set_ne notTail]
    · intro j hj
      rw [tail1, total1, wrapAdd_wrapAdd ht (by omega), Nat.add_comm]
      exact other (j + 1) (by omega)

/-- The insert loop writes the `j`-th byte `j` places after the tail. -/
theorem getD_insertBytes_written (ht : rb.tail < rb.total) (hl : rb.base.length = rb.total)
    (hn : bs.length ≤ rb.total) {j : Nat} (hj : j < bs.length) :
    (rb.insertBytes bs).base.getD (wrapAdd rb.tail j rb.total) 0 = bs[j] := by
  induction bs generalizing rb j with
  | nil => exact absurd hj (Nat.not_lt_zero _)
  | cons b bs ih =>
    simp only [List.length_cons] at hn hj
    set rb1 : Ringbuffer := { rb with base := rb.base.set rb.tail b,
                                      tail := if rb.tail + 1 ≥ rb.total then 0 else rb.tail + 1 }
    have tail1 : rb1.tail = wrapAdd rb.tail 1 rb.total := wrapAdd_one ht
    have total1 : rb1.total = rb.total := rfl
    have ht1 : rb1.tail < rb1.total := by rw [tail1, total1]; exact wrapAdd_lt ht (by omega)
    cases j with
    | zero =>
      -- the tail is written first, and no later byte comes back to it
      rw [wrapAdd_zero ht, insertBytes_cons, getD_insertBytes_other ht1 (by rw [total1]; omega)]
      · simp [rb1, List.getD_eq_getElem?_getD, List.getElem?_set_self (hl ▸ ht : rb.tail < rb.base.length)]
      · intro j' hj' same
        rw [tail1, total1, wrapAdd_wrapAdd ht (by omega)] at same
        have := wrapAdd_inj (i := 1 + j') (j := 0) (by omega) (by omega)
          (same.trans (wrapAdd_zero ht).symm)
        omega
    | succ j =>
      have pos : wrapAdd rb.tail (j + 1) rb.total = wrapAdd rb1.tail j rb1.total := by
        rw [tail1, total1, wrapAdd_wrapAdd ht (by omega), Nat.add_comm]
      show (rb1.insertBytes bs).base.getD _ 0 = bs[j]
      rw [pos]
      exact ih ht1 (by simpa [rb1] using hl) (by rw [total1]; omega) (by omega)

end Insert

/-! ## §5 — each call refines the FIFO's call

Each call is reduced to the FIFO's operation on `contents`: an insert writes after the tail,
which `ringbuffer_size` places after the head, so the bytes before it stay; a delete moves the
head; a peek reads from `offset` places after the head; a pop is a peek from the head and
then a delete of what it copied. -/

section Calls

variable {rb : Ringbuffer}

theorem Wf.tail_lt (wf : rb.Wf) : rb.tail < rb.total :=
  wf.tail_eq ▸ wrapAdd_lt wf.head_lt (size_le_total rb)

/-- `ringbuffer_insert` copies `min length available` bytes. -/
theorem ringbufferInsert_eq (rb : Ringbuffer) (p : List UInt8) :
    ringbufferInsert rb p =
      ({ rb.insertBytes (p.take (min p.length rb.available)) with
          available := rb.available - min p.length rb.available }, min p.length rb.available) := by
  have n : (if p.length > ringbufferAvailable rb then ringbufferAvailable rb else p.length) =
      min p.length rb.available := by
    unfold ringbufferAvailable
    split_ifs <;> omega
  simp only [ringbufferInsert]
  rw [n, available_insertBytes]

@[simp] theorem ringbufferInsert_count (rb : Ringbuffer) (p : List UInt8) :
    (ringbufferInsert rb p).2 = min p.length rb.available := by
  rw [ringbufferInsert_eq]

@[simp] theorem total_ringbufferInsert (rb : Ringbuffer) (p : List UInt8) :
    (ringbufferInsert rb p).1.total = rb.total := by
  rw [ringbufferInsert_eq, total_insertBytes]

theorem ringbufferSize_ringbufferInsert (wf : rb.Wf) (p : List UInt8) :
    ringbufferSize (ringbufferInsert rb p).1 = ringbufferSize rb + min p.length rb.available := by
  have within := wf.available_le
  rw [ringbufferInsert_eq]
  simp only [ringbufferSize, total_insertBytes]
  omega

/-- An insert appends the bytes it copies. -/
theorem contents_ringbufferInsert (wf : rb.Wf) (p : List UInt8) :
    (ringbufferInsert rb p).1.contents = rb.contents ++ p.take (min p.length rb.available) := by
  set n := min p.length rb.available with hn
  have fits : (p.take n).length ≤ rb.total := by simp; have := wf.available_le; omega
  have room : ringbufferSize rb + n ≤ rb.total := by
    have := wf.available_le; unfold ringbufferSize; omega
  -- the `j`-th byte copied goes `ringbuffer_size + j` places after the head
  have written : ∀ j, j < n →
      wrapAdd rb.tail j rb.total = wrapAdd rb.head (ringbufferSize rb + j) rb.total :=
    fun j hj => by rw [wf.tail_eq, wrapAdd_wrapAdd wf.head_lt (by omega)]
  have len : (p.take n).length = n := List.length_take_of_le (by omega)
  rw [contents, ringbufferSize_ringbufferInsert wf, ← hn, List.range_add, List.map_append,
    ringbufferInsert_eq, ← hn]
  congr 1
  · -- the bytes already held are not overwritten
    apply List.map_congr_left
    intro i mem
    have hi : i < ringbufferSize rb := List.mem_range.1 mem
    simp only [read, total_insertBytes, head_insertBytes]
    refine getD_insertBytes_other wf.tail_lt fits fun j hj same => ?_
    rw [written j (len ▸ hj)] at same
    have := wrapAdd_inj (by omega) (by omega) same
    omega
  · -- and the copied bytes follow them
    apply List.ext_getElem (by rw [List.length_map, List.length_map, List.length_range, len])
    intro j h₁ h₂
    have hj : j < n := by simpa using h₁
    simp only [List.getElem_map, List.getElem_range, read, total_insertBytes, head_insertBytes]
    rw [← written j hj]
    exact getD_insertBytes_written wf.tail_lt wf.length_base fits (by omega)

theorem wf_ringbufferInsert (wf : rb.Wf) (p : List UInt8) : (ringbufferInsert rb p).1.Wf := by
  set n := min p.length rb.available with hn
  have within := wf.available_le
  have fits : (p.take n).length ≤ rb.total := by simp; omega
  have size' := ringbufferSize_ringbufferInsert wf p
  rw [ringbufferInsert_eq, ← hn] at size' ⊢
  refine ⟨by simpa using wf.length_base, by simpa using wf.head_lt, by simp; omega, ?_⟩
  rw [size']
  simp only [total_insertBytes, head_insertBytes]
  have room : ringbufferSize rb + n ≤ rb.total := by unfold ringbufferSize; omega
  have len : (p.take n).length = n := List.length_take_of_le (by omega)
  rw [tail_insertBytes wf.tail_lt fits, wf.tail_eq, wrapAdd_wrapAdd wf.head_lt (by omega), len]

/-- `ringbuffer_delete` drops `min length size` bytes by moving the head. -/
theorem ringbufferDelete_eq (rb : Ringbuffer) (length : Nat) :
    ringbufferDelete rb length =
      ({ rb with head := wrapAdd rb.head (min length (ringbufferSize rb)) rb.total,
                 available := rb.available + min length (ringbufferSize rb) },
        min length (ringbufferSize rb)) := by
  have n : (if length > ringbufferSize rb then ringbufferSize rb else length) =
      min length (ringbufferSize rb) := by
    split_ifs <;> omega
  simp only [ringbufferDelete]
  rw [n, wrap_eq_wrapAdd]

@[simp] theorem ringbufferDelete_count (rb : Ringbuffer) (length : Nat) :
    (ringbufferDelete rb length).2 = min length (ringbufferSize rb) := by
  rw [ringbufferDelete_eq]

@[simp] theorem total_ringbufferDelete (rb : Ringbuffer) (length : Nat) :
    (ringbufferDelete rb length).1.total = rb.total := by
  rw [ringbufferDelete_eq]

theorem ringbufferSize_ringbufferDelete (rb : Ringbuffer) (length : Nat) :
    ringbufferSize (ringbufferDelete rb length).1 =
      ringbufferSize rb - min length (ringbufferSize rb) := by
  rw [ringbufferDelete_eq]
  simp only [ringbufferSize]
  omega

/-- A delete drops the first `length` bytes. -/
theorem contents_ringbufferDelete (wf : rb.Wf) (length : Nat) :
    (ringbufferDelete rb length).1.contents = rb.contents.drop length := by
  have le := size_le_total rb
  have rest : ringbufferSize rb - min length (ringbufferSize rb) = ringbufferSize rb - length := by
    omega
  simp only [contents]
  rw [ringbufferSize_ringbufferDelete, rest, drop_map_range, ringbufferDelete_eq]
  apply List.map_congr_left
  intro i mem
  have hi : i < ringbufferSize rb - length := List.mem_range.1 mem
  -- the bytes kept are read from the new head, `length` places after the old one
  have moved : min length (ringbufferSize rb) = length := by omega
  simp only [read, moved]
  rw [wrapAdd_wrapAdd wf.head_lt (by omega)]

theorem wf_ringbufferDelete (wf : rb.Wf) (length : Nat) : (ringbufferDelete rb length).1.Wf := by
  set m := min length (ringbufferSize rb) with hm
  have le := size_le_total rb
  have size' := ringbufferSize_ringbufferDelete rb length
  rw [ringbufferDelete_eq, ← hm] at size' ⊢
  refine ⟨wf.length_base, wrapAdd_lt wf.head_lt (by omega), ?_, ?_⟩
  · show rb.available + m ≤ rb.total
    have within := wf.available_le
    unfold ringbufferSize at hm
    omega
  · rw [size']
    show rb.tail = wrapAdd (wrapAdd rb.head m rb.total) (ringbufferSize rb - m) rb.total
    rw [wrapAdd_wrapAdd wf.head_lt (by omega), wf.tail_eq, Nat.add_sub_cancel' (by omega)]

/-- A peek that passes its assertion, and whose `offset + length` does not wrap, copies the
bytes from `offset` on, at most `length` of them. -/
theorem ringbufferPeek_eq (wf : rb.Wf) {offset length : Nat} (within : offset ≤ ringbufferSize rb)
    (noWrap : offset + length < 2 ^ 64) :
    ringbufferPeek rb offset length = some ((rb.contents.drop offset).take length) := by
  have le := size_le_total rb
  have count : (if (offset + length) % 2 ^ 64 > ringbufferSize rb then ringbufferSize rb - offset
      else length) = min length (ringbufferSize rb - offset) := by
    rw [Nat.mod_eq_of_lt noWrap]
    split_ifs <;> omega
  rw [ringbufferPeek, if_pos within]
  dsimp only
  rw [count, mod_eq_wrapAdd wf.head_lt (by omega),
    peekBytes_eq rb (wrapAdd_lt wf.head_lt (by omega)) (by omega), contents, take_drop_map_range]
  congr 1
  apply List.map_congr_left
  intro i mem
  have hi : i < min length (ringbufferSize rb - offset) := List.mem_range.1 mem
  rw [read, wrapAdd_wrapAdd wf.head_lt (by omega)]

theorem ringbufferPeek_of_lt {offset : Nat} (beyond : ringbufferSize rb < offset) (length : Nat) :
    ringbufferPeek rb offset length = none :=
  if_neg (Nat.not_le.2 beyond)

/-- A pop copies what a peek from the head copies and then deletes it. -/
theorem ringbufferPop_eq (wf : rb.Wf) {length : Nat} (noWrap : length < 2 ^ 64) :
    ringbufferPop rb length = some ((ringbufferDelete rb length).1, rb.contents.take length) := by
  have copied := ringbufferPeek_eq wf (Nat.zero_le _) (by omega : 0 + length < 2 ^ 64)
  rw [List.drop_zero] at copied
  have count : (rb.contents.take length).length = min length (ringbufferSize rb) := by simp
  simp only [ringbufferPop, copied, Option.bind_eq_bind, Option.bind_some, Option.pure_def]
  rw [ringbufferDelete_eq, count, wrap_eq_wrapAdd]

end Calls

/-! ## §6 — every run

A call keeps a buffer well formed and of the same `total`, and answers as the FIFO does
(`step_simulates`); the invariant and refinement rules of `Lts` carry both along a run. -/

section Runs

/-- **One call refines the FIFO's call.** From a well-formed buffer, a call whose lengths do
not wrap `size_t` answers as the FIFO does from the buffer's contents, and leaves the buffer
reading as the FIFO after the call. -/
theorem step_simulates (rb : Ringbuffer) (op : RingOp) (wf : rb.Wf) (noWrap : NoWrap op) :
    ByteFifo.step rb.toFifo op = ((rb.step op).1, (rb.step op).2.toFifo) := by
  cases op with
  | insert p =>
    have free : rb.total - ringbufferSize rb = rb.available := by
      have := wf.available_le
      unfold ringbufferSize
      omega
    simp only [ByteFifo.step, ByteFifo.room, step, toFifo, length_contents, free,
      ringbufferInsert_count, total_ringbufferInsert, contents_ringbufferInsert wf]
  | delete length =>
    simp only [ByteFifo.step, step, toFifo, length_contents, ringbufferDelete_count,
      total_ringbufferDelete, contents_ringbufferDelete wf]
  | pop length =>
    simp only [ByteFifo.step, step, toFifo, ringbufferPop_eq wf noWrap, total_ringbufferDelete,
      contents_ringbufferDelete wf]
  | peek offset length =>
    by_cases within : offset ≤ ringbufferSize rb
    · simp only [ByteFifo.step, step, toFifo, length_contents, if_pos within,
        ringbufferPeek_eq wf within noWrap]
    · simp only [ByteFifo.step, step, toFifo, length_contents, if_neg within,
        ringbufferPeek_of_lt (Nat.lt_of_not_le within)]

/-- A call keeps the buffer well formed. -/
theorem wf_step (rb : Ringbuffer) (op : RingOp) (wf : rb.Wf) (noWrap : NoWrap op) :
    (rb.step op).2.Wf := by
  cases op with
  | insert p => exact wf_ringbufferInsert wf p
  | delete length => exact wf_ringbufferDelete wf length
  | pop length =>
    simp only [step, ringbufferPop_eq wf noWrap]
    exact wf_ringbufferDelete wf length
  | peek offset length =>
    simp only [step]
    split <;> exact wf

/-- No call resizes the buffer. -/
@[simp] theorem total_step (rb : Ringbuffer) (op : RingOp) : (rb.step op).2.total = rb.total := by
  cases op with
  | insert p => exact total_ringbufferInsert rb p
  | delete length => exact total_ringbufferDelete rb length
  | pop length =>
    simp only [step, ringbufferPop, ringbufferPeek]
    split_ifs <;> rfl
  | peek offset length =>
    simp only [step]
    split <;> rfl

/-- The invariant a run keeps: well formed, `n` bytes long. -/
def Sized (n : Nat) (rb : Ringbuffer) : Prop := rb.Wf ∧ rb.total = n

theorem sized_step {n : Nat} (rb : Ringbuffer) (op : RingOp) (sized : Sized n rb)
    (noWrap : NoWrap op) : Sized n (rb.step op).2 :=
  ⟨wf_step rb op sized.1 noWrap, (total_step rb op).trans sized.2⟩

/-- Size and room add up to the length of a well-formed buffer. -/
theorem size_add_available (wf : rb.Wf) : ringbufferSize rb + ringbufferAvailable rb = rb.total := by
  have := wf.available_le
  unfold ringbufferSize ringbufferAvailable
  omega

/-- **The ring buffer refines a bounded FIFO.** On a buffer made by `ringbuffer_init(n)`,
`n > 0`, every sequence of calls whose lengths do not wrap `size_t` returns what a FIFO of
capacity `n` returns, leaves the buffer holding the FIFO's bytes, and keeps
`ringbuffer_size + ringbuffer_available = n`. -/
theorem ringbuffer_refines_fifo (n : Nat) (pos : 0 < n) (ops : List RingOp)
    (noWrap : ∀ op ∈ ops, NoWrap op) :
    Lts.replay ByteFifo.step (ringbufferInit n).toFifo ops =
        ((Lts.replay step (ringbufferInit n) ops).1,
          (Lts.replay step (ringbufferInit n) ops).2.toFifo) ∧
      ringbufferSize (Lts.replay step (ringbufferInit n) ops).2 +
        ringbufferAvailable (Lts.replay step (ringbufferInit n) ops).2 = n := by
  have init : Sized n (ringbufferInit n) := ⟨wf_ringbufferInit pos, rfl⟩
  have allowed : Lts.Allowed (fun _ op => NoWrap op) step (ringbufferInit n) ops :=
    Lts.allowed_of_mem _ (fun op mem _ => noWrap op mem) _
  have preserved : ∀ rb op, Sized n rb → NoWrap op → Sized n (rb.step op).2 :=
    fun rb op sized ok => sized_step rb op sized ok
  have final := Lts.replay_invariant _ _ preserved init allowed
  refine ⟨Lts.replay_refines _ _ toFifo preserved ?_ init allowed, ?_⟩
  · exact fun rb op sized ok => step_simulates rb op sized.1 ok
  · rw [size_add_available final.1, final.2]

/-- Four calls on a two-byte buffer: the insert wraps the tail, the pop and the peek read
across the end. -/
theorem ringbuffer_refines_fifo_two :
    0 < 2 ∧ (∀ op ∈ [RingOp.insert [1, 2, 3], .pop 1, .insert [4], .peek 0 2], NoWrap op) ∧
      ringbufferSize (Lts.replay step (ringbufferInit 2)
          [.insert [1, 2, 3], .pop 1, .insert [4], .peek 0 2]).2 +
        ringbufferAvailable (Lts.replay step (ringbufferInit 2)
          [.insert [1, 2, 3], .pop 1, .insert [4], .peek 0 2]).2 = 2 :=
  ⟨Nat.zero_lt_two, by decide,
    (ringbuffer_refines_fifo 2 Nat.zero_lt_two [.insert [1, 2, 3], .pop 1, .insert [4], .peek 0 2]
      (by decide)).2⟩

/-- **`offset + length` wraps in `ringbuffer_peek`.** On a full two-byte buffer, a peek at
offset 1 for `SIZE_MAX` bytes passes the size check, since `1 + SIZE_MAX` is `0` in `size_t`,
and copies `SIZE_MAX` bytes where the FIFO holds one byte from that offset. -/
theorem ringbufferPeek_length_overflow :
    ((ringbufferInsert (ringbufferInit 2) [1, 2]).1.ringbufferPeek 1 (2 ^ 64 - 1)).map List.length =
        some (2 ^ 64 - 1) ∧
      (ByteFifo.step (ringbufferInsert (ringbufferInit 2) [1, 2]).1.toFifo
          (.peek 1 (2 ^ 64 - 1))).1 = .bytes [2] := by
  constructor
  · simp only [ringbufferPeek, Option.map_if, length_peekBytes]
    decide
  · decide

end Runs

end Ringbuffer

end Osi

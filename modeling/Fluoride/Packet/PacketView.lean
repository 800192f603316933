import Fluoride.Lib.Rope
import Mathlib.Data.UInt

/-!
# Packet views (`view.cc`, `packet_view.cc`, `iterator.cc`, `iterator.h`)

A `View` is a window `[begin_, end_)` on a shared byte vector. A `PacketView` is a list of
views (`fragments_`), read as the concatenation of their bytes, with the total size kept in
`length_`. An `Iterator` walks the same fragments by an index:
* `PacketView::at` and `Iterator::operator*` find a byte by walking the fragments
  (`Rope.get`);
* `GetSubviewList` cuts a range out of them (`Rope.slice`);
* `Append` counts the fragments down to the last byte (`Rope.insertionPoint`) and inserts the
  appended packet's fragments after it (`Rope.insertAfterEach`).

A view whose `begin_` lies past its `end_` has a wrapped `size()` and no byte; the model keeps
`begin ≤ end_ ≤ data.length` as fields of `View`, so such a view cannot be built. The
constructors take `begin ≤ end_` as an argument and clamp as the source does. A `PacketView`
keeps `length_` equal to the sum of its fragments' sizes as a field.

An `assert` that fails, and a read past the last fragment (`std::abort()`), make the model
return `none`. Sizes are `size_t` values. No subtraction of them wraps under the invariants, so
they are `Nat`. `Iterator::operator+` takes an `int`, and its index arithmetic is modulo
`2^64`.
-/

namespace Packet

/-- `View`: the bytes `[begin, end_)` of `data`. -/
structure View where
  data : List UInt8
  begin : Nat
  end_ : Nat
  begin_le : begin ≤ end_
  end_le : end_ ≤ data.length

namespace View

/-- `View(data, begin, end)`, both ends clamped to the vector. -/
def ofData (data : List UInt8) (begin end_ : Nat) (ordered : begin ≤ end_) : View :=
  ⟨data, if begin < data.length then begin else data.length,
    if end_ < data.length then end_ else data.length,
    by split_ifs <;> omega, by split_ifs <;> omega⟩

/-- `size()`. -/
def size (v : View) : Nat := v.end_ - v.begin

/-- `View(view, begin, end)`: a window of `view`, both ends clamped to its size and moved by
its `begin_`. -/
def sub (view : View) (begin end_ : Nat) (ordered : begin ≤ end_) : View :=
  ⟨view.data, (if begin < view.size then begin else view.size) + view.begin,
    (if end_ < view.size then end_ else view.size) + view.begin,
    by split_ifs <;> omega, by
      have := view.end_le
      have := view.begin_le
      unfold size
      split_ifs <;> omega⟩

/-- `operator[](i)`. -/
def get (v : View) (i : Nat) : Option UInt8 :=
  if i + v.begin < v.end_ then v.data[i + v.begin]? else none

/-- The bytes the view shows. -/
def bytes (v : View) : List UInt8 := (v.data.drop v.begin).take v.size

end View

/-- `PacketView<little_endian>`: the fragments and `length_`, their total size. -/
structure PacketView (littleEndian : Bool) where
  fragments : List View
  length : Nat
  length_eq : length = (fragments.map View.size).sum

/-- `Iterator<little_endian>`: the fragments, the index, and the bounds `[begin_, end_)` it
reads in. -/
structure Iterator (littleEndian : Bool) where
  data : List View
  index : Nat
  begin : Nat
  end_ : Nat

namespace Iterator

variable {littleEndian : Bool}

/-- `Iterator(data, offset)`: reads all of the fragments. -/
def ofViews (data : List View) (offset : Nat) : Iterator littleEndian :=
  ⟨data, offset, 0, (data.map View.size).sum⟩

/-- `operator+(offset)`: `index_ += offset`, the `int` converted to `size_t`. -/
def add (it : Iterator littleEndian) (offset : Int32) : Iterator littleEndian :=
  { it with index := ((it.index + offset.toInt) % 2 ^ 64).toNat }

/-- `operator++()`. -/
def incr (it : Iterator littleEndian) : Iterator littleEndian :=
  { it with index := it.index + 1 }

/-- `NumBytesRemaining()`. -/
def numBytesRemaining (it : Iterator littleEndian) : Nat :=
  if it.end_ > it.index ∧ it.index ≥ it.begin then it.end_ - it.index else 0

/-- `operator*()`. -/
def deref (it : Iterator littleEndian) : Option UInt8 :=
  if it.numBytesRemaining > 0 then Rope.get View.size View.get it.data it.index else none

/-- The loop of `extract<T>()` from byte `i` of `n = sizeof(T)`: byte `i` read goes to
`value_ptr[i]`, or to `value_ptr[n - i - 1]` for a big-endian view. -/
def extractLoop (n i : Nat) (value : List UInt8) (it : Iterator littleEndian) :
    Option (List UInt8 × Iterator littleEndian) :=
  if i < n then
    match it.deref with
    | none => none
    | some byte => extractLoop n (i + 1) (value.set (if littleEndian then i else n - i - 1) byte) it.incr
  else some (value, it)
termination_by n - i

/-- `extract<T>()` for a `T` of `n` bytes: the bytes of the value, and the iterator moved past
them. -/
def extract (it : Iterator littleEndian) (n : Nat) : Option (List UInt8 × Iterator littleEndian) :=
  extractLoop n 0 (List.replicate n 0) it

end Iterator

/-- `at(index)`. -/
def PacketView.at {littleEndian : Bool} (p : PacketView littleEndian) (index : Nat) : Option UInt8 :=
  if index < p.length then Rope.get View.size View.get p.fragments index else none

namespace PacketView

variable {littleEndian : Bool}

/-- `PacketView(fragments)`: `length_` sums the fragments' sizes. -/
def ofFragments (fragments : List View) : PacketView littleEndian :=
  ⟨fragments, (fragments.map View.size).sum, rfl⟩

/-- `PacketView(packet)`: one view of the whole vector. -/
def ofPacket (packet : List UInt8) : PacketView littleEndian :=
  ⟨[View.ofData packet 0 packet.length (Nat.zero_le _)], packet.length, by
    simp [View.ofData, View.size]
    split_ifs <;> omega⟩

/-- `size()`. -/
def size (p : PacketView littleEndian) : Nat := p.length

/-- `begin()`. -/
def begin (p : PacketView littleEndian) : Iterator littleEndian := Iterator.ofViews p.fragments 0

/-- The view `GetSubviewList` cuts out of a fragment: `View(fragment, begin, begin + n)`. -/
def subviewOf (fragment : View) (begin n : Nat) : View :=
  fragment.sub begin (begin + n) (Nat.le_add_right begin n)

/-- `GetSubviewList(begin, end)`. -/
def getSubviewList (p : PacketView littleEndian) (begin end_ : Nat) : Option (List View) :=
  if begin ≤ end_ ∧ end_ ≤ p.length then
    some (Rope.slice View.size subviewOf p.fragments begin (end_ - begin))
  else none

/-- `GetLittleEndianSubview(begin, end)`. -/
def getLittleEndianSubview (p : PacketView littleEndian) (begin end_ : Nat) : Option (PacketView true) :=
  (p.getSubviewList begin end_).map ofFragments

/-- `GetBigEndianSubview(begin, end)`. -/
def getBigEndianSubview (p : PacketView littleEndian) (begin end_ : Nat) : Option (PacketView false) :=
  (p.getSubviewList begin end_).map ofFragments

/-- Inserting fragments after a fragment keeps the fragments' total size the sum of the two. -/
theorem sum_map_insertAfterEach (fragments added : List View) {ip : Nat}
    (inside : ip < fragments.length) :
    ((Rope.insertAfterEach fragments ip added).map View.size).sum =
      (fragments.map View.size).sum + (added.map View.size).sum := by
  rw [Rope.insertAfterEach_eq added fragments ip inside]
  conv => rhs; rw [← List.take_append_drop (ip + 1) fragments]
  simp only [List.map_append, List.sum_append]
  omega

/-- `Append(to_add)`: `to_add`'s fragments go after the fragment where `length_` runs out. -/
def append (p toAdd : PacketView littleEndian) : Option (PacketView littleEndian) :=
  match Rope.insertionPoint View.size p.fragments p.length 0 with
  | none => none
  | some insertionPoint =>
    if inside : insertionPoint < p.fragments.length then
      some ⟨Rope.insertAfterEach p.fragments insertionPoint toAdd.fragments, p.length + toAdd.length,
        by rw [sum_map_insertAfterEach _ _ inside, p.length_eq, toAdd.length_eq]⟩
    else none

end PacketView

end Packet

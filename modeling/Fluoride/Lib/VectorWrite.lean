import Mathlib.Data.List.Basic

/-!
# Writing behind the end of a resized vector

An emitter of C++ grows a `std::vector` with `resize(old_size + n)` and then writes its octets
through a pointer set to `data() + old_size`. The writes stay inside the vector exactly when
there are no more of them than it grew by (`emit_eq_none_iff`); when there are exactly as many,
the vector is the old one followed by the octets (`emit_of_length`).

A write past the end is undefined behaviour; `writeAt` returns `none` for it.
-/

namespace VectorWrite

variable {α : Type*}

/-- `std::vector::resize(n)`: cut to `n` elements, or grow with value-initialised ones. -/
def resize (v : List α) (n : Nat) (zero : α) : List α :=
  v.take n ++ List.replicate (n - v.length) zero

/-- Writing `xs` from position `pos` on, or `none` when the writes run past the end. -/
def writeAt (v : List α) (pos : Nat) (xs : List α) : Option (List α) :=
  if pos + xs.length ≤ v.length then some (v.take pos ++ xs ++ v.drop (pos + xs.length))
  else none

/-- Growing by `n` and writing `xs` behind the old end. -/
def emit (v : List α) (n : Nat) (zero : α) (xs : List α) : Option (List α) :=
  writeAt (resize v (v.length + n) zero) v.length xs

@[simp] theorem length_resize (v : List α) (n : Nat) (zero : α) :
    (resize v n zero).length = n := by
  simp only [resize, List.length_append, List.length_take, List.length_replicate]
  omega

theorem take_resize (v : List α) (n : Nat) (zero : α) : (resize v (v.length + n) zero).take v.length = v := by
  rw [resize, List.take_append_of_le_length (by simp), List.take_take,
    Nat.min_eq_left (Nat.le_add_right _ _), List.take_length]

theorem emit_eq_none_iff {v : List α} {n : Nat} {zero : α} {xs : List α} :
    emit v n zero xs = none ↔ n < xs.length := by
  simp only [emit, writeAt, length_resize]
  split_ifs with fits
  · simp only [false_iff, Nat.not_lt]
    omega
  · simp only [true_iff]
    omega

/-- **The writes fill what the vector grew by**: it is the old one followed by them. -/
theorem emit_of_length {v : List α} {n : Nat} {zero : α} {xs : List α} (exact : xs.length = n) :
    emit v n zero xs = some (v ++ xs) := by
  have fits : v.length + xs.length ≤ (resize v (v.length + n) zero).length := by simp [exact]
  rw [emit, writeAt, if_pos fits, take_resize, List.drop_of_length_le (by simp [exact])]
  simp

theorem emit_singleton (v : List α) (zero x : α) : emit v 1 zero [x] = some (v ++ [x]) :=
  emit_of_length rfl

end VectorWrite

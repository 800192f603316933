import Mathlib

/-!
# Little-endian multiword numbers

Bignum code keeps a number as an array of 32-bit words, least significant word first.
`val` is the number such a list denotes. The lemmas are the ones carry-chain proofs
need: how the value splits at the first word and at any point of the list, its bound
from the length, that two lists of one length with one value are equal, and how the
most significant word decides a comparison.
-/

namespace Multiword

/-- The number a list of 32-bit words denotes, least significant word first. -/
def val : List UInt32 → Nat
  | [] => 0
  | w :: ws => w.toNat + 2 ^ 32 * val ws

@[simp] theorem val_nil : val [] = 0 := rfl

@[simp] theorem val_cons (w : UInt32) (ws : List UInt32) :
    val (w :: ws) = w.toNat + 2 ^ 32 * val ws := rfl

/-- A list of `n` words denotes a number below `2 ^ (32 n)`. -/
theorem val_lt (ws : List UInt32) : val ws < 2 ^ (32 * ws.length) := by
  induction ws with
  | nil => simp
  | cons w ws ih =>
    have hw := w.toNat_lt
    calc val (w :: ws) = w.toNat + 2 ^ 32 * val ws := rfl
      _ < 2 ^ 32 + 2 ^ 32 * val ws := by omega
      _ = 2 ^ 32 * (val ws + 1) := by ring
      _ ≤ 2 ^ 32 * 2 ^ (32 * ws.length) := Nat.mul_le_mul_left _ ih
      _ = 2 ^ (32 * (w :: ws).length) := by
        rw [List.length_cons, Nat.mul_succ, Nat.pow_add, Nat.mul_comm]

theorem val_append (xs ys : List UInt32) :
    val (xs ++ ys) = val xs + 2 ^ (32 * xs.length) * val ys := by
  induction xs with
  | nil => simp
  | cons x xs ih =>
    rw [List.cons_append, val_cons, val_cons, ih, List.length_cons, Nat.mul_succ, Nat.pow_add]
    ring

/-- Adding a most significant word. -/
theorem val_concat (xs : List UInt32) (w : UInt32) :
    val (xs ++ [w]) = val xs + 2 ^ (32 * xs.length) * w.toNat := by
  rw [val_append, val_cons, val_nil]
  ring

@[simp] theorem val_replicate_zero (n : Nat) : val (List.replicate n 0) = 0 := by
  induction n with
  | zero => rfl
  | succ n ih => simp [List.replicate_succ, ih]

/-- A list of zero words denotes zero. -/
theorem val_eq_zero_of_forall {xs : List UInt32} (h : ∀ x ∈ xs, x = 0) : val xs = 0 := by
  induction xs with
  | nil => rfl
  | cons x xs ih =>
    rw [val_cons, h x List.mem_cons_self, ih fun y hy => h y (List.mem_cons_of_mem x hy)]
    rfl

/-- Splitting the words at `n`: the low part, and the high part at weight `2^(32 n)`. -/
theorem val_take_add_drop (xs : List UInt32) {n : Nat} (hn : n ≤ xs.length) :
    val xs = val (xs.take n) + 2 ^ (32 * n) * val (xs.drop n) := by
  conv_lhs => rw [← List.take_append_drop n xs]
  rw [val_append, List.length_take, Nat.min_eq_left hn]

/-- Two lists of one length that denote one number are equal. -/
theorem eq_of_val_eq : ∀ {xs ys : List UInt32}, xs.length = ys.length → val xs = val ys →
    xs = ys
  | [], [], _, _ => rfl
  | x :: xs, y :: ys, hl, hv => by
    rw [val_cons, val_cons] at hv
    have hx := x.toNat_lt
    have hy := y.toNat_lt
    -- the low words agree modulo `2 ^ 32`, the rest after dividing by it
    have hlow : x.toNat = y.toNat := by omega
    have hhigh : val xs = val ys := by omega
    rw [UInt32.toNat_inj.mp hlow, eq_of_val_eq (Nat.succ.inj hl) hhigh]

/-- The most significant word decides: a list whose top word is smaller denotes a smaller
number, whatever the words below. -/
theorem val_concat_lt_of_lt {xs ys : List UInt32} (hl : xs.length = ys.length) {a b : UInt32}
    (hab : a < b) : val (xs ++ [a]) < val (ys ++ [b]) := by
  rw [val_concat, val_concat, hl]
  have hx := val_lt xs
  have hab' : a.toNat + 1 ≤ b.toNat := UInt32.lt_iff_toNat_lt.mp hab
  rw [hl] at hx
  calc val xs + 2 ^ (32 * ys.length) * a.toNat
      < 2 ^ (32 * ys.length) * (a.toNat + 1) := by rw [Nat.mul_succ]; omega
    _ ≤ 2 ^ (32 * ys.length) * b.toNat := Nat.mul_le_mul_left _ hab'
    _ ≤ val ys + 2 ^ (32 * ys.length) * b.toNat := Nat.le_add_left _ _

end Multiword

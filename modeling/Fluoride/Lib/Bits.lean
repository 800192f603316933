import Mathlib.Data.Nat.Bitwise
import Mathlib.Data.UInt

/-!
# One-bit masks of a byte

A byte mask with one bit set, `2 ^ k`, tests bit `k`: `x &&& m ≠ 0` holds exactly when bit
`k` of `x` is set (`and_ne_zero_iff`), and then `m` lies within `x`
(`and_eq_self_of_and_ne_zero`). Testing a conjunction of masks tests each
(`and_and_ne_zero_iff`).
-/

namespace Bits

variable {x y m : UInt8} {k : Nat}

theorem and_ne_zero_iff (hm : m.toNat = 2 ^ k) : x &&& m ≠ 0 ↔ x.toNat.testBit k = true := by
  rw [ne_eq, ← UInt8.toNat_inj, UInt8.toNat_and, hm, Nat.and_two_pow, UInt8.toNat_zero]
  cases x.toNat.testBit k <;> simp

theorem and_eq_self_of_and_ne_zero (hm : m.toNat = 2 ^ k) (h : x &&& m ≠ 0) : m &&& x = m := by
  have set := (and_ne_zero_iff hm).1 h
  rw [← UInt8.toNat_inj, UInt8.toNat_and, hm, Nat.and_comm, Nat.and_two_pow, set]
  simp

theorem and_and_ne_zero_iff (hm : m.toNat = 2 ^ k) :
    x &&& y &&& m ≠ 0 ↔ x &&& m ≠ 0 ∧ y &&& m ≠ 0 := by
  rw [and_ne_zero_iff hm, and_ne_zero_iff hm, and_ne_zero_iff hm, UInt8.toNat_and,
    Nat.testBit_and, Bool.and_eq_true]

end Bits

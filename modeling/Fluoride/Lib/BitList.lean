import Mathlib.Data.Nat.Bitwise
import Mathlib.Data.UInt

/-!
# Bit strings, least significant bit first

A writer that packs values of a few bits each into bytes is described by the bit string it
has written: `lowBits x n`, the low `n` bits of `x` from bit 0 up, and `bytesBits`, a byte
string read eight bits a byte, low bit first. Putting `b` above the `s` bits of `v < 2 ^ s`
writes `b`'s bits after `v`'s (`lowBits_or_shiftLeft`); the low `a + c` bits of `x` are its
low `a` bits and then the low `c` bits of what lies above them (`lowBits_add`); and reducing
modulo `2 ^ k` keeps the low `k` bits (`lowBits_mod_two_pow`).
-/

namespace BitList

variable {x y : Nat} {n : Nat}

/-- The low `n` bits of `x`, least significant first. -/
def lowBits (x n : Nat) : List Bool := (List.range n).map x.testBit

/-- A byte string's bits, eight a byte, each byte's low bit first. -/
def bytesBits (bytes : List UInt8) : List Bool := bytes.flatMap fun b => lowBits b.toNat 8

@[simp] theorem length_lowBits : (lowBits x n).length = n := by simp [lowBits]

@[simp] theorem getElem_lowBits {i : Nat} (h : i < (lowBits x n).length) :
    (lowBits x n)[i] = x.testBit i := by
  simp [lowBits]

@[simp] theorem lowBits_zero : lowBits x 0 = [] := rfl

@[simp] theorem bytesBits_nil : bytesBits [] = [] := rfl

@[simp] theorem bytesBits_append (bs cs : List UInt8) :
    bytesBits (bs ++ cs) = bytesBits bs ++ bytesBits cs := by
  simp [bytesBits]

@[simp] theorem bytesBits_singleton (b : UInt8) : bytesBits [b] = lowBits b.toNat 8 := by
  simp [bytesBits]

theorem lowBits_congr (same : ∀ i < n, x.testBit i = y.testBit i) :
    lowBits x n = lowBits y n := by
  apply List.ext_getElem (by simp)
  intro i hx _
  simp only [getElem_lowBits]
  exact same i (by simpa using hx)

/-- The low `a + c` bits: the low `a`, then the low `c` of what lies above them. -/
theorem lowBits_add (x a c : Nat) : lowBits x (a + c) = lowBits x a ++ lowBits (x >>> a) c := by
  apply List.ext_getElem (by simp)
  intro i h _
  rw [getElem_lowBits, List.getElem_append]
  simp only [length_lowBits] at h ⊢
  split
  · simp
  · rw [getElem_lowBits, Nat.testBit_shiftRight]
    congr 1
    omega

theorem lowBits_mod_two_pow {k : Nat} (h : n ≤ k) : lowBits (x % 2 ^ k) n = lowBits x n :=
  lowBits_congr fun i hi => by
    rw [Nat.testBit_mod_two_pow]
    simp [show i < k by omega]

/-- `b` put above the `s` bits of `v` follows them. -/
theorem lowBits_or_shiftLeft {v s : Nat} (b : Nat) (hv : v < 2 ^ s) :
    lowBits (v ||| b <<< s) (s + n) = lowBits v s ++ lowBits b n := by
  rw [lowBits_add]
  congr 1
  · -- below `s` the shifted `b` has no bits
    refine lowBits_congr fun i hi => ?_
    simp [Nat.testBit_or, Nat.testBit_shiftLeft, hi]
  · -- above `s`, `v` has none
    refine lowBits_congr fun i _ => ?_
    have above : v.testBit (s + i) = false :=
      Nat.testBit_lt_two_pow (lt_of_lt_of_le hv (Nat.pow_le_pow_right Nat.zero_lt_two (by omega)))
    simp [Nat.testBit_shiftRight, Nat.testBit_or, Nat.testBit_shiftLeft, above]

end BitList

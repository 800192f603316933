import Mathlib.Data.UInt

/-!
# CMAC over a 128-bit block cipher (RFC 4493)

The AES-CMAC algorithm of RFC 4493 with the block cipher left abstract: `E k` is the
cipher under the key `k`, on 128-bit blocks written as sixteen octets, most significant
first. `generateSubkey` is the RFC's Generate_Subkey (Figure 2.2) and `cmac` its
AES-CMAC (Figure 2.3): the message is cut into blocks, the last one XORed with `K1` when
it is complete and padded with `10^i` and XORed with `K2` when it is not (or when the
message is empty), and the blocks go through a CBC-MAC from the zero block.

An implementation that stores octets in the other order works on `x.reverse`: the
lemmas on `Vector.reverse` here (`reverse_xor`, `reverse_zero`) are what a proof about
one needs, together with the index lemmas of every operation.
-/

namespace Cmac

/-- A 128-bit string, as sixteen octets, most significant first. -/
abbrev Block := Vector UInt8 16

/-- The octets of a block are indexed by `Fin 16`. -/
instance instNeZeroSixteen : NeZero (16 : Nat) := ⟨by decide⟩

@[simp] theorem get_eq_getElem {α : Type*} {n : Nat} (x : Vector α n) (i : Fin n) :
    x.get i = x[i.1] := rfl

/-- `const_Zero`, `0^128`. -/
def zero : Block := Vector.replicate 16 0

/-- `X XOR Y`. -/
def xor (x y : Block) : Block := Vector.zipWith (· ^^^ ·) x y

/-- `X << 1`: the bit string shifted left by one bit, its first bit dropped and a zero bit
appended. Octet `i` takes the top bit of octet `i + 1`. -/
def shiftLeft (x : Block) : Block :=
  Vector.ofFn fun i => (x[i] <<< 1) ||| (if h : i.1 + 1 < 16 then x[i.1 + 1] >>> 7 else 0)

/-- `MSB(X)`, the first bit, as 0 or 1. -/
def msb (x : Block) : UInt8 := x.get 0 >>> 7

/-- `const_Rb`, `0^120 || 10000111`. -/
def constRb : Block := Vector.ofFn fun i => if i.1 = 15 then 0x87 else 0

/-- A step of Generate_Subkey: `X << 1`, XORed with `const_Rb` when `MSB(X)` is 1. -/
def dbl (x : Block) : Block := if msb x = 0 then shiftLeft x else xor (shiftLeft x) constRb

/-- The first sixteen octets of `m` as a block: `M_i` is `block (m.drop (16 * (i - 1)))`. -/
def block (m : List UInt8) : Block := Vector.ofFn fun i => m.getD i 0

/-- `padding(x) = x || 10^i`, for an incomplete block `x` of fewer than sixteen octets. -/
def padding (x : List UInt8) : Block :=
  Vector.ofFn fun i => if i.1 < x.length then x.getD i 0 else if i.1 = x.length then 0x80 else 0

variable {K : Type*} (E : K → Block → Block)

/-- Generate_Subkey (Figure 2.2): `L := E_K(0^128)`, `K1` from `L` and `K2` from `K1`. -/
def generateSubkey (k : K) : Block × Block :=
  let l := E k zero
  let k1 := dbl l
  (k1, dbl k1)

/-- AES-CMAC (Figure 2.3) of the message `m` under the key `k`: `n` blocks, the last one
`M_last`, and the CBC-MAC `X` of the `n - 1` before it. -/
def cmac (k : K) (m : List UInt8) : Block :=
  let k1 := (generateSubkey E k).1
  let k2 := (generateSubkey E k).2
  let n := (m.length + 15) / 16
  let flag := n ≠ 0 ∧ m.length % 16 = 0
  let n := if n = 0 then 1 else n
  let mn := m.drop (16 * (n - 1))
  let mLast := if flag then xor (block mn) k1 else xor (padding mn) k2
  let x := (List.range (n - 1)).foldl (fun x i => E k (xor x (block (m.drop (16 * i))))) zero
  E k (xor mLast x)

/-! ## Octets -/

section Octets

variable {x y : Block} {m : List UInt8} {i : Nat}

@[simp] theorem getElem_zero (h : i < 16) : zero[i] = 0 := Vector.getElem_replicate h

@[simp] theorem getElem_xor (h : i < 16) : (xor x y)[i] = x[i] ^^^ y[i] :=
  Vector.getElem_zipWith h

@[simp] theorem getElem_block (h : i < 16) : (block m)[i] = m.getD i 0 :=
  Vector.getElem_ofFn h

theorem getElem_shiftLeft (h : i < 16) :
    (shiftLeft x)[i] = (x[i] <<< 1) ||| (if h' : i + 1 < 16 then x[i + 1] >>> 7 else 0) :=
  Vector.getElem_ofFn h

theorem getElem_padding (h : i < 16) :
    (padding m)[i] = if i < m.length then m.getD i 0 else if i = m.length then 0x80 else 0 :=
  Vector.getElem_ofFn h

theorem getElem_constRb (h : i < 16) : constRb[i] = if i = 15 then 0x87 else 0 :=
  Vector.getElem_ofFn h

theorem xor_comm (x y : Block) : xor x y = xor y x :=
  Vector.ext fun i h => by simp only [getElem_xor h, UInt8.xor_comm]

/-- XOR is octet by octet, so it does not see the order of the octets. -/
theorem reverse_xor (x y : Block) : (xor x y).reverse = xor x.reverse y.reverse :=
  Vector.ext fun i h => by simp only [Vector.getElem_reverse, getElem_xor]

theorem reverse_zero : zero.reverse = zero :=
  Vector.ext fun i h => by simp only [Vector.getElem_reverse, getElem_zero]

end Octets

/-! ## The CBC-MAC -/

/-- The CBC-MAC of a list of blocks from `x`: `X := E_K(X XOR M_i)` for each. -/
def cbcMac (k : K) (x : Block) (ms : List Block) : Block :=
  ms.foldl (fun x b => E k (xor x b)) x

/-- `cmac` is the CBC-MAC of its `n` blocks, `M_last` the last. -/
theorem cmac_eq_cbcMac (k : K) (m : List UInt8) :
    cmac E k m =
      let n := if (m.length + 15) / 16 = 0 then 1 else (m.length + 15) / 16
      let mn := m.drop (16 * (n - 1))
      cbcMac E k zero ((List.range (n - 1)).map (fun i => block (m.drop (16 * i))) ++
        [if (m.length + 15) / 16 ≠ 0 ∧ m.length % 16 = 0 then xor (block mn) (generateSubkey E k).1
          else xor (padding mn) (generateSubkey E k).2]) := by
  simp only [cmac, cbcMac, List.foldl_append, List.foldl_map, List.foldl_cons, List.foldl_nil]
  rw [xor_comm]

end Cmac

import Fluoride.Smp.Multprecision

/-!
# SMP — validating a peer's P-256 public key (`p_256_ecc_pp.cc`)

`ECC_ValidatePoint` checks the curve equation `y^2 = x^3 - 3x + b (mod p)` with the
modular routines of `p_256_multprecision.cc`, on the coordinates as received. It does not
compare them with p, so a coordinate written as its residue plus p passes whenever the
equation holds for the residue: `(p, √b)`, which stands for the point `(0, √b)`, is
accepted with `x = p`.
-/

namespace Smp

open Multiword

/-- The coordinates of a `Point` that `ECC_ValidatePoint` reads. -/
structure Point where
  x : List UInt32
  y : List UInt32
  deriving DecidableEq, Repr

/-- `curve_p256.b` as `p_256_init_curve` sets it. -/
def curveP256B : List UInt32 :=
  [0x27d2604b, 0x3bce3c3e, 0xcc53b0f6, 0x651d06b0, 0x769886bc, 0xb3ebbd55, 0xaa3a93e7,
    0x5ac635d8]

/-- `ECC_ValidatePoint`: `y^2 mod p` against `(x^2 - 3) x + b mod p`. -/
def eccValidatePoint (pt : Point) : Bool :=
  let y2Mod := multiprecisionMersennsSquaMod pt.y
  let rhs := multiprecisionMersennsSquaMod pt.x
  let three : List UInt32 := [3, 0, 0, 0, 0, 0, 0, 0]
  let rhs := multiprecisionSubMod rhs three
  let rhs := multiprecisionMersennsMultMod rhs pt.x
  let rhs := multiprecisionAddMod rhs curveP256B
  multiprecisionCompare rhs y2Mod == 0

/-- The point with `x = p` and `y` the square root of b below p is accepted, though its
`x` is not below p. -/
theorem eccValidatePoint_accepts_x_eq_p :
    eccValidatePoint ⟨curveP256P, [0x174f93f4, 0x28bf856a, 0x1dae8717, 0x541c2af3, 0x84a06bb6,
        0x2433bd5d, 0x0e2f83d7, 0x66485c78]⟩ = true ∧
      ¬ val curveP256P < val curveP256P ∧
      val [0x174f93f4, 0x28bf856a, 0x1dae8717, 0x541c2af3, 0x84a06bb6, 0x2433bd5d, 0x0e2f83d7,
        0x66485c78] < val curveP256P := by
  set_option maxRecDepth 4000 in
  refine ⟨by decide, lt_irrefl _, by decide⟩

end Smp

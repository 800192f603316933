import Fluoride.Lib.Multiword

/-!
# SMP — P-256 multiprecision arithmetic (`p_256_multprecision.cc`)

Numbers are arrays of `KEY_LENGTH_DWORDS_P256 = 8` words (`uint32_t`), least significant
first; a product has 16. An array is a list of `UInt32`, and each function returns what
it writes to its output array, with the carry or borrow the C function returns.

Loops over the words are recursions over the lists. The C code's comparisons used as
numbers (`carrier = (temp < carrier)`) are `ltBit`; its 8-bit partial carries in
`multiprecision_fast_mod_P256` are `UInt8`; its signed running carry `U` is a `UInt32`
whose top bit is the sign, as in the code.
-/

namespace Smp

open Multiword

/-- `curve_p256.p` as `p_256_init_curve` sets it: `2^256 - 2^224 + 2^192 + 2^96 - 1`. -/
def curveP256P : List UInt32 :=
  [0xFFFFFFFF, 0xFFFFFFFF, 0xFFFFFFFF, 0x0, 0x0, 0x0, 0x00000001, 0xFFFFFFFF]

/-- A C comparison used as a number: `1` when it holds, `0` when it does not. -/
def ltBit (x y : UInt32) : UInt32 := if x < y then 1 else 0

/-! ## Comparison, addition, subtraction and shifts -/

/-- The loop of `multiprecision_compare` over the words from the most significant down:
the first pair that differs decides. -/
def multiprecisionCompareTop : List UInt32 → List UInt32 → Int
  | a :: as, b :: bs => if a > b then 1 else if a < b then -1 else multiprecisionCompareTop as bs
  | _, _ => 0

/-- `multiprecision_compare`: `1`, `-1` or `0`. -/
def multiprecisionCompare (a b : List UInt32) : Int :=
  multiprecisionCompareTop a.reverse b.reverse

/-- One pass of the loop of `multiprecision_add`: the word written and the carry out. -/
def addWord (carrier a b : UInt32) : UInt32 × UInt32 :=
  let temp := a + carrier
  let carrier := ltBit temp carrier
  let temp := temp + b
  (temp, carrier ||| ltBit temp b)

/-- The loop of `multiprecision_add` from a word on, with the carry into it. -/
def multiprecisionAddFrom : List UInt32 → List UInt32 → UInt32 → List UInt32 × UInt32
  | a :: as, b :: bs, carrier =>
    let (c, carrier) := addWord carrier a b
    let (cs, carrier) := multiprecisionAddFrom as bs carrier
    (c :: cs, carrier)
  | _, _, carrier => ([], carrier)

/-- `multiprecision_add`: `c = a + b`; returns the carry out of the top word. -/
def multiprecisionAdd (a b : List UInt32) : List UInt32 × UInt32 :=
  multiprecisionAddFrom a b 0

/-- One pass of the loop of `multiprecision_sub`: the word written and the borrow out. -/
def subWord (borrow a b : UInt32) : UInt32 × UInt32 :=
  let temp := a - borrow
  let borrow := ltBit a temp
  let c := temp - b
  (c, borrow ||| ltBit temp c)

/-- The loop of `multiprecision_sub` from a word on, with the borrow into it. -/
def multiprecisionSubFrom : List UInt32 → List UInt32 → UInt32 → List UInt32 × UInt32
  | a :: as, b :: bs, borrow =>
    let (c, borrow) := subWord borrow a b
    let (cs, borrow) := multiprecisionSubFrom as bs borrow
    (c :: cs, borrow)
  | _, _, borrow => ([], borrow)

/-- `multiprecision_sub`: `c = a - b`; returns the borrow out of the top word. -/
def multiprecisionSub (a b : List UInt32) : List UInt32 × UInt32 :=
  multiprecisionSubFrom a b 0

/-- The loop of `multiprecision_lshift` from a word on, with the bit shifted into it. -/
def multiprecisionLshiftFrom : List UInt32 → UInt32 → List UInt32 × UInt32
  | a :: as, carrier =>
    let c := (a <<< 1) ||| carrier
    let (cs, carrier) := multiprecisionLshiftFrom as (a >>> 31)
    (c :: cs, carrier)
  | [], carrier => ([], carrier)

/-- `multiprecision_lshift`: `c = a << 1`; returns the bit shifted out. -/
def multiprecisionLshift (a : List UInt32) : List UInt32 × UInt32 :=
  multiprecisionLshiftFrom a 0

/-- The loop of `multiprecision_rshift`, which runs from the most significant word down:
the words from the top, with the bit shifted into the first of them. -/
def multiprecisionRshiftTop : List UInt32 → UInt32 → List UInt32
  | a :: as, carrier => ((a >>> 1) ||| carrier) :: multiprecisionRshiftTop as (a <<< 31)
  | [], _ => []

/-- `multiprecision_rshift`: `c = a >> 1`. -/
def multiprecisionRshift (a : List UInt32) : List UInt32 :=
  (multiprecisionRshiftTop a.reverse 0).reverse

/-! ## Modular addition, subtraction and doubling -/

/-- `multiprecision_add_mod`: `c = (a + b) mod p` for `a, b < p`. -/
def multiprecisionAddMod (a b : List UInt32) : List UInt32 :=
  let (c, carrier) := multiprecisionAdd a b
  if carrier ≠ 0 then (multiprecisionSub c curveP256P).1
  else if multiprecisionCompare c curveP256P ≥ 0 then (multiprecisionSub c curveP256P).1
  else c

/-- `multiprecision_sub_mod`: `c = (a - b) mod p` for `a, b < p`. -/
def multiprecisionSubMod (a b : List UInt32) : List UInt32 :=
  let (c, borrow) := multiprecisionSub a b
  if borrow ≠ 0 then (multiprecisionAdd c curveP256P).1 else c

/-- `multiprecision_lshift_mod`: `c = 2a mod p` for `a < p`. -/
def multiprecisionLshiftMod (a : List UInt32) : List UInt32 :=
  let (c, carrier) := multiprecisionLshift a
  if carrier ≠ 0 then (multiprecisionSub c curveP256P).1
  else if multiprecisionCompare c curveP256P ≥ 0 then (multiprecisionSub c curveP256P).1
  else c

/-! ## Multiplication -/

/-- One pass of the inner loop of `multiprecision_mult`: adds `a[i] * b[j]` (its high word
`W` from the 64-bit product) and the carry `U` into `c[i + j]`. Returns the word written
and the new `U`. -/
def multWord (ai bj U cij : UInt32) : UInt32 × UInt32 :=
  let W : UInt32 := ((ai.toUInt64 * bj.toUInt64) >>> 32).toUInt32
  let V := ai * bj
  let V := V + U
  let U := ltBit V U
  let U := U + W
  let V := V + cij
  (V, U + ltBit V cij)

/-- The inner loop of `multiprecision_mult` for the word `ai = a[i]`: `b` holds the words
`b[j ..]`, `c` the words `c[i + j ..]`. Returns the words written and the final `U`. -/
def multiprecisionMultRow (ai : UInt32) :
    List UInt32 → List UInt32 → UInt32 → List UInt32 × UInt32
  | bj :: b, cij :: c, U =>
    let (V, U) := multWord ai bj U cij
    let (c, U) := multiprecisionMultRow ai b c U
    (V :: c, U)
  | _, _, U => ([], U)

/-- The outer loop of `multiprecision_mult` from the word `a[i]` on; `c` holds `c[i ..]`.
After the row, `c[i + 8] = U`, and `c[i]` is final. -/
def multiprecisionMultFrom : List UInt32 → List UInt32 → List UInt32 → List UInt32
  | ai :: a, b, c =>
    let (row, U) := multiprecisionMultRow ai b c 0
    match row ++ U :: c.drop (b.length + 1) with
    | ci :: c => ci :: multiprecisionMultFrom a b c
    | [] => []
  | [], _, c => c

/-- `multiprecision_mult`: the product of two 8-word numbers into 16 words, which
`multiprecision_init` first clears. -/
def multiprecisionMult (a b : List UInt32) : List UInt32 :=
  multiprecisionMultFrom a b (List.replicate (a.length + b.length) 0)

/-! ## Reduction modulo p -/

/-- The block that starts each word `c[k]`, `k ≥ 1`, of `multiprecision_fast_mod_P256`: the
running carry `U` goes into `a[k]`. A negative `U` (top bit set) is subtracted, and then
`U = (a[k] < -U)`. Returns `c[k]` and the new `U`. -/
def fastModCarryIn (U ak : UInt32) : UInt32 × UInt32 :=
  if U &&& 0x80000000 ≠ 0 then
    let UU := 0 - U
    (ak - UU, ltBit ak UU)
  else
    let ck := ak + U
    (ck, ltBit ck ak)

/-- `c[k] += x; U += (c[k] < x);` -/
def fastModAddWord (ck U x : UInt32) : UInt32 × UInt32 :=
  let ck := ck + x
  (ck, U + ltBit ck x)

/-- `U -= (c[k] < x); c[k] -= x;` -/
def fastModSubWord (ck U x : UInt32) : UInt32 × UInt32 :=
  (ck - x, U - ltBit ck x)

/-- `multiprecision_fast_mod_P256`: reduces a 16-word `a` modulo p by the NIST sums of its
words. The sums `A … G` of words `a[8 .. 15]` are formed first with 8-bit carries
`UA … UG`; each result word then adds and subtracts its terms, passing the signed carry
`U` up; finally p is added or subtracted `|U|` times and the result compared once with p. -/
def multiprecisionFastModP256 (a : List UInt32) : List UInt32 :=
  let a : Nat → UInt32 := fun i => a.getD i 0
  -- C = a[13] + a[14] + a[15]
  let C := a 13
  let C := C + a 14
  let UC : UInt8 := (ltBit C (a 14)).toUInt8
  let C := C + a 15
  let UC := UC + (ltBit C (a 15)).toUInt8
  -- E = a[8] + a[9]
  let E := a 8
  let E := E + a 9
  let UE : UInt8 := (ltBit E (a 9)).toUInt8
  -- F = a[9] + a[10]
  let F := a 9
  let F := F + a 10
  let UF : UInt8 := (ltBit F (a 10)).toUInt8
  -- G = a[10] + a[11]
  let G := a 10
  let G := G + a 11
  let UG : UInt8 := (ltBit G (a 11)).toUInt8
  -- B = a[12] + a[13] + a[14] + a[15] == C + a[12]
  let B := C
  let UB := UC
  let B := B + a 12
  let UB := UB + (ltBit B (a 12)).toUInt8
  -- A = a[11] + a[12] + a[13] + a[14] == B + a[11] - a[15]
  let A := B
  let UA := UB
  let A := A + a 11
  let UA := UA + (ltBit A (a 11)).toUInt8
  let UA := UA - (ltBit A (a 15)).toUInt8
  let A := A - a 15
  -- D = a[10] + a[11] + a[12] + a[13] == A + a[10] - a[14]
  let D := A
  let UD := UA
  let D := D + a 10
  let UD := UD + (ltBit D (a 10)).toUInt8
  let UD := UD - (ltBit D (a 14)).toUInt8
  let D := D - a 14
  -- c[0]
  let c0 := a 0
  let c0 := c0 + E
  let U := ltBit c0 E
  let U := U + UE.toUInt32
  let U := U - ltBit c0 A
  let U := U - UA.toUInt32
  let c0 := c0 - A
  -- c[1]
  let (c1, U) := fastModCarryIn U (a 1)
  let (c1, U) := fastModAddWord c1 U F
  let U := U + UF.toUInt32
  let (c1, U) := fastModSubWord c1 U B
  let U := U - UB.toUInt32
  -- c[2]
  let (c2, U) := fastModCarryIn U (a 2)
  let (c2, U) := fastModAddWord c2 U G
  let U := U + UG.toUInt32
  let (c2, U) := fastModSubWord c2 U C
  let U := U - UC.toUInt32
  -- c[3]
  let (c3, U) := fastModCarryIn U (a 3)
  let (c3, U) := fastModAddWord c3 U A
  let U := U + UA.toUInt32
  let (c3, U) := fastModAddWord c3 U (a 11)
  let (c3, U) := fastModAddWord c3 U (a 12)
  let (c3, U) := fastModSubWord c3 U (a 14)
  let (c3, U) := fastModSubWord c3 U (a 15)
  let (c3, U) := fastModSubWord c3 U E
  let U := U - UE.toUInt32
  -- c[4]
  let (c4, U) := fastModCarryIn U (a 4)
  let (c4, U) := fastModAddWord c4 U B
  let U := U + UB.toUInt32
  let (c4, U) := fastModSubWord c4 U (a 15)
  let (c4, U) := fastModAddWord c4 U (a 12)
  let (c4, U) := fastModAddWord c4 U (a 13)
  let (c4, U) := fastModSubWord c4 U F
  let U := U - UF.toUInt32
  -- c[5]
  let (c5, U) := fastModCarryIn U (a 5)
  let (c5, U) := fastModAddWord c5 U C
  let U := U + UC.toUInt32
  let (c5, U) := fastModAddWord c5 U (a 13)
  let (c5, U) := fastModAddWord c5 U (a 14)
  let (c5, U) := fastModSubWord c5 U G
  let U := U - UG.toUInt32
  -- c[6]
  let (c6, U) := fastModCarryIn U (a 6)
  let (c6, U) := fastModAddWord c6 U C
  let U := U + UC.toUInt32
  let (c6, U) := fastModAddWord c6 U (a 14)
  let (c6, U) := fastModAddWord c6 U (a 14)
  let (c6, U) := fastModAddWord c6 U (a 15)
  let (c6, U) := fastModSubWord c6 U E
  let U := U - UE.toUInt32
  -- c[7]
  let (c7, U) := fastModCarryIn U (a 7)
  let (c7, U) := fastModAddWord c7 U (a 15)
  let (c7, U) := fastModAddWord c7 U (a 15)
  let (c7, U) := fastModAddWord c7 U (a 15)
  let (c7, U) := fastModAddWord c7 U (a 8)
  let (c7, U) := fastModSubWord c7 U D
  let U := U - UD.toUInt32
  let c := [c0, c1, c2, c3, c4, c5, c6, c7]
  -- `while (U) { multiprecision_add(c, c, modp); U++; }` runs `-U` times for a negative
  -- `U`; the `multiprecision_sub` loop runs `U` times otherwise
  let c :=
    if U &&& 0x80000000 ≠ 0 then (fun c => (multiprecisionAdd c curveP256P).1)^[(0 - U).toNat] c
    else (fun c => (multiprecisionSub c curveP256P).1)^[U.toNat] c
  if multiprecisionCompare c curveP256P ≥ 0 then (multiprecisionSub c curveP256P).1 else c

/-- `multiprecision_mersenns_mult_mod`: `c = a * b mod p` by the fast reduction. -/
def multiprecisionMersennsMultMod (a b : List UInt32) : List UInt32 :=
  multiprecisionFastModP256 (multiprecisionMult a b)

/-- Two numbers below p whose product the fast reduction gets wrong by `2^193`: on the way
into word 6 the running carry `U` is negative, the subtraction borrows, and the code sets
`U = (a[k] < UU)`, a carry of `+1`, where the borrow is `-1`. -/
theorem multiprecisionMersennsMultMod_off_by_two_pow_193 :
    val [0x00000001, 0x00000001, 0x80000000, 0xf1446bea, 0x80000000, 0xfffffffe, 0x076ce2ef,
        0x77330bdb] < val curveP256P ∧
    val [0, 0, 0, 0x80000000, 0, 0, 0, 0] < val curveP256P ∧
    val (multiprecisionMersennsMultMod
        [0x00000001, 0x00000001, 0x80000000, 0xf1446bea, 0x80000000, 0xfffffffe, 0x076ce2ef,
          0x77330bdb]
        [0, 0, 0, 0x80000000, 0, 0, 0, 0]) =
      val [0x00000001, 0x00000001, 0x80000000, 0xf1446bea, 0x80000000, 0xfffffffe, 0x076ce2ef,
          0x77330bdb] * val [0, 0, 0, 0x80000000, 0, 0, 0, 0] % val curveP256P + 2 ^ 193 := by
  set_option maxRecDepth 4000 in
  decide

/-- `multiprecision_mersenns_squa_mod`. -/
def multiprecisionMersennsSquaMod (a : List UInt32) : List UInt32 :=
  multiprecisionMersennsMultMod a a

end Smp

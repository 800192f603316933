import Fluoride.Smp.Multprecision

/-!
# SMP — what the multiprecision routines compute

Each word step is stated as in a carry chain: the word written plus the carry out at
weight `2^32` is what the step adds up (`addWord_spec`, `subWord_spec`, …). The loops are
then recursions over the words, and their values follow by induction
(`multiprecisionAddFrom_spec`, …). On top of these, `multiprecision_add_mod`,
`multiprecision_sub_mod` and `multiprecision_lshift_mod` reduce correctly for inputs below
p, and `multiprecision_mult` is the exact product. Last, `FieldElem` carries the code's
representation of a field element (eight words below p), the modular routines keep it, and
`multiprecision_refines_zmod` reads them as the arithmetic of `ZMod p`.
-/

namespace Smp

open Multiword

/-! ## Word steps -/

theorem ltBit_toNat (x y : UInt32) : (ltBit x y).toNat = if x.toNat < y.toNat then 1 else 0 := by
  unfold ltBit
  split_ifs with h₁ h₂ h₂
  · rfl
  · exact absurd (UInt32.lt_iff_toNat_lt.mp h₁) h₂
  · exact absurd (UInt32.lt_iff_toNat_lt.mpr h₂) h₁
  · rfl

/-- One step of `multiprecision_add`: word plus carry out is the two words plus the carry
in. -/
theorem addWord_spec {carrier : UInt32} (a b : UInt32) (hc : carrier.toNat ≤ 1) :
    (addWord carrier a b).1.toNat + 2 ^ 32 * (addWord carrier a b).2.toNat =
      a.toNat + b.toNat + carrier.toNat ∧ (addWord carrier a b).2.toNat ≤ 1 := by
  have ha := a.toNat_lt
  have hb := b.toNat_lt
  simp only [addWord, ltBit, UInt32.lt_iff_toNat_lt, UInt32.toNat_add]
  split_ifs <;> simp_all <;> omega

/-- One step of `multiprecision_sub`: word plus the subtrahend and the borrow in is the
minuend plus the borrow out at weight `2^32`. -/
theorem subWord_spec {borrow : UInt32} (a b : UInt32) (hc : borrow.toNat ≤ 1) :
    (subWord borrow a b).1.toNat + b.toNat + borrow.toNat =
      a.toNat + 2 ^ 32 * (subWord borrow a b).2.toNat ∧ (subWord borrow a b).2.toNat ≤ 1 := by
  have ha := a.toNat_lt
  have hb := b.toNat_lt
  simp only [subWord, ltBit, UInt32.lt_iff_toNat_lt, UInt32.toNat_sub]
  split_ifs <;> simp_all <;> omega

/-! ## Addition and subtraction -/

/-- **`multiprecision_add`.** The words written and the carry out of the top word make up
the sum. -/
theorem multiprecisionAddFrom_spec : ∀ (a b : List UInt32) {carrier : UInt32},
    a.length = b.length → carrier.toNat ≤ 1 →
    val (multiprecisionAddFrom a b carrier).1 +
        2 ^ (32 * a.length) * (multiprecisionAddFrom a b carrier).2.toNat =
      val a + val b + carrier.toNat ∧
    (multiprecisionAddFrom a b carrier).2.toNat ≤ 1 ∧
    (multiprecisionAddFrom a b carrier).1.length = a.length
  | [], [], carrier, _, hc => by simpa [multiprecisionAddFrom] using hc
  | x :: a, y :: b, carrier, hl, hc => by
    obtain ⟨hw, hw1⟩ := addWord_spec x y hc
    obtain ⟨ih, ih1, ihl⟩ := multiprecisionAddFrom_spec a b (Nat.succ.inj hl) hw1
    simp only [multiprecisionAddFrom]
    refine ⟨?_, ih1, by rw [List.length_cons, ihl, List.length_cons]⟩
    -- the first word and its carry, then the rest of the chain at weight `2^32`
    calc val ((addWord carrier x y).1 :: (multiprecisionAddFrom a b (addWord carrier x y).2).1)
          + 2 ^ (32 * (x :: a).length) *
            (multiprecisionAddFrom a b (addWord carrier x y).2).2.toNat
        = (addWord carrier x y).1.toNat + 2 ^ 32 *
            (val (multiprecisionAddFrom a b (addWord carrier x y).2).1 + 2 ^ (32 * a.length) *
              (multiprecisionAddFrom a b (addWord carrier x y).2).2.toNat) := by
          rw [val_cons, List.length_cons, Nat.mul_succ, Nat.pow_add]
          ring
      _ = ((addWord carrier x y).1.toNat + 2 ^ 32 * (addWord carrier x y).2.toNat) +
            2 ^ 32 * (val a + val b) := by
          rw [ih]
          ring
      _ = val (x :: a) + val (y :: b) + carrier.toNat := by
          rw [hw, val_cons, val_cons]
          ring

theorem multiprecisionAdd_spec {a b : List UInt32} (hl : a.length = b.length) :
    val (multiprecisionAdd a b).1 + 2 ^ (32 * a.length) * (multiprecisionAdd a b).2.toNat =
      val a + val b ∧
    (multiprecisionAdd a b).2.toNat ≤ 1 ∧ (multiprecisionAdd a b).1.length = a.length := by
  have h := multiprecisionAddFrom_spec a b hl (show (0 : UInt32).toNat ≤ 1 by decide)
  simpa only [multiprecisionAdd, UInt32.toNat_zero, Nat.add_zero] using h

/-- **`multiprecision_sub`.** The words written plus the subtrahend make up the minuend
plus the borrow out at the top. -/
theorem multiprecisionSubFrom_spec : ∀ (a b : List UInt32) {borrow : UInt32},
    a.length = b.length → borrow.toNat ≤ 1 →
    val (multiprecisionSubFrom a b borrow).1 + val b + borrow.toNat =
      val a + 2 ^ (32 * a.length) * (multiprecisionSubFrom a b borrow).2.toNat ∧
    (multiprecisionSubFrom a b borrow).2.toNat ≤ 1 ∧
    (multiprecisionSubFrom a b borrow).1.length = a.length
  | [], [], borrow, _, hc => by simpa [multiprecisionSubFrom] using hc
  | x :: a, y :: b, borrow, hl, hc => by
    obtain ⟨hw, hw1⟩ := subWord_spec x y hc
    obtain ⟨ih, ih1, ihl⟩ := multiprecisionSubFrom_spec a b (Nat.succ.inj hl) hw1
    simp only [multiprecisionSubFrom]
    refine ⟨?_, ih1, by rw [List.length_cons, ihl, List.length_cons]⟩
    calc val ((subWord borrow x y).1 :: (multiprecisionSubFrom a b (subWord borrow x y).2).1)
          + val (y :: b) + borrow.toNat
        = ((subWord borrow x y).1.toNat + y.toNat + borrow.toNat) +
            2 ^ 32 * (val (multiprecisionSubFrom a b (subWord borrow x y).2).1 + val b) := by
          rw [val_cons, val_cons]
          ring
      _ = x.toNat + 2 ^ 32 * (subWord borrow x y).2.toNat +
            2 ^ 32 * (val (multiprecisionSubFrom a b (subWord borrow x y).2).1 + val b) := by
          rw [hw]
      _ = x.toNat + 2 ^ 32 * (val (multiprecisionSubFrom a b (subWord borrow x y).2).1 + val b
            + (subWord borrow x y).2.toNat) := by ring
      _ = val (x :: a) + 2 ^ (32 * (x :: a).length) *
            (multiprecisionSubFrom a b (subWord borrow x y).2).2.toNat := by
          rw [ih, val_cons, List.length_cons, Nat.mul_succ, Nat.pow_add]
          ring

theorem multiprecisionSub_spec {a b : List UInt32} (hl : a.length = b.length) :
    val (multiprecisionSub a b).1 + val b =
      val a + 2 ^ (32 * a.length) * (multiprecisionSub a b).2.toNat ∧
    (multiprecisionSub a b).2.toNat ≤ 1 ∧ (multiprecisionSub a b).1.length = a.length := by
  have h := multiprecisionSubFrom_spec a b hl (show (0 : UInt32).toNat ≤ 1 by decide)
  simpa only [multiprecisionSub, UInt32.toNat_zero, Nat.add_zero] using h

/-! ## Doubling -/

/-- The word `multiprecision_lshift` writes: the word shifted left, with the bit from the
word below in its lowest place. -/
theorem lshiftWord_toNat (a : UInt32) {carrier : UInt32} (hc : carrier.toNat ≤ 1) :
    ((a <<< 1) ||| carrier).toNat = 2 * a.toNat % 2 ^ 32 + carrier.toNat := by
  have ha := a.toNat_lt
  rw [UInt32.toNat_or, UInt32.toNat_shiftLeft]
  have hone : (1 : UInt32).toNat % 32 = 1 := rfl
  rw [hone, Nat.shiftLeft_eq, pow_one]
  -- the shifted word is even, so its `or` with one bit is a sum
  have heven : a.toNat * 2 % 2 ^ 32 = 2 ^ 1 * (a.toNat % 2 ^ 31) := by omega
  rw [heven, ← Nat.two_pow_add_eq_or_of_lt (by omega : carrier.toNat < 2 ^ 1)]
  omega

/-- The bit `multiprecision_lshift` carries out of a word. -/
theorem shiftOut_toNat (a : UInt32) : (a >>> 31).toNat = a.toNat / 2 ^ 31 := by
  rw [UInt32.toNat_shiftRight, Nat.shiftRight_eq_div_pow]
  rfl

/-- **`multiprecision_lshift`.** The words written and the bit out make up twice the
number, plus the bit shifted in. -/
theorem multiprecisionLshiftFrom_spec : ∀ (a : List UInt32) {carrier : UInt32},
    carrier.toNat ≤ 1 →
    val (multiprecisionLshiftFrom a carrier).1 +
        2 ^ (32 * a.length) * (multiprecisionLshiftFrom a carrier).2.toNat =
      2 * val a + carrier.toNat ∧
    (multiprecisionLshiftFrom a carrier).2.toNat ≤ 1 ∧
    (multiprecisionLshiftFrom a carrier).1.length = a.length
  | [], carrier, hc => by simpa [multiprecisionLshiftFrom] using hc
  | x :: a, carrier, hc => by
    have hx := x.toNat_lt
    have hout : (x >>> 31).toNat ≤ 1 := by rw [shiftOut_toNat]; omega
    obtain ⟨ih, ih1, ihl⟩ := multiprecisionLshiftFrom_spec a hout
    simp only [multiprecisionLshiftFrom]
    refine ⟨?_, ih1, by rw [List.length_cons, ihl, List.length_cons]⟩
    -- the word and the bit it shifts out make up twice the word plus the bit shifted in
    have hword : ((x <<< 1) ||| carrier).toNat + 2 ^ 32 * (x >>> 31).toNat =
        2 * x.toNat + carrier.toNat := by
      rw [lshiftWord_toNat x hc, shiftOut_toNat]
      omega
    calc val (((x <<< 1) ||| carrier) :: (multiprecisionLshiftFrom a (x >>> 31)).1) +
          2 ^ (32 * (x :: a).length) * (multiprecisionLshiftFrom a (x >>> 31)).2.toNat
        = ((x <<< 1) ||| carrier).toNat + 2 ^ 32 *
            (val (multiprecisionLshiftFrom a (x >>> 31)).1 + 2 ^ (32 * a.length) *
              (multiprecisionLshiftFrom a (x >>> 31)).2.toNat) := by
          rw [val_cons, List.length_cons, Nat.mul_succ, Nat.pow_add]
          ring
      _ = (((x <<< 1) ||| carrier).toNat + 2 ^ 32 * (x >>> 31).toNat) + 2 ^ 32 * (2 * val a) := by
          rw [ih]
          ring
      _ = 2 * val (x :: a) + carrier.toNat := by
          rw [hword, val_cons]
          ring

theorem multiprecisionLshift_spec (a : List UInt32) :
    val (multiprecisionLshift a).1 + 2 ^ (32 * a.length) * (multiprecisionLshift a).2.toNat =
      2 * val a ∧
    (multiprecisionLshift a).2.toNat ≤ 1 ∧ (multiprecisionLshift a).1.length = a.length := by
  have h := multiprecisionLshiftFrom_spec a (show (0 : UInt32).toNat ≤ 1 by decide)
  simpa only [multiprecisionLshift, UInt32.toNat_zero, Nat.add_zero] using h

/-! ## Multiplication -/

/-- One pass of the inner loop of `multiprecision_mult`: the word written and the new `U`
make up `a[i] * b[j]` plus the old `U` and the old word; no step overflows, since
`(2^32 - 1)^2 + 2 (2^32 - 1) < 2^64`. -/
theorem multWord_spec (ai bj U cij : UInt32) :
    (multWord ai bj U cij).1.toNat + 2 ^ 32 * (multWord ai bj U cij).2.toNat =
      ai.toNat * bj.toNat + U.toNat + cij.toNat := by
  have ha := ai.toNat_lt
  have hb := bj.toNat_lt
  have hu := U.toNat_lt
  have hc := cij.toNat_lt
  have hP : ai.toNat * bj.toNat ≤ (2 ^ 32 - 1) * (2 ^ 32 - 1) :=
    Nat.mul_le_mul (by omega) (by omega)
  -- `W` is the high word of the 64-bit product
  have hW : (((ai.toUInt64 * bj.toUInt64) >>> 32).toUInt32).toNat =
      ai.toNat * bj.toNat / 2 ^ 32 := by
    rw [UInt64.toNat_toUInt32, UInt64.toNat_shiftRight, UInt64.toNat_mul,
      UInt32.toNat_toUInt64, UInt32.toNat_toUInt64, Nat.shiftRight_eq_div_pow]
    have h32 : (32 : UInt64).toNat % 64 = 32 := rfl
    rw [h32, Nat.mod_eq_of_lt (by omega : ai.toNat * bj.toNat < 2 ^ 64)]
    omega
  simp only [multWord, ltBit, UInt32.lt_iff_toNat_lt, UInt32.toNat_add, UInt32.toNat_mul, hW]
  generalize ai.toNat * bj.toNat = P at hP hW ⊢
  split_ifs <;> simp_all <;> omega

/-- **The inner loop.** The words written and the final `U` make up the window's low
words plus `a[i] * b` plus the carry in. -/
theorem multiprecisionMultRow_spec (ai : UInt32) : ∀ (b c : List UInt32) (U : UInt32),
    b.length ≤ c.length →
    val (multiprecisionMultRow ai b c U).1 +
        2 ^ (32 * b.length) * (multiprecisionMultRow ai b c U).2.toNat =
      val (c.take b.length) + ai.toNat * val b + U.toNat ∧
    (multiprecisionMultRow ai b c U).1.length = b.length
  | [], c, U, _ => by simp [multiprecisionMultRow]
  | bj :: b, [], U, hl => absurd hl (by simp)
  | bj :: b, cij :: c, U, hl => by
    have hw := multWord_spec ai bj U cij
    obtain ⟨ih, ihl⟩ := multiprecisionMultRow_spec ai b c (multWord ai bj U cij).2
      (Nat.le_of_succ_le_succ hl)
    simp only [multiprecisionMultRow]
    refine ⟨?_, by rw [List.length_cons, ihl, List.length_cons]⟩
    calc val ((multWord ai bj U cij).1 :: (multiprecisionMultRow ai b c (multWord ai bj U cij).2).1)
          + 2 ^ (32 * (bj :: b).length) *
            (multiprecisionMultRow ai b c (multWord ai bj U cij).2).2.toNat
        = (multWord ai bj U cij).1.toNat + 2 ^ 32 *
            (val (multiprecisionMultRow ai b c (multWord ai bj U cij).2).1 + 2 ^ (32 * b.length) *
              (multiprecisionMultRow ai b c (multWord ai bj U cij).2).2.toNat) := by
          rw [val_cons, List.length_cons, Nat.mul_succ, Nat.pow_add]
          ring
      _ = ((multWord ai bj U cij).1.toNat + 2 ^ 32 * (multWord ai bj U cij).2.toNat) +
            2 ^ 32 * (val (c.take b.length) + ai.toNat * val b) := by
          rw [ih]
          ring
      _ = val ((cij :: c).take (bj :: b).length) + ai.toNat * val (bj :: b) + U.toNat := by
          rw [hw, List.length_cons, List.take_succ_cons, val_cons, val_cons]
          ring

/-- **The outer loop.** From the word `a[i]` on, with the window `c[i ..]` zero from its
`b.length`-th word up, the loop adds `a[i ..] * b` to the window. -/
theorem multiprecisionMultFrom_spec (b : List UInt32) : ∀ (a c : List UInt32),
    c.length = a.length + b.length → (∀ x ∈ c.drop b.length, x = 0) →
    val (multiprecisionMultFrom a b c) = val c + val a * val b ∧
      (multiprecisionMultFrom a b c).length = c.length
  | [], c, _, _ => by simp [multiprecisionMultFrom]
  | ai :: a, c, hl, hz => by
    rw [List.length_cons] at hl
    obtain ⟨hrow, hrowl⟩ := multiprecisionMultRow_spec ai b c 0 (by omega)
    simp only [multiprecisionMultFrom]
    generalize hr : multiprecisionMultRow ai b c 0 = r at hrow hrowl
    obtain ⟨row, U⟩ := r
    dsimp only at hrow hrowl ⊢
    -- the window after the row: `c[i .. i + 7]` rewritten, `c[i + 8] = U`
    have hzero : ∀ x ∈ c.drop (b.length + 1), x = 0 := fun x hx =>
      hz x (by rw [← List.drop_drop] at hx; exact List.mem_of_mem_drop hx)
    have hwin : val (row ++ U :: c.drop (b.length + 1)) = val c + ai.toNat * val b := by
      rw [val_append, hrowl, val_cons, val_eq_zero_of_forall hzero,
        val_take_add_drop c (n := b.length) (by omega), val_eq_zero_of_forall hz]
      simp only [UInt32.toNat_zero, Nat.add_zero, Nat.mul_zero] at hrow ⊢
      omega
    obtain ⟨ci, rest, hsplit⟩ : ∃ ci rest, row ++ U :: c.drop (b.length + 1) = ci :: rest := by
      cases row with
      | nil => exact ⟨U, c.drop (b.length + 1), rfl⟩
      | cons x row => exact ⟨x, row ++ U :: c.drop (b.length + 1), rfl⟩
    have hlen : (row ++ U :: c.drop (b.length + 1)).length = c.length := by
      simp only [List.length_append, hrowl, List.length_cons, List.length_drop]
      omega
    rw [hsplit] at hwin hlen
    -- the rest of the window is zero from its `b.length`-th word, as before
    have hrest : ∀ x ∈ rest.drop b.length, x = 0 := by
      have hd : rest.drop b.length = c.drop (b.length + 1) := by
        -- drop the row and `U` from both sides of the split
        have h := congrArg (List.drop (b.length + 1)) hsplit
        rw [List.drop_succ_cons, ← List.drop_drop, List.drop_left' hrowl, List.drop_one,
          List.tail_cons] at h
        exact h.symm
      rw [hd]
      exact hzero
    rw [List.length_cons] at hlen
    obtain ⟨ih, ihl⟩ := multiprecisionMultFrom_spec b a rest (by omega) hrest
    rw [hsplit]
    refine ⟨?_, by rw [List.length_cons, ihl]; omega⟩
    rw [val_cons, ih, val_cons]
    rw [val_cons] at hwin
    calc ci.toNat + 2 ^ 32 * (val rest + val a * val b)
        = (ci.toNat + 2 ^ 32 * val rest) + 2 ^ 32 * (val a * val b) := by ring
      _ = val c + (ai.toNat + 2 ^ 32 * val a) * val b := by rw [hwin]; ring

/-- **`multiprecision_mult`** is the exact product. -/
theorem multiprecisionMult_spec (a b : List UInt32) :
    val (multiprecisionMult a b) = val a * val b ∧
      (multiprecisionMult a b).length = a.length + b.length := by
  obtain ⟨h, hl⟩ := multiprecisionMultFrom_spec b a (List.replicate (a.length + b.length) 0)
    (by simp) (fun x hx => List.eq_of_mem_replicate (List.mem_of_mem_drop hx))
  refine ⟨?_, by rw [multiprecisionMult, hl, List.length_replicate]⟩
  rw [multiprecisionMult, h, val_replicate_zero, Nat.zero_add]

/-! ## Comparison -/

/-- The loop of `multiprecision_compare` compares the numbers the words denote (listed
from the top). -/
theorem multiprecisionCompareTop_spec : ∀ (xs ys : List UInt32), xs.length = ys.length →
    multiprecisionCompareTop xs ys =
      if val ys.reverse < val xs.reverse then 1
      else if val xs.reverse < val ys.reverse then -1 else 0
  | [], [], _ => by simp [multiprecisionCompareTop]
  | x :: xs, y :: ys, hl => by
    have hl' : xs.length = ys.length := Nat.succ.inj hl
    have hlr : xs.reverse.length = ys.reverse.length := by simp [hl']
    simp only [multiprecisionCompareTop, List.reverse_cons]
    by_cases hgt : y < x
    · -- the top words decide
      rw [if_pos hgt, if_pos (val_concat_lt_of_lt hlr.symm hgt)]
    · rw [if_neg hgt]
      by_cases hlt : x < y
      · have hv := val_concat_lt_of_lt hlr hlt
        rw [if_pos hlt, if_neg (Nat.lt_asymm hv), if_pos hv]
      · -- equal top words cancel, and the words below decide
        rw [if_neg hlt]
        have hxy : x = y := by
          apply UInt32.toNat_inj.mp
          have h₁ := mt UInt32.lt_iff_toNat_lt.mpr hgt
          have h₂ := mt UInt32.lt_iff_toNat_lt.mpr hlt
          omega
        subst hxy
        rw [multiprecisionCompareTop_spec xs ys hl', val_concat, val_concat, hlr]
        simp only [Nat.add_lt_add_iff_right]

/-- **`multiprecision_compare`** is the comparison of the numbers. -/
theorem multiprecisionCompare_spec {a b : List UInt32} (hl : a.length = b.length) :
    multiprecisionCompare a b =
      if val b < val a then 1 else if val a < val b then -1 else 0 := by
  unfold multiprecisionCompare
  rw [multiprecisionCompareTop_spec _ _ (by simp [hl]), List.reverse_reverse,
    List.reverse_reverse]

theorem multiprecisionCompare_nonneg_iff {a b : List UInt32} (hl : a.length = b.length) :
    multiprecisionCompare a b ≥ 0 ↔ val b ≤ val a := by
  rw [multiprecisionCompare_spec hl]
  split_ifs with h₁ h₂ <;> omega

/-! ## Reduction modulo p -/

theorem val_curveP256P : val curveP256P = 2 ^ 256 - 2 ^ 224 + 2 ^ 192 + 2 ^ 96 - 1 := by
  decide

@[simp] theorem length_curveP256P : curveP256P.length = 8 := rfl

section ModP

variable {a b : List UInt32}

/-- **`multiprecision_add_mod`.** For `a, b < p` the result is `(a + b) mod p`. -/
theorem multiprecisionAddMod_spec (ha : a.length = 8) (hb : b.length = 8)
    (hap : val a < val curveP256P) (hbp : val b < val curveP256P) :
    val (multiprecisionAddMod a b) = (val a + val b) % val curveP256P ∧
      (multiprecisionAddMod a b).length = 8 := by
  obtain ⟨hadd, hc1, hcl⟩ := multiprecisionAdd_spec (a := a) (b := b) (by rw [ha, hb])
  unfold multiprecisionAddMod
  generalize multiprecisionAdd a b = r at hadd hc1 hcl ⊢
  obtain ⟨c, carrier⟩ := r
  dsimp only at hadd hc1 hcl ⊢
  rw [ha] at hadd hcl
  have hcv := val_lt c
  obtain ⟨hsub, hb1, hsl⟩ := multiprecisionSub_spec (a := c) (b := curveP256P) (by rw [hcl]; rfl)
  have hsv := val_lt (multiprecisionSub c curveP256P).1
  rw [hsl, hcl] at hsv
  rw [hcl] at hsub hcv
  rw [val_curveP256P] at hap hbp hsub ⊢
  split_ifs with hcarry hcmp
  · -- the sum passed `2^256`: one subtraction of p brings it below p
    have hc : carrier.toNat = 1 := by
      have : carrier.toNat ≠ 0 := fun h0 => hcarry (UInt32.toNat_inj.mp h0)
      omega
    exact ⟨by omega, hsl.trans hcl⟩
  · -- at least p: subtract it once
    rw [multiprecisionCompare_nonneg_iff (by rw [hcl]; rfl), val_curveP256P] at hcmp
    have hc : carrier.toNat = 0 := by rw [not_not.mp hcarry]; rfl
    exact ⟨by omega, hsl.trans hcl⟩
  · -- already below p
    rw [multiprecisionCompare_nonneg_iff (by rw [hcl]; rfl), val_curveP256P] at hcmp
    have hc : carrier.toNat = 0 := by rw [not_not.mp hcarry]; rfl
    exact ⟨by omega, hcl⟩

/-- **`multiprecision_sub_mod`.** For `a, b < p` the result is `(a - b) mod p`. -/
theorem multiprecisionSubMod_spec (ha : a.length = 8) (hb : b.length = 8)
    (hap : val a < val curveP256P) (hbp : val b < val curveP256P) :
    val (multiprecisionSubMod a b) = (val a + val curveP256P - val b) % val curveP256P ∧
      (multiprecisionSubMod a b).length = 8 := by
  obtain ⟨hsub, hb1, hsl⟩ := multiprecisionSub_spec (a := a) (b := b) (by rw [ha, hb])
  unfold multiprecisionSubMod
  generalize multiprecisionSub a b = r at hsub hb1 hsl ⊢
  obtain ⟨c, borrow⟩ := r
  dsimp only at hsub hb1 hsl ⊢
  rw [ha] at hsub hsl
  have hcv := val_lt c
  obtain ⟨hadd, hc1, hal⟩ := multiprecisionAdd_spec (a := c) (b := curveP256P) (by rw [hsl]; rfl)
  have hav := val_lt (multiprecisionAdd c curveP256P).1
  rw [hal, hsl] at hav
  rw [hsl] at hadd hcv
  rw [val_curveP256P] at hap hbp hadd ⊢
  split_ifs with hborrow
  · -- `a < b`: p is added back, and that addition carries out
    have hb : borrow.toNat = 1 := by
      have : borrow.toNat ≠ 0 := fun h0 => hborrow (UInt32.toNat_inj.mp h0)
      omega
    exact ⟨by omega, hal.trans hsl⟩
  · have hb : borrow.toNat = 0 := by rw [not_not.mp hborrow]; rfl
    exact ⟨by omega, hsl⟩

/-- **`multiprecision_lshift_mod`.** For `a < p` the result is `2a mod p`. -/
theorem multiprecisionLshiftMod_spec (ha : a.length = 8) (hap : val a < val curveP256P) :
    val (multiprecisionLshiftMod a) = 2 * val a % val curveP256P ∧
      (multiprecisionLshiftMod a).length = 8 := by
  obtain ⟨hsh, hc1, hcl⟩ := multiprecisionLshift_spec a
  unfold multiprecisionLshiftMod
  generalize multiprecisionLshift a = r at hsh hc1 hcl ⊢
  obtain ⟨c, carrier⟩ := r
  dsimp only at hsh hc1 hcl ⊢
  rw [ha] at hsh hcl
  have hcv := val_lt c
  obtain ⟨hsub, hb1, hsl⟩ := multiprecisionSub_spec (a := c) (b := curveP256P) (by rw [hcl]; rfl)
  have hsv := val_lt (multiprecisionSub c curveP256P).1
  rw [hsl, hcl] at hsv
  rw [hcl] at hsub hcv
  rw [val_curveP256P] at hap hsub ⊢
  split_ifs with hcarry hcmp
  · -- the double passed `2^256`: what is left is below p, so the subtraction borrows
    have hc : carrier.toNat = 1 := by
      have : carrier.toNat ≠ 0 := fun h0 => hcarry (UInt32.toNat_inj.mp h0)
      omega
    have hcp : val c + 2 ^ 256 = 2 * val a := by rw [← hsh, hc]; rfl
    have hd : (multiprecisionSub c curveP256P).2.toNat = 1 := by omega
    have hval : val (multiprecisionSub c curveP256P).1 =
        2 * val a - (2 ^ 256 - 2 ^ 224 + 2 ^ 192 + 2 ^ 96 - 1) := by
      rw [hd] at hsub
      omega
    refine ⟨?_, hsl.trans hcl⟩
    rw [hval, Nat.mod_eq_sub_mod (by omega), Nat.mod_eq_of_lt (by omega)]
  · -- at least p: subtract it once, without a borrow
    rw [multiprecisionCompare_nonneg_iff (by rw [hcl]; rfl), val_curveP256P] at hcmp
    have hc : carrier.toNat = 0 := by rw [not_not.mp hcarry]; rfl
    have hcp : val c = 2 * val a := by rw [← hsh, hc]; rfl
    have hd : (multiprecisionSub c curveP256P).2.toNat = 0 := by omega
    have hval : val (multiprecisionSub c curveP256P).1 =
        2 * val a - (2 ^ 256 - 2 ^ 224 + 2 ^ 192 + 2 ^ 96 - 1) := by
      rw [hd] at hsub
      omega
    refine ⟨?_, hsl.trans hcl⟩
    rw [hval, Nat.mod_eq_sub_mod (by omega), Nat.mod_eq_of_lt (by omega)]
  · rw [multiprecisionCompare_nonneg_iff (by rw [hcl]; rfl), val_curveP256P] at hcmp
    have hc : carrier.toNat = 0 := by rw [not_not.mp hcarry]; rfl
    have hcp : val c = 2 * val a := by rw [← hsh, hc]; rfl
    refine ⟨?_, hcl⟩
    rw [hcp, Nat.mod_eq_of_lt (by omega)]

end ModP

/-! ## The field the routines compute in

The P-256 routines hold an element of the base field as eight words below p. On such
elements `multiprecision_add_mod`, `multiprecision_sub_mod` and `multiprecision_lshift_mod`
are the field's addition, subtraction and doubling, and `multiprecision_mult` is its
product before reduction. -/

/-- An element of the base field as the code holds it: eight words, below p. -/
structure FieldElem where
  words : List UInt32
  length_eq : words.length = 8
  lt_p : val words < val curveP256P

namespace FieldElem

/-- The residue modulo p the words denote. -/
def toZMod (x : FieldElem) : ZMod (val curveP256P) := val x.words

theorem p_pos : 0 < val curveP256P := by
  rw [val_curveP256P]
  omega

def addMod (x y : FieldElem) : FieldElem :=
  have spec := multiprecisionAddMod_spec x.length_eq y.length_eq x.lt_p y.lt_p
  ⟨multiprecisionAddMod x.words y.words, spec.2, spec.1 ▸ Nat.mod_lt _ p_pos⟩

def subMod (x y : FieldElem) : FieldElem :=
  have spec := multiprecisionSubMod_spec x.length_eq y.length_eq x.lt_p y.lt_p
  ⟨multiprecisionSubMod x.words y.words, spec.2, spec.1 ▸ Nat.mod_lt _ p_pos⟩

def lshiftMod (x : FieldElem) : FieldElem :=
  have spec := multiprecisionLshiftMod_spec x.length_eq x.lt_p
  ⟨multiprecisionLshiftMod x.words, spec.2, spec.1 ▸ Nat.mod_lt _ p_pos⟩

end FieldElem

open FieldElem in
/-- **The multiprecision routines refine arithmetic modulo p**: on elements below p, the
modular addition, subtraction and doubling denote the sum, difference and double in
`ZMod p`, and the sixteen-word product denotes the product. -/
theorem multiprecision_refines_zmod (x y : FieldElem) :
    (x.addMod y).toZMod = x.toZMod + y.toZMod ∧
      (x.subMod y).toZMod = x.toZMod - y.toZMod ∧
      x.lshiftMod.toZMod = 2 * x.toZMod ∧
      (val (multiprecisionMult x.words y.words) : ZMod (val curveP256P)) =
        x.toZMod * y.toZMod := by
  refine ⟨?_, ?_, ?_, ?_⟩
  · rw [toZMod, addMod, (multiprecisionAddMod_spec x.length_eq y.length_eq x.lt_p y.lt_p).1,
      ZMod.natCast_mod, Nat.cast_add]
    rfl
  · -- the code adds p before subtracting, and p is zero modulo p
    have below : val y.words ≤ val x.words + val curveP256P := by
      have := y.lt_p
      omega
    rw [toZMod, subMod, (multiprecisionSubMod_spec x.length_eq y.length_eq x.lt_p y.lt_p).1,
      ZMod.natCast_mod, Nat.cast_sub below, Nat.cast_add, ZMod.natCast_self, add_zero]
    rfl
  · rw [toZMod, lshiftMod, (multiprecisionLshiftMod_spec x.length_eq x.lt_p).1,
      ZMod.natCast_mod, Nat.cast_mul, Nat.cast_ofNat]
    rfl
  · rw [(multiprecisionMult_spec x.words y.words).1, Nat.cast_mul]
    rfl

end Smp

import Fluoride.Crypto.AesCmac
import Fluoride.Lib.ByteOrder
import Mathlib.Tactic.IntervalCases
import Mathlib.Tactic.Ring
import Mathlib.Data.Nat.Bitwise

/-!
# The crypto toolbox refines RFC 4493 and the Core Specification

Every `Octet16` of `aes_cmac.cc` is the RFC's block with its octets reversed. The proof
goes in the order the code runs:

* `cmac_generate_subkey` computes `K1` and `K2` (`cmacGenerateSubkey_eq`): the carry loop
  of `leftshift_onebit` is `X << 1` on the reversed octets (`leftshiftOnebit_eq`), and the
  MSB test and `const_Rb` are the RFC's on them;
* `aes_cmac` leaves the message at the end of `round` blocks (`HoldsMessage`), so a block
  above block 0 is, reversed, a whole block `M_i` of the reversed message
  (`reverse_blockAt`), and block 0, prepared, is `M_last` (`reverse_blockAt_zero`,
  `reverse_padding_blockAt_zero`): the stack's octets below the message are padded over;
* the loop of `cmac_aes_k_calculate` is a CBC-MAC over the blocks from the top of the
  buffer down (`foldl_cmacAesKCalculateStep`, `cmacAesKCalculate_eq`).

`aesCmac_eq_cmac` assembles them. The toolbox functions follow by reversing the
concatenations their messages are built from, and `g2`'s `le32toh` reads the last four
octets of the value (`beValue_toList_mod`, `toNat_le32`).
-/

namespace CryptoToolbox

open Cmac (Block)
open ByteOrder

section Octets

/-- What `& 0x80` keeps of an octet: its top bit, in place. -/
theorem toNat_and_0x80 (b : UInt8) : (b &&& 0x80).toNat = b.toNat / 128 * 128 := by
  rw [UInt8.toNat_and, show (0x80 : UInt8).toNat = 2 ^ 7 from rfl, Nat.and_two_pow,
    Nat.testBit_eq_decide_div_mod_eq]
  have lt : b.toNat < 256 := b.toNat_lt
  rcases (by omega : b.toNat / 128 = 0 ∨ b.toNat / 128 = 1) with top | top <;> simp [top]

theorem toNat_shiftRight_7 (b : UInt8) : (b >>> 7).toNat = b.toNat / 128 := by
  rw [UInt8.toNat_shiftRight, Nat.shiftRight_eq_div_pow]
  rfl

/-- `next_overflow`, the top bit of an octet. -/
theorem overflow_eq (b : UInt8) : (if b &&& 0x80 ≠ 0 then (1 : UInt8) else 0) = b >>> 7 := by
  have lt : b.toNat < 256 := b.toNat_lt
  rw [← UInt8.toNat_inj, toNat_shiftRight_7]
  split_ifs with top
  · -- the top bit is set
    have set : (b &&& 0x80).toNat ≠ 0 := fun zero => top (UInt8.toNat_inj.1 zero)
    rw [toNat_and_0x80] at set
    show 1 = b.toNat / 128
    omega
  · have clear : (b &&& 0x80).toNat = 0 := by rw [not_not.1 top]; rfl
    rw [toNat_and_0x80] at clear
    show 0 = b.toNat / 128
    omega

theorem and_0x80_ne_zero_iff (b : UInt8) : b &&& 0x80 ≠ 0 ↔ b >>> 7 ≠ 0 := by
  rw [Ne, Ne, ← UInt8.toNat_inj, ← UInt8.toNat_inj, toNat_and_0x80, toNat_shiftRight_7]
  simp

theorem xor128_eq (a b : Octet16) : xor128 a b = (Cmac.xor a.reverse b.reverse).reverse := by
  rw [Cmac.reverse_xor, Vector.reverse_reverse, Vector.reverse_reverse]
  rfl

theorem constRb_eq : constRb = Cmac.constRb.reverse :=
  Vector.ext fun i h => by
    rw [Vector.getElem_reverse, Cmac.getElem_constRb]
    simp only [constRb, Vector.getElem_ofFn]
    split_ifs <;> first | rfl | omega

theorem getD_leftshiftOnebitLoop (overflow : UInt8) (l : List UInt8) {i : Nat} (h : i < l.length) :
    (leftshiftOnebitLoop overflow l).getD i 0 =
      (l.getD i 0 <<< 1) ||| (if i = 0 then overflow else l.getD (i - 1) 0 >>> 7) := by
  induction l generalizing overflow i with
  | nil => exact absurd h (Nat.not_lt_zero _)
  | cons b bs ih =>
    cases i with
    | zero => simp [leftshiftOnebitLoop]
    | succ i =>
      simp only [leftshiftOnebitLoop, List.getD_cons_succ, Nat.add_sub_cancel, Nat.add_one_ne_zero,
        if_false]
      rw [ih _ (by simpa using h)]
      cases i with
      | zero =>
        rw [if_pos rfl, overflow_eq]
        rfl
      | succ i => simp

theorem getElem_leftshiftOnebit (p : Octet16) {i : Nat} (h : i < 16) :
    (leftshiftOnebit p)[i] = (p[i] <<< 1) ||| (if i = 0 then (0 : UInt8) else p[i - 1] >>> 7) := by
  have hl : i < (leftshiftOnebitLoop 0 p.toList).length := by
    simpa [length_leftshiftOnebitLoop] using h
  have e := getD_leftshiftOnebitLoop 0 p.toList (i := i) (by simpa using h)
  rw [← List.getElem_eq_getD (h := hl) 0] at e
  simp only [leftshiftOnebit, Vector.getElem_mk, List.getElem_toArray, e]
  split_ifs with h0
  · simp [List.getD_eq_getElem?_getD, h]
  · simp [List.getD_eq_getElem?_getD, h, show i - 1 < 16 by omega]

/-- `leftshift_onebit` is `X << 1` on the reversed octets. -/
theorem leftshiftOnebit_eq (p : Octet16) : leftshiftOnebit p = (Cmac.shiftLeft p.reverse).reverse :=
  Vector.ext fun i h => by
    rw [getElem_leftshiftOnebit p h, Vector.getElem_reverse, Cmac.getElem_shiftLeft]
    simp only [Vector.getElem_reverse]
    have e1 : 16 - 1 - (16 - 1 - i) = i := by omega
    simp only [e1]
    by_cases h0 : i = 0
    · subst h0
      rfl
    · have e2 : 16 - 1 - (16 - 1 - i + 1) = i - 1 := by omega
      rw [if_neg h0, dif_pos (by omega)]
      simp only [e2]

/-- A step of `cmac_generate_subkey` is the RFC's doubling on the reversed octets. -/
theorem subkeyStep_eq (p : Octet16) :
    (if p.get 15 &&& 0x80 ≠ 0 then xor128 (leftshiftOnebit p) constRb else leftshiftOnebit p) =
      (Cmac.dbl p.reverse).reverse := by
  have hmsb : Cmac.msb p.reverse = p.get 15 >>> 7 := by
    simp [Cmac.msb, Vector.getElem_reverse]
  unfold Cmac.dbl
  rw [hmsb, leftshiftOnebit_eq]
  by_cases h : p.get 15 &&& 0x80 ≠ 0
  · rw [if_pos h, if_neg ((and_0x80_ne_zero_iff _).mp h), xor128_eq, Vector.reverse_reverse,
      constRb_eq, Vector.reverse_reverse]
  · rw [if_neg h, if_pos (not_not.mp fun h' => h ((and_0x80_ne_zero_iff _).mpr h'))]

end Octets

/-! ## §2 — the buffer of blocks -/

section Buffer

variable {text : List UInt8} {j : Nat} {b : Octet16}

@[simp] theorem getElem_blockAt {i : Nat} (h : i < 16) :
    (blockAt text j)[i] = text.getD (j * 16 + i) 0 :=
  Vector.getElem_ofFn h

theorem length_setBlockAt (h : j * 16 + 16 ≤ text.length) :
    (setBlockAt text j b).length = text.length := by
  simp only [setBlockAt, kOctet16Length, List.length_append, List.length_take, Vector.length_toList,
    List.length_drop]
  omega

theorem getD_setBlockAt (h : j * 16 + 16 ≤ text.length) (k : Nat) :
    (setBlockAt text j b).getD k 0 =
      if j * 16 ≤ k ∧ k < j * 16 + 16 then b.toList.getD (k - j * 16) 0 else text.getD k 0 := by
  unfold setBlockAt kOctet16Length
  simp only [List.getD_eq_getElem?_getD]
  have hb : b.toList.length = 16 := by simp
  by_cases h1 : k < j * 16
  · rw [if_neg (by omega), List.append_assoc, List.getElem?_append_left (by simp; omega),
      List.getElem?_take_of_lt h1]
  by_cases h2 : k < j * 16 + 16
  · rw [if_pos ⟨by omega, h2⟩, List.getElem?_append_left (by simp; omega),
      List.getElem?_append_right (by simp; omega)]
    simp only [List.length_take]
    rw [Nat.min_eq_left (by omega)]
  · rw [if_neg (by omega), List.getElem?_append_right (by simp; omega), List.getElem?_drop]
    congr 2
    simp only [List.length_append, List.length_take, hb]
    omega

theorem blockAt_setBlockAt_self (h : j * 16 + 16 ≤ text.length) :
    blockAt (setBlockAt text j b) j = b :=
  Vector.ext fun i hi => by
    rw [getElem_blockAt hi, getD_setBlockAt h, if_pos ⟨by omega, by omega⟩, Nat.add_sub_cancel_left]
    simp [List.getD_eq_getElem?_getD, hi]

theorem blockAt_setBlockAt_of_ne (h : j * 16 + 16 ≤ text.length) {j' : Nat} (hne : j' ≠ j) :
    blockAt (setBlockAt text j b) j' = blockAt text j' :=
  Vector.ext fun i hi => by
    rw [getElem_blockAt hi, getElem_blockAt hi, getD_setBlockAt h, if_neg]
    rintro ⟨h1, h2⟩
    exact hne (by omega)

/-- The loop of `padding` over `i` in `[s, s + k)`: octets `15 - i` are written. -/
theorem getElem_padding_loop (len : Nat) {i : Nat} (hi : i < 16) :
    ∀ (k s : Nat) (d : Octet16), s + k ≤ 16 →
      ((List.range' s k).foldl
          (fun p t => p.setIfInBounds (kOctet16Length - t - 1) (if t = len then 0x80 else 0)) d)[i] =
        if 16 ≤ i + s + k ∧ i + s ≤ 15 then (if i + len = 15 then 0x80 else 0) else d[i]
  | 0, s, d, _ => by
    rw [List.range'_zero, List.foldl_nil, if_neg (by omega)]
  | k + 1, s, d, hk => by
    rw [List.range'_succ, List.foldl_cons, getElem_padding_loop len hi k (s + 1) _ (by omega),
      Vector.getElem_setIfInBounds hi]
    unfold kOctet16Length
    -- the octet written at `t = s` is `i` exactly when `i + s = 15`
    split_ifs <;> first | rfl | omega

/-- `padding(dest, length)`: from octet `15 - length` down, 0x80 then zeros. -/
theorem getElem_padding (dest : Octet16) (length : UInt8) (hl : length.toNat ≤ 16) {i : Nat}
    (hi : i < 16) :
    (padding dest length)[i] =
      if i + length.toNat ≤ 15 then (if i + length.toNat = 15 then 0x80 else 0) else dest[i] := by
  rw [padding, getElem_padding_loop _ hi _ _ _ (by unfold kOctet16Length; omega)]
  unfold kOctet16Length
  split_ifs <;> first | rfl | omega

end Buffer

section Subkeys

variable (aesEncrypt : Octet16 → Octet16 → Octet16)

/-- **`cmac_generate_subkey` computes the RFC's `K1` and `K2`**, least significant octet
first, and prepares the last block with them. -/
theorem cmacGenerateSubkey_eq (key : Octet16) (cb : CmacCb) :
    cmacGenerateSubkey aesEncrypt key cb =
      cmacPrepareLastBlock (Cmac.generateSubkey aesEncrypt key.reverse).1.reverse
        (Cmac.generateSubkey aesEncrypt key.reverse).2.reverse cb := by
  have hp : aes128 aesEncrypt key (Vector.replicate 16 0) =
      (aesEncrypt key.reverse Cmac.zero).reverse := by
    rw [aes128, show (Vector.replicate 16 (0 : UInt8)).reverse = Cmac.zero from Cmac.reverse_zero]
  simp only [cmacGenerateSubkey, hp, subkeyStep_eq, Vector.reverse_reverse, Cmac.generateSubkey]

end Subkeys

/-! ## §3 — the CBC-MAC of `cmac_aes_k_calculate` -/

section Calculate

variable (aesEncrypt : Octet16 → Octet16 → Octet16) (key : Octet16) (round : Nat)

/-- After a round, `output` is the last `x`. -/
theorem foldl_cmacAesKCalculateStep_output :
    ∀ (l : List Nat) (st : List UInt8 × Octet16 × Octet16), l ≠ [] →
      (l.foldl (cmacAesKCalculateStep aesEncrypt key round) st).2.2 =
        (l.foldl (cmacAesKCalculateStep aesEncrypt key round) st).2.1
  | [], _, h => absurd rfl h
  | [_], _, _ => rfl
  | _ :: i' :: l, _, _ => foldl_cmacAesKCalculateStep_output (i' :: l) _ (List.cons_ne_nil _ _)

/-- **The loop of `cmac_aes_k_calculate`** over `i` in `[s, s + k)` is a CBC-MAC of the
blocks `round - i` as they were before it: a round writes only the block it then reads, and
the rounds after it read lower blocks. -/
theorem foldl_cmacAesKCalculateStep (blk : Nat → Octet16) :
    ∀ (k s : Nat) (text : List UInt8) (x out : Octet16), 1 ≤ s → s + k ≤ round + 1 →
      round * 16 ≤ text.length →
      (∀ i, s ≤ i → i < s + k → blockAt text (round - i) = blk i) →
      ((List.range' s k).foldl (cmacAesKCalculateStep aesEncrypt key round) (text, x, out)).2.1 =
        (List.range' s k).foldl (fun x i => aes128 aesEncrypt key (xor128 (blk i) x)) x
  | 0, _, _, _, _, _, _, _, _ => rfl
  | k + 1, s, text, x, out, hs, hk, hlen, hblk => by
    rw [List.range'_succ, List.foldl_cons, List.foldl_cons]
    have hin : (round - s) * 16 + 16 ≤ text.length := by
      have : (round - s) * 16 + 16 ≤ round * 16 := by omega
      omega
    have hstep : cmacAesKCalculateStep aesEncrypt key round (text, x, out) s =
        (setBlockAt text (round - s) (xor128 (blk s) x), aes128 aesEncrypt key (xor128 (blk s) x),
          aes128 aesEncrypt key (xor128 (blk s) x)) := by
      simp only [cmacAesKCalculateStep, blockAt_setBlockAt_self hin, hblk s le_rfl (by omega)]
    rw [hstep]
    refine foldl_cmacAesKCalculateStep blk k (s + 1) _ _ _ (by omega) (by omega)
      (by rw [length_setBlockAt hin]; exact hlen) fun i h1 h2 => ?_
    rw [blockAt_setBlockAt_of_ne hin (by omega), hblk i (by omega) (by omega)]

/-- Under reversal, `X := AES_128(key, Mi (+) X)` is the RFC's `X := E_K(X XOR M_i)`. -/
theorem foldl_aes128_xor128 (blk : Nat → Octet16) :
    ∀ (l : List Nat) (x : Octet16),
      (l.foldl (fun x i => aes128 aesEncrypt key (xor128 (blk i) x)) x).reverse =
        Cmac.cbcMac aesEncrypt key.reverse x.reverse (l.map fun i => (blk i).reverse)
  | [], _ => rfl
  | i :: l, x => by
    rw [List.foldl_cons, foldl_aes128_xor128 blk l, List.map_cons]
    simp only [Cmac.cbcMac, List.foldl_cons]
    congr 1
    rw [aes128, Vector.reverse_reverse, xor128_eq, Vector.reverse_reverse, Cmac.xor_comm]

/-- **`cmac_aes_k_calculate` is the RFC's CBC-MAC** of the blocks of the buffer, from the
highest in memory down, each reversed. -/
theorem cmacAesKCalculate_eq (cb : CmacCb) (hr : 1 ≤ cb.round)
    (hlen : cb.round * 16 ≤ cb.text.length) :
    (cmacAesKCalculate aesEncrypt key cb).1 =
      (Cmac.cbcMac aesEncrypt key.reverse Cmac.zero
        ((List.range' 1 cb.round).map fun i => (blockAt cb.text (cb.round - i)).reverse)).reverse := by
  have hne : List.range' 1 cb.round ≠ [] := by
    obtain ⟨r, hr'⟩ : ∃ r, cb.round = r + 1 := ⟨cb.round - 1, by omega⟩
    rw [hr', List.range'_succ]
    exact List.cons_ne_nil _ _
  have h := foldl_aes128_xor128 aesEncrypt key (fun i => blockAt cb.text (cb.round - i))
    (List.range' 1 cb.round) (Vector.replicate 16 0)
  rw [show (Vector.replicate 16 (0 : UInt8)).reverse = Cmac.zero from Cmac.reverse_zero] at h
  rw [cmacAesKCalculate, foldl_cmacAesKCalculateStep_output _ _ _ _ _ hne,
    foldl_cmacAesKCalculateStep aesEncrypt key cb.round (fun i => blockAt cb.text (cb.round - i))
      _ _ _ _ _ le_rfl (by omega) hlen fun _ _ _ => rfl, ← h, Vector.reverse_reverse]

end Calculate

/-! ## §4 — the message in the buffer, and its last block -/

section Message

variable {m : List UInt8} {cb : CmacCb}

theorem getD_reverse {l : List UInt8} {k : Nat} (h : k < l.length) :
    l.reverse.getD k 0 = l.getD (l.length - 1 - k) 0 := by
  rw [List.getD_eq_getElem?_getD, List.getElem?_reverse h, ← List.getD_eq_getElem?_getD]

theorem getD_drop (l : List UInt8) (n k : Nat) : (l.drop n).getD k 0 = l.getD (n + k) 0 := by
  simp [List.getD_eq_getElem?_getD]

/-- The buffer as `aes_cmac` leaves it for the message `m`: `round` blocks, at least one,
with `m` at their end. What comes before `m` is the stack's. -/
structure HoldsMessage (m : List UInt8) (cb : CmacCb) : Prop where
  len_eq : cb.len = m.length
  round_eq : cb.round = if (m.length + 15) / 16 = 0 then 1 else (m.length + 15) / 16
  length_text : cb.text.length = cb.round * 16
  getD_text : ∀ k, cb.round * 16 - m.length ≤ k →
    cb.text.getD k 0 = m.getD (k - (cb.round * 16 - m.length)) 0

/-- A block above block 0 is a whole block of the message: reversed, the RFC's block `M_i`
with `i = round - j`. -/
theorem reverse_blockAt (h : HoldsMessage m cb) {j : Nat} (hj : 1 ≤ j) (hjn : j < cb.round) :
    (blockAt cb.text j).reverse = Cmac.block (m.reverse.drop (16 * (cb.round - 1 - j))) :=
  Vector.ext fun i hi => by
    have hr := h.round_eq
    rw [Vector.getElem_reverse, getElem_blockAt (by omega), Cmac.getElem_block hi, getD_drop,
      getD_reverse (by split_ifs at hr <;> omega),
      h.getD_text _ (by split_ifs at hr <;> omega)]
    congr 1
    split_ifs at hr <;> omega

/-- Block 0 of a message of whole blocks is its last block `M_n`. -/
theorem reverse_blockAt_zero (h : HoldsMessage m cb) (hflag : m.length % 16 = 0 ∧ m.length ≠ 0) :
    (blockAt cb.text 0).reverse = Cmac.block (m.reverse.drop (16 * (cb.round - 1))) :=
  Vector.ext fun i hi => by
    have hr := h.round_eq
    rw [Vector.getElem_reverse, getElem_blockAt (by omega), Cmac.getElem_block hi, getD_drop,
      getD_reverse (by split_ifs at hr <;> omega),
      h.getD_text _ (by split_ifs at hr <;> omega)]
    congr 1
    split_ifs at hr <;> omega

/-- Block 0 of any other message, once `padding` has run on it, is `padding(M_n)`: the
octets below the message, the stack's, are all overwritten. -/
theorem reverse_padding_blockAt_zero (h : HoldsMessage m cb)
    (hflag : ¬ (m.length % 16 = 0 ∧ m.length ≠ 0)) :
    (padding (blockAt cb.text 0) (m.length % 16).toUInt8).reverse =
      Cmac.padding (m.reverse.drop (16 * (cb.round - 1))) :=
  Vector.ext fun i hi => by
    have hr := h.round_eq
    have hpad : ((m.length % 16).toUInt8).toNat = m.length % 16 := by
      simp only [Nat.toUInt8_eq, UInt8.toNat_ofNat']
      omega
    have hlast : (m.reverse.drop (16 * (cb.round - 1))).length = m.length % 16 := by
      rw [List.length_drop, List.length_reverse]
      split_ifs at hr <;> omega
    rw [Vector.getElem_reverse, getElem_padding _ _ (by omega) (by omega), Cmac.getElem_padding hi,
      hlast, hpad]
    by_cases hi' : i < m.length % 16
    · -- an octet of the message
      rw [if_neg (by omega), if_pos hi', getElem_blockAt (by omega), getD_drop,
        getD_reverse (by split_ifs at hr <;> omega),
        h.getD_text _ (by split_ifs at hr <;> omega)]
      congr 1
      split_ifs at hr <;> omega
    · -- the `10^i` written over the stack's octets
      rw [if_pos (by omega), if_neg hi']
      split_ifs <;> first | rfl | omega

end Message

section Prepare

variable (k1 k2 : Octet16) {cb : CmacCb}

theorem cmacPrepareLastBlock_round : (cmacPrepareLastBlock k1 k2 cb).round = cb.round := by
  unfold cmacPrepareLastBlock
  dsimp only
  split <;> rfl

theorem length_cmacPrepareLastBlock (h : 16 ≤ cb.text.length) :
    (cmacPrepareLastBlock k1 k2 cb).text.length = cb.text.length := by
  unfold cmacPrepareLastBlock
  dsimp only
  split
  · exact length_setBlockAt (by omega)
  · rw [length_setBlockAt (by rw [length_setBlockAt (by omega)]; omega), length_setBlockAt (by omega)]

/-- `cmac_prepare_last_block` leaves the blocks above block 0 alone. -/
theorem blockAt_cmacPrepareLastBlock (h : 16 ≤ cb.text.length) {j : Nat} (hj : j ≠ 0) :
    blockAt (cmacPrepareLastBlock k1 k2 cb).text j = blockAt cb.text j := by
  unfold cmacPrepareLastBlock
  dsimp only
  split
  · exact blockAt_setBlockAt_of_ne (by omega) hj
  · rw [blockAt_setBlockAt_of_ne (by rw [length_setBlockAt (by omega)]; omega) hj,
      blockAt_setBlockAt_of_ne (by omega) hj]

/-- `cmac_prepare_last_block` on block 0: XORed with `k1`, or padded and XORed with `k2`. -/
theorem blockAt_zero_cmacPrepareLastBlock (h : 16 ≤ cb.text.length) :
    blockAt (cmacPrepareLastBlock k1 k2 cb).text 0 =
      if cb.len % 16 = 0 ∧ cb.len ≠ 0 then xor128 (blockAt cb.text 0) k1
      else xor128 (padding (blockAt cb.text 0) (cb.len % 16).toUInt8) k2 := by
  unfold cmacPrepareLastBlock
  dsimp only
  by_cases hf : cb.len % 16 = 0 ∧ cb.len ≠ 0
  · rw [if_pos hf, if_pos (show cb.len % kOctet16Length = 0 ∧ cb.len ≠ 0 from hf)]
    exact blockAt_setBlockAt_self (by omega)
  · rw [if_neg hf, if_neg (show ¬ (cb.len % kOctet16Length = 0 ∧ cb.len ≠ 0) from hf),
      blockAt_setBlockAt_self (by rw [length_setBlockAt (by omega)]; omega),
      blockAt_setBlockAt_self (by omega)]

end Prepare

/-- The buffer for the empty message, one block of whatever the stack held. -/
theorem holdsMessage_nil {text : List UInt8} {n : Nat} (hn : n = 1) (ht : text.length = n * 16) :
    HoldsMessage [] ⟨text, 0, n⟩ :=
  ⟨rfl, hn, ht, fun k hk => by
    simp only [List.length_nil, Nat.sub_zero] at hk
    simp only [List.getD_eq_getElem?_getD, List.getElem?_eq_none (show text.length ≤ k by omega),
      List.getElem?_nil]⟩

section Setup

variable (aesEncrypt : Octet16 → Octet16 → Octet16) (stack : Nat → UInt8) (key : Octet16)

/-- **`aes_cmac` sets up the buffer** for a message `m` of `length` octets, passed
non-null unless it is empty. -/
theorem exists_holdsMessage {input : Option (List UInt8)} {length : UInt16} {m : List UInt8}
    (hm : m.length = length.toNat) (hin : input = some m ∨ length.toNat = 0) :
    ∃ cb, HoldsMessage m cb ∧ aesCmac aesEncrypt stack key input length =
      (cmacAesKCalculate aesEncrypt key (cmacGenerateSubkey aesEncrypt key cb)).1 := by
  unfold aesCmac
  refine ⟨_, ?_, rfl⟩
  have hL : (length.toNat + kOctet16Length - 1) / kOctet16Length = (m.length + 15) / 16 := by
    unfold kOctet16Length
    omega
  rcases hin with rfl | h0
  · by_cases hpos : length.toNat > 0
    · -- the message copied to the end of the buffer
      dsimp only
      rw [if_pos hpos, List.take_of_length_le (le_of_eq hm)]
      refine ⟨hm.symm, by rw [hL], ?_, fun k hk => ?_⟩
      · simp only [List.length_append, List.length_take, List.length_map, List.length_range, hL]
        unfold kOctet16Length
        split_ifs <;> omega
      · dsimp only at hk ⊢
        rw [List.getD_eq_getElem?_getD, List.getElem?_append_right, ← List.getD_eq_getElem?_getD]
        · congr 1
          simp only [List.length_take, List.length_map, List.length_range, hL]
          unfold kOctet16Length at hk ⊢
          split_ifs at hk ⊢ <;> omega
        · simp only [List.length_take, List.length_map, List.length_range, hL]
          unfold kOctet16Length at hk ⊢
          split_ifs at hk ⊢ <;> omega
    · -- an empty message, passed non-null
      obtain rfl : m = [] := List.eq_nil_of_length_eq_zero (by omega)
      dsimp only
      rw [if_neg hpos]
      exact holdsMessage_nil (by unfold kOctet16Length; split_ifs <;> omega) (by simp [kOctet16Length])
  · -- an empty message, null or not
    obtain rfl : m = [] := List.eq_nil_of_length_eq_zero (by omega)
    have hn : (if (length.toNat + kOctet16Length - 1) / kOctet16Length = 0 then 1
        else (length.toNat + kOctet16Length - 1) / kOctet16Length) = 1 := by
      unfold kOctet16Length
      split_ifs <;> omega
    cases input with
    | none => exact holdsMessage_nil hn (by simp [kOctet16Length])
    | some bytes =>
      dsimp only
      rw [if_neg (by omega)]
      exact holdsMessage_nil hn (by simp [kOctet16Length])

end Setup


/-! ## §5 — `aes_cmac` is AES-CMAC -/

section Main

variable (aesEncrypt : Octet16 → Octet16 → Octet16) (stack : Nat → UInt8)

/-- **`aes_cmac` is RFC 4493's AES-CMAC** on the reversed key and message, reversed,
whatever the stack held, for every message passed non-null unless it is empty. -/
theorem aesCmac_eq_cmac (key : Octet16) {input : Option (List UInt8)} {length : UInt16}
    {m : List UInt8} (hm : m.length = length.toNat) (hin : input = some m ∨ length.toNat = 0) :
    aesCmac aesEncrypt stack key input length =
      (Cmac.cmac aesEncrypt key.reverse m.reverse).reverse := by
  obtain ⟨cb, hcb, heq⟩ := exists_holdsMessage aesEncrypt stack key hm hin
  have hr := hcb.round_eq
  have h16 : 16 ≤ cb.text.length := by
    rw [hcb.length_text]
    split_ifs at hr <;> omega
  rw [heq, cmacGenerateSubkey_eq]
  set k1 := (Cmac.generateSubkey aesEncrypt key.reverse).1
  set k2 := (Cmac.generateSubkey aesEncrypt key.reverse).2
  set cb₂ := cmacPrepareLastBlock k1.reverse k2.reverse cb with hcb₂
  have hround : cb₂.round = cb.round := cmacPrepareLastBlock_round _ _
  rw [cmacAesKCalculate_eq _ _ _ (by rw [hround]; split_ifs at hr <;> omega)
      (by rw [hround, length_cmacPrepareLastBlock _ _ h16, hcb.length_text])]
  rw [Cmac.cmac_eq_cbcMac]
  dsimp only
  rw [List.length_reverse, ← hr, hround]
  refine congrArg Vector.reverse (congrArg (Cmac.cbcMac aesEncrypt key.reverse Cmac.zero) ?_)
  -- the blocks, from block `round - 1` in memory down to block 0
  obtain ⟨r, hr1⟩ : ∃ r, cb.round = r + 1 := ⟨cb.round - 1, by split_ifs at hr <;> omega⟩
  rw [hr1, List.range'_concat, List.map_append, List.range'_eq_map_range, List.map_map,
    Nat.add_sub_cancel, hcb₂]
  have hlast : 16 * r = 16 * (cb.round - 1) := by omega
  refine congrArg₂ (· ++ ·) ?_ ?_
  · -- the blocks above block 0 are the message's
    refine List.map_congr_left fun i hi => ?_
    rw [List.mem_range] at hi
    rw [Function.comp_apply, blockAt_cmacPrepareLastBlock _ _ h16 (by omega),
      reverse_blockAt hcb (by omega) (by omega), show cb.round - 1 - (r + 1 - (1 + i)) = i by omega]
  · -- block 0 is `M_last`
    rw [List.map_singleton, show r + 1 - (1 + 1 * r) = 0 by omega,
      blockAt_zero_cmacPrepareLastBlock _ _ h16, hcb.len_eq, hlast]
    by_cases hf : m.length % 16 = 0 ∧ m.length ≠ 0
    · rw [if_pos hf, if_pos ⟨by omega, hf.1⟩, xor128_eq, Vector.reverse_reverse,
        Vector.reverse_reverse, reverse_blockAt_zero hcb hf]
    · rw [if_neg hf, if_neg (by omega), xor128_eq, Vector.reverse_reverse, Vector.reverse_reverse,
        reverse_padding_blockAt_zero hcb hf]
end Main

/-! ## §6 — the LE Secure Connections functions of the Core Specification -/

section Core

variable (E : Block → Block → Block)

/-- The value of octets, most significant first. -/
def beValue (l : List UInt8) : Nat := l.foldl (fun v b => v * 256 + b.toNat) 0

/-- The salt of `f5`, 0x6C888391AAF5A53860370BDB5A6083BE. -/
def coreF5Salt : Block :=
  #v[0x6C, 0x88, 0x83, 0x91, 0xAA, 0xF5, 0xA5, 0x38, 0x60, 0x37, 0x0B, 0xDB, 0x5A, 0x60, 0x83, 0xBE]

/-- `h6(W, keyID) = AES-CMAC_W(keyID)`. -/
def coreH6 (w : Block) (keyId : Vector UInt8 4) : Block := Cmac.cmac E w keyId.toList

/-- `h7(SALT, W) = AES-CMAC_SALT(W)`. -/
def coreH7 (salt w : Block) : Block := Cmac.cmac E salt w.toList

/-- `f4(U, V, X, Z) = AES-CMAC_X(U || V || Z)`. -/
def coreF4 (u v : Vector UInt8 32) (x : Block) (z : UInt8) : Block :=
  Cmac.cmac E x (u.toList ++ v.toList ++ [z])

/-- `f5(W, N1, N2, A1, A2)`: `T = AES-CMAC_SALT(W)`, then
`AES-CMAC_T(Counter || keyID || N1 || N2 || A1 || A2 || Length)` with keyID 0x62746c65 and
Length 256, Counter 0 for the MacKey and 1 for the LTK. -/
def coreF5 (w : Vector UInt8 32) (n1 n2 : Block) (a1 a2 : Vector UInt8 7) : Block × Block :=
  let t := Cmac.cmac E coreF5Salt w.toList
  let msg (counter : UInt8) : List UInt8 :=
    [counter] ++ [0x62, 0x74, 0x6c, 0x65] ++ n1.toList ++ n2.toList ++ a1.toList ++ a2.toList ++
      [0x01, 0x00]
  (Cmac.cmac E t (msg 0), Cmac.cmac E t (msg 1))

/-- `f6(W, N1, N2, R, IOcap, A1, A2) = AES-CMAC_W(N1 || N2 || R || IOcap || A1 || A2)`. -/
def coreF6 (w n1 n2 r : Block) (iocap : Vector UInt8 3) (a1 a2 : Vector UInt8 7) : Block :=
  Cmac.cmac E w (n1.toList ++ n2.toList ++ r.toList ++ iocap.toList ++ a1.toList ++ a2.toList)

/-- `g2(U, V, X, Y) = AES-CMAC_X(U || V || Y) mod 2^32`, shown as its six low decimal
digits. -/
def coreG2 (u v : Vector UInt8 32) (x y : Block) : Nat :=
  beValue (Cmac.cmac E x (u.toList ++ v.toList ++ y.toList)).toList % 2 ^ 32 % 1000000

end Core

/-! ## §7 — the toolbox functions are the Core Specification's -/

section Toolbox

variable (aesEncrypt : Octet16 → Octet16 → Octet16) (stack : Nat → UInt8)

theorem h6_eq (w : Octet16) (keyid : Vector UInt8 4) :
    h6 aesEncrypt stack w keyid = (coreH6 aesEncrypt w.reverse keyid.reverse).reverse := by
  rw [h6, aesCmac_eq_cmac aesEncrypt stack w (m := keyid.toList) (by simp) (.inl rfl), coreH6,
    Vector.toList_reverse]

theorem h7_eq (salt w : Octet16) :
    h7 aesEncrypt stack salt w = (coreH7 aesEncrypt salt.reverse w.reverse).reverse := by
  rw [h7, aesCmac_eq_cmac aesEncrypt stack salt (m := w.toList) (by simp) (.inl rfl), coreH7,
    Vector.toList_reverse]

theorem f4_eq (u v : Vector UInt8 32) (x : Octet16) (z : UInt8) :
    f4 aesEncrypt stack u v x z = (coreF4 aesEncrypt u.reverse v.reverse x.reverse z).reverse := by
  rw [f4, aesCmac_eq_cmac aesEncrypt stack x (m := [z] ++ v.toList ++ u.toList) (by simp)
    (.inl rfl), coreF4]
  simp [List.reverse_append, Vector.toList_reverse]

theorem f5Salt_reverse : f5Salt.reverse = coreF5Salt :=
  Vector.toList_inj.mp (by simp [f5Salt, coreF5Salt])

/-- `calculate_mac_key_or_ltk` with `f5`'s key id and length. -/
theorem calculateMacKeyOrLtk_eq (t : Octet16) (counter : UInt8) (n1 n2 : Octet16)
    (a1 a2 : Vector UInt8 7) :
    calculateMacKeyOrLtk aesEncrypt stack t counter #v[0x65, 0x6c, 0x74, 0x62] n1 n2 a1 a2
        #v[0x00, 0x01] =
      (Cmac.cmac aesEncrypt t.reverse
        ([counter] ++ [0x62, 0x74, 0x6c, 0x65] ++ n1.reverse.toList ++ n2.reverse.toList ++
          a1.reverse.toList ++ a2.reverse.toList ++ [0x01, 0x00])).reverse := by
  rw [calculateMacKeyOrLtk, aesCmac_eq_cmac aesEncrypt stack t (by simp) (.inl rfl)]
  simp [List.reverse_append, Vector.toList_reverse]

theorem f5_eq (w : Vector UInt8 32) (n1 n2 : Octet16) (a1 a2 : Vector UInt8 7) :
    f5 aesEncrypt stack w n1 n2 a1 a2 =
      ((coreF5 aesEncrypt w.reverse n1.reverse n2.reverse a1.reverse a2.reverse).1.reverse,
        (coreF5 aesEncrypt w.reverse n1.reverse n2.reverse a1.reverse a2.reverse).2.reverse) := by
  have ht : aesCmac aesEncrypt stack f5Salt (some w.toList) 32 =
      (Cmac.cmac aesEncrypt coreF5Salt w.reverse.toList).reverse := by
    rw [aesCmac_eq_cmac aesEncrypt stack f5Salt (m := w.toList) (by simp) (.inl rfl),
      f5Salt_reverse, Vector.toList_reverse]
  simp only [f5, coreF5, ht, calculateMacKeyOrLtk_eq, Vector.reverse_reverse]

theorem f6_eq (w n1 n2 r : Octet16) (iocap : Vector UInt8 3) (a1 a2 : Vector UInt8 7) :
    f6 aesEncrypt stack w n1 n2 r iocap a1 a2 =
      (coreF6 aesEncrypt w.reverse n1.reverse n2.reverse r.reverse iocap.reverse a1.reverse
        a2.reverse).reverse := by
  rw [f6, aesCmac_eq_cmac aesEncrypt stack w (by simp) (.inl rfl), coreF6]
  simp [List.reverse_append, Vector.toList_reverse]

end Toolbox

/-! ## §8 — `g2`'s six digits -/

section Value

theorem foldl_beValue (l : List UInt8) (a : Nat) :
    l.foldl (fun v b => v * 256 + b.toNat) a = a * 256 ^ l.length + beValue l := by
  induction l generalizing a with
  | nil => simp [beValue]
  | cons b l ih =>
    have hb : beValue (b :: l) = b.toNat * 256 ^ l.length + beValue l := by
      rw [beValue, List.foldl_cons, ih, Nat.zero_mul, Nat.zero_add]
    rw [List.foldl_cons, ih, hb, List.length_cons]
    ring

theorem beValue_append (l r : List UInt8) :
    beValue (l ++ r) = beValue l * 256 ^ r.length + beValue r := by
  rw [beValue, List.foldl_append, foldl_beValue]
  rfl

theorem beValue_cons (b : UInt8) (l : List UInt8) :
    beValue (b :: l) = b.toNat * 256 ^ l.length + beValue l := by
  simpa [beValue] using beValue_append [b] l

theorem beValue_lt (l : List UInt8) : beValue l < 256 ^ l.length := by
  induction l with
  | nil => simp [beValue]
  | cons b l ih =>
    have hb := b.toNat_lt
    rw [beValue_cons, List.length_cons, Nat.pow_succ]
    calc b.toNat * 256 ^ l.length + beValue l < b.toNat * 256 ^ l.length + 256 ^ l.length := by
          omega
      _ = (b.toNat + 1) * 256 ^ l.length := by ring
      _ ≤ 256 * 256 ^ l.length := Nat.mul_le_mul_right _ (by omega)
      _ = 256 ^ l.length * 256 := Nat.mul_comm _ _

/-- Reducing modulo `256 ^ n` keeps the last `n` octets. -/
theorem beValue_append_mod (l r : List UInt8) : beValue (l ++ r) % 256 ^ r.length = beValue r := by
  rw [beValue_append, Nat.add_comm, Nat.add_mul_mod_self_right, Nat.mod_eq_of_lt (beValue_lt r)]

/-- `mod 2^32` keeps the last four octets. -/
theorem beValue_toList_mod (blk : Block) :
    beValue blk.toList % 2 ^ 32 =
      (blk.get 12).toNat * 2 ^ 24 + (blk.get 13).toNat * 2 ^ 16 + (blk.get 14).toNat * 2 ^ 8 +
        (blk.get 15).toNat := by
  show _ = blk[12].toNat * 2 ^ 24 + blk[13].toNat * 2 ^ 16 + blk[14].toNat * 2 ^ 8 + blk[15].toNat
  have hlast : blk.toList.drop 12 = [blk[12], blk[13], blk[14], blk[15]] := by
    apply List.ext_getElem (by simp)
    intro i h₁ _
    simp only [List.length_drop, Vector.length_toList] at h₁
    simp only [List.getElem_drop, Vector.getElem_toList]
    interval_cases i <;> rfl
  have h12 := blk[12].toNat_lt
  have h13 := blk[13].toNat_lt
  have h14 := blk[14].toNat_lt
  have h15 := blk[15].toNat_lt
  rw [← List.take_append_drop 12 blk.toList, beValue_append, hlast]
  simp only [beValue, List.foldl_cons, List.foldl_nil, List.length_cons, List.length_nil]
  omega

/-- `le32toh` of the first four octets: the octets do not overlap in the word. -/
theorem toNat_le32 (p : Octet16) :
    (le32 p).toNat =
      (p.get 0).toNat + (p.get 1).toNat * 2 ^ 8 + (p.get 2).toNat * 2 ^ 16 +
        (p.get 3).toNat * 2 ^ 24 := by
  have h0 : (p.get 0).toNat < 256 := (p.get 0).toNat_lt
  have h1 : (p.get 1).toNat < 256 := (p.get 1).toNat_lt
  have h2 : (p.get 2).toNat < 256 := (p.get 2).toNat_lt
  rw [le32, UInt32.toNat_or, UInt32.toNat_or, UInt32.toNat_or, UInt8.toNat_toUInt32,
    toNat_toUInt32_shiftLeft _ _ (by decide), toNat_toUInt32_shiftLeft _ _ (by decide),
    toNat_toUInt32_shiftLeft _ _ (by decide)]
  have e8 : (8 : UInt32).toNat = 8 := rfl
  have e16 : (16 : UInt32).toNat = 16 := rfl
  have e24 : (24 : UInt32).toNat = 24 := rfl
  rw [e8, e16, e24, or_shiftLeft_eq_add (k := 8) (by omega),
    or_shiftLeft_eq_add (k := 16) (by omega), or_shiftLeft_eq_add (k := 24) (by omega)]

theorem g2_eq (aesEncrypt : Octet16 → Octet16 → Octet16) (stack : Nat → UInt8)
    (u v : Vector UInt8 32) (x y : Octet16) :
    (g2 aesEncrypt stack u v x y).toNat =
      coreG2 aesEncrypt u.reverse v.reverse x.reverse y.reverse := by
  have hc : aesCmac aesEncrypt stack x (some (y.toList ++ v.toList ++ u.toList)) 80 =
      (Cmac.cmac aesEncrypt x.reverse
        (u.reverse.toList ++ v.reverse.toList ++ y.reverse.toList)).reverse := by
    rw [aesCmac_eq_cmac aesEncrypt stack x (by simp) (.inl rfl)]
    simp [List.reverse_append, Vector.toList_reverse]
  -- the first four octets in memory are the last four of the value
  have e : ∀ blk : Block, blk.reverse.get 0 = blk.get 15 ∧ blk.reverse.get 1 = blk.get 14 ∧
      blk.reverse.get 2 = blk.get 13 ∧ blk.reverse.get 3 = blk.get 12 := fun blk =>
    ⟨Vector.getElem_reverse (by decide), Vector.getElem_reverse (by decide),
      Vector.getElem_reverse (by decide), Vector.getElem_reverse (by decide)⟩
  rw [g2, coreG2, hc, UInt32.toNat_mod, toNat_le32, beValue_toList_mod, (e _).1, (e _).2.1,
    (e _).2.2.1, (e _).2.2.2]
  congr 1
  omega

end Value

/-! ## §9 — the contract -/

/-- **The crypto toolbox computes RFC 4493's AES-CMAC and the Core Specification's `h6`,
`h7`, `f4`, `f5`, `f6` and `g2`** with AES-128 left abstract, every value stored least
significant octet first: `aes_cmac` for every key, every message passed non-null unless it
is empty, and whatever the stack held. -/
theorem cryptoToolbox_refines_core :
    (∀ (aesEncrypt : Octet16 → Octet16 → Octet16) (stack : Nat → UInt8) (key : Octet16)
        (input : Option (List UInt8)) (length : UInt16) (m : List UInt8),
        m.length = length.toNat → (input = some m ∨ length.toNat = 0) →
        aesCmac aesEncrypt stack key input length =
          (Cmac.cmac aesEncrypt key.reverse m.reverse).reverse) ∧
    (∀ aesEncrypt stack (w : Octet16) (keyid : Vector UInt8 4),
        h6 aesEncrypt stack w keyid = (coreH6 aesEncrypt w.reverse keyid.reverse).reverse) ∧
    (∀ aesEncrypt stack (salt w : Octet16),
        h7 aesEncrypt stack salt w = (coreH7 aesEncrypt salt.reverse w.reverse).reverse) ∧
    (∀ aesEncrypt stack (u v : Vector UInt8 32) (x : Octet16) (z : UInt8),
        f4 aesEncrypt stack u v x z = (coreF4 aesEncrypt u.reverse v.reverse x.reverse z).reverse) ∧
    (∀ aesEncrypt stack (w : Vector UInt8 32) (n1 n2 : Octet16) (a1 a2 : Vector UInt8 7),
        f5 aesEncrypt stack w n1 n2 a1 a2 =
          ((coreF5 aesEncrypt w.reverse n1.reverse n2.reverse a1.reverse a2.reverse).1.reverse,
            (coreF5 aesEncrypt w.reverse n1.reverse n2.reverse a1.reverse a2.reverse).2.reverse)) ∧
    (∀ aesEncrypt stack (w n1 n2 r : Octet16) (iocap : Vector UInt8 3) (a1 a2 : Vector UInt8 7),
        f6 aesEncrypt stack w n1 n2 r iocap a1 a2 =
          (coreF6 aesEncrypt w.reverse n1.reverse n2.reverse r.reverse iocap.reverse a1.reverse
            a2.reverse).reverse) ∧
    (∀ aesEncrypt stack (u v : Vector UInt8 32) (x y : Octet16),
        (g2 aesEncrypt stack u v x y).toNat =
          coreG2 aesEncrypt u.reverse v.reverse x.reverse y.reverse) :=
  ⟨fun aesEncrypt stack key _ _ _ hm hin => aesCmac_eq_cmac aesEncrypt stack key hm hin,
    h6_eq, h7_eq, f4_eq, f5_eq, f6_eq, g2_eq⟩

/-- The empty message through a null pointer, under the identity cipher. -/
theorem aesCmac_null_empty :
    aesCmac (fun _ b => b) (fun _ => 0) Cmac.zero none 0 =
      (Cmac.cmac (fun _ b => b) Cmac.zero.reverse ([] : List UInt8).reverse).reverse :=
  cryptoToolbox_refines_core.1 _ _ _ _ _ [] rfl (.inr rfl)

end CryptoToolbox

import Fluoride.Crypto.AesCmacRefines
import Mathlib.Data.Nat.Bitwise

/-!
# Resolvable private addresses (`hci/le_address_manager.cc`, `btm/btm_ble_addr.cc`)

`LeAddressManager::generate_rpa` draws a 24-bit `prand` whose two top bits are `01`, hashes it
under the local IRK and returns the `hci::Address` `hash || prand`. The legacy stack sees the
address as a `RawAddress` (`ToRawAddress`), recognises it as resolvable by its top bits
(`BTM_BLE_IS_RESOLVE_BDA`) and resolves it against an IRK by hashing its `prand` again
(`rpa_matches_irk`).

Three byte orders meet here: an `hci::Address` holds its least significant octet first, a
`RawAddress` its most significant first, and every `Octet16` block is least significant first,
`aes_128` reversing key, message and output around the cipher. The cipher `aes_encrypt` is left
abstract, on octets in FIPS-197 order, as in `Fluoride.Crypto.AesCmac`.

`rpaMatchesIrk_iff` shows that the three orders compose to the Core Specification's `ah`
(Vol 3, Part H, 2.2.2): the resolver accepts an address exactly when `ah(IRK, prand)` is its
hash field. The generator's output then resolves under its own IRK, and its random bits are
neither all zero nor all one (`generateRpa_resolves`).
-/

namespace Rpa

open CryptoToolbox (Octet16 aes128 beValue)
open Cmac (Block)

/-- `hci::Address`: six octets, least significant first. -/
structure Address where
  address : Vector UInt8 6
  deriving DecidableEq, Repr

/-- `RawAddress`: six octets, most significant first. -/
structure RawAddress where
  address : Vector UInt8 6
  deriving DecidableEq, Repr

/-- `ToRawAddress` (`main/shim/helpers.h`): the octets in the other order. -/
def toRawAddress (address : Address) : RawAddress :=
  ⟨#v[address.address[5], address.address[4], address.address[3], address.address[2],
    address.address[1], address.address[0]]⟩

/-- `BLE_ADDR_MASK` of the address manager. -/
def bleAddrMask : UInt8 := 0xc0

def bleResolveAddrMask : UInt8 := 0xc0

def bleResolveAddrMsb : UInt8 := 0x40

/-- `BTM_BLE_IS_RESOLVE_BDA`: the two top bits of the most significant octet are `01`. -/
def btmBleIsResolveBda (x : RawAddress) : Bool :=
  x.address[0] &&& bleResolveAddrMask == bleResolveAddrMsb

/-- The `Octet16` block of three octets, the rest zero, as `Octet16 rand{}` and three stores
make it. -/
def octet16Of3 (r0 r1 r2 : UInt8) : Octet16 :=
  (((Vector.replicate 16 0).set 0 r0).set 1 r1).set 2 r2

section Cipher

variable (aesEncrypt : Octet16 → Octet16 → Octet16)

/-- The `prand` of `LeAddressManager::generate_rpa`, given what `os::GenerateRandom` returns:
three octets, and a word drawn when the random part of `prand` is all zero or all one. -/
def generatePrand (random : Vector UInt8 3) (redraw : UInt32) : Vector UInt8 3 :=
  let prand := random.set 2 (random[2] &&& ~~~bleAddrMask)
  let prand :=
    if (prand[0] = 0x00 ∧ prand[1] = 0x00 ∧ prand[2] = 0x00) ∨
        (prand[0] = 0xFF ∧ prand[1] = 0xFF ∧ prand[2] = 0x3F) then
      prand.set 0 (redraw % 0xFE + 1).toUInt8
    else prand
  prand.set 2 (prand[2] ||| bleResolveAddrMsb)

/-- `LeAddressManager::generate_rpa`: `prand` in the most significant half of the address and
its hash under the IRK in the least significant half. -/
def generateRpa (rotationIrk : Octet16) (random : Vector UInt8 3) (redraw : UInt32) : Address :=
  let prand := generatePrand random redraw
  let rand := octet16Of3 prand[0] prand[1] prand[2]
  -- encrypt with IRK
  let p := aes128 aesEncrypt rotationIrk rand
  ⟨#v[p[0], p[1], p[2], prand[0], prand[1], prand[2]]⟩

/-- `rpa_matches_irk`: the three most significant octets are `prand`, and the hash of `prand`
is compared with the three least significant. -/
def rpaMatchesIrk (rpa : RawAddress) (irk : Octet16) : Bool :=
  let rand := octet16Of3 rpa.address[2] rpa.address[1] rpa.address[0]
  let x := aes128 aesEncrypt irk rand
  let rand := ((rand.set 0 rpa.address[5]).set 1 rpa.address[4]).set 2 rpa.address[3]
  -- memcmp(x.data(), rand.data(), 3) == 0
  x.toList.take 3 == rand.toList.take 3

end Cipher

/-! ## The Core Specification -/

section Core

variable (E : Block → Block → Block)

/-- `r' = padding || r`: 104 bits of zero, then the 24 bits of `r`, most significant octet
first. -/
def paddedR (r : Vector UInt8 3) : Block :=
  #v[0, 0, 0, 0, 0, 0, 0, 0, 0, 0, 0, 0, 0, r[0], r[1], r[2]]

/-- The random address hash function `ah(k, r) = e(k, r') mod 2^24`; `e` is the cipher on
128-bit values, octets most significant first. -/
def coreAh (k : Block) (r : Vector UInt8 3) : Nat :=
  beValue (E k (paddedR r)).toList % 2 ^ 24

end Core

/-- The 24 most significant bits of a resolvable private address. -/
def RawAddress.prand (r : RawAddress) : Vector UInt8 3 := #v[r.address[0], r.address[1], r.address[2]]

/-- The 24 least significant bits of a resolvable private address. -/
def RawAddress.hash (r : RawAddress) : Nat := beValue [r.address[3], r.address[4], r.address[5]]

/-- The 22 random bits of `prand`, below its two top bits. -/
def Address.randomPart (a : Address) : Nat :=
  a.address[5].toNat % 64 * 2 ^ 16 + a.address[4].toNat * 2 ^ 8 + a.address[3].toNat

/-! ## Byte orders -/

/-- The block `rpa_matches_irk` and `generate_rpa` encrypt is `r'`: reversed, it is the padding
and then `prand`, most significant octet first. -/
theorem octet16Of3_reverse (r0 r1 r2 : UInt8) :
    (octet16Of3 r0 r1 r2).reverse = paddedR #v[r2, r1, r0] := by
  apply Vector.ext
  intro i hi
  simp only [octet16Of3, paddedR, Vector.getElem_reverse, Vector.getElem_set,
    Vector.getElem_replicate]
  interval_cases i <;> simp

theorem take_three_toList (v : Octet16) : v.toList.take 3 = [v[0], v[1], v[2]] := by
  apply List.ext_getElem (by simp)
  intro i h₁ _
  have bound : i < 3 := by simpa using h₁
  simp only [List.getElem_take, Vector.getElem_toList]
  interval_cases i <;> rfl

/-- `ah` is the last three octets of the cipher's output. -/
theorem coreAh_eq (E : Block → Block → Block) (k : Block) (r : Vector UInt8 3) :
    coreAh E k r = beValue [(E k (paddedR r))[13],
      (E k (paddedR r))[14], (E k (paddedR r))[15]] := by
  set y := E k (paddedR r)
  have last : y.toList.drop 13 = [y[13], y[14], y[15]] := by
    apply List.ext_getElem (by simp)
    intro i h₁ _
    simp only [List.length_drop, Vector.length_toList] at h₁
    simp only [List.getElem_drop, Vector.getElem_toList]
    interval_cases i <;> rfl
  rw [coreAh, ← List.take_append_drop 13 y.toList, last,
    show (2 : Nat) ^ 24 = 256 ^ [y[13], y[14], y[15]].length by norm_num,
    CryptoToolbox.beValue_append_mod]

/-- Three octets, most significant first, are determined by their value. -/
theorem beValue_three_inj {a b c a' b' c' : UInt8} :
    beValue [a, b, c] = beValue [a', b', c'] ↔ a = a' ∧ b = b' ∧ c = c' := by
  have ha := a.toNat_lt
  have hb := b.toNat_lt
  have hc := c.toNat_lt
  have ha' := a'.toNat_lt
  have hb' := b'.toNat_lt
  have hc' := c'.toNat_lt
  simp only [beValue, List.foldl_cons, List.foldl_nil, ← UInt8.toNat_inj]
  omega

/-! ## Resolution is `ah` -/

/-- `rpa_matches_irk` accepts an address exactly when `ah` of the IRK, read most significant
octet first, and of the address's `prand` is its hash field. -/
theorem rpaMatchesIrk_iff (aesEncrypt : Octet16 → Octet16 → Octet16) (rpa : RawAddress)
    (irk : Octet16) :
    rpaMatchesIrk aesEncrypt rpa irk = true ↔
      coreAh aesEncrypt irk.reverse rpa.prand = rpa.hash := by
  set y := aesEncrypt irk.reverse (paddedR rpa.prand)
  -- the block encrypted is `r'`, and the octets compared are the last three of the output
  have block : (octet16Of3 rpa.address[2] rpa.address[1] rpa.address[0]).reverse =
      paddedR rpa.prand :=
    octet16Of3_reverse _ _ _
  have compared : (aes128 aesEncrypt irk
      (octet16Of3 rpa.address[2] rpa.address[1] rpa.address[0])).toList.take 3 =
        [y[15], y[14], y[13]] := by
    rw [take_three_toList, aes128, block]
    simp [Vector.getElem_reverse, y]
  have stored : ((((octet16Of3 rpa.address[2] rpa.address[1] rpa.address[0]).set 0
      rpa.address[5]).set 1 rpa.address[4]).set 2 rpa.address[3]).toList.take 3 =
        [rpa.address[5], rpa.address[4], rpa.address[3]] := by
    rw [take_three_toList]
    simp
  rw [rpaMatchesIrk, beq_iff_eq, compared, stored, coreAh_eq, RawAddress.hash,
    beValue_three_inj]
  simp only [List.cons.injEq, and_true]
  constructor
  · rintro ⟨h15, h14, h13⟩
    exact ⟨h13, h14, h15⟩
  · rintro ⟨h13, h14, h15⟩
    exact ⟨h15, h14, h13⟩

/-! ## Generation -/

/-- Masking leaves the 6 random bits of the top octet of `prand`. -/
theorem toNat_masked (x : UInt8) : (x &&& ~~~bleAddrMask).toNat = x.toNat % 64 := by
  have mask : (~~~bleAddrMask).toNat = 2 ^ 6 - 1 := by decide
  rw [UInt8.toNat_and, mask, Nat.and_two_pow_sub_one_eq_mod]

section TopOctet

variable {y : UInt8} (small : y.toNat < 64)
include small

/-- Setting `BLE_RESOLVE_ADDR_MSB` on 6 random bits adds 64. -/
theorem toNat_setTop : (y ||| bleResolveAddrMsb).toNat = y.toNat + 64 := by
  have top : bleResolveAddrMsb.toNat = 1 <<< 6 := by decide
  rw [UInt8.toNat_or, top, ByteOrder.or_shiftLeft_eq_add (k := 6) small]
  rfl

theorem setTop_shiftRight : (y ||| bleResolveAddrMsb) >>> 6 = 1 := by
  apply UInt8.toNat_inj.1
  rw [UInt8.toNat_shiftRight, toNat_setTop small, Nat.shiftRight_eq_div_pow]
  show (y.toNat + 64) / 2 ^ 6 = 1
  omega

theorem setTop_and : (y ||| bleResolveAddrMsb) &&& bleResolveAddrMask = bleResolveAddrMsb := by
  apply UInt8.toNat_inj.1
  have mask : bleResolveAddrMask.toNat = 2 ^ 7 ||| 2 ^ 6 := by decide
  -- bit 7 of the octet is clear and bit 6 is set
  have bit7 : (y.toNat + 64).testBit 7 = false := Nat.testBit_lt_two_pow (by omega)
  have bit6 : (y.toNat + 64).testBit 6 = true := by
    rw [Nat.add_comm, show (64 : Nat) = 2 ^ 6 from rfl, Nat.testBit_two_pow_add_eq,
      Nat.testBit_lt_two_pow small]
    rfl
  rw [UInt8.toNat_and, toNat_setTop small, mask, Nat.and_or_distrib_left, Nat.and_two_pow,
    Nat.and_two_pow, bit7, bit6]
  rfl

end TopOctet

/-- The octet drawn again is neither zero nor `0xFF`. -/
theorem redraw_bounds (redraw : UInt32) :
    1 ≤ (redraw % 0xFE + 1).toUInt8.toNat ∧ (redraw % 0xFE + 1).toUInt8.toNat ≤ 0xFE := by
  have small : (redraw % 0xFE).toNat < 0xFE := by
    rw [UInt32.toNat_mod]
    exact Nat.mod_lt _ (by decide)
  have sum : (redraw % 0xFE + 1).toNat = (redraw % 0xFE).toNat + 1 := by
    rw [UInt32.toNat_add, UInt32.toNat_one, Nat.mod_eq_of_lt (by omega)]
  rw [UInt32.toNat_toUInt8, sum]
  omega

/-- The `prand` that `generate_rpa` draws: the first octet drawn again where the random bits
are all zero or all one, the second as drawn, and the third masked with `01` on top. -/
theorem generatePrand_eq (random : Vector UInt8 3) (redraw : UInt32) :
    let masked := random[2] &&& ~~~bleAddrMask
    generatePrand random redraw =
      #v[if (random[0] = 0x00 ∧ random[1] = 0x00 ∧ masked = 0x00) ∨
            (random[0] = 0xFF ∧ random[1] = 0xFF ∧ masked = 0x3F) then
          (redraw % 0xFE + 1).toUInt8
        else random[0],
        random[1], masked ||| bleResolveAddrMsb] := by
  intro masked
  simp only [generatePrand]
  -- the source tests the octets after masking: read the test back on the drawn octets
  split_ifs with redrawn
  · simp only [Vector.getElem_set_self, Vector.getElem_set_ne, ne_eq, OfNat.ofNat_ne_zero,
      not_false_eq_true, Nat.reduceEqDiff] at redrawn
    rw [if_pos redrawn]
    apply Vector.ext
    intro i hi
    interval_cases i <;> simp [masked]
  · simp only [Vector.getElem_set_self, Vector.getElem_set_ne, ne_eq, OfNat.ofNat_ne_zero,
      not_false_eq_true, Nat.reduceEqDiff] at redrawn
    rw [if_neg redrawn]
    apply Vector.ext
    intro i hi
    interval_cases i <;> simp [masked]

section Generated

variable (aesEncrypt : Octet16 → Octet16 → Octet16) (rotationIrk : Octet16)
  (random : Vector UInt8 3) (redraw : UInt32)

/-- The first octet of `prand`, drawn again where the random bits are all zero or all one. -/
theorem generatePrand_zero :
    (generatePrand random redraw)[0] =
      if (random[0] = 0x00 ∧ random[1] = 0x00 ∧ random[2] &&& ~~~bleAddrMask = 0x00) ∨
          (random[0] = 0xFF ∧ random[1] = 0xFF ∧ random[2] &&& ~~~bleAddrMask = 0x3F) then
        (redraw % 0xFE + 1).toUInt8
      else random[0] := by
  rw [generatePrand_eq]
  rfl

/-- The top octet of a generated address is the masked octet with `01` on top. -/
theorem generateRpa_top :
    (generateRpa aesEncrypt rotationIrk random redraw).address[5] =
      random[2] &&& ~~~bleAddrMask ||| bleResolveAddrMsb := by
  show (generatePrand random redraw)[2] = _
  rw [generatePrand_eq]
  rfl

theorem generateRpa_top_shiftRight :
    (generateRpa aesEncrypt rotationIrk random redraw).address[5] >>> 6 = 1 := by
  rw [generateRpa_top]
  apply setTop_shiftRight
  rw [toNat_masked]
  omega

theorem btmBleIsResolveBda_generateRpa :
    btmBleIsResolveBda (toRawAddress (generateRpa aesEncrypt rotationIrk random redraw)) =
      true := by
  show (generateRpa aesEncrypt rotationIrk random redraw).address[5] &&& bleResolveAddrMask ==
    bleResolveAddrMsb
  rw [generateRpa_top, setTop_and]
  · exact beq_self_eq_true _
  · rw [toNat_masked]
    omega

/-- The random part of a generated address, from the octets drawn. -/
theorem randomPart_generateRpa :
    (generateRpa aesEncrypt rotationIrk random redraw).randomPart =
      random[2].toNat % 64 * 2 ^ 16 + random[1].toNat * 2 ^ 8 +
        (generatePrand random redraw)[0].toNat := by
  have small : (random[2] &&& ~~~bleAddrMask).toNat < 64 := by
    rw [toNat_masked]
    omega
  have top := generateRpa_top aesEncrypt rotationIrk random redraw
  have middle : (generateRpa aesEncrypt rotationIrk random redraw).address[4] = random[1] := by
    show (generatePrand random redraw)[1] = _
    rw [generatePrand_eq]
    rfl
  rw [Address.randomPart, top, middle, toNat_setTop small, toNat_masked, Nat.add_mod_right,
    Nat.mod_mod]
  rfl

/-- The 22 random bits of a generated address are neither all zero nor all one. -/
theorem randomPart_generateRpa_bounds :
    0 < (generateRpa aesEncrypt rotationIrk random redraw).randomPart ∧
      (generateRpa aesEncrypt rotationIrk random redraw).randomPart < 2 ^ 22 - 1 := by
  rw [randomPart_generateRpa, generatePrand_zero]
  have b0 := random[0].toNat_lt
  have b1 := random[1].toNat_lt
  have b2 := random[2].toNat_lt
  have masked := toNat_masked random[2]
  split
  next redrawn =>
    -- the first octet is drawn again, inside [1, 0xFE]
    have := redraw_bounds redraw
    omega
  next kept =>
    -- neither all zero nor all one: read the test on the values of the octets
    simp only [← UInt8.toNat_inj, masked, UInt8.toNat_zero, UInt8.reduceToNat, not_or,
      not_and] at kept
    omega

/-- A generated address resolves under the IRK it was generated with: the resolver encrypts
the block the generator encrypted and finds its hash in the other half. -/
theorem rpaMatchesIrk_generateRpa :
    rpaMatchesIrk aesEncrypt (toRawAddress (generateRpa aesEncrypt rotationIrk random redraw))
      rotationIrk = true := by
  unfold rpaMatchesIrk
  rw [beq_iff_eq, take_three_toList, take_three_toList]
  simp [toRawAddress, generateRpa]

end Generated

/-- What the address manager generates the legacy stack resolves: a generated address has
`01` on top, random bits neither all zero nor all one, is recognised as resolvable and matches
its own IRK; and the resolver computes the Core Specification's `ah`. -/
theorem generateRpa_resolves (aesEncrypt : Octet16 → Octet16 → Octet16) :
    (∀ (rotationIrk : Octet16) (random : Vector UInt8 3) (redraw : UInt32),
      let a := generateRpa aesEncrypt rotationIrk random redraw
      a.address[5] >>> 6 = 1 ∧ 0 < a.randomPart ∧ a.randomPart < 2 ^ 22 - 1 ∧
        btmBleIsResolveBda (toRawAddress a) = true ∧
        rpaMatchesIrk aesEncrypt (toRawAddress a) rotationIrk = true) ∧
    ∀ (r : RawAddress) (irk : Octet16),
      rpaMatchesIrk aesEncrypt r irk = true ↔ coreAh aesEncrypt irk.reverse r.prand = r.hash := by
  constructor
  · intro rotationIrk random redraw
    obtain ⟨pos, below⟩ := randomPart_generateRpa_bounds aesEncrypt rotationIrk random redraw
    exact ⟨generateRpa_top_shiftRight aesEncrypt rotationIrk random redraw, pos, below,
      btmBleIsResolveBda_generateRpa aesEncrypt rotationIrk random redraw,
      rpaMatchesIrk_generateRpa aesEncrypt rotationIrk random redraw⟩
  · exact rpaMatchesIrk_iff aesEncrypt

end Rpa
